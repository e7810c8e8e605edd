import Mathlib.Logic.Function.Basic
import VestingTable.Proofs.Layout
import VestingTable.Settings

/-!
# Layouts in the settings

All settings are checked, each of them by itself. So the layout does not depend on the others, and
they do not on it: the settings with a layout are those without, with the kept text of the layout
in place of the standard one (`Settings.ofVariables_withColumns_iff`).

* `Settings.ofVariables_columns`: which layouts are accepted, and what their columns are.
-/

namespace VestingTable

namespace Settings

variable {given : String → Option String} {s : Settings}

/-- Settings are accepted if each of them is. -/
theorem ofVariables_eq_valid_iff : ofVariables given = .valid s ↔
    setting given "APP_NAME" .valid "Vesting Schedule Builder" = .valid s.appName ∧
    setting given "LOG_LEVEL" checkLevel .info = .valid s.logLevel ∧
    setting given "HEADER_HEIGHT" checkHeaderHeight ⟨5, by decide⟩ =
      .valid ⟨s.headerHeight, s.headerHeight_pos⟩ ∧
    setting given "SHEET_NAME" .valid "" = .valid s.sheetName ∧
    setting given "SCHEDULE_COLUMNS" checkColumns Layout.standardText = .valid s.columnText ∧
    setting given "CHECK_FINAL_POOL" Json.textBool false = .valid s.checkFinalPool ∧
    setting given "OUTPUT_PATH" .valid "schedules" = .valid s.outputPath := by
  simp only [ofVariables, Validated.seq_eq_valid_iff, Validated.map_eq_valid_iff]
  constructor
  · rintro ⟨_, outputPath, ⟨_, checkFinalPool, ⟨_, columnText, ⟨_, sheetName, ⟨_, headerHeight,
      ⟨_, logLevel, ⟨appName, happ, rfl⟩, hlevel, rfl⟩, hheight, rfl⟩, hsheet, rfl⟩, hcolumns,
      rfl⟩, hcheck, rfl⟩, houtput, rfl⟩
    exact ⟨happ, hlevel, hheight, hsheet, hcolumns, hcheck, houtput⟩
  · rintro ⟨happ, hlevel, hheight, hsheet, hcolumns, hcheck, houtput⟩
    exact ⟨_, _, ⟨_, _, ⟨_, _, ⟨_, _, ⟨_, _, ⟨_, _, ⟨_, happ, rfl⟩, hlevel, rfl⟩, hheight, rfl⟩,
      hsheet, rfl⟩, hcolumns, rfl⟩, hcheck, rfl⟩, houtput, rfl⟩

/-- The variables with a text of the layout, or with none. -/
def withColumns (given : String → Option String) (text : Option String) : String → Option String :=
  Function.update given "SCHEDULE_COLUMNS" text

/-- No other setting depends on the text of the layout. -/
theorem setting_withColumns_of_ne {α : Type} {name : String} (hne : name ≠ "SCHEDULE_COLUMNS")
    (text : Option String) (check : String → Validated α) (default : α) :
    setting (withColumns given text) name check default = setting given name check default := by
  rw [setting, setting, withColumns, Function.update_of_ne hne]

theorem setting_withColumns_none : setting (withColumns given none) "SCHEDULE_COLUMNS" checkColumns
    Layout.standardText = .valid Layout.standardText := by
  rw [setting, withColumns, Function.update_self]

theorem setting_withColumns_some {text kept : String} :
    setting (withColumns given (some text)) "SCHEDULE_COLUMNS" checkColumns Layout.standardText =
      .valid kept ↔ Layout.validate text = .ok kept := by
  rw [setting, withColumns, Function.update_self]
  simp only [Validated.under_eq_valid_iff, checkColumns]
  cases Layout.validate text <;> simp [Validated.fail]

/-- The settings with a layout are those without, and the kept text in place of the standard one. -/
theorem ofVariables_withColumns_iff {text : String} :
    ofVariables (withColumns given (some text)) = .valid s ↔
      ∃ others kept, ofVariables (withColumns given none) = .valid others ∧
        Layout.validate text = .ok kept ∧ s = { others with columnText := kept } := by
  simp only [ofVariables_eq_valid_iff, setting_withColumns_none, setting_withColumns_some]
  simp (disch := decide) only [setting_withColumns_of_ne]
  constructor
  · rintro ⟨happ, hlevel, hheight, hsheet, hcolumns, hcheck, houtput⟩
    exact ⟨{ s with columnText := Layout.standardText }, s.columnText,
      ⟨happ, hlevel, hheight, hsheet, rfl, hcheck, houtput⟩, hcolumns, rfl⟩
  · rintro ⟨others, kept, ⟨happ, hlevel, hheight, hsheet, -, hcheck, houtput⟩, hcolumns, rfl⟩
    exact ⟨happ, hlevel, hheight, hsheet, hcolumns, hcheck, houtput⟩

/-- Settings with the text of a layout are accepted exactly if those without are and the text is
    valid. Then each part of the text between commas has its column, which is ignored if there is
    nothing but blanks and else has the name without them, and no field has two columns. The text
    that is kept is accepted in place of the given one, with the same settings. -/
theorem ofVariables_columns (given : String → Option String) (text : String) :
    ((∃ s, ofVariables (withColumns given (some text)) = .valid s) ↔
      (∃ s, ofVariables (withColumns given none) = .valid s) ∧ Layout.IsValid text) ∧
    ∀ s, ofVariables (withColumns given (some text)) = .valid s →
      (s.layout.names = (Layout.parts text).map fun part =>
        if Text.strip part = "" then none else some (Text.strip part)) ∧
      (s.layout.filterMap id).Nodup ∧
      ofVariables (withColumns given (some s.columnText)) = .valid s := by
  simp only [ofVariables_withColumns_iff, Layout.validate_eq_ok_iff]
  constructor
  · constructor
    · rintro ⟨_, others, _, hothers, ⟨valid, rfl⟩, rfl⟩
      exact ⟨⟨others, hothers⟩, valid⟩
    · rintro ⟨⟨others, hothers⟩, valid⟩
      exact ⟨_, others, _, hothers, ⟨valid, rfl⟩, rfl⟩
  · rintro _ ⟨others, _, hothers, ⟨valid, rfl⟩, rfl⟩
    exact ⟨Layout.names_ofText_keptText valid, Layout.nodup_ofText_keptText valid, others, _,
      hothers, ⟨valid.keptText, (Layout.keptText_keptText text).symm⟩, rfl⟩

/-- The text of a layout with blanks around its names, and with an ignored column in the middle and
    one at the end. -/
def gapsText : String :=
  " pool,\t,\u3000subtotal \u00a0,name,"

theorem ofVariables_columns_gaps :
    ∃ s, ofVariables (withColumns (fun _ => none) (some gapsText)) = .valid s ∧
      s.columnText = "pool,,subtotal,name," ∧
      s.layout.names = [some "pool", none, some "subtotal", some "name", none] ∧
      (s.layout.filterMap id).Nodup ∧
      ofVariables (withColumns (fun _ => none) (some "pool,,subtotal,name,")) = .valid s := by
  obtain ⟨accepted, sound⟩ := ofVariables_columns (fun _ => none) gapsText
  have valid : Layout.IsValid gapsText := by decide +kernel
  obtain ⟨s, hs⟩ := accepted.2 ⟨⟨_, rfl⟩, valid⟩
  obtain ⟨names, once, again⟩ := sound s hs
  have trimmed : Layout.keptText gapsText = "pool,,subtotal,name," := by decide +kernel
  have kept : s.columnText = "pool,,subtotal,name," := by
    obtain ⟨others, kept, -, hkept, rfl⟩ := ofVariables_withColumns_iff.1 hs
    exact (Layout.validate_eq_ok_iff.1 hkept).2.trans trimmed
  refine ⟨s, hs, kept, names.trans ?_, once, kept ▸ again⟩
  decide +kernel

end Settings

end VestingTable
