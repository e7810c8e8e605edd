import VestingTable.Proofs.Conversion.Building

/-!
# Conversions from end to end

A conversion reads a table, builds its schedule and keeps it in a file. The steps up to
the schedule only report, so a conversion that fails there leaves the files and the
converter as they were (`Converter.convert_of_error`). The converter is used again and
again, but a conversion reads nothing of it but its settings, which no call changes
(`Converter.Reached.settings_eq`).

* `Converter.convert_sound`: what a conversion does after any calls.
-/

namespace VestingTable

/-! ## Histories -/

namespace Converter

/-- The converter comes from settings by calls that may have failed, each in any session. -/
inductive Reached (settings : Settings) : Converter → Prop
  | start : Reached settings { settings }
  | built {c c' : Converter} {file : String} {title : Option String} {schedule : Schedule}
      {s s' : Session} (h : Reached settings c)
      (run : (c.build file title).run s = (.ok (schedule, c'), s')) : Reached settings c'
  | converted {c : Converter} (h : Reached settings c) (table : String) (output : Option String)
      (time : String) (s : Session) : Reached settings (c.convert table output time s).2.1

/-! ## Converting -/

variable {c : Converter} {table : String} {output : Option String} {time : String} {s : Session}

/-- A conversion reports that it starts, and builds. -/
theorem exists_run_build (c : Converter) (table : String) (s : Session) :
    ∃ t : Session, t.files = s.files ∧
      (Action.report logger ("Converting schedule table: " ++ table) >>= fun _ =>
        c.build table none).run s = ((c.build table none).outcome s.files, t) := by
  have building := c.onlyReports_build table none
  have starting := Action.OnlyReports.report logger ("Converting schedule table: " ++ table)
  have run := (starting.bind fun _ => building).exists_run s
  rwa [starting.outcome_bind fun _ => building] at run

/-- A conversion of which the build fails only reports. -/
theorem convert_of_error {f : Failure} (h : (c.build table none).outcome s.files = .error f) :
    ∃ t, c.convert table output time s = (.error (failure table f), c, t) ∧ t.files = s.files := by
  obtain ⟨t, hfiles, hrun⟩ := c.exists_run_build table s
  rw [h] at hrun
  exact ⟨t, by simp only [convert, hrun], hfiles⟩

/-- A conversion of which the build succeeds goes on with the schedule and its rows. -/
theorem convert_of_ok {c' : Converter} {schedule : Schedule}
    (h : (c.build table none).outcome s.files = .ok (schedule, c')) :
    ∃ t : Session, t.files = s.files ∧ c.convert table output time s =
      (((c'.keep table output time schedule).run t).1.mapError (failure table), c',
        ((c'.keep table output time schedule).run t).2) := by
  obtain ⟨t, hfiles, hrun⟩ := c.exists_run_build table s
  rw [h] at hrun
  refine ⟨t, hfiles, ?_⟩
  simp only [convert, hrun]
  rcases (c'.keep table output time schedule).run t with ⟨_ | _, _⟩ <;> rfl

/-- A call keeps the settings, and so does a history of calls. -/
theorem settings_convert (c : Converter) (table : String) (output : Option String) (time : String)
    (s : Session) : (c.convert table output time s).2.1.settings = c.settings := by
  cases h : (c.build table none).outcome s.files with
  | error =>
    obtain ⟨t, heq, -⟩ := @convert_of_error c table output time s _ h
    rw [heq]
  | ok built =>
    obtain ⟨schedule, c'⟩ := built
    obtain ⟨t, -, heq⟩ := @convert_of_ok c table output time s _ _ h
    obtain ⟨_, _, -, -, -, rfl⟩ := outcome_build_eq_ok h
    rw [heq]

theorem Reached.settings_eq {settings : Settings} {c : Converter} (h : Reached settings c) :
    c.settings = settings := by
  induction h with
  | start => rfl
  | @built c c' file title schedule s s' _ run ih =>
    have outcome := (c.onlyReports_build file title).outcome s
    rw [run] at outcome
    obtain ⟨_, _, -, -, -, rfl⟩ := outcome_build_eq_ok outcome.symm
    exact ih
  | converted _ table output time s ih => rw [settings_convert, ih]

/-- A conversion that succeeds has built the schedule and kept it. -/
theorem convert_eq_ok {outcome : Outcome} {c' : Converter} {s' : Session}
    (h : c.convert table output time s = (.ok outcome, c', s')) :
    ∃ schedule t, (c.build table none).outcome s.files = .ok (schedule, c') ∧
      (c'.keep table output time schedule).run t = (.ok outcome, s') := by
  cases hb : (c.build table none).outcome s.files with
  | error f =>
    obtain ⟨t, heq, -⟩ := @convert_of_error c table output time s f hb
    rw [heq] at h
    exact absurd (Prod.mk.inj h).1 (by simp)
  | ok built =>
    obtain ⟨schedule, next⟩ := built
    obtain ⟨t, -, heq⟩ := @convert_of_ok c table output time s next schedule hb
    rw [heq] at h
    obtain ⟨hkeep, hrest⟩ := Prod.mk.inj h
    obtain ⟨rfl, rfl⟩ := Prod.mk.inj hrest
    refine ⟨schedule, t, rfl, Prod.ext ?_ rfl⟩
    cases hkept : ((next.keep table output time schedule).run t).1 with
    | error f =>
      rw [hkept] at hkeep
      contradiction
    | ok =>
      rw [hkept] at hkeep
      exact hkeep

/-- A conversion succeeds if the schedule can be built and kept. -/
theorem exists_convert {c' : Converter} {schedule : Schedule} {text : String}
    (h : (c.build table none).outcome s.files = .ok (schedule, c'))
    (htext : schedule.fileText = .ok text) (hkeep : c.settings.CanKeep table output time s.files) :
    ∃ outcome c' s', c.convert table output time s = (.ok outcome, c', s') := by
  obtain ⟨t, hfiles, heq⟩ := @convert_of_ok c table output time s c' schedule h
  have settings : c'.settings = c.settings := by
    obtain ⟨_, _, -, -, -, rfl⟩ := outcome_build_eq_ok h
    rfl
  rw [← hfiles, ← settings] at hkeep
  obtain ⟨outcome, s', hkept⟩ := exists_keep_of_canKeep hkeep htext
  rw [heq, hkept]
  exact ⟨outcome, c', s', rfl⟩

/-- A conversion, after any calls on the converter. If it succeeds, the file holds a text that is
    loaded as the schedule of the table, and the statistics describe this table alone. It does
    succeed if the schedule can be built and kept. If it cannot be built, the conversion fails, and
    neither the files nor the converter change. -/
theorem convert_sound {settings : Settings} (hc : Reached settings c) (table : String)
    (output : Option String) (time : String) (s : Session)
    (short : ∀ rows, settings.tableRows table s.files = .ok rows →
      ∀ row ∈ rows, ∀ c ∈ row.cells, c.IsShort) :
    (∀ outcome c' s', c.convert table output time s = (.ok outcome, c', s') →
      ∃ rows schedule text, settings.tableRows table s.files = .ok rows ∧
        settings.scheduleOf rows = .ok schedule ∧
        (∀ file ∈ output, outcome.file = file) ∧
        s'.files.bytes? (Path.ofText outcome.file) = some text.toUTF8 ∧
        Schedule.load text = .ok schedule ∧
        outcome.statistics.Describes schedule rows.length
          (Table.blankRows settings.layout rows.tail).length) ∧
    (∀ schedule, (settings.tableRows table s.files).bind settings.scheduleOf = .ok schedule →
      settings.CanKeep table output time s.files →
        ∃ outcome c' s', c.convert table output time s = (.ok outcome, c', s')) ∧
    ∀ f, (settings.tableRows table s.files).bind settings.scheduleOf = .error f →
      ∃ s', c.convert table output time s = (.error (failure table f), c, s') ∧
        s'.files = s.files := by
  obtain rfl := hc.settings_eq
  have same := c.map_outcome_build table s.files
  refine ⟨?_, ?_, ?_⟩
  · intro outcome c' s' h
    obtain ⟨schedule, t, hbuild, hkeep⟩ := convert_eq_ok h
    obtain ⟨rows, hrows, hschedule, describes, hamounts, htimes⟩ :=
      describes_of_outcome_build hbuild short
    obtain ⟨text, htext, hload⟩ := Schedule.exists_fileText hamounts htimes
    obtain ⟨hstatistics, houtput, text', htext', hbytes⟩ := keep_eq_ok hkeep
    obtain rfl : text = text' := Except.ok.inj (htext.symm.trans htext')
    exact ⟨rows, schedule, text, hrows, hschedule, houtput, hbytes, hload, hstatistics ▸ describes⟩
  · intro schedule hschedule hkeep
    rw [← same] at hschedule
    cases hbuild : (c.build table none).outcome s.files with
    | error f =>
      rw [hbuild] at hschedule
      exact absurd hschedule (by simp [Except.map])
    | ok built =>
      obtain ⟨built, c'⟩ := built
      obtain ⟨rows, -, -, -, hamounts, htimes⟩ := describes_of_outcome_build hbuild short
      obtain ⟨text, htext, -⟩ := Schedule.exists_fileText hamounts htimes
      exact exists_convert hbuild htext hkeep
  · intro f hf
    rw [← same] at hf
    cases hbuild : (c.build table none).outcome s.files with
    | error g =>
      rw [hbuild] at hf
      obtain rfl : g = f := Except.error.inj hf
      obtain ⟨t, heq, hfiles⟩ := @convert_of_error c table output time s g hbuild
      exact ⟨t, heq, hfiles⟩
    | ok built =>
      rw [hbuild] at hf
      exact absurd hf (by simp [Except.map])

end Converter

/-! ### A converter that is used again -/

/-- A sheet with a title above its table, in which there are a blank row and a row of notes. -/
def notedSheet : Sheet Cell where
  title := "Tokens"
  rows := [[.text "Tokens of the team"], [], [], [],
    [.integer 10, .empty, .integer 10],
    [.empty, .text "Team", .integer 6, .text "60 %"],
    [.empty, .empty, .empty, .integer 60, .text "Ada", .text "6"],
    [],
    [.empty, .empty, .empty, .empty, .text "see below"],
    [.empty, .text "Seed", .integer 4, .integer 40],
    [.empty, .empty, .empty, .integer 40, .text "Bob", .integer 4]]

/-- A workbook with the sheet, and one with its rows in reverse, which has no grand total. -/
def notedFiles : Folder where
  nodes := [
    (⟨.workingDirectory, ["noted.xlsx"]⟩, .file (.modern [notedSheet.toModern])),
    (⟨.workingDirectory, ["wrong.xlsx"]⟩,
      .file (.modern [{ notedSheet with rows := notedSheet.rows.reverse }.toModern]))]

/-- The settings if nothing is said. -/
def standardSettings : Settings where
  headerHeight_pos := Nat.succ_pos 4

/-- A first conversion, after which the row of notes is remembered. -/
def firstConversion : Except Failure Converter.Outcome × Converter × Session :=
  Converter.convert { settings := standardSettings } "noted.xlsx" (some "first.json") ""
    { files := notedFiles }

/-- A converter that has converted the sheet already, and has failed on the other one. -/
def reusedConverter : Converter :=
  (firstConversion.2.1.convert "wrong.xlsx" none "" firstConversion.2.2).2.1

theorem Converter.convert_sound_reused :
    Reached standardSettings reusedConverter ∧
      ∃ outcome c' s' text,
        reusedConverter.convert "noted.xlsx" (some "out/noted.json") "" { files := notedFiles } =
          (.ok outcome, c', s') ∧
        s'.files.bytes? (Path.ofText "out/noted.json") = some text.toUTF8 ∧
        Schedule.load text = .ok correctedSchedule ∧
        outcome.statistics.Describes correctedSchedule 7 1 := by
  have first := (@Reached.start standardSettings).converted "noted.xlsx" (some "first.json") ""
    { files := notedFiles }
  rw [← firstConversion] at first
  have reached := first.converted "wrong.xlsx" none "" firstConversion.2.2
  rw [← reusedConverter] at reached
  -- What the table says and where its schedule goes is evaluated.
  have built : (standardSettings.tableRows "noted.xlsx" notedFiles).bind
      standardSettings.scheduleOf = .ok correctedSchedule := by decide +kernel
  have canKeep : standardSettings.CanKeep "noted.xlsx" (some "out/noted.json") "" notedFiles :=
    ⟨_, _, rfl, by decide +kernel, by decide +kernel, by decide +kernel⟩
  have rows : (standardSettings.tableRows "noted.xlsx" notedFiles).toOption.all (fun rows =>
      (∀ row ∈ rows, ∀ c ∈ row.cells, c.IsShort) ∧ rows.length = 7 ∧
        (Table.blankRows standardSettings.layout rows.tail).length = 1) = true := by
    decide +kernel
  obtain ⟨sound, returns, -⟩ := convert_sound reached "noted.xlsx" (some "out/noted.json") ""
    { files := notedFiles } fun read hread => by
      rw [hread] at rows
      exact (of_decide_eq_true rows).1
  obtain ⟨outcome, c', s', hconvert⟩ := returns correctedSchedule built canKeep
  obtain ⟨read, schedule, text, hread, hschedule, hfile, hbytes, hload, describes⟩ :=
    sound outcome c' s' hconvert
  rw [hread] at built rows
  obtain rfl : schedule = correctedSchedule := Except.ok.inj (hschedule.symm.trans built)
  obtain ⟨-, hlength, hblank⟩ := of_decide_eq_true rows
  rw [hfile "out/noted.json" rfl] at hbytes
  rw [hlength, hblank] at describes
  exact ⟨reached, outcome, c', s', text, hconvert, hbytes, hload, describes⟩

end VestingTable
