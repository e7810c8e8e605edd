import VestingTable.Conversion
import VestingTable.Proofs.Assembly.Counting
import VestingTable.Proofs.Files.Folder
import VestingTable.Proofs.Schedule.RoundTrip
import VestingTable.Proofs.Session

/-!
# Schedules that are kept

A schedule is kept in a file, from which it can be loaded again if its numbers can be
written (`Converter.keep_eq_ok`). They can if those of its table can
(`Builder.isWritable_of_run`).
-/

namespace VestingTable

open Entry

/-! ## The numbers of a schedule -/

/-- The numbers of an account are integers of its row. -/
theorem Record.mem_integers_of_entryAt {r : Record} {row headerRow : Int} {a : Account}
    (h : r.entryAt row headerRow = .account a) :
    (∀ n ∈ a.amounts, (n : Int) ∈ r.integers) ∧ ∀ n ∈ a.times, n ∈ r.integers := by
  rcases r.entryAt_cases row headerRow with
    ⟨-, he⟩ | ⟨-, ⟨name, subtotal, -, -, he⟩ | ⟨name, amount, hname, hamount, he⟩ | he⟩
  all_goals rw [he] at h
  · cases h
  · cases h
  · obtain rfl := Entry.account.inj h
    simp only [Account.amounts, Account.times, account, List.forall_mem_append,
      List.cons_append, List.forall_mem_cons]
    refine ⟨⟨?_, ⟨?_, ?_⟩, ?_⟩, ⟨?_, ?_⟩, ?_⟩
    · exact mem_integers_iff.2 ⟨.amount, _, hamount, List.mem_singleton_self _⟩
    · exact fun n hn =>
        mem_integers_iff.2 ⟨.cliff, _, Option.mem_toList.1 hn, List.mem_singleton_self _⟩
    · exact fun n hn =>
        mem_integers_iff.2 ⟨.portionSize, _, Option.mem_toList.1 hn, List.mem_singleton_self _⟩
    · exact fun n hn =>
        mem_integers_iff.2 ⟨.remainder, _, Option.mem_toList.1 hn, List.mem_singleton_self _⟩
    · exact fun n hn =>
        mem_integers_iff.2 ⟨.startAt, _, Option.mem_toList.1 hn, List.mem_singleton_self _⟩
    · exact fun n hn =>
        mem_integers_iff.2 ⟨.interval, _, Option.mem_toList.1 hn, List.mem_singleton_self _⟩
    · exact fun n hn =>
        mem_integers_iff.2 ⟨.duration, _, Option.mem_toList.1 hn, List.mem_singleton_self _⟩
  · cases h

theorem Schedule.isWritable_of_total {s : Schedule} (htotal : Numeral.Fits s.total)
    (hallocated : s.allocated ≤ s.total)
    (haccounts : ∀ p ∈ s.pools, ∀ a ∈ p.accounts, ∀ n ∈ a.amounts, Numeral.Fits (n : Nat)) :
    s.IsWritable := by
  intro n hn
  rcases List.mem_cons.1 hn with rfl | hn
  · exact htotal
  obtain ⟨p, hp, hn⟩ := List.mem_flatMap.1 hn
  rcases List.mem_cons.1 hn with rfl | hn
  · have within : p.total ≤ s.total :=
      (le_addUp_of_mem (List.mem_map_of_mem hp)).trans hallocated
    exact Numeral.fits_natCast_of_le within htotal
  · obtain ⟨a, ha, hn⟩ := List.mem_flatMap.1 hn
    exact haccounts p hp a ha n hn

/-- A schedule that a table gives can be written if the integers of its rows can. -/
theorem Builder.isWritable_of_run {b : Builder} {headerRow : Int} {checkFinalPool : Bool}
    {g : Record} {rows : List (Int × Record)} {s : Schedule}
    (once : ∀ row ∈ rows, row.1 ≠ headerRow)
    (hrun : feedAll { headerRow, checkFinalPool } (asRead ((headerRow, g) :: rows)) = .ok b)
    (hfinish : b.finish = .ok s)
    (fits : ∀ row ∈ (headerRow, g) :: rows, ∀ n ∈ row.2.integers, Numeral.Fits n) :
    s.IsWritable ∧ ∀ n ∈ s.times, Numeral.Fits n := by
  obtain ⟨htotal, -, hallocated, haccounts, -⟩ := run_of_total once hrun hfinish
  have total : Numeral.Fits s.total := by
    refine fits _ List.mem_cons_self _ (List.mem_flatMap.2 ⟨.total, Field.mem_all _, ?_⟩)
    simp [htotal]
  -- Every account is that of a row.
  have account {p : Pool} (hp : p ∈ s.pools) {a : Account} (ha : a ∈ p.accounts) :
      (∀ n ∈ a.amounts, Numeral.Fits (n : Nat)) ∧ ∀ n ∈ a.times, Numeral.Fits n := by
    have hmem : a ∈ s.pools.flatMap Pool.accounts := List.mem_flatMap.2 ⟨p, hp, ha⟩
    rw [haccounts] at hmem
    obtain ⟨e, he, hea⟩ := List.mem_filterMap.1 hmem
    obtain ⟨row, hrow, rfl⟩ := List.mem_map.1 he
    have entry : row.2.entryAt row.1 headerRow = .account a := by
      cases h : row.2.entryAt row.1 headerRow <;> simp_all [account?]
    obtain ⟨hamounts, htimes⟩ := Record.mem_integers_of_entryAt entry
    have rowFits := fits row (List.mem_cons_of_mem _ hrow)
    exact ⟨fun n hn => rowFits n (hamounts n hn), fun n hn => rowFits n (htimes n hn)⟩
  refine ⟨Schedule.isWritable_of_total total hallocated fun p hp a ha => (account hp ha).1, ?_⟩
  intro n hn
  obtain ⟨p, hp, hn⟩ := List.mem_flatMap.1 hn
  obtain ⟨a, ha, hn⟩ := List.mem_flatMap.1 hn
  exact (account hp ha).2 n hn

/-- The text of a file is read back as the schedule. -/
theorem Schedule.exists_fileText {s : Schedule} (hamounts : s.IsWritable)
    (htimes : ∀ n ∈ s.times, Numeral.Fits n) :
    ∃ text, s.fileText = .ok text ∧ load text = .ok s := by
  refine ⟨s.toJson.render (some 2) ++ "\n", ?_, ?_⟩
  · rw [fileText, serialize_eq_ok hamounts (by decide)]
    rfl
  · refine load_render hamounts htimes _ "\n" fun c hc => ?_
    rw [List.mem_singleton.1 hc]
    rfl

/-! ## Files -/

namespace Folder

variable {f made : Folder} {path : Path} {file : String} {text : Except Failure String}

/-- What is exported is found where it was. -/
theorem export?_eq_ok (h : export? path file text f = (.ok (), made)) :
    ∃ t, text = .ok t ∧ made.bytes? path = some t.toUTF8 := by
  unfold export? at h
  split at h
  · simp at h
  · simp at h
  · split at h
    · simp at h
    · next t =>
      split at h
      · simp at h
      · next hnull =>
        split at h
        · simp at h
        · next place hplace =>
          obtain ⟨-, rfl⟩ := Prod.mk.inj h
          exact ⟨t, rfl, bytes?_put (by simpa using hnull) hplace _⟩

theorem export?_of_canWrite (h : f.CanWrite path) (t : String) :
    (export? path file (.ok t) f).1 = .ok () := by
  obtain ⟨hnull, hmade, hwritable⟩ := h
  unfold export?
  generalize f.makeDirectories path.parent = result at hmade hwritable
  obtain ⟨outcome, made⟩ := result
  obtain rfl : outcome = .ok () := hmade
  obtain ⟨place, hplace⟩ := Option.isSome_iff_exists.1 hwritable
  simp only at hplace
  simp only [hnull, hplace, Bool.false_eq_true, if_false]

end Folder

/-- The file of a conversion: the one that is given, or a new one. -/
def Settings.target (settings : Settings) (table : String) (output : Option String)
    (time : String) : Action String :=
  match output with
  | some file => pure file
  | none => newFile (Path.ofText table).name settings.outputPath time

/-- A schedule can be kept: the directories are there or can be made, and the path of the file
    leads to no directory. -/
def Settings.CanKeep (settings : Settings) (table : String) (output : Option String)
    (time : String) (files : Folder) : Prop :=
  ∃ file made, (settings.target table output time).run { files } = (.ok file, made) ∧
    made.files.CanWrite (Path.ofText file)

/-- The log does not matter to where the file is. -/
theorem Settings.run_target (settings : Settings) (table : String) (output : Option String)
    (time : String) (s : Session) :
    (settings.target table output time).run s =
      let alone := (settings.target table output time).run { files := s.files }
      (alone.1, { s with files := alone.2.files }) := by
  cases output with
  | some file => rfl
  | none =>
    simp only [target, newFile, Action.run_bind, Action.run_change]
    cases (s.files.makeDirectories (Path.ofText settings.outputPath)).1 <;> rfl

namespace Converter

theorem keep_eq_bind (c : Converter) (table : String) (output : Option String) (time : String)
    (s : Schedule) :
    c.keep table output time s = c.settings.target table output time >>= fun file =>
      s.writeTo file >>= fun _ => pure { file, statistics := c.statistics s } := by
  cases output <;> rfl

variable {c : Converter} {table : String} {output : Option String} {time : String}
  {schedule : Schedule} {outcome : Outcome} {s s' : Session}

theorem run_writeTo_eq_ok {file : String} (h : (schedule.writeTo file).run s = (.ok (), s')) :
    ∃ text, schedule.fileText = .ok text ∧
      s'.files.bytes? (Path.ofText file) = some text.toUTF8 := by
  unfold Schedule.writeTo at h
  obtain ⟨_, t, -, h⟩ := Action.run_bind_eq_ok h
  obtain ⟨_, t', hchange, h⟩ := Action.run_bind_eq_ok h
  rw [Action.run_change] at hchange
  obtain ⟨hok, rfl⟩ := Prod.mk.inj hchange
  obtain ⟨-, rfl⟩ := Prod.mk.inj h
  exact Folder.export?_eq_ok (Prod.ext hok rfl)

/-- A schedule that is kept is found in its file, and so are its statistics. -/
theorem keep_eq_ok (h : (c.keep table output time schedule).run s = (.ok outcome, s')) :
    outcome.statistics = c.statistics schedule ∧ (∀ file ∈ output, outcome.file = file) ∧
      ∃ text, schedule.fileText = .ok text ∧
        s'.files.bytes? (Path.ofText outcome.file) = some text.toUTF8 := by
  rw [keep_eq_bind] at h
  obtain ⟨file, t, htarget, h⟩ := Action.run_bind_eq_ok h
  obtain ⟨_, t', hwrite, h⟩ := Action.run_bind_eq_ok h
  obtain ⟨houtcome, rfl⟩ := Prod.mk.inj h
  obtain rfl := Except.ok.inj houtcome
  refine ⟨rfl, ?_, run_writeTo_eq_ok hwrite⟩
  rintro given hgiven
  obtain rfl := Option.mem_def.1 hgiven
  exact (Except.ok.inj (Prod.mk.inj htarget).1).symm

theorem exists_writeTo_of_canWrite {file text : String} (h : s.files.CanWrite (Path.ofText file))
    (htext : schedule.fileText = .ok text) : ∃ t, (schedule.writeTo file).run s = (.ok (), t) := by
  have exported := @Folder.export?_of_canWrite _ _ file h text
  simp only [Schedule.writeTo, Action.run_bind, Action.run_report, Action.run_change, htext,
    exported]
  exact ⟨_, rfl⟩

/-- A schedule that can be written and kept is kept. -/
theorem exists_keep_of_canKeep {text : String} (h : c.settings.CanKeep table output time s.files)
    (htext : schedule.fileText = .ok text) :
    ∃ outcome s', (c.keep table output time schedule).run s = (.ok outcome, s') := by
  obtain ⟨file, made, htarget, hwrite⟩ := h
  have target := c.settings.run_target table output time s
  rw [htarget] at target
  obtain ⟨t, hwritten⟩ :=
    @exists_writeTo_of_canWrite schedule { s with files := made.files } file text hwrite htext
  rw [keep_eq_bind, Action.run_bind, target]
  simp only [Action.run_bind, hwritten]
  exact ⟨_, _, rfl⟩

end Converter

end VestingTable
