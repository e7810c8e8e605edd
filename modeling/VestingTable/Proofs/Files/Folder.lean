import Mathlib.Tactic.Common
import VestingTable.Files.Folder

/-!
# Files that are written

A file is put where a path leads to, unless that is a directory. As every place on
the way there is one, the path leads to the file behind it (`Folder.bytes?_put`).
-/

namespace VestingTable.Folder

variable {f : Folder} {p : Path} {place q r : Place}

/-- The other places keep what they have. -/
theorem lookup_filter_ne (nodes : List (Place × Node)) (h : q ≠ place) :
    (nodes.filter fun entry => entry.1 ≠ place).lookup q = nodes.lookup q := by
  induction nodes with
  | nil => rfl
  | cons entry nodes ih =>
    obtain ⟨r, n⟩ := entry
    by_cases hr : r = place
    · rw [List.filter_cons_of_neg (by simpa using hr), ih, List.lookup_cons,
        beq_false_of_ne (hr ▸ h)]
    · rw [List.filter_cons_of_pos (by simpa using hr), List.lookup_cons, List.lookup_cons, ih]

theorem node?_put (f : Folder) (place q : Place) (n : Node) :
    (f.put place n).node? q =
      if q.names = [] then some .directory else if q = place then some n else f.node? q := by
  unfold node? put
  by_cases hnames : q.names = []
  · rw [if_pos hnames, if_pos hnames]
  rw [if_neg hnames, if_neg hnames, if_neg hnames]
  by_cases hq : q = place
  · rw [if_pos hq, hq]
    simp
  · rw [if_neg hq, List.lookup_cons, beq_false_of_ne hq]
    exact lookup_filter_ne f.nodes hq

/-- What is at a place is a directory, or the path went no further. -/
theorem node?_of_follow {name : String} (h : f.follow q name = .ok r) :
    f.node? q = some .directory := by
  unfold follow at h
  split at h
  · contradiction
  · contradiction
  · assumption

/-- A step on the way does not go through a place that is no directory. -/
theorem follow_put {name : String} (n : Node) (hplace : f.node? place ≠ some .directory)
    (h : f.follow q name = .ok r) : (f.put place n).follow q name = .ok r := by
  have directory := node?_of_follow h
  have same : (f.put place n).node? q = f.node? q := by
    have other : q ≠ place := fun hq => hplace (hq ▸ directory)
    rw [node?_put, if_neg other]
    split
    · exact directory.symm
    · rfl
  rwa [follow, same]

theorem foldlM_follow_put {names : List String} (n : Node)
    (hplace : f.node? place ≠ some .directory) (h : names.foldlM f.follow q = .ok r) :
    names.foldlM (f.put place n).follow q = .ok r := by
  induction names generalizing q with
  | nil => exact h
  | cons name names ih =>
    rw [List.foldlM_cons] at h ⊢
    cases hq : f.follow q name with
    | error fault =>
      rw [hq] at h
      contradiction
    | ok q' =>
      rw [hq] at h
      rw [follow_put n hplace hq]
      exact ih h

/-- A path leads to the same place when something is put where no directory is. -/
theorem locate_put (n : Node) (hplace : f.node? place ≠ some .directory)
    (h : f.locate p = .ok q) : (f.put place n).locate p = .ok q := by
  unfold locate at h ⊢
  split at h
  · contradiction
  · rw [if_neg ‹_›]
    exact foldlM_follow_put n hplace h

theorem writable?_eq_some (h : f.writable? p = some place) :
    f.locate p = .ok place ∧ f.node? place ≠ some .directory := by
  unfold writable? at h
  split at h
  · next hlocate =>
    split at h
    · contradiction
    · next hnode =>
      split at h
      · contradiction
      · obtain rfl := Option.some.inj h
        exact ⟨hlocate, hnode⟩
  · contradiction

/-- What was written to a path is found there. -/
theorem bytes?_put (hnull : hasNull p = false) (h : f.writable? p = some place) (b : ByteArray) :
    (f.put place (.file (.bytes b))).bytes? p = some b := by
  obtain ⟨hlocate, hnode⟩ := writable?_eq_some h
  have named : place.names ≠ [] := fun hnames => hnode (if_pos hnames)
  have found : (f.put place (.file (.bytes b))).find p = .ok (.file (.bytes b)) := by
    have node : (f.put place (.file (.bytes b))).node? place = some (.file (.bytes b)) := by
      rw [node?_put, if_neg named, if_pos rfl]
    simp only [find, locate_put _ hnode hlocate, bind, Except.bind, node]
  simp only [bytes?, content?, hnull, found, Bool.false_eq_true, if_false]

/-- A file can be written at a path: the directory is there or can be made, and the path does not
    lead to a directory. -/
structure CanWrite (f : Folder) (p : Path) : Prop where
  noNull : hasNull p = false
  directories : (f.makeDirectories p.parent).1 = .ok ()
  writable : ((f.makeDirectories p.parent).2.writable? p).isSome

end VestingTable.Folder
