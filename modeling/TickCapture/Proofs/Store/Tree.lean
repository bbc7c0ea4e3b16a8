import TickCapture.Proofs.Except
import TickCapture.Store.FileTree

/-! # What lies where in a file tree

Putting something at a place and taking it away is told by what lies at every place afterwards.
Where a path leads is a matter of the directories alone (`FileTree.SameDirectories`), so a file that
is put where no directory was, or taken away, changes no path. -/

namespace TickCapture
namespace FileTree

variable {t t' t'' : FileTree} {place other : Place} {entry : FileEntry} {path target : PathText}
  {bytes : Bytes}

/-! ### Places -/

theorem entry?_nil (t : FileTree) : t.entry? [] = some .directory := rfl

theorem entry?_of_ne_nil (t : FileTree) (h : place ≠ []) :
    t.entry? place = t.entries.lookup place := if_neg h

theorem lookup_erase_of_ne (t : FileTree) (h : other ≠ place) :
    (t.erase place).entries.lookup other = t.entries.lookup other := by
  obtain ⟨entries, base⟩ := t
  induction entries with
  | nil => rfl
  | cons e entries ih =>
    obtain ⟨key, entry⟩ := e
    by_cases hkey : key = place
    · have hother : (other == key) = false := beq_eq_false_iff_ne.mpr (hkey ▸ h)
      rw [erase, List.filter_cons_of_neg (by simpa using hkey), List.lookup_cons, hother]
      exact ih
    · rw [erase, List.filter_cons_of_pos (by simpa using hkey), List.lookup_cons, List.lookup_cons]
      split
      · rfl
      · exact ih

theorem lookup_erase_self (t : FileTree) (place : Place) :
    (t.erase place).entries.lookup place = none := by
  refine List.lookup_eq_none_iff.mpr fun e he => ?_
  have hne : e.1 ≠ place := by simpa using (List.mem_filter.mp he).2
  exact bne_iff_ne.mpr hne.symm

theorem entry?_erase (t : FileTree) (hplace : place ≠ []) (other : Place) :
    entry? (t.erase place) other = if other = place then none else t.entry? other := by
  split
  · next heq =>
    rw [heq, entry?_of_ne_nil _ hplace]
    exact t.lookup_erase_self place
  · next hne =>
    by_cases hroot : other = []
    · rw [hroot]
      rfl
    · rw [entry?_of_ne_nil _ hroot, entry?_of_ne_nil _ hroot]
      exact t.lookup_erase_of_ne hne

theorem entry?_insert (t : FileTree) (hplace : place ≠ []) (entry : FileEntry) (other : Place) :
    entry? (t.insert place entry) other = if other = place then some entry else t.entry? other := by
  by_cases hroot : other = []
  · rw [hroot, if_neg hplace.symm]
    rfl
  · rw [entry?_of_ne_nil _ hroot, entry?_of_ne_nil _ hroot, insert, List.lookup_cons]
    split
    · next heq => rw [if_pos (beq_iff_eq.mp heq)]
    · next hne =>
      have hne : other ≠ place := beq_eq_false_iff_ne.mp hne
      rw [if_neg hne]
      exact t.lookup_erase_of_ne hne

theorem erase_insert (t : FileTree) (place : Place) (entry : FileEntry) :
    (t.insert place entry).erase place = t.erase place := by
  rw [erase, insert, List.filter_cons_of_neg (by simp), erase, List.filter_filter]
  simp only [Bool.and_self]

/-- What is put at a place lies there in exchange for what was put there before. -/
theorem insert_insert (t : FileTree) (place : Place) (entry entry' : FileEntry) :
    (t.insert place entry).insert place entry' = t.insert place entry' := by
  rw [insert, erase_insert]
  rfl

/-- The root is a directory, so anything else lies elsewhere. -/
theorem ne_nil_of_not_directory (h : t.entry? place ≠ some .directory) : place ≠ [] := by
  rintro rfl
  exact h t.entry?_nil

/-! ### Directories and paths -/

/-- Paths start at the same place, and the same places are directories. -/
structure SameDirectories (t t' : FileTree) : Prop where
  base_eq : t'.base = t.base
  entry_iff : ∀ place, t.entry? place = some .directory ↔ FileTree.entry? t' place = some .directory

namespace SameDirectories

theorem refl (t : FileTree) : SameDirectories t t := ⟨rfl, fun _ => Iff.rfl⟩

theorem symm (H : SameDirectories t t') : SameDirectories t' t :=
  ⟨H.base_eq.symm, fun place => (H.entry_iff place).symm⟩

theorem trans (H : SameDirectories t t') (H' : SameDirectories t' t'') : SameDirectories t t'' :=
  ⟨H'.base_eq.trans H.base_eq, fun place => (H.entry_iff place).trans (H'.entry_iff place)⟩

/-- A file is put where no directory is. -/
theorem insert (h : t.entry? place ≠ some .directory) (bytes : Bytes) :
    SameDirectories t (t.insert place (.file bytes)) := by
  refine ⟨rfl, fun other => ?_⟩
  rw [entry?_insert t (ne_nil_of_not_directory h)]
  split
  · next heq =>
    rw [heq]
    exact iff_of_false h nofun
  · exact Iff.rfl

/-- What is taken away is no directory. -/
theorem erase (h : t.entry? place ≠ some .directory) : SameDirectories t (t.erase place) := by
  refine ⟨rfl, fun other => ?_⟩
  rw [entry?_erase t (ne_nil_of_not_directory h)]
  split
  · next heq =>
    rw [heq]
    exact iff_of_false h nofun
  · exact Iff.rfl

end SameDirectories

/-- A text that names a path. -/
structure Followable (path : PathText) : Prop where
  noNul : path.contains '\x00' = false
  ne_nil : path ≠ []
  fits : byteCount path ≤ pathLimit

theorem follow_eq_ok_iff :
    t.follow path = .ok place ↔
      Followable path ∧ path.segments.foldlM t.enter (t.start path) = .ok place := by
  constructor
  · intro h
    unfold follow at h
    split at h
    · cases h
    · next hnul =>
      split at h
      · cases h
      · next hne =>
        split at h
        · cases h
        · next hfits => exact ⟨⟨Bool.eq_false_iff.mpr hnul, hne, Nat.le_of_not_lt hfits⟩, h⟩
  · rintro ⟨H, h⟩
    rw [follow, if_neg (Bool.eq_false_iff.mp H.noNul), if_neg H.ne_nil,
      if_neg (Nat.not_lt_of_le H.fits), h]

/-- A path goes on from directories only. -/
theorem directory_of_enter {here : Place} {segment : List Char}
    (h : t.enter here segment = .ok place) : t.entry? here = some .directory := by
  unfold enter at h
  split at h
  · cases h
  · cases h
  · next hdirectory => exact hdirectory

/-- A name that stands for itself leads one place further. -/
theorem enter_eq_ok_iff {here : Place} {name : List Char} (hmeans : PathText.means name = true)
    (hdown : name ≠ ['.', '.']) :
    t.enter here name = .ok place ↔
      t.entry? here = some .directory ∧ byteCount name ≤ nameLimit ∧ place = here ++ [name] := by
  have hstays : ¬(name = [] ∨ name = ['.']) := by simpa [PathText.means] using hmeans
  constructor
  · intro h
    have hdirectory := directory_of_enter h
    simp only [enter, hdirectory, if_neg hstays, if_neg hdown] at h
    split at h
    · cases h
    · next hfits =>
      cases h
      exact ⟨hdirectory, Nat.le_of_not_lt hfits, rfl⟩
  · rintro ⟨hdirectory, hfits, rfl⟩
    simp only [enter, hdirectory, if_neg hstays, if_neg hdown, if_neg (Nat.not_lt_of_le hfits)]

namespace SameDirectories

theorem enter (H : SameDirectories t t') {here : Place} {segment : List Char}
    (h : t.enter here segment = .ok place) : t'.enter here segment = .ok place := by
  have hdirectory := directory_of_enter h
  have hdirectory' := (H.entry_iff here).mp hdirectory
  rw [← h]
  simp only [FileTree.enter, hdirectory, hdirectory']

theorem foldlM_enter (H : SameDirectories t t') {segments : List (List Char)} {here : Place}
    (h : segments.foldlM t.enter here = .ok place) : segments.foldlM t'.enter here = .ok place := by
  induction segments generalizing here with
  | nil => exact h
  | cons segment segments ih =>
    rw [List.foldlM_cons] at h
    obtain ⟨next, hnext, hrest⟩ := bind_eq_ok h
    rw [List.foldlM_cons, H.enter hnext]
    exact ih hrest

theorem follow (H : SameDirectories t t') (h : t.follow path = .ok place) :
    t'.follow path = .ok place := by
  obtain ⟨hpath, hplace⟩ := follow_eq_ok_iff.mp h
  have hstart : FileTree.start t' path = t.start path := by
    rw [FileTree.start, H.base_eq, FileTree.start]
  exact follow_eq_ok_iff.mpr ⟨hpath, hstart ▸ H.foldlM_enter hplace⟩

theorem follow_iff (H : SameDirectories t t') :
    t.follow path = .ok place ↔ t'.follow path = .ok place :=
  ⟨H.follow, H.symm.follow⟩

end SameDirectories

/-! ### Files -/

theorem create_eq_ok_iff :
    t.create path = .ok (t', place) ↔
      t.follow path = .ok place ∧ t.entry? place ≠ some .directory ∧
        t' = t.insert place (.file #[]) := by
  constructor
  · intro h
    obtain ⟨found, hfollow, h⟩ := bind_eq_ok h
    split at h
    · cases h
    · next hother =>
      cases h
      exact ⟨hfollow, hother, rfl⟩
  · rintro ⟨hfollow, hother, rfl⟩
    simp only [create, hfollow, bind, Except.bind]

/-- A file is moved wherever no directory is, and takes the place of what was there. -/
theorem rename_file {targetPlace : Place} (hpath : t.follow path = .ok place)
    (htarget : t.follow target = .ok targetPlace) (hfile : t.entry? place = some (.file bytes)) :
    t.rename path target =
      if t.entry? targetPlace = some .directory then .error (.system .isADirectory)
      else .ok ((t.erase place).insert targetPlace (.file bytes)) := by
  simp only [rename, hpath, htarget, hfile, bind, Except.bind]
  cases hentry : t.entry? targetPlace with
  | none => rfl
  | some entry => cases entry <;> rfl

theorem read_eq_ok_iff :
    t.read path = .ok bytes ↔
      ∃ place, t.follow path = .ok place ∧ t.entry? place = some (.file bytes) := by
  constructor
  · intro h
    obtain ⟨place, hfollow, h⟩ := bind_eq_ok h
    split at h
    · cases h
    · cases h
    · next hentry =>
      cases h
      exact ⟨place, hfollow, hentry⟩
  · rintro ⟨place, hfollow, hentry⟩
    simp only [read, hfollow, hentry, bind, Except.bind]

end FileTree
end TickCapture
