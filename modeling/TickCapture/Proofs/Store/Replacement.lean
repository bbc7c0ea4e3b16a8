import TickCapture.Proofs.Store.Naming

/-! # Images are stored whole or not at all

Storing an image ends in one of these ways (`DirectoryStore.Outcome`). The record is refused, or its
temporary file is not opened, and nothing has changed. Or the temporary file is left behind: a step
failed, or the file has not the size that it should have. Or it was moved: the image lies under its
own name, and nothing under the temporary one. In none of them has a directory come or gone, so all
paths lead where they led before. -/

namespace TickCapture

/-! ### Which records are refused -/

namespace ImageRecord

variable {r : ImageRecord}

/-- Bytes that the stated size needs. -/
def needed (r : ImageRecord) : Nat := r.width.toNat * r.height.toNat * 3

/-- The count of the bytes is a 64-bit word, and a size for which that is too small is a fault. -/
theorem check_of_le (h : UInt64.size ≤ r.needed) : r.check = .error (.fault .overflow) := by
  have hexpected : r.expectedBytes = .error (.fault .overflow) := if_neg (Nat.not_lt_of_le h)
  rw [check, hexpected]
  rfl

theorem check_of_lt (h : r.needed < UInt64.size) :
    r.check =
      if r.pixels.size ≠ r.needed then .error (.error (.invalidImage r.needed r.pixels.size))
      else .ok () := by
  have hexpected : r.expectedBytes = .ok r.needed := if_pos h
  rw [check, hexpected]
  rfl

theorem check_eq_fault_iff {f : Fault} :
    r.check = .error (.fault f) ↔ f = .overflow ∧ UInt64.size ≤ r.needed := by
  by_cases hfits : r.needed < UInt64.size
  · rw [check_of_lt hfits]
    split <;> simp [hfits]
  · rw [check_of_le (Nat.le_of_not_lt hfits)]
    simp [Nat.le_of_not_lt hfits, eq_comm]

theorem check_eq_ok_iff : r.check = .ok () ↔ r.needed < UInt64.size ∧ r.pixels.size = r.needed := by
  by_cases hfits : r.needed < UInt64.size
  · rw [check_of_lt hfits]
    by_cases hsize : r.pixels.size = r.needed <;> simp [hfits, hsize]
  · rw [check_of_le (Nat.le_of_not_lt hfits)]
    simp [hfits]

theorem check_ne_io (r : ImageRecord) (e : IoError) : r.check ≠ .error (.error (.io e)) := by
  by_cases hfits : r.needed < UInt64.size
  · rw [check_of_lt hfits]
    split <;> nofun
  · rw [check_of_le (Nat.le_of_not_lt hfits)]
    nofun

end ImageRecord

/-! ### What goes wrong -/

namespace DirectoryStore

theorem size_resized (bytes : Bytes) (size : Nat) : (resized bytes size).size = size := by
  simp only [resized, Bytes.zeros, Array.size_append, Array.size_extract, Array.size_replicate]
  omega

theorem resized_self (bytes : Bytes) : resized bytes bytes.size = bytes := by
  simp [resized, Bytes.zeros]

end DirectoryStore

namespace Mishaps

variable {m : Mishaps} {r : ImageRecord}

/-- What the temporary file holds when its size is looked at. -/
def found (m : Mishaps) (r : ImageRecord) : Bytes :=
  match m.resize with
  | .some size => DirectoryStore.resized r.file size
  | .none => r.file

/-- A file of the right size is the whole image: nobody has written to it. -/
theorem found_eq_file (h : (m.found r).size = r.file.size) : m.found r = r.file := by
  unfold found at h ⊢
  split
  · next size hresize =>
    rw [hresize, DirectoryStore.size_resized] at h
    rw [h, DirectoryStore.resized_self]
  · rfl

/-- Nothing goes wrong on the way of a record. -/
structure Harmless (m : Mishaps) (r : ImageRecord) : Prop where
  create : m.create = .none
  header : m.header = .none
  pixels : m.pixels = .none
  sync : m.sync = .none
  size_found : (m.found r).size = r.file.size
  measure : m.measure = .none
  rename : m.rename = .none

theorem harmless_none (r : ImageRecord) : Mishaps.none.Harmless r :=
  ⟨rfl, rfl, rfl, rfl, rfl, rfl, rfl⟩

end Mishaps

/-! ### How storing goes -/

namespace DirectoryStore

variable {s : DirectoryStore} {m : Mishaps} {r : ImageRecord} {n : Nat}

/-- A later state of the same store, in which every path leads where it led. -/
structure SamePaths (s after : DirectoryStore) : Prop where
  dir_eq : after.dir = s.dir
  stem_eq : after.stem = s.stem
  directories : FileTree.SameDirectories s.tree after.tree

/-- The two paths of an image lead to places where a file may be put. -/
structure Reaches (s : DirectoryStore) (n : Nat) (temporary final : Place) : Prop where
  follow_temporary : s.tree.follow (s.temporaryFor n) = .ok temporary
  follow_final : s.tree.follow (s.pathFor n) = .ok final
  temporary_free : s.tree.entry? temporary ≠ some .directory
  final_free : s.tree.entry? final ≠ some .directory

/-- Nothing goes wrong, and there are places for the files. -/
def Unhindered (s : DirectoryStore) (m : Mishaps) (r : ImageRecord) : Prop :=
  m.Harmless r ∧ ∃ temporary final, s.Reaches r.sequence temporary final

/-- How writing the temporary file of an image can go. -/
inductive Written (s : DirectoryStore) (m : Mishaps) (r : ImageRecord) :
    DirectoryStore × Except IoError Nat → Prop where
  | unopened (e : IoError) (hbar : ¬s.Unhindered m r) : Written s m r (s, .error e)
  | broken (temporary : Place) (bytes : Bytes) (e : IoError)
      (hfollow : s.tree.follow (s.temporaryFor r.sequence) = .ok temporary)
      (hfree : s.tree.entry? temporary ≠ some .directory) (hbar : ¬s.Unhindered m r) :
      Written s m r (s.setFile temporary bytes, .error e)
  | whole (temporary : Place) (hfollow : s.tree.follow (s.temporaryFor r.sequence) = .ok temporary)
      (hfree : s.tree.entry? temporary ≠ some .directory)
      (hclean : (m.found r).size = r.file.size → m.rename = none → m.Harmless r) :
      Written s m r (s.setFile temporary (m.found r), .ok (m.found r).size)

theorem writeTemporary_written (s : DirectoryStore) (m : Mishaps) (r : ImageRecord) :
    s.Written m r (s.writeTemporary m r) := by
  cases hcreate : m.create with
  | some e =>
    simp only [writeTemporary, hcreate]
    exact .unopened e fun ⟨H, _⟩ => nomatch hcreate.symm.trans H.create
  | none =>
    cases hopen : s.tree.create (s.temporaryFor r.sequence) with
    | error e =>
      simp only [writeTemporary, hcreate, hopen]
      refine .unopened e fun ⟨_, temporary, final, H⟩ => ?_
      have hopened := FileTree.create_eq_ok_iff.mpr ⟨H.follow_temporary, H.temporary_free, rfl⟩
      cases hopen.symm.trans hopened
    | ok opened =>
      obtain ⟨tree, place⟩ := opened
      obtain ⟨hfollow, hfree, rfl⟩ := FileTree.create_eq_ok_iff.mp hopen
      have hset (bytes : Bytes) : ({ s with tree := s.tree.insert place (.file #[]) } :
          DirectoryStore).setFile place bytes = s.setFile place bytes := by
        rw [setFile, FileTree.insert_insert]
        rfl
      simp only [writeTemporary, hcreate, hopen, hset]
      -- Each step that fails leaves the file that was opened, with some bytes.
      have hbroken (bytes : Bytes) (e : IoError) :=
        Written.broken (m := m) place bytes e hfollow hfree
      cases hheader : m.header with
      | some failure => exact hbroken _ _ fun ⟨H, _⟩ => nomatch hheader.symm.trans H.header
      | none =>
        cases hpixels : m.pixels with
        | some failure => exact hbroken _ _ fun ⟨H, _⟩ => nomatch hpixels.symm.trans H.pixels
        | none =>
          cases hsync : m.sync with
          | some e => exact hbroken _ _ fun ⟨H, _⟩ => nomatch hsync.symm.trans H.sync
          | none =>
            cases hmeasure : m.measure with
            | some e => exact hbroken _ _ fun ⟨H, _⟩ => nomatch hmeasure.symm.trans H.measure
            | none =>
              exact .whole place hfollow hfree fun hsize hrename =>
                ⟨hcreate, hheader, hpixels, hsync, hsize, hmeasure, hrename⟩

/-- How storing an image can go. -/
inductive Outcome (s : DirectoryStore) (m : Mishaps) (r : ImageRecord) :
    DirectoryStore × Except (Trouble SinkError) Nat → Prop where
  | refused (trouble : Trouble SinkError) (hcheck : r.check = .error trouble) :
      Outcome s m r (s, .error trouble)
  | unopened (e : IoError) (hcheck : r.check = .ok ()) (hbar : ¬s.Unhindered m r) :
      Outcome s m r (s, .error (.error (.io e)))
  | abandoned (temporary : Place) (bytes : Bytes) (e : SinkError) (hcheck : r.check = .ok ())
      (hfollow : s.tree.follow (s.temporaryFor r.sequence) = .ok temporary)
      (hfree : s.tree.entry? temporary ≠ some .directory) (hbar : ¬s.Unhindered m r)
      (hio : m.resize = none → ∃ cause, e = .io cause) :
      Outcome s m r (s.setFile temporary bytes, .error (.error e))
  | moved (temporary final : Place) (hcheck : r.check = .ok ()) (hharmless : m.Harmless r)
      (hreaches : s.Reaches r.sequence temporary final) :
      Outcome s m r
        ({ s with tree := (s.tree.erase temporary).insert final (.file r.file) }, .ok r.file.size)

/-- A whole temporary file is moved unless a directory is in the way. -/
theorem rename_temporary {temporary final : Place} {bytes : Bytes}
    (hfollow : s.tree.follow (s.temporaryFor n) = .ok temporary)
    (hfinal : s.tree.follow (s.pathFor n) = .ok final)
    (hfree : s.tree.entry? temporary ≠ some .directory) :
    (s.setFile temporary bytes).tree.rename ((s.setFile temporary bytes).temporaryFor n)
        ((s.setFile temporary bytes).pathFor n) =
      if s.tree.entry? final = some .directory then .error (.system .isADirectory)
      else .ok ((s.tree.erase temporary).insert final (.file bytes)) := by
  have hsame := FileTree.SameDirectories.insert hfree bytes
  have hfile : FileTree.entry? (s.tree.insert temporary (.file bytes)) temporary =
      some (.file bytes) := by
    rw [FileTree.entry?_insert _ (FileTree.ne_nil_of_not_directory hfree), if_pos rfl]
  have hmove := FileTree.rename_file (hsame.follow hfollow) (hsame.follow hfinal) hfile
  rw [FileTree.erase_insert] at hmove
  simp only [← hsame.entry_iff final] at hmove
  exact hmove

theorem storeWith_outcome (s : DirectoryStore) (m : Mishaps) (r : ImageRecord) :
    s.Outcome m r (s.storeWith m r) := by
  cases hcheck : r.check with
  | error trouble =>
    simp only [storeWith, hcheck]
    exact .refused trouble hcheck
  | ok _ =>
    have hwritten := s.writeTemporary_written m r
    simp only [storeWith, hcheck]
    generalize s.writeTemporary m r = result at hwritten ⊢
    cases hwritten with
    | unopened e hbar => exact .unopened e hcheck hbar
    | broken temporary bytes e hfollow hfree hbar =>
      exact .abandoned temporary bytes _ hcheck hfollow hfree hbar fun _ => ⟨e, rfl⟩
    | whole temporary hfollow hfree hclean =>
      have habandoned (e : SinkError) :=
        Outcome.abandoned (m := m) temporary (m.found r) e hcheck hfollow hfree
      by_cases hsize : (m.found r).size ≠ r.file.size
      · simp only [if_pos hsize]
        refine habandoned _ (fun ⟨H, _⟩ => hsize H.size_found) fun hresize => absurd ?_ hsize
        rw [Mishaps.found, hresize]
      · simp only [if_neg hsize]
        have hsize := Decidable.not_not.mp hsize
        cases hrename : m.rename with
        | some e =>
          exact habandoned _ (fun ⟨H, _⟩ => nomatch hrename.symm.trans H.rename) fun _ => ⟨e, rfl⟩
        | none =>
          obtain ⟨here, name, rfl, hfinal⟩ := follow_pathFor hfollow
          simp only [rename_temporary hfollow hfinal hfree]
          by_cases hdirectory : s.tree.entry? (here ++ [name ++ ".ppm".toList]) = some .directory
          · rw [if_pos hdirectory]
            refine habandoned _ (fun ⟨_, _, final, H⟩ => ?_) fun _ => ⟨_, rfl⟩
            cases hfinal.symm.trans H.follow_final
            exact H.final_free hdirectory
          · rw [if_neg hdirectory, Mishaps.found_eq_file hsize]
            exact .moved _ _ hcheck (hclean hsize hrename) ⟨hfollow, hfinal, hfree, hdirectory⟩

/-! ### What has changed -/

namespace SamePaths

variable {after : DirectoryStore}

theorem refl (s : DirectoryStore) : s.SamePaths s := ⟨rfl, rfl, .refl _⟩

theorem trans {later : DirectoryStore} (H : s.SamePaths after) (H' : after.SamePaths later) :
    s.SamePaths later :=
  ⟨H'.dir_eq.trans H.dir_eq, H'.stem_eq.trans H.stem_eq, H.directories.trans H'.directories⟩

theorem symm (H : s.SamePaths after) : after.SamePaths s :=
  ⟨H.dir_eq.symm, H.stem_eq.symm, H.directories.symm⟩

theorem pathFor_eq (H : s.SamePaths after) (n : Nat) : after.pathFor n = s.pathFor n := by
  rw [pathFor, pathFor, H.dir_eq, H.stem_eq]

theorem reaches (H : s.SamePaths after) {temporary final : Place}
    (h : s.Reaches n temporary final) : after.Reaches n temporary final where
  follow_temporary := by
    rw [temporaryFor, H.pathFor_eq]
    exact H.directories.follow h.follow_temporary
  follow_final := by
    rw [H.pathFor_eq]
    exact H.directories.follow h.follow_final
  temporary_free := mt (H.directories.entry_iff temporary).mpr h.temporary_free
  final_free := mt (H.directories.entry_iff final).mpr h.final_free

theorem reaches_iff (H : s.SamePaths after) {temporary final : Place} :
    after.Reaches n temporary final ↔ s.Reaches n temporary final :=
  ⟨H.symm.reaches, H.reaches⟩

end SamePaths

namespace Reaches

variable {temporary final : Place}

theorem ne (H : s.Reaches n temporary final) : final ≠ temporary := by
  rintro rfl
  exact follow_pathFor_ne H.follow_temporary H.follow_final

/-- Moving the file takes the temporary name away and puts the image under its own. -/
theorem entry?_moved (H : s.Reaches n temporary final) (bytes : Bytes) (place : Place) :
    FileTree.entry? ((s.tree.erase temporary).insert final (.file bytes)) place =
      if place = final then some (.file bytes)
      else if place = temporary then none else s.tree.entry? place := by
  rw [FileTree.entry?_insert _ (FileTree.ne_nil_of_not_directory H.final_free),
    FileTree.entry?_erase _ (FileTree.ne_nil_of_not_directory H.temporary_free)]

theorem samePaths (H : s.Reaches n temporary final) (bytes : Bytes) :
    s.SamePaths { s with tree := (s.tree.erase temporary).insert final (.file bytes) } where
  dir_eq := rfl
  stem_eq := rfl
  directories := by
    have herase := FileTree.SameDirectories.erase H.temporary_free
    exact herase.trans (.insert (mt (herase.entry_iff final).mpr H.final_free) bytes)

end Reaches

namespace Outcome

variable {after : DirectoryStore} {result : Except (Trouble SinkError) Nat}

theorem samePaths (H : s.Outcome m r (after, result)) : s.SamePaths after := by
  cases H with
  | refused | unopened => exact ⟨rfl, rfl, .refl _⟩
  | abandoned _ bytes _ _ _ hfree => exact ⟨rfl, rfl, .insert hfree bytes⟩
  | moved _ _ _ _ hreaches => exact hreaches.samePaths _

/-- Nothing is touched but the places of the two files of the image. -/
theorem follow_of_changed (H : s.Outcome m r (after, result)) {place : Place}
    (h : after.tree.entry? place ≠ s.tree.entry? place) :
    s.tree.follow (s.pathFor r.sequence) = .ok place ∨
      s.tree.follow (s.temporaryFor r.sequence) = .ok place := by
  cases H with
  | refused | unopened => exact absurd rfl h
  | abandoned temporary bytes _ _ hfollow hfree =>
    have hne := FileTree.ne_nil_of_not_directory hfree
    have hentry := FileTree.entry?_insert s.tree hne (.file bytes) place
    by_cases hplace : place = temporary
    · exact .inr (hplace ▸ hfollow)
    · exact absurd (hentry.trans (if_neg hplace)) h
  | moved temporary final _ _ hreaches =>
    have hentry := hreaches.entry?_moved r.file place
    by_cases hfinal : place = final
    · exact .inl (hfinal ▸ hreaches.follow_final)
    · by_cases htemporary : place = temporary
      · exact .inr (htemporary ▸ hreaches.follow_temporary)
      · rw [if_neg hfinal, if_neg htemporary] at hentry
        exact absurd hentry h

/-- What lies under the name of the image stays there unless the image is stored. -/
theorem entry?_of_error {trouble : Trouble SinkError} {place : Place}
    (H : s.Outcome m r (after, .error trouble))
    (h : s.tree.follow (s.pathFor r.sequence) = .ok place) :
    after.tree.entry? place = s.tree.entry? place := by
  cases H with
  | refused | unopened => rfl
  | abandoned temporary bytes _ _ hfollow hfree =>
    have hne : place ≠ temporary := by
      rintro rfl
      exact follow_pathFor_ne hfollow h
    have hroot := FileTree.ne_nil_of_not_directory hfree
    exact (FileTree.entry?_insert s.tree hroot (.file bytes) place).trans (if_neg hne)

theorem of_check_eq_error {trouble : Trouble SinkError} (H : s.Outcome m r (after, result))
    (h : r.check = .error trouble) : after = s ∧ result = .error trouble := by
  cases H with
  | refused _ hcheck =>
    cases hcheck.symm.trans h
    exact ⟨rfl, rfl⟩
  | unopened _ hcheck | abandoned _ _ _ hcheck | moved _ _ hcheck => cases hcheck.symm.trans h

/-- The check alone can fault. -/
theorem check_eq_fault {f : Fault} (H : s.Outcome m r (after, .error (.fault f))) :
    r.check = .error (.fault f) := by
  cases H with
  | refused _ hcheck => exact hcheck

/-- What a stored image leaves behind. -/
theorem of_ok (H : s.Outcome m r (after, .ok n)) :
    n = r.file.size ∧ ∃ temporary final, s.Reaches r.sequence temporary final ∧
      after.tree = (s.tree.erase temporary).insert final (.file r.file) := by
  cases H with
  | moved temporary final _ _ hreaches => exact ⟨rfl, temporary, final, hreaches, rfl⟩

theorem eq_ok_iff (H : s.Outcome m r (after, result)) :
    (∃ n, result = .ok n) ↔ r.check = .ok () ∧ s.Unhindered m r := by
  cases H with
  | refused trouble hcheck => simp [hcheck]
  | unopened e _ hbar => simp [hbar]
  | abandoned _ _ _ _ _ _ hbar _ => simp [hbar]
  | moved temporary final hcheck hharmless hreaches =>
    exact iff_of_true ⟨_, rfl⟩ ⟨hcheck, hharmless, temporary, final, hreaches⟩

end Outcome

/-- Whatever goes wrong, the image is stored whole and no temporary file is left, or the store answers
with an error and under the name of the image lies what lay there before. No other places change than
those of the image and of its temporary file, and none if the pixels are not as many as the size
needs. A size for which a 64-bit word is too small is a fault, and changes nothing either. -/
theorem storeWith_whole_or_kept (s : DirectoryStore) (m : Mishaps) (r : ImageRecord) :
    ∃ after result, s.storeWith m r = (after, result) ∧
      (after.dir = s.dir ∧ after.stem = s.stem ∧
        ∀ path place, after.tree.follow path = .ok place ↔ s.tree.follow path = .ok place) ∧
      ((result = .ok r.file.size ∧ ∃ here name,
          s.tree.follow (s.pathFor r.sequence) = .ok (here ++ [name ++ ".ppm".toList]) ∧
          s.tree.follow (s.temporaryFor r.sequence) = .ok (here ++ [name ++ ".tmp".toList]) ∧
          after.tree.entry? (here ++ [name ++ ".ppm".toList]) =
            some (.file (r.header ++ r.pixels)) ∧
          after.tree.entry? (here ++ [name ++ ".tmp".toList]) = none) ∨
        ((∃ e, result = .error (.error e)) ∧ ∀ place,
          s.tree.follow (s.pathFor r.sequence) = .ok place →
            after.tree.entry? place = s.tree.entry? place) ∨
        (result = .error (.fault .overflow) ∧ after = s)) ∧
      (∀ place, after.tree.entry? place ≠ s.tree.entry? place →
        s.tree.follow (s.pathFor r.sequence) = .ok place ∨
          s.tree.follow (s.temporaryFor r.sequence) = .ok place) ∧
      (r.pixels.size ≠ r.needed → after = s ∧ (r.needed < UInt64.size →
        result = .error (.error (.invalidImage r.needed r.pixels.size)))) ∧
      (result = .error (.fault .overflow) ↔ UInt64.size ≤ r.needed) ∧
      ((∃ n, result = .ok n) ↔
        r.needed < UInt64.size ∧ r.pixels.size = r.needed ∧ s.Unhindered m r) := by
  have H := s.storeWith_outcome m r
  generalize hstore : s.storeWith m r = stored at H
  obtain ⟨after, result⟩ := stored
  have hpaths := H.samePaths
  refine ⟨after, result, rfl, ⟨hpaths.dir_eq, hpaths.stem_eq, ?_⟩, ?_, ?_, ?_, ?_, ?_⟩
  · exact fun path place => hpaths.directories.symm.follow_iff
  · cases result with
    | ok n =>
      obtain ⟨rfl, temporary, final, hreaches, htree⟩ := H.of_ok
      obtain ⟨here, name, rfl, htemporary⟩ := follow_temporaryFor hreaches.follow_final
      cases hreaches.follow_temporary.symm.trans htemporary
      refine .inl ⟨rfl, here, name, hreaches.follow_final, hreaches.follow_temporary, ?_, ?_⟩
      · rw [htree, hreaches.entry?_moved, if_pos rfl, ImageRecord.file]
      · rw [htree, hreaches.entry?_moved, if_neg hreaches.ne.symm, if_pos rfl]
    | error trouble =>
      cases trouble with
      | error e => exact .inr (.inl ⟨⟨e, rfl⟩, fun place h => H.entry?_of_error h⟩)
      | fault f =>
        have hcheck := H.check_eq_fault
        obtain ⟨rfl, -⟩ := ImageRecord.check_eq_fault_iff.mp hcheck
        exact .inr (.inr ⟨rfl, (H.of_check_eq_error hcheck).1⟩)
  · exact fun place h => H.follow_of_changed h
  · intro hsize
    by_cases hfits : r.needed < UInt64.size
    · have hcheck := (ImageRecord.check_of_lt hfits).trans (if_pos hsize)
      exact ⟨(H.of_check_eq_error hcheck).1, fun _ => (H.of_check_eq_error hcheck).2⟩
    · have hcheck := ImageRecord.check_of_le (Nat.le_of_not_lt hfits)
      exact ⟨(H.of_check_eq_error hcheck).1, fun h => absurd h hfits⟩
  · constructor
    · rintro rfl
      exact (ImageRecord.check_eq_fault_iff.mp H.check_eq_fault).2
    · intro hneeded
      exact (H.of_check_eq_error (ImageRecord.check_of_le hneeded)).2
  · rw [H.eq_ok_iff, ImageRecord.check_eq_ok_iff, and_assoc]

/-- A store that has an image, and a temporary file that an earlier run left behind. -/
def withLeftovers : DirectoryStore where
  tree := ⟨[(["frames".toList], .directory), (["frames".toList, "a0001.ppm".toList], .file #[1]),
    (["frames".toList, "a0001.tmp".toList], .file #[2])], []⟩
  dir := "frames".toList
  stem := ['a']

/-- The image is exchanged, or stays when the disk is full after three bytes of the header. -/
theorem whole_or_kept_with_leftovers :
    let r : ImageRecord := ⟨1, ⟨0, 0⟩, 1, 1, #[7, 8, 9]⟩
    let full : Mishaps := { Mishaps.none with header := some (3, .text "disk full") }
    (∃ after, withLeftovers.storeWith .none r = (after, .ok r.file.size) ∧
      after.tree.entry? ["frames".toList, "a0001.ppm".toList] = some (.file r.file) ∧
      after.tree.entry? ["frames".toList, "a0001.tmp".toList] = none) ∧
    ∃ after e, withLeftovers.storeWith full r = (after, .error e) ∧
      after.tree.entry? ["frames".toList, "a0001.ppm".toList] = some (.file #[1]) := by
  intro r full
  have hfinal : withLeftovers.tree.follow (withLeftovers.pathFor 1) =
      .ok ["frames".toList, "a0001.ppm".toList] := by
    rw [pathFor, fileName, padded, decimal_of_lt (by decide)]
    rfl
  have htemporary : withLeftovers.tree.follow (withLeftovers.temporaryFor 1) =
      .ok ["frames".toList, "a0001.tmp".toList] := by
    rw [temporaryFor, pathFor, fileName, padded, decimal_of_lt (by decide)]
    rfl
  constructor
  · obtain ⟨after, result, hstore, -, houtcome, -, -, -, hok⟩ :=
      withLeftovers.storeWith_whole_or_kept .none r
    have hunhindered : withLeftovers.Unhindered .none r :=
      ⟨Mishaps.harmless_none r, _, _, htemporary, hfinal, by decide, by decide⟩
    obtain ⟨n, rfl⟩ := hok.mpr ⟨by decide, by decide, hunhindered⟩
    obtain ⟨hn, here, name, himage, htmp, hwhole, hgone⟩ | ⟨⟨e, he⟩, -⟩ | ⟨he, -⟩ := houtcome
    · cases hn
      rw [← Except.ok.inj (hfinal.symm.trans himage)] at hwhole
      rw [← Except.ok.inj (htemporary.symm.trans htmp)] at hgone
      exact ⟨after, hstore, hwhole, hgone⟩
    · cases he
    · cases he
  · obtain ⟨after, result, hstore, -, houtcome, -, -, -, hok⟩ :=
      withLeftovers.storeWith_whole_or_kept full r
    obtain ⟨hn, -⟩ | ⟨⟨e, rfl⟩, hkept⟩ | ⟨rfl, rfl⟩ := houtcome
    · obtain ⟨-, -, hharmless, -⟩ := hok.mp ⟨_, hn⟩
      cases hharmless.header
    · exact ⟨after, _, hstore, hkept _ hfinal⟩
    · exact ⟨withLeftovers, _, hstore, rfl⟩

/-- Three bytes for each pixel can be more than a 64-bit word counts: then there is neither the size
of a file nor an error that says how many bytes are missing. -/
theorem answers_neither_of_huge_size :
    let frames := "frames".toList
    let s : DirectoryStore := ⟨⟨[([frames], .directory)], []⟩, frames, "test".toList⟩
    let r : ImageRecord := ⟨1, ⟨0, 0⟩, 2007567422, 3062868337, Array.replicate 26 0⟩
    r.pixels.size ≠ r.needed ∧
      ¬∃ after result, s.storeWith .none r = (after, result) ∧
        ((∃ n, result = .ok n) ∨ ∃ e, result = .error (.error e)) := by
  intro frames s r
  have hneeded : UInt64.size ≤ r.needed := by decide
  have hstore : s.storeWith .none r = (s, .error (.fault .overflow)) := by
    rw [storeWith, ImageRecord.check_of_le hneeded]
  refine ⟨by decide, ?_⟩
  rintro ⟨after, result, h, hanswer⟩
  cases hstore.symm.trans h
  obtain ⟨n, hn⟩ | ⟨e, he⟩ := hanswer
  · cases hn
  · cases he

end DirectoryStore
end TickCapture
