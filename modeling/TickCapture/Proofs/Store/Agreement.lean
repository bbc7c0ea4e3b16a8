import TickCapture.Proofs.Store.Replacement
import TickCapture.Store.Memory

/-! # A directory shows what a memory store keeps

The same records are stored in a directory and in memory, one after another. Both give the same
answers as long as nothing goes wrong with the files. The memory keeps every image that was
accepted; the directory shows the last one for each number (`DirectoryStore.Shows`), each in its own
file, for the path of an image tells its number. -/

namespace TickCapture

/-! ### Many records -/

namespace ImageSink

variable {σ : Type} [ImageSink σ]

/-- Stores images one after another: the store behind the last of them, and all answers. -/
def storeAll (sink : σ) : List ImageRecord → σ × List (Except (Trouble SinkError) Nat)
  | [] => (sink, [])
  | r :: records =>
    ((storeAll (store sink r).1 records).1,
      (store sink r).2 :: (storeAll (store sink r).1 records).2)

end ImageSink

/-! ### What a memory store keeps -/

namespace ImageRecord

variable {r : ImageRecord}

/-- What is kept of a record. -/
def stored (r : ImageRecord) : StoredImage := ⟨r.sequence, r.time, r.width, r.height, r.file⟩

/-- What a store answers unless something else goes wrong. -/
def answer (r : ImageRecord) : Except (Trouble SinkError) Nat := r.check.map fun _ => r.file.size

theorem answer_of_lt (h : r.needed < UInt64.size) :
    r.answer =
      if r.pixels.size = r.needed then .ok r.file.size
      else .error (.error (.invalidImage r.needed r.pixels.size)) := by
  rw [answer, check_of_lt h]
  by_cases hsize : r.pixels.size = r.needed
  · rw [if_neg (not_not_intro hsize), if_pos hsize]
    rfl
  · rw [if_pos hsize, if_neg hsize]
    rfl

end ImageRecord

namespace MemoryStore

variable {s : MemoryStore} {r : ImageRecord} {records : List ImageRecord} {image : StoredImage}

/-- The last image with a number. -/
def latest? (s : MemoryStore) (n : Nat) : Option StoredImage :=
  (s.images.filter fun image => image.sequence = n).getLast?

theorem store_of_ok (s : MemoryStore) (h : r.check = .ok ()) :
    s.store r = (⟨s.images ++ [r.stored]⟩, r.answer) := by
  rw [store, ImageRecord.answer, h]
  rfl

theorem store_of_error {trouble : Trouble SinkError} (s : MemoryStore)
    (h : r.check = .error trouble) : s.store r = (s, r.answer) := by
  rw [store, ImageRecord.answer, h]
  rfl

theorem latest?_append (s : MemoryStore) (image : StoredImage) (n : Nat) :
    (⟨s.images ++ [image]⟩ : MemoryStore).latest? n =
      if image.sequence = n then some image else s.latest? n := by
  unfold latest?
  rw [List.filter_append, List.getLast?_append]
  by_cases h : image.sequence = n
  · rw [List.filter_cons_of_pos (by simpa using h), if_pos h]
    rfl
  · rw [List.filter_cons_of_neg (by simpa using h), if_neg h]
    rfl

theorem sequence_of_latest? {n : Nat} (h : s.latest? n = some image) :
    image ∈ s.images ∧ image.sequence = n := by
  have hmem := List.mem_filter.mp (List.mem_of_getLast? h)
  exact ⟨hmem.1, of_decide_eq_true hmem.2⟩

theorem exists_latest? (h : image ∈ s.images) : ∃ last, s.latest? image.sequence = some last := by
  cases hlast : s.latest? image.sequence with
  | some last => exact ⟨last, rfl⟩
  | none =>
    have hnil := List.getLast?_eq_none_iff.mp hlast
    exact absurd (decide_eq_true rfl) (List.filter_eq_nil_iff.mp hnil image h)

theorem storeAll_snd (s : MemoryStore) (records : List ImageRecord) :
    (ImageSink.storeAll s records).2 = records.map ImageRecord.answer := by
  induction records generalizing s with
  | nil => rfl
  | cons r records ih =>
    have hanswer : (ImageSink.store s r).2 = r.answer := by
      cases hcheck : r.check with
      | error trouble => exact congrArg Prod.snd (s.store_of_error hcheck)
      | ok _ => exact congrArg Prod.snd (s.store_of_ok hcheck)
    rw [ImageSink.storeAll, List.map_cons, hanswer, ih]

theorem mem_storeAll :
    image ∈ (ImageSink.storeAll s records).1.images ↔
      image ∈ s.images ∨ ∃ r ∈ records, r.check = .ok () ∧ image = r.stored := by
  induction records generalizing s with
  | nil => simp [ImageSink.storeAll]
  | cons r records ih =>
    rw [ImageSink.storeAll, ih]
    cases hcheck : r.check with
    | error trouble =>
      have hstore : (ImageSink.store s r).1 = s := congrArg Prod.fst (s.store_of_error hcheck)
      rw [hstore]
      simp [hcheck]
    | ok _ =>
      have hstore : (ImageSink.store s r).1 = ⟨s.images ++ [r.stored]⟩ :=
        congrArg Prod.fst (s.store_of_ok hcheck)
      rw [hstore]
      simp [hcheck, or_assoc]

/-- There is an image with a number if a record with it was accepted. -/
theorem exists_latest?_storeAll_iff {n : Nat} :
    (∃ image, (ImageSink.storeAll empty records).1.latest? n = some image) ↔
      ∃ r ∈ records, r.sequence = n ∧ r.needed < UInt64.size ∧ r.pixels.size = r.needed := by
  constructor
  · rintro ⟨image, hlatest⟩
    obtain ⟨himage, rfl⟩ := sequence_of_latest? hlatest
    obtain hnil | ⟨r, hr, hcheck, rfl⟩ := mem_storeAll.mp himage
    · cases hnil
    · exact ⟨r, hr, rfl, ImageRecord.check_eq_ok_iff.mp hcheck⟩
  · rintro ⟨r, hr, rfl, haccepted⟩
    have hcheck := ImageRecord.check_eq_ok_iff.mpr haccepted
    exact exists_latest? (mem_storeAll.mpr (.inr ⟨r, hr, hcheck, rfl⟩))

end MemoryStore

/-! ### What a directory shows -/

namespace DirectoryStore

variable {s after : DirectoryStore} {memory : MemoryStore} {r : ImageRecord}
  {records : List ImageRecord}

/-- Without mishaps only the files that are in the way keep an image from being stored. -/
theorem store_of_check (s : DirectoryStore) (h : r.check = .ok ()) :
    (∃ temporary final, s.Reaches r.sequence temporary final ∧ s.store r =
      ({ s with tree := (s.tree.erase temporary).insert final (.file r.file) }, .ok r.file.size)) ∨
    (¬∃ temporary final, s.Reaches r.sequence temporary final) ∧
      ∃ e, (s.store r).2 = .error (.error (.io e)) := by
  have H := s.storeWith_outcome .none r
  unfold store
  generalize s.storeWith .none r = stored at H ⊢
  cases H with
  | refused _ hcheck => cases h.symm.trans hcheck
  | unopened e _ hbar =>
    exact .inr ⟨fun hreaches => hbar ⟨Mishaps.harmless_none r, hreaches⟩, e, rfl⟩
  | abandoned _ _ _ _ _ _ hbar hio =>
    obtain ⟨e, rfl⟩ := hio rfl
    exact .inr ⟨fun hreaches => hbar ⟨Mishaps.harmless_none r, hreaches⟩, e, rfl⟩
  | moved temporary final _ _ hreaches => exact .inl ⟨temporary, final, hreaches, rfl⟩

theorem store_of_error {trouble : Trouble SinkError} (s : DirectoryStore)
    (h : r.check = .error trouble) : s.store r = (s, r.answer) := by
  rw [store, storeWith, ImageRecord.answer, h]
  rfl

/-- Over what was there before (`s`), the directory shows for each number the last image in memory,
and no temporary file. -/
structure Shows (s after : DirectoryStore) (memory : MemoryStore) : Prop where
  samePaths : s.SamePaths after
  reaches : ∀ image ∈ memory.images, ∃ temporary final, s.Reaches image.sequence temporary final
  shown : ∀ n image temporary final, memory.latest? n = some image → s.Reaches n temporary final →
    after.tree.entry? final = some (.file image.file)
  gone : ∀ image ∈ memory.images, ∀ temporary final, s.Reaches image.sequence temporary final →
    after.tree.entry? temporary = none
  kept : ∀ place, (∀ image ∈ memory.images, ∀ temporary final,
      s.Reaches image.sequence temporary final → place ≠ final ∧ place ≠ temporary) →
    after.tree.entry? place = s.tree.entry? place

namespace Shows

theorem start (s : DirectoryStore) : Shows s s .empty where
  samePaths := .refl s
  reaches := nofun
  shown _ _ _ _ := nofun
  gone := nofun
  kept _ _ := rfl

/-- An image that is moved to its place takes the place of an earlier one with its number, and of no
other. -/
theorem moved {temporary final : Place} (H : Shows s after memory)
    (hreaches : after.Reaches r.sequence temporary final) :
    Shows s { after with tree := (after.tree.erase temporary).insert final (.file r.file) }
      ⟨memory.images ++ [r.stored]⟩ := by
  have hreaches' := H.samePaths.reaches_iff.mp hreaches
  have hentry := hreaches.entry?_moved r.file
  refine ⟨H.samePaths.trans (hreaches.samePaths r.file), ?reaches, ?shown, ?gone, ?kept⟩
  case reaches =>
    intro image himage
    rw [List.mem_append, List.mem_singleton] at himage
    obtain himage | rfl := himage
    · exact H.reaches image himage
    · exact ⟨temporary, final, hreaches'⟩
  case shown =>
    intro n image temporary' final' hlatest hn
    rw [MemoryStore.latest?_append] at hlatest
    split at hlatest
    · next hsequence =>
      cases hlatest
      subst hsequence
      cases hn.follow_final.symm.trans hreaches'.follow_final
      rw [hentry, if_pos rfl]
      rfl
    · next hsequence =>
      -- An image with another number has another place, so what lay there before is not touched.
      have hfinal : final' ≠ final := by
        rintro rfl
        exact hsequence (number_unique hreaches'.follow_final hn.follow_final)
      have htemporary : final' ≠ temporary := by
        rintro rfl
        exact follow_pathFor_ne hreaches'.follow_temporary hn.follow_final
      rw [hentry, if_neg hfinal, if_neg htemporary]
      exact H.shown n image temporary' final' hlatest hn
  case gone =>
    intro image himage temporary' final' hn
    have hfinal : temporary' ≠ final := by
      rintro rfl
      exact follow_pathFor_ne hn.follow_temporary hreaches'.follow_final
    rw [hentry, if_neg hfinal]
    split
    · rfl
    · next htemporary =>
      rw [List.mem_append, List.mem_singleton] at himage
      obtain himage | rfl := himage
      · exact H.gone image himage temporary' final' hn
      · exact absurd (Except.ok.inj (hn.follow_temporary.symm.trans hreaches'.follow_temporary))
          htemporary
  case kept =>
    intro place hplace
    obtain ⟨hfinal, htemporary⟩ :=
      hplace r.stored (List.mem_append_right _ List.mem_cons_self) temporary final hreaches'
    rw [hentry, if_neg hfinal, if_neg htemporary]
    exact H.kept place fun image himage => hplace image (List.mem_append_left _ himage)

/-- A record without an I/O failure. -/
theorem store (H : Shows s after memory) (hio : ∀ e, (after.store r).2 ≠ .error (.error (.io e))) :
    (after.store r).2 = r.answer ∧ Shows s (after.store r).1 (memory.store r).1 := by
  cases hcheck : r.check with
  | error trouble =>
    rw [after.store_of_error hcheck, memory.store_of_error hcheck]
    exact ⟨rfl, H⟩
  | ok _ =>
    obtain ⟨temporary, final, hreaches, hstore⟩ | ⟨-, e, he⟩ := after.store_of_check hcheck
    · rw [hstore, memory.store_of_ok hcheck, ImageRecord.answer, hcheck]
      exact ⟨rfl, H.moved hreaches⟩
    · exact absurd he (hio e)

theorem storeAll (H : Shows s after memory)
    (hio : ∀ e, .error (.error (.io e)) ∉ (ImageSink.storeAll after records).2) :
    (ImageSink.storeAll after records).2 = records.map ImageRecord.answer ∧
      Shows s (ImageSink.storeAll after records).1 (ImageSink.storeAll memory records).1 := by
  induction records generalizing after memory with
  | nil => exact ⟨rfl, H⟩
  | cons r records ih =>
    have hfirst (e : IoError) : (after.store r).2 ≠ .error (.error (.io e)) := by
      intro he
      exact hio e (List.mem_cons.mpr (.inl he.symm))
    obtain ⟨hanswer, hnext⟩ := H.store hfirst
    obtain ⟨hanswers, hlast⟩ := ih hnext fun e he => hio e (List.mem_cons_of_mem _ he)
    refine ⟨?_, hlast⟩
    rw [List.map_cons, ← hanswer, ← hanswers]
    rfl

theorem exists_reaches (H : Shows s after memory) {n : Nat} {image : StoredImage}
    (h : memory.latest? n = some image) : ∃ temporary final, s.Reaches n temporary final := by
  obtain ⟨himage, rfl⟩ := MemoryStore.sequence_of_latest? h
  exact H.reaches image himage

/-- Reading the file of an image that is in memory. -/
theorem read_pathFor (H : Shows s after memory) {n : Nat} {image : StoredImage}
    (h : memory.latest? n = some image) : after.tree.read (s.pathFor n) = .ok image.file := by
  obtain ⟨temporary, final, hreaches⟩ := H.exists_reaches h
  refine FileTree.read_eq_ok_iff.mpr ⟨final, ?_, H.shown n image temporary final h hreaches⟩
  exact H.samePaths.directories.follow hreaches.follow_final

theorem entry?_temporary (H : Shows s after memory) {n : Nat} {image : StoredImage} {place : Place}
    (h : memory.latest? n = some image) (hfollow : s.tree.follow (s.temporaryFor n) = .ok place) :
    after.tree.entry? place = none := by
  obtain ⟨temporary, final, hreaches⟩ := H.exists_reaches h
  cases hfollow.symm.trans hreaches.follow_temporary
  obtain ⟨himage, rfl⟩ := MemoryStore.sequence_of_latest? h
  exact H.gone image himage place final hreaches

/-- Where nothing was before, there are the images that belong there, and nothing else. -/
theorem entry?_of_vacant (H : Shows s after memory) {place : Place} (h : s.tree.entry? place = none)
    (entry : FileEntry) :
    after.tree.entry? place = some entry ↔
      ∃ n image, memory.latest? n = some image ∧ s.tree.follow (s.pathFor n) = .ok place ∧
        entry = .file image.file := by
  constructor
  · intro hentry
    -- Something has changed here, so this is a place of an image, and no temporary file is left.
    have hchanged : ∃ image ∈ memory.images, ∃ temporary final,
        s.Reaches image.sequence temporary final ∧ (place = final ∨ place = temporary) := by
      refine Classical.byContradiction fun hnone => ?_
      have hkept := H.kept place fun image himage temporary final hreaches => by
        refine ⟨fun hfinal => hnone ?_, fun htemporary => hnone ?_⟩
        · exact ⟨image, himage, temporary, final, hreaches, .inl hfinal⟩
        · exact ⟨image, himage, temporary, final, hreaches, .inr htemporary⟩
      rw [hkept, h] at hentry
      cases hentry
    obtain ⟨image, himage, temporary, final, hreaches, rfl | rfl⟩ := hchanged
    · obtain ⟨last, hlast⟩ := MemoryStore.exists_latest? himage
      rw [H.shown _ last temporary place hlast hreaches] at hentry
      cases hentry
      exact ⟨image.sequence, last, hlast, hreaches.follow_final, rfl⟩
    · rw [H.gone image himage place final hreaches] at hentry
      cases hentry
  · rintro ⟨n, image, hlatest, hfollow, rfl⟩
    obtain ⟨temporary, final, hreaches⟩ := H.exists_reaches hlatest
    cases hfollow.symm.trans hreaches.follow_final
    exact H.shown n image temporary place hlatest hreaches

theorem entry?_tmp (H : Shows s after memory) {here : Place} {name : List Char}
    (h : s.tree.entry? (here ++ [name ++ ".tmp".toList]) = none) :
    after.tree.entry? (here ++ [name ++ ".tmp".toList]) = none := by
  rw [Option.eq_none_iff_forall_ne_some]
  intro entry hentry
  obtain ⟨n, image, -, hfollow, -⟩ := (H.entry?_of_vacant h entry).mp hentry
  obtain ⟨here', name', hplace, -⟩ := follow_temporaryFor hfollow
  exact temporary_ne_image hplace

/-- With a stem that has no slash the names in the directory tell which images are there. -/
theorem entry?_of_plain (H : Shows s after memory) {here : Place} {name : List Char}
    (hstem : '/' ∉ s.stem) (hdir : s.tree.follow s.dir = .ok here)
    (h : s.tree.entry? (here ++ [name]) = none) (entry : FileEntry) :
    after.tree.entry? (here ++ [name]) = some entry ↔
      ∃ n image, memory.latest? n = some image ∧ name = fileName s.stem n ∧
        entry = .file image.file := by
  rw [H.entry?_of_vacant h]
  constructor
  · rintro ⟨n, image, hlatest, hfollow, rfl⟩
    have hplace := place_of_plain hstem hdir hfollow
    exact ⟨n, image, hlatest, List.singleton_inj.mp (List.append_cancel_left hplace), rfl⟩
  · rintro ⟨n, image, hlatest, rfl, rfl⟩
    obtain ⟨temporary, final, hreaches⟩ := H.exists_reaches hlatest
    cases place_of_plain hstem hdir hreaches.follow_final
    exact ⟨n, image, hlatest, hreaches.follow_final, rfl⟩

end Shows

namespace SamePaths

theorem store_no_io_iff (H : s.SamePaths after) :
    (∀ e, (after.store r).2 ≠ .error (.error (.io e))) ↔
      (r.check = .ok () → ∃ temporary final, s.Reaches r.sequence temporary final) := by
  simp only [← H.reaches_iff]
  cases hcheck : r.check with
  | error trouble =>
    rw [after.store_of_error hcheck, ImageRecord.answer, hcheck]
    refine iff_of_true (fun e he => r.check_ne_io e ?_) nofun
    rw [hcheck]
    cases he
    rfl
  | ok _ =>
    obtain ⟨temporary, final, hreaches, hstore⟩ | ⟨hno, e, he⟩ := after.store_of_check hcheck
    · rw [hstore]
      exact iff_of_true (fun e => nofun) fun _ => ⟨temporary, final, hreaches⟩
    · exact iff_of_false (fun h => h e he) fun h => hno (h rfl)

/-- Whether a run meets a failure is decided by what was there before it. -/
theorem storeAll_no_io_iff (H : s.SamePaths after) :
    (∀ e, .error (.error (.io e)) ∉ (ImageSink.storeAll after records).2) ↔
      ∀ r ∈ records, r.check = .ok () →
        ∃ temporary final, s.Reaches r.sequence temporary final := by
  induction records generalizing after with
  | nil => exact iff_of_true (fun _ => List.not_mem_nil) nofun
  | cons r records ih =>
    have hnext := ih (H.trans (after.storeWith_outcome .none r).samePaths)
    rw [List.forall_mem_cons, ← hnext, ← H.store_no_io_iff, ← forall_and]
    refine forall_congr' fun e => ?_
    rw [ImageSink.storeAll, List.mem_cons, not_or, ne_comm]
    rfl

end SamePaths

/-- A directory and a memory store answer alike as long as no file operation fails, and afterwards
the directory shows what the memory keeps: the file of each number is that of the last image with
it. No temporary file is left, and a directory that was empty has no other files; their names begin
with the stem and tell the number. -/
theorem storeAll_agrees (s : DirectoryStore) (records : List ImageRecord)
    (hio : ∀ e, .error (.error (.io e)) ∉ (ImageSink.storeAll s records).2) :
    ∃ after memory results,
      ImageSink.storeAll s records = (after, results) ∧
      ImageSink.storeAll MemoryStore.empty records = (memory, results) ∧
      (∀ (i : Nat) r, records[i]? = some r → r.needed < UInt64.size → results[i]? =
        some (if r.pixels.size = r.needed then .ok r.file.size
          else .error (.error (.invalidImage r.needed r.pixels.size)))) ∧
      (∀ n, (∃ image, memory.latest? n = some image) ↔
        ∃ r ∈ records, r.sequence = n ∧ r.needed < UInt64.size ∧ r.pixels.size = r.needed) ∧
      (∀ n image, memory.latest? n = some image →
        after.tree.read (s.pathFor n) = .ok image.file ∧
        ∀ place, s.tree.follow (s.temporaryFor n) = .ok place → after.tree.entry? place = none) ∧
      (∀ n m place, s.tree.follow (s.pathFor n) = .ok place →
        s.tree.follow (s.pathFor m) = .ok place → n = m) ∧
      (∀ here, (∀ name, s.tree.entry? (here ++ [name]) = none) →
        (∀ name entry, after.tree.entry? (here ++ [name]) = some entry ↔
          ∃ n image, memory.latest? n = some image ∧
            s.tree.follow (s.pathFor n) = .ok (here ++ [name]) ∧ entry = .file image.file) ∧
        (∀ name, after.tree.entry? (here ++ [name ++ ".tmp".toList]) = none) ∧
        ('/' ∉ s.stem → s.tree.follow s.dir = .ok here →
          ∀ name entry, after.tree.entry? (here ++ [name]) = some entry ↔
            ∃ n image, memory.latest? n = some image ∧ name = fileName s.stem n ∧
              entry = .file image.file)) := by
  obtain ⟨hanswers, H⟩ := (Shows.start s).storeAll hio
  have hmemory := MemoryStore.storeAll_snd .empty records
  refine ⟨_, _, _, rfl, Prod.ext rfl (hmemory.trans hanswers.symm), ?_, ?_, ?_, ?_, ?_⟩
  · intro i r hr hfits
    rw [hanswers, List.getElem?_map, hr, Option.map_some, ImageRecord.answer_of_lt hfits]
  · exact fun n => MemoryStore.exists_latest?_storeAll_iff
  · intro n image hlatest
    exact ⟨H.read_pathFor hlatest, fun place hfollow => H.entry?_temporary hlatest hfollow⟩
  · exact fun n m place => number_unique
  · intro here hvacant
    refine ⟨fun name => ?_, fun name => ?_, fun hstem hdir name => ?_⟩
    · exact H.entry?_of_vacant (hvacant name)
    · exact H.entry?_tmp (hvacant _)
    · exact H.entry?_of_plain hstem hdir (hvacant name)

/-- A store in a directory where nothing is. -/
def inEmptyDirectory : DirectoryStore where
  tree := ⟨[(["frames".toList], .directory)], []⟩
  dir := "frames".toList
  stem := "test".toList

/-- Number 2 comes twice, and number 1 with too few bytes. -/
def threeRecords : List ImageRecord :=
  [⟨2, ⟨0, 0⟩, 1, 1, #[1, 2, 3]⟩, ⟨1, ⟨1, 0⟩, 1, 1, #[4]⟩, ⟨2, ⟨2, 0⟩, 1, 1, #[7, 8, 9]⟩]

/-- The last image with number 2 is read from its path, and the directory has no temporary file. -/
theorem agrees_in_empty_directory :
    (∀ e, .error (.error (.io e)) ∉ (ImageSink.storeAll inEmptyDirectory threeRecords).2) ∧
    ∃ after memory results, ImageSink.storeAll inEmptyDirectory threeRecords = (after, results) ∧
      ImageSink.storeAll MemoryStore.empty threeRecords = (memory, results) ∧
      results[1]? = some (.error (.error (.invalidImage 3 1))) ∧
      after.tree.read (inEmptyDirectory.pathFor 2) =
        .ok (ImageRecord.file ⟨2, ⟨2, 0⟩, 1, 1, #[7, 8, 9]⟩) ∧
      ∀ name, after.tree.entry? (["frames".toList] ++ [name ++ ".tmp".toList]) = none := by
  have hfinal : inEmptyDirectory.tree.follow (inEmptyDirectory.pathFor 2) =
      .ok ["frames".toList, "test0002.ppm".toList] := by
    rw [pathFor, fileName, padded, decimal_of_lt (by decide)]
    rfl
  have htemporary : inEmptyDirectory.tree.follow (inEmptyDirectory.temporaryFor 2) =
      .ok ["frames".toList, "test0002.tmp".toList] := by
    rw [temporaryFor, pathFor, fileName, padded, decimal_of_lt (by decide)]
    rfl
  have hreaches : ∃ temporary final, inEmptyDirectory.Reaches 2 temporary final :=
    ⟨_, _, htemporary, hfinal, by decide, by decide⟩
  have hio : ∀ e, .error (.error (.io e)) ∉
      (ImageSink.storeAll inEmptyDirectory threeRecords).2 := by
    rw [(SamePaths.refl inEmptyDirectory).storeAll_no_io_iff, threeRecords]
    simp only [List.forall_mem_cons]
    refine ⟨fun _ => hreaches, fun hcheck => ?_, fun _ => hreaches, List.forall_mem_nil _⟩
    exact absurd (ImageRecord.check_eq_ok_iff.mp hcheck).2 (by decide)
  obtain ⟨after, memory, results, hstore, hmemory, hresults, -, hread, -, hvacant⟩ :=
    inEmptyDirectory.storeAll_agrees threeRecords hio
  refine ⟨hio, after, memory, results, hstore, hmemory, hresults 1 _ rfl (by decide), ?_, ?_⟩
  · refine (hread 2 (ImageRecord.stored ⟨2, ⟨2, 0⟩, 1, 1, #[7, 8, 9]⟩) ?_).1
    rw [← show (ImageSink.storeAll MemoryStore.empty threeRecords).1 = memory by rw [hmemory]]
    rfl
  · have hempty (name : List Char) :
        inEmptyDirectory.tree.entry? (["frames".toList] ++ [name]) = none := by
      rfl
    exact (hvacant ["frames".toList] hempty).2.1

/-- Three bytes for each pixel can be more than a 64-bit word counts: then both stores answer alike,
but neither with the size of a file nor with the error for a wrong count of bytes. -/
theorem answers_alike_without_size :
    let records : List ImageRecord := [⟨1, ⟨0, 0⟩, 2007567422, 3062868337, Array.replicate 26 0⟩]
    ¬∃ results, (ImageSink.storeAll inEmptyDirectory records).2 = results ∧
      (ImageSink.storeAll MemoryStore.empty records).2 = results ∧
      ∀ result ∈ results, (∃ n, result = .ok n) ∨
        ∃ expected actual, result = .error (.error (.invalidImage expected actual)) := by
  rintro records ⟨results, -, hmemory, hanswer⟩
  have hneeded : UInt64.size ≤
      ImageRecord.needed ⟨1, ⟨0, 0⟩, 2007567422, 3062868337, Array.replicate 26 0⟩ := by decide
  have hfault : results = [.error (.fault .overflow)] := by
    rw [← hmemory, MemoryStore.storeAll_snd, List.map_singleton, ImageRecord.answer,
      ImageRecord.check_of_le hneeded]
    rfl
  subst hfault
  obtain ⟨n, hn⟩ | ⟨expected, actual, he⟩ := hanswer _ List.mem_cons_self
  · cases hn
  · cases he

end DirectoryStore
end TickCapture
