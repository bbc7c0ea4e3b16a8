import TickCapture.Proofs.Config.Layers
import TickCapture.Proofs.Store.Replacement

/-! # The files of different images keep apart

With a stem that has no slash the path of an image and that of its temporary file lead into the
directory of the store itself, each under a name of its own (`PathText.LiesIn`). Paths are compared
by their parts, so that it does not count how many slashes a path is written with. A name tells the
number of its image and whether the file is the temporary one. So storing an image does not touch
the file of any other, whatever goes wrong meanwhile, and an image that was stored stays until its
number comes again. -/

namespace TickCapture

/-! ### Paths in a directory -/

namespace PathText

variable {dir upper name : PathText}

/-- The path leads into the directory `dir`, and there to `name`. -/
structure LiesIn (path dir : PathText) (name : List Char) : Prop where
  isAbsolute_eq : path.isAbsolute = dir.isAbsolute
  parts_eq : path.parts = dir.parts ++ [name]
  fileName?_eq : path.fileName? = some name

theorem parts_append (hupper : Opens upper) (hname : '/' ∉ name) (hmeans : means name = true) :
    parts (upper ++ name) = parts upper ++ [name] := by
  -- The text before the name ends with an empty segment, which means nothing.
  have hends : parts upper = (segments upper).dropLast.filter means := by
    have hsegments := segments_append hupper List.not_mem_nil
    rw [List.append_nil] at hsegments
    rw [parts, hsegments, List.dropLast_concat, List.filter_append,
      List.filter_cons_of_neg (by decide), List.filter_nil, List.append_nil]
  rw [hends, parts, segments_append hupper hname, List.filter_append,
    List.filter_cons_of_pos hmeans, List.filter_nil]

theorem parts_front (dir : PathText) : parts (front dir) = parts dir := by
  unfold front
  split
  · rfl
  · rw [parts, segments, List.splitOn_append_cons_self, List.splitOn_nil, List.filter_append,
      List.filter_cons_of_neg (by decide), List.filter_nil, List.append_nil]
    rfl

theorem isAbsolute_front_append (dir : PathText) (hname : '/' ∉ name) :
    isAbsolute (front dir ++ name) = isAbsolute dir := by
  cases dir with
  | nil =>
    refine decide_eq_false fun hhead => hname ?_
    exact List.mem_of_mem_head? hhead
  | cons c cs =>
    unfold front
    split <;> rfl

theorem liesIn_front_append (dir : PathText) (hname : '/' ∉ name) (hlength : 3 ≤ name.length) :
    LiesIn (front dir ++ name) dir name where
  isAbsolute_eq := isAbsolute_front_append dir hname
  parts_eq := by
    rw [parts_append (opens_front dir) hname (means_of_length (Nat.le_of_succ_le hlength)),
      parts_front]
  fileName?_eq :=
    fileName?_append (opens_front dir) hname (means_of_length (Nat.le_of_succ_le hlength))
      (ne_upward_of_length hlength)

/-- Under one directory paths with the same parts have the same name. -/
theorem LiesIn.name_eq {path path' : PathText} {name' : List Char} (H : LiesIn path dir name)
    (H' : LiesIn path' dir name') (h : path.parts = path'.parts) : name = name' := by
  rw [H.parts_eq, H'.parts_eq] at h
  exact List.singleton_inj.mp (List.append_cancel_left h)

end PathText

/-! ### Names of images -/

namespace DirectoryStore

variable {s after : DirectoryStore} {n k : Nat} {m : Mishaps} {r : ImageRecord} {place : Place}

theorem imageName_inj {first : List Char} {extension : String}
    (h : imageName first n extension = imageName first k extension) : n = k :=
  padded_inj (List.append_cancel_left (List.append_cancel_right h))

theorem imageName_tmp_ne_ppm (first : List Char) (n k : Nat) :
    imageName first n "tmp" ≠ imageName first k "ppm" := fun h =>
  absurd (List.append_inj_right' h rfl) (by decide)

theorem liesIn_pathFor (hstem : '/' ∉ s.stem) (n : Nat) :
    (s.pathFor n).LiesIn s.dir (imageName s.stem n "ppm") := by
  rw [(named_of_plain hstem).path_eq]
  exact PathText.liesIn_front_append s.dir (notMem_imageName hstem n (by decide))
    (le_length_imageName s.stem n "ppm")

theorem liesIn_temporaryFor (hstem : '/' ∉ s.stem) (n : Nat) :
    (s.temporaryFor n).LiesIn s.dir (imageName s.stem n "tmp") := by
  rw [(named_of_plain hstem).temporary_eq]
  exact PathText.liesIn_front_append s.dir (notMem_imageName hstem n (by decide))
    (le_length_imageName s.stem n "tmp")

/-! ### Files of other images -/

/-- Storing an image does not touch the places of other images. -/
theorem Outcome.entry?_of_ne {result : Except (Trouble SinkError) Nat}
    (H : s.Outcome m r (after, result)) (hne : r.sequence ≠ n)
    (hfollow : s.tree.follow (s.pathFor n) = .ok place) :
    after.tree.entry? place = s.tree.entry? place := by
  refine Classical.byContradiction fun hchanged => ?_
  obtain hpath | htemporary := H.follow_of_changed hchanged
  · exact hne (number_unique hpath hfollow)
  · exact follow_pathFor_ne htemporary hfollow

theorem SamePaths.read_pathFor_iff (H : s.SamePaths after) {bytes : Bytes}
    (hkept : ∀ place, s.tree.follow (s.pathFor n) = .ok place →
      after.tree.entry? place = s.tree.entry? place) :
    after.tree.read (s.pathFor n) = .ok bytes ↔ s.tree.read (s.pathFor n) = .ok bytes := by
  rw [FileTree.read_eq_ok_iff, FileTree.read_eq_ok_iff]
  refine exists_congr fun place => ?_
  rw [← H.directories.follow_iff]
  exact and_congr_right fun hfollow => by rw [hkept place hfollow]

/-- The file of a stored image is read from its path. -/
theorem Outcome.read_pathFor (H : s.Outcome m r (after, .ok k)) :
    after.tree.read (s.pathFor r.sequence) = .ok r.file := by
  obtain ⟨-, temporary, final, hreaches, htree⟩ := H.of_ok
  refine FileTree.read_eq_ok_iff.mpr ⟨final, ?_, ?_⟩
  · exact H.samePaths.directories.follow hreaches.follow_final
  · rw [htree, hreaches.entry?_moved, if_pos rfl]

/-! ### A run of images -/

/-- Stores images one after another, each while something may go wrong. -/
def storeEach (s : DirectoryStore) : List (Mishaps × ImageRecord) → DirectoryStore
  | [] => s
  | (m, r) :: rest => (s.storeWith m r).1.storeEach rest

theorem read_storeEach_iff {jobs : List (Mishaps × ImageRecord)}
    (hothers : ∀ job ∈ jobs, job.2.sequence ≠ n) {bytes : Bytes} :
    (s.storeEach jobs).tree.read (s.pathFor n) = .ok bytes ↔
      s.tree.read (s.pathFor n) = .ok bytes := by
  induction jobs generalizing s with
  | nil => exact Iff.rfl
  | cons job rest ih =>
    obtain ⟨hfirst, hrest⟩ := List.forall_mem_cons.mp hothers
    have H := s.storeWith_outcome job.1 job.2
    have hpaths : s.SamePaths (s.storeWith job.1 job.2).1 := H.samePaths
    have hlater := ih (s := (s.storeWith job.1 job.2).1) hrest
    rw [hpaths.pathFor_eq] at hlater
    exact hlater.trans (hpaths.read_pathFor_iff fun place => H.entry?_of_ne hfirst)

/-- In the store of an accepted configuration every image and every temporary file has a path in the
output directory itself. Two such paths differ unless they are for the same file of the same image.
So whatever is stored, and whatever goes wrong meanwhile, an image is read back as it was as long as
its own number does not come again, and one that was stored is read back whole. -/
theorem image_files_keep_apart (c : Configuration) (haccepted : c.validate.2 = .ok ())
    (tree : FileTree) :
    let s : DirectoryStore := ⟨tree, c.dir, c.stem.toList⟩
    (∀ n, (s.pathFor n).LiesIn c.dir (imageName c.stem.toList n "ppm") ∧
      (s.temporaryFor n).LiesIn c.dir (imageName c.stem.toList n "tmp")) ∧
    (∀ n k, (s.pathFor n).parts = (s.pathFor k).parts → n = k) ∧
    (∀ n k, (s.temporaryFor n).parts = (s.temporaryFor k).parts → n = k) ∧
    (∀ n k, (s.temporaryFor n).parts ≠ (s.pathFor k).parts) ∧
    (∀ n jobs, (∀ job ∈ jobs, job.2.sequence ≠ n) → ∀ bytes,
      (s.storeEach jobs).tree.read (s.pathFor n) = .ok bytes ↔
        s.tree.read (s.pathFor n) = .ok bytes) ∧
    ∀ m r size jobs, (s.storeWith m r).2 = .ok size →
      (∀ job ∈ jobs, job.2.sequence ≠ r.sequence) →
      ((s.storeWith m r).1.storeEach jobs).tree.read (s.pathFor r.sequence) = .ok r.file := by
  intro s
  have hstem : '/' ∉ s.stem := by
    have hplain := (Configuration.validate_eq_ok.mp haccepted).stem
    simpa using hplain
  refine ⟨fun n => ⟨liesIn_pathFor hstem n, liesIn_temporaryFor hstem n⟩, fun n k h => ?_,
    fun n k h => ?_, fun n k h => ?_, fun n jobs hothers bytes => read_storeEach_iff hothers,
    fun m r size jobs hstored hothers => ?_⟩
  · exact imageName_inj ((liesIn_pathFor hstem n).name_eq (liesIn_pathFor hstem k) h)
  · exact imageName_inj ((liesIn_temporaryFor hstem n).name_eq (liesIn_temporaryFor hstem k) h)
  · exact imageName_tmp_ne_ppm s.stem n k
      ((liesIn_temporaryFor hstem n).name_eq (liesIn_pathFor hstem k) h)
  · have H := s.storeWith_outcome m r
    generalize s.storeWith m r = result at H hstored ⊢
    obtain ⟨after, answer⟩ := result
    subst hstored
    have hread := (read_storeEach_iff (s := after) hothers).mpr
      (by rw [H.samePaths.pathFor_eq]; exact H.read_pathFor)
    rwa [H.samePaths.pathFor_eq] at hread

/-- A stem that begins with a dot and ends with a digit, in an absolute directory written with a slash
at its end. -/
def dottedStem : Configuration :=
  { Configuration.standardCount 1 with dir := "/out/".toList, stem := ".1" }

/-- Image 7 is stored, the disk is full when image 8 comes, and image 7 is still there, outside the
directory that the program works in. -/
theorem keep_apart_with_dotted_stem :
    let s : DirectoryStore :=
      ⟨⟨[(["out".toList], .directory), (["home".toList], .directory)], ["home".toList]⟩,
        "/out/".toList, ".1".toList⟩
    let r : ImageRecord := ⟨7, ⟨0, 0⟩, 1, 1, #[1, 2, 3]⟩
    let full : Mishaps := { Mishaps.none with pixels := some (1, .text "disk full") }
    dottedStem.validate.2 = .ok () ∧
    (s.pathFor 7).parts = ["out".toList, ".10007.ppm".toList] ∧
    (∀ n, (s.temporaryFor n).parts ≠ (s.pathFor 7).parts) ∧
    ((s.storeWith .none r).1.storeEach [(full, { r with sequence := 8 })]).tree.read
      (s.pathFor 7) = .ok r.file := by
  intro s r full
  have haccepted : dottedStem.validate.2 = .ok () := by
    have hvalid := Configuration.standardCount_valid (n := 1) (by decide)
    refine Configuration.validate_eq_ok.mpr ⟨hvalid.device, hvalid.buffers, ?_, hvalid.pipeline⟩
    simp [dottedStem]
  have hfinal : s.tree.follow (s.pathFor 7) = .ok ["out".toList, ".10007.ppm".toList] := by
    rw [pathFor, fileName, padded, decimal_of_lt (by decide)]
    rfl
  -- The path of the temporary file is not walked again: it ends like that of the image.
  have htemporary : s.tree.follow (s.temporaryFor 7) = .ok ["out".toList, ".10007.tmp".toList] := by
    obtain ⟨here, name, hplace, htemporary⟩ := follow_temporaryFor hfinal
    have hends : ["out".toList] ++ [".10007".toList ++ ".ppm".toList] =
        here ++ [name ++ ".ppm".toList] := hplace
    obtain ⟨rfl, hlast⟩ := List.append_inj' hends rfl
    rw [← List.append_cancel_right (List.singleton_inj.mp hlast)] at htemporary
    exact htemporary
  have hreaches : s.Reaches r.sequence ["out".toList, ".10007.tmp".toList]
      ["out".toList, ".10007.ppm".toList] :=
    ⟨htemporary, hfinal, by decide, by decide⟩
  have hanswer : ∃ size, (s.storeWith .none r).2 = .ok size :=
    (s.storeWith_outcome .none r).eq_ok_iff.mpr
      ⟨ImageRecord.check_eq_ok_iff.mpr ⟨by decide, by decide⟩, Mishaps.harmless_none r, _, _,
        hreaches⟩
  obtain ⟨size, hstored⟩ := hanswer
  obtain ⟨hlies, -, -, hne, -, hread⟩ := image_files_keep_apart dottedStem haccepted s.tree
  refine ⟨haccepted, ?_, fun n => hne n 7, hread .none r size _ hstored ?_⟩
  · have hparts := (hlies 7).1.parts_eq
    rw [imageName, padded, decimal_of_lt (by decide)] at hparts
    exact hparts
  · intro job hjob
    rw [List.mem_singleton.mp hjob]
    decide

end DirectoryStore
end TickCapture
