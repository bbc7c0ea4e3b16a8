import TickCapture.Proofs.Decimal.Digits
import TickCapture.Proofs.Store.Tree
import TickCapture.Store.Directory

/-! # Where the files of images lie

The path of an image ends with a name of its own behind a text that is the same for all images of a
store (`DirectoryStore.Named`), however many slashes or dots the stem has. So wherever the path of
an image leads, the path of its temporary file leads to the same directory, and there to the name
with the other extension; and no two images have one path, for the number in it reads back. -/

namespace TickCapture

/-! ### Names behind a text -/

namespace PathText

variable {p upper name stem old new : List Char}

/-- A name can be put behind it: nothing stands there, or a slash at the end. -/
def Opens (upper : PathText) : Prop := upper = [] ∨ ∃ above, upper = above ++ ['/']

theorem Opens.append (hupper : Opens upper) (hname : Opens name) : Opens (upper ++ name) := by
  rcases hname with rfl | ⟨above, rfl⟩
  · rwa [List.append_nil]
  · exact .inr ⟨upper ++ above, (List.append_assoc ..).symm⟩

/-- Every text ends with a name. -/
theorem exists_opens (p : List Char) :
    ∃ upper name, p = upper ++ name ∧ Opens upper ∧ '/' ∉ name := by
  induction p with
  | nil => exact ⟨[], [], rfl, .inl rfl, List.not_mem_nil⟩
  | cons c cs ih =>
    obtain ⟨upper, name, rfl, hupper, hname⟩ := ih
    rcases hupper with rfl | ⟨above, rfl⟩
    · by_cases hslash : c = '/'
      · exact ⟨[c], name, rfl, .inr ⟨[], by rw [hslash]; rfl⟩, hname⟩
      · refine ⟨[], c :: name, rfl, .inl rfl, ?_⟩
        rw [List.mem_cons, not_or]
        exact ⟨Ne.symm hslash, hname⟩
    · exact ⟨c :: (above ++ ['/']), name, rfl, .inr ⟨c :: above, rfl⟩, hname⟩

theorem segments_append (hupper : Opens upper) (hname : '/' ∉ name) :
    segments (upper ++ name) = (segments upper).dropLast ++ [name] := by
  unfold segments
  rcases hupper with rfl | ⟨above, rfl⟩
  · rw [List.nil_append, List.splitOn_eq_singleton hname]
    rfl
  · rw [List.append_assoc, List.singleton_append, List.splitOn_append_cons_self,
      List.splitOn_append_cons_self, List.splitOn_eq_singleton hname, List.splitOn_nil,
      List.dropLast_concat]

/-- Text that a directory gives to a name in it. -/
def front (dir : PathText) : PathText :=
  if dir = [] ∨ dir.getLast? = some '/' then dir else dir ++ ['/']

theorem opens_front (dir : PathText) : Opens (front dir) := by
  unfold front
  split
  · next h =>
    refine h.imp_right fun hlast => ?_
    exact List.getLast?_eq_some_iff.mp hlast
  · exact .inr ⟨dir, rfl⟩

theorem join_eq (dir : PathText) (h : isAbsolute name = false) :
    dir.join name = front dir ++ name := by
  unfold join front
  by_cases hnil : dir = []
  · simp [hnil]
  · by_cases hlast : dir.getLast? = some '/'
    · simp [hnil, hlast, h]
    · simp [hnil, hlast, h]

theorem join_of_isAbsolute (dir : PathText) (h : isAbsolute name = true) :
    dir.join name = name := by
  unfold join
  rw [h]
  rfl

theorem means_of_length (h : 2 ≤ name.length) : means name = true := by
  have hnil : name ≠ [] := by
    rintro rfl
    exact absurd h (by decide)
  have hdot : name ≠ ['.'] := by
    rintro rfl
    exact absurd h (by decide)
  simp [means, hnil, hdot]

theorem ne_upward_of_length (h : 3 ≤ name.length) : name ≠ ['.', '.'] := by
  rintro rfl
  exact absurd h (by decide)

/-! ### Extensions -/

theorem splitExtension_append (hne : stem ≠ []) (hold : '.' ∉ old) :
    splitExtension (stem ++ '.' :: old) = (stem, some old) := by
  have hall : ∀ c ∈ old.reverse, (decide (c ≠ '.')) = true := by
    intro c hc
    rw [decide_eq_true_eq]
    rintro rfl
    exact hold (List.mem_reverse.mp hc)
  have hreverse : (stem ++ '.' :: old).reverse = old.reverse ++ '.' :: stem.reverse := by simp
  obtain ⟨c, cs, hstem⟩ := List.exists_cons_of_ne_nil (mt List.reverse_eq_nil_iff.mp hne)
  have hdrop : (stem ++ '.' :: old).reverse.dropWhile (· ≠ '.') = '.' :: c :: cs := by
    rw [hreverse, hstem, List.dropWhile_append_of_pos hall]
    rfl
  have htake : (stem ++ '.' :: old).reverse.takeWhile (· ≠ '.') = old.reverse := by
    rw [hreverse, List.takeWhile_append_of_pos hall]
    simp
  unfold splitExtension
  rw [hdrop, htake, List.reverse_reverse]
  show ((c :: cs).reverse, some old) = _
  rw [← hstem, List.reverse_reverse]

theorem fileName?_append (hupper : Opens upper) (hname : '/' ∉ name) (hmeans : means name = true)
    (hdown : name ≠ ['.', '.']) : fileName? (upper ++ name) = some name := by
  have hlast : (parts (upper ++ name)).getLast? = some name := by
    rw [parts, segments_append hupper hname, List.filter_append,
      List.filter_cons_of_pos (by exact hmeans), List.filter_nil, List.getLast?_concat]
  rw [fileName?, hlast, Option.filter_some, if_pos (by simpa using hdown)]

theorem trimEnd_append (hupper : Opens upper) (hname : '/' ∉ name) (hmeans : means name = true) :
    trimEnd (upper ++ name) = upper ++ name := by
  have hkept : ((segments (upper ++ name)).reverse.dropWhile fun s => !means s) =
      (segments (upper ++ name)).reverse := by
    rw [segments_append hupper hname, List.reverse_append, List.reverse_singleton,
      List.singleton_append, List.dropWhile_cons_of_neg (by simpa using hmeans)]
  rw [trimEnd, hkept, List.reverse_reverse]
  exact List.intercalate_splitOn '/'

/-- The extension of a name is exchanged, whatever stands before the name. -/
theorem withExtension_append (hupper : Opens upper) (hstem : '/' ∉ stem) (hne : stem ≠ [])
    (hold : '/' ∉ old ∧ '.' ∉ old ∧ old ≠ []) :
    withExtension (upper ++ (stem ++ '.' :: old)) new = upper ++ (stem ++ '.' :: new) := by
  obtain ⟨hslash, hdot, hnil⟩ := hold
  have hlength : 3 ≤ (stem ++ '.' :: old).length := by
    have := List.length_pos_iff.mpr hne
    have := List.length_pos_iff.mpr hnil
    rw [List.length_append, List.length_cons]
    omega
  have hname : '/' ∉ stem ++ '.' :: old := by simp [hstem, hslash]
  have hmeans := means_of_length (Nat.le_of_succ_le hlength)
  unfold withExtension
  rw [fileName?_append hupper hname hmeans (ne_upward_of_length hlength)]
  simp only [trimEnd_append hupper hname hmeans, splitExtension_append hne hdot]
  rw [List.length_append, Nat.add_sub_cancel, List.take_left, List.append_assoc]

end PathText

/-! ### The names of images -/

namespace DirectoryStore

/-- The name of a file for image `n`. -/
def imageName (first : List Char) (n : Nat) (extension : String) : List Char :=
  first ++ padded 4 n ++ '.' :: extension.toList

/-- All files of a store have names behind the same text, and the same text begins their names. -/
structure Named (s : DirectoryStore) (upper : PathText) (first : List Char) : Prop where
  opens : PathText.Opens upper
  plain : '/' ∉ first
  path_eq : ∀ n, s.pathFor n = upper ++ imageName first n "ppm"

variable {s : DirectoryStore} {upper : PathText} {first : List Char} {n : Nat}

theorem fileName_eq (first : List Char) (n : Nat) :
    fileName first n = imageName first n "ppm" := rfl

/-- A stem decides whether the names that begin with it are absolute paths: digits are none. -/
theorem isAbsolute_fileName (stem : List Char) (n : Nat) :
    PathText.isAbsolute (fileName stem n) = PathText.isAbsolute stem := by
  cases stem with
  | cons c cs => rfl
  | nil =>
    obtain ⟨d, ds, hdigits⟩ := List.exists_cons_of_ne_nil (padded_ne_nil 4 n)
    have hne : d ≠ '/' := by
      rintro rfl
      exact notMem_padded rfl 4 n (by rw [hdigits]; exact List.mem_cons_self)
    have hhead : (fileName [] n).head? = some d := by
      rw [fileName, List.nil_append, hdigits]
      rfl
    rw [PathText.isAbsolute, hhead, decide_eq_false (by simpa using hne)]
    rfl

theorem exists_named (s : DirectoryStore) : ∃ upper first, s.Named upper first := by
  obtain ⟨above, first, hstem, habove, hfirst⟩ := PathText.exists_opens s.stem
  have hname (n : Nat) : fileName s.stem n = above ++ imageName first n "ppm" := by
    rw [hstem, ← fileName_eq, fileName, fileName, List.append_assoc, List.append_assoc,
      List.append_assoc]
  cases habsolute : PathText.isAbsolute s.stem with
  | true =>
    refine ⟨above, first, habove, hfirst, fun n => ?_⟩
    rw [pathFor, PathText.join_of_isAbsolute _ ((isAbsolute_fileName _ n).trans habsolute), hname]
  | false =>
    refine ⟨PathText.front s.dir ++ above, first, (PathText.opens_front _).append habove, hfirst,
      fun n => ?_⟩
    rw [pathFor, PathText.join_eq _ ((isAbsolute_fileName _ n).trans habsolute), hname,
      List.append_assoc]

/-- A stem without a slash begins the names of files that lie in the directory itself. -/
theorem named_of_plain (h : '/' ∉ s.stem) : s.Named (PathText.front s.dir) s.stem where
  opens := PathText.opens_front _
  plain := h
  path_eq n := by
    have habsolute : PathText.isAbsolute s.stem = false := by
      refine decide_eq_false fun hhead => h ?_
      exact List.mem_of_mem_head? hhead
    rw [pathFor, PathText.join_eq _ ((isAbsolute_fileName _ n).trans habsolute), fileName_eq]

namespace Named

/-- The temporary file has the same name up to the extension. -/
theorem temporary_eq (H : s.Named upper first) (n : Nat) :
    s.temporaryFor n = upper ++ imageName first n "tmp" := by
  have hstem : '/' ∉ first ++ padded 4 n := by
    rw [List.mem_append, not_or]
    exact ⟨H.plain, notMem_padded rfl 4 n⟩
  have hne : first ++ padded 4 n ≠ [] := List.append_ne_nil_of_right_ne_nil _ (padded_ne_nil 4 n)
  rw [temporaryFor, H.path_eq]
  exact PathText.withExtension_append H.opens hstem hne (by decide)

end Named
end DirectoryStore

/-! ### Where names lead -/

namespace FileTree

/-- A name behind a text leads into a directory. -/
structure Leads (t : FileTree) (upper : PathText) (name : List Char) (here : Place) : Prop where
  followable : Followable (upper ++ name)
  short : byteCount name ≤ nameLimit
  entered : (PathText.segments upper).dropLast.foldlM t.enter (t.start (upper ++ name)) = .ok here
  directory : t.entry? here = some .directory

variable {t : FileTree} {upper : PathText} {name old new : List Char} {here place : Place}

theorem byteCount_append (cs ds : List Char) :
    byteCount (cs ++ ds) = byteCount cs + byteCount ds := by
  induction cs with
  | nil => exact (Nat.zero_add _).symm
  | cons c cs ih =>
    rw [List.cons_append]
    show c.utf8Size + byteCount (cs ++ ds) = c.utf8Size + byteCount cs + byteCount ds
    rw [ih, Nat.add_assoc]

/-- The front of a text tells where its path starts. -/
theorem start_append (t : FileTree) {path : PathText} (hne : path ≠ []) (rest : PathText) :
    t.start (path ++ rest) = t.start path := by
  obtain ⟨c, cs, rfl⟩ := List.exists_cons_of_ne_nil hne
  rfl

theorem follow_append_iff (hupper : PathText.Opens upper) (hname : '/' ∉ name)
    (hlength : 3 ≤ name.length) :
    t.follow (upper ++ name) = .ok place ↔
      ∃ here, t.Leads upper name here ∧ place = here ++ [name] := by
  have hmeans := PathText.means_of_length (Nat.le_of_succ_le hlength)
  have hdown := PathText.ne_upward_of_length hlength
  rw [follow_eq_ok_iff, PathText.segments_append hupper hname, List.foldlM_append]
  constructor
  · rintro ⟨hfollowable, h⟩
    obtain ⟨here, hentered, h⟩ := bind_eq_ok h
    rw [List.foldlM_cons] at h
    obtain ⟨last, hlast, h⟩ := bind_eq_ok h
    cases h
    obtain ⟨hdirectory, hshort, hplace⟩ := (enter_eq_ok_iff hmeans hdown).mp hlast
    exact ⟨here, ⟨hfollowable, hshort, hentered, hdirectory⟩, hplace⟩
  · rintro ⟨here, H, rfl⟩
    have hlast := (enter_eq_ok_iff hmeans hdown).mpr ⟨H.directory, H.short, rfl⟩
    refine ⟨H.followable, ?_⟩
    rw [H.entered]
    show (List.foldlM t.enter here [name] : Except IoError Place) = _
    rw [List.foldlM_cons, hlast]
    rfl

/-- An extension of the same size leads to the same directory. -/
theorem Leads.exchange (H : t.Leads upper (name ++ old) here) (hne : name ≠ [])
    (hnul : old.contains '\x00' = new.contains '\x00') (hcount : byteCount old = byteCount new) :
    t.Leads upper (name ++ new) here where
  followable := by
    obtain ⟨hno, -, hfits⟩ := H.followable
    refine ⟨?_, by simp [hne], ?_⟩
    · rw [← List.append_assoc] at hno ⊢
      rw [List.contains_append] at hno ⊢
      rwa [← hnul]
    · rw [← List.append_assoc, byteCount_append] at hfits ⊢
      rwa [← hcount]
  short := by
    have hshort := H.short
    rw [byteCount_append] at hshort ⊢
    rwa [← hcount]
  entered := by
    have hne : upper ++ name ≠ [] := List.append_ne_nil_of_right_ne_nil upper hne
    have hentered := H.entered
    rwa [← List.append_assoc, t.start_append hne] at hentered ⊢
  directory := H.directory

end FileTree

namespace DirectoryStore

variable {s : DirectoryStore} {t : FileTree} {upper : PathText} {first : List Char} {n m : Nat}
  {place : Place}

theorem notMem_imageName (hfirst : '/' ∉ first) (n : Nat) {extension : String}
    (hextension : '/' ∉ extension.toList) : '/' ∉ imageName first n extension := by
  have hdigits : '/' ∉ padded 4 n := notMem_padded rfl 4 n
  simp [imageName, hfirst, hdigits, hextension]

theorem le_length_imageName (first : List Char) (n : Nat) (extension : String) :
    3 ≤ (imageName first n extension).length := by
  have := le_length_padded 4 n
  simp only [imageName, List.length_append, List.length_cons]
  omega

namespace Named

theorem follow_pathFor_iff (H : s.Named upper first) :
    t.follow (s.pathFor n) = .ok place ↔
      ∃ here, t.Leads upper (imageName first n "ppm") here ∧
        place = here ++ [imageName first n "ppm"] := by
  rw [H.path_eq]
  exact FileTree.follow_append_iff H.opens (notMem_imageName H.plain n (by decide))
    (le_length_imageName first n "ppm")

theorem follow_temporaryFor_iff (H : s.Named upper first) :
    t.follow (s.temporaryFor n) = .ok place ↔
      ∃ here, t.Leads upper (imageName first n "ppm") here ∧
        place = here ++ [imageName first n "tmp"] := by
  have hne : first ++ padded 4 n ≠ [] := List.append_ne_nil_of_right_ne_nil _ (padded_ne_nil 4 n)
  have hleads (here : Place) : t.Leads upper (imageName first n "tmp") here ↔
      t.Leads upper (imageName first n "ppm") here := by
    constructor
    · exact fun h => h.exchange hne (by decide) (by decide)
    · exact fun h => h.exchange hne (by decide) (by decide)
  rw [H.temporary_eq, FileTree.follow_append_iff H.opens (notMem_imageName H.plain n (by decide))
    (le_length_imageName first n "tmp")]
  simp only [hleads]

end Named

/-- Wherever the path of an image leads, there is the place of its temporary file, under the other
extension. -/
theorem follow_temporaryFor (h : t.follow (s.pathFor n) = .ok place) :
    ∃ here name, place = here ++ [name ++ ".ppm".toList] ∧
      t.follow (s.temporaryFor n) = .ok (here ++ [name ++ ".tmp".toList]) := by
  obtain ⟨upper, first, H⟩ := s.exists_named
  obtain ⟨here, hleads, rfl⟩ := H.follow_pathFor_iff.mp h
  exact ⟨here, first ++ padded 4 n, rfl, H.follow_temporaryFor_iff.mpr ⟨here, hleads, rfl⟩⟩

theorem follow_pathFor (h : t.follow (s.temporaryFor n) = .ok place) :
    ∃ here name, place = here ++ [name ++ ".tmp".toList] ∧
      t.follow (s.pathFor n) = .ok (here ++ [name ++ ".ppm".toList]) := by
  obtain ⟨upper, first, H⟩ := s.exists_named
  obtain ⟨here, hleads, rfl⟩ := H.follow_temporaryFor_iff.mp h
  exact ⟨here, first ++ padded 4 n, rfl, H.follow_pathFor_iff.mpr ⟨here, hleads, rfl⟩⟩

theorem temporary_ne_image {here here' : Place} {name name' : List Char} :
    here ++ [name ++ ".tmp".toList] ≠ here' ++ [name' ++ ".ppm".toList] := by
  intro h
  -- The lengths are told by lemmas: with `rfl` the names would be compared letter by letter.
  have hone (name : List Char) : [name].length = 1 := List.length_singleton
  have hlast := List.singleton_inj.mp (List.append_inj' h ((hone _).trans (hone _).symm)).2
  have hextension := (List.append_inj' hlast (by decide)).2
  exact absurd hextension (by decide)

/-- No temporary file lies where an image does. -/
theorem follow_pathFor_ne (h : t.follow (s.temporaryFor m) = .ok place) :
    t.follow (s.pathFor n) ≠ .ok place := by
  intro hpath
  obtain ⟨here, name, rfl, -⟩ := follow_pathFor h
  obtain ⟨here', name', hplace, -⟩ := follow_temporaryFor hpath
  exact temporary_ne_image hplace

/-- Images with different numbers do not lie at the same place. -/
theorem number_unique (h : t.follow (s.pathFor n) = .ok place)
    (h' : t.follow (s.pathFor m) = .ok place) : n = m := by
  obtain ⟨upper, first, H⟩ := s.exists_named
  obtain ⟨here, -, rfl⟩ := H.follow_pathFor_iff.mp h
  obtain ⟨here', -, heq⟩ := H.follow_pathFor_iff.mp h'
  have hname := List.singleton_inj.mp (List.append_inj' heq rfl).2
  exact padded_inj (List.append_cancel_left (List.append_cancel_right hname))

/-- With a stem that has no slash the images lie in the directory of the store. -/
theorem place_of_plain {here : Place} (hstem : '/' ∉ s.stem) (hdir : t.follow s.dir = .ok here)
    (h : t.follow (s.pathFor n) = .ok place) : place = here ++ [fileName s.stem n] := by
  obtain ⟨found, hleads, rfl⟩ := (named_of_plain hstem).follow_pathFor_iff.mp h
  obtain ⟨hfollowable, hentered⟩ := FileTree.follow_eq_ok_iff.mp hdir
  have hfound := hleads.entered
  by_cases hlast : s.dir.getLast? = some '/'
  · -- The slash at the end is followed by an empty segment, which leads nowhere else.
    obtain ⟨above, habove⟩ := List.getLast?_eq_some_iff.mp hlast
    have hsegments := PathText.segments_append (.inr ⟨above, habove⟩) List.not_mem_nil
    have hstay : t.enter found [] = .ok found := by
      rw [FileTree.enter, hleads.directory]
      exact if_pos (.inl rfl)
    rw [PathText.front, if_pos (.inr hlast), t.start_append hfollowable.ne_nil] at hfound
    rw [List.append_nil] at hsegments
    rw [hsegments, List.foldlM_append, hfound] at hentered
    have hhere : [[]].foldlM t.enter found = .ok here := hentered
    rw [List.foldlM_cons, hstay] at hhere
    cases hhere
    rfl
  · have hfront : PathText.front s.dir = s.dir ++ ['/'] :=
      if_neg (not_or.mpr ⟨hfollowable.ne_nil, hlast⟩)
    have hsegments : (PathText.segments (PathText.front s.dir)).dropLast = s.dir.segments := by
      rw [hfront, PathText.segments, List.splitOn_append_cons_self, List.splitOn_nil,
        List.dropLast_concat, PathText.segments]
    rw [hsegments, hfront, List.append_assoc, t.start_append hfollowable.ne_nil, hentered] at hfound
    cases hfound
    rfl

end DirectoryStore
end TickCapture
