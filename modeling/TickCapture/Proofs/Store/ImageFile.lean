import TickCapture.Proofs.Decimal.Digits
import TickCapture.Store.Image

/-! # Image files decode uniquely

The header of an image file ends with the first `\n255\n` of the file, whatever its numbers are and
whatever pixel bytes come behind it: each of the other two line breaks of a header is followed by the
first character of the next line, which is no digit. So a file is cut at the right place, and since
decimal fields read back, the four numbers of the header and the pixels are found again. -/

namespace TickCapture
namespace Ppm

variable {c : Char} {b : UInt8} {bs head rest : List UInt8} {cs cs' : List Char} {n width : Nat}

/-! ### Cutting a file -/

/-- What is cut off ends with a terminator, and no terminator ends before it. -/
theorem cut?_eq_some (h : cut? bs = some (head, rest)) :
    bs = head ++ rest ∧ terminator <:+ head ∧
      ∀ k, terminator <+: bs.drop k → head.length ≤ k + terminator.length := by
  induction bs generalizing head rest with
  | nil => cases h
  | cons b bs ih =>
    rw [cut?] at h
    split at h
    · next hstarts =>
      have hprefix := List.isPrefixOf_iff_prefix.mp hstarts
      have hhead : (b :: bs).take terminator.length = terminator :=
        (List.prefix_iff_eq_take.mp hprefix).symm
      cases h
      refine ⟨(List.take_append_drop _ _).symm, ?_, fun k _ => ?_⟩
      · simp only [hhead, List.suffix_rfl]
      · rw [hhead]
        exact Nat.le_add_left _ _
    · next hstarts =>
      obtain ⟨⟨head', rest'⟩, hcut, hout⟩ := Option.map_eq_some_iff.mp h
      cases hout
      obtain ⟨rfl, hsuffix, hfirst⟩ := ih hcut
      refine ⟨rfl, hsuffix.trans (List.suffix_cons _ _), fun k hk => ?_⟩
      cases k with
      | zero => exact absurd (List.isPrefixOf_iff_prefix.mpr hk) hstarts
      | succ k =>
        have := hfirst k hk
        rw [List.length_cons]
        omega

theorem cut?_terminator (rest : List UInt8) : cut? (terminator ++ rest) = some (terminator, rest) :=
  rfl

/-- No terminator begins with another byte than a line break, or before another digit than a two. -/
theorem cut?_cons (h : b ≠ 10 ∨ bs.head? ≠ some 50) :
    cut? (b :: bs) = (cut? bs).map fun (head, rest) => (b :: head, rest) := by
  rw [cut?, if_neg]
  intro hstarts
  obtain ⟨tail, htail⟩ := List.isPrefixOf_iff_prefix.mp hstarts
  obtain ⟨hb, hbs⟩ := List.cons.inj htail
  obtain h | h := h
  · exact h hb.symm
  · exact h (by rw [← hbs]; rfl)

/-- A text without a line break is passed over. -/
theorem cut?_append {line : List UInt8} (h : ∀ b ∈ line, b ≠ 10) (bs : List UInt8) :
    cut? (line ++ bs) = (cut? bs).map fun (head, rest) => (line ++ head, rest) := by
  induction line with
  | nil => simp
  | cons b line ih =>
    rw [List.cons_append, cut?_cons (.inl (h b List.mem_cons_self)),
      ih fun b hb => h b (List.mem_cons_of_mem _ hb), Option.map_map]
    rfl

/-! ### The lines of a header -/

/-- A character that may stand within a line of a header. -/
def Inline (c : Char) : Prop := c ≠ '\n' ∧ c.toNat < 128

/-- The character that an ASCII byte stands for. -/
def asciiChar (b : UInt8) : Char := Char.ofNat b.toNat

theorem inline_of_isDigit (h : isDigit c = true) : Inline c := by
  simp only [isDigit, Bool.and_eq_true, decide_eq_true_eq] at h
  have hle : c.toNat ≤ 57 := h.2
  refine ⟨?_, Nat.lt_of_le_of_lt hle (by decide)⟩
  rintro rfl
  exact absurd h.1 (by decide)

theorem asciiChar_asciiByte (h : c.toNat < 128) : asciiChar (asciiByte c) = c := by
  have hbyte : (asciiByte c).toNat = c.toNat := by
    rw [asciiByte, Nat.toUInt8_eq, UInt8.toNat_ofNat']
    omega
  rw [asciiChar, hbyte, Char.ofNat_toNat]

theorem asciiByte_ne (h : c.toNat < 128) (hne : c ≠ asciiChar b) : asciiByte c ≠ b := by
  rintro rfl
  exact hne (asciiChar_asciiByte h).symm

/-- A line is passed over with the break before it unless it begins as the terminator goes on. -/
theorem cut?_line {line : List Char} (hhead : ∃ c, line.head? = some c ∧ c ≠ '2')
    (h : ∀ c ∈ line, Inline c) (bs : List UInt8) :
    cut? (10 :: (line.map asciiByte ++ bs)) =
      (cut? bs).map fun (head, rest) => (10 :: (line.map asciiByte ++ head), rest) := by
  have hline : ∀ b ∈ line.map asciiByte, b ≠ 10 :=
    List.forall_mem_map.mpr fun c hc => asciiByte_ne (h c hc).2 (h c hc).1
  have hdigit : (line.map asciiByte ++ bs).head? ≠ some 50 := by
    obtain ⟨c, hc, hne⟩ := hhead
    have hmem : c ∈ line := List.mem_of_mem_head? hc
    rw [List.head?_append, List.head?_map, hc, Option.map_some, Option.some_or, ne_eq,
      Option.some_inj]
    exact asciiByte_ne (h c hmem).2 hne
  rw [cut?_cons (.inr hdigit), cut?_append hline, Option.map_map]
  rfl

/-- The second line: when the frame was taken. -/
def timeLine (time : WallTime) : List Char :=
  '#' :: (padded 10 time.secs.toNat ++ (" sec ".toList ++ (padded 10 time.millis.toNat ++
    " msec ".toList)))

/-- The third line: the size of the image. -/
def sizeLine (width height : UInt32) : List Char :=
  ' ' :: (decimal width.toNat ++ ' ' :: (decimal height.toNat ++ [' ']))

theorem headerText_eq (time : WallTime) (width height : UInt32) :
    headerText time width height =
      "P6".toList ++ '\n' :: (timeLine time ++ '\n' :: (sizeLine width height ++
        "\n255\n".toList)) := by
  have hfirst : "P6\n#".toList = "P6".toList ++ ['\n', '#'] := rfl
  have hsecond : " msec \n ".toList = " msec ".toList ++ ['\n', ' '] := rfl
  have hthird : " \n255\n".toList = ' ' :: "\n255\n".toList := rfl
  unfold headerText timeLine sizeLine
  simp only [hfirst, hsecond, hthird, List.append_assoc, List.cons_append, List.nil_append]

theorem inline_timeLine (time : WallTime) : ∀ c ∈ timeLine time, Inline c := by
  have hfield (n : Nat) : ∀ c ∈ padded 10 n, Inline c := fun _ h =>
    inline_of_isDigit (isDigit_of_mem_padded h)
  have hsec : ∀ c ∈ " sec ".toList, Inline c := by simp [Inline]
  have hmsec : ∀ c ∈ " msec ".toList, Inline c := by simp [Inline]
  unfold timeLine
  rw [List.forall_mem_cons, List.forall_mem_append, List.forall_mem_append,
    List.forall_mem_append]
  exact ⟨⟨by decide, by decide⟩, hfield _, hsec, hfield _, hmsec⟩

theorem inline_sizeLine (width height : UInt32) : ∀ c ∈ sizeLine width height, Inline c := by
  have hnumber (n : Nat) : ∀ c ∈ decimal n, Inline c := fun _ h =>
    inline_of_isDigit (isDigit_of_mem_decimal h)
  have hblank : Inline ' ' := ⟨by decide, by decide⟩
  unfold sizeLine
  rw [List.forall_mem_cons, List.forall_mem_append, List.forall_mem_cons, List.forall_mem_append,
    List.forall_mem_singleton]
  exact ⟨hblank, hnumber _, hblank, hnumber _, hblank⟩

/-- Read as text again, the bytes of a header are its characters. -/
theorem asciiChar_header (time : WallTime) (width height : UInt32) :
    (header time width height).toList.map asciiChar = headerText time width height := by
  have hascii : ∀ c ∈ headerText time width height, c.toNat < 128 := by
    have hmagic : ∀ c ∈ "P6".toList, c.toNat < 128 := by simp
    have hend : ∀ c ∈ "\n255\n".toList, c.toNat < 128 := by simp
    rw [headerText_eq]
    simp only [List.forall_mem_append, List.forall_mem_cons]
    exact ⟨hmagic, by decide, fun c h => (inline_timeLine time c h).2, by decide,
      fun c h => (inline_sizeLine width height c h).2, hend⟩
  rw [header, List.map_map]
  exact (List.map_congr_left fun c h => asciiChar_asciiByte (hascii c h)).trans (List.map_id _)

/-! ### Reading a header -/

theorem skip?_append (text : String) (cs : List Char) :
    skip? text (text.toList ++ cs) = some cs := by
  simp [skip?]

/-- A field is read up to the first character behind it, which is no digit. -/
theorem number?_append (width n : Nat) (h : cs.head?.any isDigit = false) :
    number? (padded width n ++ cs) = some (n, cs) := by
  have hall : ∀ d ∈ padded width n, isDigit d = true := fun _ => isDigit_of_mem_padded
  have hend : cs.takeWhile isDigit = [] ∧ cs.dropWhile isDigit = cs := by
    cases cs with
    | nil => exact ⟨rfl, rfl⟩
    | cons c cs =>
      have hc : ¬isDigit c = true := by simpa using h
      exact ⟨List.takeWhile_cons_of_neg hc, List.dropWhile_cons_of_neg hc⟩
  rw [number?, List.takeWhile_append_of_pos hall, List.dropWhile_append_of_pos hall, hend.1, hend.2,
    List.append_nil, decimal?_padded]
  rfl

theorem number?_decimal_append (n : Nat) (h : cs.head?.any isDigit = false) :
    number? (decimal n ++ cs) = some (n, cs) := by
  rw [← padded_zero]
  exact number?_append 0 n h

theorem parseHeader?_headerText (time : WallTime) (width height : UInt32) :
    parseHeader? (headerText time width height) =
      some (time.secs.toNat, time.millis.toNat, width.toNat, height.toNat) := by
  have hlast : skip? " \n255\n" " \n255\n".toList = some [] := rfl
  have hspace : [' '] = " ".toList := rfl
  unfold parseHeader? headerText
  rw [hspace]
  simp only [List.append_assoc]
  rw [skip?_append, Option.bind_eq_bind, Option.bind_some, number?_append _ _ rfl]
  simp only [Option.bind_eq_bind, Option.bind_some]
  rw [skip?_append, Option.bind_some, number?_append _ _ rfl]
  simp only [Option.bind_some]
  rw [skip?_append, Option.bind_some, number?_decimal_append _ rfl]
  simp only [Option.bind_some]
  rw [skip?_append, Option.bind_some, number?_decimal_append _ rfl]
  simp only [Option.bind_some]
  rw [hlast]
  rfl

/-! ### Whole files -/

/-- The bytes of a header, line by line. -/
theorem toList_header (time : WallTime) (width height : UInt32) :
    (header time width height).toList =
      "P6".toList.map asciiByte ++ 10 :: ((timeLine time).map asciiByte ++
        10 :: ((sizeLine width height).map asciiByte ++ terminator)) := by
  have hbreak : asciiByte '\n' = 10 := rfl
  rw [header, headerText_eq]
  simp only [List.map_append, List.map_cons, hbreak, terminator]

/-- The first terminator of a file is the one that its header ends with: behind the first two line
breaks stand a `#` and a blank. -/
theorem cut?_encode (time : WallTime) (width height : UInt32) (pixels : Bytes) :
    cut? (encode time width height pixels).toList =
      some ((header time width height).toList, pixels.toList) := by
  have hmagic : ∀ b ∈ "P6".toList.map asciiByte, b ≠ 10 := by simp [asciiByte]
  have htime := cut?_line ⟨'#', rfl, by decide⟩ (inline_timeLine time)
  have hsize := cut?_line ⟨' ', rfl, by decide⟩ (inline_sizeLine width height)
  rw [encode, Array.toList_append, toList_header]
  simp only [List.append_assoc, List.cons_append]
  rw [cut?_append hmagic, htime, hsize, cut?_terminator]
  rfl

theorem split_encode (time : WallTime) (width height : UInt32) (pixels : Bytes) :
    split (encode time width height pixels) = (header time width height, pixels) := by
  rw [split, cut?_encode]

/-- The header at the front of a file as numbers, and the pixels behind it. -/
def decode? (file : Bytes) : Option ((Nat × Nat × Nat × Nat) × Bytes) :=
  (parseHeader? ((split file).1.toList.map asciiChar)).map fun fields => (fields, (split file).2)

theorem decode?_encode (time : WallTime) (width height : UInt32) (pixels : Bytes) :
    decode? (encode time width height pixels) =
      some ((time.secs.toNat, time.millis.toNat, width.toNat, height.toNat), pixels) := by
  rw [decode?, split_encode, asciiChar_header, parseHeader?_headerText]
  rfl

/-- Files that agree were written from the same time, size and pixels. -/
theorem encode_inj {time time' : WallTime} {width width' height height' : UInt32}
    {pixels pixels' : Bytes}
    (h : encode time width height pixels = encode time' width' height' pixels') :
    time = time' ∧ width = width' ∧ height = height' ∧ pixels = pixels' := by
  have hdecode := decode?_encode time width height pixels
  rw [h, decode?_encode, Option.some_inj] at hdecode
  obtain ⟨⟨hsecs, hmillis, hwidth, hheight⟩, hpixels⟩ := by simpa only [Prod.mk.injEq] using hdecode
  refine ⟨?_, UInt32.toNat_inj.mp hwidth.symm, UInt32.toNat_inj.mp hheight.symm, hpixels.symm⟩
  cases time
  cases time'
  cases UInt64.toNat_inj.mp hsecs
  cases UInt32.toNat_inj.mp hmillis
  rfl

/-! ### The places of the time fields -/

/-- A number in a field of ten digits. -/
def fieldBytes (n : Nat) : Bytes := ((padded 10 n).map asciiByte).toArray

/-- The bytes of a header between two places, from its text. -/
theorem extract_header {time : WallTime} {width height : UInt32} {before field after : List Char}
    (h : headerText time width height = before ++ (field ++ after)) :
    (header time width height).extract before.length (before.length + field.length) =
      (field.map asciiByte).toArray := by
  rw [header, h, List.extract_toArray, List.extract, Nat.add_sub_cancel_left]
  simp

theorem extract_secs {time : WallTime} (h : time.secs.toNat < 10 ^ 10) (width height : UInt32) :
    (header time width height).extract 4 14 = fieldBytes time.secs.toNat := by
  have htext : headerText time width height = "P6\n#".toList ++ (padded 10 time.secs.toNat ++
      (" sec ".toList ++ (padded 10 time.millis.toNat ++ (" msec \n ".toList ++
        (decimal width.toNat ++ ([' '] ++ (decimal height.toNat ++ " \n255\n".toList))))))) := by
    unfold headerText
    simp only [List.append_assoc]
  have hextract := extract_header htext
  rwa [length_padded (by decide) h] at hextract

theorem extract_millis {time : WallTime} (h : time.secs.toNat < 10 ^ 10) (width height : UInt32) :
    (header time width height).extract 19 29 = fieldBytes time.millis.toNat := by
  have htext : headerText time width height =
      ("P6\n#".toList ++ padded 10 time.secs.toNat ++ " sec ".toList) ++
        (padded 10 time.millis.toNat ++ (" msec \n ".toList ++
          (decimal width.toNat ++ ([' '] ++ (decimal height.toNat ++ " \n255\n".toList))))) := by
    unfold headerText
    simp only [List.append_assoc]
  have hmillis : time.millis.toNat < 10 ^ 10 :=
    Nat.lt_trans time.millis.toNat_lt (by decide)
  have hextract := extract_header htext
  rwa [List.length_append, List.length_append, length_padded (by decide) h,
    length_padded (by decide) hmillis] at hextract

/-! ### Unique decoding -/

/-- A file is its header and its pixels, cut apart by the first terminator in it; the header reads
back; no other time, size or pixels give the same file; and the time stands at fixed places while
its seconds have no more than ten digits. -/
theorem encode_decodes_uniquely (time : WallTime) (width height : UInt32) (pixels : Bytes) :
    split (encode time width height pixels) = (header time width height, pixels) ∧
    (terminator <:+ (header time width height).toList ∧
      ∀ k, terminator <+: (encode time width height pixels).toList.drop k →
        (header time width height).size ≤ k + terminator.length) ∧
    parseHeader? ((header time width height).toList.map asciiChar) =
      some (time.secs.toNat, time.millis.toNat, width.toNat, height.toNat) ∧
    (∀ time' width' height' pixels',
      encode time width height pixels = encode time' width' height' pixels' →
        time = time' ∧ width = width' ∧ height = height' ∧ pixels = pixels') ∧
    (time.secs.toNat < 10 ^ 10 →
      (header time width height).extract 4 14 = fieldBytes time.secs.toNat ∧
      (header time width height).extract 19 29 = fieldBytes time.millis.toNat) := by
  obtain ⟨-, hsuffix, hfirst⟩ := cut?_eq_some (cut?_encode time width height pixels)
  refine ⟨split_encode time width height pixels, ⟨hsuffix, ?_⟩, ?_, ?_, fun hsecs => ?_⟩
  · intro k hk
    exact hfirst k hk
  · rw [asciiChar_header, parseHeader?_headerText]
  · intro time' width' height' pixels' h
    exact encode_inj h
  · exact ⟨extract_secs hsecs width height, extract_millis hsecs width height⟩

/-- An image of 255 by 255 whose first pixel bytes are themselves a terminator. -/
theorem decodes_uniquely_at_terminators :
    split (encode ⟨1700000000, 42⟩ 255 255 terminator.toArray) =
      (header ⟨1700000000, 42⟩ 255 255, terminator.toArray) ∧
    (1700000000 : UInt64).toNat < 10 ^ 10 ∧
    (header ⟨1700000000, 42⟩ 255 255).extract 4 14 = fieldBytes 1700000000 ∧
    (header ⟨1700000000, 42⟩ 255 255).extract 19 29 = fieldBytes 42 := by
  have hlt : (1700000000 : UInt64).toNat < 10 ^ 10 := by decide
  obtain ⟨hsplit, -, -, -, hplaces⟩ :=
    encode_decodes_uniquely ⟨1700000000, 42⟩ 255 255 terminator.toArray
  exact ⟨hsplit, hlt, hplaces hlt⟩

end Ppm
end TickCapture
