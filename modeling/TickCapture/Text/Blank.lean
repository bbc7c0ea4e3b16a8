/-! # Blank characters

The characters with the Unicode property `White_Space`, and trimming them off both ends of a
text. Core's `Char.isWhitespace` knows only the ASCII ones. -/

namespace TickCapture

def isBlank (c : Char) : Bool :=
  let n := c.toNat
  (0x09 ≤ n && n ≤ 0x0D) || n == 0x20 || n == 0x85 || n == 0xA0 || n == 0x1680 ||
    (0x2000 ≤ n && n ≤ 0x200A) || n == 0x2028 || n == 0x2029 || n == 0x202F || n == 0x205F ||
    n == 0x3000

/-- A text as characters, without the blanks at both ends. -/
def trimmed (s : List Char) : List Char :=
  ((s.dropWhile isBlank).reverse.dropWhile isBlank).reverse

def isBlankText (s : String) : Bool := s.toList.all isBlank

/-- An ASCII capital as the small letter; any other character as it is. -/
def lowerAscii (c : Char) : Char :=
  if 'A' ≤ c && c ≤ 'Z' then Char.ofNat (c.toNat + 32) else c

/-- The trimmed text with ASCII capitals made small: the form in which keywords are compared. -/
def keyword (s : String) : String := String.ofList ((trimmed s.toList).map lowerAscii)

end TickCapture
