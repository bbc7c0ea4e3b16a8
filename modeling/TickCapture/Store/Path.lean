import TickCapture.Bytes

/-! # File paths as text

A path is a sequence of segments with slashes between them. Empty segments and `.` mean nothing,
except that `.` or a slash at the end asks for a directory; `..` is a segment like any other here, and
leads upward only when the path is followed.

The last segment that is not `..` names the file. Its extension follows its last dot, but a dot at
its front starts no extension.

A path that comes from outside is a sequence of bytes (`FileName`), and not every one is a text. -/

namespace TickCapture

abbrev PathText := List Char

namespace PathText

/-- The pieces between slashes, empty ones included. -/
def segments (p : PathText) : List (List Char) := p.splitOn '/'

def isAbsolute (p : PathText) : Bool := p.head? = some '/'

/-- A segment that stands for itself. -/
def means (segment : List Char) : Bool := segment ≠ [] && segment ≠ ['.']

/-- The segments that mean something. -/
def parts (p : PathText) : List (List Char) := p.segments.filter means

def ofParts (parts : List (List Char)) : PathText := List.intercalate ['/'] parts

/-- The path with the given parts that starts where `p` does. -/
def ofPartsLike (p : PathText) (parts : List (List Char)) : PathText :=
  if p.isAbsolute then '/' :: ofParts parts else ofParts parts

/-- The text without the slashes at its end; what is nothing but slashes is the root. -/
def withoutTrail (p : PathText) : PathText :=
  match (p.reverse.dropWhile (· = '/')).reverse with
  | [] => p.take 1
  | front => front

/-- The path of `name` in the directory `dir`; an absolute name is a path by itself. -/
def join (dir name : PathText) : PathText :=
  if name.isAbsolute || dir = [] then name
  else if dir.getLast? = some '/' then dir ++ name
  else dir ++ '/' :: name

def fileName? (p : PathText) : Option (List Char) :=
  p.parts.getLast?.filter (· ≠ ['.', '.'])

/-- A file name cut at its last dot: the stem and, if there is one, the extension. -/
def splitExtension (name : List Char) : List Char × Option (List Char) :=
  match name.reverse.dropWhile (· ≠ '.') with
  | [] | [_] => (name, none)
  | _ :: stem => (stem.reverse, some (name.reverse.takeWhile (· ≠ '.')).reverse)

def extension? (p : PathText) : Option (List Char) :=
  p.fileName?.bind fun name => (splitExtension name).2

/-- The text without the segments at its end that mean nothing. -/
def trimEnd (p : PathText) : PathText :=
  ofParts (p.segments.reverse.dropWhile fun s => !means s).reverse

def trimStart (p : PathText) : PathText := ofParts (p.segments.dropWhile fun s => !means s)

/-- The path with another extension on the file name; unchanged if it names no file. -/
def withExtension (p : PathText) (extension : List Char) : PathText :=
  match p.fileName? with
  | none => p
  | some name =>
    let p := p.trimEnd
    p.take (p.length - name.length) ++ (splitExtension name).1 ++ '.' :: extension

end PathText

/-- A path as the system has it. -/
abbrev FileName := Bytes

/-- Each byte as a letter. Slashes and dots are single bytes of their own, so the segments and the
extension are found in the letters as well. -/
def FileName.letters (name : FileName) : PathText := name.toList.map fun b => Char.ofNat b.toNat

end TickCapture
