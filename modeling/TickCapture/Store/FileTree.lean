import TickCapture.Bytes
import TickCapture.Frame.Captured
import TickCapture.Store.Path

/-! # Trees of files

A file system without links, as a flat map from canonical places to what lies there. A place is a
list of names from the root; the root itself is a directory and is not listed.

A path is followed segment by segment, an absolute one from the root, any other from the directory
that the program works in. What it is followed through has to be a directory; what lies at its end, if
anything, is for the operation to judge. -/

namespace TickCapture

/-- A place in a file tree: names from the root. -/
abbrev Place := List (List Char)

inductive FileEntry where
  | file (bytes : Bytes)
  | directory
  deriving DecidableEq, Repr

structure FileTree where
  entries : List (Place × FileEntry)
  /-- Where paths start that are not absolute. -/
  base : Place
  deriving Repr

namespace FileTree

def empty : FileTree := ⟨[], []⟩

/-- What lies at a place; the root is a directory. -/
def entry? (t : FileTree) (place : Place) : Option FileEntry :=
  if place = [] then some .directory else t.entries.lookup place

def erase (t : FileTree) (place : Place) : FileTree :=
  { t with entries := t.entries.filter fun e => e.1 ≠ place }

/-- Puts something at a place, in exchange for what lay there. -/
def insert (t : FileTree) (place : Place) (entry : FileEntry) : FileTree :=
  { t with entries := (place, entry) :: (t.erase place).entries }

/-- The most bytes that a name may have. -/
def nameLimit : Nat := 255

/-- The most bytes that a path may have. -/
def pathLimit : Nat := 4095

/-- Bytes of a text in UTF-8. -/
def byteCount (cs : List Char) : Nat := cs.foldr (fun c n => c.utf8Size + n) 0

/-- Goes one segment further from `here`, which has to be a directory. -/
def enter (t : FileTree) (here : Place) (segment : List Char) : Except IoError Place :=
  match t.entry? here with
  | none => .error (.system .notFound)
  | some (.file _) => .error (.system .notADirectory)
  | some .directory =>
    if segment = [] ∨ segment = ['.'] then .ok here
    else if segment = ['.', '.'] then .ok here.dropLast
    else if nameLimit < byteCount segment then .error (.system .invalidFilename)
    else .ok (here ++ [segment])

/-- Where a path starts. -/
def start (t : FileTree) (path : PathText) : Place := if path.isAbsolute then [] else t.base

/-- The place at the end of a path. -/
def follow (t : FileTree) (path : PathText) : Except IoError Place :=
  if path.contains '\x00' then .error (.text "file name contained an unexpected NUL byte")
  else if path = [] then .error (.system .notFound)
  else if pathLimit < byteCount path then .error (.system .invalidFilename)
  else path.segments.foldlM t.enter (t.start path)

def makeDirectory (t : FileTree) (path : PathText) : Except IoError FileTree := do
  let place ← t.follow path.withoutTrail
  match t.entry? place with
  | some _ => .error (.system .alreadyExists)
  | none => .ok (t.insert place .directory)

def isDirectory (t : FileTree) (path : PathText) : Bool :=
  match t.follow path with
  | .ok place => t.entry? place = some .directory
  | .error _ => false

/-- Makes one directory, or finds it there. -/
def ensure (t : FileTree) (path : PathText) : FileTree × Option IoError :=
  match t.makeDirectory path with
  | .ok t => (t, none)
  | .error e => (t, if t.isDirectory path then none else some e)

/-- Makes the directories on the way to `path`, whose parts are given in reverse, and then that
directory itself. What was made before a failure stays. -/
def makeDirectoriesUpTo (t : FileTree) (path : PathText) :
    (reversedParts : List (List Char)) → FileTree × Option IoError
  | [] => t.ensure path
  | _ :: above =>
    match t.ensure path with
    | (t, some (.system .notFound)) =>
      let (t, failure) :=
        if above = [] then (t, none)
        else t.makeDirectoriesUpTo (PathText.ofPartsLike path above.reverse) above
      match failure with
      | some e => (t, some e)
      | none => t.ensure path
    | outcome => outcome

/-- Makes a directory with all directories above it; the empty path needs none. -/
def makeDirectories (t : FileTree) (path : PathText) : FileTree × Option IoError :=
  if path = [] then (t, none) else t.makeDirectoriesUpTo path path.parts.reverse

/-- Opens a file to be written from its start: it is there afterwards, and empty. -/
def create (t : FileTree) (path : PathText) : Except IoError (FileTree × Place) := do
  let place ← t.follow path
  match t.entry? place with
  | some .directory => .error (.system .isADirectory)
  | _ => .ok (t.insert place (.file #[]), place)

def rename (t : FileTree) (path target : PathText) : Except IoError FileTree := do
  let place ← t.follow path
  let targetPlace ← t.follow target
  match t.entry? place, t.entry? targetPlace with
  | none, _ => .error (.system .notFound)
  | some .directory, _ => .error (.system .notADirectory)
  | some _, some .directory => .error (.system .isADirectory)
  | some (.file bytes), _ => .ok ((t.erase place).insert targetPlace (.file bytes))

def read (t : FileTree) (path : PathText) : Except IoError Bytes := do
  let place ← t.follow path
  match t.entry? place with
  | none => .error (.system .notFound)
  | some .directory => .error (.system .isADirectory)
  | some (.file bytes) => .ok bytes

end FileTree
end TickCapture
