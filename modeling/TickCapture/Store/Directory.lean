import TickCapture.Store.FileTree
import TickCapture.Store.Image

/-! # Images kept as files of a directory

Each image is one file, named by its sequence number. It is written under a temporary name and
moved to its own name when it is complete, so under that name there is the whole image or what was
there before.

Each step of writing a file can fail, and the size found at the end can differ from what was
written; `Mishaps` says what goes wrong. -/

namespace TickCapture

/-- What goes wrong while a file is written. A write that fails has written some bytes before. -/
structure Mishaps where
  create : Option IoError
  header : Option (Nat × IoError)
  pixels : Option (Nat × IoError)
  sync : Option IoError
  /-- Somebody else sets the size of the file before it is looked at. -/
  resize : Option Nat
  measure : Option IoError
  rename : Option IoError
  deriving Repr

def Mishaps.none : Mishaps := ⟨.none, .none, .none, .none, .none, .none, .none⟩

structure DirectoryStore where
  tree : FileTree
  dir : PathText
  /-- What file names start with. -/
  stem : List Char
  deriving Repr

namespace DirectoryStore

/-- A store in the directory `dir`, which is made if it is missing. -/
def make (tree : FileTree) (dir : PathText) (stem : List Char) :
    Except IoError DirectoryStore :=
  match tree.makeDirectories dir with
  | (tree, none) => .ok ⟨tree, dir, stem⟩
  | (_, some e) => .error e

def fileName (stem : List Char) (sequence : Nat) : List Char :=
  stem ++ padded 4 sequence ++ ".ppm".toList

def pathFor (s : DirectoryStore) (sequence : Nat) : PathText :=
  s.dir.join (fileName s.stem sequence)

/-- The path that the file has while it is written. -/
def temporaryFor (s : DirectoryStore) (sequence : Nat) : PathText :=
  (s.pathFor sequence).withExtension "tmp".toList

def setFile (s : DirectoryStore) (place : Place) (bytes : Bytes) : DirectoryStore :=
  { s with tree := s.tree.insert place (.file bytes) }

/-- A file of `size` bytes that starts like `bytes`, zeros filling it up. -/
def resized (bytes : Bytes) (size : Nat) : Bytes :=
  bytes.extract 0 size ++ Bytes.zeros (size - bytes.size)

/-- Writes the temporary file: the store, and the size that was found at the end. -/
def writeTemporary (s : DirectoryStore) (m : Mishaps) (r : ImageRecord) :
    DirectoryStore × Except IoError Nat :=
  if let some e := m.create then (s, .error e)
  else
    match s.tree.create (s.temporaryFor r.sequence) with
    | .error e => (s, .error e)
    | .ok (tree, place) =>
      let s := { s with tree }
      if let some (n, e) := m.header then (s.setFile place (r.header.extract 0 n), .error e)
      else if let some (n, e) := m.pixels then
        (s.setFile place (r.header ++ r.pixels.extract 0 n), .error e)
      else
        let bytes := match m.resize with
          | some size => resized r.file size
          | none => r.file
        let s := s.setFile place bytes
        if let some e := m.sync then (s, .error e)
        else if let some e := m.measure then (s, .error e)
        else (s, .ok bytes.size)

/-- Stores an image while `m` goes wrong. -/
def storeWith (s : DirectoryStore) (m : Mishaps) (r : ImageRecord) :
    DirectoryStore × Except (Trouble SinkError) Nat :=
  match r.check with
  | .error trouble => (s, .error trouble)
  | .ok () =>
    match s.writeTemporary m r with
    | (s, .error e) => (s, .error (.error (.io e)))
    | (s, .ok written) =>
      let expected := r.file.size
      if written ≠ expected then (s, .error (.error (.shortWrite expected written)))
      else if let some e := m.rename then (s, .error (.error (.io e)))
      else
        match s.tree.rename (s.temporaryFor r.sequence) (s.pathFor r.sequence) with
        | .error e => (s, .error (.error (.io e)))
        | .ok tree => ({ s with tree }, .ok expected)

def store (s : DirectoryStore) (r : ImageRecord) :
    DirectoryStore × Except (Trouble SinkError) Nat := s.storeWith .none r

end DirectoryStore

instance : ImageSink DirectoryStore where
  store := DirectoryStore.store

end TickCapture
