import Std.Time.DateTime.Timestamp
import TickCapture.Console.Program
import TickCapture.Store.Directory
import TickCapture.Store.Memory

/-! # The command

Fetches what the program needs to know from the system, and carries out what the program comes to. Time
passes for the cameras alone: a run takes as long as computing it. -/

namespace TickCapture.Command

def ioError : IO.Error → IoError
  | .noFileOrDirectory .. | .noSuchThing .. => .system .notFound
  | .alreadyExists .. => .system .alreadyExists
  | .inappropriateType .. => .system .notADirectory
  | .permissionDenied .. => .system .notPermitted
  | e => .text (toString e)

def attempt {α : Type} (act : IO α) : IO (Except IoError α) := do
  match ← act.toBaseIO with
  | .ok a => return .ok a
  | .error e => return .error (ioError e)

def readEnvironment : IO Environment := do
  let mut values := []
  for name in Variable.all do
    if let some value ← IO.getEnv name then
      values := (name, Bytes.ofText value) :: values
  return ⟨values⟩

/-- A reader of files that knows the contents of one. -/
def reader (name? : Option FileName) : IO FileReader := do
  let missing : Except IoError Bytes := .error (.system .notFound)
  let some (name, path) := name?.bind fun name => (strictText? name.toList).map (name, ·)
    | return .standard fun _ => missing
  let contents ← attempt (IO.FS.readBinFile path)
  return .standard fun other => if other = name then contents.map (·.data) else missing

/-- Writes an image under a temporary name and moves it to its own. -/
def writeImage (dir : PathText) (stem : String) (image : StoredImage) : IO Unit := do
  let path := dir.join (DirectoryStore.fileName stem.toList image.sequence)
  let temporary := String.ofList (path.withExtension "tmp".toList)
  IO.FS.writeBinFile temporary ⟨image.file⟩
  IO.FS.rename temporary (String.ofList path)

def conclude (o : Outcome) : IO UInt32 := do
  for line in o.stdout do IO.println line
  for line in o.stderr do IO.eprintln line
  return o.exitCode.toUInt32

/-- The threads of a run are not given fixed priorities. -/
def host : Host := ⟨affinityLimit, false⟩

/-- More turns than any run takes. -/
def turns : Nat := Nat.pow 2 62

def run (arguments : List String) : IO UInt32 := do
  let environment ← readEnvironment
  let reader ← reader (Program.settingsFile? Invocation.of environment arguments)
  let terminal ← (← IO.getStderr).isTty
  match Program.start ⟨environment, terminal, reader, Invocation.of⟩ arguments with
  | .error o => conclude o
  | .ok ready =>
    let dir := ready.configuration.dir
    let made ← attempt (if dir = [] then pure () else IO.FS.createDirAll (String.ofList dir))
    let now ← Std.Time.Timestamp.now
    let epoch : Moment := now.toNanosecondsSinceUnixEpoch.toInt
    let (outcome, store) := ready.finish host epoch none turns (made.map fun () => MemoryStore.empty)
    for image in (store.map (·.images)).getD [] do
      writeImage dir ready.configuration.stem image
    conclude outcome

end TickCapture.Command

def main (arguments : List String) : IO UInt32 := TickCapture.Command.run arguments
