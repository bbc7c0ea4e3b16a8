import TickCapture.Camera.Synthetic
import TickCapture.Config.Configuration
import TickCapture.Console.Arguments
import TickCapture.Console.LogFilter
import TickCapture.Pipeline.Simulation

/-! # The program

The program reads its configuration, opens the camera, makes the directory for the images, and makes one
run. It succeeds if the run reaches its target; then it says what it has stored.

What it reads and writes is handed in and out, so that it is a function: `Program.start` goes as far as
the camera, and `Program.finish` takes the store for the images. -/

namespace TickCapture

namespace Arguments

/-- The configuration with what the command line overrides. A flag only switches on. -/
def override (a : Arguments) (c : Configuration) : Configuration where
  camera := { c.camera with
    device := a.device.getD c.camera.device
    forceFormat := a.forceFormat || c.camera.forceFormat }
  dir := a.outputDir.getD c.dir
  stem := c.stem
  pipeline := { c.pipeline with
    target := a.count.getD c.pipeline.target
    saveAll := a.saveAll || c.pipeline.saveAll
    backpressure := if a.dropWhenFull then .drop else c.pipeline.backpressure
    realtime := !a.noRealtime && c.pipeline.realtime }

/-- The configuration for a run: it is judged before the command line overrides it, and after that. -/
def configure (a : Arguments) (reader : FileReader) (e : Environment) :
    List LogRecord × Except (Trouble ConfigError) Configuration :=
  match Configuration.loadFrom reader e a.config with
  | (logs, .error trouble) => (logs, .error trouble)
  | (logs, .ok c) =>
    let c := a.override c
    let (later, judged) := c.validate
    (logs ++ later, judged.map fun () => c)

end Arguments

/-- What a program leaves on the console, its exit code, and what that stands for. -/
structure Outcome where
  exitCode : Nat
  stdout : List String
  stderr : List String
  failure? : Option Failure
  report? : Option RunReport
  deriving Repr

namespace Program

def name : String := "synchronome"
def version : String := "0.3.1"

/-- Exit codes: for failures, for wrong arguments, and for faults. -/
def failureCode : Nat := 1
def usageCode : Nat := 2
def faultCode : Nat := 101

structure Setting where
  environment : Environment
  /-- Whether standard error is a terminal. -/
  terminal : Bool
  reader : FileReader
  parse : ArgumentParser

def Setting.filter (s : Setting) : LogFilter :=
  .ofText ((s.environment.text? Variable.log).getD "info")

def logText (v : Verbosity) (text : String) : String := s!"[{v.word} {name}] {text}"

def Setting.logLine (s : Setting) (v : Verbosity) (text : String) : List String :=
  if s.filter.shows name v then [logText v text] else []

def Setting.logLines (s : Setting) (records : List LogRecord) : List String :=
  records.flatMap fun r =>
    s.logLine (match r.level with
      | .warn => .warn
      | .error => .error) r.text

/-- The lines that report a failure: its outermost text, and below it what led to it. -/
def failureLines (f : Failure) : List String :=
  match f.links with
  | [] => []
  | [text] => [s!"Error: {text}"]
  | [text, cause] => [s!"Error: {text}", "", "Caused by:", s!"    {cause}"]
  | text :: causes =>
    [s!"Error: {text}", "", "Caused by:"] ++ causes.mapIdx fun i cause => s!"    {i}: {cause}"

def failed (earlier : List String) (f : Failure) (report? : Option RunReport) : Outcome :=
  ⟨failureCode, [], earlier ++ failureLines f, some f, report?⟩

def faulted (earlier : List String) (f : Fault) : Outcome :=
  ⟨faultCode, [], earlier ++ [s!"fault: {f.message}"], none, none⟩

def optionLine (o : CommandOption) : String :=
  let letter := (o.letter?.map fun c => s!"-{c}, ").getD "    "
  let value := (o.value?.map fun v => s!" <{v}>").getD ""
  s!"  {letter}--{o.name}{value}  {o.summary}"

def usageLine : String := s!"Usage: {name} [OPTIONS]"

def helpLines : List String := [usageLine, "", "Options:"] ++ CommandOption.all.map optionLine

def usageOutcome (e : UsageError) : Outcome :=
  ⟨usageCode, [], [s!"error: {e.message}", "", usageLine], none, none⟩

structure Ready where
  setting : Setting
  pretty : Bool
  configuration : Configuration
  camera : SyntheticCamera
  /-- What standard error shows so far. -/
  stderr : List String

def startText (c : Configuration) : String :=
  s!"{name}: device {c.camera.device}, {c.pipeline.target} frames into {String.ofList c.dir}, " ++
    s!"realtime {c.pipeline.realtime}"

/-- The settings file that a program is going to read. -/
def settingsFile? (parse : ArgumentParser) (e : Environment) (arguments : List String) :
    Option FileName :=
  match parse e arguments with
  | .ok (.run a) => a.config
  | _ => none

/-- Everything up to the camera: a program that is ready, or one that has ended. -/
def start (s : Setting) (arguments : List String) : Except Outcome Ready :=
  match s.parse s.environment arguments with
  | .error e => .error (usageOutcome e)
  | .ok .help => .error ⟨0, helpLines, [], none, none⟩
  | .ok .version => .error ⟨0, [s!"{name} {version}"], [], none, none⟩
  | .ok (.run a) =>
    let pretty := a.ui.isPretty s.terminal
    let step (text : String) : List String := stepLines pretty text ⟨0, 0⟩
    let (logs, configuration) := a.configure s.reader s.environment
    let stderr := s.logLines logs ++ step "Load configuration"
    match configuration with
    | .error (.fault f) => .error (faulted stderr f)
    | .error (.error e) => .error (failed stderr (.of (.raised e.message)) none)
    | .ok configuration =>
      let stderr := stderr ++ s.logLine .info (startText configuration) ++ step "Open camera"
      match configuration.camera.openCamera with
      | .error e => .error (failed stderr (.of (.camera e)) none)
      | .ok camera => .ok ⟨s, pretty, configuration, camera, stderr⟩

def summaryLine (r : RunReport) : String :=
  s!"{r.framesWritten} frames in {(Span.ofNanos r.elapsed).text} " ++
    s!"({fixedText 2 r.fps} fps): {r.capture.captured} captured, " ++
    s!"{r.capture.dropped + r.detection.poolExhausted} dropped, {r.detection.ticks} ticks, " ++
    s!"{r.persistence.bytesWritten} bytes written"

def interruption (r : RunReport) (target : UInt64) : Failure :=
  .of (.raised s!"interrupted after {r.framesWritten} of {target} frames")

/-- The run, of at most `turns` turns, with a store for the images; at the time given it is
interrupted. -/
def Ready.finish {σ : Type} [ImageSink σ] (p : Ready) (host : Host) (epoch : Moment)
    (interruptAt : Option Clock) (turns : Nat) (store : Except IoError σ) : Outcome × Option σ :=
  let c := p.configuration
  let s := p.setting
  let stderr := p.stderr ++ stepLines p.pretty "Prepare output directory" ⟨0, 0⟩
  match store with
  | .error e => (failed stderr ⟨[.makeDirectory (String.ofList c.dir)], .io e⟩ none, none)
  | .ok store =>
    let stderr := stderr ++ s.logLines c.pipeline.validate.1 ++
      if p.pretty then [] else [s!"==> capturing {c.pipeline.target} frames"]
    match Run.prepare c.pipeline host p.camera store epoch with
    | .error (.fault f) => (faulted stderr f, some store)
    | .error (.error e) => (failed stderr e none, some store)
    | .ok run =>
      let run := run.simulate (fun _ _ => false) interruptAt turns
      let plant := run.line.plant
      let stderr := stderr ++ s.logLines plant.logs.toList
      match run.verdict? with
      | none => (⟨failureCode, [], stderr, none, none⟩, some plant.sink)
      | some (later, .error e) => (failed (stderr ++ s.logLines later) e none, some plant.sink)
      | some (later, .ok r) =>
        let stderr := stderr ++ s.logLines later ++ [summaryLine r]
        (if r.interrupted then failed stderr (interruption r c.pipeline.target) (some r)
          else ⟨0, [], stderr, none, some r⟩, some plant.sink)

end Program
end TickCapture
