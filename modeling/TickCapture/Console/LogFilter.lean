import TickCapture.LogRecord
import TickCapture.Text.Blank

/-! # Which log records are shown

A filter is written as directives with commas between them. A directive gives a level for all targets,
or for those whose names start in a certain way; of several that apply the one with the longest name
counts. A name alone stands for everything it applies to. -/

namespace TickCapture

inductive Verbosity where
  | off
  | error
  | warn
  | info
  | debug
  | trace
  deriving DecidableEq, Repr

namespace Verbosity

def rank : Verbosity → Nat
  | off => 0
  | error => 1
  | warn => 2
  | info => 3
  | debug => 4
  | trace => 5

def word : Verbosity → String
  | off => "OFF"
  | error => "ERROR"
  | warn => "WARN"
  | info => "INFO"
  | debug => "DEBUG"
  | trace => "TRACE"

def ofWord? (s : List Char) : Option Verbosity :=
  [off, error, warn, info, debug, trace].find? fun v =>
    s.map lowerAscii = v.word.toList.map lowerAscii

end Verbosity

/-- A level for the targets whose names start with `target`. -/
structure LogDirective where
  target : List Char
  level : Verbosity
  deriving DecidableEq, Repr

/-- Reads a directive; what makes no sense is left out. -/
def LogDirective.ofText? (s : List Char) : Option LogDirective :=
  match s.splitOn '=' with
  | [word] =>
    match Verbosity.ofWord? word with
    | some level => some ⟨[], level⟩
    | none => some ⟨word, .trace⟩
  | [target, word] =>
    let word := trimmed word
    if word = [] then some ⟨target, .trace⟩
    else (Verbosity.ofWord? word).map (⟨target, ·⟩)
  | _ => none

structure LogFilter where
  directives : List LogDirective
  deriving Repr

namespace LogFilter

/-- Reads a filter. Without any directive only errors are shown. -/
def ofText (s : String) : LogFilter :=
  let words := (s.toList.splitOn ',').map trimmed
  match (words.filter (· ≠ [])).filterMap LogDirective.ofText? with
  | [] => ⟨[⟨[], .error⟩]⟩
  | directives => ⟨directives⟩

def levelOf (f : LogFilter) (target : String) : Verbosity :=
  let fitting := f.directives.filter fun d => d.target.isPrefixOf target.toList
  let best := fitting.foldl (fun best d =>
    match best with
    | some (b : LogDirective) => if d.target.length < b.target.length then some b else some d
    | none => some d) none
  (best.map (·.level)).getD .off

def shows (f : LogFilter) (target : String) (v : Verbosity) : Bool :=
  v.rank ≤ (f.levelOf target).rank

end LogFilter
end TickCapture
