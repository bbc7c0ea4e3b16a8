import TickCapture.Decimal.Number
import TickCapture.Frame.WallTime
import TickCapture.Text.Blank

/-! # Progress on the console

What is shown while a program works: a spinner on a terminal, plain lines elsewhere, unless the user has
chosen one of them. -/

namespace TickCapture

/-- What the user has chosen. -/
inductive UiMode where
  | auto
  | plain
  | pretty
  deriving DecidableEq, Repr

namespace UiMode

def word : UiMode → String
  | auto => "auto"
  | plain => "plain"
  | pretty => "pretty"

/-- The mode of a word; the case of its letters can be ignored. -/
def ofWord? (ignoreCase : Bool) (s : String) : Option UiMode :=
  let same (m : UiMode) : Bool :=
    if ignoreCase then s.toList.map lowerAscii = m.word.toList else s = m.word
  [auto, plain, pretty].find? same

def isPretty (m : UiMode) (terminal : Bool) : Bool :=
  match m with
  | auto => terminal
  | plain => false
  | pretty => true

end UiMode

/-- A span of time for people: seconds with two decimal places, or whole milliseconds below one
second. -/
def Span.text (d : Span) : String :=
  if 1 ≤ d.secs then fixedText 2 d.toSeconds ++ "s" else s!"{d.nanos.toNat / 1000000}ms"

/-- The lines about a step of the program that took some time; a spinner leaves none. -/
def stepLines (pretty : Bool) (step : String) (took : Span) : List String :=
  if pretty then [] else [s!"==> {step}", s!"✔ {step} ({took.text})"]

end TickCapture
