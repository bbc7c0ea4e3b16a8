import TickCapture.Config.Json

/-! # Texts and keys in TOML

There are four kinds of texts: in double quotes with escapes or in single quotes without, and each of
these on one line or, between three quotes, on many. A line break in a text is one line feed, however it
is written. -/

namespace TickCapture
namespace Toml

def isSpace (c : Char) : Bool := c = ' ' || c = '\t'

def skip (s : List Char) : List Char := s.dropWhile isSpace

/-- A character that may stand in comments and texts: no control but the tab. -/
def isPlain (c : Char) : Bool := c = '\t' || (' ' ≤ c && c ≠ '\x7f')

def newline? : List Char → Option (List Char)
  | '\n' :: r => some r
  | '\r' :: '\n' :: r => some r
  | _ => none

/-- What follows blanks, line breaks and comments; `comment` says whether a comment has begun. -/
def skipLines (comment : Bool) : List Char → List Char
  | [] => []
  | '\r' :: '\n' :: r => skipLines false r
  | c :: r =>
    if c = '\n' then skipLines false r
    else if comment then if isPlain c then skipLines true r else c :: r
    else if isSpace c then skipLines false r
    else if c = '#' then skipLines true r
    else c :: r

/-- What follows the rest of a line that holds nothing more but a comment. -/
def lineEnd? (s : List Char) : Option (List Char) :=
  let r := match skip s with
    | '#' :: r => r.dropWhile isPlain
    | r => r
  if r = [] then some [] else newline? r

/-- A kind of text: the quote around it, and whether it may have more than one line. -/
structure Quotes where
  mark : Char
  lines : Bool

def Quotes.escapes (q : Quotes) : Bool := q.mark = '"'

/-- A character given by the digits of its code point. -/
def codePoint? (digits : List Char) : Option Char := do
  let n ← Json.hex? digits
  if n < 0xD800 ∨ (0xDFFF < n ∧ n < 0x110000) then some (Char.ofNat n) else none

/-- What an escape stands for, its backslash left out, and what follows. A backslash before a line
break stands for nothing, nor do the blanks and line breaks after it. -/
def escape? (lines : Bool) (s : List Char) : Option (List Char × List Char) :=
  match s with
  | 'u' :: r => if r.length < 4 then none else (codePoint? (r.take 4)).map fun c => ([c], r.drop 4)
  | 'U' :: r => if r.length < 8 then none else (codePoint? (r.take 8)).map fun c => ([c], r.drop 8)
  | '/' :: _ => none
  | _ =>
    if lines && (newline? (skip s)).isSome then
      some ([], s.dropWhile fun c => isSpace c || c = '\n' || c = '\r')
    else match s with
      | c :: r => (Json.escaped? c).map fun c => ([c], r)
      | [] => none

def piece? (q : Quotes) (s : List Char) : Option (List Char × List Char) :=
  match newline? s with
  | some r => if q.lines then some (['\n'], r) else none
  | none =>
    match s with
    | [] => none
    | c :: r =>
      if q.escapes && c = '\\' then escape? q.lines r
      else if isPlain c then some ([c], r)
      else none

/-- What a text ends with, and what follows it, if it ends here. On many lines one or two quotes may
stand right before the three that end it. -/
def ending? (q : Quotes) (s : List Char) : Option (List Char × List Char) :=
  let marks := s.takeWhile (· = q.mark)
  if q.lines then
    if marks.length < 3 then none
    else
      let last := min (marks.length - 3) 2
      some (marks.take last, s.drop (last + 3))
  else if marks = [] then none
  else some ([], s.drop 1)

/-- A text that has begun, and what follows it. The number bounds how many pieces it has. -/
def body? (q : Quotes) : Nat → List Char → Option (List Char × List Char)
  | 0, _ => none
  | n + 1, s =>
    match ending? q s with
    | some ending => some ending
    | none => do
      let (piece, r) ← piece? q s
      let (more, r) ← body? q n r
      return (piece ++ more, r)

def lineText? (s : List Char) : Option (List Char × List Char) :=
  match s with
  | [] => none
  | c :: r => if c = '"' ∨ c = '\'' then body? ⟨c, false⟩ s.length r else none

/-- A text of any kind. A line break right after three quotes does not belong to it. -/
def text? (s : List Char) : Option (List Char × List Char) :=
  match s with
  | a :: b :: c :: r =>
    if (a = '"' ∨ a = '\'') ∧ a = b ∧ b = c then
      body? ⟨a, true⟩ s.length ((newline? r).getD r)
    else lineText? s
  | _ => lineText? s

/-- A character of a key that is not quoted. -/
def isBare (c : Char) : Bool :=
  isDigit c || ('a' ≤ lowerAscii c && lowerAscii c ≤ 'z') || c = '-' || c = '_'

def keyPart? (s : List Char) : Option (String × List Char) :=
  match s.takeWhile isBare with
  | [] => (lineText? s).map fun (cs, r) => (String.ofList cs, r)
  | bare => some (String.ofList bare, s.dropWhile isBare)

/-- How deep keys and values may be nested. -/
def depthLimit : Nat := 79

/-- The parts of a key, with dots between them and blanks around each, at most `n` of them. -/
def keyParts? : Nat → List Char → Option (List String × List Char)
  | 0, _ => none
  | n + 1, s => do
    let (part, r) ← keyPart? (skip s)
    match skip r with
    | '.' :: r =>
      let (more, r) ← keyParts? n r
      return (part :: more, r)
    | r => return ([part], r)

def key? (s : List Char) : Option (List String × List Char) := keyParts? depthLimit s

end Toml
end TickCapture
