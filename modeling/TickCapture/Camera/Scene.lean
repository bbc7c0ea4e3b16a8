/-! # Scripted scenes

A scene is played from a script of segments, each a number of frames during which the picture
stands still or moves. A script that is not repeated leaves the picture still when it is over.

`Scene.look` looks at the segment the scene stands in: it shows one more frame of it, or passes on to
the next. `Scene.advance?` looks until a frame is shown. A repeated script without a single frame
is passed over for ever, and then there is no answer. -/

namespace TickCapture

inductive Segment where
  | still (frames : UInt32)
  | moving (frames : UInt32)
  deriving DecidableEq, Repr

namespace Segment

def length : Segment → UInt32
  | still n | moving n => n

def moves : Segment → Bool
  | still _ => false
  | moving _ => true

end Segment

structure Scene where
  script : List Segment
  /-- Whether the script starts over when it is over. -/
  repeated : Bool
  position : Nat
  /-- Frames of that segment shown already. -/
  shown : UInt32
  deriving DecidableEq, Repr

/-- What one look at a scene comes to. -/
inductive Scene.Look where
  /-- A frame is shown, and whether the picture moved. -/
  | frame (scene : Scene) (moved : Bool)
  /-- The segment is over; the scene stands somewhere else now. -/
  | passed (scene : Scene)
  deriving DecidableEq, Repr

namespace Scene

/-- The scene before its first frame. -/
def opening (script : List Segment) (repeated : Bool) : Scene := ⟨script, repeated, 0, 0⟩

def look (s : Scene) : Look :=
  match s.script[s.position]? with
  | none =>
    if s.repeated ∧ s.script ≠ [] then .passed { s with position := 0 }
    else .frame s false
  | some segment =>
    if s.shown < segment.length then .frame { s with shown := s.shown + 1 } segment.moves
    else .passed { s with position := s.position + 1, shown := 0 }

/-- Looks `n` times at most. -/
def advanceWithin : Nat → Scene → Option (Scene × Bool)
  | 0, _ => none
  | n + 1, s =>
    match s.look with
    | .frame s moved => some (s, moved)
    | .passed s => advanceWithin n s

/-- Shows the next frame: whether the picture moved. From anywhere in the script its end is at most
its length away, and from the start again every segment is seen once, so a frame not found by then
is never found. -/
def advance? (s : Scene) : Option (Scene × Bool) := advanceWithin (2 * s.script.length + 2) s

end Scene
end TickCapture
