import TickCapture.Camera.Scene

/-! # What a scene shows

The segments of a script, each unrolled into its frames, are the frames of the script
(`Scene.flags`). A scene shows them in that order; a repeated script starts over when it is over, and
any other leaves the picture still (`Scene.movesAt`).

From its place in the script a scene has all frames that are still to come (`Scene.upcoming`).
Looking past the end of a segment changes nothing about them, and showing a frame takes the first one
off. -/

namespace TickCapture
namespace Scene

/-- Whether the picture moves, for each frame of a script that is played once. -/
def flags (script : List Segment) : List Bool :=
  script.flatMap fun segment => List.replicate segment.length.toNat segment.moves

/-- Whether the picture moves in a frame so many frames behind the first. -/
def movesAt (script : List Segment) (repeated : Bool) (k : Nat) : Bool :=
  if repeated then (flags script)[k % (flags script).length]?.getD false
  else (flags script)[k]?.getD false

/-- The frames that are left until the script is over. -/
def rest (s : Scene) : List Bool :=
  match s.script.drop s.position with
  | [] => []
  | segment :: later =>
    List.replicate (segment.length.toNat - s.shown.toNat) segment.moves ++ flags later

/-- The frames behind the end of the script. -/
def later (s : Scene) (k : Nat) : Bool :=
  if s.repeated then (flags s.script)[k % (flags s.script).length]?.getD false else false

/-- Whether the picture will move in a frame to come. -/
def upcoming (s : Scene) (k : Nat) : Bool := s.rest[k]?.getD (s.later (k - s.rest.length))

/-- The scene stands within its script, or at its end with no frame shown. -/
structure Placed (s : Scene) : Prop where
  position_le : s.position ≤ s.script.length
  shown_eq : s.position = s.script.length → s.shown = 0

/-- There is always one more frame: the script is not repeated, or it has frames. -/
def Plays (s : Scene) : Prop := s.repeated = false ∨ flags s.script ≠ []

variable {s s' s'' : Scene} {segment : Segment} {script : List Segment} {moved repeated : Bool}
  {k n : Nat}

theorem flags_ne_nil (h : segment ∈ script) (hne : segment.length ≠ 0) : flags script ≠ [] := by
  intro hnil
  have hsegment := List.flatMap_eq_nil_iff.mp hnil segment h
  rw [List.replicate_eq_nil_iff, ← UInt32.toNat_zero, UInt32.toNat_inj] at hsegment
  exact hne hsegment

theorem placed_opening (script : List Segment) (repeated : Bool) :
    (opening script repeated).Placed :=
  ⟨Nat.zero_le _, fun _ => rfl⟩

/-! ### Frames to come -/

theorem rest_of_some (h : s.script[s.position]? = some segment) :
    s.rest = List.replicate (segment.length.toNat - s.shown.toNat) segment.moves ++
      flags (s.script.drop (s.position + 1)) := by
  obtain ⟨hlt, hsegment⟩ := List.getElem?_eq_some_iff.mp h
  rw [rest, List.drop_eq_getElem_cons hlt, hsegment]

theorem rest_of_none (h : s.script[s.position]? = none) : s.rest = [] := by
  rw [rest, List.drop_eq_nil_of_le (List.getElem?_eq_none_iff.mp h)]

/-- A segment none of whose frames has been shown is left as a whole. -/
theorem rest_of_unshown (h : s.shown = 0) : s.rest = flags (s.script.drop s.position) := by
  cases hsegment : s.script[s.position]? with
  | none =>
    rw [rest_of_none hsegment, List.drop_eq_nil_of_le (List.getElem?_eq_none_iff.mp hsegment)]
    rfl
  | some segment =>
    obtain ⟨hlt, hget⟩ := List.getElem?_eq_some_iff.mp hsegment
    rw [rest_of_some hsegment, List.drop_eq_getElem_cons hlt, hget, h]
    rfl

/-- A repeated script is followed by itself. -/
theorem getD_later (hrepeated : s.repeated = true) (k : Nat) :
    (flags s.script)[k]?.getD (s.later (k - (flags s.script).length)) = s.later k := by
  simp only [later, hrepeated, if_true]
  by_cases hlt : k < (flags s.script).length
  · rw [Nat.mod_eq_of_lt hlt, List.getElem?_eq_getElem hlt]
    rfl
  · rw [List.getElem?_eq_none (Nat.le_of_not_lt hlt), Option.getD_none,
      ← Nat.mod_eq_sub_mod (Nat.le_of_not_lt hlt)]

/-- Before the first frame everything is to come. -/
theorem upcoming_opening (script : List Segment) (repeated : Bool) (k : Nat) :
    (opening script repeated).upcoming k = movesAt script repeated k := by
  have hrest : (opening script repeated).rest = flags script := rest_of_unshown rfl
  rw [upcoming, hrest, movesAt]
  cases repeated with
  | true =>
    have hrepeated : (opening script true).repeated = true := rfl
    exact getD_later hrepeated k
  | false => rfl

/-! ### One look -/

/-- What one look at a scene can come to. -/
inductive LookCase (s : Scene) : Look → Prop
  /-- The script is over for good. -/
  | stays : s.script[s.position]? = none → s.repeated = false ∨ s.script = [] →
    LookCase s (.frame s false)
  | restarts : s.script[s.position]? = none → s.repeated = true →
    LookCase s (.passed { s with position := 0 })
  | shows {segment : Segment} : s.script[s.position]? = some segment →
    s.shown.toNat < segment.length.toNat →
    LookCase s (.frame { s with shown := s.shown + 1 } segment.moves)
  /-- All frames of the segment have been shown. -/
  | passes {segment : Segment} : s.script[s.position]? = some segment →
    segment.length.toNat ≤ s.shown.toNat →
    LookCase s (.passed { s with position := s.position + 1, shown := 0 })

theorem look_cases (s : Scene) : LookCase s s.look := by
  unfold look
  split
  · next hend =>
    split
    · next hagain => exact .restarts hend hagain.1
    · next hover =>
      refine .stays hend ?_
      cases hrepeated : s.repeated with
      | false => exact .inl rfl
      | true => exact .inr (Classical.not_not.mp fun hne => hover ⟨hrepeated, hne⟩)
  · next hsegment =>
    split
    · next hlt => exact .shows hsegment (UInt32.lt_iff_toNat_lt.mp hlt)
    · next hge => exact .passes hsegment (Nat.le_of_not_lt (mt UInt32.lt_iff_toNat_lt.mpr hge))

theorem position_lt (h : s.script[s.position]? = some segment) : s.position < s.script.length :=
  (List.getElem?_eq_some_iff.mp h).1

/-- At the end of a script no frame of a segment has been shown. -/
theorem Placed.shown_eq_of_none (H : s.Placed) (h : s.script[s.position]? = none) : s.shown = 0 :=
  H.shown_eq (Nat.le_antisymm H.position_le (List.getElem?_eq_none_iff.mp h))

/-- The same frames are to come, in the same script. -/
structure Alike (s s' : Scene) : Prop where
  placed : s'.Placed
  script_eq : s'.script = s.script
  repeated_eq : s'.repeated = s.repeated
  upcoming_eq : ∀ k, s'.upcoming k = s.upcoming k

/-- The next frame has been shown: whether it moved, and what is to come after it. -/
structure Shows (s s' : Scene) (moved : Bool) : Prop where
  placed : s'.Placed
  script_eq : s'.script = s.script
  repeated_eq : s'.repeated = s.repeated
  moved_eq : moved = s.upcoming 0
  upcoming_eq : ∀ k, s'.upcoming k = s.upcoming (k + 1)

namespace Shows

/-- A frame is taken off the front of those that are left. -/
theorem of_rest (hplaced : s'.Placed) (hscript : s'.script = s.script)
    (hrepeated : s'.repeated = s.repeated) (hrest : s.rest = moved :: s'.rest) :
    Shows s s' moved where
  placed := hplaced
  script_eq := hscript
  repeated_eq := hrepeated
  moved_eq := by rw [upcoming, hrest]; rfl
  upcoming_eq k := by
    have hlater : s'.later = s.later := by
      funext j
      rw [later, later, hscript, hrepeated]
    rw [upcoming, upcoming, hrest, hlater, List.getElem?_cons_succ, List.length_cons,
      Nat.add_sub_add_right]

theorem of_alike (hnext : Shows s' s'' moved) (H : Alike s s') : Shows s s'' moved where
  placed := hnext.placed
  script_eq := hnext.script_eq.trans H.script_eq
  repeated_eq := hnext.repeated_eq.trans H.repeated_eq
  moved_eq := hnext.moved_eq.trans (H.upcoming_eq 0)
  upcoming_eq k := (hnext.upcoming_eq k).trans (H.upcoming_eq (k + 1))

end Shows

theorem rest_of_pass (h : s.script[s.position]? = some segment)
    (hle : segment.length.toNat ≤ s.shown.toNat) :
    rest { s with position := s.position + 1, shown := 0 } = s.rest := by
  rw [rest_of_unshown rfl, rest_of_some h, Nat.sub_eq_zero_of_le hle]
  rfl

theorem shows_of_look (H : s.Placed) (h : s.look = .frame s' moved) : Shows s s' moved := by
  have hcase := s.look_cases
  rw [h] at hcase
  cases hcase with
  | stays hend hover =>
    have hstill (k : Nat) : s.upcoming k = false := by
      rw [upcoming, rest_of_none hend, later]
      obtain hover | hover := hover
      · rw [hover]
        rfl
      · rw [hover]
        cases s.repeated <;> rfl
    exact ⟨H, rfl, rfl, (hstill 0).symm, fun k => by rw [hstill, hstill]⟩
  | @shows segment hsegment hlt =>
    have hnext : (s.shown + 1).toNat = s.shown.toNat + 1 := by
      rw [UInt32.toNat_add]
      exact Nat.mod_eq_of_lt (Nat.lt_of_le_of_lt hlt segment.length.toNat_lt)
    have hplaced : Placed { s with shown := s.shown + 1 } :=
      ⟨H.position_le, fun heq => absurd heq (Nat.ne_of_lt (position_lt hsegment))⟩
    refine .of_rest hplaced rfl rfl ?_
    have hrest : rest { s with shown := s.shown + 1 } =
        List.replicate (segment.length.toNat - (s.shown + 1).toNat) segment.moves ++
          flags (s.script.drop (s.position + 1)) := rest_of_some hsegment
    rw [rest_of_some hsegment, hrest, hnext, ← List.cons_append, ← List.replicate_succ]
    congr 2
    omega

theorem alike_of_look (H : s.Placed) (h : s.look = .passed s') : Alike s s' := by
  have hcase := s.look_cases
  rw [h] at hcase
  cases hcase with
  | restarts hend hrepeated =>
    have hshown : s.shown = 0 := H.shown_eq_of_none hend
    have hrest : rest { s with position := 0 } = flags s.script := rest_of_unshown hshown
    refine ⟨⟨Nat.zero_le _, fun _ => hshown⟩, rfl, rfl, fun k => ?_⟩
    rw [upcoming, upcoming, hrest, rest_of_none hend]
    exact getD_later hrepeated k
  | passes hsegment hle =>
    refine ⟨⟨position_lt hsegment, fun _ => rfl⟩, rfl, rfl, fun k => ?_⟩
    rw [upcoming, upcoming, rest_of_pass hsegment hle]
    rfl

/-! ### As many looks as it takes -/

theorem shows_of_advanceWithin (H : s.Placed) (h : advanceWithin n s = some (s', moved)) :
    Shows s s' moved := by
  induction n generalizing s with
  | zero => cases h
  | succ n ih =>
    rw [advanceWithin] at h
    split at h
    · next hlook => cases h; exact shows_of_look H hlook
    · next hlook =>
      have halike := alike_of_look H hlook
      exact (ih halike.placed h).of_alike halike

/-- While frames are left, one is found before the script is over. -/
theorem advanceWithin_of_rest (hrest : s.rest ≠ []) (hn : s.script.length ≤ n + s.position) :
    (advanceWithin n s).isSome = true := by
  induction n generalizing s with
  | zero =>
    have hend : s.script[s.position]? = none := List.getElem?_eq_none (by omega)
    exact absurd (rest_of_none hend) hrest
  | succ n ih =>
    rw [advanceWithin]
    have hcase := s.look_cases
    cases hlook : s.look with
    | frame s' moved => rfl
    | passed s' =>
      rw [hlook] at hcase
      cases hcase with
      | restarts hend => exact absurd (rest_of_none hend) hrest
      | passes hsegment hle =>
        refine ih ?_ ?_
        · rwa [rest_of_pass hsegment hle]
        · show s.script.length ≤ n + (s.position + 1)
          omega

/-- From anywhere in the script a frame is found before the script is over a second time. -/
theorem advanceWithin_of_plays (H : s.Placed) (hplays : s.Plays)
    (hn : 2 * s.script.length + 1 ≤ n + s.position) : (advanceWithin n s).isSome = true := by
  induction n generalizing s with
  | zero =>
    have := H.position_le
    omega
  | succ n ih =>
    rw [advanceWithin]
    have hcase := s.look_cases
    cases hlook : s.look with
    | frame s' moved => rfl
    | passed s' =>
      rw [hlook] at hcase
      have hplaced := (alike_of_look H hlook).placed
      cases hcase with
      | restarts hend hrepeated =>
        have hrest : rest { s with position := 0 } = flags s.script :=
          rest_of_unshown (H.shown_eq_of_none hend)
        refine advanceWithin_of_rest ?_ ?_
        · rw [hrest]
          exact hplays.resolve_left (by rw [hrepeated]; nofun)
        · show s.script.length ≤ n + 0
          have := H.position_le
          omega
      | passes hsegment hle =>
        refine ih hplaced hplays ?_
        show 2 * s.script.length + 1 ≤ n + (s.position + 1)
        omega

/-- A scene that plays on shows its next frame. -/
theorem advance?_shows (H : s.Placed) (hplays : s.Plays) :
    ∃ s', s.advance? = some (s', s.upcoming 0) ∧ Shows s s' (s.upcoming 0) := by
  have hsome : s.advance?.isSome = true := advanceWithin_of_plays H hplays (by omega)
  obtain ⟨⟨s', moved⟩, hadvance⟩ := Option.isSome_iff_exists.mp hsome
  have hshows := shows_of_advanceWithin H hadvance
  rw [← hshows.moved_eq]
  exact ⟨s', hadvance, hshows⟩

/-- A script without a frame is passed over for ever. -/
theorem advanceWithin_of_no_frame (hrepeated : s.repeated = true) (hscript : s.script ≠ [])
    (hflags : flags s.script = []) (n : Nat) : advanceWithin n s = none := by
  induction n generalizing s with
  | zero => rfl
  | succ n ih =>
    rw [advanceWithin]
    have hcase := s.look_cases
    cases hlook : s.look with
    | frame s' moved =>
      rw [hlook] at hcase
      cases hcase with
      | stays _ hover =>
        obtain hover | hover := hover
        · exact absurd hrepeated (by rw [hover]; nofun)
        · exact absurd hover hscript
      | @shows segment hsegment hlt =>
        refine absurd hflags (flags_ne_nil (List.mem_of_getElem? hsegment) ?_)
        intro hzero
        rw [hzero] at hlt
        exact Nat.not_lt_zero _ hlt
    | passed s' =>
      rw [hlook] at hcase
      cases hcase with
      | restarts | passes => exact ih hrepeated hscript hflags

/-- The only scene without a next frame is that of a repeated script whose segments are all empty. -/
theorem advance?_eq_none_iff (H : s.Placed) :
    s.advance? = none ↔ s.repeated = true ∧ s.script ≠ [] ∧ flags s.script = [] := by
  constructor
  · intro hnone
    have hstops : ¬s.Plays := fun hplays => by
      obtain ⟨s', hsome, -⟩ := advance?_shows H hplays
      rw [hnone] at hsome
      cases hsome
    obtain ⟨hrepeated, hflags⟩ := not_or.mp hstops
    refine ⟨by simpa using hrepeated, fun hscript => ?_, Classical.not_not.mp hflags⟩
    have hlook : s.look = .frame s false := by simp [look, hscript]
    rw [advance?, advanceWithin, hlook] at hnone
    cases hnone
  · rintro ⟨hrepeated, hscript, hflags⟩
    exact advanceWithin_of_no_frame hrepeated hscript hflags _

theorem Shows.plays (hnext : Shows s s' moved) (hplays : s.Plays) : s'.Plays := by
  rw [Plays, hnext.script_eq, hnext.repeated_eq]
  exact hplays

end Scene
end TickCapture
