import AndroidMkxp.Foundation.Machine
import AndroidMkxp.Touch.Views
import Mathlib.Data.Set.Subsingleton

/-!
# Touching the directional cross

A single cross under any touch events in any order, not only those of gestures, while the editor of
the layout switches its debug mode and the view is laid out again. A repeated `ACTION_DOWN` may send
a direction down once more; the cross still holds the one direction under the finger, and lets go of
nothing that it does not hold.
-/

namespace AndroidMkxp.Touch

open Foundation

namespace VirtualCross

variable {c c' : VirtualCross} {event : MotionEvent} {keyCode : ℤ} {calls tr : List KeyCall}
  {frame : Rect}

def setDebug_mode (c : VirtualCross) (debug_mode : Bool) : VirtualCross :=
  { c with debug_mode := debug_mode }

inductive Action where
  | touch (event : MotionEvent)
  | setDebug_mode (debug_mode : Bool)
  | layout (frame : Rect) (realSize : ℤ)

/-- A cross as a machine, whose events are its calls of SDL. -/
def machine : Machine VirtualCross Action KeyCall where
  step c
    | .touch event              => some ((c.onTouchEvent event).1, (c.onTouchEvent event).2)
    | .setDebug_mode debug_mode => some (c.setDebug_mode debug_mode, [])
    | .layout frame realSize    => some ({ c with frame := frame, realSize := realSize }, [])

/-! ### One event -/

/-- The direction that is held is sent down again. -/
lemma onPressed_of_mem_held (hdebug : c.debug_mode = false) (hk : keyCode ∈ c.held) :
    (c.onPressed keyCode).2 = [sendSDLDownMessage keyCode] := by
  obtain ⟨hpressed, hne, rfl⟩ := hk
  simp [onPressed, hdebug, hne]

/-- What an event does to the directions that are held, and which calls it makes. -/
structure Tracks (c c' : VirtualCross) (calls : List KeyCall) : Prop where
  settles : Settles c.held calls c'.held
  held_subset : c'.held ⊆ c.held ∪ dpadKeys
  line : ∀ call ∈ calls, call.line ∈ c.held ∪ dpadKeys

theorem onTouchEvent_tracks :
    Tracks c (c.onTouchEvent event).1 (c.onTouchEvent event).2 := by
  by_cases hagain : event.action = .ACTION_DOWN ∧ c.keyCodeAt event.x event.y ∈ c.held
  · obtain ⟨haction, hk⟩ := hagain
    simp only [onTouchEvent_eq, haction]
    cases hdebug : c.debug_mode with
    | true =>
      rw [onPressed_debug hdebug]
      exact ⟨.nil, Set.subset_union_left, by simp⟩
    | false =>
      have hheld : (c.onPressed (c.keyCodeAt event.x event.y)).1.held = c.held := by
        obtain ⟨hpressed, hne, hk⟩ := hk
        rw [onPressed_fst hdebug, hk, held_of_pressed hpressed hne]
        exact held_of_pressed rfl hne
      rw [onPressed_of_mem_held hdebug hk]
      refine ⟨?_, ?_, fun call hcall => ?_⟩
      · rw [hheld]
        exact .on hk
      · rw [hheld]
        exact Set.subset_union_left
      · rw [List.mem_singleton.mp hcall]
        exact Or.inl hk
  · have h : Handles c (c.onTouchEvent event).1 (c.onTouchEvent event).2 :=
      onTouchEvent_handles fun haction hk => hagain ⟨haction, hk⟩
    exact ⟨.of_drives h.drives, h.held_subset, h.line⟩

/-- A released cross has no direction: 0 before it is first pressed, -1 afterwards. -/
def Idle (c : VirtualCross) : Prop :=
  c.isPressed = false → c.key_pressed = 0 ∨ c.key_pressed = -1

lemma onPressed_idle (hidle : c.Idle) : (c.onPressed keyCode).1.Idle := by
  cases hdebug : c.debug_mode with
  | true =>
    rw [onPressed_debug hdebug]
    exact hidle
  | false =>
    rw [onPressed_fst hdebug]
    intro hreleased
    cases hreleased

lemma onReleased_idle (hidle : c.Idle) : c.onReleased.1.Idle := by
  cases hdebug : c.debug_mode with
  | true =>
    rw [onReleased_debug hdebug]
    exact hidle
  | false =>
    rw [onReleased_eq hdebug]
    exact fun _ => Or.inr rfl

lemma onTouchEvent_idle (hidle : c.Idle) : (c.onTouchEvent event).1.Idle := by
  rw [onTouchEvent_eq]
  cases event.action with
  | ACTION_DOWN => exact onPressed_idle hidle
  | ACTION_UP => exact onReleased_idle hidle
  | ACTION_MOVE =>
    simp only
    split_ifs
    · exact onPressed_idle hidle
    · exact hidle
  | _ => exact hidle

/-- After a press, the cross holds the direction that was pressed. -/
lemma held_onPressed (hdebug : c.debug_mode = false) :
    (c.onPressed keyCode).1.held = {k | keyCode ≠ -1 ∧ k = keyCode} := by
  rw [onPressed_fst hdebug]
  ext k
  exact and_iff_right rfl

/-- A cross that takes the touch point for the direction it already has holds that direction. -/
lemma held_of_same (hidle : c.Idle) (hsame : c.keyCodeAt x y = c.key_pressed) :
    c.held = {k | c.keyCodeAt x y ≠ -1 ∧ k = c.keyCodeAt x y} := by
  rw [hsame]
  cases hpressed : c.isPressed with
  | true =>
    ext k
    exact and_iff_right hpressed
  | false =>
    rcases hidle hpressed with hzero | hnone
    · exact absurd (hsame.trans hzero) keyCodeAt_ne_zero
    · rw [held_of_idle fun _ => hnone]
      simp [hnone]

/-- A finger that goes down or moves makes the cross hold the direction of the touch point. -/
lemma held_onTouchEvent (hidle : c.Idle) (hdebug : c.debug_mode = false)
    (haction : event.action = .ACTION_DOWN ∨ event.action = .ACTION_MOVE) :
    (c.onTouchEvent event).1.held =
      {k | c.keyCodeAt event.x event.y ≠ -1 ∧ k = c.keyCodeAt event.x event.y} := by
  rcases haction with haction | haction
  · simp only [onTouchEvent_eq, haction]
    exact held_onPressed hdebug
  · simp only [onTouchEvent_eq, haction]
    split_ifs with hne
    · exact held_onPressed hdebug
    · exact held_of_same hidle (not_not.mp hne)

/-! ### Runs -/

/-- What holds in every state that is reached with the calls `tr`. -/
structure Tracked (tr : List KeyCall) (c : VirtualCross) : Prop where
  settles : Settles ∅ tr c.held
  held_subset : c.held ⊆ dpadKeys
  line : ∀ call ∈ tr, call.line ∈ dpadKeys
  idle : c.Idle

lemma Tracked.create : Tracked [] (Create frame) := by
  have hheld : (Create frame).held = ∅ := held_of_idle fun h => by cases h
  refine ⟨?_, ?_, by simp, fun _ => Or.inl rfl⟩
  · rw [hheld]
    exact .nil
  · rw [hheld]
    exact Set.empty_subset _

theorem Tracked.step {a : Action} (hc : Tracked tr c) (h : machine.step c a = some (c', calls)) :
    Tracked (tr ++ calls) c' := by
  cases a with
  | touch event =>
    cases h
    have ht : Tracks c (c.onTouchEvent event).1 (c.onTouchEvent event).2 := onTouchEvent_tracks
    have hkeys : c.held ∪ dpadKeys ⊆ dpadKeys := Set.union_subset hc.held_subset subset_rfl
    refine ⟨hc.settles.append ht.settles, ht.held_subset.trans hkeys, fun call hcall => ?_,
      onTouchEvent_idle hc.idle⟩
    rcases List.mem_append.mp hcall with hearlier | hnow
    · exact hc.line call hearlier
    · exact hkeys (ht.line call hnow)
  | setDebug_mode debug_mode =>
    cases h
    rw [List.append_nil]
    exact ⟨hc.settles, hc.held_subset, hc.line, hc.idle⟩
  | layout frame realSize =>
    cases h
    rw [List.append_nil]
    exact ⟨hc.settles, hc.held_subset, hc.line, hc.idle⟩

lemma tracked_of_run (h : machine.Run (fun _ _ => True) (Create frame) tr c) : Tracked tr c := by
  refine h.invariant Tracked .create ?_
  intro tr c a c' calls _ hc _ hstep
  exact hc.step hstep

/-- The keys that are down are those of the D-pad that were sent down and not up again: the
direction that the cross has, or none. No key is sent up that is not down. After a finger has gone
down or moved outside debug mode, the direction is that of the touch point. -/
theorem cross_holds_direction (h : machine.Run (fun _ _ => True) (Create frame) tr c) :
    (∀ call ∈ tr, call.line ∈ dpadKeys) ∧
    (c.isPressed = true → c.key_pressed ≠ -1 → after ∅ tr = {c.key_pressed}) ∧
    (¬ (c.isPressed = true ∧ c.key_pressed ≠ -1) → after ∅ tr = ∅) ∧
    (after ∅ tr).Subsingleton ∧
    Along Signal.Matched ∅ tr ∧
    ∀ event c' calls, event.action = .ACTION_DOWN ∨ event.action = .ACTION_MOVE →
      c.debug_mode = false → machine.step c (.touch event) = some (c', calls) →
      (c.keyCodeAt event.x event.y ≠ -1 →
        after ∅ (tr ++ calls) = {c.keyCodeAt event.x event.y}) ∧
      (c.keyCodeAt event.x event.y = -1 → after ∅ (tr ++ calls) = ∅) := by
  have hc := tracked_of_run h
  refine ⟨hc.line, fun hpressed hne => ?_, fun hnot => ?_, ?_, hc.settles.matched, ?_⟩
  · rw [hc.settles.after_eq]
    exact held_of_pressed hpressed hne
  · rw [hc.settles.after_eq]
    exact held_of_idle fun hpressed => not_not.mp fun hne => hnot ⟨hpressed, hne⟩
  · rw [hc.settles.after_eq]
    rintro k ⟨_, _, rfl⟩ l ⟨_, _, rfl⟩
    rfl
  · intro event c' calls haction hdebug hstep
    have hafter := (hc.step hstep).settles.after_eq
    cases hstep
    rw [hafter, held_onTouchEvent hc.idle hdebug haction]
    constructor
    · intro hne
      ext k
      exact and_iff_right hne
    · intro hnone
      simp [hnone]

/-- A finger goes down on the left arm, again without having been lifted, and moves to the right. -/
theorem cross_holds_direction_right :
    ∃ tr c, machine.Run (fun _ _ => True) (Create ⟨0, 0, 300, 300⟩) tr c ∧
      after ∅ tr = {KeyEvent.KEYCODE_DPAD_RIGHT} := by
  obtain ⟨tr, c, hrun, hcheck⟩ := Machine.Run.exists_of_exec machine (fun _ _ => True)
    (Create ⟨0, 0, 300, 300⟩)
    [.touch ⟨.ACTION_DOWN, 50, 150⟩, .touch ⟨.ACTION_DOWN, 50, 150⟩,
      .touch ⟨.ACTION_MOVE, 250, 150⟩]
    (fun c _ => c.isPressed = true ∧ c.key_pressed = KeyEvent.KEYCODE_DPAD_RIGHT)
    (by decide)
  obtain ⟨hpressed, hright⟩ := hcheck
  refine ⟨tr, c, hrun, ?_⟩
  rw [← hright]
  exact (cross_holds_direction hrun).2.1 hpressed (by rw [hright]; decide)

end VirtualCross
end AndroidMkxp.Touch
