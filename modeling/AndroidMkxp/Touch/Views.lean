import AndroidMkxp.Foundation.Signals

/-!
# Buttons and the directional cross

The two kinds of views of the touch overlay, `VirtualButton` and `VirtualCross`. A touch event
changes the state of its view and makes calls of `SDLActivity.onNativeKeyDown` and `onNativeKeyUp`.
A view holds the keys that it has sent down and not up yet; each handler drives exactly these keys,
the cross only if `ACTION_DOWN` finds no key held.
-/

namespace AndroidMkxp.Touch

open Foundation

/-- A call into SDL, for a key code: `onNativeKeyDown` or `onNativeKeyUp`. -/
abbrev KeyCall := Signal ℤ

namespace SDLActivity

def onNativeKeyDown (keyCode : ℤ) : KeyCall := .on keyCode

def onNativeKeyUp (keyCode : ℤ) : KeyCall := .off keyCode

end SDLActivity

namespace KeyEvent

def KEYCODE_DPAD_UP : ℤ := 19
def KEYCODE_DPAD_DOWN : ℤ := 20
def KEYCODE_DPAD_LEFT : ℤ := 21
def KEYCODE_DPAD_RIGHT : ℤ := 22
def KEYCODE_Z : ℤ := 54
def KEYCODE_SPACE : ℤ := 62
def KEYCODE_ESCAPE : ℤ := 111

end KeyEvent

/-- `android.graphics.Rect` -/
structure Rect where
  left : ℤ
  top : ℤ
  right : ℤ
  bottom : ℤ
  deriving DecidableEq, Repr

/-- The top left corner belongs to the rectangle, the bottom right one does not. An empty rectangle
contains no point. -/
def Rect.contains (r : Rect) (x y : ℤ) : Bool :=
  decide (r.left < r.right) && decide (r.top < r.bottom) && decide (x ≥ r.left) &&
    decide (x < r.right) && decide (y ≥ r.top) && decide (y < r.bottom)

/-- The result of `MotionEvent.getActionMasked`. -/
inductive MotionAction where
  | ACTION_DOWN
  | ACTION_UP
  | ACTION_MOVE
  | ACTION_CANCEL
  | ACTION_OUTSIDE
  | ACTION_POINTER_DOWN
  | ACTION_POINTER_UP
  deriving DecidableEq, Repr

/-- A touch event, with its coordinates relative to the view cast to `int`. -/
structure MotionEvent where
  action : MotionAction
  x : ℤ
  y : ℤ
  deriving DecidableEq, Repr

structure VirtualButton where
  keyCode : ℤ
  /-- `getLeft()`, `getTop()`, `getRight()` and `getBottom()` -/
  frame : Rect
  realSize : ℤ
  isPressed : Bool := false
  debug_mode : Bool := false
  deriving DecidableEq, Repr

structure VirtualCross extends VirtualButton where
  key_pressed : ℤ := 0
  deriving DecidableEq, Repr

/-! ### Buttons -/

namespace VirtualButton

def DPAD : ℤ := -1
def ENTER : ℤ := KeyEvent.KEYCODE_SPACE
def CANCEL : ℤ := KeyEvent.KEYCODE_ESCAPE
def KEY_1 : ℤ := KeyEvent.KEYCODE_Z

/-- A new button, laid out as the square that it measures. -/
def Create (keyCode : ℤ) (frame : Rect) : VirtualButton where
  keyCode := keyCode
  frame := frame
  realSize := frame.right - frame.left

variable {b : VirtualButton} {event : MotionEvent} {calls : List KeyCall}

def onPressed (b : VirtualButton) : VirtualButton × List KeyCall :=
  if !b.debug_mode then
    if !b.isPressed then ({ b with isPressed := true }, [SDLActivity.onNativeKeyDown b.keyCode])
    else (b, [])
  else (b, [])

def onReleased (b : VirtualButton) : VirtualButton × List KeyCall :=
  if !b.debug_mode then
    if b.isPressed then ({ b with isPressed := false }, [SDLActivity.onNativeKeyUp b.keyCode])
    else (b, [])
  else (b, [])

def onTouchEvent (b : VirtualButton) (event : MotionEvent) : VirtualButton × List KeyCall :=
  match event.action with
  | .ACTION_DOWN => b.onPressed
  | .ACTION_UP   => b.onReleased
  | .ACTION_MOVE =>
    -- the finger has left the button
    if !b.frame.contains (b.frame.left + event.x) (b.frame.top + event.y) then b.onReleased
    else (b, [])
  | _            => (b, [])

/-- The key sent down and not up yet. -/
def held (b : VirtualButton) : Set ℤ := {k | b.isPressed = true ∧ k = b.keyCode}

lemma held_of_pressed (h : b.isPressed = true) : b.held = {b.keyCode} := by
  ext k
  simp [held, h]

lemma held_of_released (h : b.isPressed = false) : b.held = ∅ := by
  ext k
  simp [held, h]

/-- What a handler of a button leaves unchanged, and which calls it makes. -/
structure Handles (b b' : VirtualButton) (calls : List KeyCall) : Prop where
  keyCode : b'.keyCode = b.keyCode
  debug_mode : b'.debug_mode = b.debug_mode
  drives : Drives b.held calls b'.held
  line : ∀ c ∈ calls, c.line = b.keyCode

lemma Handles.unchanged : Handles b b [] := ⟨rfl, rfl, .nil, by simp⟩

lemma onPressed_handles : Handles b b.onPressed.1 b.onPressed.2 := by
  rw [onPressed]
  split_ifs with hdebug hpressed
  · have hreleased : b.isPressed = false := by simpa using hpressed
    refine ⟨rfl, rfl, ?_, by simp [SDLActivity.onNativeKeyDown, Signal.line]⟩
    have hon := Drives.on (Set.notMem_empty b.keyCode)
    rw [held_of_released hreleased, held_of_pressed rfl, ← insert_empty_eq b.keyCode]
    exact hon
  · exact .unchanged
  · exact .unchanged

lemma onReleased_handles : Handles b b.onReleased.1 b.onReleased.2 := by
  rw [onReleased]
  split_ifs with hdebug hpressed
  · refine ⟨rfl, rfl, ?_, by simp [SDLActivity.onNativeKeyUp, Signal.line]⟩
    have hoff := Drives.off (Set.mem_singleton b.keyCode)
    rw [sdiff_self] at hoff
    rw [held_of_pressed hpressed, held_of_released rfl]
    exact hoff
  · exact .unchanged
  · exact .unchanged

/-- A button sends its key down and up in turn, whatever events it gets. -/
theorem onTouchEvent_handles : Handles b (b.onTouchEvent event).1 (b.onTouchEvent event).2 := by
  simp only [onTouchEvent]
  cases event.action with
  | ACTION_DOWN => exact onPressed_handles
  | ACTION_UP => exact onReleased_handles
  | ACTION_MOVE =>
    simp only
    split_ifs
    · exact onReleased_handles
    · exact .unchanged
  | _ => exact .unchanged

/-- `ACTION_UP` leaves no key held. -/
lemma held_onTouchEvent_up (hdebug : b.debug_mode = false) (hup : event.action = .ACTION_UP) :
    (b.onTouchEvent event).1.held = ∅ := by
  simp only [onTouchEvent, hup, onReleased, hdebug, Bool.not_false, if_true]
  cases hpressed : b.isPressed with
  | true => exact held_of_released rfl
  | false => exact held_of_released hpressed

/-- `ACTION_CANCEL` does nothing. -/
lemma onTouchEvent_cancel (hcancel : event.action = .ACTION_CANCEL) :
    b.onTouchEvent event = (b, []) := by
  simp only [onTouchEvent, hcancel]

end VirtualButton

/-! ### The directional cross -/

/-- The hitboxes of the four directions. -/
structure Bounds where
  boundLeft : Rect
  boundRight : Rect
  boundUp : Rect
  boundDown : Rect
  deriving DecidableEq, Repr

/-- The key codes of the D-pad. -/
def dpadKeys : Set ℤ :=
  {KeyEvent.KEYCODE_DPAD_LEFT, KeyEvent.KEYCODE_DPAD_RIGHT, KeyEvent.KEYCODE_DPAD_UP,
    KeyEvent.KEYCODE_DPAD_DOWN}

namespace VirtualCross

/-- A new cross, laid out as the square that it measures. -/
def Create (frame : Rect) : VirtualCross where
  toVirtualButton := .Create VirtualButton.DPAD frame

variable {c : VirtualCross} {event : MotionEvent} {keyCode x y : ℤ}

/-- The casts of `realSize * 0.33` and `realSize * 0.20` to `int`, for a size that is not
negative. -/
def setBounds (c : VirtualCross) : Bounds :=
  let iconSize_33 := 33 * c.realSize / 100
  let padding := c.realSize / 5
  { boundLeft := ⟨c.frame.left - padding, c.frame.top + iconSize_33,
      c.frame.right - 2 * iconSize_33, c.frame.bottom - iconSize_33 + padding⟩
    boundRight := ⟨c.frame.left + 2 * iconSize_33, c.frame.top + iconSize_33,
      c.frame.right + padding, c.frame.bottom - iconSize_33 + padding⟩
    boundUp := ⟨c.frame.left + iconSize_33, c.frame.top - padding,
      c.frame.right - iconSize_33, c.frame.bottom - 2 * iconSize_33⟩
    boundDown := ⟨c.frame.left + iconSize_33, c.frame.top + 2 * iconSize_33,
      c.frame.right - iconSize_33, c.frame.bottom + padding⟩ }

/-- The direction of a touch point, tested left, right, up, down; -1 outside all hitboxes. -/
def keyCodeAt (c : VirtualCross) (x y : ℤ) : ℤ :=
  let bounds := c.setBounds
  let px := c.frame.left + x
  let py := c.frame.top + y
  if bounds.boundLeft.contains px py then KeyEvent.KEYCODE_DPAD_LEFT
  else if bounds.boundRight.contains px py then KeyEvent.KEYCODE_DPAD_RIGHT
  else if bounds.boundUp.contains px py then KeyEvent.KEYCODE_DPAD_UP
  else if bounds.boundDown.contains px py then KeyEvent.KEYCODE_DPAD_DOWN
  else -1

def sendSDLDownMessage (keycode : ℤ) : KeyCall := SDLActivity.onNativeKeyDown keycode

def sendSDLUpMessage (keycode : ℤ) : KeyCall := SDLActivity.onNativeKeyUp keycode

def onPressed (c : VirtualCross) (keyCode : ℤ) : VirtualCross × List KeyCall :=
  if !c.debug_mode then
    -- pressed in another direction: that key goes up first
    let released :=
      if c.isPressed ∧ c.key_pressed ≠ keyCode then
        if c.key_pressed ≠ -1 then [sendSDLUpMessage c.key_pressed] else []
      else []
    let pressed := if keyCode ≠ -1 then [sendSDLDownMessage keyCode] else []
    ({ c with key_pressed := keyCode, isPressed := true }, released ++ pressed)
  else (c, [])

def onReleased (c : VirtualCross) : VirtualCross × List KeyCall :=
  if !c.debug_mode then
    let released :=
      if c.isPressed then
        if c.key_pressed ≠ -1 then [sendSDLUpMessage c.key_pressed] else []
      else []
    ({ c with key_pressed := -1, isPressed := false }, released)
  else (c, [])

def onTouchEvent (c : VirtualCross) (event : MotionEvent) : VirtualCross × List KeyCall :=
  let keyCode := c.keyCodeAt event.x event.y
  -- always so: no direction has code 1
  if keyCode ≠ 1 then
    match event.action with
    | .ACTION_DOWN => c.onPressed keyCode
    | .ACTION_UP   => c.onReleased
    | .ACTION_MOVE => if keyCode ≠ c.key_pressed then c.onPressed keyCode else (c, [])
    | _            => (c, [])
  else (c, [])

/-- The direction sent down and not up yet. -/
def held (c : VirtualCross) : Set ℤ :=
  {k | c.isPressed = true ∧ c.key_pressed ≠ -1 ∧ k = c.key_pressed}

lemma held_of_pressed (h : c.isPressed = true) (hk : c.key_pressed ≠ -1) :
    c.held = {c.key_pressed} := by
  ext k
  simp [held, h, hk]

lemma held_of_idle (h : c.isPressed = true → c.key_pressed = -1) : c.held = ∅ := by
  ext k
  simp only [held, Set.mem_ofPred_eq, Set.mem_empty_iff_false, iff_false]
  rintro ⟨hpressed, hk, _⟩
  exact hk (h hpressed)

lemma keyCodeAt_eq_or (c : VirtualCross) (x y : ℤ) :
    c.keyCodeAt x y = -1 ∨ c.keyCodeAt x y ∈ dpadKeys := by
  simp only [keyCodeAt, dpadKeys]
  split_ifs <;> simp

lemma keyCodeAt_ne {k : ℤ} (hk : k ≠ -1 ∧ k ∉ dpadKeys) (c : VirtualCross) (x y : ℤ) :
    c.keyCodeAt x y ≠ k := by
  rintro rfl
  rcases c.keyCodeAt_eq_or x y with hnone | hdpad
  · exact hk.1 hnone
  · exact hk.2 hdpad

lemma keyCodeAt_ne_zero : c.keyCodeAt x y ≠ 0 := by
  apply keyCodeAt_ne
  simp [dpadKeys, KeyEvent.KEYCODE_DPAD_LEFT, KeyEvent.KEYCODE_DPAD_RIGHT,
    KeyEvent.KEYCODE_DPAD_UP, KeyEvent.KEYCODE_DPAD_DOWN]

lemma keyCodeAt_ne_one : c.keyCodeAt x y ≠ 1 := by
  apply keyCodeAt_ne
  simp [dpadKeys, KeyEvent.KEYCODE_DPAD_LEFT, KeyEvent.KEYCODE_DPAD_RIGHT,
    KeyEvent.KEYCODE_DPAD_UP, KeyEvent.KEYCODE_DPAD_DOWN]

/-- The test against 1 lets every event through. -/
lemma onTouchEvent_eq : c.onTouchEvent event =
    match event.action with
    | .ACTION_DOWN => c.onPressed (c.keyCodeAt event.x event.y)
    | .ACTION_UP   => c.onReleased
    | .ACTION_MOVE =>
      if c.keyCodeAt event.x event.y ≠ c.key_pressed then c.onPressed (c.keyCodeAt event.x event.y)
      else (c, [])
    | _            => (c, []) := by
  rw [onTouchEvent, if_pos keyCodeAt_ne_one]

/-- What a handler of the cross leaves unchanged, and which calls it makes. -/
structure Handles (c c' : VirtualCross) (calls : List KeyCall) : Prop where
  debug_mode : c'.debug_mode = c.debug_mode
  drives : Drives c.held calls c'.held
  held_subset : c'.held ⊆ c.held ∪ dpadKeys
  line : ∀ call ∈ calls, call.line ∈ c.held ∪ dpadKeys

lemma Handles.unchanged : Handles c c [] := ⟨rfl, .nil, Set.subset_union_left, by simp⟩

/-- The calls that let go of the key that is held. -/
def releases (c : VirtualCross) : List KeyCall :=
  if c.isPressed then
    if c.key_pressed ≠ -1 then [sendSDLUpMessage c.key_pressed] else []
  else []

lemma releases_drives : Drives c.held c.releases ∅ := by
  rw [releases]
  split_ifs with hpressed hk
  · have hoff := Drives.off (Set.mem_singleton c.key_pressed)
    rw [sdiff_self] at hoff
    rw [held_of_pressed hpressed hk]
    exact hoff
  · rw [held_of_idle fun _ => not_not.mp hk]
    exact .nil
  · rw [held_of_idle fun h => absurd h hpressed]
    exact .nil

lemma line_of_mem_releases : ∀ call ∈ c.releases, call.line ∈ c.held := by
  rw [releases]
  split_ifs with hpressed hk
  · intro call hcall
    rw [held_of_pressed hpressed hk, List.mem_singleton.mp hcall]
    rfl
  · simp
  · simp

lemma onPressed_debug (hdebug : c.debug_mode = true) : c.onPressed keyCode = (c, []) := by
  simp only [onPressed, hdebug, Bool.not_true, Bool.false_eq_true, if_false]

lemma onReleased_debug (hdebug : c.debug_mode = true) : c.onReleased = (c, []) := by
  simp only [onReleased, hdebug, Bool.not_true, Bool.false_eq_true, if_false]

lemma onPressed_fst (hdebug : c.debug_mode = false) :
    (c.onPressed keyCode).1 = { c with key_pressed := keyCode, isPressed := true } := by
  simp only [onPressed, hdebug, Bool.not_false, if_true]

lemma onReleased_eq (hdebug : c.debug_mode = false) :
    c.onReleased = ({ c with key_pressed := -1, isPressed := false }, c.releases) := by
  simp only [onReleased, releases, hdebug, Bool.not_false, if_true]

/-- In another direction than the held one, `onPressed` first lets go of that one. -/
lemma onPressed_eq (hdebug : c.debug_mode = false) (hfree : keyCode ∉ c.held) :
    c.onPressed keyCode = ({ c with key_pressed := keyCode, isPressed := true },
      c.releases ++ if keyCode ≠ -1 then [sendSDLDownMessage keyCode] else []) := by
  simp only [onPressed, releases, hdebug, Bool.not_false, if_true, Prod.mk.injEq, true_and]
  by_cases hpressed : c.isPressed = true
  · by_cases hk : c.key_pressed = keyCode
    · have hnone : c.key_pressed = -1 := by
        by_contra hne
        exact hfree ⟨hpressed, hne, hk.symm⟩
      simp [hnone]
    · simp [hpressed, hk]
  · simp [hpressed]

lemma onPressed_handles (hkey : keyCode = -1 ∨ keyCode ∈ dpadKeys) (hfree : keyCode ∉ c.held) :
    Handles c (c.onPressed keyCode).1 (c.onPressed keyCode).2 := by
  cases hdebug : c.debug_mode with
  | true =>
    rw [onPressed_debug hdebug]
    exact .unchanged
  | false =>
    rw [onPressed_eq hdebug hfree]
    rcases eq_or_ne keyCode (-1) with rfl | hne
    · have hheld : held { c with key_pressed := -1, isPressed := true } = ∅ :=
        held_of_idle fun _ => rfl
      simp only [ne_eq, not_true_eq_false, if_false, List.append_nil]
      refine ⟨rfl, ?_, ?_, fun call hcall => Or.inl (line_of_mem_releases call hcall)⟩
      · rw [hheld]
        exact releases_drives
      · rw [hheld]
        exact Set.empty_subset _
    · have hheld : held { c with key_pressed := keyCode, isPressed := true } = {keyCode} :=
        held_of_pressed rfl hne
      have hdpad : keyCode ∈ dpadKeys := hkey.resolve_left hne
      simp only [ne_eq, hne, not_false_eq_true, if_true]
      refine ⟨rfl, ?_, ?_, ?_⟩
      · rw [hheld, ← insert_empty_eq keyCode]
        exact releases_drives.append (.on (Set.notMem_empty keyCode))
      · rw [hheld, Set.singleton_subset_iff]
        exact Or.inr hdpad
      · intro call hcall
        rcases List.mem_append.mp hcall with hcall | hcall
        · exact Or.inl (line_of_mem_releases call hcall)
        · rw [List.mem_singleton.mp hcall]
          exact Or.inr hdpad

lemma onReleased_handles : Handles c c.onReleased.1 c.onReleased.2 := by
  cases hdebug : c.debug_mode with
  | true =>
    rw [onReleased_debug hdebug]
    exact .unchanged
  | false =>
    have hheld : held { c with key_pressed := -1, isPressed := false } = ∅ :=
      held_of_idle fun _ => rfl
    rw [onReleased_eq hdebug]
    refine ⟨rfl, ?_, ?_, fun call hcall => Or.inl (line_of_mem_releases call hcall)⟩
    · rw [hheld]
      exact releases_drives
    · rw [hheld]
      exact Set.empty_subset _

/-- The cross sends each direction down and up in turn, if a finger does not go down on the
direction that is held. -/
theorem onTouchEvent_handles
    (hdown : event.action = .ACTION_DOWN → c.keyCodeAt event.x event.y ∉ c.held) :
    Handles c (c.onTouchEvent event).1 (c.onTouchEvent event).2 := by
  have hkey := c.keyCodeAt_eq_or event.x event.y
  rw [onTouchEvent_eq]
  cases haction : event.action with
  | ACTION_DOWN => exact onPressed_handles hkey (hdown haction)
  | ACTION_UP => exact onReleased_handles
  | ACTION_MOVE =>
    simp only
    split_ifs with hother
    · apply onPressed_handles hkey
      rintro ⟨_, _, heq⟩
      exact hother heq
    · exact .unchanged
  | _ => exact .unchanged

/-- `ACTION_UP` leaves no key held. -/
lemma held_onTouchEvent_up (hdebug : c.debug_mode = false) (hup : event.action = .ACTION_UP) :
    (c.onTouchEvent event).1.held = ∅ := by
  simp only [onTouchEvent_eq, hup, onReleased_eq hdebug]
  exact held_of_idle fun _ => rfl

/-- `ACTION_CANCEL` does nothing. -/
lemma onTouchEvent_cancel (hcancel : event.action = .ACTION_CANCEL) :
    c.onTouchEvent event = (c, []) := by
  simp only [onTouchEvent_eq, hcancel]

end VirtualCross
end AndroidMkxp.Touch
