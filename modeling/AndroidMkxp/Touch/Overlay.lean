import AndroidMkxp.Foundation.Machine
import AndroidMkxp.Touch.Views
import Mathlib.Data.Fin.VecNotation
import Mathlib.Data.Set.Lattice

/-!
# The touch overlay

One cross and any number of buttons, each with its own key. Gestures on the views interleave in any
way; what one gesture leaves behind is where the next one on that view starts.

The views of an overlay drive disjoint sets of keys, so the calls of the whole overlay are all
effective as long as each view's are, and what is down is what the views hold. A view that is not
touched holds nothing, unless `ACTION_CANCEL` took a gesture away while it held a key: no handler
looks at that action. `noStuckKey_of_cancelsIdle` says that this is the only way a key can get
stuck or be sent down twice.
-/

namespace AndroidMkxp.Touch

open Foundation

inductive View (ι : Type) where
  | cross
  | button (i : ι)
  deriving DecidableEq

/-- The views of a layout. No two of them send the same key. -/
structure Overlay (ι : Type) where
  cross : VirtualCross
  buttons : ι → VirtualButton
  distinct : Function.Injective fun i => (buttons i).keyCode
  notDpad : ∀ i, (buttons i).keyCode ∉ dpadKeys

/-- `InputLayout.getDefaultButtonList`, laid out at the given places. -/
def getDefaultButtonList (crossFrame : Rect) (frames : Fin 3 → Rect) : Overlay (Fin 3) where
  cross := .Create crossFrame
  buttons i := .Create
    (![VirtualButton.CANCEL, VirtualButton.ENTER, VirtualButton.KEY_1] i) (frames i)
  distinct := by
    intro i j h
    revert h
    simp only [VirtualButton.Create]
    revert i j
    decide
  notDpad := by
    intro i
    simp only [VirtualButton.Create, dpadKeys, Set.mem_insert_iff, Set.mem_singleton_iff]
    revert i
    decide

/-- An overlay with the gestures in progress on its views. -/
structure Session (ι : Type) where
  overlay : Overlay ι
  touched : View ι → Bool

/-- A touch event, with the view it is delivered to. -/
abbrev Delivery (ι : Type) := View ι × MotionEvent

section

variable {ι : Type} [DecidableEq ι] {o : Overlay ι} {s s' : Session ι} {v w : View ι}
  {a : Delivery ι} {event : MotionEvent} {calls tr : List KeyCall}

namespace Overlay

lemma keyCode_update {b : VirtualButton} {i : ι} (h : b.keyCode = (o.buttons i).keyCode) (j : ι) :
    (Function.update o.buttons i b j).keyCode = (o.buttons j).keyCode := by
  rw [Function.update_apply]
  split_ifs with hj
  · rw [h, hj]
  · rfl

def setButton (o : Overlay ι) (i : ι) (b : VirtualButton)
    (h : b.keyCode = (o.buttons i).keyCode) : Overlay ι where
  cross := o.cross
  buttons := Function.update o.buttons i b
  distinct := by
    intro j k hjk
    simp only [keyCode_update h] at hjk
    exact o.distinct hjk
  notDpad := by
    intro j
    rw [keyCode_update h]
    exact o.notDpad j

lemma setButton_buttons {b : VirtualButton} {i : ι} (h : b.keyCode = (o.buttons i).keyCode)
    (j : ι) : (o.setButton i b h).buttons j = if j = i then b else o.buttons j :=
  Function.update_apply o.buttons i b j

def onTouchEvent (o : Overlay ι) : Delivery ι → Overlay ι × List KeyCall
  | (.cross, event) =>
    ({ o with cross := (o.cross.onTouchEvent event).1 }, (o.cross.onTouchEvent event).2)
  | (.button i, event) =>
    (o.setButton i ((o.buttons i).onTouchEvent event).1
      VirtualButton.onTouchEvent_handles.keyCode, ((o.buttons i).onTouchEvent event).2)

def heldBy (o : Overlay ι) : View ι → Set ℤ
  | .cross    => o.cross.held
  | .button i => (o.buttons i).held

/-- All keys that are held. -/
def held (o : Overlay ι) : Set ℤ := ⋃ v, o.heldBy v

/-- The keys held by the views other than `v`. -/
def heldByOthers (o : Overlay ι) (v : View ι) : Set ℤ := ⋃ w, ⋃ (_ : w ≠ v), o.heldBy w

def debug_mode (o : Overlay ι) : View ι → Bool
  | .cross    => o.cross.debug_mode
  | .button i => (o.buttons i).debug_mode

/-- The keys that a view can send. -/
def keys (o : Overlay ι) : View ι → Set ℤ
  | .cross    => dpadKeys
  | .button i => {(o.buttons i).keyCode}

omit [DecidableEq ι] in
lemma held_eq_union (o : Overlay ι) (v : View ι) : o.held = o.heldBy v ∪ o.heldByOthers v := by
  ext k
  simp only [held, heldByOthers, Set.mem_union, Set.mem_iUnion, exists_prop]
  constructor
  · rintro ⟨w, hw⟩
    rcases eq_or_ne w v with rfl | hne
    · exact Or.inl hw
    · exact Or.inr ⟨w, hne, hw⟩
  · rintro (hv | ⟨w, _, hw⟩)
    · exact ⟨v, hv⟩
    · exact ⟨w, hw⟩

omit [DecidableEq ι] in
/-- No two views send the same key. -/
lemma notMem_keys_of_ne (o : Overlay ι) (h : v ≠ w) {k : ℤ} (hk : k ∈ o.keys v) : k ∉ o.keys w := by
  cases v with
  | cross =>
    cases w with
    | cross => exact absurd rfl h
    | button j =>
      rintro rfl
      exact o.notDpad j hk
  | button i =>
    cases hk
    cases w with
    | cross => exact o.notDpad i
    | button j =>
      intro heq
      exact h (congrArg View.button (o.distinct heq))

/-! ### One event -/

/-- What an event on view `v` leaves unchanged, and which calls it makes. -/
structure Handles (v : View ι) (o o' : Overlay ι) (calls : List KeyCall) : Prop where
  debug_mode : ∀ w, o'.debug_mode w = o.debug_mode w
  keys : o'.keys = o.keys
  others : ∀ w, w ≠ v → o'.heldBy w = o.heldBy w
  drives : Drives (o.heldBy v) calls (o'.heldBy v)
  held_subset : o'.heldBy v ⊆ o.heldBy v ∪ o.keys v
  line : ∀ call ∈ calls, call.line ∈ o.heldBy v ∪ o.keys v

theorem onTouchEvent_handles (hdown : event.action = .ACTION_DOWN → o.heldBy v = ∅) :
    Handles v o (o.onTouchEvent (v, event)).1 (o.onTouchEvent (v, event)).2 := by
  cases v with
  | cross =>
    have h : VirtualCross.Handles o.cross (o.cross.onTouchEvent event).1
        (o.cross.onTouchEvent event).2 := by
      apply VirtualCross.onTouchEvent_handles
      intro haction
      have hnone : o.cross.held = ∅ := hdown haction
      rw [hnone]
      exact Set.notMem_empty _
    refine ⟨fun w => ?_, ?_, fun w hw => ?_, h.drives, h.held_subset, h.line⟩
    · cases w with
      | cross => exact h.debug_mode
      | button i => rfl
    · funext w
      cases w <;> rfl
    · cases w with
      | cross => exact absurd rfl hw
      | button i => rfl
  | button i =>
    have h : VirtualButton.Handles (o.buttons i) ((o.buttons i).onTouchEvent event).1
        ((o.buttons i).onTouchEvent event).2 := VirtualButton.onTouchEvent_handles
    have hself : (o.setButton i ((o.buttons i).onTouchEvent event).1 h.keyCode).heldBy (.button i) =
        ((o.buttons i).onTouchEvent event).1.held := by
      rw [heldBy, setButton_buttons, if_pos rfl]
    refine ⟨fun w => ?_, ?_, fun w hw => ?_, ?_, ?_, fun call hcall => Or.inr (h.line call hcall)⟩
    · cases w with
      | cross => rfl
      | button j =>
        rw [onTouchEvent, debug_mode, debug_mode, setButton_buttons]
        split_ifs with hj
        · rw [h.debug_mode, hj]
        · rfl
    · funext w
      cases w with
      | cross => rfl
      | button j =>
        rw [onTouchEvent, Overlay.keys, Overlay.keys, setButton_buttons]
        split_ifs with hj
        · rw [h.keyCode, hj]
        · rfl
    · cases w with
      | cross => rfl
      | button j =>
        have hj : j ≠ i := fun hj => hw (congrArg View.button hj)
        rw [onTouchEvent, heldBy, heldBy, setButton_buttons, if_neg hj]
    · rw [onTouchEvent, hself]
      exact h.drives
    · rw [onTouchEvent, hself]
      rintro k ⟨_, hk⟩
      exact Or.inr (hk.trans h.keyCode)

/-- `ACTION_UP` leaves the view with no key held. -/
lemma heldBy_onTouchEvent_up (hlive : o.debug_mode v = false) (hup : event.action = .ACTION_UP) :
    (o.onTouchEvent (v, event)).1.heldBy v = ∅ := by
  cases v with
  | cross => exact VirtualCross.held_onTouchEvent_up hlive hup
  | button i =>
    rw [onTouchEvent, heldBy, setButton_buttons, if_pos rfl]
    exact VirtualButton.held_onTouchEvent_up hlive hup

/-- `ACTION_CANCEL` leaves the view with the keys that it held. -/
lemma heldBy_onTouchEvent_cancel (hcancel : event.action = .ACTION_CANCEL) :
    (o.onTouchEvent (v, event)).1.heldBy v = o.heldBy v := by
  cases v with
  | cross => rw [onTouchEvent, heldBy, VirtualCross.onTouchEvent_cancel hcancel, heldBy]
  | button i =>
    rw [onTouchEvent, heldBy, setButton_buttons, if_pos rfl,
      VirtualButton.onTouchEvent_cancel hcancel, heldBy]

omit [DecidableEq ι] in
/-- An event on one view drives the keys of the overlay. -/
lemma Handles.overlay_drives {o' : Overlay ι} (h : Handles v o o' calls)
    (hkeys : ∀ w, o.heldBy w ⊆ o.keys w) : Drives o.held calls o'.held := by
  have hothers : o'.heldByOthers v = o.heldByOthers v := by
    apply Set.iUnion_congr
    intro w
    apply Set.iUnion_congr
    exact h.others w
  rw [o.held_eq_union v, o'.held_eq_union v, hothers]
  apply h.drives.frame
  intro call hcall hmem
  simp only [heldByOthers, Set.mem_iUnion, exists_prop] at hmem
  obtain ⟨w, hw, hline⟩ := hmem
  have hown : call.line ∈ o.keys v := by
    rcases h.line call hcall with hheld | hkey
    · exact hkeys v hheld
    · exact hkey
  exact o.notMem_keys_of_ne (Ne.symm hw) hown (hkeys w hline)

end Overlay

/-! ### Gestures -/

/-- Whether a gesture is in progress after an action. -/
def inGesture (touched : Bool) : MotionAction → Bool
  | .ACTION_DOWN   => true
  | .ACTION_UP     => false
  | .ACTION_CANCEL => false
  | _              => touched

/-- The order of the events of one gesture: down, then moves and other pointers, then up or
cancel. -/
def Gesture (s : Session ι) (a : Delivery ι) : Prop :=
  match a.2.action with
  | .ACTION_DOWN    => s.touched a.1 = false
  | .ACTION_OUTSIDE => False
  | _               => s.touched a.1 = true

instance (s : Session ι) : ∀ a : Delivery ι, Decidable (Gesture s a)
  | (_, ⟨.ACTION_DOWN, _, _⟩)         => inferInstanceAs (Decidable (_ = false))
  | (_, ⟨.ACTION_OUTSIDE, _, _⟩)      => isFalse id
  | (_, ⟨.ACTION_UP, _, _⟩)           => inferInstanceAs (Decidable (_ = true))
  | (_, ⟨.ACTION_MOVE, _, _⟩)         => inferInstanceAs (Decidable (_ = true))
  | (_, ⟨.ACTION_CANCEL, _, _⟩)       => inferInstanceAs (Decidable (_ = true))
  | (_, ⟨.ACTION_POINTER_DOWN, _, _⟩) => inferInstanceAs (Decidable (_ = true))
  | (_, ⟨.ACTION_POINTER_UP, _, _⟩)   => inferInstanceAs (Decidable (_ = true))

/-- `ACTION_CANCEL` reaches a view only while the view holds no key. -/
def CancelsIdle (s : Session ι) (a : Delivery ι) : Prop :=
  a.2.action = .ACTION_CANCEL → s.overlay.heldBy a.1 = ∅

/-- The overlay as a machine, whose actions are touch events and whose events are calls of SDL. -/
def session (ι : Type) [DecidableEq ι] : Machine (Session ι) (Delivery ι) KeyCall where
  step s a := some (⟨(s.overlay.onTouchEvent a).1,
    Function.update s.touched a.1 (inGesture (s.touched a.1) a.2.action)⟩,
      (s.overlay.onTouchEvent a).2)

/-- What holds after the calls `tr` in every state that is reached while no key is cancelled. -/
structure Tidy (tr : List KeyCall) (s : Session ι) : Prop where
  live : ∀ v, s.overlay.debug_mode v = false
  held_subset : ∀ v, s.overlay.heldBy v ⊆ s.overlay.keys v
  idle : ∀ v, s.touched v = false → s.overlay.heldBy v = ∅
  drives : Drives ∅ tr s.overlay.held

theorem Tidy.step (hs : Tidy tr s) (hgesture : Gesture s a) (hcancel : CancelsIdle s a)
    (hstep : (session ι).step s a = some (s', calls)) : Tidy (tr ++ calls) s' := by
  obtain ⟨v, event⟩ := a
  cases hstep
  have hdown : event.action = .ACTION_DOWN → s.overlay.heldBy v = ∅ := by
    intro haction
    apply hs.idle
    simpa only [Gesture, haction] using hgesture
  have h := Overlay.onTouchEvent_handles hdown
  refine ⟨fun w => (h.debug_mode w).trans (hs.live w), fun w => ?_, fun w hw => ?_,
    hs.drives.append (h.overlay_drives hs.held_subset)⟩
  · show _ ⊆ (s.overlay.onTouchEvent (v, event)).1.keys w
    rw [h.keys]
    rcases eq_or_ne w v with rfl | hne
    · exact h.held_subset.trans (Set.union_subset (hs.held_subset w) subset_rfl)
    · rw [h.others w hne]
      exact hs.held_subset w
  · simp only [Function.update_apply] at hw
    split_ifs at hw with hv
    · -- the gesture on this view has just ended
      subst hv
      cases haction : event.action with
      | ACTION_UP => exact Overlay.heldBy_onTouchEvent_up (hs.live w) haction
      | ACTION_CANCEL =>
        rw [Overlay.heldBy_onTouchEvent_cancel haction]
        exact hcancel haction
      | _ => simp_all [Gesture, inGesture]
    · rw [h.others w hv]
      exact hs.idle w hw

/-- No key is held and no view is in debug mode, as in newly created views. -/
structure Overlay.Fresh (o : Overlay ι) : Prop where
  live : ∀ v, o.debug_mode v = false
  heldBy : ∀ v, o.heldBy v = ∅

omit [DecidableEq ι] in
lemma Overlay.Fresh.tidy (h : o.Fresh) : Tidy [] ⟨o, fun _ => false⟩ where
  live := h.live
  held_subset v := by
    rw [h.heldBy v]
    exact Set.empty_subset _
  idle v _ := h.heldBy v
  drives := by
    have hnone : o.held = ∅ := Set.iUnion_eq_empty.mpr h.heldBy
    rw [hnone]
    exact .nil

/-! ### No stuck and no doubled key -/

/-- In every run the calls for each key alternate, starting with a down, and once all gestures have
ended no key is down. -/
def NoStuckKey (ι : Type) [DecidableEq ι] (ok : Session ι → Delivery ι → Prop) : Prop :=
  ∀ (o : Overlay ι) (s : Session ι) (tr : List KeyCall), o.Fresh →
    (session ι).Run ok ⟨o, fun _ => false⟩ tr s →
    (∀ keyCode, (false :: levels keyCode tr).IsChain (· ≠ ·)) ∧
      ((∀ v, s.touched v = false) → after ∅ tr = ∅)

lemma tidy_of_run (ho : o.Fresh)
    (h : (session ι).Run (fun s a => Gesture s a ∧ CancelsIdle s a) ⟨o, fun _ => false⟩ tr s) :
    Tidy tr s := by
  refine h.invariant Tidy ho.tidy ?_
  intro tr s a s' calls _ hs ha hstep
  exact hs.step ha.1 ha.2 hstep

theorem noStuckKey_of_cancelsIdle (ι : Type) [DecidableEq ι] :
    NoStuckKey ι fun s a => Gesture s a ∧ CancelsIdle s a := by
  intro o s tr ho hrun
  have hs := tidy_of_run ho hrun
  constructor
  · intro keyCode
    exact along_effective_iff.mp hs.drives.effective keyCode false (by simp)
  · intro hended
    rw [hs.drives.after_eq]
    exact Set.iUnion_eq_empty.mpr fun v => hs.idle v (hended v)

/-- A gesture that is cancelled while its view holds a key, with no other gesture in progress,
leaves that key down. -/
theorem Tidy.stuck_of_cancel (hs : Tidy tr s) (hcancel : event.action = .ACTION_CANCEL)
    (hheld : (s.overlay.heldBy v).Nonempty) (hothers : ∀ w, w ≠ v → s.touched w = false)
    (hstep : (session ι).step s (v, event) = some (s', calls)) :
    (∀ w, s'.touched w = false) ∧ (after ∅ (tr ++ calls)).Nonempty := by
  cases hstep
  have hdown : event.action = .ACTION_DOWN → s.overlay.heldBy v = ∅ := by
    intro haction
    rw [hcancel] at haction
    cases haction
  have hafter := (hs.drives.append
    ((Overlay.onTouchEvent_handles hdown).overlay_drives hs.held_subset)).after_eq
  constructor
  · intro w
    simp only [Function.update_apply, hcancel, inGesture]
    split_ifs with hw
    · rfl
    · exact hothers w hw
  · rw [hafter, Overlay.held_eq_union _ v, Overlay.heldBy_onTouchEvent_cancel hcancel]
    exact hheld.inl

end

lemma getDefaultButtonList_fresh (crossFrame : Rect) (frames : Fin 3 → Rect) :
    (getDefaultButtonList crossFrame frames).Fresh where
  live v := by cases v <;> rfl
  heldBy v := by
    cases v with
    | cross =>
      apply VirtualCross.held_of_idle
      intro h
      cases h
    | button i => exact VirtualButton.held_of_released rfl

/-- A press of the cancel button that is taken away with `ACTION_CANCEL`. -/
theorem not_noStuckKey : ¬ NoStuckKey (Fin 3) Gesture := by
  intro h
  obtain ⟨tr, s, hrun, hcheck⟩ := Machine.Run.exists_of_exec (session (Fin 3)) Gesture
    ⟨getDefaultButtonList ⟨0, 0, 300, 300⟩ fun _ => ⟨400, 0, 520, 120⟩, fun _ => false⟩
    [(.button 0, ⟨.ACTION_DOWN, 60, 60⟩), (.button 0, ⟨.ACTION_CANCEL, 60, 60⟩)]
    (fun s tr => tr = [SDLActivity.onNativeKeyDown VirtualButton.CANCEL] ∧
      s.touched .cross = false ∧ ∀ i, s.touched (.button i) = false)
    (by decide)
  obtain ⟨htr, hcross, hbuttons⟩ := hcheck
  have hup := (h _ s tr (getDefaultButtonList_fresh _ _) hrun).2 fun v => by
    cases v with
    | cross => exact hcross
    | button i => exact hbuttons i
  have hfirst : false = true ↔ VirtualButton.CANCEL ∈ (∅ : Set ℤ) := by simp
  have hdown : VirtualButton.CANCEL ∈ after ∅ tr := by
    rw [mem_after_iff hfirst, htr]
    rfl
  rw [hup] at hdown
  exact hdown

end AndroidMkxp.Touch
