import AndroidMkxp.Foundation.History
import AndroidMkxp.Touch.Views
import Mathlib.Data.List.Perm.Basic

/-!
# Fingers on the surface

What is not a touch of the overlay's views reaches `SDLSurface.onTouch`, which tells SDL about every
finger of the event. Touch events of several devices interleave. On each device they follow the
order of a gesture: one finger comes down, others come and go, the last one goes up, or all are
cancelled.

In SDL a finger is down from its down to its up. The fingers that are down are those on the surface,
after every event; the identifier -1, which SDL takes for itself, names no device. The one id that
overflows, `Integer.MIN_VALUE`, is left aside: SDL would mix it up with `Integer.MAX_VALUE`.
-/

namespace AndroidMkxp.Touch.SDLSurface

open Foundation

/-- A Java `int`. -/
abbrev DeviceId := BitVec 32

def SOURCE_TOUCHSCREEN : ℕ := 0x1002
def SOURCE_MOUSE : ℕ := 0x2002

structure TouchEvent where
  deviceId : DeviceId
  source : ℕ
  action : MotionAction
  actionIndex : ℕ
  /-- The ids of the pointers, by their index. -/
  pointers : List ℤ
  buttonState : ℤ
  deriving DecidableEq

/-- A call into SDL. -/
inductive Call where
  | onNativeTouch (touchDevId : DeviceId) (pointerFingerId : ℤ) (action : MotionAction)
  | onNativeMouse (button : ℤ) (action : MotionAction)
  deriving DecidableEq

/-- Prevent id to be -1, since it's used in SDL internal for synthetic events -/
def touchDevId (deviceId : DeviceId) : DeviceId :=
  if deviceId.slt 0 then deviceId - 1 else deviceId

namespace TouchEvent

def isMouse (event : TouchEvent) : Bool :=
  event.source = SOURCE_MOUSE ∨ event.source = SOURCE_MOUSE ||| SOURCE_TOUCHSCREEN

def finger (event : TouchEvent) (action : MotionAction) (pointerFingerId : ℤ) : Call :=
  .onNativeTouch (touchDevId event.deviceId) pointerFingerId action

end TouchEvent

/-- The calls of an event, or `none` if it has no pointer at the index. -/
def onTouch (event : TouchEvent) : Option (List Call) :=
  if event.isMouse then some [.onNativeMouse event.buttonState event.action]
  else
    match event.action with
    | .ACTION_MOVE => some (event.pointers.map (event.finger event.action))
    -- Primary pointer up/down, the index is always zero
    | .ACTION_UP | .ACTION_DOWN => event.pointers[0]?.map fun id => [event.finger event.action id]
    | .ACTION_POINTER_UP | .ACTION_POINTER_DOWN =>
      event.pointers[event.actionIndex]?.map fun id => [event.finger event.action id]
    | .ACTION_CANCEL  => some (event.pointers.map (event.finger .ACTION_UP))
    | .ACTION_OUTSIDE => some []

/-! ### Gestures -/

/-- The pointers on the surface, for each device. -/
abbrev Screen := DeviceId → List ℤ

/-- The pointers on the device after an event. -/
def pointersAfter (event : TouchEvent) (pointers : List ℤ) : List ℤ :=
  match event.action with
  | .ACTION_DOWN | .ACTION_POINTER_DOWN => event.pointers
  | .ACTION_POINTER_UP                  => event.pointers.eraseIdx event.actionIndex
  | .ACTION_UP | .ACTION_CANCEL         => []
  | .ACTION_MOVE | .ACTION_OUTSIDE      => pointers

def machine : Machine Screen TouchEvent Call where
  step screen event := (onTouch event).map fun calls =>
    (if event.isMouse then screen
    else Function.update screen event.deviceId (pointersAfter event (screen event.deviceId)), calls)

/-- The event may follow on a device with the pointers `on` on its surface. -/
def TouchEvent.Follows (on : List ℤ) (event : TouchEvent) : Prop :=
  match event.action with
  | .ACTION_DOWN         => on = [] ∧ event.pointers.length = 1
  | .ACTION_POINTER_DOWN => event.actionIndex < event.pointers.length ∧
    (event.pointers.eraseIdx event.actionIndex).Perm on
  | .ACTION_UP           => event.pointers.Perm on ∧ event.pointers.length = 1
  | .ACTION_POINTER_UP   => event.pointers.Perm on ∧ event.actionIndex < event.pointers.length
  | .ACTION_MOVE         => event.pointers.Perm on
  | .ACTION_CANCEL       => event.pointers.Perm on
  | .ACTION_OUTSIDE      => True

instance (on : List ℤ) (event : TouchEvent) : Decidable (event.Follows on) :=
  match event with
  | ⟨_, _, .ACTION_DOWN, _, _, _⟩         => inferInstanceAs (Decidable (_ ∧ _))
  | ⟨_, _, .ACTION_POINTER_DOWN, _, _, _⟩ => inferInstanceAs (Decidable (_ ∧ _))
  | ⟨_, _, .ACTION_UP, _, _, _⟩           => inferInstanceAs (Decidable (_ ∧ _))
  | ⟨_, _, .ACTION_POINTER_UP, _, _, _⟩   => inferInstanceAs (Decidable (_ ∧ _))
  | ⟨_, _, .ACTION_MOVE, _, _, _⟩         => inferInstanceAs (Decidable (List.Perm _ _))
  | ⟨_, _, .ACTION_CANCEL, _, _, _⟩       => inferInstanceAs (Decidable (List.Perm _ _))
  | ⟨_, _, .ACTION_OUTSIDE, _, _, _⟩      => inferInstanceAs (Decidable True)

/-- The touch events of one device are in the order of its gestures, and its id does not
overflow. -/
def Gesture (screen : Screen) (event : TouchEvent) : Prop :=
  event.isMouse = false → event.deviceId ≠ .intMin 32 ∧ event.pointers.Nodup ∧
    event.Follows (screen event.deviceId)

instance (screen : Screen) (event : TouchEvent) : Decidable (Gesture screen event) :=
  inferInstanceAs (Decidable (_ → _))

/-! ### Fingers in SDL -/

/-- What a call does to a finger. -/
def Call.signal : Call → Option (Signal (DeviceId × ℤ))
  | .onNativeTouch dev id .ACTION_DOWN         => some (.on (dev, id))
  | .onNativeTouch dev id .ACTION_POINTER_DOWN => some (.on (dev, id))
  | .onNativeTouch dev id .ACTION_UP           => some (.off (dev, id))
  | .onNativeTouch dev id .ACTION_POINTER_UP   => some (.off (dev, id))
  | _                                          => none

def signals (calls : List Call) : List (Signal (DeviceId × ℤ)) := calls.filterMap Call.signal

/-- The fingers on the surface, as SDL names them. -/
def fingers (screen : Screen) : Set (DeviceId × ℤ) :=
  {finger | ∃ deviceId, finger.1 = touchDevId deviceId ∧ finger.2 ∈ screen deviceId}

/-- The id that overflows has no fingers on the surface. -/
def Regular (screen : Screen) : Prop := screen (.intMin 32) = []

variable {screen screen' screen'' : Screen} {event : TouchEvent} {tr calls calls' : List Call}
  {dev dev' : DeviceId} {id : ℤ} {pointers : List ℤ}

lemma toInt_ne (h : dev ≠ .intMin 32) : dev.toInt ≠ -2147483648 := by
  intro heq
  refine h (BitVec.eq_of_toInt_eq (heq.trans ?_))
  decide

lemma toInt_touchDevId (h : dev ≠ .intMin 32) :
    (touchDevId dev).toInt = if dev.toInt < 0 then dev.toInt - 1 else dev.toInt := by
  have hmin := toInt_ne h
  have hlt := dev.toInt_lt
  have hle := dev.le_toInt
  have hzero : (0 : DeviceId).toInt = 0 := rfl
  have hone : (1 : DeviceId).toInt = 1 := rfl
  simp only [touchDevId, BitVec.slt_iff_toInt_lt, hzero]
  split_ifs with hneg
  · rw [BitVec.toInt_sub, hone]
    exact Int.bmod_eq_of_le (by omega) (by omega)
  · rfl

lemma touchDevId_inj (h : dev ≠ .intMin 32) (h' : dev' ≠ .intMin 32) :
    touchDevId dev = touchDevId dev' ↔ dev = dev' := by
  refine ⟨fun heq => BitVec.eq_of_toInt_eq ?_, congrArg touchDevId⟩
  have hint := congrArg BitVec.toInt heq
  rw [toInt_touchDevId h, toInt_touchDevId h'] at hint
  split_ifs at hint <;> omega

lemma touchDevId_ne (h : dev ≠ .intMin 32) : touchDevId dev ≠ -1 := by
  intro heq
  have hint := congrArg BitVec.toInt heq
  rw [toInt_touchDevId h, show (-1 : DeviceId).toInt = -1 from rfl] at hint
  split_ifs at hint <;> omega

/-- Only a device whose id does not overflow has fingers on the surface. -/
lemma Regular.ne (hs : Regular screen) (hid : id ∈ screen dev) : dev ≠ .intMin 32 := by
  rintro rfl
  rw [hs] at hid
  cases hid

lemma Regular.update (hs : Regular screen) (hdev : dev ≠ .intMin 32) :
    Regular (Function.update screen dev pointers) :=
  (Function.update_of_ne hdev.symm ..).trans hs

lemma mem_fingers (hs : Regular screen) (hdev : dev ≠ .intMin 32) :
    (touchDevId dev, id) ∈ fingers screen ↔ id ∈ screen dev := by
  constructor
  · rintro ⟨dev', heq, hid⟩
    obtain rfl := (touchDevId_inj hdev (hs.ne hid)).mp heq
    exact hid
  · exact fun hid => ⟨dev, rfl, hid⟩

/-- Only the fingers of the device change. -/
lemma mem_fingers_update (hs : Regular screen) (hdev : dev ≠ .intMin 32)
    {finger : DeviceId × ℤ} :
    finger ∈ fingers (Function.update screen dev pointers) ↔
      (finger.1 = touchDevId dev ∧ finger.2 ∈ pointers) ∨
        (finger.1 ≠ touchDevId dev ∧ finger ∈ fingers screen) := by
  obtain ⟨t, id⟩ := finger
  by_cases heq : t = touchDevId dev
  · subst heq
    rw [mem_fingers (hs.update hdev) hdev, Function.update_self]
    simp
  · have hother : (t, id) ∈ fingers (Function.update screen dev pointers) ↔
        (t, id) ∈ fingers screen := by
      refine exists_congr fun dev' => and_congr_right fun heq' => ?_
      have hne : dev' ≠ dev := by
        rintro rfl
        exact heq heq'
      rw [Function.update_of_ne hne]
    simp [hother, heq]

/-! ### What SDL is told -/

/-- The call makes sense to SDL when the fingers of `down` are down. -/
def Call.Fits (down : Set (DeviceId × ℤ)) : Call → Prop
  | .onNativeMouse _ _           => True
  | .onNativeTouch dev id action => dev ≠ -1 ∧
    match action with
    | .ACTION_DOWN | .ACTION_POINTER_DOWN            => (dev, id) ∉ down
    | .ACTION_UP | .ACTION_POINTER_UP | .ACTION_MOVE => (dev, id) ∈ down
    | .ACTION_CANCEL | .ACTION_OUTSIDE               => False

/-- The calls make sense, one after the other, and take the fingers that are down from those of
`screen` to those of `screen'`. -/
def Tells (screen : Screen) (calls : List Call) (screen' : Screen) : Prop :=
  ∀ past, after ∅ (signals past) = fingers screen →
    Justified (fun past call => call.Fits (after ∅ (signals past))) past calls ∧
      after ∅ (signals (past ++ calls)) = fingers screen'

lemma signals_append : signals (calls ++ calls') = signals calls ++ signals calls' :=
  List.filterMap_append

namespace Tells

lemma nil : Tells screen [] screen := by
  intro past hpast
  exact ⟨trivial, by rw [List.append_nil, hpast]⟩

lemma single {call : Call} (hfits : call.Fits (fingers screen))
    (hafter : after (fingers screen) (signals [call]) = fingers screen') :
    Tells screen [call] screen' := by
  intro past hpast
  rw [signals_append, after_append, hpast]
  refine ⟨⟨?_, trivial⟩, hafter⟩
  show call.Fits (after ∅ (signals past))
  rw [hpast]
  exact hfits

lemma append (h₁ : Tells screen calls screen') (h₂ : Tells screen' calls' screen'') :
    Tells screen (calls ++ calls') screen'' := by
  intro past hpast
  obtain ⟨hfirst, hbetween⟩ := h₁ past hpast
  obtain ⟨hsecond, hend⟩ := h₂ _ hbetween
  exact ⟨justified_append.mpr ⟨hfirst, hsecond⟩, by rw [← List.append_assoc, hend]⟩

/-- A finger comes down. -/
lemma press (hs : Regular screen) (hdev : event.deviceId ≠ .intMin 32) {action : MotionAction}
    (haction : action = .ACTION_DOWN ∨ action = .ACTION_POINTER_DOWN)
    (hnew : id ∉ screen event.deviceId)
    (hpointers : ∀ i, i ∈ pointers ↔ i = id ∨ i ∈ screen event.deviceId) :
    Tells screen [event.finger action id]
      (Function.update screen event.deviceId pointers) := by
  have hafter : fingers (Function.update screen event.deviceId pointers) =
      insert (touchDevId event.deviceId, id) (fingers screen) := by
    ext ⟨t, i⟩
    rw [mem_fingers_update hs hdev, hpointers, Set.mem_insert_iff, Prod.mk.injEq]
    by_cases heq : t = touchDevId event.deviceId
    · subst heq
      simp [mem_fingers hs hdev]
    · simp [heq]
  have hfresh := mt (mem_fingers hs hdev).mp hnew
  rcases haction with rfl | rfl <;> exact single ⟨touchDevId_ne hdev, hfresh⟩ hafter.symm

/-- A finger goes up. -/
lemma lift (hs : Regular screen) (hdev : event.deviceId ≠ .intMin 32) {action : MotionAction}
    (haction : action = .ACTION_UP ∨ action = .ACTION_POINTER_UP)
    (hold : id ∈ screen event.deviceId)
    (hpointers : ∀ i, i ∈ pointers ↔ i ≠ id ∧ i ∈ screen event.deviceId) :
    Tells screen [event.finger action id]
      (Function.update screen event.deviceId pointers) := by
  have hafter : fingers (Function.update screen event.deviceId pointers) =
      fingers screen \ {(touchDevId event.deviceId, id)} := by
    ext ⟨t, i⟩
    rw [mem_fingers_update hs hdev, hpointers, Set.mem_sdiff, Set.mem_singleton_iff,
      Prod.mk.injEq]
    by_cases heq : t = touchDevId event.deviceId
    · subst heq
      simp [mem_fingers hs hdev, and_comm]
    · simp [heq]
  have hdown := (mem_fingers hs hdev).mpr hold
  rcases haction with rfl | rfl <;> exact single ⟨touchDevId_ne hdev, hdown⟩ hafter.symm

/-- Fingers of a device move. -/
lemma move (hs : Regular screen) (hdev : event.deviceId ≠ .intMin 32) {ids : List ℤ}
    (hids : ∀ i ∈ ids, i ∈ screen event.deviceId) :
    Tells screen (ids.map (event.finger .ACTION_MOVE)) screen := by
  induction ids with
  | nil => exact .nil
  | cons id ids ih =>
    rw [List.forall_mem_cons] at hids
    have hmove : Tells screen [event.finger .ACTION_MOVE id] screen :=
      single ⟨touchDevId_ne hdev, (mem_fingers hs hdev).mpr hids.1⟩ rfl
    exact hmove.append (ih hids.2)

/-- All fingers of a device go up, one after the other. -/
lemma cancel (hs : Regular screen) (hdev : event.deviceId ≠ .intMin 32) {ids : List ℤ}
    (hnodup : ids.Nodup)
    (hids : ∀ i, i ∈ ids ↔ i ∈ screen event.deviceId) :
    Tells screen (ids.map (event.finger .ACTION_UP))
      (Function.update screen event.deviceId []) := by
  induction ids generalizing screen with
  | nil =>
    have hnone : screen event.deviceId = [] := List.eq_nil_iff_forall_not_mem.mpr fun i hi =>
      List.not_mem_nil ((hids i).mpr hi)
    have hsame : Function.update screen event.deviceId [] = screen := by
      rw [Function.update_eq_self_iff, hnone]
    rw [hsame]
    exact .nil
  | cons id ids ih =>
    obtain ⟨hid, hnodup⟩ := List.nodup_cons.mp hnodup
    have hup : Tells screen [event.finger .ACTION_UP id]
        (Function.update screen event.deviceId ids) := by
      refine lift hs hdev (.inl rfl) ((hids id).mp (by simp)) fun i => ?_
      rw [← hids, List.mem_cons]
      constructor
      · intro hi
        refine ⟨?_, Or.inr hi⟩
        rintro rfl
        exact hid hi
      · rintro ⟨hne, hi⟩
        exact hi.resolve_left hne
    have hrest : Tells (Function.update screen event.deviceId ids)
        (ids.map (event.finger .ACTION_UP))
        (Function.update (Function.update screen event.deviceId ids) event.deviceId []) :=
      ih (hs.update hdev) hnodup (by simp)
    rw [Function.update_idem] at hrest
    exact hup.append hrest

end Tells

lemma mem_eraseIdx_iff {ids : List ℤ} {i : ℕ} (hnodup : ids.Nodup) (hi : i < ids.length) (id : ℤ) :
    id ∈ ids.eraseIdx i ↔ id ≠ ids[i] ∧ id ∈ ids := by
  have hperm := List.getElem_cons_eraseIdx_perm hi
  have hnotMem := (List.nodup_cons.mp (hperm.nodup_iff.mpr hnodup)).1
  rw [← hperm.mem_iff, List.mem_cons]
  constructor
  · intro hid
    refine ⟨?_, Or.inr hid⟩
    rintro rfl
    exact hnotMem hid
  · rintro ⟨hne, hid⟩
    exact hid.resolve_left hne

/-! ### One event -/

/-- An event of a gesture has its pointer, and takes the fingers that are down to those that are on
the surface after it. -/
theorem onTouch_tells (hs : Regular screen) (hmouse : event.isMouse = false)
    (hgesture : Gesture screen event) :
    ∃ calls, onTouch event = some calls ∧
      Tells screen calls (Function.update screen event.deviceId
        (pointersAfter event (screen event.deviceId))) := by
  obtain ⟨hdev, hnodup, hgesture⟩ := hgesture hmouse
  have hsame : Function.update screen event.deviceId (screen event.deviceId) = screen :=
    Function.update_eq_self _ _
  simp only [onTouch, hmouse, Bool.false_eq_true, if_false, pointersAfter]
  cases haction : event.action with
  | ACTION_DOWN =>
    simp only [TouchEvent.Follows, haction] at hgesture
    obtain ⟨id, hid⟩ := List.length_eq_one_iff.mp hgesture.2
    refine ⟨[event.finger .ACTION_DOWN id], by simp [hid], ?_⟩
    exact .press hs hdev (.inl rfl) (by simp [hgesture.1]) (by simp [hid, hgesture.1])
  | ACTION_UP =>
    simp only [TouchEvent.Follows, haction] at hgesture
    obtain ⟨hperm, hone⟩ := hgesture
    obtain ⟨id, hid⟩ := List.length_eq_one_iff.mp hone
    have hmem : ∀ i, i ∈ screen event.deviceId ↔ i = id := by
      intro i
      rw [← hperm.mem_iff, hid, List.mem_singleton]
    refine ⟨[event.finger .ACTION_UP id], by simp [hid], ?_⟩
    exact .lift hs hdev (.inl rfl) ((hmem id).mpr rfl) (by simp [hmem])
  | ACTION_POINTER_DOWN =>
    simp only [TouchEvent.Follows, haction] at hgesture
    obtain ⟨hindex, hperm⟩ := hgesture
    have hmem := mem_eraseIdx_iff hnodup hindex
    simp only [hperm.mem_iff] at hmem
    refine ⟨[event.finger .ACTION_POINTER_DOWN event.pointers[event.actionIndex]],
      by simp [hindex], ?_⟩
    refine .press hs hdev (.inr rfl) (by simp [hmem]) fun i => ?_
    show i ∈ event.pointers ↔ _
    rw [hmem]
    constructor
    · intro hi
      by_cases heq : i = event.pointers[event.actionIndex]
      · exact Or.inl heq
      · exact Or.inr ⟨heq, hi⟩
    · rintro (rfl | hi)
      · exact List.getElem_mem hindex
      · exact hi.2
  | ACTION_POINTER_UP =>
    simp only [TouchEvent.Follows, haction] at hgesture
    obtain ⟨hperm, hindex⟩ := hgesture
    refine ⟨[event.finger .ACTION_POINTER_UP event.pointers[event.actionIndex]],
      by simp [hindex], ?_⟩
    refine .lift hs hdev (.inr rfl) (hperm.mem_iff.mp (List.getElem_mem hindex)) fun i => ?_
    rw [mem_eraseIdx_iff hnodup hindex, hperm.mem_iff]
  | ACTION_MOVE =>
    simp only [TouchEvent.Follows, haction] at hgesture
    refine ⟨_, rfl, ?_⟩
    rw [hsame]
    exact .move hs hdev fun i => hgesture.mem_iff.mp
  | ACTION_CANCEL =>
    simp only [TouchEvent.Follows, haction] at hgesture
    exact ⟨_, rfl, .cancel hs hdev hnodup fun i => hgesture.mem_iff⟩
  | ACTION_OUTSIDE =>
    refine ⟨_, rfl, ?_⟩
    rw [hsame]
    exact .nil

/-- Every event of a gesture is handled, one of a mouse without a word about fingers. -/
theorem step_tells (hs : Regular screen) (hgesture : Gesture screen event) :
    ∃ screen' calls, machine.step screen event = some (screen', calls) ∧
      Regular screen' ∧ Tells screen calls screen' := by
  simp only [machine]
  cases hmouse : event.isMouse with
  | true =>
    refine ⟨screen, [.onNativeMouse event.buttonState event.action], ?_, hs, ?_⟩
    · simp [onTouch, hmouse]
    · exact .single trivial rfl
  | false =>
    obtain ⟨calls, hcalls, htells⟩ := onTouch_tells hs hmouse hgesture
    exact ⟨_, calls, by simp [hcalls], hs.update (hgesture hmouse).1, htells⟩

/-! ### Whole runs -/

/-- Whatever gestures are made on any number of devices, all their events are handled. A finger that
SDL is told to come down is not down; one that moves or goes up is. After every event the fingers
that are down are those on the surface. -/
theorem fingers_follow_pointers (h : machine.Run Gesture (fun _ => []) tr screen) :
    (∀ earlier call later, tr = earlier ++ call :: later →
      call.Fits (after ∅ (signals earlier))) ∧
    after ∅ (signals tr) = fingers screen ∧
    ∀ event, Gesture screen event → (onTouch event).isSome := by
  have hempty : Regular fun _ => [] := rfl
  have hboth : Regular screen ∧ Tells (fun _ => []) tr screen := by
    refine h.invariant (fun tr screen => Regular screen ∧ Tells (fun _ => []) tr screen)
      ⟨hempty, .nil⟩ ?_
    rintro tr screen event screen' calls - ⟨hs, htells⟩ hgesture hstep
    obtain ⟨_, _, hstep', hs', hcalls⟩ := step_tells hs hgesture
    rw [hstep, Option.some.injEq, Prod.mk.injEq] at hstep'
    obtain ⟨rfl, rfl⟩ := hstep'
    exact ⟨hs', htells.append hcalls⟩
  obtain ⟨hs, htells⟩ := hboth
  have hnone : fingers (fun _ => []) = ∅ := by
    ext finger
    simp [fingers]
  obtain ⟨hjust, hafter⟩ := htells [] hnone.symm
  refine ⟨?_, hafter, ?_⟩
  · intro earlier call later hsplit
    exact hjust.of_split hsplit
  · intro event hgesture
    obtain ⟨_, _, hstep, -⟩ := step_tells hs hgesture
    obtain ⟨calls, hcalls, _⟩ := Option.map_eq_some_iff.mp hstep
    rw [hcalls]
    rfl

/-- Two fingers on a device, and one of an emulator, whose device has the id -1. Then the first two
are cancelled. -/
theorem fingers_follow_pointers_cancel : ∃ tr screen,
    tr = [.onNativeTouch 3 0 .ACTION_DOWN, .onNativeTouch 3 1 .ACTION_POINTER_DOWN,
      .onNativeTouch (-2) 0 .ACTION_DOWN, .onNativeTouch 3 0 .ACTION_UP,
      .onNativeTouch 3 1 .ACTION_UP] ∧ after ∅ (signals tr) = fingers screen := by
  obtain ⟨tr, screen, hrun, htr⟩ := Machine.Run.exists_of_exec machine Gesture (fun _ => [])
    [⟨3, SOURCE_TOUCHSCREEN, .ACTION_DOWN, 0, [0], 0⟩,
      ⟨3, SOURCE_TOUCHSCREEN, .ACTION_POINTER_DOWN, 1, [0, 1], 0⟩,
      ⟨-1, SOURCE_TOUCHSCREEN, .ACTION_DOWN, 0, [0], 0⟩,
      ⟨3, SOURCE_TOUCHSCREEN, .ACTION_CANCEL, 0, [0, 1], 0⟩]
    (fun _ tr => tr = [.onNativeTouch 3 0 .ACTION_DOWN, .onNativeTouch 3 1 .ACTION_POINTER_DOWN,
      .onNativeTouch (-2) 0 .ACTION_DOWN, .onNativeTouch 3 0 .ACTION_UP,
      .onNativeTouch 3 1 .ACTION_UP]) ⟨_, rfl, rfl⟩
  exact ⟨tr, screen, htr, (fingers_follow_pointers hrun).2.1⟩

end AndroidMkxp.Touch.SDLSurface
