import AndroidMkxp.Foundation.Machine
import AndroidMkxp.Foundation.Roster
import AndroidMkxp.Saves.Directory
import Mathlib.Data.List.Sort

/-!
# Joysticks

`SDLJoystickHandler_API19` keeps the list of joysticks for the native side. The native side calls
`pollInputDevices`, which tells it what has been added and removed since the last time; motion
events come from Android in between. Axes and hats are known to the native side by their position
only, so the order in which `RangeComparator` sorts them matters.

A device can go away at any time, also between two calls of `getDevice` of one pass.

Here a poll is one step. `AndroidMkxp.Input.Polls` takes it apart.
-/

namespace AndroidMkxp.Input

open Foundation

def SOURCE_CLASS_JOYSTICK : BitVec 32 := 0x10
def SOURCE_DPAD : BitVec 32 := 0x201
def SOURCE_GAMEPAD : BitVec 32 := 0x401

def AXIS_Z : ℤ := 11
def AXIS_RZ : ℤ := 14
def AXIS_HAT_X : ℤ := 15
def AXIS_HAT_Y : ℤ := 16
def AXIS_GAS : ℤ := 22
def AXIS_BRAKE : ℤ := 23

/-- The part of an `InputDevice.MotionRange` that decides where it goes. -/
structure MotionRange where
  axis : ℤ
  source : BitVec 32
  deriving DecidableEq, Repr

structure InputDevice where
  name : JString
  descriptor : Option JString
  vendorId : ℤ
  productId : ℤ
  sources : BitVec 32
  motionRanges : List MotionRange
  /-- The key codes for which `hasKeys` answers yes. -/
  keys : List ℕ
  deriving DecidableEq

/-- Check if a given device is considered a possible SDL joystick. -/
def isDeviceSDLJoystick (device : Option InputDevice) (deviceId : ℤ) : Bool :=
  match device with
  | none        => false
  | some device =>
    if deviceId < 0 then false
    else device.sources &&& SOURCE_CLASS_JOYSTICK ≠ 0 ∨
      device.sources &&& SOURCE_DPAD = SOURCE_DPAD ∨
      device.sources &&& SOURCE_GAMEPAD = SOURCE_GAMEPAD

/-! ### Axes and hats -/

/-- Both axes of `RangeComparator.compare` are renumbered in the same way. -/
def renumber (axis : ℤ) : ℤ :=
  let axis :=
    if axis = AXIS_GAS then AXIS_BRAKE
    else if axis = AXIS_BRAKE then AXIS_GAS
    else axis
  if axis = AXIS_Z then AXIS_RZ - 1
  else if axis > AXIS_Z ∧ axis < AXIS_RZ then axis - 1
  else axis

/-- `RangeComparator.compare` -/
def compare (arg0 arg1 : MotionRange) : ℤ := renumber arg0.axis - renumber arg1.axis

/-- `Collections.sort(ranges, new RangeComparator())` -/
def sortRanges (ranges : List MotionRange) : List MotionRange :=
  ranges.insertionSort fun arg0 arg1 => compare arg0 arg1 ≤ 0

def MotionRange.fromJoystick (range : MotionRange) : Bool :=
  range.source &&& SOURCE_CLASS_JOYSTICK ≠ 0

def MotionRange.isHat (range : MotionRange) : Bool :=
  range.axis = AXIS_HAT_X ∨ range.axis = AXIS_HAT_Y

structure SDLJoystick where
  device_id : ℤ
  name : JString
  desc : JString
  axes : List MotionRange
  hats : List MotionRange
  /-- The device it was made for. Only `nativeAddJoystick` is told of it. -/
  device : InputDevice
  deriving DecidableEq

/-- The loop over the sorted ranges. -/
def SDLJoystick.addRanges (joystick : SDLJoystick) : List MotionRange → SDLJoystick
  | []              => joystick
  | range :: ranges =>
    if range.fromJoystick then
      if range.isHat then
        { joystick with hats := joystick.hats ++ [range] }.addRanges ranges
      else { joystick with axes := joystick.axes ++ [range] }.addRanges ranges
    else joystick.addRanges ranges

def getJoystickDescriptor (joystickDevice : InputDevice) : JString :=
  match joystickDevice.descriptor with
  | none      => joystickDevice.name
  | some desc => if desc ≠ [] then desc else joystickDevice.name

/-- The joystick for a device that has none. -/
def newJoystick (device_id : ℤ) (joystickDevice : InputDevice) : SDLJoystick :=
  SDLJoystick.addRanges ⟨device_id, joystickDevice.name, getJoystickDescriptor joystickDevice, [],
    [], joystickDevice⟩
    (sortRanges joystickDevice.motionRanges)

def bit (i : ℕ) : BitVec 32 := 1 <<< i

/-- The key codes of `getButtonMask`, each with its bits of the mask. -/
def buttonMasks : List (ℕ × BitVec 32) :=
  [(96, bit 0), (97, bit 1), (99, bit 2), (100, bit 3), (4, bit 4), (82, bit 6),
    (110, bit 5), (108, bit 6), (106, bit 7), (107, bit 8), (102, bit 9),
    (103, bit 10), (19, bit 11), (20, bit 12), (21, bit 13), (22, bit 14),
    (109, bit 4), (23, bit 0), (104, bit 15), (105, bit 16), (98, bit 17),
    (101, bit 18), (188, bit 20), (189, bit 21), (190, bit 22), (191, bit 23),
    (192, bit 24), (193, bit 25), (194, bit 26), (195, bit 27), (196, bit 28),
    (197, bit 29), (198, bit 30), (199, bit 31), (200, 0xFFFFFFFF), (201, 0xFFFFFFFF),
    (202, 0xFFFFFFFF), (203, 0xFFFFFFFF)]

def getButtonMask (joystickDevice : InputDevice) : BitVec 32 :=
  buttonMasks.foldl (fun button_mask k =>
    if k.1 ∈ joystickDevice.keys then button_mask ||| k.2 else button_mask) 0

/-- The arguments of `nativeAddJoystick`. -/
structure AddJoystick where
  device_id : ℤ
  name : JString
  desc : JString
  vendor_id : ℤ
  product_id : ℤ
  is_accelerometer : Bool
  button_mask : BitVec 32
  naxes : ℕ
  nhats : ℕ
  nballs : ℕ
  deriving DecidableEq

def SDLJoystick.arguments (joystick : SDLJoystick) : AddJoystick where
  device_id := joystick.device_id
  name := joystick.name
  desc := joystick.desc
  vendor_id := joystick.device.vendorId
  product_id := joystick.device.productId
  is_accelerometer := false
  button_mask := getButtonMask joystick.device
  naxes := joystick.axes.length
  nhats := joystick.hats.length / 2
  nballs := 0

/-! ### Polls and motion events -/

inductive Event where
  | nativeAddJoystick (args : AddJoystick)
  | nativeRemoveJoystick (device_id : ℤ)
  /-- The position of the axis, and the axis whose value is sent. -/
  | onNativeJoy (device_id : ℤ) (axis : ℕ) (value : ℤ)
  | onNativeHat (device_id : ℤ) (hat_id : ℕ) (x y : ℤ)
  | nullPointerException
  deriving DecidableEq

/-- What is made for a device without a joystick, where `first` and `second` are the answers of
`getDevice` in `isDeviceSDLJoystick` and in the poll. -/
def makeJoystick (first second : ℤ → Option InputDevice) (device_id : ℤ) :
    Except JException (Option SDLJoystick) :=
  if isDeviceSDLJoystick (first device_id) device_id then
    match second device_id with
    | none                => .error .nullPointerException
    | some joystickDevice => .ok (some (newJoystick device_id joystickDevice))
  else .ok none

def told : Change ℤ SDLJoystick → Event
  | .add joystick     => .nativeAddJoystick joystick.arguments
  | .remove device_id => .nativeRemoveJoystick device_id

def pollInputDevices (deviceIds : List ℤ) (first second : ℤ → Option InputDevice)
    (mJoysticks : List SDLJoystick) : List SDLJoystick × List Event :=
  let added := Roster.enrol SDLJoystick.device_id (makeJoystick first second) deviceIds mJoysticks
  match added.2.2 with
  | .error _ => (added.1, added.2.1.map told ++ [.nullPointerException])
  | .ok ()   =>
    let removedDevices := (added.1.map SDLJoystick.device_id).filter fun i => !(i ∈ deviceIds)
    let left := Roster.dismiss SDLJoystick.device_id removedDevices added.1
    (left.1, added.2.1.map told ++ left.2.map told)

def getJoystick (mJoysticks : List SDLJoystick) (device_id : ℤ) : Option SDLJoystick :=
  mJoysticks.find? fun joystick => joystick.device_id = device_id

/-- The axes of each hat. -/
def hatPairs : List MotionRange → List (ℤ × ℤ)
  | x :: y :: hats => (x.axis, y.axis) :: hatPairs hats
  | _              => []

def handleMotionEvent (mJoysticks : List SDLJoystick) (deviceId : ℤ) (isMove : Bool) :
    List Event :=
  if isMove then
    match getJoystick mJoysticks deviceId with
    | none          => []
    | some joystick =>
      (joystick.axes.mapIdx fun i range => .onNativeJoy joystick.device_id i range.axis) ++
        (hatPairs joystick.hats).mapIdx fun i hat => .onNativeHat joystick.device_id i hat.1 hat.2
  else []

inductive Action where
  | pollInputDevices (deviceIds : List ℤ) (first second : ℤ → Option InputDevice)
  | motion (deviceId : ℤ) (isMove : Bool)

def step (mJoysticks : List SDLJoystick) : Action → Option (List SDLJoystick × List Event)
  | .pollInputDevices deviceIds first second =>
    some (pollInputDevices deviceIds first second mJoysticks)
  | .motion deviceId isMove =>
    some (mJoysticks, handleMotionEvent mJoysticks deviceId isMove)

def joystickHandler : Machine (List SDLJoystick) Action Event := ⟨step⟩

/-! ### What the native side knows -/

variable {joystick : SDLJoystick} {ranges ranges' : List MotionRange} {id : ℤ}
  {first second : ℤ → Option InputDevice} {deviceIds : List ℤ} {js js' : List SDLJoystick}
  {cs : List (Change ℤ SDLJoystick)} {es tr : List Event} {a : Action}
  {ok : List SDLJoystick → Action → Prop}

lemma addRanges_eq : joystick.addRanges ranges =
    { joystick with
      axes := joystick.axes ++ ranges.filter fun range => range.fromJoystick && !range.isHat
      hats := joystick.hats ++ ranges.filter fun range => range.fromJoystick && range.isHat } := by
  induction ranges generalizing joystick with
  | nil => simp [SDLJoystick.addRanges]
  | cons range ranges ih =>
    rw [SDLJoystick.addRanges]
    cases hsource : range.fromJoystick <;> cases hhat : range.isHat <;>
      simp [ih, hsource, hhat]

lemma newJoystick_device_id (device_id : ℤ) (d : InputDevice) :
    (newJoystick device_id d).device_id = device_id := by
  rw [newJoystick, addRanges_eq]

lemma makeJoystick_device_id (h : makeJoystick first second id = .ok (some joystick)) :
    joystick.device_id = id := by
  unfold makeJoystick at h
  split_ifs at h
  · split at h
    · cases h
    · cases h
      exact newJoystick_device_id id _
  · cases h

def Event.change : Event → Option (Change ℤ AddJoystick)
  | .nativeAddJoystick args        => some (.add args)
  | .nativeRemoveJoystick deviceId => some (.remove deviceId)
  | _                              => none

/-- The changes that the native side is told. -/
def changes (tr : List Event) : List (Change ℤ AddJoystick) := tr.filterMap Event.change

lemma changes_map_told : changes (cs.map told) = cs.map (Change.map SDLJoystick.arguments) := by
  rw [changes, List.filterMap_map, ← List.filterMap_eq_map]
  apply List.filterMap_congr
  intro c _
  cases c <;> rfl

lemma changes_append : changes (tr ++ es) = changes tr ++ changes es := List.filterMap_append

/-- The list that the native side has made of the calls so far is that of the handler. -/
structure InStep (tr : List Event) (js : List SDLJoystick) : Prop where
  native : Roster.replay AddJoystick.device_id [] (changes tr) =
    some (js.map SDLJoystick.arguments)
  distinct : (js.map SDLJoystick.device_id).Nodup

lemma InStep.append (h : InStep tr js)
    (hreplay : Roster.replay SDLJoystick.device_id js cs = some js')
    (hes : changes es = cs.map (Change.map SDLJoystick.arguments)) : InStep (tr ++ es) js' where
  native := by
    rw [changes_append, Roster.replay_append h.native, hes]
    exact Roster.replay_map (fun _ => rfl) hreplay
  distinct := Roster.nodup_of_replay h.distinct hreplay

lemma InStep.append_quiet (h : InStep tr js) (hes : ∀ ev ∈ es, ev.change = none) :
    InStep (tr ++ es) js where
  native := by
    have hnone : changes es = [] := List.filterMap_eq_nil_iff.mpr hes
    rw [changes_append, Roster.replay_append h.native, hnone]
    rfl
  distinct := h.distinct

/-- What a poll does. -/
inductive Polled (deviceIds : List ℤ) (first second : ℤ → Option InputDevice)
    (js : List SDLJoystick) : List SDLJoystick → List Event → Prop where
  /-- A device with no joystick was there for `isDeviceSDLJoystick` and then not any more. -/
  | breaksOff (new : List SDLJoystick) (cs : List (Change ℤ SDLJoystick))
      (hreplay : Roster.replay SDLJoystick.device_id js cs = some (js ++ new))
      (hgone : ∃ i ∈ deviceIds, i ∉ js.map SDLJoystick.device_id ∧
        isDeviceSDLJoystick (first i) i ∧ second i = none) :
      Polled deviceIds first second js (js ++ new) (cs.map told ++ [.nullPointerException])
  | completes (new : List SDLJoystick) (cs : List (Change ℤ SDLJoystick))
      (hreplay : Roster.replay SDLJoystick.device_id js cs =
        some ((js ++ new).filter fun joystick => joystick.device_id ∈ deviceIds))
      (hnew : ∀ joystick ∈ new, ∃ i ∈ deviceIds, ∃ d, isDeviceSDLJoystick (first i) i ∧
        second i = some d ∧ joystick = newJoystick i d)
      (hall : ∀ i ∈ deviceIds, i ∉ js.map SDLJoystick.device_id →
        isDeviceSDLJoystick (first i) i → i ∈ new.map SDLJoystick.device_id) :
      Polled deviceIds first second js
        ((js ++ new).filter fun joystick => joystick.device_id ∈ deviceIds) (cs.map told)

lemma makeJoystick_eq_error_iff {e : JException} : makeJoystick first second id = .error e ↔
    isDeviceSDLJoystick (first id) id ∧ second id = none ∧ e = .nullPointerException := by
  unfold makeJoystick
  cases isDeviceSDLJoystick (first id) id <;> cases second id <;> simp [eq_comm]

lemma makeJoystick_eq_some_iff : makeJoystick first second id = .ok (some joystick) ↔
    isDeviceSDLJoystick (first id) id ∧ ∃ d, second id = some d ∧ joystick = newJoystick id d := by
  unfold makeJoystick
  cases isDeviceSDLJoystick (first id) id <;> cases second id <;> simp [eq_comm]

theorem polled (deviceIds : List ℤ) (first second : ℤ → Option InputDevice)
    (hnd : (js.map SDLJoystick.device_id).Nodup) :
    Polled deviceIds first second js (pollInputDevices deviceIds first second js).1
      (pollInputDevices deviceIds first second js).2 := by
  have hmake : ∀ i joystick, makeJoystick first second i = .ok (some joystick) →
      joystick.device_id = i := fun _ _ => makeJoystick_device_id
  obtain ⟨new, hr, _, hreplay, hnew, hall⟩ := Roster.enrol_spec deviceIds js hmake
  have hok := Roster.enrol_ok_iff deviceIds js hmake
  simp only [pollInputDevices]
  generalize
    Roster.enrol SDLJoystick.device_id (makeJoystick first second) deviceIds js = added at *
  obtain ⟨r, cs, result⟩ := added
  dsimp only at hr hreplay hall hok ⊢
  subst hr
  cases result with
  | error e =>
    refine .breaksOff new cs hreplay ?_
    simp only [reduceCtorEq, false_iff, not_forall, not_not] at hok
    obtain ⟨i, hi, huntracked, e, herror⟩ := hok
    obtain ⟨hjoystick, hgone, _⟩ := makeJoystick_eq_error_iff.mp herror
    exact ⟨i, hi, huntracked, hjoystick, hgone⟩
  | ok u =>
    obtain ⟨hleft, hdismiss⟩ := Roster.dismiss_filter_spec (Roster.nodup_of_replay hnd hreplay)
      fun i => decide (i ∈ deviceIds)
    dsimp only
    rw [hleft, ← List.map_append]
    refine .completes new _ ?_ ?_ ?_
    · rw [Roster.replay_append hreplay]
      exact hdismiss
    · intro joystick hj
      obtain ⟨hi, hmk⟩ := hnew joystick hj
      obtain ⟨hjoystick, d, hd, heq⟩ := makeJoystick_eq_some_iff.mp hmk
      exact ⟨_, hi, d, hjoystick, hd, heq⟩
    · intro i hi huntracked hjoystick
      cases hd : second i with
      | none =>
        have herror := makeJoystick_eq_error_iff.mpr ⟨hjoystick, hd, rfl⟩
        exact absurd herror (hok.mp rfl i hi huntracked _)
      | some d =>
        have hmk := makeJoystick_eq_some_iff.mpr ⟨hjoystick, d, hd, rfl⟩
        have hmem := hall rfl i hi _ hmk
        rw [List.map_append, List.mem_append] at hmem
        exact hmem.resolve_left huntracked

lemma Polled.inStep (h : Polled deviceIds first second js js' es) (hs : InStep tr js) :
    InStep (tr ++ es) js' := by
  cases h with
  | breaksOff new cs hreplay hgone =>
    refine hs.append hreplay ?_
    rw [changes_append, changes_map_told]
    simp [changes, Event.change]
  | completes new cs hreplay hnew hall => exact hs.append hreplay changes_map_told

lemma Polled.of_step (hs : InStep tr js)
    (h : step js (.pollInputDevices deviceIds first second) = some (js', es)) :
    Polled deviceIds first second js js' es := by
  have hpoll := polled deviceIds first second hs.distinct
  rw [Option.some.inj h] at hpoll
  exact hpoll

/-! ### Motion events -/

/-- The event is about an axis or a hat of the joystick. -/
def About (args : AddJoystick) : Event → Prop
  | .onNativeJoy device_id axis _     => args.device_id = device_id ∧ axis < args.naxes
  | .onNativeHat device_id hat_id _ _ => args.device_id = device_id ∧ hat_id < args.nhats
  | _                                 => False

lemma About.quiet {args : AddJoystick} {ev : Event} (h : About args ev) : ev.change = none := by
  cases ev with
  | onNativeJoy device_id axis value => rfl
  | onNativeHat device_id hat_id x y => rfl
  | nativeAddJoystick args => cases h
  | nativeRemoveJoystick device_id => cases h
  | nullPointerException => cases h

lemma length_hatPairs (hats : List MotionRange) : (hatPairs hats).length = hats.length / 2 := by
  induction hats using hatPairs.induct with
  | case1 x y hats ih =>
    simp only [hatPairs, List.length_cons, ih]
    omega
  | case2 hats hnil =>
    match hats with
    | []      => rfl
    | [_]     => simp [hatPairs]
    | x :: y :: hats => exact absurd rfl (hnil x y hats)

lemma motion_about {isMove : Bool} :
    ∀ ev ∈ handleMotionEvent js id isMove, ∃ joystick ∈ js, About joystick.arguments ev := by
  intro ev hev
  unfold handleMotionEvent at hev
  split_ifs at hev
  · split at hev
    · cases hev
    · next joystick hfound =>
      refine ⟨joystick, List.mem_of_find?_eq_some hfound, ?_⟩
      rcases List.mem_append.mp hev with hjoy | hhat
      · obtain ⟨i, hi, rfl⟩ := List.mem_mapIdx.mp hjoy
        exact ⟨rfl, hi⟩
      · obtain ⟨i, hi, rfl⟩ := List.mem_mapIdx.mp hhat
        rw [length_hatPairs] at hi
        exact ⟨rfl, hi⟩
  · cases hev

theorem inStep_of_run (h : joystickHandler.Run ok [] tr js) : InStep tr js := by
  refine h.invariant InStep ⟨rfl, by simp⟩ ?_
  intro tr js a js' es _ hs _ hstep
  cases a with
  | pollInputDevices deviceIds first second => exact (Polled.of_step hs hstep).inStep hs
  | motion deviceId isMove =>
    cases hstep
    refine hs.append_quiet fun ev hev => ?_
    obtain ⟨joystick, _, habout⟩ := motion_about ev hev
    exact habout.quiet

/-- A pad with two sticks, triggers and a hat, as one device reports it. -/
def pad : InputDevice where
  name := "Pad".toList
  descriptor := none
  vendorId := 0x45e
  productId := 0x28e
  sources := 0x01000411
  motionRanges := [⟨0, 0x01000010⟩, ⟨1, 0x01000010⟩, ⟨11, 0x01000010⟩, ⟨12, 0x01000010⟩,
    ⟨13, 0x01000010⟩, ⟨14, 0x01000010⟩, ⟨16, 0x01000010⟩, ⟨15, 0x01000010⟩]
  keys := [96, 97, 99, 100, 108, 109]

/-- A poll that runs to its end leaves exactly the devices that are there and that it found to be a
joystick, now or at an earlier poll; those from before stay as they were, in their order. A poll
breaks off only over a device that went away while it was looked at. -/
theorem poll_tracks_devices (h : joystickHandler.Run ok [] tr js)
    (hstep : step js (.pollInputDevices deviceIds first second) = some (js', es)) :
    if .nullPointerException ∈ es then
      ∃ i ∈ deviceIds, i ∉ js.map SDLJoystick.device_id ∧ isDeviceSDLJoystick (first i) i ∧
        second i = none
    else
      (∀ i, i ∈ js'.map SDLJoystick.device_id ↔ i ∈ deviceIds ∧
        (i ∈ js.map SDLJoystick.device_id ∨ isDeviceSDLJoystick (first i) i)) ∧
      (js.filter fun joystick => joystick.device_id ∈ deviceIds) <+: js' := by
  cases Polled.of_step (inStep_of_run h) hstep with
  | breaksOff new cs hreplay hgone =>
    rw [if_pos (by simp)]
    exact hgone
  | completes new cs hreplay hnew hall =>
    have hnone : .nullPointerException ∉ cs.map told := by
      intro hmem
      obtain ⟨c, _, hc⟩ := List.mem_map.mp hmem
      cases c <;> cases hc
    rw [if_neg hnone, List.filter_append]
    refine ⟨fun i => ?_, List.prefix_append _ _⟩
    constructor
    · intro hi
      obtain ⟨joystick, hj, rfl⟩ := List.mem_map.mp hi
      rcases List.mem_append.mp hj with hold | hnewer
      · obtain ⟨hmem, hid⟩ := List.mem_filter.mp hold
        exact ⟨by simpa using hid, Or.inl (List.mem_map_of_mem hmem)⟩
      · obtain ⟨hmem, hid⟩ := List.mem_filter.mp hnewer
        obtain ⟨i, _, d, hjoystick, _, rfl⟩ := hnew joystick hmem
        rw [newJoystick_device_id] at hid ⊢
        exact ⟨by simpa using hid, Or.inr hjoystick⟩
    · rintro ⟨hi, hwanted⟩
      have htracked : i ∈ (js ++ new).map SDLJoystick.device_id := by
        rw [List.map_append, List.mem_append]
        by_cases hold : i ∈ js.map SDLJoystick.device_id
        · exact Or.inl hold
        · exact Or.inr (hall i hi hold (hwanted.resolve_left hold))
      obtain ⟨joystick, hj, rfl⟩ := List.mem_map.mp htracked
      rw [← List.filter_append]
      exact List.mem_map_of_mem (List.mem_filter.mpr ⟨hj, by simpa using hi⟩)

/-- The pad goes away between the two calls of `getDevice`. At another time it has been found, and
the next poll finds a second one beside it, or nothing. -/
theorem poll_tracks_devices_gone :
    (∃ i ∈ [(7 : ℤ)], i ∉ ([] : List SDLJoystick).map SDLJoystick.device_id ∧
      isDeviceSDLJoystick (some pad) i ∧ (none : Option InputDevice) = none) ∧
    ∀ deviceIds, ∃ js js' es, js.map SDLJoystick.device_id = [7] ∧
      step js (.pollInputDevices deviceIds (fun _ => some pad) fun _ => some pad) =
        some (js', es) ∧
      ∀ i, i ∈ js'.map SDLJoystick.device_id ↔ i ∈ deviceIds ∧
        (i ∈ js.map SDLJoystick.device_id ∨ isDeviceSDLJoystick (some pad) i) := by
  constructor
  · exact poll_tracks_devices (.refl : joystickHandler.Run (fun _ _ => True) [] [] [])
      (rfl : step [] (.pollInputDevices [7] (fun _ => some pad) fun _ => none) =
        some ([], [.nullPointerException]))
  · intro deviceIds
    obtain ⟨tr, js, hrun, hids⟩ := Machine.Run.exists_of_exec joystickHandler (fun _ _ => True) []
      [.pollInputDevices [7] (fun _ => some pad) fun _ => some pad]
      (fun js _ => js.map SDLJoystick.device_id = [7]) (by decide)
    have htracks := poll_tracks_devices hrun
      (rfl : step js (.pollInputDevices deviceIds (fun _ => some pad) fun _ => some pad) = _)
    split_ifs at htracks with hbroken
    · obtain ⟨_, _, _, _, hnone⟩ := htracks
      cases hnone
    · exact ⟨js, _, _, hids, rfl, htracks.1⟩

/-! ### The order of the axes -/

lemma renumber_injective : Function.Injective renumber := by
  intro a b h
  simp only [renumber, AXIS_GAS, AXIS_BRAKE, AXIS_Z, AXIS_RZ] at h
  split_ifs at h <;> omega

lemma newJoystick_axes (device_id : ℤ) (d : InputDevice) : (newJoystick device_id d).axes =
    (sortRanges d.motionRanges).filter fun range => range.fromJoystick && !range.isHat := by
  rw [newJoystick, addRanges_eq, List.nil_append]

lemma newJoystick_hats (device_id : ℤ) (d : InputDevice) : (newJoystick device_id d).hats =
    (sortRanges d.motionRanges).filter fun range => range.fromJoystick && range.isHat := by
  rw [newJoystick, addRanges_eq]
  exact List.nil_append _

lemma sortRanges_pairwise (ranges : List MotionRange) :
    (sortRanges ranges).Pairwise fun a b => renumber a.axis ≤ renumber b.axis := by
  have hle : ∀ a b : MotionRange, compare a b ≤ 0 ↔ renumber a.axis ≤ renumber b.axis := by
    intro a b
    rw [compare]
    omega
  have htotal : Std.Total fun a b : MotionRange => compare a b ≤ 0 :=
    ⟨fun a b => by rw [hle, hle]; exact le_total _ _⟩
  have htrans : IsTrans MotionRange fun a b => compare a b ≤ 0 :=
    ⟨fun a b c => by rw [hle, hle, hle]; exact le_trans⟩
  exact (List.pairwise_insertionSort _ ranges).imp fun hab => (hle _ _).mp hab

/-- The ranges of the joystick, sorted. -/
def joystickRanges (d : InputDevice) : List MotionRange :=
  (sortRanges d.motionRanges).filter MotionRange.fromJoystick

lemma joystickRanges_perm (d : InputDevice) :
    (joystickRanges d).Perm (d.motionRanges.filter MotionRange.fromJoystick) :=
  (List.perm_insertionSort _ _).filter _

lemma joystickRanges_pairwise (d : InputDevice) :
    (joystickRanges d).Pairwise fun a b => renumber a.axis ≤ renumber b.axis :=
  (sortRanges_pairwise d.motionRanges).filter _

lemma newJoystick_axes_eq (device_id : ℤ) (d : InputDevice) : (newJoystick device_id d).axes =
    (joystickRanges d).filter fun range => !range.isHat := by
  rw [newJoystick_axes, joystickRanges, List.filter_filter]
  exact List.filter_congr fun _ _ => Bool.and_comm _ _

lemma newJoystick_hats_eq (device_id : ℤ) (d : InputDevice) : (newJoystick device_id d).hats =
    (joystickRanges d).filter MotionRange.isHat := by
  rw [newJoystick_hats, joystickRanges, List.filter_filter]
  exact List.filter_congr fun _ _ => Bool.and_comm _ _

lemma joystickRanges_strict (d : InputDevice)
    (hnd : ((d.motionRanges.filter MotionRange.fromJoystick).map MotionRange.axis).Nodup) :
    (joystickRanges d).Pairwise fun a b => renumber a.axis < renumber b.axis := by
  have hdistinct : ((joystickRanges d).map MotionRange.axis).Nodup :=
    ((joystickRanges_perm d).map MotionRange.axis).nodup_iff.mpr hnd
  rw [List.Nodup, List.pairwise_map] at hdistinct
  refine ((joystickRanges_pairwise d).and hdistinct).imp ?_
  rintro a b ⟨hle, hne⟩
  exact lt_of_le_of_ne hle fun heq => hne (renumber_injective heq)

lemma renumber_hat {range : MotionRange} (h : range.isHat = true) :
    renumber range.axis = range.axis ∧ range.axis ∈ [AXIS_HAT_X, AXIS_HAT_Y] := by
  simp only [MotionRange.isHat, Bool.decide_or, Bool.or_eq_true, decide_eq_true_eq] at h
  rcases h with h | h
  · rw [h]
    decide
  · rw [h]
    decide

/-- Whatever order a device reports its ranges in, and whatever it reports beside those of the
joystick: if it reports no axis twice, each axis and each hat has the same position. -/
theorem axes_have_fixed_positions (device_id : ℤ) (d d' : InputDevice)
    (hperm : (d.motionRanges.filter MotionRange.fromJoystick).Perm
      (d'.motionRanges.filter MotionRange.fromJoystick))
    (hnd : ((d.motionRanges.filter MotionRange.fromJoystick).map MotionRange.axis).Nodup) :
    (newJoystick device_id d).axes = (newJoystick device_id d').axes ∧
      (newJoystick device_id d).hats = (newJoystick device_id d').hats ∧
      ((newJoystick device_id d).axes.Pairwise fun a b => renumber a.axis < renumber b.axis) ∧
      ((newJoystick device_id d).hats.map MotionRange.axis).Sublist [AXIS_HAT_X, AXIS_HAT_Y] := by
  have hstrict := joystickRanges_strict d hnd
  have hsame : joystickRanges d = joystickRanges d' := by
    refine List.Perm.eq_of_pairwise ?_ (joystickRanges_pairwise d) (joystickRanges_pairwise d')
      ((joystickRanges_perm d).trans (hperm.trans (joystickRanges_perm d').symm))
    intro a b ha hb hab hba
    have hmem : ∀ r ∈ joystickRanges d, r ∈ d.motionRanges.filter MotionRange.fromJoystick :=
      fun r => (joystickRanges_perm d).mem_iff.mp
    have hb' : b ∈ d.motionRanges.filter MotionRange.fromJoystick :=
      hperm.mem_iff.mpr ((joystickRanges_perm d').mem_iff.mp hb)
    exact List.inj_on_of_nodup_map hnd (hmem a ha) hb' (renumber_injective (le_antisymm hab hba))
  rw [newJoystick_axes_eq, newJoystick_axes_eq, newJoystick_hats_eq, newJoystick_hats_eq, hsame]
  refine ⟨rfl, rfl, hsame ▸ hstrict.filter _, ?_⟩
  have hhats : (((joystickRanges d').filter MotionRange.isHat).map MotionRange.axis).Pairwise
      (· < ·) := by
    rw [List.pairwise_map]
    refine (hsame ▸ hstrict.filter MotionRange.isHat).imp_of_mem ?_
    intro a b ha hb hab
    rw [(renumber_hat (List.mem_filter.mp ha).2).1,
      (renumber_hat (List.mem_filter.mp hb).2).1] at hab
    exact hab
  refine List.sublist_of_subperm_of_pairwise (List.subperm_of_subset hhats.nodup ?_) hhats
    (by decide)
  intro axis haxis
  obtain ⟨range, hr, rfl⟩ := List.mem_map.mp haxis
  exact (renumber_hat (List.mem_filter.mp hr).2).2

/-- The same pad, on a system that lists its ranges the other way round, with a range of the mouse
source between them. -/
theorem axes_have_fixed_positions_pad :
    (newJoystick 7 pad).axes.map MotionRange.axis = [0, 1, 12, 13, 11, 14] ∧
      (newJoystick 7 pad).axes = (newJoystick 7 { pad with
        motionRanges := ⟨0, 0x2002⟩ :: pad.motionRanges.reverse }).axes :=
  ⟨by decide, (axes_have_fixed_positions 7 pad { pad with
    motionRanges := ⟨0, 0x2002⟩ :: pad.motionRanges.reverse } (by decide) (by decide)).1⟩

end AndroidMkxp.Input
