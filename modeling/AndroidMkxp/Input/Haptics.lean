import AndroidMkxp.Foundation.History
import AndroidMkxp.Foundation.Machine
import AndroidMkxp.Foundation.Roster
import AndroidMkxp.Saves.Directory

/-!
# Vibrators

`SDLHapticHandler_API26` keeps the list of vibrators for the native side: those of the input
devices, and the one of the phone itself under an id of its own. It is polled like the joysticks,
but goes through the devices backwards, and does not test them again for a device that has gone.
-/

namespace AndroidMkxp.Input.Haptics

open Foundation

/-- The id of the vibrator of the phone. -/
def deviceId_VIBRATOR_SERVICE : ℤ := 999999

/-- An input device with its vibrator. -/
structure VibratingDevice where
  name : JString
  hasVibrator : Bool
  deriving DecidableEq

/-- Which `Vibrator` is held. -/
inductive Vibrator where
  | ofDevice (device_id : ℤ)
  | service
  deriving DecidableEq, Repr

structure SDLHaptic where
  device_id : ℤ
  name : JString
  vib : Vibrator
  deriving DecidableEq

inductive Event where
  | nativeAddHaptic (haptic : SDLHaptic)
  | nativeRemoveHaptic (device_id : ℤ)
  | createOneShot (vib : Vibrator) (length amplitude : ℤ)
  /-- `vibrate(length)`, with the default amplitude. -/
  | vibrate (vib : Vibrator) (length : ℤ)
  | cancel (vib : Vibrator)
  | nullPointerException
  deriving DecidableEq

/-- What is made for an input device without a haptic, where `devices` are the answers of
`getDevice`. -/
def makeHaptic (devices : ℤ → Option VibratingDevice) (device_id : ℤ) :
    Except JException (Option SDLHaptic) :=
  match devices device_id with
  | none        => .error .nullPointerException
  | some device =>
    .ok (if device.hasVibrator then some ⟨device_id, device.name, .ofDevice device_id⟩ else none)

def makeService (device_id : ℤ) : Except JException (Option SDLHaptic) :=
  .ok (some ⟨device_id, "VIBRATOR_SERVICE".toList, .service⟩)

def told : Change ℤ SDLHaptic → Event
  | .add haptic       => .nativeAddHaptic haptic
  | .remove device_id => .nativeRemoveHaptic device_id

/-- The entry is not removed by the end of the poll. -/
def stays (deviceIds : List ℤ) (hasVibratorService : Bool) (device_id : ℤ) : Bool :=
  device_id ∈ deviceIds ∨ (device_id = deviceId_VIBRATOR_SERVICE ∧ hasVibratorService)

/-- `service` is what `getSystemService` returns: `null`, or a vibrator that has a motor or not. -/
def pollHapticDevices (deviceIds : List ℤ) (devices : ℤ → Option VibratingDevice)
    (service : Option Bool) (mHaptics : List SDLHaptic) : List SDLHaptic × List Event :=
  let added := Roster.enrol SDLHaptic.device_id (makeHaptic devices) deviceIds.reverse mHaptics
  match added.2.2 with
  | .error _ => (added.1, added.2.1.map told ++ [.nullPointerException])
  | .ok ()   =>
    let hasVibratorService := service.getD false
    let withService := Roster.enrol SDLHaptic.device_id makeService
      (if hasVibratorService then [deviceId_VIBRATOR_SERVICE] else []) added.1
    let removedDevices := (withService.1.map SDLHaptic.device_id).filter fun i =>
      !stays deviceIds hasVibratorService i
    let left := Roster.dismiss SDLHaptic.device_id removedDevices withService.1
    (left.1, (added.2.1 ++ withService.2.1 ++ left.2).map told)

def getHaptic (mHaptics : List SDLHaptic) (device_id : ℤ) : Option SDLHaptic :=
  mHaptics.find? fun haptic => haptic.device_id = device_id

def stop (mHaptics : List SDLHaptic) (device_id : ℤ) : List Event :=
  match getHaptic mHaptics device_id with
  | none        => []
  | some haptic => [.cancel haptic.vib]

/-- `SDLHapticHandler_API26.run`. Of the intensity, whether it is zero and what `Math.round` makes
of it on the scale to 255; `fails` if the calls of Android 8.0 throw. -/
def run (mHaptics : List SDLHaptic) (device_id : ℤ) (isZero : Bool) (rounded length : ℤ)
    (fails : Bool) : List Event :=
  match getHaptic mHaptics device_id with
  | none        => []
  | some haptic =>
    if isZero then stop mHaptics device_id
    else
      let vibeValue := if rounded > 255 then 255 else rounded
      if vibeValue < 1 then stop mHaptics device_id
      else if fails then [.vibrate haptic.vib length]
      else [.createOneShot haptic.vib length vibeValue]

inductive Action where
  | pollHapticDevices (deviceIds : List ℤ) (devices : ℤ → Option VibratingDevice)
      (service : Option Bool)
  | run (device_id : ℤ) (isZero : Bool) (rounded length : ℤ) (fails : Bool)
  | stop (device_id : ℤ)

def step (mHaptics : List SDLHaptic) : Action → Option (List SDLHaptic × List Event)
  | .pollHapticDevices deviceIds devices service =>
    some (pollHapticDevices deviceIds devices service mHaptics)
  | .run device_id isZero rounded length fails =>
    some (mHaptics, run mHaptics device_id isZero rounded length fails)
  | .stop device_id => some (mHaptics, stop mHaptics device_id)

def hapticHandler : Machine (List SDLHaptic) Action Event := ⟨step⟩

/-! ### What the native side knows -/

variable {hs hs' : List SDLHaptic} {cs : List (Change ℤ SDLHaptic)} {es tr : List Event}
  {deviceIds : List ℤ} {devices : ℤ → Option VibratingDevice} {service : Option Bool} {id : ℤ}
  {haptic : SDLHaptic} {ok : List SDLHaptic → Action → Prop}

def Event.change : Event → Option (Change ℤ SDLHaptic)
  | .nativeAddHaptic haptic       => some (.add haptic)
  | .nativeRemoveHaptic device_id => some (.remove device_id)
  | _                             => none

def changes (tr : List Event) : List (Change ℤ SDLHaptic) := tr.filterMap Event.change

lemma changes_append : changes (tr ++ es) = changes tr ++ changes es := List.filterMap_append

lemma changes_map_told : changes (cs.map told) = cs := by
  rw [changes, List.filterMap_map]
  calc cs.filterMap (Event.change ∘ told) = cs.filterMap some := by
        apply List.filterMap_congr
        intro c _
        cases c <;> rfl
    _ = cs := List.filterMap_some

lemma makeHaptic_eq_some_iff : makeHaptic devices id = .ok (some haptic) ↔
    ∃ d, devices id = some d ∧ d.hasVibrator = true ∧ haptic = ⟨id, d.name, .ofDevice id⟩ := by
  unfold makeHaptic
  cases devices id with
  | none => simp
  | some d =>
    cases hv : d.hasVibrator with
    | false => simp [hv]
    | true =>
      simp only [hv, if_true, Except.ok.injEq, Option.some.injEq]
      constructor
      · rintro rfl
        exact ⟨d, rfl, hv, rfl⟩
      · rintro ⟨_, rfl, _, rfl⟩
        rfl

lemma makeHaptic_device_id (h : makeHaptic devices id = .ok (some haptic)) :
    haptic.device_id = id := by
  obtain ⟨d, _, _, rfl⟩ := makeHaptic_eq_some_iff.mp h
  rfl

lemma makeService_device_id (h : makeService id = .ok (some haptic)) : haptic.device_id = id := by
  cases h
  rfl

/-- The list that the native side has made of the calls so far is that of the handler. -/
structure InStep (tr : List Event) (hs : List SDLHaptic) : Prop where
  native : Roster.replay SDLHaptic.device_id [] (changes tr) = some hs
  distinct : (hs.map SDLHaptic.device_id).Nodup

lemma InStep.append (h : InStep tr hs)
    (hreplay : Roster.replay SDLHaptic.device_id hs (changes es) = some hs') :
    InStep (tr ++ es) hs' where
  native := by
    rw [changes_append, Roster.replay_append h.native]
    exact hreplay
  distinct := Roster.nodup_of_replay h.distinct hreplay

/-- The vibrators that a poll to its end leaves. -/
def Present (deviceIds : List ℤ) (devices : ℤ → Option VibratingDevice) (service : Option Bool)
    (hs : List SDLHaptic) (i : ℤ) : Prop :=
  i = deviceId_VIBRATOR_SERVICE ∧ service = some true ∨
    i ∈ deviceIds ∧ (i ∈ hs.map SDLHaptic.device_id ∨
      ∃ d, devices i = some d ∧ d.hasVibrator = true)

/-- What a poll does. -/
inductive Polled (deviceIds : List ℤ) (devices : ℤ → Option VibratingDevice)
    (service : Option Bool) (hs : List SDLHaptic) : List SDLHaptic → List Event → Prop where
  /-- A device without a haptic has gone. -/
  | breaksOff (hs' : List SDLHaptic) (cs : List (Change ℤ SDLHaptic))
      (hreplay : Roster.replay SDLHaptic.device_id hs cs = some hs')
      (hgone : ∃ i ∈ deviceIds, i ∉ hs.map SDLHaptic.device_id ∧ devices i = none) :
      Polled deviceIds devices service hs hs' (cs.map told ++ [.nullPointerException])
  | completes (hs' : List SDLHaptic) (cs : List (Change ℤ SDLHaptic))
      (hreplay : Roster.replay SDLHaptic.device_id hs cs = some hs')
      (hpresent : ∀ i, i ∈ hs'.map SDLHaptic.device_id ↔
        Present deviceIds devices service hs i) :
      Polled deviceIds devices service hs hs' (cs.map told)

lemma mem_service_iff : id ∈ (if service.getD false then [deviceId_VIBRATOR_SERVICE] else []) ↔
    id = deviceId_VIBRATOR_SERVICE ∧ service = some true := by
  cases service with
  | none => simp
  | some b => cases b <;> simp

lemma stays_iff : stays deviceIds (service.getD false) id = true ↔
    id ∈ deviceIds ∨ id = deviceId_VIBRATOR_SERVICE ∧ service = some true := by
  cases service with
  | none => simp [stays]
  | some b => cases b <;> simp [stays]

theorem polled (deviceIds : List ℤ) (devices : ℤ → Option VibratingDevice) (service : Option Bool)
    (hnd : (hs.map SDLHaptic.device_id).Nodup) :
    Polled deviceIds devices service hs (pollHapticDevices deviceIds devices service hs).1
      (pollHapticDevices deviceIds devices service hs).2 := by
  have hmake : ∀ i haptic, makeHaptic devices i = .ok (some haptic) → haptic.device_id = i :=
    fun _ _ => makeHaptic_device_id
  obtain ⟨new, hr, _, hreplay, hnew, hall⟩ := Roster.enrol_spec deviceIds.reverse hs hmake
  have hok := Roster.enrol_ok_iff deviceIds.reverse hs hmake
  simp only [pollHapticDevices]
  generalize Roster.enrol SDLHaptic.device_id (makeHaptic devices) deviceIds.reverse hs = added at *
  obtain ⟨r, cs, result⟩ := added
  dsimp only at hr hreplay hall hok ⊢
  subst hr
  cases result with
  | error e =>
    refine .breaksOff _ cs hreplay ?_
    simp only [reduceCtorEq, false_iff, not_forall, not_not] at hok
    obtain ⟨i, hi, huntracked, e, herror⟩ := hok
    refine ⟨i, List.mem_reverse.mp hi, huntracked, ?_⟩
    unfold makeHaptic at herror
    cases hd : devices i with
    | none => rfl
    | some d =>
      rw [hd] at herror
      cases herror
  | ok u =>
    have hservice : ∀ i haptic, makeService i = .ok (some haptic) → haptic.device_id = i :=
      fun _ _ => makeService_device_id
    obtain ⟨newS, hrS, _, hreplayS, hnewS, hallS⟩ := Roster.enrol_spec
      (if service.getD false then [deviceId_VIBRATOR_SERVICE] else []) (hs ++ new) hservice
    have hokS := (Roster.enrol_ok_iff
      (if service.getD false then [deviceId_VIBRATOR_SERVICE] else []) (hs ++ new) hservice).mpr
        fun i _ _ e herror => by cases herror
    dsimp only
    generalize Roster.enrol SDLHaptic.device_id makeService
      (if service.getD false then [deviceId_VIBRATOR_SERVICE] else []) (hs ++ new) = withS at *
    obtain ⟨r, csS, resultS⟩ := withS
    dsimp only at hrS hreplayS hallS hokS ⊢
    subst hrS
    have hreplayed :
        Roster.replay SDLHaptic.device_id hs (cs ++ csS) = some (hs ++ new ++ newS) := by
      rw [Roster.replay_append hreplay]
      exact hreplayS
    obtain ⟨hleft, hdismiss⟩ := Roster.dismiss_filter_spec (Roster.nodup_of_replay hnd hreplayed)
      (stays deviceIds (service.getD false))
    refine .completes _ _ ?_ ?_
    · rw [Roster.replay_append hreplayed, hdismiss, hleft]
    · intro i
      rw [hleft, Roster.mem_map_filter, stays_iff]
      constructor
      · rintro ⟨htracked, hi | hserv⟩
        · obtain ⟨haptic, hmem, rfl⟩ := List.mem_map.mp htracked
          rcases List.mem_append.mp hmem with hmem | hphone
          · rcases List.mem_append.mp hmem with hold | hdevice
            · exact Or.inr ⟨hi, Or.inl (List.mem_map_of_mem hold)⟩
            · obtain ⟨d, hd, hv, _⟩ := makeHaptic_eq_some_iff.mp (hnew haptic hdevice).2
              exact Or.inr ⟨hi, Or.inr ⟨d, hd, hv⟩⟩
          · exact Or.inl (mem_service_iff.mp (hnewS haptic hphone).1)
        · exact Or.inl hserv
      · rintro (hserv | ⟨hi, hwanted⟩)
        · exact ⟨hallS hokS i (mem_service_iff.mpr hserv) _ rfl, Or.inr hserv⟩
        · refine ⟨?_, Or.inl hi⟩
          rw [List.map_append]
          apply List.mem_append_left
          rcases hwanted with hold | ⟨d, hd, hv⟩
          · rw [List.map_append]
            exact List.mem_append_left _ hold
          · exact hall rfl i (List.mem_reverse.mpr hi) _
              (makeHaptic_eq_some_iff.mpr ⟨d, hd, hv, rfl⟩)

lemma Polled.of_step (hs₀ : InStep tr hs)
    (h : step hs (.pollHapticDevices deviceIds devices service) = some (hs', es)) :
    Polled deviceIds devices service hs hs' es := by
  have hpoll := polled deviceIds devices service hs₀.distinct
  rw [Option.some.inj h] at hpoll
  exact hpoll

/-- A vibration of a haptic that the native side has, of a strength that Android takes if it is
given one. -/
def Legal (past : List Event) : Event → Prop
  | .createOneShot vib _ amplitude => 1 ≤ amplitude ∧ amplitude ≤ 255 ∧
      ∃ r ∈ Roster.replay SDLHaptic.device_id [] (changes past), ∃ haptic ∈ r, haptic.vib = vib
  | .vibrate vib _ | .cancel vib =>
      ∃ r ∈ Roster.replay SDLHaptic.device_id [] (changes past), ∃ haptic ∈ r, haptic.vib = vib
  | _ => True

lemma stop_legal (hs₀ : InStep tr hs) :
    changes (stop hs id) = [] ∧ Justified Legal tr (stop hs id) := by
  unfold stop
  cases hfound : getHaptic hs id with
  | none => exact ⟨rfl, trivial⟩
  | some haptic =>
    have hmem := List.mem_of_find?_eq_some hfound
    exact ⟨rfl, ⟨hs, hs₀.native, haptic, hmem, rfl⟩, trivial⟩

lemma run_legal (hs₀ : InStep tr hs) {isZero fails : Bool} {rounded length : ℤ} :
    changes (run hs id isZero rounded length fails) = [] ∧
      Justified Legal tr (run hs id isZero rounded length fails) := by
  unfold run
  cases hfound : getHaptic hs id with
  | none => exact ⟨rfl, trivial⟩
  | some haptic =>
    have hmem := List.mem_of_find?_eq_some hfound
    dsimp only
    split_ifs with hzero hmax hlow hfails hlow hfails
    · exact stop_legal hs₀
    · exact stop_legal hs₀
    · exact ⟨rfl, ⟨hs, hs₀.native, haptic, hmem, rfl⟩, trivial⟩
    · exact ⟨rfl, ⟨by omega, by omega, hs, hs₀.native, haptic, hmem, rfl⟩, trivial⟩
    · exact stop_legal hs₀
    · exact ⟨rfl, ⟨hs, hs₀.native, haptic, hmem, rfl⟩, trivial⟩
    · exact ⟨rfl, ⟨by omega, by omega, hs, hs₀.native, haptic, hmem, rfl⟩, trivial⟩

lemma InStep.quiet (h : InStep tr hs) (hes : changes es = []) : InStep (tr ++ es) hs := by
  apply h.append
  rw [hes]
  rfl

theorem inStep_of_run (h : hapticHandler.Run ok [] tr hs) : InStep tr hs := by
  refine h.invariant InStep ⟨rfl, by simp⟩ ?_
  intro tr hs a hs' es _ hs₀ _ hstep
  cases a with
  | pollHapticDevices deviceIds devices service =>
    cases Polled.of_step hs₀ hstep with
    | breaksOff cs hreplay hgone =>
      apply hs₀.append
      have hcs : changes (cs.map told ++ [.nullPointerException]) = cs := by
        rw [changes_append, changes_map_told]
        exact List.append_nil cs
      rw [hcs]
      exact hreplay
    | completes cs hreplay hpresent =>
      apply hs₀.append
      rw [changes_map_told]
      exact hreplay
  | run device_id isZero rounded length fails =>
    cases hstep
    exact hs₀.quiet (run_legal hs₀).1
  | stop device_id =>
    cases hstep
    exact hs₀.quiet (stop_legal hs₀).1

/-- The native side, going by the calls alone, has the list of the handler at all times, and only
vibrators on it are started or stopped. A poll that runs to its end leaves the vibrator of the phone
if there is one, and those devices that are there and have a vibrator now or had one before; it
breaks off only over a device that has gone. -/
theorem haptics_in_step (h : hapticHandler.Run ok [] tr hs) :
    Roster.replay SDLHaptic.device_id [] (changes tr) = some hs ∧
      (hs.map SDLHaptic.device_id).Nodup ∧ Justified Legal [] tr ∧
      ∀ deviceIds devices service hs' es,
        step hs (.pollHapticDevices deviceIds devices service) = some (hs', es) →
        if .nullPointerException ∈ es then
          ∃ i ∈ deviceIds, i ∉ hs.map SDLHaptic.device_id ∧ devices i = none
        else ∀ i, i ∈ hs'.map SDLHaptic.device_id ↔ Present deviceIds devices service hs i := by
  refine ⟨(inStep_of_run h).native, (inStep_of_run h).distinct, h.justified ?_, ?_⟩
  · intro tr hs a hs' es hrun _ hstep
    have hs₀ := inStep_of_run hrun
    cases a with
    | pollHapticDevices deviceIds devices service =>
      apply justified_of_forall
      intro ev hev past
      have htold : ∀ c, Legal past (told c) := by
        intro c
        cases c <;> trivial
      cases Polled.of_step hs₀ hstep with
      | breaksOff cs hreplay hgone =>
        rcases List.mem_append.mp hev with hev | hev
        · obtain ⟨c, _, rfl⟩ := List.mem_map.mp hev
          exact htold c
        · rw [List.mem_singleton.mp hev]
          trivial
      | completes cs hreplay hpresent =>
        obtain ⟨c, _, rfl⟩ := List.mem_map.mp hev
        exact htold c
    | run device_id isZero rounded length fails =>
      cases hstep
      exact (run_legal hs₀).2
    | stop device_id =>
      cases hstep
      exact (stop_legal hs₀).2
  · intro deviceIds devices service hs' es hstep
    cases Polled.of_step (inStep_of_run h) hstep with
    | breaksOff cs hreplay hgone =>
      rw [if_pos (by simp)]
      exact hgone
    | completes cs hreplay hpresent =>
      have hnone : .nullPointerException ∉ cs.map told := by
        intro hmem
        obtain ⟨c, _, hc⟩ := List.mem_map.mp hmem
        cases c <;> cases hc
      rw [if_neg hnone]
      exact hpresent

/-- The phone vibrates, and so does a pad until it is unplugged. -/
theorem haptics_in_step_pad : ∃ tr, .createOneShot (.ofDevice 7) 20 255 ∈ tr ∧
    .nativeRemoveHaptic 7 ∈ tr ∧ Justified Legal [] tr := by
  obtain ⟨tr, hs, hrun, hshot, hremove⟩ := Machine.Run.exists_of_exec hapticHandler
    (fun _ _ => True) []
    [.pollHapticDevices [7] (fun _ => some ⟨"Pad".toList, true⟩) (some true),
      .run 7 false 300 20 false, .run 999999 false 10 20 true, .stop 7,
      .pollHapticDevices [] (fun _ => none) (some true)]
    (fun _ tr => .createOneShot (.ofDevice 7) 20 255 ∈ tr ∧ .nativeRemoveHaptic 7 ∈ tr) (by decide)
  exact ⟨tr, hshot, hremove, (haptics_in_step hrun).2.2.1⟩

end AndroidMkxp.Input.Haptics
