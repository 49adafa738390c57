import AndroidMkxp.Input.Joysticks

/-!
# Polls and motion events at the same time

`pollInputDevices` runs on the thread of the game and `handleMotionEvent` on the main thread; the
list of joysticks that they share is not locked. Here a poll goes on bit by bit. It changes the list
and tells the native side in two steps, and a motion event sends one call at a time for the joystick
that it found when it came.

The main thread only reads the list, so the bits of a poll together still do what `pollInputDevices`
says. A `getJoystick` that the poll disturbs throws and sends nothing.
-/

namespace AndroidMkxp.Input.Polls

open Foundation

/-- Where `pollInputDevices` is. -/
inductive Stage where
  /-- In the loop over `deviceIds`, of which these are left. -/
  | looking (ids : List ℤ)
  /-- The joystick is in the list, and `nativeAddJoystick` is next. -/
  | adding (joystick : SDLJoystick) (ids : List ℤ)
  /-- In the loop over `removedDevices`. -/
  | removing (ids : List ℤ)
  /-- `nativeRemoveJoystick` has been called, and the joystick is still in the list. -/
  | removed (device_id : ℤ) (ids : List ℤ)

structure Poll where
  deviceIds : List ℤ
  first : ℤ → Option InputDevice
  second : ℤ → Option InputDevice
  stage : Stage

structure Handler where
  mJoysticks : List SDLJoystick
  /-- The poll in progress. -/
  poll : Option Poll
  /-- The calls that the motion event in progress has still to make. -/
  motion : List Event
  /-- A poll has been in progress since that motion event came. -/
  overlapped : Bool

def Handler.initial : Handler := ⟨[], none, [], false⟩

inductive Action where
  | pollInputDevices (deviceIds : List ℤ) (first second : ℤ → Option InputDevice)
  /-- The poll goes on. -/
  | goOn
  | handleMotionEvent (deviceId : ℤ) (isMove : Bool)
  /-- The motion event makes its next call. -/
  | send

/-- What the poll does next with the list. -/
def Poll.goOn (p : Poll) (mJoysticks : List SDLJoystick) :
    List SDLJoystick × Option Poll × List Event :=
  match p.stage with
  | .looking [] =>
    let removedDevices :=
      (mJoysticks.map SDLJoystick.device_id).filter fun i => !(i ∈ p.deviceIds)
    (mJoysticks, some { p with stage := .removing removedDevices }, [])
  | .looking (device_id :: ids) =>
    if isDeviceSDLJoystick (p.first device_id) device_id then
      match getJoystick mJoysticks device_id with
      | some _ => (mJoysticks, some { p with stage := .looking ids }, [])
      | none   =>
        match p.second device_id with
        | none                => (mJoysticks, none, [.nullPointerException])
        | some joystickDevice =>
          let joystick := newJoystick device_id joystickDevice
          (mJoysticks ++ [joystick], some { p with stage := .adding joystick ids }, [])
    else (mJoysticks, some { p with stage := .looking ids }, [])
  | .adding joystick ids =>
    (mJoysticks, some { p with stage := .looking ids }, [.nativeAddJoystick joystick.arguments])
  | .removing [] => (mJoysticks, none, [])
  | .removing (device_id :: ids) =>
    (mJoysticks, some { p with stage := .removed device_id ids },
      [.nativeRemoveJoystick device_id])
  | .removed device_id ids =>
    (Roster.drop SDLJoystick.device_id device_id mJoysticks,
      some { p with stage := .removing ids }, [])

def step (s : Handler) : Action → Option (Handler × List Event)
  | .pollInputDevices deviceIds first second =>
    match s.poll with
    | some _ => none
    | none   =>
      some ({ s with
        poll := some ⟨deviceIds, first, second, .looking deviceIds⟩
        overlapped := true }, [])
  | .goOn =>
    match s.poll with
    | none   => none
    | some p =>
      let next := p.goOn s.mJoysticks
      some ({ s with mJoysticks := next.1, poll := next.2.1 }, next.2.2)
  | .handleMotionEvent deviceId isMove =>
    if s.motion = [] then
      some ({ s with
        motion := handleMotionEvent s.mJoysticks deviceId isMove
        overlapped := s.poll.isSome }, [])
    else none
  | .send =>
    match s.motion with
    | []           => none
    | ev :: motion => some ({ s with motion := motion }, [ev])

def polls : Machine Handler Action Event := ⟨step⟩

variable {s s' : Handler} {p : Poll} {a : Action} {tr es : List Event} {ev : Event}
  {js : List SDLJoystick} {id : ℤ} {ids : List ℤ} {joystick : SDLJoystick}
  {ok : Handler → Action → Prop}

lemma getJoystick_eq_none_iff : getJoystick js id = none ↔ id ∉ js.map SDLJoystick.device_id := by
  simp [getJoystick]

/-! ### The poll as a whole -/

/-- What is left to do of a poll, if the list changes in no other way. -/
def Poll.rest (p : Poll) (mJoysticks : List SDLJoystick) : List SDLJoystick × List Event :=
  let look (ids : List ℤ) :=
    let added := Roster.enrol SDLJoystick.device_id (makeJoystick p.first p.second) ids mJoysticks
    match added.2.2 with
    | .error _ => (added.1, added.2.1.map told ++ [.nullPointerException])
    | .ok ()   =>
      let removedDevices := (added.1.map SDLJoystick.device_id).filter fun i => !(i ∈ p.deviceIds)
      let left := Roster.dismiss SDLJoystick.device_id removedDevices added.1
      (left.1, added.2.1.map told ++ left.2.map told)
  let dismiss (ids : List ℤ) := Roster.dismiss SDLJoystick.device_id ids mJoysticks
  match p.stage with
  | .looking ids           => look ids
  | .adding joystick ids   => ((look ids).1, told (.add joystick) :: (look ids).2)
  | .removing ids          => ((dismiss ids).1, (dismiss ids).2.map told)
  | .removed device_id ids =>
    ((dismiss (device_id :: ids)).1, (dismiss (device_id :: ids)).2.tail.map told)

def Handler.rest (s : Handler) : List SDLJoystick × List Event :=
  match s.poll with
  | none   => (s.mJoysticks, [])
  | some p => p.rest s.mJoysticks

/-- One bit of a poll takes what it does off the front of what is left to do. -/
lemma Poll.rest_goOn (p : Poll) (js : List SDLJoystick) :
    p.rest js = ((Handler.mk (p.goOn js).1 (p.goOn js).2.1 [] false).rest.1,
      (p.goOn js).2.2 ++ (Handler.mk (p.goOn js).1 (p.goOn js).2.1 [] false).rest.2) := by
  obtain ⟨deviceIds, first, second, stage⟩ := p
  cases stage with
  | looking ids =>
    cases ids with
    | nil => rfl
    | cons device_id ids =>
      simp only [Poll.rest, Poll.goOn, Roster.enrol]
      by_cases htracked : device_id ∈ js.map SDLJoystick.device_id
      · rw [if_pos htracked]
        cases hfound : getJoystick js device_id with
        | none => exact absurd htracked (getJoystick_eq_none_iff.mp hfound)
        | some joystick => split_ifs <;> rfl
      · rw [if_neg htracked, getJoystick_eq_none_iff.mpr htracked]
        simp only [makeJoystick]
        split_ifs with hjoystick
        · cases second device_id with
          | none => rfl
          | some joystickDevice =>
            simp only [Handler.rest, Poll.rest, List.map_cons, List.nil_append]
            split <;> rfl
        · rfl
  | adding joystick ids => rfl
  | removing ids =>
    cases ids with
    | nil => rfl
    | cons device_id ids => rfl
  | removed device_id ids => rfl

/-! ### What a step can do -/

inductive Stepped (s : Handler) : Handler → List Event → Prop where
  | starts (deviceIds : List ℤ) (first second : ℤ → Option InputDevice) (hnone : s.poll = none) :
    Stepped s { s with
      poll := some ⟨deviceIds, first, second, .looking deviceIds⟩
      overlapped := true } []
  | goesOn (p : Poll) (hp : s.poll = some p) :
    Stepped s { s with
      mJoysticks := (p.goOn s.mJoysticks).1
      poll := (p.goOn s.mJoysticks).2.1 } (p.goOn s.mJoysticks).2.2
  | moves (deviceId : ℤ) (isMove : Bool) (hmotion : s.motion = []) :
    Stepped s { s with
      motion := handleMotionEvent s.mJoysticks deviceId isMove
      overlapped := s.poll.isSome } []
  | sends (ev : Event) (motion : List Event) (hmotion : s.motion = ev :: motion) :
    Stepped s { s with motion := motion } [ev]

lemma stepped (h : polls.step s a = some (s', es)) : Stepped s s' es := by
  cases a with
  | pollInputDevices deviceIds first second =>
    simp only [polls, step] at h
    split at h
    · cases h
    · next hnone =>
      cases h
      exact .starts deviceIds first second hnone
  | goOn =>
    simp only [polls, step] at h
    split at h
    · cases h
    · next p hp =>
      cases h
      exact .goesOn p hp
  | handleMotionEvent deviceId isMove =>
    simp only [polls, step] at h
    split_ifs at h with hmotion
    cases h
    exact .moves deviceId isMove hmotion
  | send =>
    simp only [polls, step] at h
    split at h
    · cases h
    · next ev motion hmotion =>
      cases h
      exact .sends ev motion hmotion

/-- What a poll can do in one go. -/
inductive WentOn (p : Poll) (js : List SDLJoystick) :
    List SDLJoystick → Option Poll → List Event → Prop where
  | passes (device_id : ℤ) (ids : List ℤ) (hstage : p.stage = .looking (device_id :: ids)) :
    WentOn p js js (some { p with stage := .looking ids }) []
  | adds (device_id : ℤ) (ids : List ℤ) (joystickDevice : InputDevice)
      (hstage : p.stage = .looking (device_id :: ids))
      (hnew : device_id ∉ js.map SDLJoystick.device_id) :
    WentOn p js (js ++ [newJoystick device_id joystickDevice])
      (some { p with stage := .adding (newJoystick device_id joystickDevice) ids }) []
  | breaksOff (device_id : ℤ) (ids : List ℤ) (hstage : p.stage = .looking (device_id :: ids)) :
    WentOn p js js none [.nullPointerException]
  | declares (joystick : SDLJoystick) (ids : List ℤ) (hstage : p.stage = .adding joystick ids) :
    WentOn p js js (some { p with stage := .looking ids })
      [.nativeAddJoystick joystick.arguments]
  | turns (hstage : p.stage = .looking []) :
    WentOn p js js (some { p with
      stage := .removing ((js.map SDLJoystick.device_id).filter fun i => !(i ∈ p.deviceIds)) }) []
  | removes (device_id : ℤ) (ids : List ℤ) (hstage : p.stage = .removing (device_id :: ids)) :
    WentOn p js js (some { p with stage := .removed device_id ids })
      [.nativeRemoveJoystick device_id]
  | drops (device_id : ℤ) (ids : List ℤ) (hstage : p.stage = .removed device_id ids) :
    WentOn p js (Roster.drop SDLJoystick.device_id device_id js)
      (some { p with stage := .removing ids }) []
  | ends (hstage : p.stage = .removing []) : WentOn p js js none []

lemma wentOn (p : Poll) (js : List SDLJoystick) :
    WentOn p js (p.goOn js).1 (p.goOn js).2.1 (p.goOn js).2.2 := by
  obtain ⟨deviceIds, first, second, stage⟩ := p
  cases stage with
  | looking ids =>
    cases ids with
    | nil => exact .turns rfl
    | cons device_id ids =>
      simp only [Poll.goOn]
      split_ifs
      · cases hfound : getJoystick js device_id with
        | some joystick => exact .passes device_id ids rfl
        | none =>
          cases second device_id with
          | none => exact .breaksOff device_id ids rfl
          | some d => exact .adds device_id ids d rfl (getJoystick_eq_none_iff.mp hfound)
      · exact .passes device_id ids rfl
  | adding joystick ids => exact .declares joystick ids rfl
  | removing ids =>
    cases ids with
    | nil => exact .ends rfl
    | cons device_id ids => exact .removes device_id ids rfl
  | removed device_id ids => exact .drops device_id ids rfl

/-! ### What the native side knows -/

/-- The joysticks of the list that the native side knows of while a poll is at `stage`. -/
def Stage.known : Stage → List SDLJoystick → List SDLJoystick
  | .adding joystick _, js   => Roster.drop SDLJoystick.device_id joystick.device_id js
  | .removed device_id _, js => Roster.drop SDLJoystick.device_id device_id js
  | _, js                    => js

def Handler.known (s : Handler) : List SDLJoystick :=
  match s.poll with
  | none   => s.mJoysticks
  | some p => p.stage.known s.mJoysticks

/-- What the poll tells the native side next, the joystick being in the list already. -/
def Handler.declares (s : Handler) : Option AddJoystick :=
  match s.poll with
  | some ⟨_, _, _, .adding joystick _⟩ => some joystick.arguments
  | _                                  => none

/-- The native side has been told of the joystick, or the poll is about to tell it. -/
def Declared (tr : List Event) (s : Handler) (args : AddJoystick) : Prop :=
  .nativeAddJoystick args ∈ tr ∨ s.declares = some args

/-- What holds of the list at each stage. -/
def Stage.Fits (js : List SDLJoystick) : Stage → Prop
  | .looking _             => True
  | .adding joystick _     => ∃ old, js = old ++ [joystick]
  | .removing ids          => ids.Nodup ∧ ∀ i ∈ ids, i ∈ js.map SDLJoystick.device_id
  | .removed device_id ids => (device_id :: ids).Nodup ∧
    ∀ i ∈ device_id :: ids, i ∈ js.map SDLJoystick.device_id

structure Tied (tr : List Event) (s : Handler) : Prop where
  native : Roster.replay AddJoystick.device_id [] (changes tr) =
    some (s.known.map SDLJoystick.arguments)
  distinct : (s.mJoysticks.map SDLJoystick.device_id).Nodup
  fits : ∀ p ∈ s.poll, p.stage.Fits s.mJoysticks
  announced : ∀ joystick ∈ s.mJoysticks, Declared tr s joystick.arguments

lemma Declared.step {args : AddJoystick} (h : Declared tr s args) (hstep : Stepped s s' es) :
    Declared (tr ++ es) s' args := by
  rcases h with htold | hnext
  · exact Or.inl (List.mem_append_left es htold)
  · cases hstep with
    | starts deviceIds first second hnone => simp [Handler.declares, hnone] at hnext
    | goesOn p hp =>
      obtain ⟨deviceIds, first, second, stage⟩ := p
      simp only [Handler.declares, hp] at hnext
      split at hnext
      · next heq =>
        cases heq
        cases hnext
        exact Or.inl (by simp [Poll.goOn])
      · cases hnext
    | moves deviceId isMove hmotion => exact Or.inr hnext
    | sends ev motion hmotion => exact Or.inr hnext

lemma drop_append_singleton (hnew : joystick.device_id ∉ js.map SDLJoystick.device_id) :
    Roster.drop SDLJoystick.device_id joystick.device_id (js ++ [joystick]) = js := by
  have hnone : ∀ other ∈ js, ¬decide (other.device_id = joystick.device_id) = true := by
    intro other hother heq
    exact hnew (of_decide_eq_true heq ▸ List.mem_map_of_mem hother)
  rw [Roster.drop, List.eraseP_append_right _ hnone]
  simp

lemma mem_drop_iff (hnd : (js.map SDLJoystick.device_id).Nodup) {i : ℤ} :
    i ∈ (Roster.drop SDLJoystick.device_id id js).map SDLJoystick.device_id ↔
      i ∈ js.map SDLJoystick.device_id ∧ i ≠ id := by
  rw [Roster.drop_eq_filter hnd]
  have hfilter : i ∈ (js.filter fun joystick => decide (joystick.device_id ≠ id)).map
      SDLJoystick.device_id ↔ i ∈ js.map SDLJoystick.device_id ∧ decide (i ≠ id) = true :=
    Roster.mem_map_filter fun i => decide (i ≠ id)
  rw [hfilter, decide_eq_true_iff]

lemma replay_told {js' : List SDLJoystick} {c : Change ℤ SDLJoystick}
    (h : Roster.replay AddJoystick.device_id [] (changes tr) =
      some (js.map SDLJoystick.arguments))
    (htake : Roster.take SDLJoystick.device_id js c = some js') :
    Roster.replay AddJoystick.device_id [] (changes (tr ++ [told c])) =
      some (js'.map SDLJoystick.arguments) := by
  have hone : Roster.replay SDLJoystick.device_id js [c] = some js' := by
    rw [Roster.replay, htake]
    rfl
  have hchange : changes [told c] = [c].map (Change.map SDLJoystick.arguments) := by
    rw [← changes_map_told]
    rfl
  rw [changes_append, Roster.replay_append h, hchange]
  exact Roster.replay_map (fun _ => rfl) hone

lemma Tied.goOn {js' : List SDLJoystick} {poll : Option Poll} (h : Tied tr s)
    (hp : s.poll = some p) (hon : WentOn p s.mJoysticks js' poll es)
    (hannounced : ∀ joystick ∈ s.mJoysticks,
      Declared (tr ++ es) { s with mJoysticks := js', poll := poll } joystick.arguments) :
    Tied (tr ++ es) { s with mJoysticks := js', poll := poll } := by
  have hfits := h.fits p hp
  have hnative := h.native
  simp only [Handler.known, hp] at hnative
  cases hon with
  | passes device_id ids hstage =>
    rw [hstage] at hnative
    rw [List.append_nil] at hannounced ⊢
    exact ⟨hnative, h.distinct, by rintro _ ⟨⟩; trivial, hannounced⟩
  | adds device_id ids d hstage hnew =>
    rw [hstage] at hnative
    rw [← newJoystick_device_id device_id d] at hnew
    rw [List.append_nil] at hannounced ⊢
    refine ⟨?_, ?_, ?_, ?_⟩
    · rw [hnative]
      exact congrArg (fun js => some (List.map SDLJoystick.arguments js))
        (drop_append_singleton hnew).symm
    · rw [List.map_append, List.map_singleton, List.nodup_append_comm]
      exact List.nodup_cons.mpr ⟨hnew, h.distinct⟩
    · rintro _ ⟨⟩
      exact ⟨_, rfl⟩
    · intro joystick hj
      rcases List.mem_append.mp hj with hold | hadded
      · exact hannounced joystick hold
      · rw [List.mem_singleton.mp hadded]
        exact Or.inr rfl
  | breaksOff device_id ids hstage =>
    rw [hstage] at hnative
    refine ⟨?_, h.distinct, by rintro _ ⟨⟩, hannounced⟩
    rw [changes_append]
    exact (congrArg _ (List.append_nil _)).trans hnative
  | declares joystick ids hstage =>
    rw [hstage] at hnative hfits
    obtain ⟨old, hold⟩ := hfits
    have hnew : joystick.device_id ∉ old.map SDLJoystick.device_id := by
      have hdistinct := h.distinct
      rw [hold, List.map_append, List.map_singleton, List.nodup_append_comm] at hdistinct
      exact (List.nodup_cons.mp hdistinct).1
    refine ⟨?_, h.distinct, by rintro _ ⟨⟩; trivial, hannounced⟩
    rw [Stage.known, hold, drop_append_singleton hnew] at hnative
    have htake : Roster.take SDLJoystick.device_id old (.add joystick) = some s.mJoysticks := by
      rw [Roster.take, if_neg hnew, hold]
    exact replay_told hnative htake
  | turns hstage =>
    rw [hstage] at hnative
    rw [List.append_nil] at hannounced ⊢
    refine ⟨hnative, h.distinct, ?_, hannounced⟩
    rintro _ ⟨⟩
    exact ⟨h.distinct.filter _, fun i hi => (List.mem_filter.mp hi).1⟩
  | removes device_id ids hstage =>
    rw [hstage] at hnative hfits
    refine ⟨?_, h.distinct, by rintro _ ⟨⟩; exact hfits, hannounced⟩
    have htake : Roster.take SDLJoystick.device_id s.mJoysticks (.remove device_id) =
        some (Roster.drop SDLJoystick.device_id device_id s.mJoysticks) := by
      rw [Roster.take, if_pos (hfits.2 device_id List.mem_cons_self)]
    exact replay_told hnative htake
  | drops device_id ids hstage =>
    rw [hstage] at hnative hfits
    obtain ⟨hnd, hin⟩ := hfits
    rw [List.nodup_cons] at hnd
    rw [List.append_nil] at hannounced ⊢
    refine ⟨hnative, (List.eraseP_sublist.map _).nodup h.distinct, ?_, ?_⟩
    · rintro _ ⟨⟩
      refine ⟨hnd.2, fun i hi => (mem_drop_iff h.distinct).mpr ⟨?_, ?_⟩⟩
      · exact hin i (List.mem_cons_of_mem _ hi)
      · rintro rfl
        exact hnd.1 hi
    · exact fun joystick hj => hannounced joystick (List.mem_of_mem_eraseP hj)
  | ends hstage =>
    rw [hstage] at hnative
    rw [List.append_nil] at hannounced ⊢
    exact ⟨hnative, h.distinct, by rintro _ ⟨⟩, hannounced⟩

lemma Tied.step (h : Tied tr s) (hquiet : ∀ ev ∈ s.motion, ev.change = none)
    (hstep : Stepped s s' es) : Tied (tr ++ es) s' := by
  have hannounced : ∀ joystick ∈ s.mJoysticks, Declared (tr ++ es) s' joystick.arguments :=
    fun joystick hj => (h.announced joystick hj).step hstep
  cases hstep with
  | starts deviceIds first second hnone =>
    have hnative := h.native
    simp only [Handler.known, hnone] at hnative
    rw [List.append_nil] at hannounced ⊢
    exact ⟨hnative, h.distinct, by rintro _ ⟨⟩; trivial, hannounced⟩
  | goesOn p hp => exact h.goOn hp (wentOn p s.mJoysticks) hannounced
  | moves deviceId isMove hmotion =>
    rw [List.append_nil] at hannounced ⊢
    exact ⟨h.native, h.distinct, h.fits, hannounced⟩
  | sends ev motion hmotion =>
    refine ⟨?_, h.distinct, h.fits, hannounced⟩
    have hev : changes [ev] = [] :=
      List.filterMap_eq_nil_iff.mpr (by simpa [hmotion] using hquiet ev (by simp [hmotion]))
    rw [changes_append, hev, List.append_nil]
    exact h.native

/-! ### Calls for motion events -/

/-- What holds of the calls that the motion event has still to make. -/
structure Sending (tr : List Event) (s : Handler) : Prop where
  declared : ∀ ev ∈ s.motion, ∃ args, About args ev ∧ Declared tr s args
  alone : s.overlapped = false → s.poll = none ∧
    ∀ ev ∈ s.motion, ∃ joystick ∈ s.mJoysticks, About joystick.arguments ev

lemma Sending.step (h : Sending tr s) (htied : Tied tr s) (hstep : Stepped s s' es) :
    Sending (tr ++ es) s' := by
  have hdeclared : ∀ ev ∈ s.motion, ∃ args, About args ev ∧ Declared (tr ++ es) s' args := by
    intro ev hev
    obtain ⟨args, habout, hargs⟩ := h.declared ev hev
    exact ⟨args, habout, hargs.step hstep⟩
  have hannounced : ∀ joystick ∈ s.mJoysticks, Declared (tr ++ es) s' joystick.arguments :=
    fun joystick hj => (htied.announced joystick hj).step hstep
  cases hstep with
  | starts deviceIds first second hnone => exact ⟨hdeclared, fun hover => by cases hover⟩
  | goesOn p hp =>
    refine ⟨hdeclared, fun hover => ?_⟩
    rw [(h.alone hover).1] at hp
    cases hp
  | moves deviceId isMove hmotion =>
    refine ⟨fun ev hev => ?_, fun hover => ⟨by simpa using hover, motion_about⟩⟩
    obtain ⟨joystick, hj, habout⟩ := motion_about ev hev
    exact ⟨_, habout, hannounced joystick hj⟩
  | sends ev motion hmotion =>
    have hleft : ∀ ev' ∈ motion, ev' ∈ s.motion := by
      intro ev' hev'
      rw [hmotion]
      exact List.mem_cons_of_mem _ hev'
    exact ⟨fun ev' hev' => hdeclared ev' (hleft ev' hev'),
      fun hover => ⟨(h.alone hover).1, fun ev' hev' => (h.alone hover).2 ev' (hleft ev' hev')⟩⟩

lemma Sending.quiet (h : Sending tr s) : ∀ ev ∈ s.motion, ev.change = none := by
  intro ev hev
  obtain ⟨args, habout, _⟩ := h.declared ev hev
  exact habout.quiet

theorem tied_of_run (h : polls.Run ok .initial tr s) : Tied tr s ∧ Sending tr s := by
  refine h.invariant (fun tr s => Tied tr s ∧ Sending tr s) ⟨?_, ?_⟩ ?_
  · exact ⟨rfl, by simp [Handler.initial], by rintro _ ⟨⟩, by simp [Handler.initial]⟩
  · exact ⟨by simp [Handler.initial], by simp [Handler.initial]⟩
  · rintro tr s a s' es _ ⟨htied, hsending⟩ _ hstep
    exact ⟨htied.step hsending.quiet (stepped hstep), hsending.step htied (stepped hstep)⟩

/-- Whatever motion events fall between, the polls are those of `joystickHandler`, the one in
progress counted as done. -/
theorem exists_run_of_run (h : polls.Run ok .initial tr s) :
    ∃ tr', joystickHandler.Run (fun _ _ => True) [] tr' s.rest.1 ∧
      changes tr' = changes (tr ++ s.rest.2) := by
  refine h.invariant (fun tr s => ∃ tr', joystickHandler.Run (fun _ _ => True) [] tr' s.rest.1 ∧
    changes tr' = changes (tr ++ s.rest.2)) ⟨[], .refl, rfl⟩ ?_
  rintro tr s a s' es hrun ⟨tr', hrun', htr'⟩ _ hstep
  have hquiet := (tied_of_run hrun).2.quiet
  cases stepped hstep with
  | starts deviceIds first second hnone =>
    have hrest : s.rest = (s.mJoysticks, []) := by simp [Handler.rest, hnone]
    rw [hrest] at hrun' htr'
    refine ⟨_, hrun'.step (a := .pollInputDevices deviceIds first second) trivial rfl, ?_⟩
    rw [changes_append, htr', changes_append, changes_append, List.append_nil]
    exact congrArg (· ++ _) (List.append_nil _)
  | goesOn p hp =>
    have hrest : s.rest = p.rest s.mJoysticks := by simp [Handler.rest, hp]
    rw [hrest, p.rest_goOn] at hrun' htr'
    refine ⟨tr', hrun', ?_⟩
    rw [htr', List.append_assoc]
    rfl
  | moves deviceId isMove hmotion =>
    refine ⟨tr', hrun', ?_⟩
    rw [htr', List.append_nil]
    rfl
  | sends ev motion hmotion =>
    refine ⟨tr', hrun', ?_⟩
    have hev : changes [ev] = [] :=
      List.filterMap_eq_nil_iff.mpr (by simpa using hquiet ev (by simp [hmotion]))
    rw [htr', changes_append, changes_append, changes_append, hev, List.append_nil]
    rfl

/-! ### Either side at any moment -/

lemma known_sublist (p : Poll) : (p.stage.known js).Sublist js := by
  obtain ⟨deviceIds, first, second, stage⟩ := p
  cases stage with
  | looking ids => exact .refl js
  | adding joystick ids => exact List.eraseP_sublist
  | removing ids => exact .refl js
  | removed device_id ids => exact List.eraseP_sublist

lemma length_known (p : Poll) : js.length ≤ (p.stage.known js).length + 1 := by
  have hdrop : ∀ i, js.length ≤ (Roster.drop SDLJoystick.device_id i js).length + 1 := by
    intro i
    have hle := List.le_length_eraseP (p := fun a => decide (SDLJoystick.device_id a = i)) (l := js)
    rw [Roster.drop]
    omega
  obtain ⟨deviceIds, first, second, stage⟩ := p
  cases stage with
  | looking ids => exact Nat.le_succ _
  | adding joystick ids => exact hdrop _
  | removing ids => exact Nat.le_succ _
  | removed device_id ids => exact hdrop _

/-- It is `onNativeJoy` or `onNativeHat`. -/
def isMotion : Event → Bool
  | .onNativeJoy _ _ _   => true
  | .onNativeHat _ _ _ _ => true
  | _                    => false

lemma WentOn.not_motion {js' : List SDLJoystick} {poll : Option Poll}
    (h : WentOn p js js' poll es) : ∀ ev ∈ es, isMotion ev = false := by
  cases h with
  | breaksOff device_id ids hstage => simp [isMotion]
  | declares joystick ids hstage => simp [isMotion]
  | removes device_id ids hstage => simp [isMotion]
  | _ => simp

/-- Whenever a poll and a motion event meet, the native side, going by the calls alone, never has a
device added twice or removed without having been added. It has the list of the handler, but for at
most one joystick that a poll in progress has added or not yet removed. Every call for a motion
event is about an axis or a hat of a joystick that was declared, or that the poll declares next; if
no poll has been in progress since the event came, the native side has that joystick. -/
theorem joysticks_in_step (h : polls.Run ok .initial tr s) :
    (∃ native, Roster.replay AddJoystick.device_id [] (changes tr) = some native ∧
      native.Sublist (s.mJoysticks.map SDLJoystick.arguments) ∧
      s.mJoysticks.length ≤ native.length + 1 ∧
      (s.poll = none → native = s.mJoysticks.map SDLJoystick.arguments)) ∧
    (s.mJoysticks.map SDLJoystick.device_id).Nodup ∧
    ∀ a s' es, polls.step s a = some (s', es) → ∀ ev ∈ es, isMotion ev →
      (∃ args, About args ev ∧ Declared tr s args) ∧
      (s.overlapped = false → ∃ native, Roster.replay AddJoystick.device_id [] (changes tr) =
        some native ∧ ∃ args ∈ native, About args ev) := by
  obtain ⟨htied, hsending⟩ := tied_of_run h
  refine ⟨⟨_, htied.native, ?_, ?_, ?_⟩, htied.distinct, ?_⟩
  · unfold Handler.known
    split
    · exact .refl _
    · exact (known_sublist _).map _
  · rw [List.length_map, Handler.known]
    split
    · exact Nat.le_succ _
    · exact length_known _
  · intro hnone
    simp [Handler.known, hnone]
  · intro a s' es hstep ev hev hmove
    cases stepped hstep with
    | starts deviceIds first second hnone => cases hev
    | goesOn p hp =>
      rw [(wentOn p s.mJoysticks).not_motion ev hev] at hmove
      cases hmove
    | moves deviceId isMove hmotion => cases hev
    | sends ev' motion hmotion =>
      have hmem : ev ∈ s.motion := by
        rw [hmotion, List.mem_singleton.mp hev]
        exact List.mem_cons_self
      refine ⟨hsending.declared ev hmem, fun hover => ?_⟩
      obtain ⟨hnone, hfound⟩ := hsending.alone hover
      obtain ⟨joystick, hj, habout⟩ := hfound ev hmem
      have hnative := htied.native
      simp only [Handler.known, hnone] at hnative
      exact ⟨_, hnative, _, List.mem_map_of_mem hj, habout⟩

/-- The pad is plugged in and moved while the poll that finds it is under way: its first axis is
sent before the native side has been told of it. Once the poll is over, a motion event is sent of a
pad that it knows. -/
theorem joysticks_in_step_pad :
    (∃ tr s s', polls.Run (fun _ _ => True) .initial tr s ∧
      polls.step s .send = some (s', [.onNativeJoy 7 0 0]) ∧ changes tr = [] ∧
      ∃ args, About args (.onNativeJoy 7 0 0) ∧ Declared tr s args) ∧
    ∃ tr s s', polls.Run (fun _ _ => True) .initial tr s ∧
      polls.step s .send = some (s', [.onNativeJoy 7 0 0]) ∧
      ∃ native, Roster.replay AddJoystick.device_id [] (changes tr) = some native ∧
        ∃ args ∈ native, About args (.onNativeJoy 7 0 0) := by
  constructor
  · obtain ⟨tr, s, hrun, hsend, hnone⟩ := Machine.Run.exists_of_exec polls (fun _ _ => True)
      .initial [.pollInputDevices [7] (fun _ => some pad) (fun _ => some pad), .goOn,
        .handleMotionEvent 7 true]
      (fun s tr => s.motion.head? = some (.onNativeJoy 7 0 0) ∧ changes tr = []) (by decide)
    obtain ⟨motion, hmotion⟩ := List.head?_eq_some_iff.mp hsend
    have hstep : polls.step s .send = some ({ s with motion := motion }, [.onNativeJoy 7 0 0]) := by
      simp [polls, step, hmotion]
    have hsent := (joysticks_in_step hrun).2.2 _ _ _ hstep _ List.mem_cons_self rfl
    exact ⟨tr, s, _, hrun, hstep, hnone, hsent.1⟩
  · obtain ⟨tr, s, hrun, hsend, hover⟩ := Machine.Run.exists_of_exec polls (fun _ _ => True)
      .initial [.pollInputDevices [7] (fun _ => some pad) (fun _ => some pad), .goOn, .goOn, .goOn,
        .goOn, .handleMotionEvent 7 true]
      (fun s tr => s.motion.head? = some (.onNativeJoy 7 0 0) ∧ s.overlapped = false) (by decide)
    obtain ⟨motion, hmotion⟩ := List.head?_eq_some_iff.mp hsend
    have hstep : polls.step s .send = some ({ s with motion := motion }, [.onNativeJoy 7 0 0]) := by
      simp [polls, step, hmotion]
    have hsent := (joysticks_in_step hrun).2.2 _ _ _ hstep _ List.mem_cons_self rfl
    exact ⟨tr, s, _, hrun, hstep, hsent.2 hover⟩

end AndroidMkxp.Input.Polls
