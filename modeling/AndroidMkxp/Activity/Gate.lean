import AndroidMkxp.Activity.Threads

/-!
# When the game runs

Whatever the order of the callbacks, no resume is lost: once the activity is resumed, its window
has the focus and its surface is ready, the native layer runs. The other way round, the native
layer of a device without windows side by side runs only then, as long as no size of the surface is
skipped: `surfaceChanged` takes the surface for not ready without pausing the native layer.

The native surface itself is there as long as a game runs on it, skipped sizes or not.
-/

namespace AndroidMkxp.Lifecycle

open Foundation

variable {mHasMultiWindow : Bool} {s s' : State} {tr es : List Event}

/-- No size of the surface is skipped. -/
def KeepsSize (mHasMultiWindow : Bool) (_ : State) : Action → Prop
  | .call (.surfaceChanged requestedOrientation width height isInMultiWindowMode) =>
    State.skips mHasMultiWindow requestedOrientation width height isInMultiWindowMode = false
  | _ => True

instance (s : State) (a : Action) : Decidable (KeepsSize mHasMultiWindow s a) := by
  cases a with
  | call callback => cases callback <;> (unfold KeepsSize; infer_instance)
  | _ => exact isTrue trivial

/-- The native layer runs only on a surface that is ready. -/
def OnSurface (s : State) : Prop := s.mCurrentNativeState = .resumed → s.ready = true

lemma Handles.onSurface (h : Handles s s' es) (hs : OnSurface s) : OnSurface s' := by
  intro hcurrent
  obtain ⟨-, -, hready, -⟩ := h.conditions
  rw [hready]
  cases h with
  | same | blocked => exact hs hcurrent
  | pause => cases hcurrent
  | start _ hopen | resume _ hopen =>
    simp only [State.isOpen, Bool.and_eq_true] at hopen
    exact hopen.1.1

lemma Reaction.onSurface {callback : Callback} (h : Reaction mHasMultiWindow s callback s' es)
    (hok : KeepsSize mHasMultiWindow s (.call callback)) (hs : OnSurface s) : OnSurface s' := by
  cases h with
  | quiet | finish | keepsRunning => exact hs
  | pauseNativeThread h | resumeNativeThread h | gainsFocus h | losesFocus _ h =>
    exact h.onSurface hs
  | skip _ hskip =>
    rw [KeepsSize, hskip] at hok
    cases hok
  | surfaceReady _ h => exact h.onSurface fun _ => rfl
  | surfaceLost h =>
    intro hcurrent
    rw [show _ = NativeState.paused from h.paused rfl] at hcurrent
    cases hcurrent

lemma Step.onSurface {a : Action} (h : Step mHasMultiWindow s a s' es)
    (hok : KeepsSize mHasMultiWindow s a) (hs : OnSurface s) : OnSurface s' := by
  cases h with
  | create | createBroken => exact fun hcurrent => by cases hcurrent
  | broken _ hs' =>
    intro hcurrent
    rw [show s'.mCurrentNativeState = .init from congrArg Core.current hs'.core_eq] at hcurrent
    cases hcurrent
  | call _ _ h => exact h.onSurface hok hs
  | onDestroy | join | quit | joined | mainReturns | checksFinishing | clearsThread | finishes =>
    exact hs

lemma onSurface_of_run
    (h : (machine mHasMultiWindow).Run (KeepsSize mHasMultiWindow) launched tr s) :
    OnSurface s :=
  invariant_of_run (fun _ s => OnSurface s) (fun hcurrent => by cases hcurrent)
    (fun hs hok h => h.onSurface hok hs) h

/-- In every order of the callbacks, the game runs as soon as the three conditions are met, it does
not run before `onResume` (with windows side by side, `onStart`), and the accelerometer is listened
to exactly while it runs. -/
theorem nativeState_follows_conditions
    (h : (machine mHasMultiWindow).Run (fun _ _ => True) launched tr s) :
    (s.isOpen = true → s.mCurrentNativeState = .resumed) ∧
      (s.mCurrentNativeState = .resumed →
        s.mIsResumedCalled = true ∧ (mHasMultiWindow = false → s.mHasFocus = true)) ∧
      (s.listening = true ↔ s.mCurrentNativeState = .resumed) := by
  have hs := gated_of_run h
  exact ⟨hs.open_resumed, fun hcurrent => ⟨hs.called hcurrent, hs.focused hcurrent⟩, hs.listening⟩

theorem nativeState_follows_conditions_foreground :
    ∃ tr s, (machine true).Run (fun _ _ => True) launched tr s ∧ s.isOpen = true ∧
      s.mCurrentNativeState = .resumed := by
  obtain ⟨tr, s, h, hopen⟩ := Machine.Run.exists_of_exec (machine true) (fun _ _ => True) launched
    foreground (fun s _ => s.isOpen = true) (by decide)
  exact ⟨tr, s, h, hopen, (nativeState_follows_conditions h).1 hopen⟩

/-- Where no size is skipped, the game runs only on a surface that is ready, and without windows
side by side it runs exactly while the three conditions are met. -/
theorem resumed_iff_isOpen
    (h : (machine mHasMultiWindow).Run (KeepsSize mHasMultiWindow) launched tr s) :
    (s.mCurrentNativeState = .resumed → s.ready = true) ∧
      (mHasMultiWindow = false →
        (s.mCurrentNativeState = .resumed ↔ s.isOpen = true)) := by
  have hs := gated_of_run h
  have hready := onSurface_of_run h
  refine ⟨hready, fun hsingle => ⟨fun hcurrent => ?_, hs.open_resumed⟩⟩
  rw [State.isOpen, hready hcurrent, hs.focused hcurrent hsingle, hs.called hcurrent]
  rfl

/-- With windows side by side, and without. -/
theorem resumed_iff_isOpen_foreground :
    (∃ tr s, (machine true).Run (KeepsSize true) launched tr s ∧
      s.mCurrentNativeState = .resumed ∧ s.ready = true) ∧
    ∃ tr s, (machine false).Run (KeepsSize false) launched tr s ∧
      s.mCurrentNativeState = .resumed ∧ s.isOpen = true := by
  constructor
  · obtain ⟨tr, s, h, hcurrent⟩ := Machine.Run.exists_of_exec (machine true) (KeepsSize true)
      launched foreground (fun s _ => s.mCurrentNativeState = .resumed) (by decide)
    exact ⟨tr, s, h, hcurrent, (resumed_iff_isOpen h).1 hcurrent⟩
  · obtain ⟨tr, s, h, hcurrent⟩ := Machine.Run.exists_of_exec (machine false) (KeepsSize false)
      launched foreground (fun s _ => s.mCurrentNativeState = .resumed) (by decide)
    exact ⟨tr, s, h, hcurrent, ((resumed_iff_isOpen h).2 rfl).mp hcurrent⟩

/-! ### The surface -/

def Event.surfaceLevel : Event → Option Bool
  | .onNativeSurfaceChanged   => some true
  | .onNativeSurfaceDestroyed => some false
  | _                         => none

/-- The native surface has been set up and not been destroyed since. -/
def SurfaceUp (tr : List Event) : Prop := (tr.filterMap Event.surfaceLevel).getLast? = some true

/-- The surface is taken away only from a game that is paused or has returned, and a game is
started or resumed only on a surface that is there. -/
def SurfaceSafe (past : List Event) : Event → Prop
  | .onNativeSurfaceDestroyed => ∀ thread ∈ active past, .mainReturned thread ∈ past
  | .start _ | .nativeResume _ => SurfaceUp past
  | _ => True

lemma surfaceUp_append (hes : es.filterMap Event.surfaceLevel = []) :
    SurfaceUp (tr ++ es) ↔ SurfaceUp tr := by
  rw [SurfaceUp, List.filterMap_append, hes, List.append_nil]
  rfl

lemma surfaceUp_changed : SurfaceUp (tr ++ [.onNativeSurfaceChanged]) := by
  rw [SurfaceUp, List.filterMap_append]
  exact List.getLast?_concat

lemma Handles.surfaceLevel (h : Handles s s' es) : es.filterMap Event.surfaceLevel = [] := by
  cases h with
  | same | blocked | start | resume => rfl
  | pause =>
    rw [State.nativePause]
    split <;> rfl

lemma Handles.surfaceSafe (h : Handles s s' es) (hup : s.ready = true → SurfaceUp tr) :
    Justified SurfaceSafe tr es := by
  cases h with
  | same | blocked => trivial
  | pause =>
    rw [State.nativePause]
    split <;> simp [SurfaceSafe]
  | start _ hopen =>
    simp only [State.isOpen, Bool.and_eq_true] at hopen
    exact ⟨trivial, (surfaceUp_append rfl).mpr (hup hopen.1.1), trivial, trivial⟩
  | resume _ hopen =>
    simp only [State.isOpen, Bool.and_eq_true] at hopen
    exact ⟨hup hopen.1.1, trivial, trivial⟩

/-- A paused activity holds no active game. -/
lemma Accounts.returned_of_paused {c : Core} (ha : Accounts tr c) (hcurrent : c.current = .paused) :
    ∀ t ∈ active tr, .mainReturned t ∈ tr := by
  intro t ht
  refine ha.stale t ht fun hheld => ?_
  have hresumed := (ha.held t hheld).mp ht
  rw [hcurrent] at hresumed
  cases hresumed

/-- What the trace knows about the surface. -/
structure Surfaced (tr : List Event) (s : State) : Prop where
  owned : Owned s.core
  accounts : Accounts (tr.filter Event.switches) s.core
  up : s.ready = true → SurfaceUp tr

lemma Reaction.surfaceSafe {callback : Callback} (h : Reaction mHasMultiWindow s callback s' es)
    (hs : Surfaced tr s) : Justified SurfaceSafe tr es := by
  cases h with
  | quiet hes =>
    refine justified_of_forall fun e he past => ?_
    rcases hes e he with rfl | rfl <;> trivial
  | finish hes =>
    refine justified_of_forall fun e he past => ?_
    rw [hes e he]
    trivial
  | pauseNativeThread h | resumeNativeThread h => exact h.surfaceSafe hs.up
  | gainsFocus h =>
    exact justified_append.mpr ⟨h.surfaceSafe hs.up, trivial, trivial, trivial⟩
  | losesFocus _ h =>
    refine ⟨trivial, h.surfaceSafe fun hready => ?_⟩
    exact (surfaceUp_append rfl).mpr (hs.up hready)
  | keepsRunning => exact ⟨trivial, trivial⟩
  | skip => exact ⟨trivial, trivial, trivial⟩
  | surfaceReady _ h =>
    exact ⟨trivial, trivial, trivial, h.surfaceSafe fun _ => surfaceUp_changed⟩
  | surfaceLost h =>
    refine justified_append.mpr ⟨h.surfaceSafe hs.up, ?_, trivial⟩
    -- At the call, the pause has gone through: look at the accounts after it.
    have ha := h.switch.accounts hs.owned hs.accounts
    rw [← List.filter_append] at ha
    have hreturned := ha.returned_of_paused (h.paused rfl)
    rw [active_filter] at hreturned
    exact fun t ht => List.mem_of_mem_filter (hreturned t ht)

lemma Reaction.surfaceUp {callback : Callback} (h : Reaction mHasMultiWindow s callback s' es)
    (hs : s.ready = true → SurfaceUp tr) (hready : s'.ready = true) : SurfaceUp (tr ++ es) := by
  cases h with
  | quiet hes =>
    refine (surfaceUp_append (List.filterMap_eq_nil_iff.mpr fun e he => ?_)).mpr (hs hready)
    rcases hes e he with rfl | rfl <;> rfl
  | finish hes =>
    refine (surfaceUp_append (List.filterMap_eq_nil_iff.mpr fun e he => ?_)).mpr (hs hready)
    rw [hes e he]
    rfl
  | pauseNativeThread h | resumeNativeThread h =>
    rw [h.conditions.2.2.1] at hready
    exact (surfaceUp_append h.surfaceLevel).mpr (hs hready)
  | gainsFocus h =>
    rw [h.conditions.2.2.1] at hready
    refine (surfaceUp_append ?_).mpr (hs hready)
    rw [List.filterMap_append, h.surfaceLevel]
    rfl
  | losesFocus _ h =>
    rw [h.conditions.2.2.1] at hready
    refine (surfaceUp_append ?_).mpr (hs hready)
    exact h.surfaceLevel
  | keepsRunning => exact (surfaceUp_append rfl).mpr (hs hready)
  | skip => cases hready
  | surfaceReady _ h =>
    rw [List.append_cons, List.append_cons, List.append_cons]
    exact (surfaceUp_append h.surfaceLevel).mpr surfaceUp_changed
  | surfaceLost h => simp [State.ready, Option.any_map] at hready

lemma Step.surfaced {a : Action} (h : Step mHasMultiWindow s a s' es) (hs : Surfaced tr s) :
    Surfaced (tr ++ es) s' := by
  refine ⟨h.core.owned hs.owned, ?_, ?_⟩
  · rw [List.filter_append]
    exact h.core.accounts hs.owned hs.accounts
  · intro hready
    cases h with
    | create | createBroken => cases hready
    | broken _ hs' => simp [State.ready, hs'.surface] at hready
    | call _ _ h => exact h.surfaceUp hs.up hready
    | onDestroy | join | quit | joined | mainReturns | checksFinishing | clearsThread | finishes =>
      exact (surfaceUp_append rfl).mpr (hs.up hready)

lemma Step.surfaceSafe {a : Action} (h : Step mHasMultiWindow s a s' es) (hs : Surfaced tr s) :
    Justified SurfaceSafe tr es := by
  cases h with
  | broken _ _ _ hes =>
    refine justified_of_forall fun e he past => ?_
    rcases hes e he with rfl | rfl | rfl <;> trivial
  | call _ _ h => exact h.surfaceSafe hs
  | create | createBroken | onDestroy | join | quit | joined | mainReturns | checksFinishing
  | clearsThread | finishes => simp [SurfaceSafe]

lemma surfaced_of_run {ok : State → Action → Prop}
    (h : (machine mHasMultiWindow).Run ok launched tr s) : Surfaced tr s := by
  refine invariant_of_run (fun tr s => Surfaced tr s) ?_ (fun hs _ hstep => hstep.surfaced hs) h
  obtain ⟨hc, ha⟩ := accounts_of_run (.refl : (machine mHasMultiWindow).Run ok launched _ _)
  exact ⟨hc, ha, fun hready => by cases hready⟩

/-- In every order of the callbacks, and whatever the game does meanwhile, the native surface is
never destroyed under a game that runs, and no game is started or resumed without one. -/
theorem surface_outlives_game
    (h : (machine mHasMultiWindow).Run (fun _ _ => True) launched tr s) :
    Justified SurfaceSafe [] tr :=
  h.justified fun hrun _ hstep =>
    (Step.of_step (stage_of_run hrun) hstep).surfaceSafe (surfaced_of_run hrun)

theorem surface_outlives_game_foreground : ∃ tr s,
    (machine true).Run (fun _ _ => True) launched tr s ∧
      [.nativePause 0, .onNativeSurfaceDestroyed, .onNativeSurfaceChanged,
        .nativeResume 0].Sublist tr ∧ Justified SurfaceSafe [] tr := by
  obtain ⟨tr, s, h, hsub⟩ := Machine.Run.exists_of_exec (machine true) (fun _ _ => True) launched
    (foreground ++ [.call .surfaceDestroyed, .call .surfaceCreated,
      .call (.surfaceChanged .SENSOR_LANDSCAPE 1920 1080 false)])
    (fun _ tr => [.nativePause 0, .onNativeSurfaceDestroyed, .onNativeSurfaceChanged,
      .nativeResume 0].Sublist tr) (by decide)
  exact ⟨tr, s, h, hsub, surface_outlives_game h⟩

end AndroidMkxp.Lifecycle
