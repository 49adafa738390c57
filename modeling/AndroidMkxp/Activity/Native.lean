import AndroidMkxp.Activity.Lifecycle
import AndroidMkxp.Foundation.History
import AndroidMkxp.Foundation.Signals

/-!
# The native layer under the activity

What the callbacks do to the native layer, whatever their order: a callback keeps it as it is,
pauses it, starts the game or resumes it (`Switch`), and nothing else. The native layer runs while
the activity is resumed, its window has the focus and its surface is ready.
-/

namespace AndroidMkxp.Lifecycle

open Foundation

variable {mHasMultiWindow : Bool} {s s' : State} {surface : SDLSurface} {tr es : List Event}
  {t : ℕ}

namespace State

def ready (s : State) : Bool := s.mSurface.any (·.mIsSurfaceReady)

def listening (s : State) : Bool := s.mSurface.any (·.listening)

/-- What the native layer waits for. -/
def isOpen (s : State) : Bool := s.ready && s.mHasFocus && s.mIsResumedCalled

end State

/-- The libraries are there, and so is the surface. -/
structure Loaded (s : State) : Prop where
  unbroken : s.mBrokenLibraries = false
  surface : ∃ surface, s.mSurface = some surface
  ui : s.ui ≠ .launching

/-! ### Transitions of the native layer -/

namespace State

lemma ready_of_surface (h : s.mSurface = some surface) : s.ready = surface.mIsSurfaceReady := by
  simp [ready, h]

lemma listening_of_surface (h : s.mSurface = some surface) : s.listening = surface.listening := by
  simp [listening, h]

end State

/-- The transitions that `handleNativeState` makes where there is a surface. -/
inductive Handles (s : State) : State → List Event → Prop where
  | same (h : s.mNextNativeState = s.mCurrentNativeState) : Handles s s []
  | pause {surface : SDLSurface} (hnext : s.mNextNativeState = .paused)
      (hcurrent : s.mCurrentNativeState ≠ .paused) (hsurface : s.mSurface = some surface) :
      Handles s
        { s with
          mSurface := some { surface with listening := false }
          mCurrentNativeState := .paused }
        (s.nativePause ++ [.enableSensor false])
  | blocked (hnext : s.mNextNativeState = .resumed) (hopen : s.isOpen = false) : Handles s s []
  | start {surface : SDLSurface} (hnext : s.mNextNativeState = .resumed) (hopen : s.isOpen = true)
      (hcurrent : s.mCurrentNativeState ≠ .resumed) (hsurface : s.mSurface = some surface)
      (hthread : s.mSDLThread = none) :
      Handles s
        { s with
          mSurface := some { surface with listening := true }
          mCurrentNativeState := .resumed
          mSDLThread := some s.threads.length
          threads := s.threads ++ [.running] }
        [.enableSensor true, .start s.threads.length, .enableSensor true]
  | resume {surface : SDLSurface} {t : ℕ} (hnext : s.mNextNativeState = .resumed)
      (hopen : s.isOpen = true) (hcurrent : s.mCurrentNativeState ≠ .resumed)
      (hsurface : s.mSurface = some surface) (hthread : s.mSDLThread = some t) :
      Handles s
        { s with
          mSurface := some { surface with listening := true }
          mCurrentNativeState := .resumed }
        [.nativeResume t, .enableSensor true]

theorem handles (hsurface : s.mSurface = some surface) (hinit : s.mNextNativeState ≠ .init) :
    Handles s s.handleNativeState.1 s.handleNativeState.2 := by
  by_cases hsame : s.mNextNativeState = s.mCurrentNativeState
  · simpa [State.handleNativeState, hsame] using Handles.same hsame
  · cases hnext : s.mNextNativeState with
    | init => exact absurd hnext hinit
    | paused =>
      have hcurrent : s.mCurrentNativeState ≠ .paused := fun h => hsame (hnext.trans h.symm)
      have h := Handles.pause hnext hcurrent hsurface
      simpa [State.handleNativeState, hnext, hcurrent.symm, State.handlePause, hsurface] using h
    | resumed =>
      have hcurrent : s.mCurrentNativeState ≠ .resumed := fun h => hsame (hnext.trans h.symm)
      have hcond : s.isOpen = (surface.mIsSurfaceReady && s.mHasFocus && s.mIsResumedCalled) := by
        rw [State.isOpen, State.ready_of_surface hsurface]
      cases hopen : s.isOpen with
      | false =>
        have h := Handles.blocked hnext hopen
        simpa [State.handleNativeState, hnext, hcurrent.symm, hsurface, ← hcond, hopen] using h
      | true =>
        cases hthread : s.mSDLThread with
        | none =>
          have h := Handles.start hnext hopen hcurrent hsurface hthread
          simpa [State.handleNativeState, hnext, hcurrent.symm, hsurface, hthread, ← hcond, hopen]
            using h
        | some t =>
          have h := Handles.resume hnext hopen hcurrent hsurface hthread
          simpa [State.handleNativeState, hnext, hcurrent.symm, hsurface, hthread, ← hcond, hopen]
            using h

/-! ### The native layer by itself -/

/-- What the callbacks leave of the state once the conditions of the activity are forgotten. -/
structure Core where
  current : NativeState
  listening : Bool
  thread : Option ℕ
  threads : List SDLMain

def State.core (s : State) : Core where
  current := s.mCurrentNativeState
  listening := s.listening
  thread := s.mSDLThread
  threads := s.threads

/-- The calls that start, pause and resume a game, and its end. -/
def Event.switches : Event → Bool
  | .start _ | .nativePause _ | .nativeResume _ | .mainReturned _ => true
  | _ => false

/-- What a callback can do to the native layer, and the calls with which it does. -/
inductive Switch (c : Core) : Core → List Event → Prop where
  | keep : Switch c c []
  | pause (hcurrent : c.current ≠ .paused) :
      Switch c { c with current := .paused, listening := false }
        (c.thread.toList.map Event.nativePause)
  | start (hcurrent : c.current ≠ .resumed) (hthread : c.thread = none) :
      Switch c ⟨.resumed, true, some c.threads.length, c.threads ++ [.running]⟩
        [.start c.threads.length]
  | resume {t : ℕ} (hcurrent : c.current ≠ .resumed) (hthread : c.thread = some t) :
      Switch c { c with current := .resumed, listening := true } [.nativeResume t]

lemma nativePause_switches : (s.nativePause ++ [Event.enableSensor false]).filter Event.switches =
    s.core.thread.toList.map Event.nativePause := by
  cases hthread : s.mSDLThread with
  | none => simp [State.nativePause, State.core, hthread, Event.switches]
  | some t =>
    simp only [State.nativePause, State.core, hthread]
    rfl

lemma Handles.switch (h : Handles s s' es) : Switch s.core s'.core (es.filter Event.switches) := by
  cases h with
  | same => exact .keep
  | blocked => exact .keep
  | pause hnext hcurrent hsurface =>
    rw [nativePause_switches]
    exact .pause hcurrent
  | start hnext hopen hcurrent hsurface hthread => exact .start hcurrent hthread
  | resume hnext hopen hcurrent hsurface hthread => exact .resume hcurrent hthread

lemma Handles.loaded (h : Handles s s' es) (hs : Loaded s) : Loaded s' := by
  cases h with
  | same | blocked => exact hs
  | pause | start | resume => exact ⟨hs.unbroken, ⟨_, rfl⟩, hs.ui⟩

/-- The conditions of the activity are not touched. -/
lemma Handles.conditions (h : Handles s s' es) : s'.mHasFocus = s.mHasFocus ∧
    s'.mIsResumedCalled = s.mIsResumedCalled ∧ s'.ready = s.ready ∧ s'.ui = s.ui := by
  cases h with
  | same | blocked => exact ⟨rfl, rfl, rfl, rfl⟩
  | pause _ _ hsurface =>
    exact ⟨rfl, rfl, (State.ready_of_surface hsurface).symm ▸ rfl, rfl⟩
  | start _ _ _ hsurface =>
    exact ⟨rfl, rfl, (State.ready_of_surface hsurface).symm ▸ rfl, rfl⟩
  | resume _ _ _ hsurface =>
    exact ⟨rfl, rfl, (State.ready_of_surface hsurface).symm ▸ rfl, rfl⟩

lemma Handles.isOpen_eq (h : Handles s s' es) : s'.isOpen = s.isOpen := by
  obtain ⟨hfocus, hcalled, hready, -⟩ := h.conditions
  simp [State.isOpen, hfocus, hcalled, hready]

/-- On the way to the paused state, the native layer gets there. -/
lemma Handles.paused (h : Handles s s' es) (hnext : s.mNextNativeState = .paused) :
    s'.mCurrentNativeState = .paused := by
  cases h with
  | same hsame => exact hsame.symm.trans hnext
  | pause => rfl
  | blocked hnext' | start hnext' | resume hnext' =>
    rw [hnext] at hnext'
    cases hnext'

lemma Handles.listening (h : Handles s s' es)
    (hlistening : s.listening = true ↔ s.mCurrentNativeState = .resumed) :
    s'.listening = true ↔ s'.mCurrentNativeState = .resumed := by
  cases h with
  | same | blocked => exact hlistening
  | pause | start | resume => simp [State.listening]

/-- On the way to the resumed state, the native layer gets there where it is open. -/
lemma Handles.resumed (h : Handles s s' es) (hnext : s.mNextNativeState = .resumed) :
    (s.isOpen = true → s'.mCurrentNativeState = .resumed) ∧
      (s'.mCurrentNativeState = .resumed → s.mCurrentNativeState = .resumed ∨ s.isOpen = true) := by
  cases h with
  | same hsame => exact ⟨fun _ => hsame.symm.trans hnext, Or.inl⟩
  | pause hnext' =>
    rw [hnext] at hnext'
    cases hnext'
  | blocked _ hopen => exact ⟨fun h => by simp [hopen] at h, Or.inl⟩
  | start _ hopen | resume _ hopen => exact ⟨fun _ => rfl, fun _ => Or.inr hopen⟩

/-! ### Callbacks -/

/-- What a callback does where the libraries and the surface are there. -/
inductive Reaction (mHasMultiWindow : Bool) (s : State) :
    Callback → State → List Event → Prop where
  | quiet {callback : Callback} {es : List Event}
      (hes : ∀ e ∈ es, e = .onNativeSurfaceCreated ∨ e = .nativeGetHintBoolean) :
      Reaction mHasMultiWindow s callback s es
  | finish {callback : Callback} {es : List Event} (hes : ∀ e ∈ es, e = .nativeGetHintBoolean) :
      Reaction mHasMultiWindow s callback { s with isFinishing := true } es
  | pauseNativeThread {callback : Callback} {s' : State} {es : List Event}
      (h : Handles { s with mNextNativeState := .paused, mIsResumedCalled := false } s' es) :
      Reaction mHasMultiWindow s callback s' es
  | resumeNativeThread {callback : Callback} {s' : State} {es : List Event}
      (h : Handles { s with mNextNativeState := .resumed, mIsResumedCalled := true } s' es) :
      Reaction mHasMultiWindow s callback s' es
  | gainsFocus {s' : State} {es : List Event}
      (h : Handles { s with mHasFocus := true, mNextNativeState := .resumed } s' es) :
      Reaction mHasMultiWindow s (.onWindowFocusChanged true) s'
        (es ++ [.nativeFocusChanged true, .setSystemUiVisibility])
  | losesFocus {s' : State} {es : List Event} (hmulti : mHasMultiWindow = false)
      (h : Handles { s with mHasFocus := false, mNextNativeState := .paused } s' es) :
      Reaction mHasMultiWindow s (.onWindowFocusChanged false) s' (.nativeFocusChanged false :: es)
  | keepsRunning (hmulti : mHasMultiWindow = true) :
      Reaction mHasMultiWindow s (.onWindowFocusChanged false) { s with mHasFocus := false }
        [.nativeFocusChanged false]
  | skip {requestedOrientation : Orientation} {width height : ℕ} {isInMultiWindowMode : Bool}
      {surface : SDLSurface} (hsurface : s.mSurface = some surface)
      (hskip : State.skips mHasMultiWindow requestedOrientation width height isInMultiWindowMode) :
      Reaction mHasMultiWindow s
        (.surfaceChanged requestedOrientation width height isInMultiWindowMode)
        { s with mSurface := some { surface with mIsSurfaceReady := false } }
        [.nativeSetScreenResolution width height, .onNativeResize]
  | surfaceReady {requestedOrientation : Orientation} {width height : ℕ}
      {isInMultiWindowMode : Bool} {surface : SDLSurface} {s' : State} {es : List Event}
      (hsurface : s.mSurface = some surface)
      (h : Handles
        { s with
          mSurface := some { surface with mIsSurfaceReady := true }
          mNextNativeState := .resumed } s' es) :
      Reaction mHasMultiWindow s
        (.surfaceChanged requestedOrientation width height isInMultiWindowMode) s'
        (.nativeSetScreenResolution width height :: .onNativeResize :: .onNativeSurfaceChanged ::
          es)
  | surfaceLost {s' : State} {es : List Event}
      (h : Handles { s with mNextNativeState := .paused } s' es) :
      Reaction mHasMultiWindow s .surfaceDestroyed
        { s' with mSurface := s'.mSurface.map fun surface =>
          { surface with mIsSurfaceReady := false } }
        (es ++ [.onNativeSurfaceDestroyed])

lemma reaction_pauseNativeThread (hs : Loaded s) {callback : Callback} :
    Reaction mHasMultiWindow s callback s.pauseNativeThread.1 s.pauseNativeThread.2 := by
  obtain ⟨surface, hsurface⟩ := hs.surface
  rw [State.pauseNativeThread, if_neg (by simp [hs.unbroken])]
  exact .pauseNativeThread (handles hsurface (by simp))

lemma reaction_resumeNativeThread (hs : Loaded s) {callback : Callback} :
    Reaction mHasMultiWindow s callback s.resumeNativeThread.1 s.resumeNativeThread.2 := by
  obtain ⟨surface, hsurface⟩ := hs.surface
  rw [State.resumeNativeThread, if_neg (by simp [hs.unbroken])]
  exact .resumeNativeThread (handles hsurface (by simp))

lemma reaction_onWindowFocusChanged (hs : Loaded s) (hasFocus : Bool) :
    Reaction mHasMultiWindow s (.onWindowFocusChanged hasFocus)
      (s.onWindowFocusChanged mHasMultiWindow hasFocus).1
      (s.onWindowFocusChanged mHasMultiWindow hasFocus).2 := by
  obtain ⟨surface, hsurface⟩ := hs.surface
  rw [State.onWindowFocusChanged, if_neg (by simp [hs.unbroken])]
  cases hasFocus with
  | true => exact .gainsFocus (handles hsurface (by simp))
  | false =>
    cases mHasMultiWindow with
    | true => exact .keepsRunning rfl
    | false => simpa using Reaction.losesFocus rfl (handles hsurface (by simp))

lemma eq_of_some {r : State × List Event} (h : some r = some (s', es)) : r.1 = s' ∧ r.2 = es :=
  Prod.ext_iff.mp (Option.some.inj h)

/-- Inversion of a callback. -/
theorem reaction_of_callback (hs : Loaded s) {callback : Callback}
    (h : s.callback mHasMultiWindow callback = some (s', es)) :
    Reaction mHasMultiWindow s callback s' es := by
  obtain ⟨surface, hsurface⟩ := hs.surface
  cases callback with
  | onStart =>
    obtain ⟨rfl, rfl⟩ := eq_of_some h
    cases mHasMultiWindow with
    | true => exact reaction_resumeNativeThread hs
    | false => exact .quiet (by simp [State.onStart])
  | onResume =>
    obtain ⟨rfl, rfl⟩ := eq_of_some h
    cases mHasMultiWindow with
    | true => exact .quiet (by simp [State.onResume])
    | false => exact reaction_resumeNativeThread hs
  | onPause =>
    obtain ⟨rfl, rfl⟩ := eq_of_some h
    cases mHasMultiWindow with
    | true => exact .quiet (by simp [State.onPause])
    | false => exact reaction_pauseNativeThread hs
  | onStop =>
    obtain ⟨rfl, rfl⟩ := eq_of_some h
    cases mHasMultiWindow with
    | true => exact reaction_pauseNativeThread hs
    | false => exact .quiet (by simp [State.onStop])
  | onWindowFocusChanged hasFocus =>
    obtain ⟨rfl, rfl⟩ := eq_of_some h
    exact reaction_onWindowFocusChanged hs hasFocus
  | onBackPressed trapBack =>
    obtain ⟨rfl, rfl⟩ := eq_of_some h
    cases trapBack with
    | true => exact .quiet (by simp [State.onBackPressed])
    | false => exact .finish (by simp [State.onBackPressed])
  | backButton =>
    obtain ⟨rfl, rfl⟩ := eq_of_some h
    exact .finish (by simp)
  | surfaceCreated =>
    rw [State.callback, hsurface] at h
    obtain ⟨rfl, rfl⟩ := eq_of_some h
    exact .quiet (by simp)
  | surfaceChanged requestedOrientation width height isInMultiWindowMode =>
    rw [State.callback, hsurface] at h
    obtain ⟨rfl, rfl⟩ := eq_of_some h
    cases hskip :
        State.skips mHasMultiWindow requestedOrientation width height isInMultiWindowMode with
    | true => exact .skip hsurface hskip
    | false => exact .surfaceReady hsurface (handles rfl (by simp))
  | surfaceDestroyed =>
    rw [State.callback, hsurface] at h
    obtain ⟨rfl, rfl⟩ := eq_of_some h
    exact .surfaceLost (handles hsurface (by simp))

namespace Reaction

variable {callback : Callback}

lemma loaded (h : Reaction mHasMultiWindow s callback s' es) (hs : Loaded s) : Loaded s' := by
  cases h with
  | quiet | finish | keepsRunning => exact ⟨hs.unbroken, hs.surface, hs.ui⟩
  | pauseNativeThread h | resumeNativeThread h | gainsFocus h | losesFocus _ h =>
    exact h.loaded ⟨hs.unbroken, hs.surface, hs.ui⟩
  | skip => exact ⟨hs.unbroken, ⟨_, rfl⟩, hs.ui⟩
  | surfaceReady _ h => exact h.loaded ⟨hs.unbroken, ⟨_, rfl⟩, hs.ui⟩
  | surfaceLost h =>
    obtain ⟨hunbroken, ⟨surface, hsurface⟩, hui⟩ := h.loaded ⟨hs.unbroken, hs.surface, hs.ui⟩
    exact ⟨hunbroken, ⟨{ surface with mIsSurfaceReady := false }, by simp [hsurface]⟩, hui⟩

lemma ui_eq (h : Reaction mHasMultiWindow s callback s' es) : s'.ui = s.ui := by
  cases h with
  | quiet | finish | keepsRunning | skip => rfl
  | pauseNativeThread h | resumeNativeThread h | gainsFocus h | losesFocus _ h
  | surfaceReady _ h | surfaceLost h => exact h.conditions.2.2.2

end Reaction

/-- How the native layer stands to the conditions of the activity. -/
structure Gated (mHasMultiWindow : Bool) (s : State) : Prop where
  open_resumed : s.isOpen = true → s.mCurrentNativeState = .resumed
  called : s.mCurrentNativeState = .resumed → s.mIsResumedCalled = true
  focused : s.mCurrentNativeState = .resumed → mHasMultiWindow = false → s.mHasFocus = true
  listening : s.listening = true ↔ s.mCurrentNativeState = .resumed

lemma Gated.of_paused (hcurrent : s.mCurrentNativeState = .paused) (hopen : s.isOpen = false)
    (hlistening : s.listening = true ↔ s.mCurrentNativeState = .resumed) :
    Gated mHasMultiWindow s where
  open_resumed h := by simp [hopen] at h
  called h := by simp [hcurrent] at h
  focused h := by simp [hcurrent] at h
  listening := hlistening

/-- A callback that sets out for the resumed state and takes no condition away. -/
lemma Handles.gated (h : Handles s s' es) (hnext : s.mNextNativeState = .resumed)
    (hlistening : s.listening = true ↔ s.mCurrentNativeState = .resumed)
    (hcalled : s.mCurrentNativeState = .resumed → s.mIsResumedCalled = true)
    (hfocused : s.mCurrentNativeState = .resumed → mHasMultiWindow = false →
      s.mHasFocus = true) : Gated mHasMultiWindow s' := by
  obtain ⟨hresumed, hback⟩ := h.resumed hnext
  obtain ⟨hf, hc, -, -⟩ := h.conditions
  constructor
  · intro hopen
    exact hresumed (h.isOpen_eq ▸ hopen)
  · intro hcurrent
    rw [hc]
    rcases hback hcurrent with hold | hopen
    · exact hcalled hold
    · simp only [State.isOpen, Bool.and_eq_true] at hopen
      exact hopen.2
  · intro hcurrent hmulti
    rw [hf]
    rcases hback hcurrent with hold | hopen
    · exact hfocused hold hmulti
    · simp only [State.isOpen, Bool.and_eq_true] at hopen
      exact hopen.1.2
  · exact h.listening hlistening

theorem Reaction.gated {callback : Callback} (h : Reaction mHasMultiWindow s callback s' es)
    (hs : Gated mHasMultiWindow s) : Gated mHasMultiWindow s' := by
  cases h with
  | quiet => exact hs
  | finish => exact ⟨hs.open_resumed, hs.called, hs.focused, hs.listening⟩
  | pauseNativeThread h =>
    refine .of_paused (h.paused rfl) ?_ (h.listening hs.listening)
    rw [h.isOpen_eq]
    simp [State.isOpen]
  | resumeNativeThread h => exact h.gated rfl hs.listening (fun _ => rfl) hs.focused
  | gainsFocus h => exact h.gated rfl hs.listening hs.called fun _ _ => rfl
  | losesFocus _ h =>
    refine .of_paused (h.paused rfl) ?_ (h.listening hs.listening)
    rw [h.isOpen_eq]
    simp [State.isOpen]
  | keepsRunning hmulti =>
    refine ⟨fun hopen => ?_, hs.called, fun _ hsingle => ?_, hs.listening⟩
    · simp [State.isOpen] at hopen
    · rw [hmulti] at hsingle
      cases hsingle
  | skip hsurface =>
    refine ⟨fun hopen => ?_, hs.called, hs.focused, ?_⟩
    · simp [State.isOpen, State.ready] at hopen
    · rw [← hs.listening, State.listening_of_surface hsurface]
      simp [State.listening]
  | surfaceReady hsurface h =>
    refine h.gated rfl ?_ hs.called hs.focused
    have hlistening := hs.listening
    rwa [State.listening_of_surface hsurface] at hlistening
  | surfaceLost h =>
    have hlistening := h.listening hs.listening
    refine .of_paused (h.paused rfl) ?_ ?_
    · simp [State.isOpen, State.ready, Option.any_map]
    · simpa [State.listening, Option.any_map, Function.comp_def] using hlistening

/-! ### Steps -/

/-- The libraries are missing: there is no surface, and nothing happens to the native layer. -/
structure Broken (s : State) : Prop where
  broken : s.mBrokenLibraries = true
  surface : s.mSurface = none
  core_eq : s.core = launched.core
  ui : s.ui = .looping ∨ s.ui = .destroyed

/-- What is true of a state on the way. -/
inductive Stage (s : State) : Prop where
  | launching (h : s = launched)
  | broken (h : Broken s)
  | loaded (h : Loaded s)

/-- What an activity without its libraries may call. -/
def Event.harmless (e : Event) : Prop :=
  e = .setSystemUiVisibility ∨ e = .nativeGetHintBoolean ∨ e = .nativeExit

inductive Step (mHasMultiWindow : Bool) (s : State) : Action → State → List Event → Prop where
  | create (hs : s = launched) :
      Step mHasMultiWindow s (.onCreate true) (launched.onCreate true) []
  | createBroken (hs : s = launched) :
      Step mHasMultiWindow s (.onCreate false) (launched.onCreate false) []
  | broken {a : Action} {s' : State} {es : List Event} (hs : Broken s) (hs' : Broken s')
      (hui : s.ui = .looping) (hes : ∀ e ∈ es, e.harmless)
      (hexit : .nativeExit ∈ es → es = [.nativeExit] ∧ s'.ui = .destroyed) :
      Step mHasMultiWindow s a s' es
  | call {callback : Callback} {s' : State} {es : List Event} (hs : Loaded s)
      (hui : s.ui = .looping) (h : Reaction mHasMultiWindow s callback s' es) :
      Step mHasMultiWindow s (.call callback) s' es
  | onDestroy {thread : ℕ} (hs : Loaded s) (hui : s.ui = .looping)
      (hthread : s.mSDLThread = some thread) :
      Step mHasMultiWindow s .onDestroy { s with ui := .quitting } [.nativeSendQuit]
  | join {thread : ℕ} (hs : Loaded s) (hui : s.ui = .quitting)
      (hthread : s.mSDLThread = some thread) :
      Step mHasMultiWindow s .join { s with ui := .joining thread } []
  /-- There is no thread to wait for. -/
  | quit {a : Action} (hs : Loaded s) (hui : s.ui = .looping ∨ s.ui = .quitting)
      (hthread : s.mSDLThread = none) :
      Step mHasMultiWindow s a { s with ui := .destroyed } [.nativeQuit, .nativeExit]
  | joined {thread : ℕ} (hs : Loaded s) (hui : s.ui = .joining thread)
      (hdead : s.threads[thread]? = some .dead) :
      Step mHasMultiWindow s .joined { s with ui := .destroyed } [.nativeQuit, .nativeExit]
  | mainReturns {thread : ℕ} (hs : Loaded s) (hthread : s.threads[thread]? = some .running) :
      Step mHasMultiWindow s (.mainReturns thread) (s.goesTo thread .finished)
        [.mainReturned thread]
  | checksFinishing {thread : ℕ} (hs : Loaded s) (hthread : s.threads[thread]? = some .finished) :
      Step mHasMultiWindow s (.checksFinishing thread) (s.checksFinishing thread) []
  | clearsThread {thread : ℕ} (hs : Loaded s) (hthread : s.threads[thread]? = some .leaving) :
      Step mHasMultiWindow s (.clearsThread thread)
        { s.goesTo thread .cleared with mSDLThread := none } []
  | finishes {thread : ℕ} (hs : Loaded s) (hthread : s.threads[thread]? = some .cleared) :
      Step mHasMultiWindow s (.finishes thread)
        { s.goesTo thread .dead with isFinishing := true } []

namespace Broken

lemma pauseNativeThread (hs : Broken s) :
    Broken s.pauseNativeThread.1 ∧ s.pauseNativeThread.2 = [] := by
  rw [State.pauseNativeThread, if_pos hs.broken]
  exact ⟨⟨hs.broken, hs.surface, hs.core_eq, hs.ui⟩, rfl⟩

lemma resumeNativeThread (hs : Broken s) :
    Broken s.resumeNativeThread.1 ∧ s.resumeNativeThread.2 = [] := by
  rw [State.resumeNativeThread, if_pos hs.broken]
  exact ⟨⟨hs.broken, hs.surface, hs.core_eq, hs.ui⟩, rfl⟩

/-- Without the libraries, a callback changes no more than the conditions. -/
lemma callback (hs : Broken s) {callback : Callback}
    (h : s.callback mHasMultiWindow callback = some (s', es)) :
    Broken s' ∧ ∀ e ∈ es, e = .setSystemUiVisibility ∨ e = .nativeGetHintBoolean := by
  have hpause := hs.pauseNativeThread
  have hresume := hs.resumeNativeThread
  cases callback with
  | onStart | onResume =>
    obtain ⟨rfl, rfl⟩ := eq_of_some h
    cases mHasMultiWindow <;> simp [State.onStart, State.onResume, hresume, hs]
  | onPause | onStop =>
    obtain ⟨rfl, rfl⟩ := eq_of_some h
    cases mHasMultiWindow <;> simp [State.onPause, State.onStop, hpause, hs]
  | onWindowFocusChanged hasFocus =>
    obtain ⟨rfl, rfl⟩ := eq_of_some h
    rw [State.onWindowFocusChanged, if_pos hs.broken]
    exact ⟨hs, by cases hasFocus <;> simp⟩
  | onBackPressed trapBack =>
    obtain ⟨rfl, rfl⟩ := eq_of_some h
    cases trapBack with
    | true => exact ⟨hs, by simp [State.onBackPressed]⟩
    | false =>
      exact ⟨⟨hs.broken, hs.surface, hs.core_eq, hs.ui⟩, by simp [State.onBackPressed]⟩
  | backButton =>
    obtain ⟨rfl, rfl⟩ := eq_of_some h
    exact ⟨⟨hs.broken, hs.surface, hs.core_eq, hs.ui⟩, by simp⟩
  | surfaceCreated | surfaceChanged | surfaceDestroyed =>
    simp [State.callback, hs.surface] at h

lemma step (hs : Broken s) {a : Action} (h : step mHasMultiWindow s a = some (s', es)) :
    Step mHasMultiWindow s a s' es := by
  have hthreads : s.threads = [] := congrArg Core.threads hs.core_eq
  cases a with
  | onCreate loaded => rcases hs.ui with hui | hui <;> simp [Lifecycle.step, hui] at h
  | call callback =>
    simp only [Lifecycle.step] at h
    split_ifs at h with hui
    obtain ⟨hs', hes⟩ := hs.callback h
    refine .broken hs hs' hui (fun e he => ?_) fun hexit => ?_
    · rcases hes e he with rfl | rfl <;> simp [Event.harmless]
    · simpa using hes _ hexit
  | onDestroy =>
    simp only [Lifecycle.step] at h
    split_ifs at h with hui
    obtain ⟨rfl, rfl⟩ := eq_of_some h
    rw [State.onDestroy, if_pos hs.broken]
    exact .broken hs ⟨hs.broken, hs.surface, hs.core_eq, Or.inr rfl⟩ hui
      (by simp [Event.harmless]) fun _ => ⟨rfl, rfl⟩
  | join | joined => rcases hs.ui with hui | hui <;> simp [Lifecycle.step, hui] at h
  | mainReturns | checksFinishing | clearsThread | finishes =>
    simp [Lifecycle.step, hthreads] at h

end Broken

namespace State

lemma onDestroy_of_none (h : s.mBrokenLibraries = false) (hthread : s.mSDLThread = none) :
    s.onDestroy = s.quit := by
  simp [onDestroy, h, hthread]

lemma onDestroy_of_some (h : s.mBrokenLibraries = false) (hthread : s.mSDLThread = some t) :
    s.onDestroy = ({ s with ui := .quitting }, [.nativeSendQuit]) := by
  simp [onDestroy, h, hthread]

lemma join_of_none (hthread : s.mSDLThread = none) : s.join = s.quit := by
  simp [join, hthread]

lemma join_of_some (hthread : s.mSDLThread = some t) :
    s.join = ({ s with ui := .joining t }, []) := by
  simp [join, hthread]

end State

/-- Inversion of a step where the libraries are there. -/
lemma Step.of_loaded (hs : Loaded s) {a : Action}
    (h : step mHasMultiWindow s a = some (s', es)) : Step mHasMultiWindow s a s' es := by
  cases a with
  | onCreate loaded => simp [step, hs.ui] at h
  | call callback =>
    simp only [step] at h
    split_ifs at h with hlooping
    exact .call hs hlooping (reaction_of_callback hs h)
  | onDestroy =>
    simp only [step] at h
    split_ifs at h with hlooping
    obtain ⟨rfl, rfl⟩ := eq_of_some h
    cases hthread : s.mSDLThread with
    | none =>
      rw [State.onDestroy_of_none hs.unbroken hthread]
      exact .quit hs (Or.inl hlooping) hthread
    | some thread =>
      rw [State.onDestroy_of_some hs.unbroken hthread]
      exact .onDestroy hs hlooping hthread
  | join =>
    simp only [step] at h
    split_ifs at h with hquitting
    obtain ⟨rfl, rfl⟩ := eq_of_some h
    cases hthread : s.mSDLThread with
    | none =>
      rw [State.join_of_none hthread]
      exact .quit hs (Or.inr hquitting) hthread
    | some thread =>
      rw [State.join_of_some hthread]
      exact .join hs hquitting hthread
  | joined =>
    simp only [step] at h
    split at h
    · next thread hjoining =>
      split_ifs at h with hdead
      obtain ⟨rfl, rfl⟩ := eq_of_some h
      exact .joined hs hjoining hdead
    · cases h
  | mainReturns thread =>
    simp only [step] at h
    split_ifs at h with hthread
    obtain ⟨rfl, rfl⟩ := eq_of_some h
    exact .mainReturns hs hthread
  | checksFinishing thread =>
    simp only [step] at h
    split_ifs at h with hthread
    obtain ⟨rfl, rfl⟩ := eq_of_some h
    exact .checksFinishing hs hthread
  | clearsThread thread =>
    simp only [step] at h
    split_ifs at h with hthread
    obtain ⟨rfl, rfl⟩ := eq_of_some h
    exact .clearsThread hs hthread
  | finishes thread =>
    simp only [step] at h
    split_ifs at h with hthread
    obtain ⟨rfl, rfl⟩ := eq_of_some h
    exact .finishes hs hthread

/-- Inversion of a step. -/
theorem Step.of_step (hs : Stage s) {a : Action} (h : step mHasMultiWindow s a = some (s', es)) :
    Step mHasMultiWindow s a s' es := by
  cases hs with
  | launching hs =>
    subst hs
    cases a with
    | onCreate loaded =>
      obtain ⟨rfl, rfl⟩ := eq_of_some h
      cases loaded with
      | true => exact .create rfl
      | false => exact .createBroken rfl
    | _ => simp [step, launched] at h
  | broken hs => exact hs.step h
  | loaded hs => exact .of_loaded hs h

lemma loaded_onCreate : Loaded (launched.onCreate true) := ⟨rfl, ⟨_, rfl⟩, by decide⟩

lemma broken_onCreate : Broken (launched.onCreate false) := ⟨rfl, rfl, rfl, Or.inl rfl⟩

lemma Step.stage {a : Action} (h : Step mHasMultiWindow s a s' es) : Stage s' := by
  cases h with
  | create => exact .loaded loaded_onCreate
  | createBroken => exact .broken broken_onCreate
  | broken _ hs' => exact .broken hs'
  | call hs _ h => exact .loaded (h.loaded hs)
  | onDestroy hs | join hs | quit hs | joined hs =>
    exact .loaded ⟨hs.unbroken, hs.surface, by simp⟩
  | mainReturns hs | checksFinishing hs | clearsThread hs | finishes hs =>
    exact .loaded ⟨hs.unbroken, hs.surface, hs.ui⟩

lemma Broken.gated (hs : Broken s) : Gated mHasMultiWindow s := by
  have hcurrent : s.mCurrentNativeState = .init := congrArg Core.current hs.core_eq
  constructor <;> simp [State.isOpen, State.ready, State.listening, hs.surface, hcurrent]

theorem Step.gated {a : Action} (h : Step mHasMultiWindow s a s' es)
    (hs : Gated mHasMultiWindow s) : Gated mHasMultiWindow s' := by
  cases h with
  | create => constructor <;> simp [State.isOpen, State.ready, State.listening, State.onCreate]
  | createBroken => exact broken_onCreate.gated
  | broken _ hs' => exact hs'.gated
  | call _ _ h => exact h.gated hs
  | onDestroy | join | quit | joined | mainReturns | checksFinishing | clearsThread | finishes =>
    exact ⟨hs.open_resumed, hs.called, hs.focused, hs.listening⟩

/-! ### Runs -/

variable {ok : State → Action → Prop}

lemma stage_of_run (h : (machine mHasMultiWindow).Run ok launched tr s) : Stage s := by
  refine h.invariant (fun _ s => Stage s) (.launching rfl) ?_
  intro tr s a s' es _ hs _ hstep
  exact (Step.of_step hs hstep).stage

/-- Invariant rule for the activity, in terms of the inversion of its steps. -/
theorem invariant_of_run (I : List Event → State → Prop) (hinit : I [] launched)
    (hstep : ∀ {tr s a s' es}, I tr s → ok s a → Step mHasMultiWindow s a s' es →
      I (tr ++ es) s')
    (h : (machine mHasMultiWindow).Run ok launched tr s) : I tr s := by
  refine h.invariant I hinit ?_
  intro tr s a s' es hrun hs hok hs'
  exact hstep hs hok (.of_step (stage_of_run hrun) hs')

lemma gated_launched : Gated mHasMultiWindow launched := by
  constructor <;> simp [State.isOpen, State.ready, State.listening, launched]

lemma gated_of_run (h : (machine mHasMultiWindow).Run ok launched tr s) :
    Gated mHasMultiWindow s :=
  invariant_of_run (fun _ s => Gated mHasMultiWindow s) gated_launched (fun hs _ h => h.gated hs) h

/-- The activity comes to the foreground: the surface is there before the focus. -/
def foreground : List Action :=
  [.onCreate true, .call .onStart, .call .onResume, .call .surfaceCreated,
    .call (.surfaceChanged .SENSOR_LANDSCAPE 1920 1080 false), .call (.onWindowFocusChanged true)]

end AndroidMkxp.Lifecycle
