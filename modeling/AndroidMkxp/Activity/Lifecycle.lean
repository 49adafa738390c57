import AndroidMkxp.Foundation.Machine
import Mathlib.Data.List.Basic

/-!
# The life of the game activity

The activity that runs the native game: the callbacks that Android makes on the UI thread, the
surface it draws on, and the thread on which `SDL_main` runs. The two threads interleave: every
access of the SDL thread to the fields of the activity is a step of its own, and so is every access
that `onDestroy` makes while it waits for that thread. The callbacks come in any order, also in
those that Android does not use.

A run is the life of one activity, from `onCreate` to the end of `onDestroy`, with no other
activity of its kind in the process.
-/

namespace AndroidMkxp.Lifecycle

open Foundation

inductive NativeState where
  | init
  | resumed
  | paused
  deriving DecidableEq, Repr

/-- Where a thread stands in `SDLMain.run`. -/
inductive SDLMain where
  /-- In `nativeRunMain`, or on the way there. -/
  | running
  | finished
  /-- Has seen that the activity is not finishing. -/
  | leaving
  /-- Has set `mSDLThread` to null. -/
  | cleared
  | dead
  deriving DecidableEq, Repr

structure SDLSurface where
  mIsSurfaceReady : Bool
  /-- The surface listens to the accelerometer. -/
  listening : Bool
  deriving DecidableEq, Repr

/-- What the UI thread does. -/
inductive UiThread where
  | launching
  | looping
  /-- In `onDestroy`, has sent the quit event. -/
  | quitting
  | joining (thread : ℕ)
  | destroyed
  deriving DecidableEq, Repr

/-- The fields of the activity with the threads that it has started, which are counted from 0. -/
structure State where
  mBrokenLibraries : Bool
  mNextNativeState : NativeState
  mCurrentNativeState : NativeState
  mIsResumedCalled : Bool
  mHasFocus : Bool
  mSurface : Option SDLSurface
  mSDLThread : Option ℕ
  isFinishing : Bool
  threads : List SDLMain
  ui : UiThread
  deriving DecidableEq, Repr

/-- `getRequestedOrientation`. -/
inductive Orientation where
  | PORTRAIT
  | SENSOR_PORTRAIT
  | LANDSCAPE
  | SENSOR_LANDSCAPE
  | other
  deriving DecidableEq, Repr

/-- The callbacks that Android makes on the UI thread, between `onCreate` and `onDestroy`. -/
inductive Callback where
  | onStart
  | onResume
  | onPause
  | onStop
  | onWindowFocusChanged (hasFocus : Bool)
  /-- `trapBack` is the hint `SDL_ANDROID_TRAP_BACK_BUTTON`. -/
  | onBackPressed (trapBack : Bool)
  /-- The task that `pressBackButton` posts. -/
  | backButton
  | surfaceCreated
  | surfaceChanged (requestedOrientation : Orientation) (width height : ℕ)
      (isInMultiWindowMode : Bool)
  | surfaceDestroyed
  deriving DecidableEq, Repr

inductive Action where
  /-- `loaded`: the shared libraries are there, in the version expected. -/
  | onCreate (loaded : Bool)
  | call (callback : Callback)
  | onDestroy
  /-- `onDestroy` reads `mSDLThread` once more, to join it. -/
  | join
  | joined
  | mainReturns (thread : ℕ)
  | checksFinishing (thread : ℕ)
  | clearsThread (thread : ℕ)
  | finishes (thread : ℕ)
  deriving DecidableEq, Repr

/-- The calls that the activity makes. A call of `nativePause` or `nativeResume` is noted with the
thread that `mSDLThread` holds. -/
inductive Event where
  | start (thread : ℕ)
  | nativePause (thread : ℕ)
  | nativeResume (thread : ℕ)
  | mainReturned (thread : ℕ)
  | enableSensor (enabled : Bool)
  | nativeFocusChanged (hasFocus : Bool)
  | setSystemUiVisibility
  | nativeGetHintBoolean
  | onNativeSurfaceCreated
  | nativeSetScreenResolution (width height : ℕ)
  | onNativeResize
  | onNativeSurfaceChanged
  | onNativeSurfaceDestroyed
  | nativeSendQuit
  | nativeQuit
  | nativeExit
  | nullPointerException
  deriving DecidableEq, Repr

/-- The static fields before the first `onCreate`. -/
def launched : State where
  mBrokenLibraries := true
  mNextNativeState := .init
  mCurrentNativeState := .init
  mIsResumedCalled := false
  mHasFocus := false
  mSurface := none
  mSDLThread := none
  isFinishing := false
  threads := []
  ui := .launching

namespace State

def handlePause (s : State) : State × List Event :=
  match s.mSurface with
  | none         => (s, [])
  | some surface =>
    ({ s with mSurface := some { surface with listening := false } }, [.enableSensor false])

def nativePause (s : State) : List Event :=
  match s.mSDLThread with
  | none        => []
  | some thread => [.nativePause thread]

/-- Transition to next state -/
def handleNativeState (s : State) : State × List Event :=
  if s.mNextNativeState = s.mCurrentNativeState then
    (s, [])
  else
    match s.mNextNativeState with
    | .init => ({ s with mCurrentNativeState := .init }, [])
    | .paused =>
      ({ s.handlePause.1 with mCurrentNativeState := .paused }, s.nativePause ++ s.handlePause.2)
    | .resumed =>
      match s.mSurface with
      | none => (s, [.nullPointerException])
      | some surface =>
        if surface.mIsSurfaceReady && s.mHasFocus && s.mIsResumedCalled then
          let resumed : State :=
            { s with
              mSurface := some { surface with listening := true }
              mCurrentNativeState := .resumed }
          match s.mSDLThread with
          | none =>
            ({ resumed with
                mSDLThread := some s.threads.length
                threads := s.threads ++ [.running] },
              [.enableSensor true, .start s.threads.length, .enableSensor true])
          | some thread => (resumed, [.nativeResume thread, .enableSensor true])
        else
          (s, [])

def pauseNativeThread (s : State) : State × List Event :=
  let s : State := { s with mNextNativeState := .paused, mIsResumedCalled := false }
  if s.mBrokenLibraries then (s, []) else s.handleNativeState

def resumeNativeThread (s : State) : State × List Event :=
  let s : State := { s with mNextNativeState := .resumed, mIsResumedCalled := true }
  if s.mBrokenLibraries then (s, []) else s.handleNativeState

section

variable (mHasMultiWindow : Bool)

def onPause (s : State) : State × List Event :=
  if mHasMultiWindow then (s, []) else s.pauseNativeThread

def onResume (s : State) : State × List Event :=
  if mHasMultiWindow then (s, []) else s.resumeNativeThread

def onStop (s : State) : State × List Event :=
  if mHasMultiWindow then s.pauseNativeThread else (s, [])

def onStart (s : State) : State × List Event :=
  if mHasMultiWindow then s.resumeNativeThread else (s, [])

/-- `MKXPActivity.onWindowFocusChanged` hides the system bars after the callback of SDL. -/
def onWindowFocusChanged (s : State) (hasFocus : Bool) : State × List Event :=
  let bars := if hasFocus then [.setSystemUiVisibility] else []
  if s.mBrokenLibraries then
    (s, bars)
  else if hasFocus then
    let r := { s with mHasFocus := true, mNextNativeState := .resumed : State }.handleNativeState
    (r.1, r.2 ++ .nativeFocusChanged true :: bars)
  else if mHasMultiWindow then
    ({ s with mHasFocus := false }, .nativeFocusChanged false :: bars)
  else
    let r := { s with mHasFocus := false, mNextNativeState := .paused : State }.handleNativeState
    (r.1, .nativeFocusChanged false :: r.2 ++ bars)

/-- Whether a new size of the surface is one that does not go with the requested orientation. The
quotient of the sides is compared with 1.20 in double precision, which agrees with the comparison
of integers for all sizes below 2^24. -/
def skips (requestedOrientation : Orientation) (width height : ℕ) (isInMultiWindowMode : Bool) :
    Bool :=
  let turned :=
    match requestedOrientation with
    | .PORTRAIT | .SENSOR_PORTRAIT   => decide (width > height)
    | .LANDSCAPE | .SENSOR_LANDSCAPE => decide (width < height)
    | .other                         => false
  turned && !decide (5 * max width height < 6 * min width height) &&
    !(mHasMultiWindow && isInMultiWindowMode)

def surfaceChanged (s : State) (surface : SDLSurface) (skip : Bool) (width height : ℕ) :
    State × List Event :=
  if skip then
    ({ s with mSurface := some { surface with mIsSurfaceReady := false } },
      [.nativeSetScreenResolution width height, .onNativeResize])
  else
    let r := { s with
      mSurface := some { surface with mIsSurfaceReady := true }
      mNextNativeState := .resumed : State }.handleNativeState
    (r.1, .nativeSetScreenResolution width height :: .onNativeResize :: .onNativeSurfaceChanged ::
      r.2)

def surfaceDestroyed (s : State) : State × List Event :=
  let r := { s with mNextNativeState := .paused : State }.handleNativeState
  ({ r.1 with
      mSurface := r.1.mSurface.map fun surface => { surface with mIsSurfaceReady := false } },
    r.2 ++ [.onNativeSurfaceDestroyed])

def onBackPressed (s : State) (trapBack : Bool) : State × List Event :=
  if trapBack then (s, [.nativeGetHintBoolean])
  else ({ s with isFinishing := true }, [.nativeGetHintBoolean])

/-- One callback, or `none` for a callback of the surface where there is no surface. -/
def callback (s : State) : Callback → Option (State × List Event)
  | .onStart => some (s.onStart mHasMultiWindow)
  | .onResume => some (s.onResume mHasMultiWindow)
  | .onPause => some (s.onPause mHasMultiWindow)
  | .onStop => some (s.onStop mHasMultiWindow)
  | .onWindowFocusChanged hasFocus => some (s.onWindowFocusChanged mHasMultiWindow hasFocus)
  | .onBackPressed trapBack => some (s.onBackPressed trapBack)
  | .backButton => some ({ s with isFinishing := true }, [])
  | .surfaceCreated => s.mSurface.map fun _ => (s, [.onNativeSurfaceCreated])
  | .surfaceChanged requestedOrientation width height isInMultiWindowMode =>
    s.mSurface.map fun surface =>
      s.surfaceChanged surface
        (skips mHasMultiWindow requestedOrientation width height isInMultiWindowMode) width height
  | .surfaceDestroyed => s.mSurface.map fun _ => s.surfaceDestroyed

end

/-- `initialize`, and the new surface. -/
def onCreate (s : State) (loaded : Bool) : State :=
  if loaded then
    { s with
      mBrokenLibraries := false
      mNextNativeState := .init
      mCurrentNativeState := .init
      mIsResumedCalled := false
      mHasFocus := true
      mSurface := some ⟨false, false⟩
      mSDLThread := none
      ui := .looping }
  else
    { s with mBrokenLibraries := true, ui := .looping }

/-- The end of `SDLActivity.onDestroy` and of `MKXPActivity.onDestroy`. -/
def quit (s : State) : State × List Event :=
  ({ s with ui := .destroyed }, [.nativeQuit, .nativeExit])

def onDestroy (s : State) : State × List Event :=
  if s.mBrokenLibraries then
    ({ s with ui := .destroyed }, [.nativeExit])
  else
    match s.mSDLThread with
    | none   => s.quit
    | some _ => ({ s with ui := .quitting }, [.nativeSendQuit])

/-- `mSDLThread.join()`. Where the thread has set the field to null meanwhile, the exception is
caught. -/
def join (s : State) : State × List Event :=
  match s.mSDLThread with
  | none        => s.quit
  | some thread => ({ s with ui := .joining thread }, [])

/-- The thread goes on to `phase`. -/
def goesTo (s : State) (thread : ℕ) (phase : SDLMain) : State :=
  { s with threads := s.threads.set thread phase }

/-- `SDLMain.run`: does the thread look after the activity that it leaves? -/
def checksFinishing (s : State) (thread : ℕ) : State :=
  s.goesTo thread (if s.isFinishing then .dead else .leaving)

end State

def step (mHasMultiWindow : Bool) (s : State) : Action → Option (State × List Event)
  | .onCreate loaded =>
    if s.ui = .launching then some (s.onCreate loaded, []) else none
  | .call callback =>
    if s.ui = .looping then s.callback mHasMultiWindow callback else none
  | .onDestroy => if s.ui = .looping then some (s.onDestroy) else none
  | .join => if s.ui = .quitting then some s.join else none
  | .joined =>
    match s.ui with
    | .joining thread => if s.threads[thread]? = some .dead then some s.quit else none
    | _               => none
  | .mainReturns thread =>
    if s.threads[thread]? = some .running then
      some (s.goesTo thread .finished, [.mainReturned thread])
    else none
  | .checksFinishing thread =>
    if s.threads[thread]? = some .finished then some (s.checksFinishing thread, []) else none
  | .clearsThread thread =>
    if s.threads[thread]? = some .leaving then
      some ({ s.goesTo thread .cleared with mSDLThread := none }, [])
    else none
  | .finishes thread =>
    if s.threads[thread]? = some .cleared then
      some ({ s.goesTo thread .dead with isFinishing := true }, [])
    else none

/-- The activity as a machine. `mHasMultiWindow` tells devices from API 24 on from older ones. -/
def machine (mHasMultiWindow : Bool) : Machine State Action Event where
  step s a := step mHasMultiWindow s a

end AndroidMkxp.Lifecycle
