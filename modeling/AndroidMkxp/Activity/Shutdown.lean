import AndroidMkxp.Activity.Threads

/-!
# The end of the activity

`onDestroy` waits for the game before it takes the native layer down, and nothing is called after
that. It does not wait for ever: once the game has returned, its thread gets to its end by itself.
An activity whose libraries are missing calls nothing that needs them.
-/

namespace AndroidMkxp.Lifecycle

open Foundation

variable {mHasMultiWindow : Bool} {s s' : State} {tr es : List Event}
  {ok : State → Action → Prop} {t : ℕ}

/-- The calls that a callback can make. -/
def Event.fromCallback : Event → Bool
  | .mainReturned _ | .nativeSendQuit | .nativeQuit | .nativeExit | .nullPointerException => false
  | _ => true

lemma Handles.fromCallback (h : Handles s s' es) : ∀ e ∈ es, e.fromCallback = true := by
  cases h with
  | same | blocked | start | resume => simp [Event.fromCallback]
  | pause =>
    rw [State.nativePause]
    split <;> simp [Event.fromCallback]

lemma Reaction.fromCallback {callback : Callback} (h : Reaction mHasMultiWindow s callback s' es) :
    ∀ e ∈ es, e.fromCallback = true := by
  cases h with
  | quiet hes =>
    intro e he
    rcases hes e he with rfl | rfl <;> rfl
  | finish hes =>
    intro e he
    rw [hes e he]
    rfl
  | pauseNativeThread h | resumeNativeThread h => exact h.fromCallback
  | gainsFocus h =>
    exact List.forall_mem_append.mpr ⟨h.fromCallback, by simp [Event.fromCallback]⟩
  | losesFocus _ h => exact List.forall_mem_cons.mpr ⟨rfl, h.fromCallback⟩
  | keepsRunning | skip => simp [Event.fromCallback]
  | surfaceReady _ h =>
    simp only [List.forall_mem_cons]
    exact ⟨rfl, rfl, rfl, h.fromCallback⟩
  | surfaceLost h =>
    exact List.forall_mem_append.mpr ⟨h.fromCallback, by simp [Event.fromCallback]⟩

/-! ### Missing libraries -/

/-- How far the activity is on its way out. -/
structure Leaves (tr : List Event) (s : State) : Prop where
  exit : .nativeExit ∈ tr → s.ui = .destroyed
  sent : .nativeSendQuit ∈ tr → s.ui ≠ .launching ∧ s.ui ≠ .looping
  joining : ∀ t, s.ui = .joining t →
    t < s.threads.length ∧ (s.mSDLThread = some t ∨ s.mSDLThread = none)
  done : s.ui = .destroyed → ∀ t : ℕ, s.threads[t]? ≠ some SDLMain.running

lemma Owned.not_running (hc : Owned s.core) (hthread : s.mSDLThread = none) (t : ℕ) :
    s.threads[t]? ≠ some SDLMain.running := by
  intro hrunning
  have hheld := hc.holds t .running hrunning (by simp) (by simp)
  rw [show s.core.thread = none from hthread] at hheld
  cases hheld

lemma Leaves.not_running (hs : Leaves tr s) (hc : Owned s.core) (hui : s.ui = .joining t)
    (hdead : s.threads[t]? = some .dead) (u : ℕ) : s.threads[u]? ≠ some SDLMain.running := by
  intro hrunning
  have hheld : s.mSDLThread = some u := hc.holds u .running hrunning (by simp) (by simp)
  rcases (hs.joining t hui).2 with hthread | hthread
  · obtain rfl : t = u := Option.some.inj (hthread.symm.trans hheld)
    cases hdead.symm.trans hrunning
  · cases hthread.symm.trans hheld

/-- The activity goes on as before. -/
lemma Leaves.keep (hs : Leaves tr s) (hui : s'.ui = s.ui)
    (hes : .nativeExit ∉ es ∧ .nativeSendQuit ∉ es)
    (hlength : s'.threads.length = s.threads.length)
    (hthread : s'.mSDLThread = s.mSDLThread ∨ s'.mSDLThread = none)
    (hrunning : ∀ t : ℕ, s'.threads[t]? = some .running → s.threads[t]? = some .running) :
    Leaves (tr ++ es) s' := by
  constructor
  · intro hexit
    rw [hui]
    exact hs.exit ((List.mem_append.mp hexit).resolve_right hes.1)
  · intro hsent
    rw [hui]
    exact hs.sent ((List.mem_append.mp hsent).resolve_right hes.2)
  · intro t ht
    rw [hui] at ht
    obtain ⟨hlt, hheld⟩ := hs.joining t ht
    rw [hlength]
    refine ⟨hlt, ?_⟩
    rcases hthread with hsame | hnone
    · rwa [hsame]
    · exact Or.inr hnone
  · intro hdone t ht
    rw [hui] at hdone
    exact hs.done hdone t (hrunning t ht)

/-- A thread that goes on is not running any more. -/
lemma goesTo_running {p q : SDLMain} {u : ℕ} (ht : s.threads[t]? = some p) (hq : q ≠ .running)
    (hu : (s.goesTo t q).threads[u]? = some .running) : s.threads[u]? = some .running := by
  rw [State.goesTo, show s.threads = s.core.threads from rfl, getElem?_set_of_some ht] at hu
  split_ifs at hu with hut
  · exact absurd (Option.some.inj hu) hq
  · exact hu

lemma Step.leaves {a : Action} (h : Step mHasMultiWindow s a s' es) (hc : Owned s.core)
    (hs : Leaves tr s) : Leaves (tr ++ es) s' := by
  have hexit : .nativeExit ∈ tr → s.ui = .destroyed := hs.exit
  cases h with
  | create hstart | createBroken hstart =>
    subst hstart
    rw [List.append_nil]
    refine ⟨fun hmem => ?_, fun hmem => absurd rfl (hs.sent hmem).1, fun t ht => (by cases ht),
      fun hdone => (by cases hdone)⟩
    cases hexit hmem
  | broken hbroken hbroken' hui hes hlast =>
    have hthreads : s'.threads = [] := congrArg Core.threads hbroken'.core_eq
    have hui' := hbroken'.ui
    constructor
    · intro hmem
      rcases List.mem_append.mp hmem with hold | hnew
      · rw [hui] at hexit
        cases hexit hold
      · exact (hlast hnew).2
    · intro hmem
      rcases List.mem_append.mp hmem with hold | hnew
      · exact absurd hui (hs.sent hold).2
      · simpa [Event.harmless] using hes _ hnew
    · intro t ht
      simp [ht] at hui'
    · simp [hthreads]
  | call _ hui h =>
    rw [hui] at hexit
    have hes := h.fromCallback
    have hui' := h.ui_eq.trans hui
    refine ⟨fun hmem => ?_, fun hmem => ?_, fun t ht => ?_, fun hdone => ?_⟩
    · rcases List.mem_append.mp hmem with hold | hnew
      · cases hexit hold
      · cases hes _ hnew
    · rcases List.mem_append.mp hmem with hold | hnew
      · exact absurd hui (hs.sent hold).2
      · cases hes _ hnew
    · simp [hui'] at ht
    · simp [hui'] at hdone
  | onDestroy _ hui =>
    rw [hui] at hexit
    refine ⟨fun hmem => ?_, fun _ => (by simp), fun t ht => (by cases ht),
      fun hdone => (by cases hdone)⟩
    cases hexit (by simpa using hmem)
  | join _ hui hthread =>
    rw [hui] at hexit
    refine ⟨fun hmem => ?_, fun _ => (by simp), fun t ht => ?_, fun hdone => (by cases hdone)⟩
    · cases hexit (by simpa using hmem)
    · cases ht
      obtain ⟨p, hp, -⟩ := hc.held _ hthread
      exact ⟨(List.getElem?_eq_some_iff.mp hp).1, Or.inl hthread⟩
  | quit _ _ hthread =>
    exact ⟨fun _ => rfl, fun _ => (by simp), fun t ht => (by cases ht),
      fun _ => hc.not_running hthread⟩
  | joined _ hui hdead =>
    exact ⟨fun _ => rfl, fun _ => (by simp), fun t ht => (by cases ht),
      fun _ => hs.not_running hc hui hdead⟩
  | mainReturns _ ht =>
    exact hs.keep rfl (by simp) List.length_set (Or.inl rfl) fun u => goesTo_running ht (by simp)
  | checksFinishing _ ht =>
    refine hs.keep rfl (by simp) List.length_set (Or.inl rfl) fun u => goesTo_running ht ?_
    split_ifs <;> simp
  | clearsThread _ ht =>
    exact hs.keep rfl (by simp) List.length_set (Or.inr rfl) fun u => goesTo_running ht (by simp)
  | finishes _ ht =>
    exact hs.keep rfl (by simp) List.length_set (Or.inl rfl) fun u => goesTo_running ht (by simp)

lemma leaves_of_run (h : (machine mHasMultiWindow).Run ok launched tr s) : Leaves tr s := by
  have hboth : Owned s.core ∧ Leaves tr s := by
    refine invariant_of_run (fun tr s => Owned s.core ∧ Leaves tr s) ?_ ?_ h
    · obtain ⟨hc, -⟩ := accounts_of_run (.refl : (machine mHasMultiWindow).Run ok launched _ _)
      refine ⟨hc, by simp, by simp, fun t ht => (by cases ht), fun hdone => (by cases hdone)⟩
    · rintro tr s a s' es ⟨hc, hs⟩ - hstep
      exact ⟨hstep.core.owned hc, hstep.leaves hc hs⟩
  exact hboth.2

/-- The quit event is sent once and to a game that has been started, the native layer is taken down
once no game runs any more, and nothing is called after it. -/
def Orderly (past : List Event) (e : Event) : Prop :=
  .nativeExit ∉ past ∧
    match e with
    | .nativeSendQuit => .nativeSendQuit ∉ past ∧ ∃ thread, .start thread ∈ past
    | .nativeQuit | .nativeExit =>
      ∀ thread, .start thread ∈ past → .mainReturned thread ∈ past
    | _ => True

lemma orderly_of_fromCallback (hexit : .nativeExit ∉ tr) (hes : ∀ e ∈ es, e.fromCallback = true) :
    Justified Orderly tr es := by
  induction es generalizing tr with
  | nil => trivial
  | cons e es ih =>
    rw [List.forall_mem_cons] at hes
    refine ⟨⟨hexit, ?_⟩, ih ?_ hes.2⟩
    · cases e <;> first | trivial | exact absurd hes.1 (by simp [Event.fromCallback])
    · intro hmem
      rcases List.mem_append.mp hmem with hold | hlast
      · exact hexit hold
      · rw [← List.mem_singleton.mp hlast] at hes
        cases hes.1

/-- Where no thread is running, every game has returned. -/
lemma returned_of_not_running (h : (machine mHasMultiWindow).Run ok launched tr s)
    (hrunning : ∀ t : ℕ, s.threads[t]? ≠ some SDLMain.running) (ht : .start t ∈ tr) :
    .mainReturned t ∈ tr := by
  obtain ⟨-, ha⟩ := accounts_of_run h
  have hlt := (ha.started t).mp (List.mem_filter.mpr ⟨ht, rfl⟩)
  have hp := List.getElem?_eq_getElem hlt
  refine List.mem_of_mem_filter ((ha.returned t).mpr ⟨_, hp, fun hrun => ?_⟩)
  exact hrunning t (hp.trans (congrArg some hrun))

lemma orderly_quit (h : (machine mHasMultiWindow).Run ok launched tr s) (hui : s.ui ≠ .destroyed)
    (hrunning : ∀ t : ℕ, s.threads[t]? ≠ some SDLMain.running) :
    Justified Orderly tr [.nativeQuit, .nativeExit] := by
  have hexit : .nativeExit ∉ tr := fun hmem => hui ((leaves_of_run h).exit hmem)
  have hreturned : ∀ t, .start t ∈ tr → .mainReturned t ∈ tr :=
    fun t => returned_of_not_running h hrunning
  refine ⟨⟨hexit, hreturned⟩, ⟨by simpa using hexit, fun t ht => ?_⟩, trivial⟩
  exact List.mem_append_left _ (hreturned t (by simpa using ht))

lemma Step.orderly {a : Action} (hrun : (machine mHasMultiWindow).Run ok launched tr s)
    (h : Step mHasMultiWindow s a s' es) : Justified Orderly tr es := by
  have hs := leaves_of_run hrun
  obtain ⟨hc, ha⟩ := accounts_of_run hrun
  have hexit : s.ui ≠ .destroyed → .nativeExit ∉ tr := fun hui hmem => hui (hs.exit hmem)
  cases h with
  | broken hbroken _ hui hes hlast =>
    by_cases hmem : .nativeExit ∈ es
    · obtain ⟨rfl, -⟩ := hlast hmem
      refine ⟨⟨hexit (by simp [hui]), fun t => returned_of_not_running hrun fun t => ?_⟩, trivial⟩
      simp [show s.threads = [] from congrArg Core.threads hbroken.core_eq]
    · refine orderly_of_fromCallback (hexit (by simp [hui])) fun e he => ?_
      rcases hes e he with rfl | rfl | rfl
      · rfl
      · rfl
      · exact absurd he hmem
  | call _ hui h => exact orderly_of_fromCallback (hexit (by simp [hui])) h.fromCallback
  | onDestroy _ hui hthread =>
    obtain ⟨p, hp, -⟩ := hc.held _ hthread
    have hstart := (ha.started _).mpr (List.getElem?_eq_some_iff.mp hp).1
    exact ⟨⟨hexit (by simp [hui]), fun hmem => (hs.sent hmem).2 hui, _,
      List.mem_of_mem_filter hstart⟩, trivial⟩
  | quit _ hui hthread =>
    exact orderly_quit hrun (by rcases hui with hui | hui <;> simp [hui]) (hc.not_running hthread)
  | joined _ hui hdead =>
    exact orderly_quit hrun (by simp [hui]) (hs.not_running hc hui hdead)
  | mainReturns _ ht =>
    exact ⟨⟨hexit fun hui => hs.done hui _ ht, trivial⟩, trivial⟩
  | create | createBroken | join | checksFinishing | clearsThread | finishes => trivial

/-- `nativeQuit` and `nativeExit` wait until every game that was started has returned, the quit
event is sent at most once and only after a game has been started, and nothing is called after the
exit. -/
theorem shutdown_waits_for_game
    (h : (machine mHasMultiWindow).Run (fun _ _ => True) launched tr s) :
    Justified Orderly [] tr :=
  h.justified fun hrun _ hstep => (Step.of_step (stage_of_run hrun) hstep).orderly hrun

/-- The player leaves while the game runs. -/
def leaving : List Action :=
  foreground ++ [.call (.onBackPressed false), .call .onPause, .call .surfaceDestroyed,
    .call .onStop, .onDestroy, .join]

theorem shutdown_waits_for_game_leaving : ∃ tr s,
    (machine true).Run (fun _ _ => True) launched tr s ∧
      [.start 0, .nativeSendQuit, .mainReturned 0, .nativeQuit, .nativeExit].Sublist tr ∧
        Justified Orderly [] tr := by
  obtain ⟨tr, s, h, hsub⟩ := Machine.Run.exists_of_exec (machine true) (fun _ _ => True) launched
    (leaving ++ [.mainReturns 0, .checksFinishing 0, .joined])
    (fun _ tr => [.start 0, .nativeSendQuit, .mainReturned 0, .nativeQuit, .nativeExit].Sublist tr)
    (by decide)
  exact ⟨tr, s, h, hsub, shutdown_waits_for_game h⟩

/-! ### Getting out -/

def Event.startedThread : Event → Option ℕ
  | .start thread => some thread
  | _             => none

/-- Steps that need neither Android nor the game. -/
def TailStep (_ : State) : Action → Prop
  | .join | .joined | .checksFinishing _ | .clearsThread _ | .finishes _ => True
  | _ => False

/-- The activity gets to its end by itself. -/
def Ends (mHasMultiWindow : Bool) (s : State) : Prop :=
  ∃ s', (machine mHasMultiWindow).Run TailStep s [.nativeQuit, .nativeExit] s' ∧
    s'.ui = .destroyed

lemma Ends.of_step (a : Action) (hok : TailStep s a) (h : step mHasMultiWindow s a = some (s', []))
    (hs' : Ends mHasMultiWindow s') : Ends mHasMultiWindow s := by
  obtain ⟨s'', hrun, hui⟩ := hs'
  exact ⟨s'', (Machine.Run.single hok h).trans hrun, hui⟩

lemma Ends.of_quit (a : Action) (hok : TailStep s a) (h : step mHasMultiWindow s a = some s.quit) :
    Ends mHasMultiWindow s :=
  ⟨_, Machine.Run.single hok h, rfl⟩

lemma goesTo_self {p q : SDLMain} (ht : s.threads[t]? = some p) :
    (s.goesTo t q).threads[t]? = some q := by
  rw [State.goesTo, show s.threads = s.core.threads from rfl, getElem?_set_of_some ht, if_pos rfl]

lemma ends_of_dead (hui : s.ui = .joining t) (ht : s.threads[t]? = some .dead) :
    Ends mHasMultiWindow s := by
  have hstep : step mHasMultiWindow s .joined = some s.quit := by simp [step, hui, ht]
  exact .of_quit .joined trivial hstep

lemma ends_of_cleared (hui : s.ui = .joining t) (ht : s.threads[t]? = some .cleared) :
    Ends mHasMultiWindow s := by
  have hstep : step mHasMultiWindow s (.finishes t) = _ := if_pos ht
  exact .of_step (.finishes t) trivial hstep (ends_of_dead hui (goesTo_self ht))

lemma ends_of_leaving (hui : s.ui = .joining t) (ht : s.threads[t]? = some .leaving) :
    Ends mHasMultiWindow s := by
  have hstep : step mHasMultiWindow s (.clearsThread t) = _ := if_pos ht
  exact .of_step (.clearsThread t) trivial hstep (ends_of_cleared hui (goesTo_self ht))

lemma ends_of_finished (hui : s.ui = .joining t) (ht : s.threads[t]? = some .finished) :
    Ends mHasMultiWindow s := by
  have hstep : step mHasMultiWindow s (.checksFinishing t) = _ := if_pos ht
  refine .of_step (.checksFinishing t) trivial hstep ?_
  rw [State.checksFinishing]
  split_ifs
  · exact ends_of_dead hui (goesTo_self ht)
  · exact ends_of_leaving hui (goesTo_self ht)

lemma ends_of_joining (hui : s.ui = .joining t) {p : SDLMain} (ht : s.threads[t]? = some p)
    (hp : p ≠ .running) : Ends mHasMultiWindow s := by
  cases p with
  | running => exact absurd rfl hp
  | finished => exact ends_of_finished hui ht
  | leaving => exact ends_of_leaving hui ht
  | cleared => exact ends_of_cleared hui ht
  | dead => exact ends_of_dead hui ht

/-- Wherever `onDestroy` waits, it gets to its end by itself once all games have returned. -/
theorem shutdown_ends (h : (machine mHasMultiWindow).Run (fun _ _ => True) launched tr s)
    (hui : s.ui = .quitting ∨ ∃ t, s.ui = .joining t)
    (hreturned : ∀ t, .start t ∈ tr → .mainReturned t ∈ tr) :
    ∃ s', (machine mHasMultiWindow).Run TailStep s [.nativeQuit, .nativeExit] s' ∧
      s'.ui = .destroyed := by
  obtain ⟨hc, ha⟩ := accounts_of_run h
  have hleaves := leaves_of_run h
  have hphase : ∀ t, t < s.threads.length → ∃ p, s.threads[t]? = some p ∧ p ≠ .running := by
    intro t hlt
    have hstart := List.mem_of_mem_filter ((ha.started t).mpr hlt)
    exact (ha.returned t).mp (List.mem_filter.mpr ⟨hreturned t hstart, rfl⟩)
  rcases hui with hui | ⟨t, hui⟩
  · rcases Option.eq_none_or_eq_some s.mSDLThread with hthread | ⟨t, hthread⟩
    · have hstep : step mHasMultiWindow s .join = some s.quit := by
        simp [step, hui, State.join_of_none hthread]
      exact Ends.of_quit .join trivial hstep
    · have hstep : step mHasMultiWindow s .join = some ({ s with ui := .joining t }, []) := by
        simp [step, hui, State.join_of_some hthread]
      obtain ⟨p, hp, -⟩ := hc.held t hthread
      obtain ⟨q, hq, hne⟩ := hphase t (List.getElem?_eq_some_iff.mp hp).1
      exact Ends.of_step .join trivial hstep (ends_of_joining rfl hq hne)
  · obtain ⟨p, hp, hne⟩ := hphase t (hleaves.joining t hui).1
    exact ends_of_joining hui hp hne

theorem shutdown_ends_leaving : ∃ tr s s', (machine true).Run (fun _ _ => True) launched tr s ∧
    s.ui = .joining 0 ∧ (machine true).Run TailStep s [.nativeQuit, .nativeExit] s' := by
  obtain ⟨tr, s, h, hui, hreturned, hstarts⟩ := Machine.Run.exists_of_exec (machine true)
    (fun _ _ => True) launched (leaving ++ [.mainReturns 0])
    (fun s tr => s.ui = .joining 0 ∧ .mainReturned 0 ∈ tr ∧
      tr.filterMap Event.startedThread = [0]) (by decide)
  have hall : ∀ t, .start t ∈ tr → .mainReturned t ∈ tr := by
    intro t ht
    have hmem := List.mem_filterMap.mpr ⟨_, ht, (rfl : Event.startedThread (.start t) = some t)⟩
    rw [hstarts, List.mem_singleton] at hmem
    rwa [hmem]
  obtain ⟨s', hrun, -⟩ := shutdown_ends h (Or.inr ⟨0, hui⟩) hall
  exact ⟨tr, s, s', h, hui, hrun⟩

end AndroidMkxp.Lifecycle
