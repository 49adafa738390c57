import AndroidMkxp.Activity.Native

/-!
# The game thread

The activity starts `SDL_main` on a thread of its own, which ends when the game does, and which
takes itself out of the activity then. Any number of games can follow one another, but there is
never more than one, and `nativePause` and `nativeResume` reach it in turn.

The proofs are about the native layer by itself (`CoreStep`), which every step of the activity
refines (`Step.core`).
-/

namespace AndroidMkxp.Lifecycle

open Foundation

variable {mHasMultiWindow : Bool} {s s' : State} {c c' : Core} {tr es : List Event}
  {ok : State → Action → Prop} {t : ℕ} {p : SDLMain}

/-! ### Steps of the native layer -/

inductive CoreStep (c : Core) : Core → List Event → Prop where
  | switch {c' : Core} {es : List Event} (h : Switch c c' es) : CoreStep c c' es
  | mainReturns {t : ℕ} (hthread : c.threads[t]? = some .running) :
      CoreStep c { c with threads := c.threads.set t .finished } [.mainReturned t]
  | checksFinishing {t : ℕ} {p : SDLMain} (hthread : c.threads[t]? = some .finished)
      (hp : p = .dead ∨ p = .leaving) : CoreStep c { c with threads := c.threads.set t p } []
  | clearsThread {t : ℕ} (hthread : c.threads[t]? = some .leaving) :
      CoreStep c { c with thread := none, threads := c.threads.set t .cleared } []
  | finishes {t : ℕ} (hthread : c.threads[t]? = some .cleared) :
      CoreStep c { c with threads := c.threads.set t .dead } []

/-- Whether the surface is ready is no matter of the native layer by itself. -/
lemma core_setReady {surface : SDLSurface} (hsurface : s.mSurface = some surface) (ready : Bool) :
    State.core { s with mSurface := some { surface with mIsSurfaceReady := ready } } = s.core := by
  simp [State.core, State.listening, hsurface]

lemma core_mapReady (ready : Bool) :
    State.core
      { s with mSurface := s.mSurface.map fun surface =>
        { surface with mIsSurfaceReady := ready } } = s.core := by
  simp [State.core, State.listening, Option.any_map]

lemma Reaction.switch {callback : Callback} (h : Reaction mHasMultiWindow s callback s' es) :
    Switch s.core s'.core (es.filter Event.switches) := by
  cases h with
  | quiet hes =>
    have hnone : es.filter Event.switches = [] := by
      refine List.filter_eq_nil_iff.mpr fun e he => ?_
      rcases hes e he with rfl | rfl <;> simp [Event.switches]
    rw [hnone]
    exact .keep
  | finish hes =>
    have hnone : es.filter Event.switches = [] :=
      List.filter_eq_nil_iff.mpr fun e he => by simp [hes e he, Event.switches]
    rw [hnone]
    exact .keep
  | pauseNativeThread h | resumeNativeThread h | losesFocus _ h => exact h.switch
  | gainsFocus h =>
    rw [List.filter_append, show List.filter Event.switches [_, _] = [] from rfl, List.append_nil]
    exact h.switch
  | keepsRunning => exact .keep
  | skip hsurface =>
    rw [core_setReady hsurface]
    exact .keep
  | surfaceReady hsurface h =>
    rw [← core_setReady hsurface true]
    exact h.switch
  | surfaceLost h =>
    rw [core_mapReady, List.filter_append, show List.filter Event.switches [_] = [] from rfl,
      List.append_nil]
    exact h.switch

/-- Every step of the activity is one of the native layer. -/
theorem Step.core {a : Action} (h : Step mHasMultiWindow s a s' es) :
    CoreStep s.core s'.core (es.filter Event.switches) := by
  cases h with
  | create hs | createBroken hs =>
    subst hs
    exact .switch .keep
  | broken hs hs' _ hes =>
    have hnone : es.filter Event.switches = [] := by
      refine List.filter_eq_nil_iff.mpr fun e he => ?_
      rcases hes e he with rfl | rfl | rfl <;> simp [Event.switches]
    rw [hnone, hs'.core_eq, ← hs.core_eq]
    exact .switch .keep
  | call _ _ h => exact .switch h.switch
  | onDestroy | join | quit | joined => exact .switch .keep
  | mainReturns _ hthread => exact .mainReturns hthread
  | checksFinishing _ hthread =>
    refine .checksFinishing hthread ?_
    split_ifs
    · exact Or.inl rfl
    · exact Or.inr rfl
  | clearsThread _ hthread => exact .clearsThread hthread
  | finishes _ hthread => exact .finishes hthread

/-! ### Who writes `mSDLThread` -/

/-- Up to its last access of `mSDLThread`, a thread is the one that the field holds. -/
structure Owned (c : Core) : Prop where
  holds : ∀ t p, c.threads[t]? = some p → p ≠ .cleared → p ≠ .dead → c.thread = some t
  held : ∀ t, c.thread = some t → ∃ p, c.threads[t]? = some p ∧ p ≠ .cleared
  fresh : c.current = .init → c.thread = none

lemma Switch.owned (h : Switch c c' es) (hc : Owned c) : Owned c' := by
  cases h with
  | keep => exact hc
  | pause | resume => exact ⟨hc.holds, hc.held, fun h => by cases h⟩
  | start hcurrent hthread =>
    constructor
    · intro t p hp hcleared hdead
      rw [List.getElem?_append] at hp
      split_ifs at hp with hlt
      · have hheld := hc.holds t p hp hcleared hdead
        rw [hthread] at hheld
        cases hheld
      · have hlast := (List.getElem?_eq_some_iff.mp hp).1
        have : t = c.threads.length := by
          simp only [List.length_cons, List.length_nil] at hlast
          omega
        rw [this]
    · intro t ht
      cases ht
      exact ⟨.running, List.getElem?_concat_length, by simp⟩
    · intro h
      cases h

lemma getElem?_set_of_some {q : SDLMain} {u : ℕ} (ht : c.threads[t]? = some p) :
    (c.threads.set t q)[u]? = if u = t then some q else c.threads[u]? := by
  obtain ⟨hlt, -⟩ := List.getElem?_eq_some_iff.mp ht
  by_cases hu : u = t
  · rw [if_pos hu, hu, List.getElem?_set_self hlt]
  · rw [if_neg hu, List.getElem?_set_ne (Ne.symm hu)]

/-- The thread that the field holds goes on. -/
lemma Owned.set (hc : Owned c) {q : SDLMain} (ht : c.threads[t]? = some p) (hp : p ≠ .cleared)
    (hdead : p ≠ .dead) (hq : q ≠ .cleared) : Owned { c with threads := c.threads.set t q } := by
  have hheld := hc.holds t p ht hp hdead
  constructor
  · intro u r hr hcleared hdead'
    rw [getElem?_set_of_some ht] at hr
    split_ifs at hr with hu
    · rw [hu]
      exact hheld
    · exact hc.holds u r hr hcleared hdead'
  · intro u hu
    rw [getElem?_set_of_some ht]
    split_ifs with hut
    · exact ⟨q, rfl, hq⟩
    · exact hc.held u hu
  · exact hc.fresh

lemma CoreStep.owned (h : CoreStep c c' es) (hc : Owned c) : Owned c' := by
  cases h with
  | switch h => exact h.owned hc
  | mainReturns ht => exact hc.set ht (by simp) (by simp) (by simp)
  | checksFinishing ht hp =>
    exact hc.set ht (by simp) (by simp) (by rcases hp with rfl | rfl <;> simp)
  | clearsThread ht =>
    have hheld := hc.holds _ _ ht (by simp) (by simp)
    refine ⟨fun u r hr hcleared hdead => ?_, fun u hu => (by cases hu), fun _ => rfl⟩
    rw [getElem?_set_of_some ht] at hr
    split_ifs at hr with hu
    · cases hr
      exact absurd rfl hcleared
    · have hother := hc.holds u r hr hcleared hdead
      rw [hheld] at hother
      exact absurd (Option.some.inj hother).symm hu
  | finishes ht =>
    constructor
    · intro u r hr hcleared hdead
      rw [getElem?_set_of_some ht] at hr
      split_ifs at hr with hu
      · cases hr
        exact absurd rfl hdead
      · exact hc.holds u r hr hcleared hdead
    · intro u hu
      rw [getElem?_set_of_some ht]
      split_ifs with hut
      · exact ⟨.dead, rfl, by simp⟩
      · exact hc.held u hu
    · exact hc.fresh

/-! ### What the calls say about the threads -/

def Event.signal : Event → Option (Signal ℕ)
  | .start thread | .nativeResume thread => some (.on thread)
  | .nativePause thread                  => some (.off thread)
  | _                                    => none

/-- The threads that have last been started or resumed, not paused. -/
def active (tr : List Event) : Set ℕ := after ∅ (tr.filterMap Event.signal)

/-- The calls so far and the threads, where only the calls that switch are looked at. -/
structure Accounts (tr : List Event) (c : Core) : Prop where
  started : ∀ t, .start t ∈ tr ↔ t < c.threads.length
  returned : ∀ t, .mainReturned t ∈ tr ↔ ∃ p, c.threads[t]? = some p ∧ p ≠ .running
  effective : Along Signal.Effective ∅ (tr.filterMap Event.signal)
  held : ∀ t, c.thread = some t → (t ∈ active tr ↔ c.current = .resumed)
  /-- A thread that is active and not held has nothing left to run. -/
  stale : ∀ t ∈ active tr, c.thread ≠ some t → .mainReturned t ∈ tr

lemma active_append : active (tr ++ es) = after (active tr) (es.filterMap Event.signal) := by
  rw [active, List.filterMap_append, after_append]
  rfl

lemma effective_append :
    Along Signal.Effective ∅ ((tr ++ es).filterMap Event.signal) ↔
      Along Signal.Effective ∅ (tr.filterMap Event.signal) ∧
        Along Signal.Effective (active tr) (es.filterMap Event.signal) := by
  rw [List.filterMap_append, along_append]
  rfl

lemma Accounts.lt_of_active (h : Accounts tr c) (hc : Owned c) (ht : t ∈ active tr) :
    t < c.threads.length := by
  by_cases hheld : c.thread = some t
  · obtain ⟨p, hp, -⟩ := hc.held t hheld
    exact (List.getElem?_eq_some_iff.mp hp).1
  · obtain ⟨p, hp, -⟩ := (h.returned t).mp (h.stale t ht hheld)
    exact (List.getElem?_eq_some_iff.mp hp).1

lemma active_start : active (tr ++ [.start t]) = insert t (active tr) := active_append

lemma active_nativeResume : active (tr ++ [.nativeResume t]) = insert t (active tr) :=
  active_append

lemma active_nativePause : active (tr ++ [.nativePause t]) = active tr \ {t} := active_append

lemma active_mainReturned : active (tr ++ [.mainReturned t]) = active tr := active_append

namespace Accounts

lemma pause (hc : Owned c) (ha : Accounts tr c) (hcurrent : c.current ≠ .paused)
    (ht : c.thread = some t) :
    Accounts (tr ++ [.nativePause t]) { c with current := .paused, listening := false } := by
  have hresumed : c.current = .resumed := by
    cases h : c.current with
    | init => simp [hc.fresh h] at ht
    | resumed => rfl
    | paused => exact absurd h hcurrent
  have hactive : t ∈ active tr := (ha.held t ht).mpr hresumed
  constructor
  · simpa using ha.started
  · simpa using ha.returned
  · exact effective_append.mpr ⟨ha.effective, hactive, trivial⟩
  · intro u hu
    obtain rfl : t = u := Option.some.inj (ht.symm.trans hu)
    simp [active_nativePause]
  · intro u hu hne
    rw [active_nativePause] at hu
    exact List.mem_append_left _ (ha.stale u hu.1 hne)

lemma start (hc : Owned c) (ha : Accounts tr c) (ht : c.thread = none) :
    Accounts (tr ++ [.start c.threads.length])
      ⟨.resumed, true, some c.threads.length, c.threads ++ [.running]⟩ := by
  have hnew : c.threads.length ∉ active tr := fun h => absurd (ha.lt_of_active hc h) (by simp)
  constructor
  · intro u
    simp only [List.mem_append, ha.started, List.mem_singleton, Event.start.injEq,
      List.length_append, List.length_singleton]
    omega
  · intro u
    simp only [List.mem_append, ha.returned, List.mem_singleton, reduceCtorEq, or_false]
    constructor
    · rintro ⟨p, hp, hne⟩
      exact ⟨p, (List.getElem?_append_left (List.getElem?_eq_some_iff.mp hp).1).trans hp, hne⟩
    · rintro ⟨p, hp, hne⟩
      rw [List.getElem?_append] at hp
      split_ifs at hp with hlt
      · exact ⟨p, hp, hne⟩
      · rw [List.getElem?_singleton] at hp
        split_ifs at hp
        exact absurd (Option.some.inj hp).symm hne
  · exact effective_append.mpr ⟨ha.effective, hnew, trivial⟩
  · intro u hu
    obtain rfl : c.threads.length = u := Option.some.inj hu
    simp [active_start]
  · intro u hu hne
    rw [active_start] at hu
    have hold : u ∈ active tr :=
      Set.mem_of_mem_insert_of_ne hu fun h => hne (congrArg some h.symm)
    exact List.mem_append_left _ (ha.stale u hold (by simp [ht]))

lemma resume (ha : Accounts tr c) (hcurrent : c.current ≠ .resumed) (ht : c.thread = some t) :
    Accounts (tr ++ [.nativeResume t]) { c with current := .resumed, listening := true } := by
  have hpaused : t ∉ active tr := fun h => hcurrent ((ha.held t ht).mp h)
  constructor
  · simpa using ha.started
  · simpa using ha.returned
  · exact effective_append.mpr ⟨ha.effective, hpaused, trivial⟩
  · intro u hu
    obtain rfl : t = u := Option.some.inj (ht.symm.trans hu)
    simp [active_nativeResume]
  · intro u hu hne
    rw [active_nativeResume] at hu
    have hold : u ∈ active tr :=
      Set.mem_of_mem_insert_of_ne hu fun h => hne (ht.trans (congrArg some h.symm))
    exact List.mem_append_left _ (ha.stale u hold hne)

/-- A thread goes on, still held by the field or not. -/
lemma set (ha : Accounts tr c) {q : SDLMain} {thread : Option ℕ} (ht : c.threads[t]? = some p)
    (hp : p ≠ .running) (hq : q ≠ .running)
    (hthread : thread = c.thread ∨ thread = none ∧ c.thread = some t) :
    Accounts tr { c with thread := thread, threads := c.threads.set t q } := by
  have hreturned : .mainReturned t ∈ tr := (ha.returned t).mpr ⟨p, ht, hp⟩
  constructor
  · simpa using ha.started
  · intro u
    rw [getElem?_set_of_some ht]
    split_ifs with hu
    · subst hu
      exact iff_of_true hreturned ⟨q, rfl, hq⟩
    · exact ha.returned u
  · exact ha.effective
  · intro u hu
    rcases hthread with rfl | ⟨rfl, -⟩
    · exact ha.held u hu
    · cases hu
  · intro u hu hne
    rcases hthread with rfl | ⟨rfl, hheld⟩
    · exact ha.stale u hu hne
    · by_cases hut : u = t
      · rw [hut]
        exact hreturned
      · exact ha.stale u hu fun h => hut (Option.some.inj (h.symm.trans hheld))

lemma mainReturns (ha : Accounts tr c) (ht : c.threads[t]? = some .running) :
    Accounts (tr ++ [.mainReturned t]) { c with threads := c.threads.set t .finished } := by
  constructor
  · simpa using ha.started
  · intro u
    rw [getElem?_set_of_some ht]
    split_ifs with hu
    · simp [hu]
    · simpa [hu] using ha.returned u
  · exact effective_append.mpr ⟨ha.effective, trivial⟩
  · intro u hu
    rw [active_mainReturned]
    exact ha.held u hu
  · intro u hu hne
    rw [active_mainReturned] at hu
    exact List.mem_append_left _ (ha.stale u hu hne)

end Accounts

lemma Switch.accounts (h : Switch c c' es) (hc : Owned c) (ha : Accounts tr c) :
    Accounts (tr ++ es) c' := by
  cases h with
  | keep => simpa using ha
  | pause hcurrent =>
    rcases Option.eq_none_or_eq_some c.thread with ht | ⟨t, ht⟩
    · rw [ht, Option.toList_none, List.map_nil, List.append_nil]
      exact ⟨ha.started, ha.returned, ha.effective, fun u hu => (by cases hu),
        fun u hu _ => ha.stale u hu (by simp [ht])⟩
    · have h := ha.pause hc hcurrent ht
      rw [ht] at h ⊢
      exact h
  | start hcurrent ht => exact ha.start hc ht
  | resume hcurrent ht => exact ha.resume hcurrent ht

theorem CoreStep.accounts (h : CoreStep c c' es) (hc : Owned c) (ha : Accounts tr c) :
    Accounts (tr ++ es) c' := by
  cases h with
  | switch h => exact h.accounts hc ha
  | mainReturns ht => exact ha.mainReturns ht
  | checksFinishing ht hp =>
    rw [List.append_nil]
    exact ha.set ht (by simp) (by rcases hp with rfl | rfl <;> simp) (Or.inl rfl)
  | clearsThread ht =>
    rw [List.append_nil]
    exact ha.set ht (by simp) (by simp) (Or.inr ⟨rfl, hc.holds _ _ ht (by simp) (by simp)⟩)
  | finishes ht =>
    rw [List.append_nil]
    exact ha.set ht (by simp) (by simp) (Or.inl rfl)

/-! ### Runs -/

lemma accounts_of_run (h : (machine mHasMultiWindow).Run ok launched tr s) :
    Owned s.core ∧ Accounts (tr.filter Event.switches) s.core := by
  refine invariant_of_run
    (fun tr s => Owned s.core ∧ Accounts (tr.filter Event.switches) s.core) ?_ ?_ h
  · constructor
    · constructor <;> simp [State.core, launched]
    · constructor <;> simp [State.core, launched, active]
  · rintro tr s a s' es ⟨hc, ha⟩ - hstep
    rw [List.filter_append]
    exact ⟨hstep.core.owned hc, hstep.core.accounts hc ha⟩

lemma filterMap_signal_filter :
    (tr.filter Event.switches).filterMap Event.signal = tr.filterMap Event.signal := by
  rw [List.filterMap_filter]
  refine List.filterMap_congr fun e _ => ?_
  cases e <;> rfl

lemma active_filter : active (tr.filter Event.switches) = active tr := by
  rw [active, active, filterMap_signal_filter]

/-- `nativePause` and `nativeResume` reach each game in turn, beginning with a pause after its
start, and the game that the activity holds has been resumed last exactly while the activity counts
itself as resumed. -/
theorem native_calls_alternate (h : (machine mHasMultiWindow).Run (fun _ _ => True) launched tr s) :
    Along Signal.Effective ∅ (tr.filterMap Event.signal) ∧
      ∀ t, s.mSDLThread = some t → (t ∈ active tr ↔ s.mCurrentNativeState = .resumed) := by
  obtain ⟨-, ha⟩ := accounts_of_run h
  have heffective := ha.effective
  have hheld := ha.held
  rw [filterMap_signal_filter] at heffective
  rw [active_filter] at hheld
  exact ⟨heffective, hheld⟩

theorem native_calls_alternate_foreground : ∃ tr s,
    (machine true).Run (fun _ _ => True) launched tr s ∧
      [.start 0, .nativePause 0, .nativeResume 0, .nativePause 0].Sublist tr ∧
        Along Signal.Effective ∅ (tr.filterMap Event.signal) := by
  obtain ⟨tr, s, h, hsub⟩ := Machine.Run.exists_of_exec (machine true) (fun _ _ => True) launched
    (foreground ++ [.call .onPause, .call .onStop, .call .onStart, .call .onResume, .call .onStop])
    (fun _ tr => [.start 0, .nativePause 0, .nativeResume 0, .nativePause 0].Sublist tr)
    (by decide)
  exact ⟨tr, s, h, hsub, (native_calls_alternate h).1⟩

/-- A game starts when all earlier ones have returned, and returns once. -/
def OneGame (past : List Event) : Event → Prop
  | .start thread =>
    .start thread ∉ past ∧ ∀ thread', .start thread' ∈ past → .mainReturned thread' ∈ past
  | .mainReturned thread => .start thread ∈ past ∧ .mainReturned thread ∉ past
  | _ => True

lemma oneGame_iff (past : List Event) (e : Event) :
    OneGame past e ↔ (e.switches = true → OneGame (past.filter Event.switches) e) := by
  cases e <;> simp [OneGame, Event.switches, List.mem_filter]

/-- Without a thread in the field, no game is running. -/
lemma Accounts.returned_of_none (ha : Accounts tr c) (hc : Owned c) (hnone : c.thread = none)
    (ht : .start t ∈ tr) : .mainReturned t ∈ tr := by
  have hlt := (ha.started t).mp ht
  refine (ha.returned t).mpr ⟨c.threads[t], List.getElem?_eq_getElem hlt, fun hrunning => ?_⟩
  have hheld := hc.holds t .running (hrunning ▸ List.getElem?_eq_getElem hlt) (by simp) (by simp)
  simp [hnone] at hheld

lemma CoreStep.oneGame (h : CoreStep c c' es) (hc : Owned c) (ha : Accounts tr c) :
    Justified OneGame tr es := by
  cases h with
  | switch h =>
    cases h with
    | keep => trivial
    | pause =>
      refine justified_of_forall fun e he past => ?_
      obtain ⟨t, -, rfl⟩ := List.mem_map.mp he
      trivial
    | start _ hthread =>
      refine ⟨⟨fun hold => ?_, fun t ht => ha.returned_of_none hc hthread ht⟩, trivial⟩
      exact absurd ((ha.started _).mp hold) (by simp)
    | resume => exact ⟨trivial, trivial⟩
  | mainReturns ht =>
    refine ⟨⟨?_, fun hold => ?_⟩, trivial⟩
    · exact (ha.started _).mpr (List.getElem?_eq_some_iff.mp ht).1
    · obtain ⟨p, hp, hne⟩ := (ha.returned _).mp hold
      exact hne (Option.some.inj (hp.symm.trans ht))
  | checksFinishing | clearsThread | finishes => trivial

/-- Games run one at a time, although the thread of a game that has returned may still be there
when the next one starts. -/
theorem games_run_one_at_a_time
    (h : (machine mHasMultiWindow).Run (fun _ _ => True) launched tr s) :
    Justified OneGame [] tr := by
  refine h.justified ?_
  intro tr s a s' es hrun _ hstep
  obtain ⟨hc, ha⟩ := accounts_of_run hrun
  rw [justified_filter_iff oneGame_iff]
  exact (Step.of_step (stage_of_run hrun) hstep).core.oneGame hc ha

/-- The second game starts while the first thread is on its way out. -/
theorem games_run_one_at_a_time_foreground : ∃ tr s,
    (machine true).Run (fun _ _ => True) launched tr s ∧ .start 1 ∈ tr ∧
      s.threads = [.cleared, .running] ∧ Justified OneGame [] tr := by
  obtain ⟨tr, s, h, hmem, hthreads⟩ := Machine.Run.exists_of_exec (machine true) (fun _ _ => True)
    launched
    (foreground ++ [.mainReturns 0, .checksFinishing 0, .clearsThread 0, .call .onStop,
      .call .onStart])
    (fun s tr => .start 1 ∈ tr ∧ s.threads = [.cleared, .running]) (by decide)
  exact ⟨tr, s, h, hmem, hthreads, games_run_one_at_a_time h⟩

end AndroidMkxp.Lifecycle
