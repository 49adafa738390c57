import Mathlib.Logic.Relation
import Mathlib.Tactic.Common

/-!
# Machines with actions and events

A `Machine` takes one action at a time. A step that is enabled yields the next state and the
events it emits. `Run ok s₀ tr s` is a run from `s₀` to `s` all of whose steps meet the guard `ok`,
where `tr` is the trace of the events emitted on the way.

The rules below are the only way the rest of the development reasons about whole runs: an
invariant over trace and state, the step behind an event of the trace, and a simulation by a step
relation that may stutter.
-/

namespace Foundation

/-- A partial, labelled transition function that emits events. -/
structure Machine (S A E : Type*) where
  /-- The next state with the events emitted, or `none` where the action is not enabled. -/
  step : S → A → Option (S × List E)

namespace Machine

variable {S A E : Type*} {M : Machine S A E} {ok : S → A → Prop} {s₀ s s' : S}
  {a : A} {tr es : List E}

/-- The runs of a machine from `s₀` whose steps all meet `ok`, with their traces. -/
inductive Run (M : Machine S A E) (ok : S → A → Prop) (s₀ : S) : List E → S → Prop where
  | refl : Run M ok s₀ [] s₀
  | step {tr es : List E} {s s' : S} {a : A} (hrun : Run M ok s₀ tr s) (hok : ok s a)
      (hstep : M.step s a = some (s', es)) : Run M ok s₀ (tr ++ es) s'

namespace Run

lemma single (hok : ok s a) (hstep : M.step s a = some (s', es)) : M.Run ok s es s' := by
  simpa using Run.step .refl hok hstep

lemma trans {s₁ s₂ : S} {tr₁ tr₂ : List E} (h₁ : M.Run ok s₀ tr₁ s₁) (h₂ : M.Run ok s₁ tr₂ s₂) :
    M.Run ok s₀ (tr₁ ++ tr₂) s₂ := by
  induction h₂ with
  | refl => simpa using h₁
  | step _ hok hstep ih =>
    rw [← List.append_assoc]
    exact ih.step hok hstep

/-- Invariant rule. The step premise may use that the state before it is reached by a run, so an
invariant can build on those proved earlier. -/
theorem invariant (I : List E → S → Prop) (hinit : I [] s₀)
    (hstep : ∀ {tr s a s' es}, M.Run ok s₀ tr s → I tr s → ok s a → M.step s a = some (s', es) →
      I (tr ++ es) s')
    (h : M.Run ok s₀ tr s) : I tr s := by
  induction h with
  | refl => exact hinit
  | step hrun hok hs ih => exact hstep hrun ih hok hs

/-- Every event of a run was emitted by one of its steps. -/
theorem exists_step_of_mem {ev : E} (h : M.Run ok s₀ tr s) (hmem : ev ∈ tr) :
    ∃ tr₁ s₁ a es s₂ tr₂, M.Run ok s₀ tr₁ s₁ ∧ ok s₁ a ∧ M.step s₁ a = some (s₂, es) ∧ ev ∈ es ∧
      M.Run ok s₂ tr₂ s ∧ tr = tr₁ ++ (es ++ tr₂) := by
  induction h with
  | refl => cases hmem
  | step hrun hok hstep ih =>
    rcases List.mem_append.mp hmem with hearlier | hlast
    · obtain ⟨tr₁, s₁, a, es, s₂, tr₂, hrun₁, hok₁, hstep₁, hev, hrun₂, rfl⟩ := ih hearlier
      exact ⟨tr₁, s₁, a, es, s₂, _, hrun₁, hok₁, hstep₁, hev, hrun₂.step hok hstep, by simp⟩
    · exact ⟨_, _, _, _, _, [], hrun, hok, hstep, hlast, .refl, by simp⟩

/-- Simulation rule. If every step is matched by finitely many steps (possibly none) of `next`
between the abstractions of its end states, so is every run. -/
theorem simulation {T : Type*} {next : T → T → Prop} (abs : S → T)
    (hstep : ∀ {tr s a s' es}, M.Run ok s₀ tr s → ok s a → M.step s a = some (s', es) →
      Relation.ReflTransGen next (abs s) (abs s'))
    (h : M.Run ok s₀ tr s) : Relation.ReflTransGen next (abs s₀) (abs s) := by
  induction h with
  | refl => exact .refl
  | step hrun hok hs ih => exact ih.trans (hstep hrun hok hs)

end Run

/-! ### Executing a list of actions -/

/-- Take the actions in turn, as long as each meets the guard and is enabled. -/
def exec (M : Machine S A E) (ok : S → A → Prop) [∀ s a, Decidable (ok s a)] (s : S) :
    List A → Option (S × List E)
  | [] => some (s, [])
  | a :: as =>
    if ok s a then
      match M.step s a with
      | none => none
      | some (s', es) => (M.exec ok s' as).map fun r => (r.1, es ++ r.2)
    else none

lemma Run.of_exec [∀ s a, Decidable (ok s a)] {as : List A}
    (h : M.exec ok s as = some (s', tr)) : M.Run ok s tr s' := by
  induction as generalizing s tr with
  | nil =>
    simp only [exec, Option.some.injEq, Prod.mk.injEq] at h
    obtain ⟨rfl, rfl⟩ := h
    exact .refl
  | cons a as ih =>
    simp only [exec] at h
    split_ifs at h with hok
    split at h
    · cases h
    · next s₁ es hs =>
      obtain ⟨⟨s₂, tr₂⟩, hr, heq⟩ := Option.map_eq_some_iff.mp h
      simp only [Prod.mk.injEq] at heq
      obtain ⟨rfl, rfl⟩ := heq
      exact (Run.single hok hs).trans (ih hr)

/-- A run that `exec` finds. -/
lemma Run.exists_of_exec (M : Machine S A E) (ok : S → A → Prop) [∀ s a, Decidable (ok s a)]
    (s : S) (as : List A) (P : S → List E → Prop) (h : ∃ r ∈ M.exec ok s as, P r.1 r.2) :
    ∃ tr s', M.Run ok s tr s' ∧ P s' tr := by
  obtain ⟨⟨s', tr⟩, hr, hP⟩ := h
  exact ⟨tr, s', Run.of_exec hr, hP⟩

/-- A run that `exec` finds, with one more step. -/
lemma Run.exists_step_of_exec (M : Machine S A E) (ok : S → A → Prop) [∀ s a, Decidable (ok s a)]
    (s : S) (as : List A) (a : A) (P : S → S → List E → Prop)
    (h : ∃ r ∈ M.exec ok s as, ∃ r' ∈ M.step r.1 a, P r.1 r'.1 r'.2) :
    ∃ tr s₁ s₂ es, M.Run ok s tr s₁ ∧ M.step s₁ a = some (s₂, es) ∧ P s₁ s₂ es := by
  obtain ⟨⟨s₁, tr⟩, hr, ⟨s₂, es⟩, hstep, hP⟩ := h
  exact ⟨tr, s₁, s₂, es, Run.of_exec hr, hstep, hP⟩

end Machine
end Foundation
