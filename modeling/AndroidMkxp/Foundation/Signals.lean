import Mathlib.Order.BooleanAlgebra.Set
import Mathlib.Data.List.Chain
import Mathlib.Tactic.Common

/-!
# Signals that switch lines on and off

A sequence of signals switches lines on and off; `after h es` are the lines that are on after `es`
when those of `h` were on before. A signal is effective where it changes its line. All signals are
effective exactly when those of every single line alternate (`along_effective_iff`), which is how a
sequence that several components contribute to is reasoned about: each component drives its own
lines, and a line of another component is left alone (`Drives.frame`).
-/

namespace Foundation

/-- A line is switched on or off. -/
inductive Signal (K : Type*) where
  | on (line : K)
  | off (line : K)
  deriving DecidableEq, Repr

variable {K : Type*} {g h h' h'' : Set K} {e : Signal K} {es es' : List (Signal K)} {k : K}

namespace Signal

def line : Signal K → K
  | on k  => k
  | off k => k

/-- Whether the line is on after the signal. -/
def level : Signal K → Bool
  | on _  => true
  | off _ => false

def apply (h : Set K) : Signal K → Set K
  | on k  => insert k h
  | off k => h \ {k}

/-- The signal changes its line. -/
def Effective (h : Set K) : Signal K → Prop
  | on k  => k ∉ h
  | off k => k ∈ h

/-- No line is switched off that is not on. -/
def Matched (h : Set K) : Signal K → Prop
  | on _  => True
  | off k => k ∈ h

lemma Effective.matched (he : e.Effective h) : e.Matched h := by
  cases e with
  | on k => trivial
  | off k => exact he

lemma mem_apply_self : e.line ∈ e.apply h ↔ e.level = true := by
  cases e <;> simp [apply, line, level]

lemma mem_apply_of_ne (hk : e.line ≠ k) : k ∈ e.apply h ↔ k ∈ h := by
  cases e with
  | on k' => exact Set.mem_insert_iff.trans (or_iff_right (Ne.symm hk))
  | off k' => exact and_iff_left (Ne.symm hk)

lemma effective_iff : e.Effective h ↔ ¬(e.line ∈ h ↔ e.level = true) := by
  cases e <;> simp [Effective, line, level]

lemma apply_union (hg : e.line ∉ g) : e.apply (h ∪ g) = e.apply h ∪ g := by
  cases e with
  | on k => exact Set.insert_union.symm
  | off k =>
    have hk : g \ {k} = g := Set.sdiff_singleton_eq_self hg
    rw [apply, apply, Set.union_sdiff_distrib, hk]

lemma effective_union (hg : e.line ∉ g) : e.Effective (h ∪ g) ↔ e.Effective h := by
  simp [effective_iff, hg]

end Signal

/-- The lines that are on after `es`. -/
def after (h : Set K) (es : List (Signal K)) : Set K := es.foldl Signal.apply h

/-- Every signal meets `P` in the state of the lines that it finds. -/
def Along (P : Set K → Signal K → Prop) (h : Set K) : List (Signal K) → Prop
  | []      => True
  | e :: es => P h e ∧ Along P (e.apply h) es

@[simp] lemma after_nil : after h [] = h := rfl

@[simp] lemma after_cons : after h (e :: es) = after (e.apply h) es := rfl

@[simp] lemma along_nil {P : Set K → Signal K → Prop} : Along P h [] ↔ True := Iff.rfl

@[simp] lemma along_cons {P : Set K → Signal K → Prop} :
    Along P h (e :: es) ↔ P h e ∧ Along P (e.apply h) es := Iff.rfl

lemma after_append : after h (es ++ es') = after (after h es) es' := List.foldl_append

lemma after_mono (hgh : g ⊆ h) : after g es ⊆ after h es := by
  induction es generalizing g h with
  | nil => exact hgh
  | cons e es ih =>
    refine ih ?_
    cases e with
    | on k => exact Set.insert_subset_insert hgh
    | off k => exact Set.sdiff_subset_sdiff_left hgh

lemma along_append {P : Set K → Signal K → Prop} :
    Along P h (es ++ es') ↔ Along P h es ∧ Along P (after h es) es' := by
  induction es generalizing h with
  | nil => simp
  | cons e es ih => simp [ih, and_assoc]

lemma Along.imp {P Q : Set K → Signal K → Prop} (hPQ : ∀ h e, P h e → Q h e)
    (h : Along P g es) : Along Q g es := by
  induction es generalizing g with
  | nil => trivial
  | cons e es ih => exact ⟨hPQ g e h.1, ih h.2⟩

/-! ### One line -/

variable [DecidableEq K]

/-- The signals of line `k`: `true` is on. -/
def levels (k : K) (es : List (Signal K)) : List Bool :=
  es.filterMap fun e => if e.line = k then some e.level else none

lemma levels_cons_self : levels e.line (e :: es) = e.level :: levels e.line es := by
  simp [levels]

lemma levels_cons_of_ne (hk : e.line ≠ k) : levels k (e :: es) = levels k es := by
  simp [levels, hk]

/-- A line is on if its last signal was on, or if it has had no signal and was on before. -/
theorem mem_after_iff {b : Bool} (hb : b = true ↔ k ∈ h) :
    k ∈ after h es ↔ ((levels k es).getLast?.getD b) = true := by
  induction es generalizing h b with
  | nil => exact hb.symm
  | cons e es ih =>
    rw [after_cons]
    by_cases hk : e.line = k
    · subst hk
      rw [ih Signal.mem_apply_self.symm, levels_cons_self, List.getLast?_cons]
      rfl
    · rw [ih (hb.trans (Signal.mem_apply_of_ne hk).symm), levels_cons_of_ne hk]

/-- All signals are effective exactly if those of each line alternate, starting against the state
that the line has at first. -/
theorem along_effective_iff : Along Signal.Effective h es ↔
    ∀ k b, (b = true ↔ k ∈ h) → (b :: levels k es).IsChain (· ≠ ·) := by
  induction es generalizing h with
  | nil => simp [levels]
  | cons e es ih =>
    rw [along_cons, ih]
    constructor
    · rintro ⟨heff, hrest⟩ k b hb
      by_cases hk : e.line = k
      · subst hk
        rw [levels_cons_self, List.isChain_cons_cons]
        refine ⟨?_, hrest e.line e.level Signal.mem_apply_self.symm⟩
        rintro rfl
        exact Signal.effective_iff.mp heff hb.symm
      · rw [levels_cons_of_ne hk]
        exact hrest k b (hb.trans (Signal.mem_apply_of_ne hk).symm)
    · intro hall
      constructor
      · rw [Signal.effective_iff]
        intro hsame
        have hchain := hall e.line e.level hsame.symm
        rw [levels_cons_self, List.isChain_cons_cons] at hchain
        exact hchain.1 rfl
      · intro k b hb
        by_cases hk : e.line = k
        · subst hk
          cases Bool.eq_iff_iff.mpr (hb.trans Signal.mem_apply_self)
          classical
          have hchain := hall e.line (decide (e.line ∈ h)) (by simp)
          rw [levels_cons_self, List.isChain_cons_cons] at hchain
          exact hchain.2
        · have hchain := hall k b (hb.trans (Signal.mem_apply_of_ne hk))
          rwa [levels_cons_of_ne hk] at hchain

omit [DecidableEq K]

/-! ### Components that drive lines -/

/-- The signals are all effective and take the lines that are on from `h` to `h'`. -/
structure Drives (h : Set K) (es : List (Signal K)) (h' : Set K) : Prop where
  effective : Along Signal.Effective h es
  after_eq : after h es = h'

namespace Drives

lemma nil : Drives h [] h := ⟨trivial, rfl⟩

lemma on (hk : k ∉ h) : Drives h [.on k] (insert k h) := ⟨⟨hk, trivial⟩, rfl⟩

lemma off (hk : k ∈ h) : Drives h [.off k] (h \ {k}) := ⟨⟨hk, trivial⟩, rfl⟩

theorem append (h₁ : Drives h es h') (h₂ : Drives h' es' h'') : Drives h (es ++ es') h'' := by
  obtain ⟨heff, rfl⟩ := h₁
  exact ⟨along_append.mpr ⟨heff, h₂.effective⟩, by rw [after_append, h₂.after_eq]⟩

/-- Lines that no signal names stay as they are. -/
theorem frame (hd : Drives h es h') (hg : ∀ e ∈ es, e.line ∉ g) :
    Drives (h ∪ g) es (h' ∪ g) := by
  obtain ⟨heff, rfl⟩ := hd
  induction es generalizing h with
  | nil => exact nil
  | cons e es ih =>
    rw [List.forall_mem_cons] at hg
    rw [along_cons] at heff
    obtain ⟨heff', hafter⟩ := ih hg.2 heff.2
    rw [← Signal.apply_union hg.1] at heff' hafter
    exact ⟨⟨(Signal.effective_union hg.1).mpr heff.1, heff'⟩, hafter⟩

end Drives

/-- The signals switch off only lines that are on, and take the lines that are on from `h` to
`h'`. -/
structure Settles (h : Set K) (es : List (Signal K)) (h' : Set K) : Prop where
  matched : Along Signal.Matched h es
  after_eq : after h es = h'

namespace Settles

lemma nil : Settles h [] h := ⟨trivial, rfl⟩

/-- A line may be switched on again. -/
lemma on (hk : k ∈ h) : Settles h [.on k] h := ⟨⟨trivial, trivial⟩, Set.insert_eq_of_mem hk⟩

lemma of_drives (hd : Drives h es h') : Settles h es h' :=
  ⟨hd.effective.imp fun _ _ => Signal.Effective.matched, hd.after_eq⟩

theorem append (h₁ : Settles h es h') (h₂ : Settles h' es' h'') : Settles h (es ++ es') h'' := by
  obtain ⟨hmatched, rfl⟩ := h₁
  exact ⟨along_append.mpr ⟨hmatched, h₂.matched⟩, by rw [after_append, h₂.after_eq]⟩

end Settles
end Foundation
