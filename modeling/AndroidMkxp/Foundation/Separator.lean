import Mathlib.Data.List.Basic
import Mathlib.Tactic.Common

/-!
# Splitting a word at the last occurrence of a separator

`lastIndexOf c s` is the position of the last `c` in `s`, and `splitLast c s` the two parts around
it. The word `a ++ c :: b` splits back into `(a, b)` exactly when `c` does not occur in `b`: what
is joined with a separator is only recovered when the right part is free of it.
-/

namespace Foundation

variable {α : Type*} [DecidableEq α] {c : α} {a b s : List α}

/-- The position of the last occurrence of `c`. -/
def lastIndexOf (c : α) : List α → Option ℕ
  | [] => none
  | x :: s =>
    match lastIndexOf c s with
    | some i => some (i + 1)
    | none => if x = c then some 0 else none

lemma lastIndexOf_eq_none_iff : lastIndexOf c s = none ↔ c ∉ s := by
  induction s with
  | nil => simp [lastIndexOf]
  | cons x s ih =>
    simp only [lastIndexOf, List.mem_cons, not_or]
    cases h : lastIndexOf c s with
    | some i =>
      have hmem : c ∈ s := by
        by_contra hn
        rw [ih.mpr hn] at h
        cases h
      simp [hmem]
    | none => simp [ih.mp h, eq_comm]

lemma lastIndexOf_append_cons (hb : c ∉ b) : lastIndexOf c (a ++ c :: b) = some a.length := by
  induction a with
  | nil => simp [lastIndexOf, lastIndexOf_eq_none_iff.mpr hb]
  | cons x a ih => simp [lastIndexOf, ih]

/-- The parts before and after the last occurrence of `c`. -/
def splitLast (c : α) (s : List α) : Option (List α × List α) :=
  (lastIndexOf c s).map fun i => (s.take i, s.drop (i + 1))

lemma splitLast_eq_none_iff : splitLast c s = none ↔ c ∉ s := by
  simp [splitLast, lastIndexOf_eq_none_iff]

lemma splitLast_append_cons (hb : c ∉ b) : splitLast c (a ++ c :: b) = some (a, b) := by
  simp [splitLast, lastIndexOf_append_cons hb, List.drop_append]

omit [DecidableEq α] in
lemma exists_last_of_mem (h : c ∈ s) : ∃ a b, s = a ++ c :: b ∧ c ∉ b := by
  obtain ⟨b, a, hs, hb⟩ := List.eq_append_cons_of_mem (List.mem_reverse.mpr h)
  refine ⟨a.reverse, b.reverse, ?_, by simpa using hb⟩
  rw [← List.reverse_reverse s, hs]
  simp

theorem splitLast_eq_some_iff : splitLast c s = some (a, b) ↔ s = a ++ c :: b ∧ c ∉ b := by
  constructor
  · intro h
    have hmem : c ∈ s := by
      by_contra hn
      rw [splitLast_eq_none_iff.mpr hn] at h
      cases h
    obtain ⟨a', b', rfl, hb'⟩ := exists_last_of_mem hmem
    rw [splitLast_append_cons hb'] at h
    cases h
    exact ⟨rfl, hb'⟩
  · rintro ⟨rfl, hb⟩
    exact splitLast_append_cons hb

/-- A separator inside the right part moves the split point into it. -/
lemma splitLast_join_of_split {b₁ b₂ : List α} (h : splitLast c b = some (b₁, b₂)) :
    splitLast c (a ++ c :: b) = some (a ++ c :: b₁, b₂) := by
  obtain ⟨rfl, hb₂⟩ := splitLast_eq_some_iff.mp h
  rw [splitLast_eq_some_iff]
  exact ⟨by simp, hb₂⟩

end Foundation
