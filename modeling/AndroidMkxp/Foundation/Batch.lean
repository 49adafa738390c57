import Mathlib.Data.List.Nodup
import Mathlib.Logic.Function.Basic
import Mathlib.Logic.Relation
import Mathlib.Tactic.Common

/-!
# Batches of writes

The jobs of a batch are taken in any order, and each writes one key of a store. As long as no two of
them write the same key, `result` tells from the pending jobs and the store what the store will be
in the end. No job changes it, so the order does not matter.
-/

namespace Foundation

structure Batch (J K V : Type*) where
  pending : List J
  store : K → V

namespace Batch

variable {J K V : Type*} [DecidableEq J] {target : J → K} {value : J → V}
  {b b' : Batch J K V} {j j' : J} {k : K}

lemma target_ne_of_mem_erase {js : List J} (hnd : (js.map target).Nodup) (hj : j ∈ js)
    (hj' : j' ∈ js.erase j) : target j' ≠ target j := by
  obtain ⟨hne, hmem⟩ := (List.Nodup.mem_erase_iff (List.Nodup.of_map _ hnd)).mp hj'
  intro heq
  exact hne (List.inj_on_of_nodup_map hnd hmem hj heq)

variable [DecidableEq K]

inductive Step (target : J → K) (value : J → V) (b : Batch J K V) : Batch J K V → Prop where
  | job (j : J) (hj : j ∈ b.pending) : Step target value b
      ⟨b.pending.erase j, Function.update b.store (target j) (value j)⟩

/-- The store after all pending jobs. -/
def result (target : J → K) (value : J → V) (b : Batch J K V) (k : K) : V :=
  match b.pending.find? fun j => target j = k with
  | some j => value j
  | none   => b.store k

omit [DecidableEq J] in
lemma result_of_mem (hnd : (b.pending.map target).Nodup) (hj : j ∈ b.pending) :
    b.result target value (target j) = value j := by
  rw [result]
  cases hfind : b.pending.find? fun j' => target j' = target j with
  | none =>
    have hno := List.find?_eq_none.mp hfind j hj
    simp at hno
  | some j' =>
    have hsame : target j' = target j := by simpa using List.find?_some hfind
    rw [List.inj_on_of_nodup_map hnd (List.mem_of_find?_eq_some hfind) hj hsame]

omit [DecidableEq J] in
lemma result_of_forall_ne (hk : ∀ j ∈ b.pending, target j ≠ k) :
    b.result target value k = b.store k := by
  have hfind : (b.pending.find? fun j => target j = k) = none :=
    List.find?_eq_none.mpr fun j hj => by simpa using hk j hj
  rw [result, hfind]

lemma Step.nodup (h : Step target value b b') (hnd : (b.pending.map target).Nodup) :
    (b'.pending.map target).Nodup := by
  cases h with
  | job j hj => exact (List.erase_sublist.map target).nodup hnd

/-- Doing one of the jobs does not change the result. -/
theorem Step.result_eq (h : Step target value b b') (hnd : (b.pending.map target).Nodup) :
    b'.result target value = b.result target value := by
  have hnd' := h.nodup hnd
  cases h with
  | job j hj =>
    funext k
    by_cases hk : ∃ j' ∈ b.pending, target j' = k
    · obtain ⟨j', hj', rfl⟩ := hk
      rw [result_of_mem hnd hj']
      by_cases hjj : j' = j
      · -- no other job writes its key again
        subst hjj
        rw [result_of_forall_ne fun i hi => target_ne_of_mem_erase hnd hj hi]
        exact Function.update_self ..
      · exact result_of_mem hnd' ((List.mem_erase_of_ne hjj).mpr hj')
    · have hne : ∀ i ∈ b.pending, target i ≠ k := fun i hi heq => hk ⟨i, hi, heq⟩
      rw [result_of_forall_ne hne, result_of_forall_ne fun i hi => hne i (List.mem_of_mem_erase hi)]
      exact Function.update_of_ne (hne j hj).symm ..

/-- Whatever order the jobs are taken in, the store ends up as the result of the batch. -/
theorem store_eq_result (h : Relation.ReflTransGen (Step target value) b b')
    (hnd : (b.pending.map target).Nodup) (hdone : b'.pending = []) :
    b'.store = b.result target value := by
  have hkeep : (b'.pending.map target).Nodup ∧
      b'.result target value = b.result target value := by
    clear hdone
    induction h with
    | refl => exact ⟨hnd, rfl⟩
    | tail _ hstep ih => exact ⟨hstep.nodup ih.1, (hstep.result_eq ih.1).trans ih.2⟩
  rw [← hkeep.2]
  funext k
  exact (result_of_forall_ne (by simp [hdone])).symm

end Batch
end Foundation
