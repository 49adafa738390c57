import Mathlib.Algebra.Order.Group.Defs
import Mathlib.Algebra.Order.Group.Basic
import Mathlib.Logic.Function.Basic
import Mathlib.Logic.Relation
import Mathlib.Tactic.Abel

/-!
# Replicated register with a freshness tolerance

One register has a master copy and a copy at each replica. Every copy carries a version and a
time. Replicas write their own copy, somebody publishes a version to the master, and a replica
fetches the master only if the master is at least `τ` younger than its own copy. The version is
never looked at: a fetch is decided by the two times alone.

`Coherent` is the invariant that makes the times speak for the versions. It is kept by every step
as long as each published version is `Admitted`: whoever holds a newer version wrote or fetched it
less than `τ` ago.
-/

namespace Foundation

/-- The copies of one register: at each replica `i : ι` and at the master. -/
@[ext]
structure Register (ι V T : Type*) where
  clock : T
  copy : ι → Option (V × T)
  master : Option (V × T)

namespace Register

variable {ι V T : Type*} [DecidableEq ι] [LinearOrder V]
  [AddCommGroup T] [LinearOrder T] [IsOrderedAddMonoid T]
  {τ : T} {r r' : Register ι V T} {i : ι} {v w : V} {m n t : T}

/-- The copy of replica `i` is missing, or at least `τ` older than time `m`. -/
def Expired (τ : T) (r : Register ι V T) (i : ι) (m : T) : Prop :=
  ∀ w n, r.copy i = some (w, n) → τ ≤ m - n

/-- Every replica that holds a version newer than `v` has had it for less than `τ`. -/
def Admitted (τ : T) (r : Register ι V T) (v : V) : Prop :=
  ∀ i w n, r.copy i = some (w, n) → v < w → r.clock - n < τ

/-- Replica `i` replaces its copy. -/
def setCopy (r : Register ι V T) (i : ι) (c : V × T) : Register ι V T :=
  { r with copy := Function.update r.copy i (some c) }

omit [LinearOrder V] [AddCommGroup T] [LinearOrder T] [IsOrderedAddMonoid T] in
lemma setCopy_copy (r : Register ι V T) (i j : ι) (c : V × T) :
    (r.setCopy i c).copy j = if j = i then some c else r.copy j :=
  Function.update_apply r.copy i (some c) j

inductive Step (τ : T) : Register ι V T → Register ι V T → Prop where
  | tick (r : Register ι V T) (t : T) (h : r.clock ≤ t) : Step τ r { r with clock := t }
  | write (r : Register ι V T) (i : ι) (v : V) :
      Step τ r (r.setCopy i (v, r.clock))
  | publish (r : Register ι V T) (v : V) (h : r.Admitted τ v) :
      Step τ r { r with master := some (v, r.clock) }
  | fetch (r : Register ι V T) (i : ι) (v : V) (m t : T) (hm : r.master = some (v, m))
      (h : r.Expired τ i m) :
      Step τ r (r.setCopy i (v, t))

/-- Where the master is at least `τ` younger than a copy, its version is not older. -/
structure Coherent (τ : T) (r : Register ι V T) : Prop where
  master_le : ∀ v m, r.master = some (v, m) → m ≤ r.clock
  version_le : ∀ i w n v m, r.copy i = some (w, n) → r.master = some (v, m) → w ≤ v ∨ m - n < τ

omit [LinearOrder V] [DecidableEq ι] in
lemma Expired.mono (h : r.Expired τ i m) (hle : m ≤ n) : r.Expired τ i n :=
  fun w k hk => (h w k hk).trans (sub_le_sub_right hle k)

omit [DecidableEq ι] [IsOrderedAddMonoid T] in
/-- A coherent register never hands out an older version than the one it replaces. -/
theorem Coherent.le_of_expired (hr : r.Coherent τ) (hm : r.master = some (v, m))
    (hc : r.copy i = some (w, n)) (he : r.Expired τ i m) : w ≤ v :=
  (hr.version_le i w n v m hc hm).resolve_right (not_lt.mpr (he w n hc))

omit [DecidableEq ι] [IsOrderedAddMonoid T] in
lemma Coherent.of_master_none (h : r.master = none) : r.Coherent τ where
  master_le := by simp [h]
  version_le := by simp [h]

theorem Step.coherent (hτ : 0 < τ) (h : Step τ r r') (hr : r.Coherent τ) : r'.Coherent τ := by
  cases h with
  | tick t hle =>
    exact ⟨fun v m hm => (hr.master_le v m hm).trans hle, hr.version_le⟩
  | write i v =>
    refine ⟨hr.master_le, fun j w n v' m hc hm => ?_⟩
    rw [setCopy_copy] at hc
    split_ifs at hc with hij
    · -- the copy just written is no older than the master
      cases hc
      exact Or.inr ((sub_nonpos.mpr (hr.master_le v' m hm)).trans_lt hτ)
    · exact hr.version_le j w n v' m hc hm
  | publish v hadm =>
    refine ⟨fun v' m hm => ?_, fun i w n v' m hc hm => ?_⟩ <;>
      simp only [Option.some.injEq, Prod.mk.injEq] at hm <;> obtain ⟨rfl, rfl⟩ := hm
    · exact le_rfl
    · exact (le_or_gt w v).imp_right (hadm i w n hc)
  | fetch i v m t hm _ =>
    refine ⟨hr.master_le, fun j w n v' m' hc hm' => ?_⟩
    rw [setCopy_copy] at hc
    split_ifs at hc with hij
    · -- the copy just fetched has the master's version
      cases hc
      cases hm.symm.trans hm'
      exact Or.inl le_rfl
    · exact hr.version_le j w n v' m' hc hm'

theorem coherent_of_reflTransGen (hτ : 0 < τ) (h : Relation.ReflTransGen (Step τ) r r')
    (hr : r.Coherent τ) : r'.Coherent τ := by
  induction h with
  | refl => exact hr
  | tail _ hs ih => exact hs.coherent hτ ih

end Register
end Foundation
