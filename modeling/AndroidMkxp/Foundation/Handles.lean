import AndroidMkxp.Foundation.Signals
import Mathlib.Logic.Function.Basic

/-!
# Slots that hold handles

Every slot holds at most one handle. One that is acquired goes into its slot whatever was there
before, and a handle that no slot holds any more can never be released. So every open handle is held
exactly as long as nothing is acquired into a slot that holds a handle (`Uses.tidy_iff`).
-/

namespace Foundation

structure Handles (K : Type*) where
  held : K → Option ℕ
  opened : List ℕ
  next : ℕ

namespace Handles

variable {K : Type*} [DecidableEq K] {t t' t'' : Handles K} {k k' : K} {n : ℕ}
  {es es' : List (Signal K)}

def acquire (t : Handles K) (k : K) : Handles K where
  held := Function.update t.held k (some t.next)
  opened := t.next :: t.opened
  next := t.next + 1

/-- An attempt to acquire that yields no handle. -/
def fail (t : Handles K) (k : K) : Handles K := { t with held := Function.update t.held k none }

def release (t : Handles K) (k : K) (n : ℕ) : Handles K :=
  { t with held := Function.update t.held k none, opened := t.opened.erase n }

/-- The slots that hold a handle. -/
def holders (t : Handles K) : Set K := {k | t.held k ≠ none}

/-- Every open handle is held. -/
def Tidy (t : Handles K) : Prop := ∀ n ∈ t.opened, ∃ k, t.held k = some n

/-- Handles are told apart by their numbers, and a handle that is held is open. -/
structure Sound (t : Handles K) : Prop where
  lt {n : ℕ} : n ∈ t.opened → n < t.next
  nodup : t.opened.Nodup
  mem {k : K} {n : ℕ} : t.held k = some n → n ∈ t.opened
  inj {k k' : K} {n : ℕ} : t.held k = some n → t.held k' = some n → k = k'

/-- What is done to the slots, where a slot is switched on by an attempt to acquire. -/
inductive Uses : Handles K → List (Signal K) → Handles K → Prop where
  | refl (t : Handles K) : Uses t [] t
  | acquire (t : Handles K) (k : K) : Uses t [.on k] (t.acquire k)
  | fail (t : Handles K) (k : K) : Uses t [.on k, .off k] (t.fail k)
  | release (t : Handles K) (k : K) (n : ℕ) (hheld : t.held k = some n) :
      Uses t [.off k] (t.release k n)
  | trans {t t' t'' : Handles K} {es es' : List (Signal K)} (h₁ : Uses t es t')
      (h₂ : Uses t' es' t'') : Uses t (es ++ es') t''

omit [DecidableEq K] in
lemma mem_holders : k ∈ t.holders ↔ ∃ n, t.held k = some n := Option.ne_none_iff_exists'

namespace Sound

lemma acquire (h : t.Sound) (k : K) : (t.acquire k).Sound where
  lt {n} hn := by
    rcases List.mem_cons.mp hn with rfl | hn
    · exact Nat.lt_succ_self _
    · exact Nat.lt_succ_of_lt (h.lt hn)
  nodup := List.nodup_cons.mpr ⟨fun hn => Nat.lt_irrefl _ (h.lt hn), h.nodup⟩
  mem {k' n} hheld := by
    simp only [Handles.acquire, Function.update_apply] at hheld
    split_ifs at hheld with hk
    · cases hheld
      exact List.mem_cons_self
    · exact List.mem_cons_of_mem _ (h.mem hheld)
  inj {k₁ k₂ n} h₁ h₂ := by
    simp only [Handles.acquire, Function.update_apply] at h₁ h₂
    split_ifs at h₁ h₂ with hk₁ hk₂ hk₂
    · exact hk₁.trans hk₂.symm
    · cases h₁
      exact absurd (h.lt (h.mem h₂)) (Nat.lt_irrefl _)
    · cases h₂
      exact absurd (h.lt (h.mem h₁)) (Nat.lt_irrefl _)
    · exact h.inj h₁ h₂

omit [DecidableEq K] in
/-- Slots may be emptied and handles closed that no slot holds. -/
lemma mono (h : t.Sound) (hsub : t'.opened.Sublist t.opened) (hnext : t'.next = t.next)
    (hheld : ∀ {k n}, t'.held k = some n → t.held k = some n ∧ n ∈ t'.opened) : t'.Sound where
  lt hn := hnext ▸ h.lt (hsub.subset hn)
  nodup := h.nodup.sublist hsub
  mem hk := (hheld hk).2
  inj h₁ h₂ := h.inj (hheld h₁).1 (hheld h₂).1

lemma fail (h : t.Sound) (k : K) : (t.fail k).Sound := by
  refine h.mono (List.Sublist.refl _) rfl fun {k' n} hheld => ?_
  simp only [Handles.fail, Function.update_apply] at hheld
  split_ifs at hheld
  exact ⟨hheld, h.mem hheld⟩

lemma release (h : t.Sound) (hheld : t.held k = some n) : (t.release k n).Sound := by
  refine h.mono List.erase_sublist rfl fun {k' n'} hheld' => ?_
  simp only [Handles.release, Function.update_apply] at hheld'
  split_ifs at hheld' with hk
  refine ⟨hheld', h.nodup.mem_erase_iff.mpr ⟨?_, h.mem hheld'⟩⟩
  rintro rfl
  exact hk (h.inj hheld' hheld)

end Sound

lemma holders_acquire : (t.acquire k).holders = insert k t.holders := by
  ext k'
  by_cases hk : k' = k <;> simp [acquire, holders, hk]

lemma holders_fail : (t.fail k).holders = t.holders \ {k} := by
  ext k'
  by_cases hk : k' = k <;> simp [fail, holders, hk]

lemma holders_release : (t.release k n).holders = t.holders \ {k} := holders_fail

omit [DecidableEq K] in
/-- No handle is open exactly if every open one is held, and none is held. -/
lemma opened_eq_nil_iff (h : t.Sound) : t.opened = [] ↔ t.Tidy ∧ t.holders = ∅ := by
  constructor
  · intro hnil
    have hnever {n : ℕ} : n ∉ t.opened := by
      rw [hnil]
      exact List.not_mem_nil
    refine ⟨fun n hn => absurd hn hnever, Set.eq_empty_iff_forall_notMem.mpr fun k hk => ?_⟩
    obtain ⟨n, hheld⟩ := mem_holders.mp hk
    exact hnever (h.mem hheld)
  · rintro ⟨htidy, hnone⟩
    refine List.eq_nil_iff_forall_not_mem.mpr fun n hn => ?_
    obtain ⟨k, hheld⟩ := htidy n hn
    have hk : k ∈ t.holders := mem_holders.mpr ⟨n, hheld⟩
    rw [hnone] at hk
    exact hk

omit [DecidableEq K] in
/-- The open handles are held outside a slot exactly if they are held and the slot is empty. -/
lemma held_outside_iff (h : t.Sound) :
    (∀ n ∈ t.opened, ∃ k', k' ≠ k ∧ t.held k' = some n) ↔ t.Tidy ∧ k ∉ t.holders := by
  constructor
  · intro houtside
    refine ⟨fun n hn => ?_, fun hk => ?_⟩
    · obtain ⟨k', -, hheld⟩ := houtside n hn
      exact ⟨k', hheld⟩
    · obtain ⟨n, hheld⟩ := mem_holders.mp hk
      obtain ⟨k', hne, hheld'⟩ := houtside n (h.mem hheld)
      exact hne (h.inj hheld' hheld)
  · rintro ⟨htidy, hk⟩ n hn
    obtain ⟨k', hheld⟩ := htidy n hn
    refine ⟨k', ?_, hheld⟩
    rintro rfl
    exact hk (mem_holders.mpr ⟨n, hheld⟩)

/-- What the slot held before can never be held again. -/
lemma tidy_acquire_iff (h : t.Sound) : (t.acquire k).Tidy ↔ t.Tidy ∧ k ∉ t.holders := by
  rw [← held_outside_iff h]
  constructor
  · intro htidy n hn
    obtain ⟨k', hheld⟩ := htidy n (List.mem_cons_of_mem _ hn)
    simp only [acquire, Function.update_apply] at hheld
    split_ifs at hheld with hk
    · cases hheld
      exact absurd (h.lt hn) (Nat.lt_irrefl _)
    · exact ⟨k', hk, hheld⟩
  · intro houtside n hn
    rcases List.mem_cons.mp hn with rfl | hn
    · exact ⟨k, Function.update_self ..⟩
    · obtain ⟨k', hne, hheld⟩ := houtside n hn
      exact ⟨k', (Function.update_of_ne hne ..).trans hheld⟩

lemma tidy_fail_iff (h : t.Sound) : (t.fail k).Tidy ↔ t.Tidy ∧ k ∉ t.holders := by
  rw [← held_outside_iff h]
  constructor
  · intro htidy n hn
    obtain ⟨k', hheld⟩ := htidy n hn
    simp only [fail, Function.update_apply] at hheld
    split_ifs at hheld with hk
    exact ⟨k', hk, hheld⟩
  · intro houtside n hn
    obtain ⟨k', hne, hheld⟩ := houtside n hn
    exact ⟨k', (Function.update_of_ne hne ..).trans hheld⟩

lemma tidy_release_iff (h : t.Sound) (hheld : t.held k = some n) :
    (t.release k n).Tidy ↔ t.Tidy := by
  have hmem {n' : ℕ} : n' ∈ (t.release k n).opened ↔ n' ≠ n ∧ n' ∈ t.opened :=
    h.nodup.mem_erase_iff
  constructor
  · intro htidy n' hn'
    by_cases heq : n' = n
    · exact ⟨k, heq ▸ hheld⟩
    · obtain ⟨k', hheld'⟩ := htidy n' (hmem.mpr ⟨heq, hn'⟩)
      simp only [release, Function.update_apply] at hheld'
      split_ifs at hheld' with hk
      exact ⟨k', hheld'⟩
  · intro htidy n' hn'
    obtain ⟨hne, hn'⟩ := hmem.mp hn'
    obtain ⟨k', hheld'⟩ := htidy n' hn'
    refine ⟨k', (Function.update_of_ne ?_ ..).trans hheld'⟩
    rintro rfl
    exact hne (Option.some.inj (hheld'.symm.trans hheld))

/-- All open handles are still held exactly if they were before and every attempt to acquire has
found its slot empty. -/
theorem Uses.spec (huses : Uses t es t') (h : t.Sound) :
    t'.Sound ∧ t'.holders = after t.holders es ∧
      (t'.Tidy ↔ t.Tidy ∧ Along Signal.Effective t.holders es) := by
  induction huses with
  | refl t => exact ⟨h, rfl, (and_iff_left trivial).symm⟩
  | acquire t k =>
    refine ⟨h.acquire k, holders_acquire, ?_⟩
    rw [tidy_acquire_iff h, along_cons, along_nil, and_true]
    rfl
  | fail t k =>
    refine ⟨h.fail k, ?_, ?_⟩
    · rw [holders_fail, after_cons, after_cons, after_nil]
      simp [Signal.apply]
    · rw [tidy_fail_iff h]
      simp [Signal.apply, Signal.Effective]
  | release t k n hheld =>
    refine ⟨h.release hheld, holders_release, ?_⟩
    rw [tidy_release_iff h hheld, along_cons, along_nil, and_true]
    exact (and_iff_left (mem_holders.mpr ⟨n, hheld⟩)).symm
  | trans _ _ ih₁ ih₂ =>
    obtain ⟨hsound₁, hafter₁, htidy₁⟩ := ih₁ h
    obtain ⟨hsound₂, hafter₂, htidy₂⟩ := ih₂ hsound₁
    refine ⟨hsound₂, ?_, ?_⟩
    · rw [hafter₂, hafter₁, after_append]
    · rw [htidy₂, htidy₁, hafter₁, and_assoc, ← along_append]

end Handles
end Foundation
