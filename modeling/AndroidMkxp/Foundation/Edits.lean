import Mathlib.Data.List.DropRight
import Mathlib.Tactic.Common

/-!
# Edits at the end of a list

An `Edit` erases elements at the end of a list and appends others. `Edit.between old new` is the
one that leaves the longest common prefix alone. No edit that takes `old` to `new` erases fewer
elements.
-/

namespace Foundation

variable {α : Type*}

section CommonPrefix

variable [DecidableEq α]

/-- The longest common prefix. -/
def commonPrefix : List α → List α → List α
  | a :: as, b :: bs => if a = b then a :: commonPrefix as bs else []
  | _, _             => []

@[simp] lemma commonPrefix_nil_left (bs : List α) : commonPrefix [] bs = [] := by
  simp [commonPrefix]

@[simp] lemma commonPrefix_nil_right (as : List α) : commonPrefix as [] = [] := by
  cases as <;> simp [commonPrefix]

lemma commonPrefix_cons_cons (a b : α) (as bs : List α) : commonPrefix (a :: as) (b :: bs) =
    if a = b then a :: commonPrefix as bs else [] := rfl

lemma commonPrefix_append (cs as bs : List α) :
    commonPrefix (cs ++ as) (cs ++ bs) = cs ++ commonPrefix as bs := by
  induction cs with
  | nil => rfl
  | cons c cs ih => rw [List.cons_append, List.cons_append, commonPrefix_cons_cons, if_pos rfl, ih,
      List.cons_append]

lemma commonPrefix_isPrefix (as bs : List α) :
    commonPrefix as bs <+: as ∧ commonPrefix as bs <+: bs := by
  induction as generalizing bs with
  | nil => simp
  | cons a as ih =>
    cases bs with
    | nil => simp
    | cons b bs =>
      rw [commonPrefix_cons_cons]
      split_ifs with hab
      · subst hab
        exact ⟨(List.prefix_cons_inj a).mpr (ih bs).1, (List.prefix_cons_inj a).mpr (ih bs).2⟩
      · simp

lemma prefix_commonPrefix {cs as bs : List α} (ha : cs <+: as) (hb : cs <+: bs) :
    cs <+: commonPrefix as bs := by
  obtain ⟨as', rfl⟩ := ha
  obtain ⟨bs', rfl⟩ := hb
  rw [commonPrefix_append]
  exact List.prefix_append _ _

lemma commonPrefix_eq_left_iff {as bs : List α} : commonPrefix as bs = as ↔ as <+: bs := by
  constructor
  · intro h
    have hb := (commonPrefix_isPrefix as bs).2
    rwa [h] at hb
  · intro h
    have hall := (prefix_commonPrefix (List.prefix_refl as) h).length_le
    exact (commonPrefix_isPrefix as bs).1.eq_of_length_le hall

end CommonPrefix

structure Edit (α : Type*) where
  erased : ℕ
  appended : List α

namespace Edit

def apply (e : Edit α) (t : List α) : List α := t.rdrop e.erased ++ e.appended

variable [DecidableEq α] {old new : List α}

/-- The edit that keeps the longest common prefix. -/
def between (old new : List α) : Edit α where
  erased := old.length - (commonPrefix old new).length
  appended := new.drop (commonPrefix old new).length

lemma between_erased (old new : List α) :
    (between old new).erased = old.length - (commonPrefix old new).length := rfl

lemma between_erased_le_length (old new : List α) : (between old new).erased ≤ old.length :=
  Nat.sub_le _ _

lemma rdrop_between (old new : List α) : old.rdrop (between old new).erased =
    commonPrefix old new := by
  obtain ⟨as, has⟩ := (commonPrefix_isPrefix old new).1
  have hlength := congrArg List.length has
  rw [List.length_append] at hlength
  rw [between_erased, List.rdrop, Nat.sub_sub_self (by omega)]
  exact (List.prefix_iff_eq_take.mp ⟨as, has⟩).symm

lemma commonPrefix_append_between (old new : List α) :
    commonPrefix old new ++ (between old new).appended = new :=
  List.prefix_iff_eq_append.mp (commonPrefix_isPrefix old new).2

/-- Whatever edit takes `old` to `new` erases at least as much. -/
theorem between_erased_le {e : Edit α} (h : e.apply old = new) :
    (between old new).erased ≤ e.erased := by
  have hkept : old.rdrop e.erased <+: commonPrefix old new := by
    refine prefix_commonPrefix (List.take_prefix _ _) ?_
    rw [← h]
    exact List.prefix_append _ _
  have hlength := hkept.length_le
  rw [List.rdrop, List.length_take] at hlength
  rw [between_erased]
  omega

end Edit

end Foundation
