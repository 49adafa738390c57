import AndroidMkxp.Foundation.Separator

/-!
# Numerals between separators

A numeral of a base up to sixteen has no other characters than digits, and stands for one number.
So numbers that are joined with separators can be told from the word.
-/

namespace Foundation

variable {b m n : ℕ} {c : Char}

lemma digitChar_injOn (hm : m < 16) (hn : n < 16) (h : m.digitChar = n.digitChar) : m = n := by
  have hall : ∀ i j : Fin 16, i.val.digitChar = j.val.digitChar → i = j := by decide
  exact congrArg Fin.val (hall ⟨m, hm⟩ ⟨n, hn⟩ h)

lemma exists_of_mem_toDigits (hb : 1 < b) (hc : c ∈ Nat.toDigits b n) :
    ∃ d < b, c = d.digitChar := by
  induction n using Nat.strongRecOn with
  | ind n ih =>
    rw [Nat.toDigits_eq_if hb] at hc
    split_ifs at hc with hn
    · exact ⟨n, hn, List.mem_singleton.mp hc⟩
    · rcases List.mem_append.mp hc with hdiv | hmod
      · exact ih (n / b) (Nat.div_lt_self (by omega) hb) hdiv
      · exact ⟨n % b, Nat.mod_lt n (by omega), List.mem_singleton.mp hmod⟩

theorem toDigits_injective (hb : 1 < b) (hb' : b ≤ 16)
    (h : Nat.toDigits b m = Nat.toDigits b n) : m = n := by
  induction m using Nat.strongRecOn generalizing n with
  | ind m ih =>
    rw [Nat.toDigits_eq_if hb, Nat.toDigits_eq_if (n := n) hb] at h
    split_ifs at h with hm hn hn
    · exact digitChar_injOn (by omega) (by omega) (List.singleton_injective h)
    · have hlen := congrArg List.length h
      simp [Nat.toDigits_ne_nil] at hlen
    · have hlen := congrArg List.length h
      simp [Nat.toDigits_ne_nil] at hlen
    · obtain ⟨hdiv, hmod⟩ := List.append_inj' h rfl
      have hquot : m / b = n / b := ih (m / b) (Nat.div_lt_self (by omega) hb) hdiv
      have hrem : m % b = n % b :=
        digitChar_injOn (Nat.lt_of_lt_of_le (Nat.mod_lt m (by omega)) hb')
          (Nat.lt_of_lt_of_le (Nat.mod_lt n (by omega)) hb') (List.singleton_injective hmod)
      rw [← Nat.div_add_mod m b, hquot, hrem, Nat.div_add_mod]

/-- Words are told apart if their letters are. -/
lemma map_injOn {α β : Type*} {f : α → β} {s t : List α}
    (hf : ∀ a ∈ s, ∀ b ∈ t, f a = f b → a = b) (h : s.map f = t.map f) : s = t := by
  induction s generalizing t with
  | nil => exact (List.map_eq_nil_iff.mp h.symm).symm
  | cons a s ih =>
    obtain ⟨b, t, rfl, hb, ht⟩ := List.map_eq_cons_iff.mp h.symm
    rw [hf a List.mem_cons_self b List.mem_cons_self hb.symm]
    refine congrArg (b :: ·) (ih (fun a' ha' b' hb' => ?_) ht.symm)
    exact hf a' (List.mem_cons_of_mem _ ha') b' (List.mem_cons_of_mem _ hb')

/-- Two words that end in parts without the separator are equal only part by part. -/
lemma append_cons_inj {α : Type*} [DecidableEq α] {c : α} {s s' t t' : List α} (ht : c ∉ t)
    (ht' : c ∉ t') (h : s ++ c :: t = s' ++ c :: t') : s = s' ∧ t = t' := by
  have hsplit := congrArg (splitLast c) h
  rw [splitLast_append_cons ht, splitLast_append_cons ht', Option.some.injEq,
    Prod.mk.injEq] at hsplit
  exact hsplit

end Foundation
