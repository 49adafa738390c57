import Mathlib.Data.List.Basic
import Mathlib.Data.List.Nodup
import Mathlib.Tactic.Common

/-!
# Rosters kept in step

One side keeps a roster: a list of entries with distinct keys. The other side is told of every
change to it. `replay` is what the other side makes of the changes; it fails on an entry that is
there already and on a key that is not. A poll enrols what is new and dismisses what has gone
(`enrol`, `dismiss`), and both tell the other side exactly what it needs.
-/

namespace Foundation

/-- What the other side is told. -/
inductive Change (κ α : Type*) where
  | add (a : α)
  | remove (k : κ)
  deriving DecidableEq

def Change.map {κ α β : Type*} (f : α → β) : Change κ α → Change κ β
  | .add a    => .add (f a)
  | .remove k => .remove k

namespace Roster

variable {κ α ε : Type*} [DecidableEq κ] (key : α → κ)

/-- The roster without the first entry for `k`. -/
def drop (k : κ) (r : List α) : List α := r.eraseP fun a => key a = k

/-- The other side takes one change. -/
def take (r : List α) : Change κ α → Option (List α)
  | .add a    => if key a ∈ r.map key then none else some (r ++ [a])
  | .remove k => if k ∈ r.map key then some (drop key k r) else none

def replay : List α → List (Change κ α) → Option (List α)
  | r, []      => some r
  | r, c :: cs => (take key r c).bind fun r => replay r cs

/-- Add what `make` finds for the keys that have no entry. The loop ends where `make` fails. -/
def enrol (make : κ → Except ε (Option α)) :
    List κ → List α → List α × List (Change κ α) × Except ε Unit
  | [], r      => (r, [], .ok ())
  | k :: ks, r =>
    if k ∈ r.map key then enrol make ks r
    else match make k with
      | .error e     => (r, [], .error e)
      | .ok none     => enrol make ks r
      | .ok (some a) =>
        let rest := enrol make ks (r ++ [a])
        (rest.1, .add a :: rest.2.1, rest.2.2)

/-- Remove the entries for `ks`, one after the other. -/
def dismiss : List κ → List α → List α × List (Change κ α)
  | [], r      => (r, [])
  | k :: ks, r =>
    let rest := dismiss ks (drop key k r)
    (rest.1, .remove k :: rest.2)

variable {key} {r r' r'' : List α} {cs cs' : List (Change κ α)} {k : κ} {ks : List κ} {a : α}
  {make : κ → Except ε (Option α)}

lemma replay_append (h : replay key r cs = some r') :
    replay key r (cs ++ cs') = replay key r' cs' := by
  induction cs generalizing r with
  | nil =>
    cases h
    rfl
  | cons c cs ih =>
    obtain ⟨r₁, htake, hrest⟩ := Option.bind_eq_some_iff.mp h
    show (take key r c).bind _ = _
    rw [htake, Option.bind_some]
    exact ih hrest

/-- The other side never ends up with two entries for one key. -/
lemma nodup_of_replay (hnd : (r.map key).Nodup) (h : replay key r cs = some r') :
    (r'.map key).Nodup := by
  induction cs generalizing r with
  | nil =>
    cases h
    exact hnd
  | cons c cs ih =>
    obtain ⟨r₁, htake, hrest⟩ := Option.bind_eq_some_iff.mp h
    refine ih ?_ hrest
    cases c with
    | add a =>
      simp only [take] at htake
      split_ifs at htake with hmem
      cases htake
      rw [List.map_append, List.map_singleton, List.nodup_append]
      refine ⟨hnd, List.nodup_singleton _, fun k hk k' hk' heq => hmem ?_⟩
      rw [← List.mem_singleton.mp hk', ← heq]
      exact hk
    | remove k =>
      simp only [take] at htake
      split_ifs at htake
      cases htake
      exact (List.eraseP_sublist.map key).nodup hnd

/-- The other side may keep something else for an entry, under the same key. -/
lemma replay_map {β : Type*} {key' : β → κ} {f : α → β} (hf : ∀ a, key' (f a) = key a)
    (h : replay key r cs = some r') :
    replay key' (r.map f) (cs.map (Change.map f)) = some (r'.map f) := by
  have hkeys : ∀ r : List α, (r.map f).map key' = r.map key := by
    intro r
    rw [List.map_map]
    exact List.map_congr_left fun a _ => hf a
  induction cs generalizing r with
  | nil =>
    cases h
    rfl
  | cons c cs ih =>
    obtain ⟨r₁, htake, hrest⟩ := Option.bind_eq_some_iff.mp h
    have htake' : take key' (r.map f) (c.map f) = some (r₁.map f) := by
      cases c with
      | add a =>
        simp only [take, Change.map, hf, hkeys] at htake ⊢
        split_ifs at htake ⊢ with hmem
        cases htake
        simp
      | remove k =>
        simp only [take, Change.map, hkeys] at htake ⊢
        split_ifs at htake ⊢ with hmem
        cases htake
        rw [drop, drop, List.eraseP_map]
        simp [Function.comp_def, hf]
    show (take key' (r.map f) (c.map f)).bind _ = _
    rw [htake', Option.bind_some]
    exact ih hrest

lemma drop_eq_filter (hnd : (r.map key).Nodup) :
    drop key k r = r.filter fun a => key a ≠ k := by
  induction r with
  | nil => rfl
  | cons a r ih =>
    rw [List.map_cons, List.nodup_cons] at hnd
    by_cases ha : key a = k
    · have hrest : r.filter (fun b => key b ≠ k) = r := by
        apply List.filter_eq_self.mpr
        intro b hb
        simp only [ne_eq, decide_eq_true_eq]
        rintro rfl
        exact hnd.1 (ha ▸ List.mem_map_of_mem hb)
      rw [drop, List.eraseP_cons_of_pos (by simpa using ha),
        List.filter_cons_of_neg (by simpa using ha), hrest]
    · rw [drop, List.eraseP_cons_of_neg (by simpa using ha),
        List.filter_cons_of_pos (by simpa using ha)]
      exact congrArg _ (ih hnd.2)

omit [DecidableEq κ] in
lemma mem_map_filter (keep : κ → Bool) :
    k ∈ (r.filter fun a => keep (key a)).map key ↔ k ∈ r.map key ∧ keep k = true := by
  constructor
  · intro h
    obtain ⟨a, ha, rfl⟩ := List.mem_map.mp h
    obtain ⟨hmem, hkeep⟩ := List.mem_filter.mp ha
    exact ⟨List.mem_map_of_mem hmem, hkeep⟩
  · rintro ⟨h, hkeep⟩
    obtain ⟨a, ha, rfl⟩ := List.mem_map.mp h
    exact List.mem_map_of_mem (List.mem_filter.mpr ⟨ha, hkeep⟩)

/-! ### Enrolling -/

/-- The entries that a call of `enrol` adds. -/
theorem enrol_spec (ks : List κ) (r : List α)
    (hmake : ∀ k a, make k = .ok (some a) → key a = k) :
    ∃ new, (enrol key make ks r).1 = r ++ new ∧ (enrol key make ks r).2.1 = new.map .add ∧
      replay key r (enrol key make ks r).2.1 = some (enrol key make ks r).1 ∧
      (∀ a ∈ new, key a ∈ ks ∧ make (key a) = .ok (some a)) ∧
      ((enrol key make ks r).2.2 = .ok () → ∀ k ∈ ks, ∀ a, make k = .ok (some a) →
        k ∈ (r ++ new).map key) := by
  induction ks generalizing r with
  | nil => exact ⟨[], by simp [enrol], rfl, rfl, by simp, by simp⟩
  | cons k ks ih =>
    rw [enrol]
    split_ifs with hk
    · obtain ⟨new, hr, hcs, hreplay, hnew, hall⟩ := ih r
      refine ⟨new, hr, hcs, hreplay, fun a ha => ?_, fun hok k' hk' a ha => ?_⟩
      · exact ⟨List.mem_cons_of_mem _ (hnew a ha).1, (hnew a ha).2⟩
      · rcases List.mem_cons.mp hk' with rfl | hk'
        · rw [List.map_append]
          exact List.mem_append_left _ hk
        · exact hall hok k' hk' a ha
    · cases hmk : make k with
      | error e => exact ⟨[], by simp, rfl, rfl, by simp, by rintro ⟨⟩⟩
      | ok o =>
        cases o with
        | none =>
          obtain ⟨new, hr, hcs, hreplay, hnew, hall⟩ := ih r
          refine ⟨new, hr, hcs, hreplay, fun a ha => ?_, fun hok k' hk' a ha => ?_⟩
          · exact ⟨List.mem_cons_of_mem _ (hnew a ha).1, (hnew a ha).2⟩
          · rcases List.mem_cons.mp hk' with rfl | hk'
            · rw [hmk] at ha
              cases ha
            · exact hall hok k' hk' a ha
        | some a =>
          have hkey := hmake k a hmk
          obtain ⟨new, hr, hcs, hreplay, hnew, hall⟩ := ih (r ++ [a])
          refine ⟨a :: new, ?_, ?_, ?_, ?_, ?_⟩
          · simpa using hr
          · simpa using hcs
          · show (take key r (.add a)).bind _ = _
            rw [take, if_neg (hkey ▸ hk), Option.bind_some]
            exact hreplay
          · intro b hb
            rcases List.mem_cons.mp hb with rfl | hb
            · rw [hkey]
              exact ⟨List.mem_cons_self, hmk⟩
            · exact ⟨List.mem_cons_of_mem _ (hnew b hb).1, (hnew b hb).2⟩
          · intro hok k' hk' b hb
            rcases List.mem_cons.mp hk' with rfl | hk'
            · simp [hkey]
            · simpa using hall hok k' hk' b hb

/-- The loop breaks off exactly if `make` fails for a key that has no entry. -/
theorem enrol_ok_iff (ks : List κ) (r : List α)
    (hmake : ∀ k a, make k = .ok (some a) → key a = k) :
    (enrol key make ks r).2.2 = .ok () ↔
      ∀ k ∈ ks, k ∉ r.map key → ∀ e, make k ≠ .error e := by
  induction ks generalizing r with
  | nil => simp [enrol]
  | cons k ks ih =>
    rw [enrol, List.forall_mem_cons]
    split_ifs with hk
    · rw [ih]
      exact ⟨fun h => ⟨fun hnot => absurd hk hnot, h⟩, fun h => h.2⟩
    · cases hmk : make k with
      | error e => simp [hk]
      | ok o =>
        cases o with
        | none => simp [ih]
        | some a =>
          have hkey := hmake k a hmk
          simp only [ih, hkey, List.map_append, List.map_singleton, List.mem_append,
            List.mem_singleton, not_or, and_imp]
          constructor
          · refine fun h => ⟨by simp, fun k' hk' hnot => ?_⟩
            by_cases heq : k' = k
            · simp [heq, hmk]
            · exact h k' hk' hnot heq
          · exact fun h k' hk' hnot _ => h.2 k' hk' hnot

/-! ### Dismissing -/

/-- Dismissing distinct keys of the roster leaves the other entries. -/
theorem dismiss_spec (hnd : (r.map key).Nodup) (hks : ks.Nodup) (hsub : ∀ k ∈ ks, k ∈ r.map key) :
    (dismiss key ks r).1 = (r.filter fun a => key a ∉ ks) ∧
      replay key r (dismiss key ks r).2 = some (dismiss key ks r).1 := by
  induction ks generalizing r with
  | nil => simp [dismiss, replay]
  | cons k ks ih =>
    rw [List.nodup_cons] at hks
    have hdrop : drop key k r = r.filter fun a => key a ≠ k := drop_eq_filter hnd
    have hnd' : ((drop key k r).map key).Nodup := (List.eraseP_sublist.map key).nodup hnd
    have hsub' : ∀ k' ∈ ks, k' ∈ (drop key k r).map key := by
      intro k' hk'
      obtain ⟨a, ha, rfl⟩ := List.mem_map.mp (hsub k' (List.mem_cons_of_mem _ hk'))
      refine List.mem_map.mpr ⟨a, ?_, rfl⟩
      rw [hdrop, List.mem_filter]
      refine ⟨ha, ?_⟩
      simp only [ne_eq, decide_eq_true_eq]
      rintro rfl
      exact hks.1 hk'
    obtain ⟨hleft, hreplay⟩ := ih hnd' hks.2 hsub'
    constructor
    · show (dismiss key ks (drop key k r)).1 = _
      rw [hleft, hdrop, List.filter_filter]
      apply List.filter_congr
      intro a _
      simp [Bool.and_comm, eq_comm]
    · show (take key r (.remove k)).bind _ = _
      rw [take, if_pos (hsub k List.mem_cons_self), Option.bind_some]
      exact hreplay

/-- Dismiss every entry that is not to be kept. -/
theorem dismiss_filter_spec (hnd : (r.map key).Nodup) (keep : κ → Bool) :
    (dismiss key ((r.map key).filter fun k => !keep k) r).1 = (r.filter fun a => keep (key a)) ∧
      replay key r (dismiss key ((r.map key).filter fun k => !keep k) r).2 =
        some (r.filter fun a => keep (key a)) := by
  obtain ⟨hleft, hreplay⟩ := dismiss_spec hnd (hnd.filter fun k => !keep k)
    fun k hk => (List.mem_filter.mp hk).1
  have heq : (r.filter fun a => key a ∉ (r.map key).filter fun k => !keep k) =
      r.filter fun a => keep (key a) := by
    apply List.filter_congr
    intro a ha
    simp [List.mem_map_of_mem ha]
  rw [heq] at hleft
  exact ⟨hleft, hleft ▸ hreplay⟩

end Roster
end Foundation
