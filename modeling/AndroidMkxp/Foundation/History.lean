import AndroidMkxp.Foundation.Machine

/-!
# What may happen after what

`Justified P past es` says that every event of `es` meets `P` in view of all events before it. It
turns a condition on the order of events into a property that each step of a machine has by itself:
a run is justified if every step is, given the trace so far (`Machine.Run.justified`).
-/

namespace Foundation

variable {S A E : Type*} {P Q : List E → E → Prop} {past es es' : List E} {e : E}

/-- Every event meets `P` in view of the events before it, those of `past` included. -/
def Justified (P : List E → E → Prop) (past : List E) : List E → Prop
  | []      => True
  | e :: es => P past e ∧ Justified P (past ++ [e]) es

@[simp] lemma justified_nil : Justified P past [] ↔ True := Iff.rfl

@[simp] lemma justified_cons :
    Justified P past (e :: es) ↔ P past e ∧ Justified P (past ++ [e]) es := Iff.rfl

lemma justified_append :
    Justified P past (es ++ es') ↔ Justified P past es ∧ Justified P (past ++ es) es' := by
  induction es generalizing past with
  | nil => simp
  | cons e es ih => simp [ih, and_assoc]

/-- Events that are justified by any past. -/
lemma justified_of_forall (h : ∀ e ∈ es, ∀ past, P past e) : Justified P past es := by
  induction es generalizing past with
  | nil => trivial
  | cons e es ih =>
    rw [List.forall_mem_cons] at h
    exact ⟨h.1 past, ih h.2⟩

/-- Every event, wherever it stands, is justified by what stands before it. -/
theorem Justified.of_split (h : Justified P past es) {before after : List E}
    (hsplit : es = before ++ e :: after) : P (past ++ before) e := by
  rw [hsplit, justified_append] at h
  exact h.2.1

/-- Only the events that `f` keeps matter: they are justified by those before them that it
keeps. -/
theorem justified_filter_iff {f : E → Bool}
    (hP : ∀ past e, P past e ↔ (f e = true → P (past.filter f) e)) :
    Justified P past es ↔ Justified P (past.filter f) (es.filter f) := by
  induction es generalizing past with
  | nil => simp
  | cons e es ih =>
    rw [justified_cons, ih, hP, List.filter_append, List.filter_cons, List.filter_cons]
    cases f e <;> simp

theorem Machine.Run.justified {M : Machine S A E} {ok : S → A → Prop} {s₀ s : S} {tr : List E}
    (hstep : ∀ {tr s a s' es}, M.Run ok s₀ tr s → ok s a → M.step s a = some (s', es) →
      Justified P tr es)
    (h : M.Run ok s₀ tr s) : Justified P [] tr := by
  refine h.invariant (fun tr _ => Justified P [] tr) trivial ?_
  intro tr s a s' es hrun hjust hok hs
  exact justified_append.mpr ⟨hjust, hstep hrun hok hs⟩

end Foundation
