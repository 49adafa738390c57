import AndroidMkxp.Activity.Login
import AndroidMkxp.Foundation.History

/-!
# What the login screens do

The calls on a screen account for what it shows, and for what it may do next.
-/

namespace AndroidMkxp.Login

open Foundation

section

variable {ι : Type} [DecidableEq ι]

/-! ### What a screen shows -/

/-- The views of a screen that has the game data and has not been left. -/
def offered (cs : List Call) : View → Bool
  | .connecting    => .completed true ∉ cs ∧ .completed false ∉ cs
  | .loginDesc     => .completed false ∈ cs
  | .loginButton   => .completed false ∈ cs
  | .obbMissing    => false
  | .legacyDesc    => .completed true ∈ cs
  | .migrateButton => .completed true ∈ cs
  | .migrateHide   => .completed true ∈ cs
  | .startButton   => true

/-- The views of a screen without the game data. -/
def stranded (view : View) : Bool :=
  view = .connecting ∨ view = .obbMissing ∨ view = .startButton

/-- A screen in view of the calls made on it and by it. -/
structure Shown (cs : List Call) (c : LoginActivity) : Prop where
  created : ∀ missing, .created missing ∈ cs ↔ c.bound = !missing
  idle : c.bound = false → c.tasks = 0 ∧ c.dialogs = 0 ∧ c.visible = stranded
  started : .startGame ∈ cs → c.isFinishing = true
  asked : c.bound = true → .asks ∈ cs
  balance : cs.count .asks =
    c.tasks + (cs.count (.completed true) + cs.count (.completed false))
  dialogs : cs.count .dialog = c.dialogs + cs.count .openDocumentTree
  views : c.bound = true → (c.isFinishing || c.isDestroyed) = false → c.visible = offered cs

lemma shown_onCreate (hidden : Bool) (obbFiles : Option (List ObbFile)) :
    Shown (LoginActivity.onCreate hidden obbFiles).2
      (LoginActivity.onCreate hidden obbFiles).1 := by
  unfold LoginActivity.onCreate
  cases isObbMissing obbFiles with
  | true =>
    rw [if_pos rfl]
    refine ⟨by decide, fun _ => ⟨rfl, rfl, ?_⟩, by decide, by decide, rfl, rfl, ?_⟩
    · funext view
      cases view <;> rfl
    · rintro ⟨⟩
  | false =>
    rw [if_neg Bool.false_ne_true]
    refine ⟨by simp, by simp, by simp, by simp, rfl, rfl, fun _ _ => ?_⟩
    funext view
    cases view <;> rfl

/-- The calls that the views and the counters depend on. -/
def Call.counts : Call → Bool
  | .clicked _          => false
  | .notSignedIn        => false
  | .setMigrateHidden _ => false
  | _                   => true

lemma offered_append {cs es : List Call} (h : ∀ b, .completed b ∉ es) :
    offered (cs ++ es) = offered cs := by
  funext view
  cases view <;> simp [offered, h]

/-- The reactions that leave views and counters as they are. -/
lemma Shown.quiet {c c' : LoginActivity} {cs es : List Call} (h : Shown cs c)
    (hes : ∀ e ∈ es, e.counts = false) (hvisible : c'.visible = c.visible)
    (hbound : c'.bound = c.bound) (htasks : c'.tasks = c.tasks) (hdialogs : c'.dialogs = c.dialogs)
    (hfinishing : c.isFinishing = true → c'.isFinishing = true)
    (hdestroyed : c.isDestroyed = true → c'.isDestroyed = true) : Shown (cs ++ es) c' := by
  have hnone : ∀ e : Call, e.counts = true → e ∉ es := by
    intro e he hmem
    rw [hes e hmem] at he
    cases he
  have hcount : ∀ e : Call, e.counts = true → (cs ++ es).count e = cs.count e := by
    intro e he
    rw [List.count_append, List.count_eq_zero.mpr (hnone e he), Nat.add_zero]
  have hmem : ∀ e : Call, e.counts = true → (e ∈ cs ++ es ↔ e ∈ cs) := by
    intro e he
    simp [hnone e he]
  constructor
  · intro missing
    rw [hmem _ rfl, hbound]
    exact h.created missing
  · rw [hbound, htasks, hdialogs, hvisible]
    exact h.idle
  · rw [hmem _ rfl]
    exact fun hstart => hfinishing (h.started hstart)
  · rw [hmem _ rfl, hbound]
    exact h.asked
  · rw [hcount _ rfl, hcount _ rfl, hcount _ rfl, htasks]
    exact h.balance
  · rw [hcount _ rfl, hcount _ rfl, hdialogs]
    exact h.dialogs
  · intro hb hopen
    rw [offered_append fun b => hnone _ rfl, hvisible]
    apply h.views (hbound ▸ hb)
    rw [Bool.or_eq_false_iff] at hopen ⊢
    exact ⟨Bool.eq_false_iff.mpr fun hf => Bool.eq_false_iff.mp hopen.1 (hfinishing hf),
      Bool.eq_false_iff.mpr fun hd => Bool.eq_false_iff.mp hopen.2 (hdestroyed hd)⟩

lemma Shown.bound_of_task {c : LoginActivity} {cs : List Call} (h : Shown cs c)
    (htask : 0 < c.tasks) : c.bound = true := by
  cases hbound : c.bound with
  | true => rfl
  | false =>
    rw [(h.idle hbound).1] at htask
    cases htask

/-- One more answer of the service. -/
lemma Shown.answer {c c' : LoginActivity} {cs : List Call} {b : Bool} (h : Shown cs c)
    (htask : 0 < c.tasks) (hbound : c'.bound = c.bound) (htasks : c'.tasks = c.tasks - 1)
    (hdialogs : c'.dialogs = c.dialogs) (hfinishing : c.isFinishing = true → c'.isFinishing = true)
    (hviews : (c'.isFinishing || c'.isDestroyed) = false →
      (c.isFinishing || c.isDestroyed) = false ∧
        (c.visible = offered cs → c'.visible = offered (cs ++ [.completed b]))) :
    Shown (cs ++ [.completed b]) c' := by
  have hb := h.bound_of_task htask
  constructor
  · intro missing
    rw [hbound, ← h.created missing]
    simp
  · intro hunbound
    rw [hbound, hb] at hunbound
    cases hunbound
  · simpa using fun hstart => hfinishing (h.started hstart)
  · simpa using fun _ => h.asked hb
  · have hbalance := h.balance
    rw [htasks]
    cases b <;> simp <;> omega
  · simpa [hdialogs] using h.dialogs
  · intro _ hopen
    obtain ⟨hwas, hshown⟩ := hviews hopen
    exact hshown (h.views hb hwas)

lemma Shown.starts {c : LoginActivity} {cs : List Call} (h : Shown cs c)
    (hf : c.isFinishing = true) : Shown (cs ++ [.startGame]) c where
  created missing := by simpa using h.created missing
  idle := h.idle
  started _ := hf
  asked := by simpa using h.asked
  balance := by simpa using h.balance
  dialogs := by simpa using h.dialogs
  views _ hopen := by simp [hf] at hopen

lemma Shown.asksAgain {c : LoginActivity} {cs : List Call} (h : Shown cs c)
    (hbound : c.bound = true) :
    Shown (cs ++ [.asks]) { c with tasks := c.tasks + 1 } where
  created missing := by simpa using h.created missing
  idle hunbound := by simp [hbound] at hunbound
  started := by simpa using h.started
  asked _ := by simp
  balance := by
    have hbalance := h.balance
    simp
    omega
  dialogs := by simpa using h.dialogs
  views _ hopen := by
    rw [offered_append (by simp)]
    exact h.views hbound hopen

lemma Shown.dialogOpened {c : LoginActivity} {cs : List Call} (h : Shown cs c)
    (hbound : c.bound = true) :
    Shown (cs ++ [.dialog]) { c with dialogs := c.dialogs + 1 } where
  created missing := by simpa using h.created missing
  idle hunbound := by simp [hbound] at hunbound
  started := by simpa using h.started
  asked := by simpa using h.asked
  balance := by simpa using h.balance
  dialogs := by
    have hdialogs := h.dialogs
    simp
    omega
  views _ hopen := by
    rw [offered_append (by simp)]
    exact h.views hbound hopen

lemma Shown.dialogConfirmed {c : LoginActivity} {cs : List Call} (h : Shown cs c)
    (hdialog : 0 < c.dialogs) :
    Shown (cs ++ [.openDocumentTree]) { c with dialogs := c.dialogs - 1 } where
  created missing := by simpa using h.created missing
  idle hunbound := by
    rw [(h.idle hunbound).2.1] at hdialog
    cases hdialog
  started := by simpa using h.started
  asked := by simpa using h.asked
  balance := by simpa using h.balance
  dialogs := by
    have hdialogs := h.dialogs
    simp
    omega
  views hbound hopen := by
    rw [offered_append (by simp)]
    exact h.views hbound hopen

theorem Reaction.shown {hidden : Bool} {c c' : LoginActivity} {cs es : List Call}
    (hr : Reaction hidden c c' es) (h : Shown cs c) : Shown (cs ++ es) c' := by
  cases hr with
  | ignores isAuthenticated htask hgone =>
    refine h.answer htask rfl rfl rfl id fun hopen => ?_
    rw [hgone] at hopen
    cases hopen
  | offersMigration htask hopen hhidden =>
    refine h.answer htask rfl rfl rfl id fun _ => ⟨hopen, fun hvisible => ?_⟩
    funext view
    cases view <;> simp [LoginActivity.setVisibility, hvisible, offered]
  | startsGame htask hopen hhidden =>
    rw [List.append_cons]
    refine Shown.starts (h.answer htask rfl rfl rfl (fun _ => rfl) ?_) rfl
    rintro ⟨⟩
  | offersLogin htask hopen =>
    rw [List.append_cons]
    apply Shown.quiet _ (by simp [Call.counts]) rfl rfl rfl rfl id id
    refine h.answer htask rfl rfl rfl id fun _ => ⟨hopen, fun hvisible => ?_⟩
    funext view
    cases view <;> simp [LoginActivity.setVisibility, hvisible, offered]
  | clicked view => exact h.quiet (by simp [Call.counts]) rfl rfl rfl rfl id id
  | clickedLogin hbound =>
    have hclicked : Shown (cs ++ [.clicked .loginButton]) c :=
      h.quiet (by simp [Call.counts]) rfl rfl rfl rfl id id
    rw [List.append_cons]
    exact hclicked.asksAgain hbound
  | clickedStart hbound =>
    have hclicked : Shown (cs ++ [.clicked .startButton]) c.startGame.1 :=
      h.quiet (by simp [Call.counts]) rfl rfl rfl rfl (fun _ => rfl) id
    rw [List.append_cons]
    exact hclicked.starts rfl
  | clickedMigrate hbound =>
    have hclicked : Shown (cs ++ [.clicked .migrateButton]) c :=
      h.quiet (by simp [Call.counts]) rfl rfl rfl rfl id id
    rw [List.append_cons]
    exact hclicked.dialogOpened hbound
  | checked isChecked => exact h.quiet (by simp) rfl rfl rfl rfl id id
  | hides isChecked => exact h.quiet (by simp [Call.counts]) rfl rfl rfl rfl id id
  | confirmed hdialog => exact h.dialogConfirmed hdialog
  | backs => exact h.quiet (by simp) rfl rfl rfl rfl (fun _ => rfl) id
  | destroyed => exact h.quiet (by simp) rfl rfl rfl rfl id fun _ => rfl

/-- The runs start without screens. -/
structure State.Closed (s : State ι) : Prop where
  screens : ∀ i, s.screens i = none

variable {s s₀ s' : State ι} {tr es : List (Event ι)} {ok : State ι → Action ι → Prop}

/-- Every screen shows what its calls account for, and the preference is the last value set. -/
structure Accounted (initially : Bool) (tr : List (Event ι)) (s : State ι) : Prop where
  hidden : s.isMigrateHidden = lastHidden initially tr
  screen : ∀ i c, s.screens i = some c → Shown (calls i tr) c
  absent : ∀ i, s.screens i = none → calls i tr = []

lemma Accounted.put {initially : Bool} (hs : Accounted initially tr s) {i : ι}
    {c : LoginActivity} {es : List Call} (hc : Shown (calls i tr ++ es) c)
    (hhidden : s'.isMigrateHidden = lastHidden s.isMigrateHidden (es.map (Event.mk i)))
    (hscreens : s'.screens = s.screens) :
    Accounted initially (tr ++ es.map (Event.mk i)) (s'.put i c) := by
  constructor
  · rw [lastHidden_append, ← hs.hidden]
    exact hhidden
  · intro j d hd
    rw [State.put_screens, hscreens] at hd
    rw [calls_append]
    split_ifs at hd with hj
    · cases hd
      rw [hj, calls_map_self]
      exact hc
    · rw [calls_map_of_ne (Ne.symm hj), List.append_nil]
      exact hs.screen j d hd
  · intro j hd
    rw [State.put_screens, hscreens] at hd
    split_ifs at hd with hj
    rw [calls_append, calls_map_of_ne (Ne.symm hj), List.append_nil]
    exact hs.absent j hd

theorem Step.accounted {initially : Bool} (h : Step s s' es) (hs : Accounted initially tr s) :
    Accounted initially (tr ++ es) s' := by
  cases h with
  | created i hnew obbFiles =>
    apply hs.put
    · rw [hs.absent i hnew, List.nil_append]
      exact shown_onCreate s.isMigrateHidden obbFiles
    · unfold LoginActivity.onCreate
      split_ifs <;> rfl
    · rfl
  | reacts i c c' hc es hr s'' hs'' =>
    subst hs''
    exact hs.put (hr.shown (hs.screen i c hc)) rfl rfl
  | same => simpa using hs

theorem accounted_of_run (h₀ : s₀.Closed) (h : (machine ι).Run ok s₀ tr s) :
    Accounted s₀.isMigrateHidden tr s := by
  refine h.invariant (Accounted s₀.isMigrateHidden) ?_ ?_
  · exact ⟨rfl, fun i c hc => by simp [h₀.screens i] at hc, fun _ _ => rfl⟩
  · intro tr s a s' es _ hs _ hstep
    exact (Step.of_step hstep).accounted hs

/-! ### When a screen acts -/

/-- What may happen on a screen, where `past` ends with the call that the screen reacts to. -/
def Allowed (initially : Bool) (past : List (Event ι)) (ev : Event ι) : Prop :=
  match ev.call with
  | .startGame        => .created false ∈ calls ev.screen past ∧
      (past.getLast? = some ⟨ev.screen, .clicked .startButton⟩ ∨
        past.getLast? = some ⟨ev.screen, .completed true⟩ ∧ lastHidden initially past = true ∧
          .startGame ∉ calls ev.screen past)
  | .asks             => .created false ∈ calls ev.screen past ∧
      (past.getLast? = some ⟨ev.screen, .created false⟩ ∨
        past.getLast? = some ⟨ev.screen, .clicked .loginButton⟩)
  | .completed _      => (calls ev.screen past).count (.completed true) +
      (calls ev.screen past).count (.completed false) < (calls ev.screen past).count .asks
  | .openDocumentTree =>
      (calls ev.screen past).count .openDocumentTree < (calls ev.screen past).count .dialog
  | .dialog           => past.getLast? = some ⟨ev.screen, .clicked .migrateButton⟩
  | _                 => True

lemma calls_singleton (i : ι) (e : Call) : calls i [⟨i, e⟩] = [e] := calls_map_self i [e]

lemma Shown.completed_lt {c : LoginActivity} {cs : List Call} (h : Shown cs c)
    (htask : 0 < c.tasks) :
    cs.count (.completed true) + cs.count (.completed false) < cs.count .asks := by
  have hbalance := h.balance
  omega

lemma Reaction.allowed {initially : Bool} {i : ι} {c c' : LoginActivity} {es : List Call}
    (hr : Reaction s.isMigrateHidden c c' es) (hs : Accounted initially tr s)
    (hc : s.screens i = some c) : Justified (Allowed initially) tr (es.map (Event.mk i)) := by
  have hshown := hs.screen i c hc
  have hcreated : c.bound = true → .created false ∈ calls i tr := (hshown.created false).mpr
  cases hr with
  | ignores isAuthenticated htask hgone => exact ⟨hshown.completed_lt htask, trivial⟩
  | offersMigration htask hopen hhidden => exact ⟨hshown.completed_lt htask, trivial⟩
  | offersLogin htask hopen => exact ⟨hshown.completed_lt htask, trivial, trivial⟩
  | startsGame htask hopen hhidden =>
    have hfirst : .startGame ∉ calls i tr := by
      intro hstart
      rw [hshown.started hstart] at hopen
      cases hopen
    have hlast : lastHidden initially (tr ++ [⟨i, .completed true⟩]) = true := by
      rw [lastHidden_append, ← hs.hidden]
      exact hhidden
    refine ⟨hshown.completed_lt htask, ⟨?_, Or.inr ⟨List.getLast?_concat, hlast, ?_⟩⟩, trivial⟩
    · rw [calls_append]
      exact List.mem_append_left _ (hcreated (hshown.bound_of_task htask))
    · simpa [calls_append, calls_singleton] using hfirst
  | clickedLogin hbound =>
    refine ⟨trivial, ⟨?_, Or.inr List.getLast?_concat⟩, trivial⟩
    rw [calls_append]
    exact List.mem_append_left _ (hcreated hbound)
  | clickedStart hbound =>
    refine ⟨trivial, ⟨?_, Or.inl List.getLast?_concat⟩, trivial⟩
    rw [calls_append]
    exact List.mem_append_left _ (hcreated hbound)
  | clickedMigrate hbound => exact ⟨trivial, List.getLast?_concat, trivial⟩
  | confirmed hdialog =>
    refine ⟨?_, trivial⟩
    have hdialogs := hshown.dialogs
    show (calls i tr).count .openDocumentTree < (calls i tr).count .dialog
    omega
  | clicked view => exact ⟨trivial, trivial⟩
  | hides isChecked => exact ⟨trivial, trivial⟩
  | checked isChecked => trivial
  | backs => trivial
  | destroyed => trivial

/-- Every start of the game is the player's, or follows a sign-in while the offer to migrate is
hidden, as the first of its screen; a screen without the game data starts none. The service is asked
when a screen appears and when the player wants to sign in, and gives no more answers than it was
asked for. -/
theorem screens_act_when_asked (h₀ : s₀.Closed) (h : (machine ι).Run ok s₀ tr s) :
    Justified (Allowed s₀.isMigrateHidden) [] tr := by
  refine h.justified ?_
  intro tr s a s' es hrun _ hstep
  have hacc := accounted_of_run h₀ hrun
  cases Step.of_step hstep with
  | created i hnew obbFiles =>
    unfold LoginActivity.onCreate
    split_ifs <;> simp [Allowed, calls_append, calls_singleton]
  | reacts i c c' hc es hr s'' hs'' => exact hr.allowed hacc hc
  | same => trivial

/-- Without screens, and with the preference as it is by default. -/
def installed : State Bool where
  isMigrateHidden := false
  screens _ := none

/-- The offer to migrate is hidden on the first screen; the second one starts the game by itself. -/
theorem screens_act_when_asked_second : ∃ tr, ⟨true, .startGame⟩ ∈ tr ∧
    Justified (Allowed false) [] tr := by
  obtain ⟨tr, s, hrun, hmem⟩ := Machine.Run.exists_of_exec (machine Bool) (fun _ _ => True)
    installed
    [.onCreate false (some [⟨"main.obb".toList, true⟩, ⟨"patch.obb".toList, true⟩]),
      .authComplete false true true, .setChecked false true, .click false .startButton,
      .onCreate true (some [⟨"main.obb".toList, true⟩, ⟨"patch.obb".toList, true⟩]),
      .onDestroy false, .authComplete true true true]
    (fun _ tr => ⟨true, .startGame⟩ ∈ tr) (by decide)
  exact ⟨tr, hmem, screens_act_when_asked ⟨fun _ => rfl⟩ hrun⟩

/-- With the game data, a screen that the player is on offers to sign in or to migrate, or the
service still owes it an answer: it shows that it is connecting until the first answer, it offers to
sign in once the answer was no, to migrate once it was yes, and to start the game at all times.
Without them it says so beside the views of the layout, and nothing is bound to them: it never
starts the game. -/
theorem screens_offer_a_way_on (h₀ : s₀.Closed) (h : (machine ι).Run ok s₀ tr s) {i : ι}
    {c : LoginActivity} (hc : s.screens i = some c)
    (hopen : (c.isFinishing || c.isDestroyed) = false) :
    (.created false ∈ calls i tr ∧ c.visible = offered (calls i tr) ∧ c.bound = true ∧
        (0 < c.tasks ∨ c.visible .loginButton = true ∨ c.visible .migrateButton = true)) ∨
      (.created true ∈ calls i tr ∧ c.visible = stranded ∧ c.bound = false ∧ c.tasks = 0 ∧
        .startGame ∉ calls i tr) := by
  have hshown := (accounted_of_run h₀ h).screen i c hc
  cases hbound : c.bound with
  | true =>
    have hvisible := hshown.views hbound hopen
    refine Or.inl ⟨(hshown.created false).mpr hbound, hvisible, rfl, ?_⟩
    have hasked := List.count_pos_iff.mpr (hshown.asked hbound)
    have hbalance := hshown.balance
    rcases Nat.eq_zero_or_pos c.tasks with hnone | htask
    · have hanswer : 0 < (calls i tr).count (.completed true) ∨
          0 < (calls i tr).count (.completed false) := by omega
      rw [hvisible]
      rcases hanswer with hyes | hno
      · exact Or.inr (Or.inr (by simpa [offered] using List.count_pos_iff.mp hyes))
      · exact Or.inr (Or.inl (by simpa [offered] using List.count_pos_iff.mp hno))
    · exact Or.inl htask
  | false =>
    obtain ⟨htasks, _, hvisible⟩ := hshown.idle hbound
    refine Or.inr ⟨(hshown.created true).mpr hbound, hvisible, rfl, htasks, ?_⟩
    intro hstart
    rw [hshown.started hstart] at hopen
    cases hopen

end

/-- The sign-in has failed, and the player has asked again. -/
theorem screens_offer_a_way_on_refused : ∃ s : State Bool, ∃ c ∈ s.screens false,
    c.visible = offered [.created false, .asks, .completed false, .notSignedIn,
      .clicked .loginButton, .asks] := by
  obtain ⟨tr, s, hrun, htr, hopen⟩ := Machine.Run.exists_of_exec (machine Bool) (fun _ _ => True)
    installed
    [.onCreate false (some [⟨"main.obb".toList, true⟩, ⟨"patch.obb".toList, true⟩]),
      .authComplete false false false, .click false .loginButton]
    (fun s tr => calls false tr = [.created false, .asks, .completed false, .notSignedIn,
        .clicked .loginButton, .asks] ∧
      ∃ c ∈ s.screens false, (c.isFinishing || c.isDestroyed) = false) (by decide)
  obtain ⟨c, hc, hopen⟩ := hopen
  refine ⟨s, c, hc, ?_⟩
  rcases screens_offer_a_way_on ⟨fun _ => rfl⟩ hrun hc hopen with hdata | hmissing
  · rw [hdata.2.1, htr]
  · have hcreated := hmissing.1
    rw [htr] at hcreated
    simp at hcreated

end AndroidMkxp.Login
