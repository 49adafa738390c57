import AndroidMkxp.Foundation.Machine
import AndroidMkxp.Saves.Directory
import Mathlib.Logic.Function.Basic

/-!
# The login screen

`LoginActivity` comes before the game. It tests that the game data are there, asks the games service
whether the player is signed in, and then offers to sign in, to migrate old saves or to start the
game; if the offer to migrate has been hidden, it starts the game by itself. The answers of the
service arrive at any time, also after the screen has gone.

Any number of screens live on one preference file.
-/

namespace AndroidMkxp.Login

open Foundation

/-- An entry of `getObbDir()`. -/
structure ObbFile where
  name : JString
  isFile : Bool
  deriving DecidableEq

/-- `LoginActivity.isObbMissing`, with the result of `listFiles()`, which may be `null`. -/
def isObbMissing : Option (List ObbFile) → Bool
  | none          => true
  | some obbFiles => obbFiles.length < 2

/-- The views of the layout. -/
inductive View where
  | connecting
  | loginDesc
  | loginButton
  | obbMissing
  | legacyDesc
  | migrateButton
  | migrateHide
  | startButton
  deriving DecidableEq, Repr

/-- What is called on a screen, and what it calls in turn. -/
inductive Call where
  | created (obbMissing : Bool)
  | clicked (view : View)
  | completed (isAuthenticated : Bool)
  /-- `isAuthenticated()` or `signIn()` of the games service. -/
  | asks
  | startGame
  | notSignedIn
  | dialog
  | openDocumentTree
  | setMigrateHidden (val : Bool)
  deriving DecidableEq, Repr

structure Event (ι : Type) where
  screen : ι
  call : Call
  deriving DecidableEq

structure LoginActivity where
  visible : View → Bool
  /-- `onCreate` has got to the listeners. -/
  bound : Bool
  /-- The check mark of `migrateHide`. -/
  checked : Bool
  /-- The tasks of the games service that have not completed. -/
  tasks : ℕ
  /-- The migration dialogs that have not been answered. -/
  dialogs : ℕ
  isFinishing : Bool
  isDestroyed : Bool

namespace LoginActivity

/-- What `setContentView` shows. -/
def setContentView : LoginActivity where
  visible view := view = .connecting ∨ view = .startButton
  bound := false
  checked := false
  tasks := 0
  dialogs := 0
  isFinishing := false
  isDestroyed := false

def setVisibility (c : LoginActivity) (view : View) (visible : Bool) : LoginActivity :=
  { c with visible := Function.update c.visible view visible }

def onCreate (isMigrateHidden : Bool) (obbFiles : Option (List ObbFile)) :
    LoginActivity × List Call :=
  if isObbMissing obbFiles then
    (setContentView.setVisibility .obbMissing true, [.created true])
  else
    ({ setContentView with bound := true, checked := isMigrateHidden, tasks := 1 },
      [.created false, .asks])

def startGame (c : LoginActivity) : LoginActivity × List Call :=
  ({ c with isFinishing := true }, [.startGame])

def authCompleteListener (isMigrateHidden isAuthenticated : Bool) (c : LoginActivity) :
    LoginActivity × List Call :=
  if c.isFinishing || c.isDestroyed then (c, [])
  else
    let c := c.setVisibility .connecting false
    if isAuthenticated then
      if !isMigrateHidden then
        (((c.setVisibility .legacyDesc true).setVisibility .migrateButton true).setVisibility
          .migrateHide true, [])
      else c.startGame
    else
      ((c.setVisibility .loginButton true).setVisibility .loginDesc true, [.notSignedIn])

/-- The click listeners. -/
def onClick (c : LoginActivity) : View → LoginActivity × List Call
  | .loginButton   => ({ c with tasks := c.tasks + 1 }, [.asks])
  | .startButton   => c.startGame
  | .migrateButton => ({ c with dialogs := c.dialogs + 1 }, [.dialog])
  | _              => (c, [])

def performClick (c : LoginActivity) (view : View) : LoginActivity × List Call :=
  if c.bound then c.onClick view else (c, [])

end LoginActivity

structure State (ι : Type) where
  /-- The preference `migrate_legacy_v1_hidden`. -/
  isMigrateHidden : Bool
  screens : ι → Option LoginActivity

inductive Action (ι : Type) where
  | onCreate (i : ι) (obbFiles : Option (List ObbFile))
  | authComplete (i : ι) (isSuccessful isAuthenticated : Bool)
  | click (i : ι) (view : View)
  /-- The user checks `migrateHide`, or Android restores its state. -/
  | setChecked (i : ι) (isChecked : Bool)
  /-- The user answers the migration dialog with OK. -/
  | confirm (i : ι)
  | back (i : ι)
  | onDestroy (i : ι)

section

variable {ι : Type} [DecidableEq ι]

def State.put (s : State ι) (i : ι) (c : LoginActivity) : State ι :=
  { s with screens := Function.update s.screens i (some c) }

lemma State.put_screens (s : State ι) (i j : ι) (c : LoginActivity) :
    (s.put i c).screens j = if j = i then some c else s.screens j :=
  Function.update_apply s.screens i (some c) j

/-- The screen `i` after a reaction. -/
def State.becomes (s : State ι) (i : ι) (r : LoginActivity × List Call) :
    Option (State ι × List (Event ι)) :=
  some (s.put i r.1, r.2.map (Event.mk i))

def step (s : State ι) : Action ι → Option (State ι × List (Event ι))
  | .onCreate i obbFiles =>
    match s.screens i with
    | some _ => none
    | none   => s.becomes i (LoginActivity.onCreate s.isMigrateHidden obbFiles)
  | .authComplete i isSuccessful isAuthenticated =>
    match s.screens i with
    | none   => none
    | some c =>
      if c.tasks = 0 then none
      else
        let authenticated := isSuccessful && isAuthenticated
        let r :=
          { c with tasks := c.tasks - 1 }.authCompleteListener s.isMigrateHidden authenticated
        s.becomes i (r.1, .completed authenticated :: r.2)
  | .click i view =>
    match s.screens i with
    | none   => none
    | some c =>
      if c.isDestroyed || !c.visible view then none
      else
        s.becomes i ((c.performClick view).1, .clicked view :: (c.performClick view).2)
  | .setChecked i isChecked =>
    match s.screens i with
    | none   => none
    | some c =>
      if c.isDestroyed then none
      else if c.checked = isChecked then some (s, [])
      else if c.bound then
        { s with isMigrateHidden := isChecked }.becomes i
          ({ c with checked := isChecked }, [.setMigrateHidden isChecked])
      else s.becomes i ({ c with checked := isChecked }, [])
  | .confirm i =>
    match s.screens i with
    | none   => none
    | some c =>
      if c.isDestroyed || c.dialogs = 0 then none
      else s.becomes i ({ c with dialogs := c.dialogs - 1 }, [.openDocumentTree])
  | .back i =>
    match s.screens i with
    | none   => none
    | some c =>
      if c.isDestroyed then none else s.becomes i ({ c with isFinishing := true }, [])
  | .onDestroy i =>
    match s.screens i with
    | none   => none
    | some c => if c.isDestroyed then none else s.becomes i ({ c with isDestroyed := true }, [])

def machine (ι : Type) [DecidableEq ι] : Machine (State ι) (Action ι) (Event ι) := ⟨step⟩

/-- The calls of one screen. -/
def calls (i : ι) (tr : List (Event ι)) : List Call :=
  tr.filterMap fun ev => if ev.screen = i then some ev.call else none

lemma calls_append (i : ι) (tr es : List (Event ι)) :
    calls i (tr ++ es) = calls i tr ++ calls i es :=
  List.filterMap_append

@[simp] lemma calls_map_self (i : ι) (cs : List Call) : calls i (cs.map (Event.mk i)) = cs := by
  rw [calls, List.filterMap_map]
  simp

lemma calls_map_of_ne {i j : ι} (h : i ≠ j) (cs : List Call) :
    calls j (cs.map (Event.mk i)) = [] := by
  rw [calls, List.filterMap_map]
  exact List.filterMap_eq_nil_iff.mpr fun _ _ => if_neg h

/-- What the preference has been set to last. -/
def lastHidden (initially : Bool) (tr : List (Event ι)) : Bool :=
  tr.foldl (fun hidden ev => match ev.call with
    | .setMigrateHidden val => val
    | _                     => hidden) initially

/-! ### What a screen does -/

/-- The reactions of a screen that has been created. -/
inductive Reaction (isMigrateHidden : Bool) (c : LoginActivity) : LoginActivity → List Call → Prop
  where
  /-- The answer comes after the screen has gone. -/
  | ignores (isAuthenticated : Bool) (htask : 0 < c.tasks)
      (hgone : (c.isFinishing || c.isDestroyed) = true) :
      Reaction isMigrateHidden c { c with tasks := c.tasks - 1 } [.completed isAuthenticated]
  | offersMigration (htask : 0 < c.tasks) (hopen : (c.isFinishing || c.isDestroyed) = false)
      (hhidden : isMigrateHidden = false) :
      Reaction isMigrateHidden c
        (((({ c with tasks := c.tasks - 1 }.setVisibility .connecting false).setVisibility
          .legacyDesc true).setVisibility .migrateButton true).setVisibility .migrateHide true)
        [.completed true]
  | startsGame (htask : 0 < c.tasks) (hopen : (c.isFinishing || c.isDestroyed) = false)
      (hhidden : isMigrateHidden = true) :
      Reaction isMigrateHidden c
        ({ c with tasks := c.tasks - 1 }.setVisibility .connecting false).startGame.1
        [.completed true, .startGame]
  | offersLogin (htask : 0 < c.tasks) (hopen : (c.isFinishing || c.isDestroyed) = false) :
      Reaction isMigrateHidden c
        ((({ c with tasks := c.tasks - 1 }.setVisibility .connecting false).setVisibility
          .loginButton true).setVisibility .loginDesc true)
        [.completed false, .notSignedIn]
  | clicked (view : View) : Reaction isMigrateHidden c c [.clicked view]
  | clickedLogin (hbound : c.bound = true) :
      Reaction isMigrateHidden c { c with tasks := c.tasks + 1 } [.clicked .loginButton, .asks]
  | clickedStart (hbound : c.bound = true) :
      Reaction isMigrateHidden c c.startGame.1 [.clicked .startButton, .startGame]
  | clickedMigrate (hbound : c.bound = true) :
      Reaction isMigrateHidden c { c with dialogs := c.dialogs + 1 }
        [.clicked .migrateButton, .dialog]
  | checked (isChecked : Bool) : Reaction isMigrateHidden c { c with checked := isChecked } []
  | hides (isChecked : Bool) :
      Reaction isMigrateHidden c { c with checked := isChecked } [.setMigrateHidden isChecked]
  | confirmed (hdialog : 0 < c.dialogs) :
      Reaction isMigrateHidden c { c with dialogs := c.dialogs - 1 } [.openDocumentTree]
  | backs : Reaction isMigrateHidden c { c with isFinishing := true } []
  | destroyed : Reaction isMigrateHidden c { c with isDestroyed := true } []

lemma reaction_of_authComplete {isMigrateHidden isAuthenticated : Bool} {c : LoginActivity}
    (htask : 0 < c.tasks) : Reaction isMigrateHidden c
      ({ c with tasks := c.tasks - 1 }.authCompleteListener isMigrateHidden isAuthenticated).1
      (.completed isAuthenticated ::
        ({ c with tasks := c.tasks - 1 }.authCompleteListener isMigrateHidden
          isAuthenticated).2) := by
  unfold LoginActivity.authCompleteListener
  cases hgone : c.isFinishing || c.isDestroyed with
  | true => exact .ignores isAuthenticated htask hgone
  | false =>
    cases isAuthenticated with
    | false => exact .offersLogin htask hgone
    | true =>
      cases isMigrateHidden with
      | false => exact .offersMigration htask hgone rfl
      | true => exact .startsGame htask hgone rfl

lemma reaction_of_click {isMigrateHidden : Bool} {c : LoginActivity} {view : View} :
    Reaction isMigrateHidden c (c.performClick view).1
      (.clicked view :: (c.performClick view).2) := by
  unfold LoginActivity.performClick
  cases hbound : c.bound with
  | false => exact .clicked view
  | true =>
    cases view with
    | loginButton => exact .clickedLogin hbound
    | startButton => exact .clickedStart hbound
    | migrateButton => exact .clickedMigrate hbound
    | connecting => exact .clicked _
    | loginDesc => exact .clicked _
    | obbMissing => exact .clicked _
    | legacyDesc => exact .clicked _
    | migrateHide => exact .clicked _

inductive Step (s : State ι) : State ι → List (Event ι) → Prop where
  | created (i : ι) (hnew : s.screens i = none) (obbFiles : Option (List ObbFile)) :
      Step s (s.put i (LoginActivity.onCreate s.isMigrateHidden obbFiles).1)
        ((LoginActivity.onCreate s.isMigrateHidden obbFiles).2.map (Event.mk i))
  | reacts (i : ι) (c c' : LoginActivity) (hc : s.screens i = some c) (es : List Call)
      (hr : Reaction s.isMigrateHidden c c' es) (s' : State ι)
      (hs' : s' =
        { s with isMigrateHidden := lastHidden s.isMigrateHidden (es.map (Event.mk i)) }) :
      Step s (s'.put i c') (es.map (Event.mk i))
  | same : Step s s []

omit [DecidableEq ι] in
lemma lastHidden_append (initially : Bool) (tr es : List (Event ι)) :
    lastHidden initially (tr ++ es) = lastHidden (lastHidden initially tr) es :=
  List.foldl_append

omit [DecidableEq ι] in
/-- Only a toggle changes the preference. -/
lemma lastHidden_of_forall {hidden : Bool} {es : List (Event ι)}
    (h : ∀ ev ∈ es, ∀ val, ev.call ≠ .setMigrateHidden val) : lastHidden hidden es = hidden := by
  induction es generalizing hidden with
  | nil => rfl
  | cons ev es ih =>
    rw [List.forall_mem_cons] at h
    rw [lastHidden, List.foldl_cons]
    cases hev : ev.call with
    | setMigrateHidden val => exact absurd hev (h.1 val)
    | _ => exact ih h.2

lemma Step.of_reaction {s : State ι} {i : ι} {c c' : LoginActivity} {es : List Call}
    (hc : s.screens i = some c) (hr : Reaction s.isMigrateHidden c c' es)
    (hes : ∀ e ∈ es, ∀ val, e ≠ .setMigrateHidden val) :
    Step s (s.put i c') (es.map (Event.mk i)) := by
  have hhidden : lastHidden s.isMigrateHidden (es.map (Event.mk i)) = s.isMigrateHidden := by
    apply lastHidden_of_forall
    intro ev hev val
    obtain ⟨e, he, rfl⟩ := List.mem_map.mp hev
    exact hes e he val
  exact .reacts i c c' hc es hr s (by rw [hhidden])

lemma authCompleteListener_calls {isMigrateHidden isAuthenticated : Bool} {c : LoginActivity} :
    ∀ e ∈ (c.authCompleteListener isMigrateHidden isAuthenticated).2,
      ∀ val, e ≠ .setMigrateHidden val := by
  unfold LoginActivity.authCompleteListener LoginActivity.startGame
  split_ifs <;> simp

lemma performClick_calls {c : LoginActivity} {view : View} :
    ∀ e ∈ (c.performClick view).2, ∀ val, e ≠ .setMigrateHidden val := by
  unfold LoginActivity.performClick
  cases c.bound <;> cases view <;> simp [LoginActivity.onClick, LoginActivity.startGame]

lemma Step.of_step {s s' : State ι} {a : Action ι} {es : List (Event ι)}
    (h : step s a = some (s', es)) : Step s s' es := by
  cases a with
  | onCreate i obbFiles =>
    simp only [step] at h
    split at h
    · cases h
    · next hnew =>
      cases h
      exact .created i hnew obbFiles
  | authComplete i isSuccessful isAuthenticated =>
    simp only [step] at h
    split at h
    · cases h
    · next c hc =>
      split_ifs at h with htask
      cases h
      refine .of_reaction hc (reaction_of_authComplete (Nat.pos_of_ne_zero htask)) ?_
      rintro e (_ | ⟨_, he⟩) val
      · simp
      · exact authCompleteListener_calls e he val
  | click i view =>
    simp only [step] at h
    split at h
    · cases h
    · next c hc =>
      split_ifs at h
      cases h
      refine .of_reaction hc reaction_of_click ?_
      rintro e (_ | ⟨_, he⟩) val
      · simp
      · exact performClick_calls e he val
  | setChecked i isChecked =>
    simp only [step] at h
    split at h
    · cases h
    · next c hc =>
      split_ifs at h with hdestroyed hsame hbound
      · cases h
        exact .same
      · cases h
        exact .reacts i c _ hc _ (.hides isChecked) _ rfl
      · cases h
        exact .of_reaction hc (.checked isChecked) (by simp)
  | confirm i =>
    simp only [step] at h
    split at h
    · cases h
    · next c hc =>
      split_ifs at h with hnone
      cases h
      simp only [Bool.or_eq_true, decide_eq_true_eq, not_or] at hnone
      exact .of_reaction hc (.confirmed (Nat.pos_of_ne_zero hnone.2)) (by simp)
  | back i =>
    simp only [step] at h
    split at h
    · cases h
    · next c hc =>
      split_ifs at h
      cases h
      exact .of_reaction hc .backs (by simp)
  | onDestroy i =>
    simp only [step] at h
    split at h
    · cases h
    · next c hc =>
      split_ifs at h
      cases h
      exact .of_reaction hc .destroyed (by simp)

end

end AndroidMkxp.Login
