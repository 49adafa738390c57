import AndroidMkxp.Foundation.Machine
import Mathlib.Data.Int.Notation
import Mathlib.Data.List.Basic

/-!
# Message boxes

`messageboxShowMessageBox` has the UI thread show a dialog and blocks the thread that called it
until the dialog is dismissed. A click sets `messageboxSelection` and dismisses the dialog, and the
listener for that notifies the thread that waits.

Clicks with a finger and dismissals are messages of the UI thread, handled in the order they are
posted in; a key clicks at once. The caller can be anywhere between posting the dialog and waiting
when the notification comes. One thread shows message boxes, and each call takes one more number.
-/

namespace AndroidMkxp.MessageBox

open Foundation

/-- The arguments that a call is decided by. The colours are not among them: `colors` is null or has
an entry for each of the five parts. -/
structure Box where
  buttonFlags : List ℕ
  buttonIds : List ℤ
  buttonTexts : List String
  deriving DecidableEq

inductive Key where
  | KEYCODE_ENTER
  | KEYCODE_ESCAPE
  deriving DecidableEq

/-- See SDL_messagebox.h -/
def Key.flag : Key → ℕ
  | .KEYCODE_ENTER  => 0x00000001
  | .KEYCODE_ESCAPE => 0x00000002

namespace Box

/-- The sanity check of `messageboxShowMessageBox` fails. -/
def refused (box : Box) : Bool :=
  box.buttonFlags.length ≠ box.buttonIds.length ∧ box.buttonIds.length ≠ box.buttonTexts.length

/-- `messageboxCreateAndShow` finds an id and flags for each text. -/
def buildable (box : Box) : Bool :=
  box.buttonTexts.length ≤ box.buttonIds.length ∧ box.buttonTexts.length ≤ box.buttonFlags.length

/-- The ids of the buttons. -/
def buttons (box : Box) : List ℤ := box.buttonIds.take box.buttonTexts.length

/-- The button that a key clicks: the last one with the flag. -/
def mapping (box : Box) (key : Key) : Option ℤ :=
  ((box.buttons.zip box.buttonFlags).filter fun b => b.2 &&& key.flag ≠ 0).getLast?.map Prod.fst

lemma mem_buttons_of_mapping {box : Box} {key : Key} {id : ℤ} (h : box.mapping key = some id) :
    id ∈ box.buttons := by
  obtain ⟨b, hb, rfl⟩ := Option.map_eq_some_iff.mp h
  exact (List.of_mem_zip (List.mem_filter.mp (List.mem_of_getLast? hb)).1).1

end Box

/-- Where the thread is in `messageboxShowMessageBox`. -/
inductive Caller where
  | idle
  /-- About to post the dialog. -/
  | calling (n : ℕ) (box : Box)
  /-- Not waiting yet. -/
  | posted (n : ℕ) (box : Box)
  | waiting (n : ℕ) (box : Box)
  /-- About to read the selection. -/
  | woken (n : ℕ) (box : Box)
  deriving DecidableEq

inductive Message where
  | messageboxCreateAndShow (n : ℕ) (box : Box)
  | performClick (n : ℕ) (id : ℤ)
  | onDismiss (n : ℕ)
  deriving DecidableEq

structure State where
  messageboxSelection : ℤ
  caller : Caller
  /-- The messages of the UI thread. -/
  queue : List Message
  /-- The dialogs on the screen. -/
  dialogs : List (ℕ × Box)
  calls : ℕ
  crashed : Bool
  deriving DecidableEq

inductive Action where
  | messageboxShowMessageBox (box : Box)
  | runOnUiThread
  | wait
  /-- `wait` ends without a notification. -/
  | wakeEarly (interrupted : Bool)
  | returnSelection
  /-- The UI thread handles a message. -/
  | handle
  /-- A finger is lifted from a button. -/
  | release (n i : ℕ)
  | onKeyUp (n : ℕ) (key : Key)
  deriving DecidableEq

inductive Event where
  | called (box : Box)
  | shown (n : ℕ)
  | crashed (n : ℕ)
  | clicked (n : ℕ) (id : ℤ)
  | notified (n : ℕ)
  | returned (n : ℕ) (selection : ℤ)
  deriving DecidableEq

def initial : State where
  messageboxSelection := 0
  caller := .idle
  queue := []
  dialogs := []
  calls := 0
  crashed := false

/-- `onClick`. A dialog that has been dismissed is not dismissed again. -/
def State.click (s : State) (n : ℕ) (id : ℤ) : State × List Event :=
  ({ s with
      messageboxSelection := id
      dialogs := s.dialogs.filter fun d => d.1 ≠ n
      queue := if n ∈ s.dialogs.map Prod.fst then s.queue ++ [.onDismiss n] else s.queue },
    [.clicked n id])

/-- `notify` is lost on a thread that does not wait. -/
def Caller.notify : Caller → Caller
  | .waiting n box => .woken n box
  | caller         => caller

def State.handle (s : State) : Message → State × List Event
  | .messageboxCreateAndShow n box =>
    if box.buildable then ({ s with dialogs := s.dialogs ++ [(n, box)] }, [.shown n])
    else ({ s with crashed := true }, [.crashed n])
  | .performClick n id => s.click n id
  | .onDismiss n       => ({ s with caller := s.caller.notify }, [.notified n])

def step (s : State) (a : Action) : Option (State × List Event) :=
  if s.crashed then none
  else
    match a with
    | .messageboxShowMessageBox box =>
      match s.caller with
      | .idle =>
        let n := s.calls
        let s := { s with messageboxSelection := -1, calls := s.calls + 1 }
        if box.refused then some (s, [.called box, .returned n (-1)])
        else some ({ s with caller := .calling n box }, [.called box])
      | _ => none
    | .runOnUiThread =>
      match s.caller with
      | .calling n box =>
        some ({ s with
          caller := .posted n box
          queue := s.queue ++ [.messageboxCreateAndShow n box] }, [])
      | _ => none
    | .wait =>
      match s.caller with
      | .posted n box => some ({ s with caller := .waiting n box }, [])
      | _             => none
    | .wakeEarly interrupted =>
      match s.caller with
      | .waiting n box =>
        if interrupted then some ({ s with caller := .idle }, [.returned n (-1)])
        else some ({ s with caller := .woken n box }, [])
      | _ => none
    | .returnSelection =>
      match s.caller with
      | .woken n _ => some ({ s with caller := .idle }, [.returned n s.messageboxSelection])
      | _          => none
    | .handle =>
      match s.queue with
      | []               => none
      | message :: queue => some ({ s with queue := queue }.handle message)
    | .release n i =>
      match s.dialogs.find? fun d => d.1 = n with
      | none   => none
      | some d =>
        match d.2.buttons[i]? with
        | none    => none
        | some id => some ({ s with queue := s.queue ++ [.performClick n id] }, [])
    | .onKeyUp n key =>
      match s.dialogs.find? fun d => d.1 = n with
      | none   => none
      | some d =>
        match d.2.mapping key with
        | none    => none
        | some id => some (s.click n id)

def machine : Machine State Action Event := ⟨step⟩

/-- `wait` ends with a notification only. -/
def Undisturbed (_ : State) : Action → Prop
  | .wakeEarly _ => False
  | _            => True

instance (s : State) (a : Action) : Decidable (Undisturbed s a) :=
  match a with
  | .wakeEarly _ => inferInstanceAs (Decidable False)
  | .messageboxShowMessageBox _ | .runOnUiThread | .wait | .returnSelection | .handle
  | .release _ _ | .onKeyUp _ _ => inferInstanceAs (Decidable True)

/-! ### What an undisturbed step does -/

inductive Step (s : State) : State → List Event → Prop where
  | refuse (box : Box) (hcaller : s.caller = .idle) (hrefused : box.refused = true) :
      Step s { s with messageboxSelection := -1, calls := s.calls + 1 }
        [.called box, .returned s.calls (-1)]
  | call (box : Box) (hcaller : s.caller = .idle) (hrefused : box.refused = false) :
      Step s
        { s with
          messageboxSelection := -1
          calls := s.calls + 1
          caller := .calling s.calls box }
        [.called box]
  | post (n : ℕ) (box : Box) (hcaller : s.caller = .calling n box) :
      Step s
        { s with
          caller := .posted n box
          queue := s.queue ++ [.messageboxCreateAndShow n box] }
        []
  | wait (n : ℕ) (box : Box) (hcaller : s.caller = .posted n box) :
      Step s { s with caller := .waiting n box } []
  | answer (n : ℕ) (box : Box) (hcaller : s.caller = .woken n box) :
      Step s { s with caller := .idle } [.returned n s.messageboxSelection]
  | create (n : ℕ) (box : Box) (queue : List Message)
      (hqueue : s.queue = .messageboxCreateAndShow n box :: queue)
      (hbuildable : box.buildable = true) :
      Step s { s with queue := queue, dialogs := s.dialogs ++ [(n, box)] } [.shown n]
  | crash (n : ℕ) (box : Box) (queue : List Message)
      (hqueue : s.queue = .messageboxCreateAndShow n box :: queue)
      (hbuildable : box.buildable = false) :
      Step s { s with queue := queue, crashed := true } [.crashed n]
  | click (n : ℕ) (id : ℤ) (queue : List Message) (hqueue : s.queue = .performClick n id :: queue) :
      Step s ({ s with queue := queue }.click n id).1 [.clicked n id]
  | notify (n : ℕ) (queue : List Message) (hqueue : s.queue = .onDismiss n :: queue) :
      Step s { s with queue := queue, caller := s.caller.notify } [.notified n]
  | release (n : ℕ) (id : ℤ) (box : Box) (hdialog : (n, box) ∈ s.dialogs)
      (hid : id ∈ box.buttons) :
      Step s { s with queue := s.queue ++ [.performClick n id] } []
  | key (n : ℕ) (id : ℤ) (box : Box) (hdialog : (n, box) ∈ s.dialogs) (hid : id ∈ box.buttons) :
      Step s (s.click n id).1 [.clicked n id]

variable {s s' s₀ : State} {a : Action} {tr es : List Event} {n : ℕ} {box : Box}

lemma dialog_of_find {d : ℕ × Box} (h : s.dialogs.find? (fun d => d.1 = n) = some d) :
    (n, d.2) ∈ s.dialogs := by
  obtain rfl : d.1 = n := by simpa using List.find?_some h
  exact List.mem_of_find?_eq_some h

lemma Step.of_step (hok : Undisturbed s a) (h : step s a = some (s', es)) :
    s.crashed = false ∧ Step s s' es := by
  rw [step.eq_def] at h
  split_ifs at h with hcrashed
  refine ⟨Bool.eq_false_iff.mpr hcrashed, ?_⟩
  cases a with
  | messageboxShowMessageBox box =>
    dsimp only at h
    split at h
    · next hcaller =>
      split_ifs at h with hrefused
      · cases h
        exact .refuse box hcaller hrefused
      · cases h
        exact .call box hcaller (Bool.eq_false_iff.mpr hrefused)
    · cases h
  | runOnUiThread =>
    dsimp only at h
    split at h
    · next n box hcaller =>
      cases h
      exact .post n box hcaller
    · cases h
  | wait =>
    dsimp only at h
    split at h
    · next n box hcaller =>
      cases h
      exact .wait n box hcaller
    · cases h
  | wakeEarly interrupted => exact absurd hok id
  | returnSelection =>
    dsimp only at h
    split at h
    · next n box hcaller =>
      cases h
      exact .answer n box hcaller
    · cases h
  | handle =>
    dsimp only at h
    split at h
    · cases h
    · next message queue hqueue =>
      cases message with
      | messageboxCreateAndShow n box =>
        simp only [State.handle] at h
        split_ifs at h with hbuildable
        · cases h
          exact .create n box queue hqueue hbuildable
        · cases h
          exact .crash n box queue hqueue (Bool.eq_false_iff.mpr hbuildable)
      | performClick n id =>
        cases h
        exact .click n id queue hqueue
      | onDismiss n =>
        cases h
        exact .notify n queue hqueue
  | release n i =>
    dsimp only at h
    split at h
    · cases h
    · next d hd =>
      split at h
      · cases h
      · next id hid =>
        cases h
        exact .release n id d.2 (dialog_of_find hd) (List.mem_of_getElem? hid)
  | onKeyUp n key =>
    dsimp only at h
    split at h
    · cases h
    · next d hd =>
      split at h
      · cases h
      · next id hid =>
        cases h
        exact .key n id d.2 (dialog_of_find hd) (Box.mem_buttons_of_mapping hid)

/-! ### Where a call is -/

def Event.clickedId (n : ℕ) : Event → Option ℤ
  | .clicked m id => if m = n then some id else none
  | _             => none

def Event.returnedId : Event → Option ℕ
  | .returned n _ => some n
  | _             => none

def Event.calledBox : Event → Option Box
  | .called box => some box
  | _           => none

/-- The boxes of the calls. -/
def boxes (tr : List Event) : List Box := tr.filterMap Event.calledBox

lemma boxes_append (h : (boxes tr)[n]? = some box) : (boxes (tr ++ es))[n]? = some box := by
  rw [boxes, List.filterMap_append]
  exact (List.getElem?_append_left (List.getElem?_eq_some_iff.mp h).1).trans h

lemma boxes_length_append : (boxes (tr ++ es)).length = (boxes tr).length + (boxes es).length := by
  rw [boxes, List.filterMap_append, List.length_append]
  rfl

/-- The clicks in a dialog. -/
def clicks (tr : List Event) (n : ℕ) : List ℤ := tr.filterMap (Event.clickedId n)

@[simp] lemma clicks_append (tr es : List Event) (n : ℕ) :
    clicks (tr ++ es) n = clicks tr n ++ clicks es n := List.filterMap_append

/-- The selection is the last click in the dialog. -/
structure Clicked (tr : List Event) (n : ℕ) (box : Box) (s : State) : Prop where
  last : (clicks tr n).getLast? = some s.messageboxSelection
  mem : s.messageboxSelection ∈ box.buttons

/-- How far the UI thread is with the dialog of a call. -/
inductive Phase (tr : List Event) (n : ℕ) (box : Box) (s : State) : Prop where
  | created (hcrashed : s.crashed = false) (hqueue : s.queue = [.messageboxCreateAndShow n box])
      (hdialogs : s.dialogs = []) (hclicks : clicks tr n = []) (hnotified : .notified n ∉ tr)
  | crashed (hcrashed : s.crashed = true) (hbuildable : box.buildable = false)
      (hdialogs : s.dialogs = []) (hnotified : .notified n ∉ tr)
  | shown (hcrashed : s.crashed = false) (ids : List ℤ) (hids : ∀ id ∈ ids, id ∈ box.buttons)
      (hbuildable : box.buildable = true) (hqueue : s.queue = ids.map (.performClick n))
      (hdialogs : s.dialogs = [(n, box)]) (hclicks : clicks tr n = [])
      (hnotified : .notified n ∉ tr)
  | closed (hcrashed : s.crashed = false) (ids : List ℤ) (hids : ∀ id ∈ ids, id ∈ box.buttons)
      (hbuildable : box.buildable = true)
      (hqueue : s.queue = ids.map (.performClick n) ++ [.onDismiss n])
      (hdialogs : s.dialogs = []) (hclicked : Clicked tr n box s) (hnotified : .notified n ∉ tr)
  | done (hqueue : s.queue = []) (hdialogs : s.dialogs = []) (hclicked : Clicked tr n box s)
      (hnotified : .notified n ∈ tr)

/-- How far the caller is, after `k` calls have returned. -/
inductive Current (tr : List Event) (s : State) : ℕ → Prop where
  | idle (hcaller : s.caller = .idle) (hqueue : s.queue = []) (hdialogs : s.dialogs = []) :
      Current tr s s.calls
  | calling (n : ℕ) (box : Box) (hcaller : s.caller = .calling n box) (hcalls : s.calls = n + 1)
      (hcalled : (boxes tr)[n]? = some box) (hqueue : s.queue = []) (hdialogs : s.dialogs = [])
      (hclicks : clicks tr n = []) (hnotified : .notified n ∉ tr) : Current tr s n
  | blocked (n : ℕ) (box : Box) (hcaller : s.caller = .posted n box ∨ s.caller = .waiting n box)
      (hcalls : s.calls = n + 1) (hcalled : (boxes tr)[n]? = some box) (hphase : Phase tr n box s) :
      Current tr s n
  | woken (n : ℕ) (box : Box) (hcaller : s.caller = .woken n box) (hcalls : s.calls = n + 1)
      (hcalled : (boxes tr)[n]? = some box) (hqueue : s.queue = []) (hdialogs : s.dialogs = [])
      (hclicked : Clicked tr n box s) : Current tr s n

/-- A call that is refused returns -1, any other the last button clicked. -/
def Answered (tr : List Event) (n : ℕ) (v : ℤ) : Prop :=
  ∃ box, (boxes tr)[n]? = some box ∧
    (box.refused = true ∧ v = -1 ∨ v ∈ box.buttons ∧ (clicks tr n).getLast? = some v)

structure Inv (tr : List Event) (s : State) : Prop where
  numbered : (boxes tr).length = s.calls
  current : ∃ k, Current tr s k ∧ tr.filterMap Event.returnedId = List.range k
  fresh : ∀ m, s.calls ≤ m → clicks tr m = [] ∧ .notified m ∉ tr
  answers : ∀ m v, .returned m v ∈ tr → Answered tr m v

lemma Inv.numbered_append (hs : Inv tr s) (h : (boxes es)[0]? = some box) :
    (boxes (tr ++ es))[s.calls]? = some box := by
  have hright : (boxes tr).length ≤ s.calls := Nat.le_of_eq hs.numbered
  rw [boxes, List.filterMap_append]
  refine (List.getElem?_append_right hright).trans ?_
  rwa [← hs.numbered, boxes, Nat.sub_self]

lemma Answered.mono {v : ℤ} (h : Answered tr n v) (hes : clicks es n = []) :
    Answered (tr ++ es) n v := by
  obtain ⟨box, hcalled, h⟩ := h
  refine ⟨box, boxes_append hcalled, ?_⟩
  rwa [clicks_append, hes, List.append_nil]

lemma lt_of_returned {k : ℕ} {v : ℤ} (hk : tr.filterMap Event.returnedId = List.range k)
    (h : .returned n v ∈ tr) : n < k := by
  have hmem : n ∈ tr.filterMap Event.returnedId := List.mem_filterMap.mpr ⟨_, h, rfl⟩
  rw [hk] at hmem
  exact List.mem_range.mp hmem

/-- The steps during a call. -/
lemma Inv.advance {k : ℕ} (hs : Inv tr s) (hk : tr.filterMap Event.returnedId = List.range k)
    (hcurrent : Current (tr ++ es) s' k) (hreturned : es.filterMap Event.returnedId = [])
    (hboxes : boxes es = []) (hcalls : s'.calls = s.calls) (hlt : k < s.calls)
    (hes : ∀ m, m ≠ k → clicks es m = [] ∧ .notified m ∉ es) : Inv (tr ++ es) s' where
  numbered := by rw [boxes_length_append, hs.numbered, hboxes, hcalls]; rfl
  current := by
    refine ⟨k, hcurrent, ?_⟩
    rw [List.filterMap_append, hreturned, List.append_nil, hk]
  fresh m hm := by
    have hne : m ≠ k := by omega
    obtain ⟨hclicks, hnotified⟩ := hs.fresh m (by omega)
    rw [clicks_append, hclicks, (hes m hne).1, List.mem_append, not_or]
    exact ⟨rfl, hnotified, (hes m hne).2⟩
  answers m v h := by
    rcases List.mem_append.mp h with h | h
    · have hm := lt_of_returned hk h
      exact (hs.answers m v h).mono (hes m (by omega)).1
    · have hmem : m ∈ es.filterMap Event.returnedId := List.mem_filterMap.mpr ⟨_, h, rfl⟩
      rw [hreturned] at hmem
      cases hmem

lemma Current.of_queue {k : ℕ} {message : Message} {queue : List Message} (h : Current tr s k)
    (hqueue : s.queue = message :: queue) :
    ∃ box, (s.caller = .posted k box ∨ s.caller = .waiting k box) ∧ s.calls = k + 1 ∧
      (boxes tr)[k]? = some box ∧ Phase tr k box s := by
  cases h with
  | blocked _ box hcaller hcalls hcalled hphase => exact ⟨box, hcaller, hcalls, hcalled, hphase⟩
  | idle _ hnil => cases hqueue.symm.trans hnil
  | calling _ _ _ _ _ hnil => cases hqueue.symm.trans hnil
  | woken _ _ _ _ _ hnil => cases hqueue.symm.trans hnil

lemma Current.of_waiting {k : ℕ} (h : Current tr s k) (hcaller : s.caller = .waiting n box) :
    Phase tr n box s := by
  cases h with
  | blocked _ _ hcaller' _ _ hphase =>
    rcases hcaller' with h | h
    · cases hcaller.symm.trans h
    · cases hcaller.symm.trans h
      exact hphase
  | idle hcaller' => cases hcaller.symm.trans hcaller'
  | calling _ _ hcaller' => cases hcaller.symm.trans hcaller'
  | woken _ _ hcaller' => cases hcaller.symm.trans hcaller'

lemma Current.calls_le {k : ℕ} (h : Current tr s k) : s.calls ≤ k + 1 := by
  cases h with
  | idle => exact Nat.le_succ _
  | calling _ _ _ hcalls => exact Nat.le_of_eq hcalls
  | blocked _ _ _ hcalls => exact Nat.le_of_eq hcalls
  | woken _ _ _ hcalls => exact Nat.le_of_eq hcalls

lemma Current.of_dialog {k : ℕ} {d : ℕ × Box} (h : Current tr s k) (hd : d ∈ s.dialogs) :
    ∃ box, (s.caller = .posted k box ∨ s.caller = .waiting k box) ∧ s.calls = k + 1 ∧
      (boxes tr)[k]? = some box ∧ Phase tr k box s := by
  cases h with
  | blocked _ box hcaller hcalls hcalled hphase => exact ⟨box, hcaller, hcalls, hcalled, hphase⟩
  | idle _ _ hnil => simp [hnil] at hd
  | calling _ _ _ _ _ _ hnil => simp [hnil] at hd
  | woken _ _ _ _ _ _ hnil => simp [hnil] at hd

lemma Phase.of_dialog {d : ℕ × Box} (h : Phase tr n box s) (hd : d ∈ s.dialogs) :
    ∃ ids : List ℤ, (∀ id ∈ ids, id ∈ box.buttons) ∧ box.buildable = true ∧
      s.queue = ids.map (.performClick n) ∧ s.dialogs = [(n, box)] ∧
      clicks tr n = [] ∧ .notified n ∉ tr ∧ d = (n, box) := by
  cases h with
  | shown _ ids hids hbuildable hqueue hdialogs hclicks hnotified =>
    rw [hdialogs] at hd
    exact ⟨ids, hids, hbuildable, hqueue, hdialogs, hclicks, hnotified, List.mem_singleton.mp hd⟩
  | created _ _ hnil => simp [hnil] at hd
  | crashed _ _ hnil => simp [hnil] at hd
  | closed _ _ _ _ _ hnil => simp [hnil] at hd
  | done _ hnil => simp [hnil] at hd

lemma Phase.of_create {m : ℕ} {box' : Box} {queue : List Message} (h : Phase tr n box s)
    (hcrashed : s.crashed = false) (hqueue : s.queue = .messageboxCreateAndShow m box' :: queue) :
    (m, box', queue) = (n, box, []) ∧ s.dialogs = [] ∧ clicks tr n = [] ∧ .notified n ∉ tr := by
  cases h with
  | created _ hqueue' hdialogs hclicks hnotified =>
    cases hqueue.symm.trans hqueue'
    exact ⟨rfl, hdialogs, hclicks, hnotified⟩
  | crashed htrue => cases hcrashed.symm.trans htrue
  | shown _ ids _ _ hqueue' => cases ids <;> cases hqueue.symm.trans hqueue'
  | closed _ ids _ _ hqueue' => cases ids <;> cases hqueue.symm.trans hqueue'
  | done hqueue' => cases hqueue.symm.trans hqueue'

lemma Phase.of_dismiss {m : ℕ} {queue : List Message} (h : Phase tr n box s)
    (hcrashed : s.crashed = false) (hqueue : s.queue = .onDismiss m :: queue) :
    (m, queue) = (n, []) ∧ s.dialogs = [] ∧ Clicked tr n box s := by
  cases h with
  | closed _ ids _ _ hqueue' hdialogs hclicked =>
    cases ids with
    | nil =>
      cases hqueue.symm.trans hqueue'
      exact ⟨rfl, hdialogs, hclicked⟩
    | cons id ids => cases hqueue.symm.trans hqueue'
  | created _ hqueue' => cases hqueue.symm.trans hqueue'
  | crashed htrue => cases hcrashed.symm.trans htrue
  | shown _ ids _ _ hqueue' => cases ids <;> cases hqueue.symm.trans hqueue'
  | done hqueue' => cases hqueue.symm.trans hqueue'

lemma Phase.caller (h : Phase tr n box s) (c : Caller) :
    Phase tr n box { s with caller := c } := by
  cases h with
  | created h₁ h₂ h₃ h₄ h₅ => exact .created h₁ h₂ h₃ h₄ h₅
  | crashed h₁ h₂ h₃ h₄ => exact .crashed h₁ h₂ h₃ h₄
  | shown h₀ ids hids h₁ h₂ h₃ h₄ h₅ => exact .shown h₀ ids hids h₁ h₂ h₃ h₄ h₅
  | closed h₀ ids hids h₁ h₂ h₃ h₄ h₅ => exact .closed h₀ ids hids h₁ h₂ h₃ ⟨h₄.1, h₄.2⟩ h₅
  | done h₁ h₂ h₃ h₄ => exact .done h₁ h₂ ⟨h₃.1, h₃.2⟩ h₄

lemma Current.of_idle {k : ℕ} (h : Current tr s k) (hcaller : s.caller = .idle) :
    k = s.calls ∧ s.queue = [] ∧ s.dialogs = [] := by
  cases h with
  | idle _ hqueue hdialogs => exact ⟨rfl, hqueue, hdialogs⟩
  | calling _ _ hcaller' => cases hcaller.symm.trans hcaller'
  | blocked _ _ hcaller' => rcases hcaller' with h | h <;> cases hcaller.symm.trans h
  | woken _ _ hcaller' => cases hcaller.symm.trans hcaller'

/-- The steps with which a call begins or ends. -/
lemma Inv.between {k k' : ℕ} (hs : Inv tr s)
    (hk : tr.filterMap Event.returnedId = List.range k) (hcurrent : Current (tr ++ es) s' k')
    (hreturned : List.range k ++ es.filterMap Event.returnedId = List.range k')
    (hcalls : s'.calls = s.calls + (boxes es).length)
    (hes : ∀ m, clicks es m = [] ∧ .notified m ∉ es)
    (hanswers : ∀ m v, .returned m v ∈ es → Answered (tr ++ es) m v) : Inv (tr ++ es) s' where
  numbered := by rw [boxes_length_append, hs.numbered, hcalls]
  current := by
    refine ⟨k', hcurrent, ?_⟩
    rw [List.filterMap_append, hk, hreturned]
  fresh m hm := by
    obtain ⟨hclicks, hnotified⟩ := hs.fresh m (by omega)
    rw [clicks_append, hclicks, (hes m).1, List.mem_append, not_or]
    exact ⟨rfl, hnotified, (hes m).2⟩
  answers m v h := by
    rcases List.mem_append.mp h with h | h
    · exact (hs.answers m v h).mono (hes m).1
    · exact hanswers m v h

lemma clicks_click (n : ℕ) (id : ℤ) : clicks [.clicked n id] n = [id] := by
  simp [clicks, Event.clickedId]

lemma Clicked.click {id : ℤ} (hid : id ∈ box.buttons) :
    Clicked (tr ++ [.clicked n id]) n box (s.click n id).1 where
  last := by rw [clicks_append, clicks_click, List.getLast?_concat]; rfl
  mem := hid

/-- The first click in a dialog dismisses it. -/
lemma Phase.click_shown {id : ℤ} {ids : List ℤ} (hcrashed : s.crashed = false)
    (hids : ∀ id ∈ ids, id ∈ box.buttons)
    (hbuildable : box.buildable = true) (hqueue : s.queue = ids.map (.performClick n))
    (hdialogs : s.dialogs = [(n, box)]) (hnotified : .notified n ∉ tr) (hid : id ∈ box.buttons) :
    Phase (tr ++ [.clicked n id]) n box (s.click n id).1 := by
  refine .closed hcrashed ids hids hbuildable ?_ ?_ (.click hid) (by simpa using hnotified)
  · simp [State.click, hdialogs, hqueue]
  · simp [State.click, hdialogs]

lemma Phase.click_closed {id : ℤ} {ids : List ℤ} (hcrashed : s.crashed = false)
    (hids : ∀ id ∈ ids, id ∈ box.buttons)
    (hbuildable : box.buildable = true)
    (hqueue : s.queue = ids.map (.performClick n) ++ [.onDismiss n]) (hdialogs : s.dialogs = [])
    (hnotified : .notified n ∉ tr) (hid : id ∈ box.buttons) :
    Phase (tr ++ [.clicked n id]) n box (s.click n id).1 := by
  refine .closed hcrashed ids hids hbuildable ?_ ?_ (.click hid) (by simpa using hnotified)
  · simp [State.click, hdialogs, hqueue]
  · simp [State.click, hdialogs]

lemma clicks_eq_nil_of_ne {m : ℕ} {id : ℤ} (h : m ≠ n) :
    clicks [.clicked n id] m = [] ∧ .notified m ∉ [Event.clicked n id] := by
  simp [clicks, Event.clickedId, Ne.symm h]

theorem Step.inv (h : Step s s' es) (hcrashed : s.crashed = false) (hs : Inv tr s) :
    Inv (tr ++ es) s' := by
  obtain ⟨k, hcurrent, hk⟩ := hs.current
  cases h with
  | refuse box hcaller hrefused =>
    obtain ⟨rfl, hqueue, hdialogs⟩ := hcurrent.of_idle hcaller
    refine hs.between hk (.idle hcaller hqueue hdialogs) ?_ rfl ?_ ?_
    · rw [List.range_succ]
      rfl
    · exact fun m => ⟨rfl, by simp⟩
    · rintro m v h
      obtain ⟨rfl, rfl⟩ : m = s.calls ∧ v = -1 := by simpa using h
      exact ⟨box, hs.numbered_append rfl, Or.inl ⟨hrefused, rfl⟩⟩
  | call box hcaller hrefused =>
    obtain ⟨rfl, hqueue, hdialogs⟩ := hcurrent.of_idle hcaller
    obtain ⟨hclicks, hnotified⟩ := hs.fresh s.calls (Nat.le_refl _)
    have hcalled : (boxes (tr ++ [.called box]))[s.calls]? = some box := hs.numbered_append rfl
    refine hs.between hk (.calling s.calls box rfl rfl hcalled hqueue hdialogs ?_ (by simpa))
      (List.append_nil _) rfl (fun m => ⟨rfl, by simp⟩) (fun m v h => by simp at h)
    rw [clicks_append, hclicks]
    rfl
  | post n box hcaller =>
    cases hcurrent with
    | calling _ _ hcaller' hcalls hcalled hqueue hdialogs hclicks hnotified =>
      cases hcaller.symm.trans hcaller'
      refine hs.advance hk (.blocked k box (Or.inl rfl) hcalls (boxes_append hcalled)
        (.created hcrashed ?_ hdialogs ?_ (by simpa using hnotified))) rfl rfl rfl (by omega)
        fun m _ => ⟨rfl, by simp⟩
      · rw [hqueue]
        rfl
      · rwa [List.append_nil]
    | idle hcaller' => cases hcaller.symm.trans hcaller'
    | blocked _ _ hcaller' => rcases hcaller' with h | h <;> cases hcaller.symm.trans h
    | woken _ _ hcaller' => cases hcaller.symm.trans hcaller'
  | wait n box hcaller =>
    cases hcurrent with
    | blocked _ _ hcaller' hcalls hcalled hphase =>
      rcases hcaller' with hcaller' | hcaller'
      · cases hcaller.symm.trans hcaller'
        refine hs.advance hk (.blocked k box (Or.inr rfl) hcalls (boxes_append hcalled) ?_)
          rfl rfl rfl (by omega) fun m _ => ⟨rfl, by simp⟩
        rw [List.append_nil]
        exact hphase.caller _
      · cases hcaller.symm.trans hcaller'
    | idle hcaller' => cases hcaller.symm.trans hcaller'
    | calling _ _ hcaller' => cases hcaller.symm.trans hcaller'
    | woken _ _ hcaller' => cases hcaller.symm.trans hcaller'
  | answer n box hcaller =>
    cases hcurrent with
    | woken _ _ hcaller' hcalls hcalled hqueue hdialogs hclicked =>
      cases hcaller.symm.trans hcaller'
      refine hs.between hk (.idle rfl hqueue hdialogs) ?_ rfl (fun m => ⟨rfl, by simp⟩)
        ?_
      · simp only [hcalls]
        rw [List.range_succ]
        rfl
      · intro m v h
        obtain ⟨rfl, rfl⟩ : m = k ∧ v = s.messageboxSelection := by simpa using h
        refine ⟨box, boxes_append hcalled, Or.inr ⟨hclicked.mem, ?_⟩⟩
        rw [clicks_append, ← hclicked.last]
        exact congrArg List.getLast? (List.append_nil _)
    | idle hcaller' => cases hcaller.symm.trans hcaller'
    | calling _ _ hcaller' => cases hcaller.symm.trans hcaller'
    | blocked _ _ hcaller' => rcases hcaller' with h | h <;> cases hcaller.symm.trans h
  | create n box queue hqueue hbuildable =>
    obtain ⟨box', hcaller, hcalls, hcalled, hphase⟩ := hcurrent.of_queue hqueue
    obtain ⟨hcreate, hdialogs, hclicks, hnotified⟩ := hphase.of_create hcrashed hqueue
    cases hcreate
    refine hs.advance hk (.blocked k box hcaller hcalls (boxes_append hcalled)
      (.shown hcrashed [] (by simp) hbuildable rfl (by simp [hdialogs]) ?_
        (by simpa using hnotified)))
      rfl rfl rfl (by omega) fun m _ => ⟨rfl, by simp⟩
    rw [clicks_append, hclicks]
    rfl
  | crash n box queue hqueue hbuildable =>
    obtain ⟨box', hcaller, hcalls, hcalled, hphase⟩ := hcurrent.of_queue hqueue
    obtain ⟨hcreate, hdialogs, hclicks, hnotified⟩ := hphase.of_create hcrashed hqueue
    cases hcreate
    exact hs.advance hk (.blocked k box hcaller hcalls (boxes_append hcalled)
      (.crashed rfl hbuildable hdialogs (by simpa using hnotified))) rfl rfl rfl (by omega)
      fun m _ => ⟨rfl, by simp⟩
  | click n id queue hqueue =>
    obtain ⟨box', hcaller, hcalls, hcalled, hphase⟩ := hcurrent.of_queue hqueue
    have hphase' : n = k ∧
        Phase (tr ++ [.clicked n id]) k box' ({ s with queue := queue }.click n id).1 := by
      cases hphase with
      | shown _ ids hids hbuildable hqueue' hdialogs hclicks hnotified =>
        cases ids with
        | nil => cases hqueue.symm.trans hqueue'
        | cons id' ids =>
          cases hqueue.symm.trans hqueue'
          rw [List.forall_mem_cons] at hids
          exact ⟨rfl, .click_shown hcrashed hids.2 hbuildable rfl hdialogs hnotified hids.1⟩
      | closed _ ids hids hbuildable hqueue' hdialogs hclicked hnotified =>
        cases ids with
        | nil => cases hqueue.symm.trans hqueue'
        | cons id' ids =>
          cases hqueue.symm.trans hqueue'
          rw [List.forall_mem_cons] at hids
          exact ⟨rfl, .click_closed hcrashed hids.2 hbuildable rfl hdialogs hnotified hids.1⟩
      | created _ hqueue' => cases hqueue.symm.trans hqueue'
      | crashed htrue => cases hcrashed.symm.trans htrue
      | done hqueue' => cases hqueue.symm.trans hqueue'
    obtain ⟨rfl, hphase'⟩ := hphase'
    exact hs.advance hk (.blocked n box' hcaller hcalls (boxes_append hcalled) hphase')
      rfl rfl rfl (by omega) fun m hm => clicks_eq_nil_of_ne hm
  | notify n queue hqueue =>
    obtain ⟨box, hcaller, hcalls, hcalled, hphase⟩ := hcurrent.of_queue hqueue
    obtain ⟨hdismiss, hdialogs, hclicked⟩ := hphase.of_dismiss hcrashed hqueue
    cases hdismiss
    have hcalled' : (boxes (tr ++ [.notified k]))[k]? = some box := boxes_append hcalled
    have hclicked' : ∀ c, Clicked (tr ++ [.notified k]) k box
        { s with queue := [], caller := c } := by
      intro c
      refine ⟨?_, hclicked.mem⟩
      rw [clicks_append, ← hclicked.last]
      exact congrArg List.getLast? (List.append_nil _)
    have hes : ∀ m, m ≠ k → clicks [.notified k] m = [] ∧ .notified m ∉ [Event.notified k] :=
      fun m hm => ⟨rfl, by simp [hm]⟩
    rcases hcaller with hcaller | hcaller
    · refine hs.advance hk (.blocked k box (Or.inl ?_) hcalls hcalled'
        (.done rfl hdialogs (hclicked' _) (by simp))) rfl rfl rfl (by omega) hes
      simp [hcaller, Caller.notify]
    · refine hs.advance hk (.woken k box ?_ hcalls hcalled' rfl hdialogs (hclicked' _)) rfl rfl
        rfl (by omega) hes
      simp [hcaller, Caller.notify]
  | release n id box hdialog hid =>
    obtain ⟨box', hcaller, hcalls, hcalled, hphase⟩ := hcurrent.of_dialog hdialog
    obtain ⟨ids, hids, hbuildable, hqueue, hdialogs, hclicks, hnotified, hd⟩ :=
      hphase.of_dialog hdialog
    cases hd
    refine hs.advance hk (.blocked k box hcaller hcalls (boxes_append hcalled)
      (.shown hcrashed (ids ++ [id]) ?_ hbuildable ?_ hdialogs ?_ (by simpa using hnotified)))
      rfl rfl rfl
      (by omega) fun m _ => ⟨rfl, by simp⟩
    · simpa [or_imp, forall_and] using ⟨hids, hid⟩
    · simp [hqueue]
    · rwa [List.append_nil]
  | key n id box hdialog hid =>
    obtain ⟨box', hcaller, hcalls, hcalled, hphase⟩ := hcurrent.of_dialog hdialog
    obtain ⟨ids, hids, hbuildable, hqueue, hdialogs, hclicks, hnotified, hd⟩ :=
      hphase.of_dialog hdialog
    cases hd
    exact hs.advance hk (.blocked k box hcaller hcalls (boxes_append hcalled)
      (.click_shown hcrashed hids hbuildable hqueue hdialogs hnotified hid)) rfl rfl rfl (by omega)
      fun m hm => clicks_eq_nil_of_ne hm

theorem inv_of_run (h : machine.Run Undisturbed initial tr s) : Inv tr s := by
  refine h.invariant Inv ⟨rfl, ⟨0, .idle rfl rfl rfl, rfl⟩, ?_, ?_⟩ ?_
  · exact fun m _ => ⟨rfl, by simp⟩
  · simp
  · intro tr s a s' es _ hs hok hstep
    obtain ⟨hcrashed, hstep⟩ := Step.of_step hok hstep
    exact hstep.inv hcrashed hs

/-- The calls return in turn, each once. One that is refused returns -1, any other the button of its
own dialog that was clicked last. A dialog on the screen is that of the call in progress. -/
theorem message_boxes_are_answered (h : machine.Run Undisturbed initial tr s) :
    (∀ n v, .returned n v ∈ tr → Answered tr n v) ∧
      ∃ k, s.calls ≤ k + 1 ∧ tr.filterMap Event.returnedId = List.range k ∧
        ∀ d ∈ s.dialogs, s.dialogs = [d] ∧ d.1 = k ∧ (boxes tr)[k]? = some d.2 := by
  have hs := inv_of_run h
  obtain ⟨k, hcurrent, hk⟩ := hs.current
  refine ⟨hs.answers, k, hcurrent.calls_le, hk, ?_⟩
  intro d hd
  obtain ⟨box, -, -, hcalled, hphase⟩ := hcurrent.of_dialog hd
  obtain ⟨ids, -, -, -, hdialogs, -, -, rfl⟩ := hphase.of_dialog hd
  exact ⟨hdialogs, rfl, hcalled⟩

/-- A finger is lifted first, but the key clicks before it. -/
theorem message_boxes_are_answered_click : ∃ tr s, machine.Run Undisturbed initial tr s ∧
    clicks tr 0 = [7, 3] ∧ Answered tr 0 3 ∧ Answered tr 1 7 := by
  obtain ⟨tr, s, hrun, hclicks, hfirst, hsecond⟩ := Machine.Run.exists_of_exec machine Undisturbed
    initial [.messageboxShowMessageBox ⟨[0, 2], [3, 7], ["Yes", "No"]⟩, .runOnUiThread, .handle,
      .wait, .release 0 0, .onKeyUp 0 .KEYCODE_ESCAPE, .handle, .handle, .returnSelection,
      .messageboxShowMessageBox ⟨[0, 2], [3, 7], ["Yes", "No"]⟩, .runOnUiThread, .wait, .handle,
      .onKeyUp 1 .KEYCODE_ESCAPE, .handle, .returnSelection]
    (fun _ tr => clicks tr 0 = [7, 3] ∧ .returned 0 3 ∈ tr ∧ .returned 1 7 ∈ tr) (by decide)
  exact ⟨tr, s, hrun, hclicks, (message_boxes_are_answered hrun).1 0 3 hfirst,
    (message_boxes_are_answered hrun).1 1 7 hsecond⟩

/-! ### Calls that never return -/

def Returns (n : ℕ) (s : State) : Prop :=
  ∃ tr s' v, machine.Run Undisturbed s tr s' ∧ .returned n v ∈ tr

lemma Returns.step (hok : Undisturbed s a) (hstep : step s a = some (s', es)) (h : Returns n s') :
    Returns n s := by
  obtain ⟨tr, s'', v, hrun, hreturned⟩ := h
  exact ⟨es ++ tr, s'', v, (Machine.Run.single hok hstep).trans hrun,
    List.mem_append_right _ hreturned⟩

lemma returns_of_woken (hcrashed : s.crashed = false) (hcaller : s.caller = .woken n box) :
    Returns n s := by
  have hstep : machine.step s .returnSelection =
      some ({ s with caller := .idle }, [.returned n s.messageboxSelection]) := by
    simp [machine, step, hcrashed, hcaller]
  have hok : Undisturbed s .returnSelection := trivial
  exact ⟨_, _, _, .single hok hstep, List.mem_singleton.mpr rfl⟩

/-- The messages that are left are handled, and the last of them wakes the caller. -/
lemma returns_of_closed {ids : List ℤ} (hcrashed : s.crashed = false)
    (hcaller : s.caller = .waiting n box)
    (hqueue : s.queue = ids.map (.performClick n) ++ [.onDismiss n]) (hdialogs : s.dialogs = []) :
    Returns n s := by
  induction ids generalizing s with
  | nil =>
    have hstep : step s .handle =
        some ({ s with queue := [], caller := s.caller.notify }, [.notified n]) := by
      simp [step, hcrashed, hqueue, State.handle]
    have hwoken : s.caller.notify = .woken n box := by simp [hcaller, Caller.notify]
    exact .step (a := .handle) trivial hstep (returns_of_woken hcrashed hwoken)
  | cons id ids ih =>
    have hstep : step s .handle = some
        ({ s with
          messageboxSelection := id
          queue := ids.map (.performClick n) ++ [.onDismiss n] }, [.clicked n id]) := by
      simp [step, hcrashed, hqueue, State.handle, State.click, hdialogs]
    exact .step (a := .handle) trivial hstep (ih hcrashed hcaller rfl hdialogs)

lemma returns_of_click {id : ℤ} {ids : List ℤ} (hcrashed : s.crashed = false)
    (hcaller : s.caller = .waiting n box) (hqueue : s.queue = (id :: ids).map (.performClick n))
    (hdialogs : s.dialogs = [(n, box)]) : Returns n s := by
  have hstep : step s .handle = some
      ({ s with
        messageboxSelection := id
        dialogs := []
        queue := ids.map (.performClick n) ++ [.onDismiss n] }, [.clicked n id]) := by
    simp [step, hcrashed, hqueue, State.handle, State.click, hdialogs]
  exact .step (a := .handle) trivial hstep (returns_of_closed hcrashed hcaller rfl rfl)

lemma returns_of_shown {ids : List ℤ} (hcrashed : s.crashed = false)
    (hcaller : s.caller = .waiting n box) (hqueue : s.queue = ids.map (.performClick n))
    (hdialogs : s.dialogs = [(n, box)]) (hbuttons : box.buttons ≠ []) : Returns n s := by
  cases ids with
  | cons id ids => exact returns_of_click hcrashed hcaller hqueue hdialogs
  | nil =>
    obtain ⟨id, buttons, hcons⟩ := List.exists_cons_of_ne_nil hbuttons
    have hstep : step s (.release n 0) = some ({ s with queue := [.performClick n id] }, []) := by
      simp [step, hcrashed, hqueue, hdialogs, hcons]
    have hqueue' : [Message.performClick n id] = [id].map (.performClick n) := rfl
    exact .step (a := .release n 0) trivial hstep
      (returns_of_click hcrashed hcaller hqueue' hdialogs)

lemma returns_of_created (hcrashed : s.crashed = false) (hcaller : s.caller = .waiting n box)
    (hqueue : s.queue = [.messageboxCreateAndShow n box]) (hdialogs : s.dialogs = [])
    (hbuildable : box.buildable = true) (hbuttons : box.buttons ≠ []) : Returns n s := by
  have hstep : step s .handle =
      some ({ s with queue := [], dialogs := [(n, box)] }, [.shown n]) := by
    simp [step, hcrashed, hqueue, State.handle, hbuildable, hdialogs]
  have hqueue' : ([] : List Message) = ([] : List ℤ).map (.performClick n) := rfl
  exact .step (a := .handle) trivial hstep
    (returns_of_shown hcrashed hcaller hqueue' rfl hbuttons)

/-- Nothing will ever wake the caller. -/
inductive Stuck (n : ℕ) (box : Box) (s : State) : Prop where
  | crashed (hcrashed : s.crashed = true)
  | created (hcaller : s.caller = .waiting n box)
      (hqueue : s.queue = [.messageboxCreateAndShow n box]) (hdialogs : s.dialogs = [])
      (hbox : box.buildable = false ∨ box.buttons = [])
  | shown (hcaller : s.caller = .waiting n box) (hqueue : s.queue = [])
      (hdialogs : ∀ d ∈ s.dialogs, d.2.buttons = [])

lemma Step.stuck (h : Step s s' es) (hcrashed : s.crashed = false) (hs : Stuck n box s) :
    Stuck n box s' ∧ ∀ v, .returned n v ∉ es := by
  cases hs with
  | crashed htrue => cases hcrashed.symm.trans htrue
  | created hcaller hqueue hdialogs hbox =>
    cases h with
    | create n' box' queue hqueue' hbuildable =>
      cases hqueue.symm.trans hqueue'
      have hbuttons : box.buttons = [] := hbox.resolve_left (by simp [hbuildable])
      refine ⟨.shown hcaller rfl ?_, by simp⟩
      simpa [hdialogs] using hbuttons
    | crash n' box' queue hqueue' hbuildable => exact ⟨.crashed rfl, by simp⟩
    | refuse box' hcaller' => cases hcaller.symm.trans hcaller'
    | call box' hcaller' => cases hcaller.symm.trans hcaller'
    | post n' box' hcaller' => cases hcaller.symm.trans hcaller'
    | wait n' box' hcaller' => cases hcaller.symm.trans hcaller'
    | answer n' box' hcaller' => cases hcaller.symm.trans hcaller'
    | click n' id queue hqueue' => cases hqueue.symm.trans hqueue'
    | notify n' queue hqueue' => cases hqueue.symm.trans hqueue'
    | release n' id box' hdialog => simp [hdialogs] at hdialog
    | key n' id box' hdialog => simp [hdialogs] at hdialog
  | shown hcaller hqueue hdialogs =>
    cases h with
    | release n' id box' hdialog hid =>
      have hnil := hdialogs _ hdialog
      simp [hnil] at hid
    | key n' id box' hdialog hid =>
      have hnil := hdialogs _ hdialog
      simp [hnil] at hid
    | refuse box' hcaller' => cases hcaller.symm.trans hcaller'
    | call box' hcaller' => cases hcaller.symm.trans hcaller'
    | post n' box' hcaller' => cases hcaller.symm.trans hcaller'
    | wait n' box' hcaller' => cases hcaller.symm.trans hcaller'
    | answer n' box' hcaller' => cases hcaller.symm.trans hcaller'
    | create n' box' queue hqueue' => cases hqueue.symm.trans hqueue'
    | crash n' box' queue hqueue' => cases hqueue.symm.trans hqueue'
    | click n' id queue hqueue' => cases hqueue.symm.trans hqueue'
    | notify n' queue hqueue' => cases hqueue.symm.trans hqueue'

lemma Stuck.not_returns (hs : Stuck n box s) : ¬Returns n s := by
  rintro ⟨tr, s', v, hrun, hreturned⟩
  have hstuck := hrun.invariant (fun tr s => Stuck n box s ∧ ∀ v, .returned n v ∉ tr)
    ⟨hs, by simp⟩ fun {tr s a s' es} _ ih hok hstep => by
      obtain ⟨hcrashed, hstep⟩ := Step.of_step hok hstep
      obtain ⟨hstuck, hes⟩ := hstep.stuck hcrashed ih.1
      refine ⟨hstuck, fun v hmem => ?_⟩
      exact (List.mem_append.mp hmem).elim (ih.2 v) (hes v)
  exact hstuck.2 v hreturned

end AndroidMkxp.MessageBox
