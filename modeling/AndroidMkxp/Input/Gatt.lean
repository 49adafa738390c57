import AndroidMkxp.Foundation.Machine
import Mathlib.Data.List.Perm.Basic

/-!
# The operations of a Bluetooth controller

`HIDDeviceBLESteamController` queues its reads and writes, because the Bluetooth stack takes one
request at a time. Any thread queues an operation; the main thread runs the current one; the
callback with which the stack answers finishes it and goes on to the next. An operation that failed
goes back to the front of the queue.

The threads interleave between their synchronized blocks. A callback that has been made has still
to take the current operation out, then to look at its result, then to go for the next one; a thread
that has made an operation the current one has still to post a runnable for it.

An operation goes back with `addFirst`, outside the synchronized blocks. If another thread uses the
queue meanwhile, nothing is known of what the queue holds afterwards.

The answer to the write of the input descriptor makes a request of its own, outside the queue. A run
ends before the controller is shut down.
-/

namespace AndroidMkxp.Input.Gatt

open Foundation

inductive Operation where
  | CHR_READ
  | CHR_WRITE
  | ENABLE_NOTIFICATION
  deriving DecidableEq, Repr

inductive Uuid where
  | inputCharacteristic
  | reportCharacteristic
  deriving DecidableEq, Repr

/-- Operations are told apart by their number. -/
structure GattOperation where
  id : ℕ
  mOp : Operation
  mUuid : Uuid
  mResult : Bool := true
  deriving DecidableEq, Repr

/-- What the stack is busy with. -/
inductive Request where
  | operation (op : GattOperation)
  /-- The write that `onDescriptorWrite` makes. -/
  | enterValveMode
  deriving DecidableEq, Repr

/-- How `GattOperation.run` ends. -/
inductive RunEnd where
  | requested
  | refused
  /-- There is no characteristic or no descriptor to enable notifications of. -/
  | nothing
  deriving DecidableEq, Repr

structure State where
  mOperations : List GattOperation
  mCurrentOperation : Option GattOperation
  /-- The current operation has been run since it became the current one. No step depends on it. -/
  ran : Bool
  /-- The runnables posted to the main thread. -/
  posted : ℕ
  /-- The threads that are about to post a runnable. -/
  posting : ℕ
  /-- The threads that are about to enter `executeNextGattOperation`. -/
  executing : ℕ
  /-- The callbacks that are about to enter `finishCurrentGattOperation`. -/
  answering : ℕ
  /-- The operations that callbacks have taken out and not looked at. -/
  finishing : List GattOperation
  /-- The operations that are being added at the front of the queue. -/
  adding : List GattOperation
  /-- A thread has used the queue while another was in `addFirst`. -/
  raced : Bool
  busy : Option Request
  /-- The number of operations queued so far. -/
  queued : ℕ
  deriving DecidableEq

inductive Action where
  | queueGattOperation (op : Operation) (uuid : Uuid)
  | executeNextGattOperation
  /-- A thread that has left the synchronized block of `executeNextGattOperation` posts. -/
  | post
  /-- The main thread runs a runnable. -/
  | run (runEnd : RunEnd)
  /-- The stack answers its request. `writes`: if the callback makes a request, it is accepted. -/
  | answer (writes : Bool)
  /-- The synchronized block of `finishCurrentGattOperation`. -/
  | takeCurrent
  /-- The callback looks at the result. -/
  | finish (id : ℕ)
  /-- `addFirst` returns. If threads have used the queue at once, it holds `left`. -/
  | addFirst (id : ℕ) (left : List GattOperation)
  deriving DecidableEq

inductive Event where
  | queued (id : ℕ)
  | posted
  | requested (id : ℕ)
  | refused (id : ℕ)
  | nothing (id : ℕ)
  /-- "Current operation null in executor?" -/
  | noCurrent
  | wroteValveMode
  | taken (id : ℕ)
  | finished (id : ℕ)
  | putBack (id : ℕ)
  deriving DecidableEq, Repr

def initial : State where
  mOperations := []
  mCurrentOperation := none
  ran := false
  posted := 0
  posting := 0
  executing := 0
  answering := 0
  finishing := []
  adding := []
  raced := false
  busy := none
  queued := 0

/-- The request is the write of the descriptor of the input characteristic. -/
def Request.isInputDescriptor : Request → Bool
  | .operation op   => op.mOp = .ENABLE_NOTIFICATION ∧ op.mUuid = .inputCharacteristic
  | .enterValveMode => false

/-- A thread uses the queue. -/
def State.races (s : State) : Bool := s.raced || !s.adding.isEmpty

/-- `GattOperation.run`, on the current operation. -/
def State.runCurrent (s : State) (op : GattOperation) : RunEnd → Option (State × List Event)
  | .requested =>
    if s.busy = none then
      let op := { op with mResult := true }
      some ({ s with mCurrentOperation := some op, ran := true, busy := some (.operation op) },
        [.requested op.id])
    else none
  | .refused =>
    some ({ s with mCurrentOperation := some { op with mResult := false }, ran := true },
      [.refused op.id])
  | .nothing =>
    if op.mOp = .ENABLE_NOTIFICATION then some ({ s with ran := true }, [.nothing op.id]) else none

def step (s : State) : Action → Option (State × List Event)
  | .queueGattOperation op uuid =>
    some ({ s with
        mOperations := s.mOperations ++ [⟨s.queued, op, uuid, true⟩]
        executing := s.executing + 1
        raced := s.races
        queued := s.queued + 1 },
      [.queued s.queued])
  | .executeNextGattOperation =>
    if s.executing = 0 then none
    else
      let s := { s with executing := s.executing - 1 }
      match s.mCurrentOperation, s.mOperations with
      | some _, _      => some (s, [])
      | none, []       => some ({ s with raced := s.races }, [])
      | none, op :: ops =>
        some ({ s with
            mOperations := ops
            mCurrentOperation := some op
            ran := false
            raced := s.races
            posting := s.posting + 1 },
          [])
  | .post =>
    if s.posting = 0 then none
    else some ({ s with posting := s.posting - 1, posted := s.posted + 1 }, [.posted])
  | .run runEnd =>
    if s.posted = 0 then none
    else
      let s := { s with posted := s.posted - 1 }
      match s.mCurrentOperation with
      | none    => some (s, [.noCurrent])
      | some op => s.runCurrent op runEnd
  | .answer writes =>
    match s.busy with
    | none         => none
    | some request =>
      let s := { s with busy := none, answering := s.answering + 1 }
      if request.isInputDescriptor && writes then
        some ({ s with busy := some .enterValveMode }, [.wroteValveMode])
      else some (s, [])
  | .takeCurrent =>
    if s.answering = 0 then none
    else
      let s := { s with answering := s.answering - 1 }
      match s.mCurrentOperation with
      | none    => some ({ s with executing := s.executing + 1 }, [])
      | some op =>
        some ({ s with mCurrentOperation := none, finishing := op :: s.finishing }, [.taken op.id])
  | .finish id =>
    match s.finishing.find? fun op => op.id = id with
    | none    => none
    | some op =>
      let s := { s with finishing := s.finishing.erase op }
      if op.mResult then some ({ s with executing := s.executing + 1 }, [.finished op.id])
      else some ({ s with adding := op :: s.adding, raced := s.races }, [])
  | .addFirst id left =>
    match s.adding.find? fun op => op.id = id with
    | none    => none
    | some op =>
      some ({ s with
          mOperations := if s.raced then left else op :: s.mOperations
          adding := s.adding.erase op
          executing := s.executing + 1 },
        [.putBack op.id])

def machine : Machine State Action Event := ⟨step⟩

/-! ### What a step does -/

inductive Step (s : State) : State → List Event → Prop where
  | queue (op : Operation) (uuid : Uuid) :
      Step s
        { s with
          mOperations := s.mOperations ++ [⟨s.queued, op, uuid, true⟩]
          executing := s.executing + 1
          raced := s.races
          queued := s.queued + 1 }
        [.queued s.queued]
  | executeNothing (raced : Bool) (hexecuting : 0 < s.executing) (hraced : s.raced = true → raced)
      (hidle : s.mCurrentOperation ≠ none ∨ s.mOperations = []) :
      Step s { s with executing := s.executing - 1, raced := raced } []
  | execute (hexecuting : 0 < s.executing) (op : GattOperation) (ops : List GattOperation)
      (hcurrent : s.mCurrentOperation = none) (hops : s.mOperations = op :: ops) :
      Step s
        { s with
          executing := s.executing - 1
          mOperations := ops
          mCurrentOperation := some op
          ran := false
          raced := s.races
          posting := s.posting + 1 }
        []
  | post (hposting : 0 < s.posting) :
      Step s { s with posting := s.posting - 1, posted := s.posted + 1 } [.posted]
  | runNothing (hposted : 0 < s.posted) (hcurrent : s.mCurrentOperation = none) :
      Step s { s with posted := s.posted - 1 } [.noCurrent]
  | requested (hposted : 0 < s.posted) (op : GattOperation)
      (hcurrent : s.mCurrentOperation = some op) (hbusy : s.busy = none) :
      Step s
        { s with
          posted := s.posted - 1
          mCurrentOperation := some { op with mResult := true }
          ran := true
          busy := some (.operation { op with mResult := true }) }
        [.requested op.id]
  | refused (hposted : 0 < s.posted) (op : GattOperation)
      (hcurrent : s.mCurrentOperation = some op) :
      Step s
        { s with
          posted := s.posted - 1
          mCurrentOperation := some { op with mResult := false }
          ran := true }
        [.refused op.id]
  | nothing (hposted : 0 < s.posted) (op : GattOperation)
      (hcurrent : s.mCurrentOperation = some op) (hop : op.mOp = .ENABLE_NOTIFICATION) :
      Step s { s with posted := s.posted - 1, ran := true } [.nothing op.id]
  | answer (request : Request) (hbusy : s.busy = some request) :
      Step s { s with busy := none, answering := s.answering + 1 } []
  | answerAndWrite (request : Request) (hbusy : s.busy = some request)
      (hinput : request.isInputDescriptor = true) :
      Step s { s with busy := some .enterValveMode, answering := s.answering + 1 }
        [.wroteValveMode]
  | takeNothing (hanswering : 0 < s.answering) (hcurrent : s.mCurrentOperation = none) :
      Step s { s with answering := s.answering - 1, executing := s.executing + 1 } []
  | take (hanswering : 0 < s.answering) (op : GattOperation)
      (hcurrent : s.mCurrentOperation = some op) :
      Step s
        { s with
          answering := s.answering - 1
          mCurrentOperation := none
          finishing := op :: s.finishing }
        [.taken op.id]
  | finish (op : GattOperation) (hop : op ∈ s.finishing) (hresult : op.mResult = true) :
      Step s { s with finishing := s.finishing.erase op, executing := s.executing + 1 }
        [.finished op.id]
  | fail (op : GattOperation) (hop : op ∈ s.finishing) (hresult : op.mResult = false) :
      Step s
        { s with
          finishing := s.finishing.erase op
          adding := op :: s.adding
          raced := s.races }
        []
  | putBack (op : GattOperation) (left : List GattOperation) (hop : op ∈ s.adding) :
      Step s
        { s with
          mOperations := if s.raced then left else op :: s.mOperations
          adding := s.adding.erase op
          executing := s.executing + 1 }
        [.putBack op.id]

variable {s s' s₀ : State} {a : Action} {tr es : List Event} {ok : State → Action → Prop}

lemma State.races_of_raced (s : State) (h : s.raced = true) : s.races = true := by
  rw [races, h]
  rfl

lemma Step.of_step (h : step s a = some (s', es)) : Step s s' es := by
  cases a with
  | queueGattOperation op uuid =>
    cases h
    exact .queue op uuid
  | executeNextGattOperation =>
    simp only [step] at h
    split_ifs at h with hexecuting
    have hpos := Nat.pos_of_ne_zero hexecuting
    split at h
    · next op hcurrent =>
      cases h
      exact .executeNothing s.raced hpos id (Or.inl (by simp [hcurrent]))
    · next hops =>
      cases h
      exact .executeNothing s.races hpos s.races_of_raced (Or.inr hops)
    · next op ops hcurrent hops =>
      cases h
      exact .execute hpos op ops hcurrent hops
  | post =>
    simp only [step] at h
    split_ifs at h with hposting
    cases h
    exact .post (Nat.pos_of_ne_zero hposting)
  | run runEnd =>
    simp only [step] at h
    split_ifs at h with hposted
    have hpos := Nat.pos_of_ne_zero hposted
    split at h
    · next hcurrent =>
      cases h
      exact .runNothing hpos hcurrent
    · next op hcurrent =>
      cases runEnd with
      | requested =>
        simp only [State.runCurrent] at h
        split_ifs at h with hbusy
        cases h
        exact .requested hpos op hcurrent hbusy
      | refused =>
        cases h
        exact .refused hpos op hcurrent
      | nothing =>
        simp only [State.runCurrent] at h
        split_ifs at h with hop
        cases h
        exact .nothing hpos op hcurrent hop
  | answer writes =>
    simp only [step] at h
    split at h
    · cases h
    · next request hbusy =>
      split_ifs at h with hwrites
      · cases h
        exact .answerAndWrite request hbusy (Bool.and_eq_true_iff.mp hwrites).1
      · cases h
        exact .answer request hbusy
  | takeCurrent =>
    simp only [step] at h
    split_ifs at h with hanswering
    have hpos := Nat.pos_of_ne_zero hanswering
    split at h
    · next hcurrent =>
      cases h
      exact .takeNothing hpos hcurrent
    · next op hcurrent =>
      cases h
      exact .take hpos op hcurrent
  | finish id =>
    simp only [step] at h
    split at h
    · cases h
    · next op hfound =>
      have hop := List.mem_of_find?_eq_some hfound
      split_ifs at h with hresult
      · cases h
        exact .finish op hop hresult
      · cases h
        exact .fail op hop (Bool.eq_false_iff.mpr hresult)
  | addFirst id left =>
    simp only [step] at h
    split at h
    · cases h
    · next op hfound =>
      cases h
      exact .putBack op left (List.mem_of_find?_eq_some hfound)

/-! ### Where an operation is -/

def Event.queuedId : Event → Option ℕ
  | .queued id => some id
  | _          => none

def Event.finishedId : Event → Option ℕ
  | .finished id => some id
  | _            => none

/-- The operations that are waiting, current, about to be looked at, or about to wait again. -/
def State.held (s : State) : List ℕ :=
  s.mOperations.map GattOperation.id ++ (s.mCurrentOperation.toList.map GattOperation.id ++
    (s.finishing.map GattOperation.id ++ s.adding.map GattOperation.id))

/-- Nothing is under way. -/
structure AtRest (s : State) : Prop where
  mOperations : s.mOperations = []
  mCurrentOperation : s.mCurrentOperation = none
  posted : s.posted = 0
  posting : s.posting = 0
  answering : s.answering = 0
  finishing : s.finishing = []
  adding : s.adding = []
  busy : s.busy = none

/-- What is queued is held until it is finished, and somebody will go for it. -/
structure Kept (tr : List Event) (s : State) : Prop where
  balance : (tr.filterMap Event.queuedId).Perm (tr.filterMap Event.finishedId ++ s.held)
  woken : s.mOperations ≠ [] →
    s.mCurrentOperation ≠ none ∨ 0 < s.executing ∨ s.finishing ≠ [] ∨ s.adding ≠ []
  due : s.mCurrentOperation ≠ none → s.ran = false → 0 < s.posted ∨ 0 < s.posting

/-- The steps that move operations about. -/
lemma Kept.moved (h : Kept tr s) (hqueued : es.filterMap Event.queuedId = [])
    (hheld : s.held.Perm (es.filterMap Event.finishedId ++ s'.held))
    (hwoken : s'.mOperations ≠ [] →
      s'.mCurrentOperation ≠ none ∨ 0 < s'.executing ∨ s'.finishing ≠ [] ∨ s'.adding ≠ [])
    (hdue : s'.mCurrentOperation ≠ none → s'.ran = false → 0 < s'.posted ∨ 0 < s'.posting) :
    Kept (tr ++ es) s' where
  balance := by
    rw [List.filterMap_append, List.filterMap_append, hqueued, List.append_nil, List.append_assoc]
    exact h.balance.trans (hheld.append_left _)
  woken := hwoken
  due := hdue

lemma count_id_erase {op : GattOperation} {ops : List GattOperation} (hop : op ∈ ops) (n : ℕ) :
    (ops.map GattOperation.id).count n = ((op :: ops.erase op).map GattOperation.id).count n :=
  ((List.perm_cons_erase hop).map GattOperation.id).count_eq n

lemma Step.raced (h : Step s s' es) (hraced : s'.raced = false) : s.raced = false := by
  have hmono : s.raced = true → s'.raced = true := by
    cases h with
    | queue | execute | fail => exact s.races_of_raced
    | executeNothing _ _ hkeeps => exact hkeeps
    | _ => exact id
  exact Bool.eq_false_iff.mpr fun h => Bool.eq_false_iff.mp hraced (hmono h)

theorem Step.kept (h : Step s s' es) (hraced : s.raced = false) (hs : Kept tr s) :
    Kept (tr ++ es) s' := by
  have hwoken := hs.woken
  have hdue := hs.due
  cases h with
  | queue op uuid =>
    refine ⟨?_, fun _ => Or.inr (Or.inl (Nat.succ_pos _)), hdue⟩
    rw [List.filterMap_append, List.filterMap_append]
    refine List.perm_iff_count.mpr fun n => ?_
    have hcount := hs.balance.count_eq n
    simp [State.held, Event.queuedId, Event.finishedId, List.filterMap_cons,
      List.count_cons] at hcount ⊢
    omega
  | executeNothing _ hexecuting _ hidle =>
    refine hs.moved rfl (List.Perm.refl _) ?_ hdue
    intro hops
    exact Or.inl (hidle.resolve_right hops)
  | execute hexecuting op ops hcurrent hops =>
    refine hs.moved rfl ?_ (fun _ => Or.inl (by simp)) fun _ _ => Or.inr (Nat.succ_pos _)
    simp only [State.held, hops, hcurrent]
    refine List.perm_iff_count.mpr fun n => ?_
    simp [List.count_cons]
    omega
  | post hposting =>
    exact hs.moved rfl (List.Perm.refl _) hwoken fun _ _ => Or.inl (Nat.succ_pos _)
  | runNothing hposted hcurrent =>
    refine hs.moved rfl (List.Perm.refl _) hwoken ?_
    intro hsome
    exact absurd hcurrent hsome
  | requested hposted op hcurrent hbusy =>
    refine hs.moved rfl ?_ (fun _ => Or.inl (by simp)) (by simp)
    rw [State.held, hcurrent]
    exact List.Perm.refl _
  | refused hposted op hcurrent =>
    refine hs.moved rfl ?_ (fun _ => Or.inl (by simp)) (by simp)
    rw [State.held, hcurrent]
    exact List.Perm.refl _
  | nothing hposted op hcurrent hop =>
    exact hs.moved rfl (List.Perm.refl _) hwoken (by simp)
  | answer request hbusy => exact hs.moved rfl (List.Perm.refl _) hwoken hdue
  | answerAndWrite request hbusy hinput => exact hs.moved rfl (List.Perm.refl _) hwoken hdue
  | takeNothing hanswering hcurrent =>
    exact hs.moved rfl (List.Perm.refl _) (fun _ => Or.inr (Or.inl (Nat.succ_pos _))) hdue
  | take hanswering op hcurrent =>
    refine hs.moved rfl ?_ (fun _ => Or.inr (Or.inr (Or.inl (by simp)))) (by simp)
    rw [State.held, hcurrent]
    exact List.Perm.refl _
  | finish op hop hresult =>
    refine hs.moved rfl ?_ (fun _ => Or.inr (Or.inl (Nat.succ_pos _))) hdue
    refine List.perm_iff_count.mpr fun n => ?_
    have hcount := count_id_erase hop n
    simp [State.held, Event.finishedId, List.count_cons] at hcount ⊢
    omega
  | fail op hop hresult =>
    refine hs.moved rfl ?_ (fun _ => Or.inr (Or.inr (Or.inr (by simp)))) hdue
    refine List.perm_iff_count.mpr fun n => ?_
    have hcount := count_id_erase hop n
    simp [State.held, List.count_cons] at hcount ⊢
    omega
  | putBack op left hop =>
    refine hs.moved rfl ?_ (fun _ => Or.inr (Or.inl (Nat.succ_pos _))) hdue
    refine List.perm_iff_count.mpr fun n => ?_
    have hcount := count_id_erase hop n
    simp [State.held, hraced, Event.finishedId, List.filterMap_cons, List.count_cons] at hcount ⊢
    omega

theorem kept_of_run (hrest : AtRest s₀) (h : machine.Run ok s₀ tr s) (hraced : s.raced = false) :
    Kept tr s := by
  refine h.invariant (fun tr s => s.raced = false → Kept tr s) ?_ ?_ hraced
  · refine fun _ => ⟨?_, ?_, ?_⟩
    · simp [State.held, hrest.mOperations, hrest.mCurrentOperation, hrest.finishing, hrest.adding]
    · simp [hrest.mOperations]
    · simp [hrest.mCurrentOperation]
  · intro tr s a s' es _ hs _ hstep hraced
    have hbefore := (Step.of_step hstep).raced hraced
    exact (Step.of_step hstep).kept hbefore (hs hbefore)

lemma Step.numbered (h : Step s s' es) :
    List.range s.queued ++ es.filterMap Event.queuedId = List.range s'.queued := by
  cases h with
  | queue => exact List.range_succ.symm
  | _ => exact List.append_nil _

lemma nodup_of_run (h : machine.Run ok s₀ tr s) : (tr.filterMap Event.queuedId).Nodup := by
  have hnumbered : List.range s₀.queued ++ tr.filterMap Event.queuedId = List.range s.queued := by
    refine h.invariant (fun tr s =>
      List.range s₀.queued ++ tr.filterMap Event.queuedId = List.range s.queued) ?_ ?_
    · exact List.append_nil _
    · intro tr s a s' es _ ih _ hstep
      rw [List.filterMap_append, ← List.append_assoc, ih, (Step.of_step hstep).numbered]
  have hrange : (List.range s₀.queued ++ tr.filterMap Event.queuedId).Nodup := by
    rw [hnumbered]
    exact List.nodup_range
  exact (List.nodup_append.mp hrange).2.1

/-- In every interleaving in which no thread uses the queue while another is in `addFirst`, each
operation that was queued is finished once or is still held, in one place. While operations wait
there is a current one, or some thread will go for the next; and a runnable is posted for the
current one, or a thread is about to post it, until it has been run. -/
theorem operations_neither_lost_nor_doubled (hrest : AtRest s₀) (h : machine.Run ok s₀ tr s)
    (hraced : s.raced = false) :
    (tr.filterMap Event.queuedId).Perm (tr.filterMap Event.finishedId ++ s.held) ∧
      (tr.filterMap Event.finishedId ++ s.held).Nodup ∧
      (s.mOperations ≠ [] → s.mCurrentOperation ≠ none ∨ 0 < s.executing ∨ s.finishing ≠ [] ∨
        s.adding ≠ []) ∧
      (s.mCurrentOperation ≠ none → s.ran = false → 0 < s.posted ∨ 0 < s.posting) := by
  have hs := kept_of_run hrest h hraced
  exact ⟨hs.balance, hs.balance.nodup_iff.mp (nodup_of_run h), hs.woken, hs.due⟩

lemma atRest_initial : AtRest initial := ⟨rfl, rfl, rfl, rfl, rfl, rfl, rfl, rfl⟩

/-- The stack refuses a report while the valve mode is written, and puts the report back when that
is answered. -/
theorem operations_neither_lost_nor_doubled_valve : ∃ tr s,
    machine.Run (fun _ _ => True) initial tr s ∧ .refused 1 ∈ tr ∧ .putBack 1 ∈ tr ∧
      s.mOperations.map GattOperation.id = [1] ∧
      (tr.filterMap Event.finishedId ++ s.held).Nodup := by
  obtain ⟨tr, s, hrun, hraced, hrefused, hback, hqueue⟩ := Machine.Run.exists_of_exec machine
    (fun _ _ => True) initial
    [.queueGattOperation .ENABLE_NOTIFICATION .inputCharacteristic, .executeNextGattOperation,
      .post, .run .requested, .answer true, .takeCurrent, .finish 0,
      .queueGattOperation .CHR_WRITE .reportCharacteristic, .executeNextGattOperation, .post,
      .run .refused, .answer false, .takeCurrent, .finish 1, .addFirst 1 []]
    (fun s tr => s.raced = false ∧ .refused 1 ∈ tr ∧ .putBack 1 ∈ tr ∧
      s.mOperations.map GattOperation.id = [1]) (by decide)
  exact ⟨tr, s, hrun, hrefused, hback, hqueue,
    (operations_neither_lost_nor_doubled atRest_initial hrun hraced).2.1⟩

/-! ### The order of the requests -/

def Event.takenId : Event → Option ℕ
  | .taken id => some id
  | _         => none

def Event.requestedId : Event → Option ℕ
  | .requested id => some id
  | _             => none

lemma Event.eq_requested {ev : Event} {id : ℕ} (h : ev.requestedId = some id) :
    ev = .requested id := by
  cases ev with
  | requested id' => rw [Option.some.inj h]
  | _ => cases h

/-- The runnables that have been or will be posted. -/
def State.due (s : State) : ℕ := s.posting + s.posted

/-- How far the current operation is, and whether its request is not taken out yet. -/
inductive Stage (s : State) : List ℕ → Prop where
  | idle (hcurrent : s.mCurrentOperation = none) (hdue : s.due = 0) (hbusy : s.busy = none)
      (hanswering : s.answering = 0) : Stage s []
  | due (op : GattOperation) (hcurrent : s.mCurrentOperation = some op) (hdue : s.due = 1)
      (hbusy : s.busy = none) (hanswering : s.answering = 0) (hresult : op.mResult = true) :
      Stage s []
  | requested (op : GattOperation) (hcurrent : s.mCurrentOperation = some op)
      (hdue : s.due = 0) (hbusy : s.busy = some (.operation op))
      (hanswering : s.answering = 0) (hresult : op.mResult = true) : Stage s [op.id]
  | answered (op : GattOperation) (hcurrent : s.mCurrentOperation = some op)
      (hdue : s.due = 0) (hbusy : s.busy = none) (hanswering : s.answering = 1)
      (hresult : op.mResult = true) : Stage s [op.id]
  /-- No request was made, and no callback will come. -/
  | stuck (op : GattOperation) (hcurrent : s.mCurrentOperation = some op) (hdue : s.due = 0)
      (hbusy : s.busy = none) (hanswering : s.answering = 0) : Stage s []

/-- The queue as long as every request was one of its operations. -/
structure Orderly (tr : List Event) (s : State) : Prop where
  fifo : tr.filterMap Event.queuedId = tr.filterMap Event.takenId ++
    (s.mCurrentOperation.toList ++ s.mOperations).map GattOperation.id
  stage : ∃ req, Stage s req ∧
    tr.filterMap Event.requestedId = tr.filterMap Event.takenId ++ req
  waiting : ∀ op ∈ s.mOperations, op.mResult = true
  finishing : ∀ op ∈ s.finishing, op.mResult = true ∧ op.id ∈ tr.filterMap Event.takenId
  finished : ∀ id ∈ tr.filterMap Event.finishedId, id ∈ tr.filterMap Event.takenId
  found : .noCurrent ∉ tr
  adding : s.adding = []
  kept : ∀ id, .putBack id ∉ tr

/-- Events that neither queue, request nor finish. -/
def Event.isSilent : Event → Bool
  | .posted | .refused _ | .nothing _ => true
  | _                                 => false

lemma filterMap_append_silent {f : Event → Option ℕ} (hf : ∀ ev, ev.isSilent = true → f ev = none)
    (hes : ∀ ev ∈ es, ev.isSilent = true) : (tr ++ es).filterMap f = tr.filterMap f := by
  rw [List.filterMap_append, List.filterMap_eq_nil_iff.mpr fun ev hev => hf ev (hes ev hev),
    List.append_nil]

lemma Event.isSilent_none {ev : Event} (h : ev.isSilent = true) : ev.queuedId = none ∧
    ev.takenId = none ∧ ev.requestedId = none ∧ ev.finishedId = none := by
  cases ev <;> simp [isSilent, queuedId, takenId, requestedId, finishedId] at h ⊢

/-- The steps that leave the order as it is. -/
lemma Orderly.silent (hs : Orderly tr s) (hes : ∀ ev ∈ es, ev.isSilent = true)
    (hqueue : (s'.mCurrentOperation.toList ++ s'.mOperations).map GattOperation.id =
      (s.mCurrentOperation.toList ++ s.mOperations).map GattOperation.id)
    (hstage : ∀ req, Stage s req → Stage s' req)
    (hwaiting : ∀ op ∈ s'.mOperations, op ∈ s.mOperations)
    (hfinishing : s'.finishing = s.finishing) (hadding : s'.adding = s.adding) :
    Orderly (tr ++ es) s' := by
  have hnone : ∀ ev : Event, ev.isSilent = false → ev ∉ es := by
    intro ev hev hmem
    rw [hes ev hmem] at hev
    cases hev
  have htaken : (tr ++ es).filterMap Event.takenId = tr.filterMap Event.takenId :=
    filterMap_append_silent (fun _ h => (Event.isSilent_none h).2.1) hes
  constructor
  · rw [htaken, hqueue, ← hs.fifo]
    exact filterMap_append_silent (fun _ h => (Event.isSilent_none h).1) hes
  · obtain ⟨req, hreq, hrequested⟩ := hs.stage
    refine ⟨req, hstage req hreq, ?_⟩
    rw [htaken, ← hrequested]
    exact filterMap_append_silent (fun _ h => (Event.isSilent_none h).2.2.1) hes
  · exact fun op hop => hs.waiting op (hwaiting op hop)
  · rw [hfinishing, htaken]
    exact hs.finishing
  · rw [htaken, filterMap_append_silent (fun _ h => (Event.isSilent_none h).2.2.2) hes]
    exact hs.finished
  · rw [List.mem_append, not_or]
    exact ⟨hs.found, hnone _ rfl⟩
  · exact hadding.trans hs.adding
  · intro id
    rw [List.mem_append, not_or]
    exact ⟨hs.kept id, hnone _ rfl⟩

/-- A runnable that is posted is the only one. -/
lemma Stage.of_posted {req : List ℕ} (h : Stage s req) (hposted : 0 < s.posted) :
    req = [] ∧ (s.posting = 0 ∧ s.posted = 1) ∧ s.busy = none ∧ s.answering = 0 ∧
      ∃ op, s.mCurrentOperation = some op ∧ op.mResult = true := by
  cases h with
  | due op hcurrent hone hbusy hanswering hresult =>
    have hsum : s.posting + s.posted = 1 := hone
    exact ⟨rfl, by omega, hbusy, hanswering, op, hcurrent, hresult⟩
  | idle _ hnone | requested _ _ hnone | answered _ _ hnone | stuck _ _ hnone =>
    have hsum : s.posting + s.posted = 0 := hnone
    omega

lemma Stage.of_answering {req : List ℕ} (h : Stage s req) (hanswering : 0 < s.answering) :
    ∃ op, s.mCurrentOperation = some op ∧ req = [op.id] ∧ s.due = 0 ∧ s.busy = none ∧
      s.answering = 1 ∧ op.mResult = true := by
  cases h with
  | answered op hcurrent hdue hbusy hone hresult =>
    exact ⟨op, hcurrent, rfl, hdue, hbusy, hone, hresult⟩
  | idle _ _ _ hnone => omega
  | due _ _ _ _ hnone => omega
  | requested _ _ _ _ hnone => omega
  | stuck _ _ _ _ hnone => omega

lemma Stage.congr {req : List ℕ} (h : Stage s req)
    (hcurrent : s'.mCurrentOperation = s.mCurrentOperation) (hdue : s'.due = s.due)
    (hbusy : s'.busy = s.busy) (hanswering : s'.answering = s.answering) : Stage s' req := by
  cases h with
  | idle h₁ h₂ h₃ h₄ =>
    exact .idle (hcurrent.trans h₁) (hdue.trans h₂) (hbusy.trans h₃) (hanswering.trans h₄)
  | due op h₁ h₂ h₃ h₄ hresult =>
    exact .due op (hcurrent.trans h₁) (hdue.trans h₂) (hbusy.trans h₃) (hanswering.trans h₄)
      hresult
  | requested op h₁ h₂ h₃ h₄ hresult =>
    exact .requested op (hcurrent.trans h₁) (hdue.trans h₂) (hbusy.trans h₃)
      (hanswering.trans h₄) hresult
  | answered op h₁ h₂ h₃ h₄ hresult =>
    exact .answered op (hcurrent.trans h₁) (hdue.trans h₂) (hbusy.trans h₃)
      (hanswering.trans h₄) hresult
  | stuck op h₁ h₂ h₃ h₄ =>
    exact .stuck op (hcurrent.trans h₁) (hdue.trans h₂) (hbusy.trans h₃) (hanswering.trans h₄)

lemma Stage.prefix_current {req : List ℕ} (h : Stage s req) :
    req <+: s.mCurrentOperation.toList.map GattOperation.id ∧ req.length ≤ 1 := by
  cases h with
  | requested op hcurrent => simp [hcurrent]
  | answered op hcurrent => simp [hcurrent]
  | _ => simp

theorem Step.orderly (h : Step s s' es) (hs : Orderly tr s) (hdirect : .wroteValveMode ∉ es) :
    Orderly (tr ++ es) s' := by
  obtain ⟨req, hstage, hrequested⟩ := hs.stage
  cases h with
  | queue op uuid =>
    refine ⟨?_, ⟨req, hstage.congr rfl rfl rfl rfl, ?_⟩, ?_, ?_, ?_, ?_, hs.adding, ?_⟩
    · simp [Event.queuedId, Event.takenId, hs.fifo]
    · simpa [List.filterMap_cons, Event.requestedId, Event.takenId] using hrequested
    · intro op' hop'
      rcases List.mem_append.mp hop' with hop' | hop'
      · exact hs.waiting op' hop'
      · rw [List.mem_singleton.mp hop']
    · simpa [Event.takenId] using hs.finishing
    · simpa [Event.finishedId, Event.takenId] using hs.finished
    · simpa using hs.found
    · simpa using hs.kept
  | executeNothing _ hexecuting _ hidle =>
    exact hs.silent (by simp) rfl (fun _ h => h.congr rfl rfl rfl rfl) (fun _ => id) rfl rfl
  | execute hexecuting op ops hcurrent hops =>
    have hwaiting : ∀ op' ∈ op :: ops, op'.mResult = true := hops ▸ hs.waiting
    refine hs.silent (by simp) (by simp [hcurrent, hops]) ?_
      (fun op' hop' => hops ▸ List.mem_cons_of_mem _ hop') rfl rfl
    intro req h
    cases h with
    | idle _ hdue hbusy hanswering =>
      refine .due op rfl ?_ hbusy hanswering (hwaiting op (by simp))
      rw [State.due] at hdue ⊢
      exact (Nat.succ_add _ _).trans (congrArg _ hdue)
    | due _ hsome => cases hcurrent.symm.trans hsome
    | requested _ hsome => cases hcurrent.symm.trans hsome
    | answered _ hsome => cases hcurrent.symm.trans hsome
    | stuck _ hsome => cases hcurrent.symm.trans hsome
  | post hposting =>
    refine hs.silent (by simp [Event.isSilent]) rfl (fun _ h => h.congr rfl ?_ rfl rfl)
      (fun _ => id) rfl rfl
    rw [State.due, State.due]
    dsimp only
    omega
  | runNothing hposted hcurrent =>
    obtain ⟨-, -, -, -, op, hsome, -⟩ := hstage.of_posted hposted
    cases hcurrent.symm.trans hsome
  | requested hposted op hcurrent hbusy =>
    obtain ⟨rfl, hone, -, hanswering, -⟩ := hstage.of_posted hposted
    rw [List.append_nil] at hrequested
    refine ⟨?_, ⟨[op.id], .requested { op with mResult := true } rfl (by simp [State.due, hone]) rfl
      hanswering rfl, ?_⟩, hs.waiting, ?_, ?_, ?_, hs.adding, ?_⟩
    · simpa [List.filterMap_cons, Event.queuedId, Event.takenId, hcurrent] using hs.fifo
    · simpa [List.filterMap_cons, Event.requestedId, Event.takenId] using hrequested
    · simpa [Event.takenId] using hs.finishing
    · simpa [Event.finishedId, Event.takenId] using hs.finished
    · simpa using hs.found
    · simpa using hs.kept
  | refused hposted op hcurrent =>
    refine hs.silent (by simp [Event.isSilent]) (by simp [hcurrent]) ?_ (fun _ => id) rfl rfl
    intro req h
    obtain ⟨rfl, hone, hbusy, hanswering, -⟩ := h.of_posted hposted
    exact .stuck _ rfl (by simp [State.due, hone]) hbusy hanswering
  | nothing hposted op hcurrent hop =>
    refine hs.silent (by simp [Event.isSilent]) rfl ?_ (fun _ => id) rfl rfl
    intro req h
    obtain ⟨rfl, hone, hbusy, hanswering, -⟩ := h.of_posted hposted
    exact .stuck op hcurrent (by simp [State.due, hone]) hbusy hanswering
  | answer request hbusy =>
    refine hs.silent (by simp) rfl ?_ (fun _ => id) rfl rfl
    intro req h
    cases h with
    | requested op hcurrent hposted _ hanswering hresult =>
      exact .answered op hcurrent hposted rfl (congrArg (· + 1) hanswering) hresult
    | idle _ _ hnone => cases hbusy.symm.trans hnone
    | due _ _ _ hnone => cases hbusy.symm.trans hnone
    | answered _ _ _ hnone => cases hbusy.symm.trans hnone
    | stuck _ _ _ hnone => cases hbusy.symm.trans hnone
  | answerAndWrite request hbusy hinput => exact absurd (List.mem_singleton.mpr rfl) hdirect
  | takeNothing hanswering hcurrent =>
    obtain ⟨op, hsome, -⟩ := hstage.of_answering hanswering
    cases hcurrent.symm.trans hsome
  | take hanswering op hcurrent =>
    obtain ⟨op', hop', rfl, hposted, hbusy, hone, hresult⟩ := hstage.of_answering hanswering
    obtain rfl := Option.some.inj (hcurrent.symm.trans hop')
    refine ⟨?_, ⟨[], .idle rfl hposted hbusy (by simp [hone]), ?_⟩, hs.waiting, ?_, ?_, ?_,
      hs.adding, ?_⟩
    · simpa [List.filterMap_cons, Event.queuedId, Event.takenId, hcurrent] using hs.fifo
    · simpa [List.filterMap_cons, Event.requestedId, Event.takenId] using hrequested
    · intro op' hop'
      rw [List.filterMap_append, List.mem_append]
      rcases List.mem_cons.mp hop' with rfl | hop'
      · exact ⟨hresult, Or.inr (by simp [Event.takenId])⟩
      · exact ⟨(hs.finishing op' hop').1, Or.inl (hs.finishing op' hop').2⟩
    · intro id hid
      rw [List.filterMap_append, List.mem_append]
      exact Or.inl (hs.finished id (by simpa [Event.finishedId] using hid))
    · simpa using hs.found
    · simpa using hs.kept
  | finish op hop hresult =>
    refine ⟨?_, ⟨req, hstage.congr rfl rfl rfl rfl, ?_⟩, hs.waiting, ?_, ?_, ?_, hs.adding, ?_⟩
    · simpa [List.filterMap_cons, Event.queuedId, Event.takenId] using hs.fifo
    · simpa [List.filterMap_cons, Event.requestedId, Event.takenId] using hrequested
    · intro op' hop'
      simpa [Event.takenId] using hs.finishing op' (List.mem_of_mem_erase hop')
    · intro id hid
      rw [List.filterMap_append, List.mem_append] at hid
      rw [List.filterMap_append, List.mem_append]
      rcases hid with hid | hid
      · exact Or.inl (hs.finished id hid)
      · obtain rfl : id = op.id := by simpa [Event.finishedId] using hid
        exact Or.inl (hs.finishing op hop).2
    · simpa using hs.found
    · simpa using hs.kept
  | fail op hop hresult =>
    have htrue := (hs.finishing op hop).1
    cases hresult.symm.trans htrue
  | putBack op left hop =>
    rw [hs.adding] at hop
    cases hop

theorem orderly_of_run (hrest : AtRest s₀) (h : machine.Run ok s₀ tr s)
    (hdirect : .wroteValveMode ∉ tr) : Orderly tr s := by
  have hinit : Orderly [] s₀ := by
    have hdue : s₀.due = 0 := by rw [State.due, hrest.posted, hrest.posting]
    refine ⟨?_, ⟨[], .idle hrest.mCurrentOperation hdue hrest.busy hrest.answering, rfl⟩,
      ?_, ?_, ?_, ?_, hrest.adding, ?_⟩
    · simp [hrest.mCurrentOperation, hrest.mOperations]
    · simp [hrest.mOperations]
    · simp [hrest.finishing]
    · simp
    · simp
    · simp
  refine h.invariant (fun tr s => .wroteValveMode ∉ tr → Orderly tr s) (fun _ => hinit) ?_ hdirect
  intro tr s a s' es _ hs _ hstep hdirect
  rw [List.mem_append, not_or] at hdirect
  exact (Step.of_step hstep).orderly (hs hdirect.1) hdirect.2

/-- From a state at rest, as long as the valve mode is not written anew, the operations are
requested one at a time, each once and in the order they were queued in; only operations that were
requested are finished, none goes back, and no runnable finds the current operation gone. -/
theorem operations_requested_once_in_order (hrest : AtRest s₀) (h : machine.Run ok s₀ tr s)
    (hdirect : .wroteValveMode ∉ tr) :
    tr.filterMap Event.requestedId <+: tr.filterMap Event.queuedId ∧
      (tr.filterMap Event.requestedId).Nodup ∧
      tr.filterMap Event.takenId <+: tr.filterMap Event.requestedId ∧
      (tr.filterMap Event.requestedId).length ≤ (tr.filterMap Event.takenId).length + 1 ∧
      (∀ id, .finished id ∈ tr → .requested id ∈ tr) ∧
      (∀ id, .putBack id ∉ tr) ∧ .noCurrent ∉ tr := by
  have hs := orderly_of_run hrest h hdirect
  obtain ⟨req, hstage, hrequested⟩ := hs.stage
  have htaken : tr.filterMap Event.takenId <+: tr.filterMap Event.requestedId :=
    ⟨req, hrequested.symm⟩
  have hqueued : tr.filterMap Event.requestedId <+: tr.filterMap Event.queuedId := by
    obtain ⟨rest, hrest⟩ := hstage.prefix_current.1
    refine ⟨rest ++ s.mOperations.map GattOperation.id, ?_⟩
    rw [hrequested, hs.fifo, List.map_append, ← hrest]
    simp
  refine ⟨hqueued, (nodup_of_run h).sublist hqueued.sublist, htaken, ?_, ?_, hs.kept,
    hs.found⟩
  · rw [hrequested, List.length_append]
    exact Nat.add_le_add_left hstage.prefix_current.2 _
  · intro id hid
    have hfinished : id ∈ tr.filterMap Event.finishedId :=
      List.mem_filterMap.mpr ⟨_, hid, rfl⟩
    obtain ⟨ev, hev, heq⟩ := List.mem_filterMap.mp (htaken.subset (hs.finished id hfinished))
    rwa [Event.eq_requested heq] at hev

theorem operations_requested_once_in_order_two : ∃ tr s,
    machine.Run (fun _ _ => True) initial tr s ∧ .requested 0 ∈ tr ∧ .requested 1 ∈ tr ∧
      tr.filterMap Event.requestedId <+: tr.filterMap Event.queuedId := by
  obtain ⟨tr, s, hrun, hdirect, hfirst, hsecond⟩ := Machine.Run.exists_of_exec machine
    (fun _ _ => True) initial
    [.queueGattOperation .CHR_WRITE .reportCharacteristic,
      .queueGattOperation .CHR_READ .reportCharacteristic, .executeNextGattOperation, .post,
      .run .requested, .executeNextGattOperation, .answer true, .takeCurrent, .finish 0,
      .executeNextGattOperation, .post, .run .requested]
    (fun _ tr => .wroteValveMode ∉ tr ∧ .requested 0 ∈ tr ∧ .requested 1 ∈ tr) (by decide)
  exact ⟨tr, s, hrun, hfirst, hsecond,
    (operations_requested_once_in_order atRest_initial hrun hdirect).1⟩

/-! ### A request that was not made -/

/-- No runnable and no callback will come for the current operation. -/
structure Blocked (op : GattOperation) (s : State) : Prop where
  mCurrentOperation : s.mCurrentOperation = some op
  posted : s.posted = 0
  posting : s.posting = 0
  busy : s.busy = none
  answering : s.answering = 0
  finishing : ∀ op ∈ s.finishing, op.mResult = true
  adding : s.adding = []

/-- From `s` to `s'` operations were queued and ones taken out before were finished. -/
structure OnlyQueues (s : State) (tr : List Event) (s' : State) : Prop where
  mOperations : s'.mOperations.map GattOperation.id =
    s.mOperations.map GattOperation.id ++ tr.filterMap Event.queuedId
  events : ∀ ev ∈ tr, ev.queuedId ≠ none ∨ ev.finishedId ≠ none

theorem Step.blocked {op : GattOperation} (h : Step s s' es) (hs : Blocked op s) :
    Blocked op s' ∧ OnlyQueues s es s' := by
  cases h with
  | queue op' uuid =>
    refine ⟨⟨hs.1, hs.2, hs.3, hs.4, hs.5, hs.6, hs.7⟩, ?_, ?_⟩
    · simp [Event.queuedId]
    · simp [Event.queuedId]
  | executeNothing _ hexecuting _ hidle =>
    exact ⟨⟨hs.1, hs.2, hs.3, hs.4, hs.5, hs.6, hs.7⟩, by simp, by simp⟩
  | execute hexecuting op' ops hcurrent => cases hcurrent.symm.trans hs.mCurrentOperation
  | post hposting => exact absurd hs.posting (Nat.ne_of_gt hposting)
  | runNothing hposted => exact absurd hs.posted (Nat.ne_of_gt hposted)
  | requested hposted => exact absurd hs.posted (Nat.ne_of_gt hposted)
  | refused hposted => exact absurd hs.posted (Nat.ne_of_gt hposted)
  | nothing hposted => exact absurd hs.posted (Nat.ne_of_gt hposted)
  | answer request hbusy => cases hbusy.symm.trans hs.busy
  | answerAndWrite request hbusy => cases hbusy.symm.trans hs.busy
  | takeNothing hanswering => exact absurd hs.answering (Nat.ne_of_gt hanswering)
  | take hanswering => exact absurd hs.answering (Nat.ne_of_gt hanswering)
  | finish op' hop hresult =>
    refine ⟨⟨hs.1, hs.2, hs.3, hs.4, hs.5, ?_, hs.7⟩, ?_, ?_⟩
    · exact fun op hop => hs.finishing op (List.mem_of_mem_erase hop)
    · simp [List.filterMap_cons, Event.queuedId]
    · simp [Event.finishedId]
  | fail op' hop hresult => cases hresult.symm.trans (hs.finishing op' hop)
  | putBack op' left hop =>
    rw [hs.adding] at hop
    cases hop

theorem blocked_of_run {op : GattOperation} (hs : Blocked op s₀) (h : machine.Run ok s₀ tr s) :
    Blocked op s ∧ OnlyQueues s₀ tr s := by
  refine h.invariant (fun tr s => Blocked op s ∧ OnlyQueues s₀ tr s) ⟨hs, by simp, by simp⟩ ?_
  intro tr s a s' es _ ih _ hstep
  obtain ⟨hblocked, hqueues⟩ := (Step.of_step hstep).blocked ih.1
  refine ⟨hblocked, ?_, ?_⟩
  · rw [hqueues.mOperations, ih.2.mOperations, List.filterMap_append, List.append_assoc]
  · intro ev hev
    exact (List.mem_append.mp hev).elim (ih.2.events ev) (hqueues.events ev)

def Event.failedId : Event → Option ℕ
  | .refused id | .nothing id => some id
  | _                         => none

lemma Step.failed {ev : Event} {id : ℕ} (h : Step s s' es) (hs : Orderly tr s) (hev : ev ∈ es)
    (hid : ev.failedId = some id) : ∃ op, op.id = id ∧ Blocked op s' := by
  obtain ⟨req, hstage, -⟩ := hs.stage
  have hfinishing := fun op hop => (hs.finishing op hop).1
  cases h with
  | refused hposted op hcurrent =>
    obtain ⟨-, hone, hbusy, hanswering, -⟩ := hstage.of_posted hposted
    rw [List.mem_singleton.mp hev] at hid
    exact ⟨{ op with mResult := false }, Option.some.inj hid, rfl, by simp [hone], hone.1, hbusy,
      hanswering, hfinishing, hs.adding⟩
  | nothing hposted op hcurrent hop =>
    obtain ⟨-, hone, hbusy, hanswering, -⟩ := hstage.of_posted hposted
    rw [List.mem_singleton.mp hev] at hid
    exact ⟨op, Option.some.inj hid, hcurrent, by simp [hone], hone.1, hbusy, hanswering,
      hfinishing, hs.adding⟩
  | executeNothing | execute | answer | takeNothing | fail => cases hev
  | _ =>
    rw [List.mem_singleton.mp hev] at hid
    cases hid

/-- If the valve mode has not been written, an operation whose request the stack refuses, or which
finds nothing to enable, does not go back to the queue: it stays the current one, and what is queued
later is never run. -/
theorem refused_operation_blocks {s₁ : State} {tr₁ tr₂ : List Event} {ev : Event} {id : ℕ}
    (hrest : AtRest s₀) (h₁ : machine.Run ok s₀ tr₁ s₁) (hdirect : .wroteValveMode ∉ tr₁)
    (hev : ev ∈ tr₁) (hid : ev.failedId = some id) (h₂ : machine.Run ok s₁ tr₂ s) :
    s.mCurrentOperation.map GattOperation.id = some id ∧ s.due = 0 ∧ OnlyQueues s₁ tr₂ s := by
  obtain ⟨tr, s₂, a, es, s₃, tr', hrun, -, hstep, hes, hrun', rfl⟩ := h₁.exists_step_of_mem hev
  have hs := orderly_of_run hrest hrun fun h => hdirect (List.mem_append_left _ h)
  obtain ⟨op, rfl, hblocked⟩ := (Step.of_step hstep).failed hs hes hid
  obtain ⟨hblocked, hqueues⟩ := blocked_of_run (blocked_of_run hblocked hrun').1 h₂
  refine ⟨by rw [hblocked.mCurrentOperation, Option.map_some], ?_, hqueues⟩
  rw [State.due, hblocked.posting, hblocked.posted]

theorem refused_operation_blocks_next : ∃ s₁ tr s,
    machine.Run (fun _ _ => True) s₁ tr s ∧ .queued 1 ∈ tr ∧
      s.mCurrentOperation.map GattOperation.id = some 0 := by
  obtain ⟨tr₁, s₁, h₁, hdirect, hev, ⟨s, tr⟩, hexec, hqueued⟩ := Machine.Run.exists_of_exec machine
    (fun _ _ => True) initial
    [.queueGattOperation .CHR_WRITE .reportCharacteristic, .executeNextGattOperation, .post,
      .run .refused]
    (fun s tr => .wroteValveMode ∉ tr ∧ .refused 0 ∈ tr ∧
      ∃ r ∈ machine.exec (fun _ _ => True) s
        [.queueGattOperation .CHR_READ .reportCharacteristic, .executeNextGattOperation],
        .queued 1 ∈ r.2) (by decide)
  have h₂ := Machine.Run.of_exec hexec
  exact ⟨s₁, tr, s, h₂, hqueued,
    (refused_operation_blocks atRest_initial h₁ hdirect hev rfl h₂).1⟩

end AndroidMkxp.Input.Gatt
