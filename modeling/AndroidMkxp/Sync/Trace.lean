import AndroidMkxp.Sync.System
import Mathlib.Data.List.Perm.Basic

/-!
# The uploads of a run

Every upload is announced by a `read` event when it starts and by a `committed` or a `failed` event
when it ends. `Accounted` says that the trace of a run keeps the books: each upload that was started
is in flight or has ended once, what is in flight or committed was read under its own name, and the
commits of a snapshot stand in the trace in the order in which the cloud has them.
-/

namespace AndroidMkxp.Sync

open Foundation

variable {ι D : Type} {p f n : JString} {s s' s₀ : State ι D} {a : Action ι D}
  {tr es : List (Event ι D)} {ev ev' : Event ι D} {id : ℕ}

/-- The upload that an event starts. -/
def Event.startedId : Event ι D → Option ℕ
  | .read id _ _ _ => some id
  | _              => none

/-- The upload that an event ends. -/
def Event.endedId : Event ι D → Option ℕ
  | .committed id _ _ => some id
  | .failed id        => some id
  | _                 => none

def Event.readOf (f : JString) : Event ι D → Option (ℕ × D)
  | .read id _ f' data => if f' = f then some (id, data) else none
  | _                  => none

def Event.committedTo (n : JString) : Event ι D → Option (ℕ × D)
  | .committed id n' data => if n' = n then some (id, data) else none
  | _                     => none

/-- The uploads started from files called `f`, with the bytes read. -/
def reads (f : JString) (tr : List (Event ι D)) : List (ℕ × D) := tr.filterMap (Event.readOf f)

/-- The uploads committed to snapshot `n`, in the order in which they landed. -/
def commits (n : JString) (tr : List (Event ι D)) : List (ℕ × D) :=
  tr.filterMap (Event.committedTo n)

/-- The contents of snapshot `n`. -/
def State.cloudContents (s : State ι D) (n : JString) : Option D :=
  (s.cloud n).head?.map Commit.data

lemma mem_reads {x : ℕ × D} : x ∈ reads f tr ↔ ∃ e, .read x.1 e f x.2 ∈ tr := by
  rw [reads, List.mem_filterMap]
  constructor
  · rintro ⟨ev, hev, h⟩
    cases ev with
    | read id e f' data =>
      simp only [Event.readOf] at h
      split_ifs at h with hf
      cases h
      subst hf
      exact ⟨e, hev⟩
    | _ => cases h
  · rintro ⟨e, h⟩
    exact ⟨_, h, by simp [Event.readOf]⟩

lemma mem_commits {x : ℕ × D} : x ∈ commits n tr ↔ .committed x.1 n x.2 ∈ tr := by
  rw [commits, List.mem_filterMap]
  constructor
  · rintro ⟨ev, hev, h⟩
    cases ev with
    | committed id n' data =>
      simp only [Event.committedTo] at h
      split_ifs at h with hn
      cases h
      subst hn
      exact hev
    | _ => cases h
  · intro h
    exact ⟨_, h, by simp [Event.committedTo]⟩

/-! ### Tasks and their identifiers -/

lemma mem_newTasks {device : ι} {uploads : List (Upload D)} {t : UploadTask ι D}
    (h : t ∈ s.newTasks device uploads) : t.upload ∈ uploads ∧ t.device = device := by
  obtain ⟨i, hi, rfl⟩ := List.mem_mapIdx.mp h
  exact ⟨List.getElem_mem hi, rfl⟩

lemma newTasks_map_id (s : State ι D) (device : ι) (uploads : List (Upload D)) :
    (s.newTasks device uploads).map UploadTask.id = List.range' s.started uploads.length := by
  apply List.ext_getElem
  · simp [State.newTasks]
  · intro i h₁ h₂
    simp [State.newTasks]

lemma mem_of_findTask {phase : Phase} {t : UploadTask ι D} (h : s.findTask id phase = some t) :
    t ∈ s.tasks ∧ t.id = id := by
  have ht := List.find?_some h
  simp only [decide_eq_true_eq] at ht
  exact ⟨List.mem_of_find?_eq_some h, ht.1⟩

lemma perm_cons_dropTask {t : UploadTask ι D} (ht : t ∈ s.tasks)
    (hnd : (s.tasks.map UploadTask.id).Nodup) : s.tasks.Perm (t :: (s.dropTask t.id).tasks) := by
  obtain ⟨before, after, hs⟩ := List.append_of_mem ht
  rw [hs, List.map_append, List.map_cons] at hnd
  have hkeep : ∀ u ∈ before ++ after, u.id ≠ t.id := by
    intro u hu heq
    rw [List.nodup_middle, List.nodup_cons, ← List.map_append] at hnd
    exact hnd.1 (heq ▸ List.mem_map_of_mem hu)
  have hdrop : (s.dropTask t.id).tasks = before ++ after := by
    show s.tasks.filter _ = _
    rw [hs, List.filter_append, List.filter_cons_of_neg (by simp), ← List.filter_append]
    apply List.filter_eq_self.mpr
    intro u hu
    simpa using hkeep u hu
  rw [hdrop, hs]
  exact List.perm_middle

/-! ### The books of a run -/

/-- The event that announced a task. -/
def UploadTask.announced (t : UploadTask ι D) : Event ι D :=
  .read t.id t.device t.upload.filename t.upload.finalData

lemma newTasks_announced (s : State ι D) (device : ι) (uploads : List (Upload D)) :
    ((s.newTasks device uploads).map fun t =>
      (.read t.id device t.upload.filename t.upload.finalData : Event ι D)) =
        (s.newTasks device uploads).map UploadTask.announced := by
  apply List.map_congr_left
  intro t ht
  rw [UploadTask.announced, (mem_newTasks ht).2]

structure Accounted (p : JString) (tr : List (Event ι D)) (s : State ι D) : Prop where
  /-- What was started has ended or is in flight. -/
  balance : (tr.filterMap Event.startedId).Perm
    (tr.filterMap Event.endedId ++ s.tasks.map UploadTask.id)
  started_nodup : (tr.filterMap Event.startedId).Nodup
  started_lt : ∀ id ∈ tr.filterMap Event.startedId, id < s.started
  read_isSave : ∀ id e f data, .read id e f data ∈ tr → isSaveFile f
  task : ∀ t ∈ s.tasks, t.announced ∈ tr ∧
    t.upload.snapshotName = getSnapshotName p t.upload.filename
  committed : ∀ id n data, .committed id n data ∈ tr →
    ∃ e f, .read id e f data ∈ tr ∧ n = getSnapshotName p f

namespace Accounted

lemma of_idle (h : s.tasks = []) : Accounted p [] s where
  balance := by simp [h]
  started_nodup := List.nodup_nil
  started_lt := by simp
  read_isSave := by simp
  task := by simp [h]
  committed := by simp

lemma ids_nodup (hs : Accounted p tr s) : (s.tasks.map UploadTask.id).Nodup :=
  (List.nodup_append.mp (hs.balance.nodup_iff.mp hs.started_nodup)).2.1

/-- No two uploads have the same number. -/
lemma read_unique (hs : Accounted p tr s) {e e' : ι} {f' : JString} {data data' : D}
    (h : .read id e f data ∈ tr) (h' : .read id e' f' data' ∈ tr) :
    e = e' ∧ f = f' ∧ data = data' := by
  have heq : (Event.read id e f data : Event ι D) = .read id e' f' data' := by
    have hnd := hs.started_nodup
    clear hs
    induction tr with
    | nil => cases h
    | cons ev tr ih =>
      have hhead : ∀ {e f data} {ev' : Event ι D}, ev = .read id e f data →
          ev'.startedId = some id → ev' ∈ tr → False := by
        rintro e f data ev' rfl hid hmem
        rw [List.filterMap_cons_some (by rfl), List.nodup_cons] at hnd
        exact hnd.1 (List.mem_filterMap.mpr ⟨ev', hmem, hid⟩)
      rcases List.mem_cons.mp h with h | h <;> rcases List.mem_cons.mp h' with h' | h'
      · rw [h, h']
      · exact (hhead h.symm rfl h').elim
      · exact (hhead h'.symm rfl h).elim
      · exact ih h h' ((List.sublist_cons_self ev tr).filterMap _ |>.nodup hnd)
  cases heq
  exact ⟨rfl, rfl, rfl⟩

/-- The steps that start no upload: they end some of the tasks and leave the others as they are,
but for their phase. -/
lemma ended (hs : Accounted p tr s) (hes : es.filterMap Event.startedId = [])
    (hbalance : (s.tasks.map UploadTask.id).Perm
      (es.filterMap Event.endedId ++ s'.tasks.map UploadTask.id))
    (hstarted : s'.started = s.started)
    (htask : ∀ t' ∈ s'.tasks, ∃ t ∈ s.tasks, t'.announced = t.announced ∧ t'.upload = t.upload)
    (hcommitted : ∀ id n data, .committed id n data ∈ es → ∃ t ∈ s.tasks, t.id = id ∧
      t.upload.snapshotName = n ∧ t.upload.finalData = data) : Accounted p (tr ++ es) s' where
  balance := by
    rw [List.filterMap_append, List.filterMap_append, hes, List.append_nil, List.append_assoc]
    exact hs.balance.trans (hbalance.append_left _)
  started_nodup := by
    rw [List.filterMap_append, hes, List.append_nil]
    exact hs.started_nodup
  started_lt := by
    rw [List.filterMap_append, hes, List.append_nil, hstarted]
    exact hs.started_lt
  read_isSave id e f data h := by
    rcases List.mem_append.mp h with h | h
    · exact hs.read_isSave id e f data h
    · have hid : id ∈ es.filterMap Event.startedId := List.mem_filterMap.mpr ⟨_, h, rfl⟩
      rw [hes] at hid
      cases hid
  task t' ht' := by
    obtain ⟨t, ht, hann, hup⟩ := htask t' ht'
    obtain ⟨hread, hname⟩ := hs.task t ht
    rw [hann, hup]
    exact ⟨List.mem_append_left es hread, hname⟩
  committed id n data h := by
    rcases List.mem_append.mp h with h | h
    · obtain ⟨e, f, hread, hn⟩ := hs.committed id n data h
      exact ⟨e, f, List.mem_append_left es hread, hn⟩
    · obtain ⟨t, ht, rfl, rfl, rfl⟩ := hcommitted id n data h
      obtain ⟨hread, hname⟩ := hs.task t ht
      exact ⟨t.device, t.upload.filename, List.mem_append_left es hread, hname⟩

/-- The steps that neither start nor end uploads. -/
lemma unchanged (hs : Accounted p tr s) (hstart : es.filterMap Event.startedId = [])
    (hend : es.filterMap Event.endedId = []) (htasks : s'.tasks = s.tasks)
    (hstarted : s'.started = s.started) : Accounted p (tr ++ es) s' := by
  apply hs.ended hstart _ hstarted
  · intro t' ht'
    exact ⟨t', htasks ▸ ht', rfl, rfl⟩
  · intro id n data h
    have hid : id ∈ es.filterMap Event.endedId := List.mem_filterMap.mpr ⟨_, h, rfl⟩
    rw [hend] at hid
    cases hid
  · rw [hend, htasks]
    exact List.Perm.refl _

/-- What is committed to the snapshot of `f` was read from `f`. -/
lemma mem_reads_of_mem_commits (hs : Accounted p tr s) {x : ℕ × D}
    (h : x ∈ commits (getSnapshotName p f) tr) : x ∈ reads f tr := by
  obtain ⟨e, f', hread, hname⟩ := hs.committed x.1 _ x.2 (mem_commits.mp h)
  cases getSnapshotName_injective p hname
  exact mem_reads.mpr ⟨e, hread⟩

/-- Where nothing is in flight and nothing has failed, every upload has been committed. -/
theorem committed_of_read (hs : Accounted p tr s) (hidle : s.tasks = [])
    (hfail : ∀ id, .failed id ∉ tr) {e : ι} {data : D} (h : .read id e f data ∈ tr) :
    .committed id (getSnapshotName p f) data ∈ tr := by
  have hended : id ∈ tr.filterMap Event.endedId := by
    have hbalance := hs.balance
    rw [hidle, List.map_nil, List.append_nil] at hbalance
    exact hbalance.mem_iff.mp (List.mem_filterMap.mpr ⟨_, h, rfl⟩)
  obtain ⟨ev, hev, hid⟩ := List.mem_filterMap.mp hended
  cases ev with
  | committed id' n data' =>
    cases hid
    obtain ⟨e', f', hread, rfl⟩ := hs.committed id n data' hev
    obtain ⟨_, rfl, rfl⟩ := hs.read_unique h hread
    exact hev
  | failed id' =>
    cases hid
    exact absurd hev (hfail id)
  | _ => cases hid

end Accounted

lemma Accounted.dropped (hs : Accounted p tr s) {phase : Phase} {t : UploadTask ι D}
    (ht : s.findTask id phase = some t) :
    (s.tasks.map UploadTask.id).Perm (id :: (s.dropTask id).tasks.map UploadTask.id) := by
  obtain ⟨hmem, rfl⟩ := mem_of_findTask ht
  exact (perm_cons_dropTask hmem hs.ids_nodup).map UploadTask.id

lemma Accounted.update [FileData D] (hs : Accounted p tr s) {device : ι}
    {uploads : List (Upload D)} {dir : Directory D}
    (hcap : ∀ u ∈ uploads, u.Captures p s.now dir) :
    Accounted p (tr ++ (s.newTasks device uploads).map UploadTask.announced)
      (s.startUploads device uploads) := by
  have hstart : ((s.newTasks device uploads).map UploadTask.announced).filterMap
      Event.startedId = List.range' s.started uploads.length := by
    rw [List.filterMap_map, ← newTasks_map_id s device, ← List.filterMap_eq_map]
    rfl
  have hend : ((s.newTasks device uploads).map UploadTask.announced).filterMap
      Event.endedId = [] := by
    rw [List.filterMap_map]
    exact List.filterMap_eq_nil_iff.mpr fun _ _ => rfl
  constructor
  · rw [List.filterMap_append, List.filterMap_append, hstart, hend, List.append_nil,
      State.startUploads, List.map_append, newTasks_map_id, ← List.append_assoc]
    exact hs.balance.append_right _
  · rw [List.filterMap_append, hstart]
    refine List.nodup_append.mpr ⟨hs.started_nodup, List.nodup_range', ?_⟩
    intro id hid id' hid'
    have hlt := hs.started_lt id hid
    have hle := (List.mem_range'_1.mp hid').1
    omega
  · rw [List.filterMap_append, hstart]
    intro id hid
    show id < s.started + uploads.length
    rcases List.mem_append.mp hid with hid | hid
    · have hlt := hs.started_lt id hid
      omega
    · exact (List.mem_range'_1.mp hid).2
  · intro id e f data h
    rcases List.mem_append.mp h with h | h
    · exact hs.read_isSave id e f data h
    · obtain ⟨t, ht, heq⟩ := List.mem_map.mp h
      cases heq
      exact (hcap _ (mem_newTasks ht).1).isSave
  · intro t ht
    rcases List.mem_append.mp ht with ht | ht
    · obtain ⟨hread, hname⟩ := hs.task t ht
      exact ⟨List.mem_append_left _ hread, hname⟩
    · exact ⟨List.mem_append_right _ (List.mem_map_of_mem ht), (hcap _ (mem_newTasks ht).1).name⟩
  · intro id n data h
    rcases List.mem_append.mp h with h | h
    · obtain ⟨e, f, hread, hn⟩ := hs.committed id n data h
      exact ⟨e, f, List.mem_append_left _ hread, hn⟩
    · obtain ⟨t, _, heq⟩ := List.mem_map.mp h
      cases heq

section

variable [DecidableEq ι] [FileData D]

theorem Step.accounted (h : Step p s a s' es) (hs : Accounted p tr s) :
    Accounted p (tr ++ es) s' := by
  cases h with
  | tick => exact hs.unchanged rfl rfl rfl rfl
  | gameWrite => exact hs.unchanged rfl rfl rfl rfl
  | migrate device child out hnow =>
    split_ifs
    · exact hs.unchanged rfl rfl rfl rfl
    · exact hs.unchanged rfl rfl rfl rfl
  | update device files unreadable uploads hlist huploads =>
    rw [newTasks_announced]
    apply hs.update
    intro u hu
    rw [huploads] at hu
    exact captures_of_mem_updateSaveFiles hu
  | uploadOpened id opened t ht hopened =>
    obtain ⟨hmem, rfl⟩ := mem_of_findTask ht
    refine hs.ended rfl (hs.dropped ht) rfl ?_ ?_
    · intro t' ht'
      rcases List.mem_cons.mp ht' with rfl | ht'
      · exact ⟨t, hmem, rfl, rfl⟩
      · exact ⟨t', (List.mem_filter.mp ht').1, rfl, rfl⟩
    · simp
  | uploadLost id opened t ht hopened =>
    refine hs.ended rfl (hs.dropped ht) rfl ?_ ?_
    · intro t' ht'
      exact ⟨t', (List.mem_filter.mp ht').1, rfl, rfl⟩
    · simp
  | committed id t ht =>
    refine hs.ended rfl (hs.dropped ht) rfl ?_ ?_
    · intro t' ht'
      exact ⟨t', (List.mem_filter.mp ht').1, rfl, rfl⟩
    · intro id' n data h
      cases List.mem_singleton.mp h
      exact ⟨t, (mem_of_findTask ht).1, (mem_of_findTask ht).2, rfl, rfl⟩
  | commitFailed id t ht =>
    refine hs.ended rfl (hs.dropped ht) rfl ?_ ?_
    · intro t' ht'
      exact ⟨t', (List.mem_filter.mp ht').1, rfl, rfl⟩
    · simp
  | restart device =>
    have hend : ((s.tasks.filter (State.dying device)).map fun t =>
        (.failed t.id : Event ι D)).filterMap Event.endedId =
          (s.tasks.filter (State.dying device)).map UploadTask.id := by
      rw [List.filterMap_map, ← List.filterMap_eq_map]
      rfl
    refine hs.ended ?_ ?_ rfl ?_ ?_
    · rw [List.filterMap_map]
      exact List.filterMap_eq_nil_iff.mpr fun _ _ => rfl
    · rw [hend, ← List.map_append]
      exact (List.filter_append_perm (State.dying device) s.tasks).symm.map UploadTask.id
    · intro t' ht'
      exact ⟨t', (List.mem_filter.mp ht').1, rfl, rfl⟩
    · intro id n data h
      obtain ⟨t, _, heq⟩ := List.mem_map.mp h
      cases heq
  | list => exact hs.unchanged rfl rfl rfl rfl
  | download device dl revision out c hdl hc =>
    cases out.handed c.data with
    | none => exact hs.unchanged rfl rfl rfl rfl
    | some data => exact hs.unchanged rfl rfl rfl rfl

/-- A step adds its commits to the snapshots and nothing else. -/
theorem Step.cloud_eq (h : Step p s a s' es) (n : JString) :
    (s'.cloud n).map Commit.data =
      ((commits n es).map Prod.snd).reverse ++ (s.cloud n).map Commit.data := by
  cases h with
  | committed id t ht =>
    rw [State.pushCommit_cloud]
    split_ifs with hn
    · subst hn
      simp [commits, Event.committedTo, State.dropTask]
    · simp [commits, Event.committedTo, State.dropTask, Ne.symm hn]
  | migrate device child out hnow => split_ifs <;> rfl
  | update device files unreadable uploads hlist huploads =>
    have hnone : commits n ((s.newTasks device uploads).map UploadTask.announced) = [] := by
      rw [commits, List.filterMap_map]
      exact List.filterMap_eq_nil_iff.mpr fun _ _ => rfl
    rw [newTasks_announced, hnone]
    rfl
  | restart device =>
    have hnone : commits n ((s.tasks.filter (State.dying device)).map fun t =>
        (.failed t.id : Event ι D)) = [] := by
      rw [commits, List.filterMap_map]
      exact List.filterMap_eq_nil_iff.mpr fun _ _ => rfl
    rw [hnone]
    rfl
  | download device dl revision out c hdl hc => cases out.handed c.data <;> rfl
  | _ => rfl

variable {ok : State ι D → Action ι D → Prop}

theorem accounted_of_run (hidle : s₀.tasks = []) (h : (system ι D p).Run ok s₀ tr s) :
    Accounted p tr s := by
  refine h.invariant (Accounted p) (.of_idle hidle) ?_
  intro tr s a s' es _ hs _ hstep
  exact (Step.of_step hstep).accounted hs

/-- The contents of a snapshot are those of its commits, the last one first. -/
theorem cloud_eq_of_run (h : (system ι D p).Run ok s₀ tr s) (n : JString) :
    (s.cloud n).map Commit.data =
      ((commits n tr).map Prod.snd).reverse ++ (s₀.cloud n).map Commit.data := by
  refine h.invariant (fun tr s => (s.cloud n).map Commit.data =
    ((commits n tr).map Prod.snd).reverse ++ (s₀.cloud n).map Commit.data) rfl ?_
  intro tr s a s' es _ hs _ hstep
  rw [(Step.of_step hstep).cloud_eq n, hs, commits, commits, commits, List.filterMap_append,
    List.map_append, List.reverse_append, List.append_assoc]

/-- Once something has been committed to the snapshot of `f`, it holds what was committed last. -/
theorem Accounted.exists_last_commit (hs : Accounted p tr s) (h : (system ι D p).Run ok s₀ tr s)
    {x : ℕ × D} (hx : x ∈ commits (getSnapshotName p f) tr) :
    ∃ last, (commits (getSnapshotName p f) tr).getLast? = some last ∧ last ∈ reads f tr ∧
      s.cloudContents (getSnapshotName p f) = some last.2 := by
  obtain ⟨last, hlast⟩ := Option.isSome_iff_exists.mp
    (List.getLast?_isSome.mpr (List.ne_nil_of_mem hx))
  refine ⟨last, hlast, hs.mem_reads_of_mem_commits (List.mem_of_getLast? hlast), ?_⟩
  rw [State.cloudContents, ← List.head?_map, cloud_eq_of_run h, List.head?_append,
    List.head?_reverse, List.getLast?_map, hlast]
  rfl

end

end AndroidMkxp.Sync
