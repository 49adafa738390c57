import AndroidMkxp.Sync.Trace

/-!
# What uploads leave in the cloud

`updateSaveFiles` reads the bytes of an upload when it is called and commits them in a later
callback. Nothing orders the callbacks of two uploads of one file, so a snapshot ends up with the
bytes of the upload whose commit lands last, whichever call read them. And nothing remembers that a
file has not been uploaded: a file reaches the cloud only through a call within 15 seconds of its
last write.
-/

namespace AndroidMkxp.Sync

open Foundation

section

variable {ι D : Type} [DecidableEq ι] [FileData D] {p f : JString} {s s' s₀ : State ι D}
  {a : Action ι D} {tr es : List (Event ι D)} {ok : State ι D → Action ι D → Prop}

/-! ### Files and reads -/

/-- A local file changes only with an event that names it. -/
theorem Step.lookup_eq (h : Step p s a s' es) {e : ι} (hwrote : .wrote e f ∉ es)
    (hhanded : ∀ data, .handed e f data ∉ es) :
    (s'.directory e).lookup f = (s.directory e).lookup f := by
  cases h with
  | gameWrite device filename data hfile =>
    rw [State.writeFile_directory]
    split_ifs with he
    · subst he
      apply AList.lookup_insert_ne
      rintro rfl
      exact hwrote (List.mem_singleton.mpr rfl)
    · rfl
  | migrate device child out hnow =>
    rw [State.setDirectory_directory]
    split_ifs with he
    · subst he
      apply migrateChild_lookup_of_ne
      rintro hm rfl
      rw [if_pos hm] at hwrote
      exact hwrote (List.mem_singleton.mpr rfl)
    · rfl
  | download device dl revision out c hdl hc =>
    rw [State.setDirectory_directory]
    split_ifs with he
    · subst he
      rcases onSnapshotOpened_lookup s.now dl c.data out (s.directory e) f with
        hsame | ⟨rfl, left, m, hlanded, _⟩
      · exact hsame
      · obtain ⟨data, hout, _⟩ := DownloadOutcome.landed_eq_some_iff.mp hlanded
        rw [hout] at hhanded
        exact absurd (List.mem_singleton.mpr rfl) (hhanded data)
    · rfl
  | _ => rfl

/-- The event `read` carries the contents that the local file has at the moment of the call. -/
theorem Step.contents_of_read (h : Step p s a s' es) {id : ℕ} {e : ι} {data : D}
    (hread : .read id e f data ∈ es) :
    ∃ files unreadable, a = .update e files unreadable ∧
      (s.directory e).contents f = some data := by
  cases h with
  | update device files unreadable uploads hlist huploads =>
    obtain ⟨t, ht, heq⟩ := List.mem_map.mp hread
    cases heq
    have hu := (mem_newTasks ht).1
    rw [huploads] at hu
    refine ⟨files, unreadable, rfl, ?_⟩
    rw [Directory.contents, (captures_of_mem_updateSaveFiles hu).fileAt]
    rfl
  | migrate device child out hnow => split_ifs at hread <;> simp at hread
  | restart device => simp at hread
  | download device dl revision out c hdl hc => simp at hread
  | _ => simp at hread

/-- A call starts an upload of every save file in its window that it can list and read. -/
lemma exists_read_iff {device : ι} {files : Option (List JString)} {unreadable : List JString}
    {data : D} (h : step p s (.update device files unreadable) = some (s', es)) :
    (∃ id, .read id device f data ∈ es) ↔ files.isSome ∧ isSaveFile f ∧ f ∉ unreadable ∧
      ∃ m, (s.directory device).fileAt f = some (data, m) ∧ m > s.now - 15000 := by
  cases Step.of_step h with
  | update _ _ _ uploads hlist huploads =>
    constructor
    · rintro ⟨id, hread⟩
      obtain ⟨t, ht, heq⟩ := List.mem_map.mp hread
      cases heq
      have hu := (mem_newTasks ht).1
      rw [huploads] at hu
      cases files with
      | none => cases hu
      | some files =>
        obtain ⟨_, hreadable, hcapt⟩ := mem_updateSaveFiles_iff.mp hu
        exact ⟨rfl, hcapt.isSave, hreadable, _, hcapt.fileAt, hcapt.window⟩
    · rintro ⟨hfiles, hsave, hreadable, m, hf, hm⟩
      obtain ⟨files, rfl⟩ := Option.isSome_iff_exists.mp hfiles
      have hlisted : f ∈ files := by
        refine hlist.mem_iff.mpr (AList.mem_keys.mp (AList.lookup_isSome.mp ?_))
        rw [Option.isSome_iff_ne_none]
        intro hnone
        rw [Directory.fileAt_eq_none_of_lookup hnone] at hf
        cases hf
      have hu : (⟨f, getSnapshotName p f, data, m⟩ : Upload D) ∈
          updateSaveFiles p s.now (s.directory device) unreadable (some files) :=
        mem_updateSaveFiles_iff.mpr ⟨hlisted, hreadable, hf, hm, hsave, rfl⟩
      rw [← huploads] at hu
      obtain ⟨i, hi, hget⟩ := List.getElem_of_mem hu
      refine ⟨s.started + i, List.mem_map.mpr
        ⟨⟨s.started + i, device, uploads[i], .opening⟩, List.mem_mapIdx.mpr ⟨i, hi, rfl⟩, ?_⟩⟩
      rw [hget]

/-- While nobody touches a file, it stays as it is. -/
theorem lookup_eq_of_run (h : (system ι D p).Run ok s₀ tr s) {e : ι} (hwrote : .wrote e f ∉ tr)
    (hhanded : ∀ data, .handed e f data ∉ tr) :
    (s.directory e).lookup f = (s₀.directory e).lookup f := by
  have hinv : .wrote e f ∉ tr → (∀ data, .handed e f data ∉ tr) →
      (s.directory e).lookup f = (s₀.directory e).lookup f := by
    refine h.invariant (fun tr s => .wrote e f ∉ tr → (∀ data, .handed e f data ∉ tr) →
      (s.directory e).lookup f = (s₀.directory e).lookup f) (fun _ _ => rfl) ?_
    intro tr s a s' es _ ih _ hstep hwrote hhanded
    simp only [List.mem_append, not_or] at hwrote hhanded
    rw [(Step.of_step hstep).lookup_eq hwrote.2 fun data => (hhanded data).2,
      ih hwrote.1 fun data => (hhanded data).1]
  exact hinv hwrote hhanded

end

/-! ### The last upload -/

section

variable {ι D : Type} [DecidableEq ι] [FileData D] {p : JString}

/-- Game writes, calls of `updateSaveFiles` and the callbacks of their uploads, which succeed. -/
def Action.isUpload : Action ι D → Bool
  | .tick _ | .gameWrite _ _ _ | .update _ _ _ => true
  | .openUpload _ opened => uploadProceeds opened
  | .commit _ succeeds   => succeeds
  | _                    => false

/-- Once no task is in flight, the cloud holds what the last call that read `f` read. -/
def LastReadWins (ι D : Type) [DecidableEq ι] [FileData D] (p : JString) : Prop :=
  ∀ (s₀ s : State ι D) (tr : List (Event ι D)), s₀.tasks = [] →
    (system ι D p).Run (fun _ a => a.isUpload) s₀ tr s → s.tasks = [] →
    ∀ f id data, (reads f tr).getLast? = some (id, data) →
      s.cloudContents (getSnapshotName p f) = some data

/-- Once no task is in flight, the cloud holds what the upload of `f` that was committed last has
read; if that is the upload started last, what the last call that read `f` read. -/
def LastCommitWins (ι D : Type) [DecidableEq ι] [FileData D] (p : JString) : Prop :=
  ∀ (s₀ s : State ι D) (tr : List (Event ι D)), s₀.tasks = [] →
    (system ι D p).Run (fun _ a => a.isUpload) s₀ tr s → s.tasks = [] →
    ∀ f id data, (reads f tr).getLast? = some (id, data) →
      ∃ id' data', (commits (getSnapshotName p f) tr).getLast? = some (id', data') ∧
        (id', data') ∈ reads f tr ∧ s.cloudContents (getSnapshotName p f) = some data' ∧
        (id' = id → s.cloudContents (getSnapshotName p f) = some data)

/-- Without failing callbacks no upload fails. -/
lemma Step.not_failed {s s' : State ι D} {a : Action ι D} {es : List (Event ι D)}
    (h : Step p s a s' es) (ha : a.isUpload) (id : ℕ) : .failed id ∉ es := by
  cases h with
  | uploadLost id' opened t ht hopened =>
    rw [Action.isUpload, hopened] at ha
    cases ha
  | migrate => cases ha
  | commitFailed => cases ha
  | restart => cases ha
  | download => cases ha
  | _ => simp

theorem lastCommitWins : LastCommitWins ι D p := by
  intro s₀ s tr hidle₀ hrun hidle f id data hlast
  have hacc : Accounted p tr s := accounted_of_run hidle₀ hrun
  have hfail : ∀ id, .failed id ∉ tr := by
    intro id h
    obtain ⟨_, _, _, _, _, _, _, ha, hstep, hmem, _⟩ := hrun.exists_step_of_mem h
    exact (Step.of_step hstep).not_failed ha id hmem
  obtain ⟨e, hread⟩ := mem_reads.mp (List.mem_of_getLast? hlast)
  -- the upload started last has been committed, so there is a last commit
  have hcommitted := mem_commits.mpr (hacc.committed_of_read hidle hfail hread)
  obtain ⟨⟨id', data'⟩, hlast', hread', hcloud⟩ := hacc.exists_last_commit hrun hcommitted
  refine ⟨id', data', hlast', hread', hcloud, ?_⟩
  rintro rfl
  obtain ⟨e', hread'⟩ := mem_reads.mp hread'
  rw [hcloud, (hacc.read_unique hread' hread).2.2]

end

/-- A device at time 0, with no files and nothing in the cloud. -/
def newDevice : State Unit (List UInt8) where
  now := 0
  directory _ := ∅
  cloud _ := []
  tasks := []
  downloads _ := []
  started := 0
  gameWrites := 0

/-- The game saves twice, and the upload of the second save overtakes that of the first one. -/
theorem not_lastReadWins : ¬ LastReadWins Unit (List UInt8) "org.ancurio.mkxp".toList := by
  intro h
  obtain ⟨tr, s, hrun, hcheck⟩ := Machine.Run.exists_of_exec
    (system Unit (List UInt8) "org.ancurio.mkxp".toList) (fun _ a => a.isUpload) newDevice
    [.gameWrite () "Save1.rxdata".toList [1],
      .update () (some ["Save1.rxdata".toList]) [],
      .tick 1000,
      .gameWrite () "Save1.rxdata".toList [2],
      .update () (some ["Save1.rxdata".toList]) [],
      .openUpload 0 .opens,
      .openUpload 1 .opens,
      .commit 1 true,
      .commit 0 true]
    (fun s tr => s.tasks.isEmpty ∧ (reads "Save1.rxdata".toList tr).getLast? = some (1, [2]) ∧
      s.cloudContents "org.ancurio.mkxp_Save1.rxdata".toList = some [1])
    (by decide)
  obtain ⟨hidle, hlast, hfirst⟩ := hcheck
  have hcloud := h newDevice s tr rfl hrun (List.isEmpty_iff.mp hidle) _ 1 [2] hlast
  exact absurd (hfirst.symm.trans hcloud) (by decide)

/-! ### Files that reach the cloud -/

section

variable {D : Type} [FileData D] {p f : JString} {s₁ s₂ s : State Unit D}
  {es tr : List (Event Unit D)} {files unreadable : List JString} {data : D} {m : ℤ}

/-- The steps of a device on which no call of `updateSaveFiles` is made before the uploads of the
last one have ended. -/
def SaveStep (s : State Unit D) : Action Unit D → Prop
  | .update _ _ _       => s.tasks = []
  | .restart _          => False
  | .list _ _           => False
  | .download _ _ _ _   => False
  | _                   => True

/-- In every state where all uploads of the last call have been committed, the cloud holds every
save file that has not been written since that call. -/
def SavesReachCloud (D : Type) [FileData D] (p : JString) : Prop :=
  ∀ (s₀ s₁ s₂ s : State Unit D) (tr₁ es tr₂ : List (Event Unit D)) (files : List JString),
    s₀.tasks = [] → (system Unit D p).Run SaveStep s₀ tr₁ s₁ → SaveStep s₁ (.update () files []) →
    step p s₁ (.update () files []) = some (s₂, es) →
    (system Unit D p).Run (fun s a => SaveStep s a ∧ ∀ e fs u, a ≠ .update e fs u) s₂ tr₂ s →
    (∀ id e f data, .read id e f data ∈ es → ∃ n data', .committed id n data' ∈ tr₂) →
    ∀ f data, isSaveFile f → .wrote () f ∉ tr₂ → (s.directory ()).contents f = some data →
      s.cloudContents (getSnapshotName p f) = some data

/-- Downloads are not part of these runs. -/
lemma not_handed_of_run {s₀ : State Unit D} (h : (system Unit D p).Run SaveStep s₀ tr s) (e : Unit)
    (data : D) : .handed e f data ∉ tr := by
  intro hmem
  obtain ⟨_, _, _, _, _, _, _, ha, hstep, hmem, _⟩ := h.exists_step_of_mem hmem
  cases Step.of_step hstep with
  | migrate => split_ifs at hmem <;> simp at hmem
  | download => exact ha
  | _ => simp at hmem

/-- While `f` is not written, every upload of it reads the same bytes. -/
lemma eq_of_read (h : (system Unit D p).Run SaveStep s₁ tr s)
    (hdata : (s₁.directory ()).contents f = some data) (hwrote : .wrote () f ∉ tr) {id : ℕ}
    {e : Unit} {data' : D} (hread : .read id e f data' ∈ tr) : data' = data := by
  obtain ⟨tr₁, s₂, a, es, s₃, tr₂, hrun, _, hstep, hmem, _, rfl⟩ := h.exists_step_of_mem hread
  obtain ⟨_, _, _, hcontents⟩ := (Step.of_step hstep).contents_of_read hmem
  have hkept : (s₂.directory ()).lookup f = (s₁.directory ()).lookup f := by
    apply lookup_eq_of_run hrun
    · intro hw
      exact hwrote (List.mem_append_left _ hw)
    · exact not_handed_of_run hrun ()
  have hsame : (s₂.directory ()).contents f = some data := by
    rw [← hdata]
    exact Directory.contents_congr hkept
  exact Option.some.inj (hcontents.symm.trans hsame)

lemma not_wrote_of_call {call : Option (List JString)}
    (h : step p s₁ (.update () call unreadable) = some (s₂, es)) : .wrote () f ∉ es := by
  cases Step.of_step h with
  | update => simp

/-- A call finds the save file `f` modified less than 15 seconds ago and can read it. If its upload
is committed, the cloud holds the local contents until `f` is written again, whatever later calls
upload. -/
theorem cloudContents_of_uploaded (hidle : SaveStep s₁ (.update () (some files) unreadable))
    (hcall : step p s₁ (.update () (some files) unreadable) = some (s₂, es))
    (hrun : (system Unit D p).Run SaveStep s₂ tr s) (hsave : isSaveFile f)
    (hf : (s₁.directory ()).fileAt f = some (data, m)) (hm : m > s₁.now - 15000)
    (hreadable : f ∉ unreadable) (hwrote : .wrote () f ∉ tr)
    (hcommitted : ∀ id data', .read id () f data' ∈ es → ∃ n data'', .committed id n data'' ∈ tr) :
    (s.directory ()).contents f = some data ∧
      s.cloudContents (getSnapshotName p f) = some data := by
  have hall : (system Unit D p).Run SaveStep s₁ (es ++ tr) s :=
    (Machine.Run.single hidle hcall).trans hrun
  have hacc : Accounted p (es ++ tr) s := accounted_of_run hidle hall
  obtain ⟨id, hread⟩ := (exists_read_iff hcall).mpr ⟨rfl, hsave, hreadable, m, hf, hm⟩
  have hcontents : (s₁.directory ()).contents f = some data := by
    rw [Directory.contents, hf]
    rfl
  have hwrote' : .wrote () f ∉ es ++ tr := by
    rw [List.mem_append, not_or]
    exact ⟨not_wrote_of_call hcall, hwrote⟩
  have hkept : (s.directory ()).lookup f = (s₁.directory ()).lookup f :=
    lookup_eq_of_run hall hwrote' (not_handed_of_run hall ())
  refine ⟨(Directory.contents_congr hkept).trans hcontents, ?_⟩
  -- the upload of this call has landed, so the snapshot has a last commit
  obtain ⟨n, data', hlanded⟩ := hcommitted id data hread
  obtain ⟨e, g, hread', rfl⟩ := hacc.committed id n data' (List.mem_append_right es hlanded)
  obtain ⟨_, rfl, rfl⟩ := hacc.read_unique (List.mem_append_left tr hread) hread'
  have hmem : (id, data) ∈ commits (getSnapshotName p f) (es ++ tr) :=
    mem_commits.mpr (List.mem_append_right es hlanded)
  obtain ⟨⟨id', data'⟩, _, hlast, hcloud⟩ := hacc.exists_last_commit hall hmem
  -- which is an upload of `f`, by this call or a later one
  obtain ⟨e', hread''⟩ := mem_reads.mp hlast
  rw [hcloud, eq_of_read hall hcontents hwrote' hread'']

end

instance {D : Type} (s : State Unit D) : ∀ a : Action Unit D, Decidable (SaveStep s a)
  | .update _ _ _       => decidable_of_iff (s.tasks.isEmpty = true) List.isEmpty_iff
  | .restart _          => isFalse id
  | .list _ _           => isFalse id
  | .download _ _ _ _   => isFalse id
  | .tick _             => isTrue trivial
  | .gameWrite _ _ _    => isTrue trivial
  | .migrate _ _ _      => isTrue trivial
  | .openUpload _ _     => isTrue trivial
  | .commit _ _         => isTrue trivial

/-- A save uploaded at once, and still in the cloud after a later call that finds it too old. -/
theorem cloudContents_of_uploaded_save1 :
    ∃ tr s, (system Unit (List UInt8) "org.ancurio.mkxp".toList).Run SaveStep newDevice tr s ∧
      s.cloudContents "org.ancurio.mkxp_Save1.rxdata".toList = some [1] := by
  obtain ⟨tr, s₁, s₂, es, hrun₁, hcall, hcheck⟩ := Machine.Run.exists_step_of_exec
    (system Unit (List UInt8) "org.ancurio.mkxp".toList) SaveStep newDevice
    [.gameWrite () "Save1.rxdata".toList [1]]
    (.update () (some ["Save1.rxdata".toList]) [])
    (fun s₁ s₂ es => s₁.tasks.isEmpty ∧
      (s₁.directory ()).fileAt "Save1.rxdata".toList = some ([1], 0) ∧ s₁.now = 0 ∧
      es = [.read 0 () "Save1.rxdata".toList [1]] ∧
      ∃ r ∈ (system Unit (List UInt8) "org.ancurio.mkxp".toList).exec SaveStep s₂
        [.openUpload 0 .opens, .commit 0 true, .tick 20000,
          .update () (some ["Save1.rxdata".toList]) []],
        r.2 = [.committed 0 "org.ancurio.mkxp_Save1.rxdata".toList [1]])
    (by decide)
  obtain ⟨hidle, hfile, hnow, hes, ⟨s, tr₂⟩, hexec, rfl⟩ := hcheck
  have hrun₂ := Machine.Run.of_exec hexec
  have hok : SaveStep s₁ (.update () (some ["Save1.rxdata".toList]) []) :=
    List.isEmpty_iff.mp hidle
  refine ⟨_, s, (hrun₁.step hok hcall).trans hrun₂, ?_⟩
  refine (cloudContents_of_uploaded hok hcall hrun₂ (by decide) hfile ?_ (by simp) ?_ ?_).2
  · rw [hnow]
    decide
  · simp
  · intro id data' hread
    simp only [hes, List.mem_singleton, Event.read.injEq] at hread
    obtain ⟨rfl, _⟩ := hread
    exact ⟨_, _, List.mem_singleton.mpr rfl⟩

/-- The only call comes 20 seconds after the write, and starts no upload. -/
theorem not_savesReachCloud : ¬ SavesReachCloud (List UInt8) "org.ancurio.mkxp".toList := by
  intro h
  obtain ⟨tr, s₁, s₂, es, hrun, hcall, hcheck⟩ := Machine.Run.exists_step_of_exec
    (system Unit (List UInt8) "org.ancurio.mkxp".toList) SaveStep newDevice
    [.gameWrite () "Save1.rxdata".toList [1], .tick 20000]
    (.update () (some ["Save1.rxdata".toList]) [])
    (fun s₁ s₂ es => s₁.tasks.isEmpty ∧ es = [] ∧
      (s₂.directory ()).contents "Save1.rxdata".toList = some [1] ∧
      s₂.cloudContents "org.ancurio.mkxp_Save1.rxdata".toList = none)
    (by decide)
  obtain ⟨hidle, rfl, hfile, hcloud⟩ := hcheck
  have hreached := h newDevice s₁ s₂ s₂ tr [] [] _ rfl hrun (List.isEmpty_iff.mp hidle) hcall .refl
    (by simp) "Save1.rxdata".toList [1] (by decide) (by simp) hfile
  exact absurd (hcloud.symm.trans hreached) (by decide)

end AndroidMkxp.Sync
