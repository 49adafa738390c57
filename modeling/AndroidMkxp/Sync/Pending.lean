import AndroidMkxp.Foundation.Batch
import AndroidMkxp.Sync.System

/-!
# Pending downloads

The listing loop of `loadSaveGames` tests the freshness of a local file; the file is only
overwritten later, in the callback of its download. `PendingExpired` is what has to hold in between
for the test to be still valid in the callback. Everything keeps it except a game or a migration
that writes a file whose download is pending.
-/

namespace AndroidMkxp.Sync

open Foundation

variable {ι D : Type} [DecidableEq ι] {p : JString} {s s' : State ι D} {a : Action ι D}
  {es : List (Event ι D)}

/-- The downloads of one listing are for files of different names. -/
lemma selectSnapshots_filename_nodup {dir : Directory D} {buffer : List SnapshotMetadata}
    (hnd : (buffer.map SnapshotMetadata.uniqueName).Nodup) :
    ((selectSnapshots p dir (some buffer)).map Download.filename).Nodup := by
  have hsub : ((selectSnapshots p dir (some buffer)).map Download.metadata).Sublist buffer := by
    clear hnd
    induction buffer with
    | nil => exact List.Sublist.refl _
    | cons md buffer ih =>
      simp only [selectSnapshots, List.filterMap_cons] at ih ⊢
      cases hsel : selectSnapshot p dir md with
      | none => exact ih.cons md
      | some dl =>
        rw [List.map_cons, (selectSnapshot_eq_some_iff.mp hsel).1]
        exact ih.cons_cons md
  have hnames : ((selectSnapshots p dir (some buffer)).map Download.filename).map
      (getSnapshotName p) = ((selectSnapshots p dir (some buffer)).map Download.metadata).map
        SnapshotMetadata.uniqueName := by
    rw [List.map_map, List.map_map]
    apply List.map_congr_left
    intro dl hdl
    obtain ⟨md, _, hsel⟩ := List.mem_filterMap.mp hdl
    obtain ⟨rfl, hn, _⟩ := selectSnapshot_eq_some_iff.mp hsel
    exact (snapshotFilename_eq_some_iff.mp hn).1.symm
  apply List.Nodup.of_map (getSnapshotName p)
  rw [hnames]
  exact (hsub.map _).nodup hnd

/-- A download that has just been listed was selected; the others were pending before. -/
lemma State.mem_downloads_of_list {device e : ι} {buffer : Option (List SnapshotMetadata)}
    {dl : Download} (h : dl ∈ (s.setDownloads device
      (selectSnapshots p (s.directory device) buffer)).downloads e) :
    dl ∈ s.downloads e ∨ ∃ files, buffer = some files ∧ dl.metadata ∈ files ∧
      selectSnapshot p (s.directory e) dl.metadata = some dl := by
  rw [State.setDownloads_downloads] at h
  split_ifs at h with he
  · subst he
    cases buffer with
    | none => cases h
    | some files =>
      obtain ⟨md, hmem, hmd⟩ := List.mem_filterMap.mp h
      obtain ⟨rfl, _⟩ := selectSnapshot_eq_some_iff.mp hmd
      exact Or.inr ⟨files, rfl, hmem, hmd⟩
  · exact Or.inl h

/-- Every pending download is of a file of its own, read off the name of its snapshot. -/
structure PendingNamed (p : JString) (s : State ι D) : Prop where
  name : ∀ e, ∀ dl ∈ s.downloads e, snapshotFilename p dl.metadata.uniqueName = some dl.filename
  distinct : ∀ e, ((s.downloads e).map Download.filename).Nodup

/-- Every pending download is of a file of its own, which is absent or expired. -/
structure PendingExpired (p : JString) (s : State ι D) : Prop extends PendingNamed p s where
  expired : ∀ e, ∀ dl ∈ s.downloads e, ∀ data m,
    (s.directory e).fileAt dl.filename = some (data, m) →
      freshness ≤ dl.metadata.lastModifiedTimestamp - m

omit [DecidableEq ι] in
lemma PendingNamed.of_idle (h : ∀ e, s.downloads e = []) : PendingNamed p s where
  name e dl hdl := by simp [h e] at hdl
  distinct e := by simp [h e]

omit [DecidableEq ι] in
lemma PendingExpired.of_idle (h : ∀ e, s.downloads e = []) : PendingExpired p s where
  toPendingNamed := .of_idle h
  expired e dl hdl := by simp [h e] at hdl

/-- Nothing has been uploaded yet, and nothing is in flight. -/
structure EmptyAccount (s : State ι D) : Prop where
  cloud : ∀ n, s.cloud n = []
  tasks : s.tasks = []
  downloads : ∀ e, s.downloads e = []

/-- The downloads on the device of a file that is written now were listed with a timestamp at least
30 s after now. -/
def SparesDownloads (s : State ι D) (device : ι) (filename : JString) : Prop :=
  ∀ dl ∈ s.downloads device, dl.filename = filename →
    freshness ≤ dl.metadata.lastModifiedTimestamp - s.now

/-- Nobody gives a file with a pending download a modification time less than 30 s before the
listed timestamp. -/
def SparesPending (s : State ι D) : Action ι D → Prop
  | .gameWrite device filename _ => SparesDownloads s device filename
  | .migrate device child _ => child.matches → SparesDownloads s device child.name
  | _ => True

variable [FileData D]

theorem Step.pendingNamed (h : Step p s a s' es) (hs : PendingNamed p s) : PendingNamed p s' := by
  cases h with
  | restart device =>
    refine ⟨fun e dl hdl => hs.name e dl (State.mem_downloads_of_kill hdl), fun e => ?_⟩
    rw [State.kill_downloads]
    split_ifs
    · exact List.nodup_nil
    · exact hs.distinct e
  | list device buffer hidle hload =>
    refine ⟨fun e dl hdl => ?_, fun e => ?_⟩
    · rcases State.mem_downloads_of_list hdl with hold | ⟨_, _, _, hsel⟩
      · exact hs.name e dl hold
      · exact (selectSnapshot_eq_some_iff.mp hsel).2.1
    · rw [State.setDownloads_downloads]
      split_ifs
      · cases buffer with
        | none => exact List.nodup_nil
        | some buffer => exact selectSnapshots_filename_nodup hload.1
      · exact hs.distinct e
  | download device dl revision out c hdl hc =>
    refine ⟨fun e dl' hdl' => hs.name e dl' (State.mem_downloads_of_erase hdl'), fun e => ?_⟩
    show (((s.setDownloads device _).downloads e).map Download.filename).Nodup
    rw [State.setDownloads_downloads]
    split_ifs with he
    · subst he
      exact (List.erase_sublist.map _).nodup (hs.distinct e)
    · exact hs.distinct e
  | _ => exact ⟨hs.name, hs.distinct⟩

theorem Step.pendingExpired (h : Step p s a s' es) (hs : PendingExpired p s)
    (hok : SparesPending s a) : PendingExpired p s' := by
  refine ⟨h.pendingNamed hs.toPendingNamed, ?_⟩
  cases h with
  | gameWrite device filename data hfile =>
    intro e dl hdl data' m hf
    rw [State.writeFile_directory] at hf
    split_ifs at hf with he
    · subst he
      rw [Directory.fileAt_putFile] at hf
      split_ifs at hf with hn
      · cases hf
        exact hok dl hdl hn
      · exact hs.expired e dl hdl data' m hf
    · exact hs.expired e dl hdl data' m hf
  | migrate device child out hnow =>
    intro e dl hdl data m hf
    rw [State.setDirectory_directory] at hf
    split_ifs at hf with he
    · subst he
      rcases migrateChild_fileAt hf with hold | ⟨hm, hn, rfl⟩
      · exact hs.expired e dl hdl data m hold
      · rw [hnow]
        exact hok hm dl hdl hn
    · exact hs.expired e dl hdl data m hf
  | restart device =>
    exact fun e dl hdl => hs.expired e dl (State.mem_downloads_of_kill hdl)
  | list device buffer hidle hload =>
    intro e dl hdl data m hf
    -- the loop has just tested every file that it selects
    rcases State.mem_downloads_of_list hdl with hold | ⟨_, _, _, hsel⟩
    · exact hs.expired e dl hold data m hf
    · exact (selectSnapshot_eq_some_iff.mp hsel).2.2 data m hf
  | download device dl revision out c hdl hc =>
    intro e dl' hdl' data m hf
    apply hs.expired e dl' (State.mem_downloads_of_erase hdl') data m
    -- the callback touches only the file of its own download
    rw [State.setDirectory_directory] at hf
    split_ifs at hf with he
    · subst he
      have herase : dl' ∈ (s.downloads e).erase dl := by
        have hdl'' : dl' ∈ (s.setDownloads e ((s.downloads e).erase dl)).downloads e := hdl'
        rwa [State.setDownloads_downloads, if_pos rfl] at hdl''
      have hne : dl'.filename ≠ dl.filename :=
        Batch.target_ne_of_mem_erase (hs.distinct e) hdl herase
      rw [← hf]
      exact (Directory.fileAt_congr (onSnapshotOpened_lookup_of_ne hne)).symm
    · exact hf
  | _ => exact hs.expired

lemma pendingNamed_of_run {ok : State ι D → Action ι D → Prop} {s₀ : State ι D}
    {tr : List (Event ι D)} (hidle : ∀ e, s₀.downloads e = [])
    (h : (system ι D p).Run ok s₀ tr s) : PendingNamed p s := by
  refine h.invariant (fun _ s => PendingNamed p s) (.of_idle hidle) ?_
  intro _ s a s' es _ hs _ hstep
  exact (Step.of_step hstep).pendingNamed hs

/-- A game write keeps the pending downloads expired exactly if it spares them. -/
theorem gameWrite_pendingExpired_iff {device : ι} {filename : JString} {data : D}
    (h : Step p s (.gameWrite device filename data) s' es) (hs : PendingExpired p s) :
    PendingExpired p s' ↔ SparesPending s (.gameWrite device filename data) := by
  constructor
  · intro hs' dl hdl hn
    cases h
    apply hs'.expired device dl hdl data s.now
    rw [State.writeFile_directory, if_pos rfl, hn, Directory.fileAt_putFile_self]
  · exact h.pendingExpired hs

/-! ### The freshness test in the callback -/

/-- Whenever a download callback of a run hands bytes to `Files.write`, the local file is absent or
its modification time is still at least 30 s before the listed timestamp. -/
def FreshnessHolds (ι D : Type) [DecidableEq ι] [FileData D] (p : JString)
    (ok : State ι D → Action ι D → Prop) : Prop :=
  ∀ (s₀ s : State ι D) (tr : List (Event ι D)), (∀ e, s₀.downloads e = []) →
    (system ι D p).Run ok s₀ tr s →
    ∀ e dl revision out s' es data, step p s (.download e dl revision out) = some (s', es) →
      .handed e dl.filename data ∈ es →
      ∀ old m, (s.directory e).fileAt dl.filename = some (old, m) →
        30000 ≤ dl.metadata.lastModifiedTimestamp - m

/-- Every state reached while the games spare the pending downloads. -/
lemma pendingExpired_of_run {ok : State ι D → Action ι D → Prop} {s₀ : State ι D}
    {tr : List (Event ι D)} (hok : ∀ s a, ok s a → SparesPending s a)
    (hidle : ∀ e, s₀.downloads e = []) (h : (system ι D p).Run ok s₀ tr s) :
    PendingExpired p s := by
  refine h.invariant (fun _ s => PendingExpired p s) (.of_idle hidle) ?_
  intro _ s a s' es _ hs ha hstep
  exact (Step.of_step hstep).pendingExpired hs (hok s a ha)

/-- Listings, download callbacks, game writes and the passing of time. -/
def Action.isLoadOrGame : Action ι D → Bool
  | .tick _ | .gameWrite _ _ _ | .list _ _ | .download _ _ _ _ => true
  | _ => false

/-- A device about to load a snapshot of an old save, at time 100000. -/
def loading : State Unit (List UInt8) where
  now := 100000
  directory _ := Directory.putFile ∅ "Save1.rxdata".toList [1] 0
  cloud n := if n = "org.ancurio.mkxp_Save1.rxdata".toList then [⟨[9], 90000⟩] else []
  tasks := []
  downloads _ := []
  started := 0
  gameWrites := 0

end AndroidMkxp.Sync
