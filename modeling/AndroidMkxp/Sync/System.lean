import AndroidMkxp.Foundation.Machine
import AndroidMkxp.Saves.Download
import AndroidMkxp.Saves.Migration
import AndroidMkxp.Saves.Upload
import Mathlib.Logic.Function.Basic

/-!
# Devices sharing one account

The app running on any number of devices `ι` that write to one account, as a machine. Its actions
are what can happen next: time passes, a game writes a file, an activity makes one of the calls of
`AndroidMkxp.Saves`, or the snapshot service answers one of the tasks in flight. An action says how
the calls it makes end, so that a run is determined by its actions.

A snapshot is the list of its commits, latest first. Snapshots are never deleted, a commit is
stamped with the time it lands, and a snapshot is listed only once it has been committed.
-/

namespace AndroidMkxp.Sync

structure Commit (D : Type) where
  data : D
  timestamp : ℤ

/-- An upload waits for `open`, then for `commitAndClose`. -/
inductive Phase where
  | opening
  | committing
  deriving DecidableEq, Repr

structure UploadTask (ι D : Type) where
  id : ℕ
  device : ι
  upload : Upload D
  phase : Phase

structure State (ι D : Type) where
  now : ℤ
  directory : ι → Directory D
  cloud : JString → List (Commit D)
  tasks : List (UploadTask ι D)
  downloads : ι → List Download
  /-- The number of uploads started so far. -/
  started : ℕ
  /-- The number of files written by games so far. No step depends on it. -/
  gameWrites : ℕ

inductive Action (ι D : Type) where
  | tick (millis : ℕ)
  | gameWrite (device : ι) (filename : JString) (data : D)
  | migrate (device : ι) (child : ChildDocument D) (out : MigrateOutcome)
  | update (device : ι) (files : Option (List JString)) (unreadable : List JString)
  | openUpload (id : ℕ) (opened : OpenEnd)
  | commit (id : ℕ) (succeeds : Bool)
  /-- The process dies: its listeners are gone, what is being committed may still land. -/
  | restart (device : ι)
  /-- The success listener of `load` in `loadSaveGames`. It is called once per process, by
  `onCreate`, so the runs of one device do not overlap. -/
  | list (device : ι) (buffer : Option (List SnapshotMetadata))
  /-- The listener of one opened download; `open` delivers the given commit, latest first. -/
  | download (device : ι) (dl : Download) (revision : ℕ) (out : DownloadOutcome)

inductive Event (ι D : Type) where
  /-- A game or a migration touched a file. -/
  | wrote (device : ι) (filename : JString)
  /-- An upload was started with the bytes read from a file. -/
  | read (id : ℕ) (device : ι) (filename : JString) (data : D)
  | committed (id : ℕ) (snapshotName : JString) (data : D)
  | failed (id : ℕ)
  /-- A download callback handed bytes to `Files.write`. -/
  | handed (device : ι) (filename : JString) (data : D)
  deriving DecidableEq

section

variable {ι D : Type} [DecidableEq ι]

namespace State

def setDirectory (s : State ι D) (device : ι) (dir : Directory D) : State ι D :=
  { s with directory := Function.update s.directory device dir }

def writeFile (s : State ι D) (device : ι) (filename : JString) (data : D) : State ι D :=
  { s.setDirectory device ((s.directory device).putFile filename data s.now) with
    gameWrites := s.gameWrites + 1 }

/-- The tasks of the uploads started by one call. -/
def newTasks (s : State ι D) (device : ι) (uploads : List (Upload D)) : List (UploadTask ι D) :=
  uploads.mapIdx fun i u => ⟨s.started + i, device, u, .opening⟩

def startUploads (s : State ι D) (device : ι) (uploads : List (Upload D)) : State ι D :=
  { s with
    tasks := s.tasks ++ s.newTasks device uploads
    started := s.started + uploads.length }

def findTask (s : State ι D) (id : ℕ) (phase : Phase) : Option (UploadTask ι D) :=
  s.tasks.find? fun t => t.id = id ∧ t.phase = phase

def dropTask (s : State ι D) (id : ℕ) : State ι D :=
  { s with tasks := s.tasks.filter fun t => t.id ≠ id }

def taskOpened (s : State ι D) (t : UploadTask ι D) : State ι D :=
  { s with tasks := { t with phase := .committing } :: s.tasks.filter fun t' => t'.id ≠ t.id }

def pushCommit (s : State ι D) (t : UploadTask ι D) : State ι D :=
  { s with
    cloud := Function.update s.cloud t.upload.snapshotName
      (⟨t.upload.finalData, s.now⟩ :: s.cloud t.upload.snapshotName) }

/-- The tasks that die with the process on `device`. -/
def dying (device : ι) (t : UploadTask ι D) : Bool :=
  decide (t.device = device) && decide (t.phase = .opening)

def kill (s : State ι D) (device : ι) : State ι D :=
  { s with
    tasks := s.tasks.filter fun t => !dying device t
    downloads := Function.update s.downloads device [] }

def setDownloads (s : State ι D) (device : ι) (dls : List Download) : State ι D :=
  { s with downloads := Function.update s.downloads device dls }

/-- `listFiles()` returns `null` or all names of the directory, in any order. -/
def CanList (s : State ι D) (device : ι) : Option (List JString) → Prop
  | none       => True
  | some files => files.Perm (s.directory device).keys

/-- The listing names each snapshot once and gives the time of one of its commits. It may be
behind the latest commit. -/
def CanLoad (s : State ι D) : Option (List SnapshotMetadata) → Prop
  | none        => True
  | some buffer => (buffer.map SnapshotMetadata.uniqueName).Nodup ∧
      ∀ md ∈ buffer, ∃ c ∈ s.cloud md.uniqueName, c.timestamp = md.lastModifiedTimestamp

lemma setDirectory_directory (s : State ι D) (device e : ι) (dir : Directory D) :
    (s.setDirectory device dir).directory e = if e = device then dir else s.directory e :=
  Function.update_apply s.directory device dir e

lemma writeFile_directory (s : State ι D) (device e : ι) (filename : JString) (data : D) :
    (s.writeFile device filename data).directory e =
      if e = device then (s.directory device).putFile filename data s.now else s.directory e :=
  s.setDirectory_directory device e _

lemma setDownloads_downloads (s : State ι D) (device e : ι) (dls : List Download) :
    (s.setDownloads device dls).downloads e = if e = device then dls else s.downloads e :=
  Function.update_apply s.downloads device dls e

lemma kill_downloads (s : State ι D) (device e : ι) :
    (s.kill device).downloads e = if e = device then [] else s.downloads e :=
  Function.update_apply s.downloads device [] e

lemma mem_downloads_of_kill {s : State ι D} {device e : ι} {dl : Download}
    (h : dl ∈ (s.kill device).downloads e) : dl ∈ s.downloads e := by
  rw [kill_downloads] at h
  split_ifs at h
  · cases h
  · exact h

lemma mem_downloads_of_erase {s : State ι D} {device e : ι} {dl dl' : Download}
    (h : dl' ∈ (s.setDownloads device ((s.downloads device).erase dl)).downloads e) :
    dl' ∈ s.downloads e := by
  rw [setDownloads_downloads] at h
  split_ifs at h with he
  · subst he
    exact List.mem_of_mem_erase h
  · exact h

omit [DecidableEq ι] in
lemma pushCommit_cloud (s : State ι D) (t : UploadTask ι D) (n : JString) :
    (s.pushCommit t).cloud n =
      if n = t.upload.snapshotName then
        ⟨t.upload.finalData, s.now⟩ :: s.cloud t.upload.snapshotName
      else s.cloud n :=
  Function.update_apply s.cloud t.upload.snapshotName _ n

instance (s : State ι D) (device : ι) (files : Option (List JString)) :
    Decidable (s.CanList device files) :=
  match files with
  | none   => isTrue trivial
  | some _ => inferInstanceAs (Decidable (List.Perm _ _))

instance (s : State ι D) (buffer : Option (List SnapshotMetadata)) :
    Decidable (s.CanLoad buffer) :=
  match buffer with
  | none   => isTrue trivial
  | some _ => inferInstanceAs (Decidable (_ ∧ _))

end State

/-- The upload part of an opened snapshot: a conflict and missing data end it. -/
def uploadProceeds : OpenEnd → Bool
  | .opens => true
  | _      => false

variable [FileData D]

/-- One step of the app and the service, for the apps of package `savePackageName`. -/
def step (savePackageName : JString) (s : State ι D) :
    Action ι D → Option (State ι D × List (Event ι D))
  | .tick millis => some ({ s with now := s.now + millis }, [])
  | .gameWrite device filename data =>
    match (s.directory device).lookup filename with
    | some .folder => none
    | _            => some (s.writeFile device filename data, [.wrote device filename])
  | .migrate device child out =>
    if out.now = s.now then
      some (s.setDirectory device ((migrateChild child out).exec (s.directory device)).2,
        if child.matches then [.wrote device child.name] else [])
    else none
  | .update device files unreadable =>
    if s.CanList device files then
      let uploads := updateSaveFiles savePackageName s.now (s.directory device) unreadable files
      some (s.startUploads device uploads, (s.newTasks device uploads).map fun t =>
        .read t.id device t.upload.filename t.upload.finalData)
    else none
  | .openUpload id opened =>
    match s.findTask id .opening with
    | none   => none
    | some t =>
      if uploadProceeds opened then some (s.taskOpened t, [])
      else some (s.dropTask id, [.failed id])
  | .commit id succeeds =>
    match s.findTask id .committing with
    | none   => none
    | some t =>
      if succeeds then
        some ((s.dropTask id).pushCommit t,
          [.committed id t.upload.snapshotName t.upload.finalData])
      else some (s.dropTask id, [.failed id])
  | .restart device =>
    some (s.kill device, (s.tasks.filter (State.dying device)).map fun t => .failed t.id)
  | .list device buffer =>
    if s.downloads device = [] ∧ s.CanLoad buffer then
      some (s.setDownloads device
        (selectSnapshots savePackageName (s.directory device) buffer), [])
    else none
  | .download device dl revision out =>
    if dl ∈ s.downloads device then
      match (s.cloud dl.metadata.uniqueName)[revision]? with
      | none   => none
      | some c =>
        some ((s.setDownloads device ((s.downloads device).erase dl)).setDirectory device
            ((onSnapshotOpened s.now dl (out.opened.result c.data) out).exec
              (s.directory device)).2,
          (out.handed c.data).toList.map fun data => .handed device dl.filename data)
    else none

/-- The steps, with what enables them. -/
inductive Step (savePackageName : JString) (s : State ι D) :
    Action ι D → State ι D → List (Event ι D) → Prop where
  | tick (millis : ℕ) : Step savePackageName s (.tick millis) { s with now := s.now + millis } []
  | gameWrite (device : ι) (filename : JString) (data : D)
      (hfile : (s.directory device).lookup filename ≠ some .folder) :
      Step savePackageName s (.gameWrite device filename data)
        (s.writeFile device filename data) [.wrote device filename]
  | migrate (device : ι) (child : ChildDocument D) (out : MigrateOutcome)
      (hnow : out.now = s.now) :
      Step savePackageName s (.migrate device child out)
        (s.setDirectory device ((migrateChild child out).exec (s.directory device)).2)
        (if child.matches then [.wrote device child.name] else [])
  | update (device : ι) (files : Option (List JString)) (unreadable : List JString)
      (uploads : List (Upload D)) (hlist : s.CanList device files)
      (huploads : uploads =
        updateSaveFiles savePackageName s.now (s.directory device) unreadable files) :
      Step savePackageName s (.update device files unreadable) (s.startUploads device uploads)
        ((s.newTasks device uploads).map fun t =>
          .read t.id device t.upload.filename t.upload.finalData)
  | uploadOpened (id : ℕ) (opened : OpenEnd) (t : UploadTask ι D)
      (ht : s.findTask id .opening = some t) (hopened : uploadProceeds opened) :
      Step savePackageName s (.openUpload id opened) (s.taskOpened t) []
  | uploadLost (id : ℕ) (opened : OpenEnd) (t : UploadTask ι D)
      (ht : s.findTask id .opening = some t) (hopened : uploadProceeds opened = false) :
      Step savePackageName s (.openUpload id opened) (s.dropTask id) [.failed id]
  | committed (id : ℕ) (t : UploadTask ι D) (ht : s.findTask id .committing = some t) :
      Step savePackageName s (.commit id true) ((s.dropTask id).pushCommit t)
        [.committed id t.upload.snapshotName t.upload.finalData]
  | commitFailed (id : ℕ) (t : UploadTask ι D) (ht : s.findTask id .committing = some t) :
      Step savePackageName s (.commit id false) (s.dropTask id) [.failed id]
  | restart (device : ι) :
      Step savePackageName s (.restart device) (s.kill device)
        ((s.tasks.filter (State.dying device)).map fun t => .failed t.id)
  | list (device : ι) (buffer : Option (List SnapshotMetadata))
      (hidle : s.downloads device = []) (hload : s.CanLoad buffer) :
      Step savePackageName s (.list device buffer)
        (s.setDownloads device (selectSnapshots savePackageName (s.directory device) buffer)) []
  | download (device : ι) (dl : Download) (revision : ℕ) (out : DownloadOutcome) (c : Commit D)
      (hdl : dl ∈ s.downloads device)
      (hc : (s.cloud dl.metadata.uniqueName)[revision]? = some c) :
      Step savePackageName s (.download device dl revision out)
        ((s.setDownloads device ((s.downloads device).erase dl)).setDirectory device
          ((onSnapshotOpened s.now dl (out.opened.result c.data) out).exec (s.directory device)).2)
        ((out.handed c.data).toList.map fun data => .handed device dl.filename data)

lemma Step.of_step {p : JString} {s s' : State ι D} {a : Action ι D} {es : List (Event ι D)}
    (h : step p s a = some (s', es)) : Step p s a s' es := by
  cases a with
  | tick millis =>
    cases h
    exact .tick millis
  | gameWrite device filename data =>
    simp only [step] at h
    split at h
    · cases h
    · next hfile =>
      cases h
      exact .gameWrite device filename data hfile
  | migrate device child out =>
    simp only [step] at h
    by_cases hnow : out.now = s.now
    · rw [if_pos hnow] at h
      cases h
      exact .migrate device child out hnow
    · rw [if_neg hnow] at h
      cases h
  | update device files unreadable =>
    simp only [step] at h
    split_ifs at h with hlist
    cases h
    exact .update device files unreadable _ hlist rfl
  | openUpload id opened =>
    simp only [step] at h
    split at h
    · cases h
    · next t ht =>
      split_ifs at h with hopened
      · cases h
        exact .uploadOpened id opened t ht hopened
      · cases h
        exact .uploadLost id opened t ht (by simpa using hopened)
  | commit id succeeds =>
    simp only [step] at h
    split at h
    · cases h
    · next t ht =>
      cases succeeds with
      | true =>
        cases h
        exact .committed id t ht
      | false =>
        cases h
        exact .commitFailed id t ht
  | restart device =>
    cases h
    exact .restart device
  | list device buffer =>
    simp only [step] at h
    split_ifs at h with hlist
    cases h
    exact .list device buffer hlist.1 hlist.2
  | download device dl revision out =>
    simp only [step] at h
    split_ifs at h with hdl
    split at h
    · cases h
    · next c hc =>
      cases h
      exact .download device dl revision out c hdl hc

lemma Step.step_eq {p : JString} {s s' : State ι D} {a : Action ι D} {es : List (Event ι D)}
    (h : Step p s a s' es) : step p s a = some (s', es) := by
  cases h with
  | tick => rfl
  | gameWrite device filename data hfile => simp only [step]
  | migrate device child out hnow => simp only [step, hnow, if_true]
  | update device files unreadable uploads hlist huploads =>
    simp only [step, hlist, if_true, huploads]
  | uploadOpened id opened t ht hopened => simp only [step, ht, hopened, if_true]
  | uploadLost id opened t ht hopened =>
    simp only [step, ht, hopened, Bool.false_eq_true, if_false]
  | committed id t ht => simp only [step, ht, if_true]
  | commitFailed id t ht => simp only [step, ht, Bool.false_eq_true, if_false]
  | restart => rfl
  | list device buffer hidle hload => simp only [step, hidle, hload, and_self, if_true]
  | download device dl revision out c hdl hc => simp only [step, hdl, hc, if_true]

/-- The devices and the service as a machine. -/
def system (ι D : Type) [DecidableEq ι] [FileData D] (savePackageName : JString) :
    Foundation.Machine (State ι D) (Action ι D) (Event ι D) :=
  ⟨step savePackageName⟩

end

end AndroidMkxp.Sync
