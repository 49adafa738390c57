import AndroidMkxp.Foundation.Replica
import AndroidMkxp.Sync.Pending
import Mathlib.Algebra.Order.Group.Int

/-!
# Rollback of saves

A download must not replace a save by an older one. The code never compares contents; it compares
the time of the latest commit with the modification time of the local file. For one save file the
devices and its snapshot are a `Foundation.Register`: the local files are the copies, the latest
commit is the master, a commit is a publication and a download callback is a fetch. So saves never
roll back as long as every commit is admitted, that is, no device holds a newer version of the file
that is 30 s old when the commit lands (`CommitsFresh`). A commit that is not admitted does roll
back a device that loads next (`rollsBack_of_stale_commit`).
-/

namespace AndroidMkxp.Sync

open Foundation

/-- Contents of a save, with the number of the game write that made them. No code reads the
number; it says which of two contents were written earlier. -/
structure Save where
  bytes : List UInt8
  serial : ℕ
  deriving DecidableEq

instance : FileData Save := ⟨fun n save => { save with bytes := save.bytes.take n }⟩

/-- The file `f` held contents before and holds earlier written ones after. -/
def RollsBack (before after : Directory Save) (f : JString) : Prop :=
  ∃ old new, before.contents f = some old ∧ after.contents f = some new ∧ new.serial < old.serial

variable {ι : Type} [DecidableEq ι] {p : JString} {s s' : State ι Save} {a : Action ι Save}
  {es : List (Event ι Save)}

/-- The steps of play: each game write gets the next number and does not fall into a
`loadSaveGames` run of its device, and `open` delivers the latest commit. -/
def PlayStep (s : State ι Save) : Action ι Save → Prop
  | .gameWrite device _ data   => data.serial = s.gameWrites + 1 ∧ s.downloads device = []
  | .migrate _ _ _             => False
  | .download _ _ revision _   => revision = 0
  | _                          => True

instance : ∀ (s : State ι Save) (a : Action ι Save), Decidable (PlayStep s a)
  | _, .gameWrite _ _ _   => inferInstanceAs (Decidable (_ ∧ _))
  | _, .migrate _ _ _     => isFalse id
  | _, .download _ _ _ _  => inferInstanceAs (Decidable (_ = _))
  | _, .tick _            => isTrue trivial
  | _, .update _ _ _      => isTrue trivial
  | _, .openUpload _ _    => isTrue trivial
  | _, .commit _ _        => isTrue trivial
  | _, .restart _         => isTrue trivial
  | _, .list _ _          => isTrue trivial

/-- When a commit lands, a device with newer contents of the file has written or downloaded them
less than 30 s before. -/
def CommitsFresh (p : JString) (s : State ι Save) : Action ι Save → Prop
  | .commit id true => ∀ t, s.findTask id .committing = some t →
      ∀ g, snapshotFilename p t.upload.snapshotName = some g →
        ∀ e save m, (s.directory e).fileAt g = some (save, m) →
          t.upload.finalData.serial < save.serial → s.now - m < 30000
  | _ => True

/-- An empty account, with the contents of local files counted among the game writes. -/
structure FreshAccount (s : State ι Save) : Prop extends EmptyAccount s where
  serial_le : ∀ e f save, (s.directory e).contents f = some save → save.serial ≤ s.gameWrites

/-- No download callback of a run replaces contents of a local file by earlier written ones. -/
def NoRollback (ι : Type) [DecidableEq ι] (p : JString)
    (ok : State ι Save → Action ι Save → Prop) : Prop :=
  ∀ (s₀ s : State ι Save) (tr : List (Event ι Save)), FreshAccount s₀ →
    (system ι Save p).Run ok s₀ tr s →
    ∀ e dl revision out s' es, ok s (.download e dl revision out) →
      step p s (.download e dl revision out) = some (s', es) →
      ∀ f, ¬ RollsBack (s.directory e) (s'.directory e) f

/-! ### The order of commits -/

/-- Commits are stamped in the order in which they land, and a pending download was listed with
the time of one of them. -/
structure CloudOrdered (s : State ι Save) : Prop where
  le_now : ∀ n, ∀ c ∈ s.cloud n, c.timestamp ≤ s.now
  sorted : ∀ n, (s.cloud n).Pairwise fun c c' => c'.timestamp ≤ c.timestamp
  listed : ∀ e, ∀ dl ∈ s.downloads e, ∃ c ∈ s.cloud dl.metadata.uniqueName,
    c.timestamp = dl.metadata.lastModifiedTimestamp

omit [DecidableEq ι] in
lemma FreshAccount.cloudOrdered (h : FreshAccount s) : CloudOrdered s where
  le_now n c hc := by simp [h.cloud n] at hc
  sorted n := by simp [h.cloud n]
  listed e dl hdl := by simp [h.downloads e] at hdl

omit [DecidableEq ι] in
/-- A snapshot's latest commit is not older than a pending listing of it. -/
lemma CloudOrdered.listed_le_head (h : CloudOrdered s) {e : ι} {dl : Download}
    (hdl : dl ∈ s.downloads e) {c : Commit Save}
    (hc : (s.cloud dl.metadata.uniqueName).head? = some c) :
    dl.metadata.lastModifiedTimestamp ≤ c.timestamp := by
  obtain ⟨c', hc', ht⟩ := h.listed e dl hdl
  obtain ⟨cs, hcs⟩ := List.head?_eq_some_iff.mp hc
  have hsorted := h.sorted dl.metadata.uniqueName
  rw [hcs] at hc' hsorted
  rw [← ht]
  rcases List.mem_cons.mp hc' with rfl | hmem
  · exact le_rfl
  · exact (List.pairwise_cons.mp hsorted).1 c' hmem

theorem Step.cloudOrdered (h : Step p s a s' es) (hs : CloudOrdered s) : CloudOrdered s' := by
  cases h with
  | tick millis =>
    refine ⟨fun n c hc => ?_, hs.sorted, hs.listed⟩
    have hle := hs.le_now n c hc
    show c.timestamp ≤ s.now + millis
    omega
  | committed id t ht =>
    have hcloud : ∀ n, ((s.dropTask id).pushCommit t).cloud n =
        if n = t.upload.snapshotName then ⟨t.upload.finalData, s.now⟩ :: s.cloud n
        else s.cloud n := fun n => by
      rw [State.pushCommit_cloud]
      split_ifs with hn
      · rw [hn]
        rfl
      · rfl
    refine ⟨fun n c hc => ?_, fun n => ?_, fun e dl hdl => ?_⟩
    · rw [hcloud] at hc
      split_ifs at hc
      · rcases List.mem_cons.mp hc with rfl | hold
        · exact le_rfl
        · exact hs.le_now n c hold
      · exact hs.le_now n c hc
    · rw [hcloud]
      split_ifs
      · exact List.pairwise_cons.mpr ⟨fun c hc => hs.le_now n c hc, hs.sorted n⟩
      · exact hs.sorted n
    · obtain ⟨c, hc, hts⟩ := hs.listed e dl hdl
      refine ⟨c, ?_, hts⟩
      rw [hcloud]
      split_ifs
      · exact List.mem_cons_of_mem _ hc
      · exact hc
  | restart device =>
    exact ⟨hs.le_now, hs.sorted, fun e dl hdl => hs.listed e dl (State.mem_downloads_of_kill hdl)⟩
  | list device buffer hidle hload =>
    refine ⟨hs.le_now, hs.sorted, fun e dl hdl => ?_⟩
    rcases State.mem_downloads_of_list hdl with hold | ⟨files, rfl, hmem, _⟩
    · exact hs.listed e dl hold
    · exact hload.2 dl.metadata hmem
  | download device dl revision out c hdl hc =>
    exact ⟨hs.le_now, hs.sorted, fun e dl' hdl' =>
      hs.listed e dl' (State.mem_downloads_of_erase hdl')⟩
  | _ => exact ⟨hs.le_now, hs.sorted, hs.listed⟩

/-! ### One save file as a register -/

/-- The copies of the save file `g`: versions are the numbers of game writes. -/
def register (p g : JString) (s : State ι Save) : Register ι ℕ ℤ where
  clock := s.now
  copy e := ((s.directory e).fileAt g).map fun c => (c.1.serial, c.2)
  master := (s.cloud (getSnapshotName p g)).head?.map fun c => (c.data.serial, c.timestamp)

/-- Whatever a download callback leaves in the file comes from the opened commit. -/
lemma landed_serial {out : DownloadOutcome} {now ts t : ℤ} {save left : Save}
    (h : out.landed now ts save = some (left, t)) : left.serial = save.serial := by
  obtain ⟨data, hhanded, hleft, _⟩ := DownloadOutcome.landed_eq_some_iff.mp h
  rw [DownloadOutcome.handed] at hhanded
  split_ifs at hhanded
  cases hhanded
  cases hw : out.written <;> rw [hw] at hleft <;> cases hleft <;> rfl

/-- A new file on one device is a new copy on it. -/
lemma register_setDirectory (s : State ι Save) (device : ι) {g : JString} {dir : Directory Save}
    {save : Save} {t : ℤ} (hf : dir.fileAt g = some (save, t)) :
    register p g (s.setDirectory device dir) =
      (register p g s).setCopy device (save.serial, t) := by
  ext1
  · rfl
  · funext e
    rw [Register.setCopy_copy]
    simp only [register, State.setDirectory_directory]
    split_ifs
    · rw [hf]
      rfl
    · rfl
  · rfl

lemma register_setDirectory_of_eq (s : State ι Save) (device : ι) {g : JString}
    {dir : Directory Save} (hf : dir.fileAt g = (s.directory device).fileAt g) :
    register p g (s.setDirectory device dir) = register p g s := by
  ext1
  · rfl
  · funext e
    simp only [register, State.setDirectory_directory]
    split_ifs with he
    · rw [hf, he]
    · rfl
  · rfl

omit [DecidableEq ι] in
lemma register_pushCommit (s : State ι Save) (t : UploadTask ι Save) (g : JString) :
    register p g (s.pushCommit t) =
      if t.upload.snapshotName = getSnapshotName p g then
        { register p g s with master := some (t.upload.finalData.serial, s.now) }
      else register p g s := by
  split_ifs with hn
  · ext1
    · rfl
    · rfl
    · simp [register, State.pushCommit_cloud, hn]
  · ext1
    · rfl
    · rfl
    · simp only [register, State.pushCommit_cloud, if_neg (Ne.symm hn)]

omit [DecidableEq ι] in
lemma register_copy {g : JString} {e : ι} {save : Save} {m : ℤ}
    (hf : (s.directory e).fileAt g = some (save, m)) :
    (register p g s).copy e = some (save.serial, m) := by
  simp [register, hf]

omit [DecidableEq ι] in
/-- A pending download is about to fetch from the register of its file. -/
lemma register_master_of_pending (hpend : PendingExpired p s) {e : ι} {dl : Download}
    (hdl : dl ∈ s.downloads e) {c : Commit Save}
    (hc : (s.cloud dl.metadata.uniqueName).head? = some c) :
    (register p dl.filename s).master = some (c.data.serial, c.timestamp) := by
  have hname := (snapshotFilename_eq_some_iff.mp (hpend.name e dl hdl)).1
  simp [register, ← hname, hc]

omit [DecidableEq ι] in
/-- The listed time is not later than the latest commit, so the copy has expired for it too. -/
lemma register_expired_of_pending (hpend : PendingExpired p s) (hcloud : CloudOrdered s) {e : ι}
    {dl : Download} (hdl : dl ∈ s.downloads e) {c : Commit Save}
    (hc : (s.cloud dl.metadata.uniqueName).head? = some c) :
    (register p dl.filename s).Expired freshness e c.timestamp := by
  have hlisted : (register p dl.filename s).Expired freshness e
      dl.metadata.lastModifiedTimestamp := by
    intro w n hcopy
    obtain ⟨⟨save, m⟩, hf, heq⟩ := Option.map_eq_some_iff.mp hcopy
    cases heq
    exact hpend.expired e dl hdl save m hf
  exact hlisted.mono (hcloud.listed_le_head hdl hc)

/-- Every step of play moves the register of a save file by at most one step. -/
theorem Step.register {g : JString} (h : Step p s a s' es) (hplay : PlayStep s a)
    (hfresh : CommitsFresh p s a) (hpend : PendingExpired p s) (hcloud : CloudOrdered s)
    (hg : '_' ∉ g) :
    Relation.ReflTransGen (Register.Step freshness) (register p g s) (register p g s') := by
  cases h with
  | tick millis =>
    exact .single (.tick (register p g s) (s.now + millis) (by show s.now ≤ s.now + millis; omega))
  | gameWrite device filename data hfile =>
    show Relation.ReflTransGen _ _ (register p g (s.setDirectory device _))
    by_cases hf : filename = g
    · subst hf
      rw [register_setDirectory s device Directory.fileAt_putFile_self]
      exact .single (.write (register p filename s) device data.serial)
    · rw [register_setDirectory_of_eq s device (Directory.fileAt_putFile_of_ne (Ne.symm hf))]
  | migrate => exact absurd hplay id
  | update => exact .refl
  | uploadOpened => exact .refl
  | uploadLost => exact .refl
  | commitFailed => exact .refl
  | restart => exact .refl
  | list => exact .refl
  | committed id t ht =>
    rw [register_pushCommit]
    split_ifs with hn
    · refine .single (.publish (register p g s) t.upload.finalData.serial fun e w n hc hlt => ?_)
      obtain ⟨⟨save, m⟩, hf, heq⟩ := Option.map_eq_some_iff.mp hc
      cases heq
      have hacc : snapshotFilename p t.upload.snapshotName = some g := by
        rw [hn]
        exact snapshotFilename_getSnapshotName hg
      exact hfresh t ht g hacc e save m hf hlt
    · exact .refl
  | download device dl revision out c hdl hc =>
    have hrev : revision = 0 := hplay
    subst hrev
    have hsame : ∀ {dir : Directory Save}, dir.fileAt g = (s.directory device).fileAt g →
        Relation.ReflTransGen (Register.Step freshness) (register p g s) (register p g
          ((s.setDownloads device ((s.downloads device).erase dl)).setDirectory device dir)) := by
      intro dir hf
      rw [register_setDirectory_of_eq (s.setDownloads device _) device hf]
      exact .refl
    rcases onSnapshotOpened_lookup s.now dl c.data out (s.directory device) g with
      hkept | ⟨rfl, left, m, hlanded, hleft⟩
    · apply hsame
      exact Directory.fileAt_congr hkept
    · -- the callback fetches the latest commit, which is no older than the listed one
      have hhead : (s.cloud dl.metadata.uniqueName).head? = some c := by
        rw [List.head?_eq_getElem?]
        exact hc
      rw [register_setDirectory _ device (Directory.fileAt_of_file hleft), landed_serial hlanded]
      exact .single (.fetch (register p dl.filename s) device c.data.serial c.timestamp m
        (register_master_of_pending hpend hdl hhead)
        (register_expired_of_pending hpend hcloud hdl hhead))

/-! ### Runs of play -/

omit [DecidableEq ι] in
lemma PlayStep.sparesPending (h : PlayStep s a) : SparesPending s a := by
  cases a with
  | gameWrite device filename data =>
    intro dl hdl
    rw [h.2] at hdl
    cases hdl
  | migrate => exact absurd h id
  | _ => trivial

section

variable {ok : State ι Save → Action ι Save → Prop} {s₀ : State ι Save} {tr : List (Event ι Save)}

lemma cloudOrdered_of_run (h₀ : FreshAccount s₀) (h : (system ι Save p).Run ok s₀ tr s) :
    CloudOrdered s := by
  refine h.invariant (fun _ s => CloudOrdered s) h₀.cloudOrdered ?_
  intro _ s a s' es _ hs _ hstep
  exact (Step.of_step hstep).cloudOrdered hs

lemma pendingExpired_of_play (hok : ∀ s a, ok s a → PlayStep s a ∧ CommitsFresh p s a)
    (h₀ : FreshAccount s₀) (h : (system ι Save p).Run ok s₀ tr s) : PendingExpired p s := by
  apply pendingExpired_of_run _ h₀.downloads h
  intro s a ha
  exact (hok s a ha).1.sparesPending

/-- A run of play is a run of the register of each save file. -/
theorem register_of_run {g : JString} (hok : ∀ s a, ok s a → PlayStep s a ∧ CommitsFresh p s a)
    (h₀ : FreshAccount s₀) (h : (system ι Save p).Run ok s₀ tr s) (hg : '_' ∉ g) :
    Relation.ReflTransGen (Register.Step freshness) (register p g s₀) (register p g s) := by
  apply h.simulation (register p g)
  intro _ s a s' es hrun ha hstep
  obtain ⟨hplay, hfresh⟩ := hok s a ha
  exact (Step.of_step hstep).register hplay hfresh (pendingExpired_of_play hok h₀ hrun)
    (cloudOrdered_of_run h₀ hrun) hg

/-- What holds in every state reached while all commits are admitted. -/
structure PlayInvariant (p : JString) (s : State ι Save) : Prop where
  pending : PendingExpired p s
  ordered : CloudOrdered s
  coherent : ∀ g, '_' ∉ g → (register p g s).Coherent freshness

lemma playInvariant_of_run (hok : ∀ s a, ok s a → PlayStep s a ∧ CommitsFresh p s a)
    (h₀ : FreshAccount s₀) (h : (system ι Save p).Run ok s₀ tr s) : PlayInvariant p s where
  pending := pendingExpired_of_play hok h₀ h
  ordered := cloudOrdered_of_run h₀ h
  coherent g hg := by
    have hempty : (register p g s₀).Coherent freshness :=
      .of_master_none (by simp [register, h₀.cloud])
    exact Register.coherent_of_reflTransGen (by decide) (register_of_run hok h₀ h hg) hempty

end

/-- A callback that fetches from a coherent register does not roll back. -/
theorem PlayInvariant.not_rollsBack (hs : PlayInvariant p s) {e : ι} {dl : Download}
    {out : DownloadOutcome} (h : Step p s (.download e dl 0 out) s' es) (f : JString) :
    ¬ RollsBack (s.directory e) (s'.directory e) f := by
  cases h with
  | download _ _ _ _ c hdl hc =>
    rintro ⟨old, new, hold, hnew, hlt⟩
    rw [State.setDirectory_directory, if_pos rfl] at hnew
    rcases onSnapshotOpened_lookup s.now dl c.data out (s.directory e) f with
      hkept | ⟨rfl, left, m', hlanded, hleft⟩
    · have heq : some new = some old := by
        rw [← hnew, ← hold]
        exact Directory.contents_congr hkept
      cases heq
      exact absurd hlt (lt_irrefl _)
    · obtain ⟨⟨_, m⟩, hf, rfl⟩ := Option.map_eq_some_iff.mp hold
      rw [Directory.contents, Directory.fileAt_of_file hleft] at hnew
      cases hnew
      -- the local copy had expired, so the register hands out no older version
      have hg := (snapshotFilename_eq_some_iff.mp (hs.pending.name e dl hdl)).2
      have hhead : (s.cloud dl.metadata.uniqueName).head? = some c := by
        rw [List.head?_eq_getElem?]
        exact hc
      have hle := (hs.coherent dl.filename hg).le_of_expired
        (register_master_of_pending hs.pending hdl hhead) (register_copy hf)
        (register_expired_of_pending hs.pending hs.ordered hdl hhead)
      rw [landed_serial hlanded] at hlt
      exact absurd hlt (not_lt.mpr hle)

theorem noRollback_of_commitsFresh {ok : State ι Save → Action ι Save → Prop}
    (hok : ∀ s a, ok s a → PlayStep s a ∧ CommitsFresh p s a) : NoRollback ι p ok := by
  intro s₀ s tr h₀ hrun e dl revision out s' es ha hstep f
  have hrev : revision = 0 := (hok _ _ ha).1
  subst hrev
  exact (playInvariant_of_run hok h₀ hrun).not_rollsBack (Step.of_step hstep) f

/-- The commit that a step of play must not make is followed by a rollback as soon as the device
with the newer save is started again. -/
theorem rollsBack_of_stale_commit {id : ℕ} {t : UploadTask ι Save} {g : JString} {e : ι}
    {save : Save} {m : ℤ} (h : Step p s (.commit id true) s' es)
    (ht : s.findTask id .committing = some t)
    (hg : snapshotFilename p t.upload.snapshotName = some g)
    (hf : (s.directory e).fileAt g = some (save, m))
    (hlt : t.upload.finalData.serial < save.serial) (hold : 30000 ≤ s.now - m) :
    ∃ s₁ s₂ s₃ es₁ es₂ es₃ dl, step p s' (.restart e) = some (s₁, es₁) ∧
      step p s₁ (.list e (some [⟨t.upload.snapshotName, s.now⟩])) = some (s₂, es₂) ∧
      step p s₂ (.download e dl 0 {}) = some (s₃, es₃) ∧
      RollsBack (s₂.directory e) (s₃.directory e) g := by
  cases h with
  | committed _ t' ht' =>
    cases ht.symm.trans ht'
    have hcloud : (((s.dropTask id).pushCommit t).kill e).cloud t.upload.snapshotName =
        ⟨t.upload.finalData, s.now⟩ :: s.cloud t.upload.snapshotName := by
      show ((s.dropTask id).pushCommit t).cloud t.upload.snapshotName = _
      rw [State.pushCommit_cloud, if_pos rfl]
      rfl
    have hidle : (((s.dropTask id).pushCommit t).kill e).downloads e = [] := by
      rw [State.kill_downloads, if_pos rfl]
    have hload : (((s.dropTask id).pushCommit t).kill e).CanLoad
        (some [⟨t.upload.snapshotName, s.now⟩]) := by
      refine ⟨List.nodup_singleton _, fun md hmd => ?_⟩
      rw [List.mem_singleton.mp hmd]
      exact ⟨⟨t.upload.finalData, s.now⟩, by rw [hcloud]; exact List.mem_cons_self, rfl⟩
    have hsel : selectSnapshots p (s.directory e) (some [⟨t.upload.snapshotName, s.now⟩]) =
        [⟨⟨t.upload.snapshotName, s.now⟩, g⟩] := by
      have hone : selectSnapshot p (s.directory e) ⟨t.upload.snapshotName, s.now⟩ =
          some ⟨⟨t.upload.snapshotName, s.now⟩, g⟩ := by
        refine selectSnapshot_eq_some_iff.mpr ⟨rfl, hg, fun save' m' hf' => ?_⟩
        cases hf.symm.trans hf'
        exact hold
      simp [selectSnapshots, hone]
    have hfolder : (s.directory e).lookup g ≠ some .folder := by
      intro hfolder
      rw [Directory.fileAt_of_folder hfolder] at hf
      cases hf
    refine ⟨_, _, _, _, _, _, ⟨⟨t.upload.snapshotName, s.now⟩, g⟩, (Step.restart e).step_eq,
      (Step.list e _ hidle hload).step_eq,
      (Step.download e _ 0 {} ⟨t.upload.finalData, s.now⟩ ?_ ?_).step_eq,
      save, t.upload.finalData, ?_, ?_, hlt⟩
    · rw [State.setDownloads_downloads, if_pos rfl]
      show _ ∈ selectSnapshots p (s.directory e) _
      rw [hsel]
      exact List.mem_singleton.mpr rfl
    · show ((((s.dropTask id).pushCommit t).kill e).cloud t.upload.snapshotName)[0]? = _
      rw [hcloud]
      rfl
    · show (s.directory e).contents g = _
      simp [Directory.contents, hf]
    · rw [State.setDirectory_directory, if_pos rfl]
      show Directory.contents ((onSnapshotOpened _ _ _ _).exec (s.directory e)).2 g = _
      rw [onSnapshotOpened_exec hfolder]
      simp [Directory.contents, DownloadOutcome.landed, DownloadOutcome.handed, WriteEnd.left]

/-- The first run of the app, at time 0. -/
def newAccount (ι : Type) : State ι Save where
  now := 0
  directory _ := ∅
  cloud _ := []
  tasks := []
  downloads _ := []
  started := 0
  gameWrites := 0

lemma newAccount_fresh (ι : Type) : FreshAccount (newAccount ι) where
  cloud _ := rfl
  tasks := rfl
  downloads _ := rfl
  serial_le _ _ _ h := by cases h

/-! ### One device -/

theorem singleDevice_noRollback (p : JString) :
    NoRollback Unit p fun s a => PlayStep s a ∧ CommitsFresh p s a :=
  noRollback_of_commitsFresh fun _ _ h => h

/-- The upload of the first save lands 50 s after the second save, and the next start of the app
restores the first save. -/
theorem not_singleDevice_noRollback : ¬ NoRollback Unit "org.ancurio.mkxp".toList PlayStep := by
  intro h
  obtain ⟨tr, s, s', es, hrun, hstep, hcheck⟩ := Machine.Run.exists_step_of_exec
    (system Unit Save "org.ancurio.mkxp".toList) PlayStep (newAccount Unit)
    [.gameWrite () "Save1.rxdata".toList ⟨[1], 1⟩,
      .update () (some ["Save1.rxdata".toList]) [],
      .tick 10000,
      .gameWrite () "Save1.rxdata".toList ⟨[2], 2⟩,
      .openUpload 0 .opens,
      .tick 50000,
      .commit 0 true,
      .restart (),
      .list () (some [⟨"org.ancurio.mkxp_Save1.rxdata".toList, 60000⟩])]
    (.download () ⟨⟨"org.ancurio.mkxp_Save1.rxdata".toList, 60000⟩, "Save1.rxdata".toList⟩ 0 {})
    (fun s s' _ => (s.directory ()).contents "Save1.rxdata".toList = some ⟨[2], 2⟩ ∧
      (s'.directory ()).contents "Save1.rxdata".toList = some ⟨[1], 1⟩)
    (by decide)
  exact h (newAccount Unit) s tr (newAccount_fresh Unit) hrun () _ 0 {} s' es rfl hstep _
    ⟨_, _, hcheck.1, hcheck.2, by decide⟩

/-! ### Many devices -/

/-- Each commit lands less than 30 s after the modification time that the uploaded file had when
it was read. -/
def PromptCommit (s : State ι Save) : Action ι Save → Prop
  | .commit id true => ∀ t ∈ s.findTask id .committing, s.now - t.upload.lastModified < 30000
  | _ => True

instance (s : State ι Save) : ∀ a : Action ι Save, Decidable (PromptCommit s a)
  | .commit id true =>
    match h : s.findTask id .committing with
    | none   => isTrue (by simp [PromptCommit, h])
    | some t => decidable_of_iff (s.now - t.upload.lastModified < 30000) (by simp [PromptCommit, h])
  | .commit _ false       => isTrue trivial
  | .tick _               => isTrue trivial
  | .gameWrite _ _ _      => isTrue trivial
  | .migrate _ _ _        => isTrue trivial
  | .update _ _ _         => isTrue trivial
  | .openUpload _ _       => isTrue trivial
  | .restart _            => isTrue trivial
  | .list _ _             => isTrue trivial
  | .download _ _ _ _     => isTrue trivial

theorem manyDevices_noRollback (ι : Type) [DecidableEq ι] (p : JString) :
    NoRollback ι p fun s a => (PlayStep s a ∧ PromptCommit s a) ∧ CommitsFresh p s a :=
  noRollback_of_commitsFresh fun _ _ h => ⟨h.1.1, h.2⟩

/-- A second device downloads the first save and uploads it again, as if its game had written it.
That commit is prompt, but makes the first save look newer than the second one. -/
theorem not_manyDevices_noRollback : ¬ NoRollback Bool "org.ancurio.mkxp".toList
    fun s a => PlayStep s a ∧ PromptCommit s a := by
  intro h
  obtain ⟨tr, s, s', es, hrun, hstep, hcheck⟩ := Machine.Run.exists_step_of_exec
    (system Bool Save "org.ancurio.mkxp".toList) (fun s a => PlayStep s a ∧ PromptCommit s a)
    (newAccount Bool)
    [.gameWrite false "Save1.rxdata".toList ⟨[1], 1⟩,
      .update false (some ["Save1.rxdata".toList]) [],
      .openUpload 0 .opens,
      .tick 9000,
      .gameWrite false "Save1.rxdata".toList ⟨[2], 2⟩,
      .tick 1000,
      .commit 0 true,
      .list true (some [⟨"org.ancurio.mkxp_Save1.rxdata".toList, 10000⟩]),
      .download true
        ⟨⟨"org.ancurio.mkxp_Save1.rxdata".toList, 10000⟩, "Save1.rxdata".toList⟩ 0 {},
      .tick 1000,
      .update true (some ["Save1.rxdata".toList]) [],
      .openUpload 1 .opens,
      .tick 28500,
      .commit 1 true,
      .list false (some [⟨"org.ancurio.mkxp_Save1.rxdata".toList, 39500⟩])]
    (.download false ⟨⟨"org.ancurio.mkxp_Save1.rxdata".toList, 39500⟩, "Save1.rxdata".toList⟩ 0 {})
    (fun s s' _ => (s.directory false).contents "Save1.rxdata".toList = some ⟨[2], 2⟩ ∧
      (s'.directory false).contents "Save1.rxdata".toList = some ⟨[1], 1⟩)
    (by decide)
  exact h (newAccount Bool) s tr (newAccount_fresh Bool) hrun false _ 0 {} s' es
    ⟨rfl, trivial⟩ hstep _ ⟨_, _, hcheck.1, hcheck.2, by decide⟩

end AndroidMkxp.Sync
