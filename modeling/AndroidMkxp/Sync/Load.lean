import AndroidMkxp.Sync.Pending

/-!
# Loading without failures

A run of `loadSaveGames` in which every call succeeds and nothing else happens is a batch: each
pending download writes one file, and no two write the same one. So the directory it ends with does
not depend on the order of the callbacks. The timestamp that a callback leaves makes the file fresh
for the next listing, which then finds nothing to download.
-/

namespace AndroidMkxp.Sync

open Foundation

variable {ι D : Type} [DecidableEq ι] {p g : JString} {s s' s₀ s₁ : State ι D} {a : Action ι D}
  {es tr : List (Event ι D)} {device : ι} {buffer buffer' : List SnapshotMetadata}
  {md : SnapshotMetadata} {dl : Download}

/-- `md` is accepted as the snapshot of the local file `g`, which is absent or expired. -/
def Replaces (p : JString) (dir : Directory D) (md : SnapshotMetadata) (g : JString) : Prop :=
  snapshotFilename p md.uniqueName = some g ∧
    ∀ data m, dir.fileAt g = some (data, m) → 30000 ≤ md.lastModifiedTimestamp - m

lemma mem_selectSnapshots_iff {dir : Directory D} : dl ∈ selectSnapshots p dir (some buffer) ↔
    dl.metadata ∈ buffer ∧ Replaces p dir dl.metadata dl.filename := by
  simp only [selectSnapshots, List.mem_filterMap, selectSnapshot_eq_some_iff, Replaces, freshness]
  constructor
  · rintro ⟨md, hmem, rfl, hsel⟩
    exact ⟨hmem, hsel⟩
  · rintro ⟨hmem, hsel⟩
    exact ⟨dl.metadata, hmem, rfl, hsel⟩

/-- At most one snapshot of a listing is accepted for a file. -/
lemma Replaces.unique {dir : Directory D} {md' : SnapshotMetadata}
    (hnd : (buffer.map SnapshotMetadata.uniqueName).Nodup) (hmd : md ∈ buffer)
    (hmd' : md' ∈ buffer) (h : Replaces p dir md g)
    (h' : snapshotFilename p md'.uniqueName = some g) : md' = md := by
  apply List.inj_on_of_nodup_map hnd hmd' hmd
  rw [(snapshotFilename_eq_some_iff.mp h.1).1, (snapshotFilename_eq_some_iff.mp h').1]

/-! ### The callbacks as a batch -/

/-- What the listed download `dl` leaves in its file: the latest commit. -/
def State.downloaded (s : State ι D) (dl : Download) : Option (Node D) :=
  (s.cloud dl.metadata.uniqueName).head?.map fun c => .file c.data dl.metadata.lastModifiedTimestamp

/-- The pending downloads of a device and its directory. -/
def State.batch (s : State ι D) (device : ι) : Batch Download JString (Option (Node D)) :=
  ⟨s.downloads device, (s.directory device).lookup⟩

/-- Callbacks on `device` whose calls all succeed, and nothing else. `Files.write` fails where a
folder has the name of the file. -/
def LoadStep (device : ι) (s : State ι D) : Action ι D → Prop
  | .tick _                     => True
  | .download e dl revision out => e = device ∧ revision = 0 ∧ out = {} ∧
      (s.directory device).lookup dl.filename ≠ some .folder
  | _                           => False

variable [FileData D]

lemma Step.cloud_eq_of_loadStep (h : Step p s a s' es) (ha : LoadStep device s a) :
    s'.cloud = s.cloud := by
  cases h with
  | tick => rfl
  | download => rfl
  | _ => exact ha.elim

lemma Step.batch_of_loadStep (h : Step p s a s' es) (ha : LoadStep device s a) :
    Relation.ReflTransGen (Batch.Step Download.filename s.downloaded) (s.batch device)
      (s'.batch device) := by
  cases h with
  | tick => exact .refl
  | download _ dl _ out c hdl hc =>
    obtain ⟨rfl, rfl, hout, hfile⟩ := ha
    have hvalue : s.downloaded dl = some (.file c.data dl.metadata.lastModifiedTimestamp) := by
      rw [State.downloaded, List.head?_eq_getElem?, hc]
      rfl
    have hlanded : out.landed s.now dl.metadata.lastModifiedTimestamp c.data =
        some (c.data, dl.metadata.lastModifiedTimestamp) := by
      rw [hout]
      rfl
    have hjob : Batch.Step Download.filename s.downloaded (s.batch _) _ := .job dl hdl
    convert Relation.ReflTransGen.single hjob using 1
    simp only [State.batch, Batch.mk.injEq]
    refine ⟨(State.setDownloads_downloads ..).trans (if_pos rfl), ?_⟩
    funext name
    rw [State.setDirectory_directory, if_pos rfl, onSnapshotOpened_exec hfile, hlanded, hvalue,
      Function.update_apply]
    exact Directory.lookup_putFile
  | _ => exact ha.elim

/-- The listing loop of `loadSaveGames` on `device`, and then its callbacks in any order until none
is pending, with no failure and nothing else in between. -/
structure Load (p : JString) (device : ι) (buffer : List SnapshotMetadata) (s₀ s₁ : State ι D)
    (tr : List (Event ι D)) (s : State ι D) : Prop where
  listed : step p s₀ (.list device (some buffer)) = some (s₁, [])
  run : (system ι D p).Run (LoadStep device) s₁ tr s
  done : s.downloads device = []

lemma cloud_of_run (h : (system ι D p).Run (LoadStep device) s₁ tr s) : s.cloud = s₁.cloud := by
  refine h.invariant (fun _ s => s.cloud = s₁.cloud) rfl ?_
  intro _ s a s' es _ ih ha hstep
  rw [(Step.of_step hstep).cloud_eq_of_loadStep ha, ih]

lemma downloaded_of_run (h : (system ι D p).Run (LoadStep device) s₁ tr s) :
    s.downloaded = s₁.downloaded := by
  funext dl
  rw [State.downloaded, State.downloaded, cloud_of_run h]

lemma batch_of_run (h : (system ι D p).Run (LoadStep device) s₁ tr s) :
    Relation.ReflTransGen (Batch.Step Download.filename s₁.downloaded) (s₁.batch device)
      (s.batch device) := by
  refine h.simulation (fun s => s.batch device) ?_
  intro tr s a s' es hrun ha hstep
  rw [← downloaded_of_run hrun]
  exact (Step.of_step hstep).batch_of_loadStep ha

namespace Load

lemma nodup (h : Load p device buffer s₀ s₁ tr s) :
    (buffer.map SnapshotMetadata.uniqueName).Nodup := by
  cases Step.of_step h.listed with
  | list _ _ hidle hload => exact hload.1

lemma cloud_eq (h : Load p device buffer s₀ s₁ tr s) : s.cloud = s₀.cloud := by
  rw [cloud_of_run h.run]
  cases Step.of_step h.listed with
  | list => rfl

/-- The directory after a load, whatever the order of the callbacks. -/
lemma lookup_eq (h : Load p device buffer s₀ s₁ tr s) : (s.directory device).lookup =
    Batch.result Download.filename s₀.downloaded
      ⟨selectSnapshots p (s₀.directory device) (some buffer), (s₀.directory device).lookup⟩ := by
  have hs₁ : s₁ = s₀.setDownloads device
      (selectSnapshots p (s₀.directory device) (some buffer)) := by
    cases Step.of_step h.listed with
    | list => rfl
  have hpending : s₁.downloads device = selectSnapshots p (s₀.directory device) (some buffer) := by
    rw [hs₁, State.setDownloads_downloads, if_pos rfl]
  have hbatch : s₁.batch device =
      ⟨selectSnapshots p (s₀.directory device) (some buffer), (s₀.directory device).lookup⟩ := by
    rw [State.batch, hpending, hs₁]
    rfl
  have hvalue : s₁.downloaded = s₀.downloaded := by
    rw [hs₁]
    rfl
  rw [← hbatch, ← hvalue]
  apply Batch.store_eq_result (batch_of_run h.run) _ h.done
  rw [hbatch]
  exact selectSnapshots_filename_nodup h.nodup

/-- A file with an accepted snapshot that is absent or expired is replaced by the latest commit. -/
lemma lookup_of_replaces (h : Load p device buffer s₀ s₁ tr s) (hmd : md ∈ buffer)
    (hrep : Replaces p (s₀.directory device) md g) :
    ∃ c, (s₀.cloud md.uniqueName).head? = some c ∧
      (s.directory device).lookup g = some (.file c.data md.lastModifiedTimestamp) := by
  obtain ⟨c, hc⟩ : ∃ c, (s₀.cloud md.uniqueName).head? = some c := by
    cases Step.of_step h.listed with
    | list _ _ hidle hload =>
      obtain ⟨c, hc, _⟩ := hload.2 md hmd
      exact Option.isSome_iff_exists.mp (List.isSome_head?.mpr (List.ne_nil_of_mem hc))
  have hsel : (⟨md, g⟩ : Download) ∈ selectSnapshots p (s₀.directory device) (some buffer) :=
    mem_selectSnapshots_iff.mpr ⟨hmd, hrep⟩
  have hresult : Batch.result Download.filename s₀.downloaded
      ⟨selectSnapshots p (s₀.directory device) (some buffer), (s₀.directory device).lookup⟩
      (Download.filename ⟨md, g⟩) = s₀.downloaded ⟨md, g⟩ :=
    Batch.result_of_mem (selectSnapshots_filename_nodup h.nodup) hsel
  refine ⟨c, hc, (congrFun h.lookup_eq g).trans (hresult.trans ?_)⟩
  rw [State.downloaded, hc]
  rfl

/-- Every other entry stays as it is. -/
lemma lookup_of_not_replaces (h : Load p device buffer s₀ s₁ tr s)
    (hrep : ∀ md ∈ buffer, ¬ Replaces p (s₀.directory device) md g) :
    (s.directory device).lookup g = (s₀.directory device).lookup g := by
  refine (congrFun h.lookup_eq g).trans (Batch.result_of_forall_ne ?_)
  rintro dl hdl rfl
  obtain ⟨hmd, hdl⟩ := mem_selectSnapshots_iff.mp hdl
  exact hrep dl.metadata hmd hdl

/-- The order of the listing and of the callbacks does not matter. -/
lemma lookup_eq_of_perm (h : Load p device buffer s₀ s₁ tr s) {s₁' : State ι D}
    {tr' : List (Event ι D)} (hperm : buffer'.Perm buffer)
    (h' : Load p device buffer' s₀ s₁' tr' s') (g : JString) :
    (s'.directory device).lookup g = (s.directory device).lookup g := by
  by_cases hrep : ∃ md ∈ buffer, Replaces p (s₀.directory device) md g
  · obtain ⟨md, hmd, hrep⟩ := hrep
    obtain ⟨c, hc, hlookup⟩ := h.lookup_of_replaces hmd hrep
    obtain ⟨c', hc', hlookup'⟩ := h'.lookup_of_replaces (hperm.mem_iff.mpr hmd) hrep
    cases hc.symm.trans hc'
    rw [hlookup, hlookup']
  · have hnone : ∀ md ∈ buffer, ¬ Replaces p (s₀.directory device) md g :=
      fun md hmd h => hrep ⟨md, hmd, h⟩
    rw [h.lookup_of_not_replaces hnone,
      h'.lookup_of_not_replaces fun md hmd => hnone md (hperm.mem_iff.mp hmd)]

/-- After a load the local version of every file that was listed is fresh. -/
lemma not_replaces (h : Load p device buffer s₀ s₁ tr s) (hmd : md ∈ buffer) :
    ¬ Replaces p (s.directory device) md g := by
  intro hrep
  by_cases hrep₀ : Replaces p (s₀.directory device) md g
  · -- the callback has set the time that is compared
    obtain ⟨c, _, hlookup⟩ := h.lookup_of_replaces hmd hrep₀
    have hfresh := hrep.2 c.data _ (Directory.fileAt_of_file hlookup)
    omega
  · -- no callback has touched the file
    have hkept : (s.directory device).lookup g = (s₀.directory device).lookup g := by
      apply h.lookup_of_not_replaces
      intro md' hmd' hrep'
      cases hrep'.unique h.nodup hmd' hmd hrep.1
      exact hrep₀ hrep'
    apply hrep₀
    refine ⟨hrep.1, fun data m hf => hrep.2 data m ?_⟩
    rw [← hf]
    exact Directory.fileAt_congr hkept

lemma selectSnapshots_eq_nil (h : Load p device buffer s₀ s₁ tr s) (hperm : buffer'.Perm buffer) :
    selectSnapshots p (s.directory device) (some buffer') = [] := by
  apply List.eq_nil_iff_forall_not_mem.mpr
  intro dl hdl
  obtain ⟨hmd, hrep⟩ := mem_selectSnapshots_iff.mp hdl
  exact h.not_replaces (hperm.mem_iff.mp hmd) hrep

/-- The next load can be made, and finds nothing to download. -/
lemma step_list (h : Load p device buffer s₀ s₁ tr s) (hperm : buffer'.Perm buffer) :
    step p s (.list device (some buffer')) = some (s.setDownloads device [], []) := by
  have hload : s.CanLoad (some buffer') := by
    refine ⟨(hperm.map _).nodup_iff.mpr h.nodup, fun md hmd => ?_⟩
    rw [h.cloud_eq]
    cases Step.of_step h.listed with
    | list _ _ hidle hload => exact hload.2 md (hperm.mem_iff.mp hmd)
  rw [← h.selectSnapshots_eq_nil hperm]
  exact (Step.list device (some buffer') h.done hload).step_eq

end Load

/-- While nothing is pending, a load does nothing. -/
lemma unchanged_of_idle (h : (system ι D p).Run (LoadStep device) s₁ tr s)
    (hidle : s₁.downloads device = []) : tr = [] ∧ s.directory = s₁.directory := by
  have hinv : s.downloads device = [] ∧ tr = [] ∧ s.directory = s₁.directory := by
    refine h.invariant (fun tr s => s.downloads device = [] ∧ tr = [] ∧
      s.directory = s₁.directory) ⟨hidle, rfl, rfl⟩ ?_
    rintro tr s a s' es _ ⟨hidle, rfl, hdir⟩ ha hstep
    cases Step.of_step hstep with
    | tick => exact ⟨hidle, rfl, hdir⟩
    | download _ dl _ _ c hdl hc =>
      obtain ⟨rfl, _⟩ := ha
      rw [hidle] at hdl
      cases hdl
    | _ => exact ha.elim
  exact hinv.2

/-! ### Every order of the callbacks -/

/-- The bytes that the callbacks hand to `Files.write`, in the order of the callbacks. -/
def State.handedBy (s : State ι D) (device : ι) (order : List Download) : List (Event ι D) :=
  order.filterMap fun dl =>
    (s.cloud dl.metadata.uniqueName).head?.map fun c => .handed device dl.filename c.data

/-- Every pending download can be opened and written. -/
structure Loadable (s : State ι D) (device : ι) : Prop where
  commits : ∀ dl ∈ s.downloads device, s.cloud dl.metadata.uniqueName ≠ []
  writable : ∀ dl ∈ s.downloads device, (s.directory device).lookup dl.filename ≠ some .folder

lemma Loadable.step (hs : Loadable s device) (h : Step p s a s' es) (ha : LoadStep device s a) :
    Loadable s' device := by
  cases h with
  | tick => exact ⟨hs.commits, hs.writable⟩
  | download _ dl revision out c hdl hc =>
    obtain ⟨rfl, _⟩ := ha
    refine ⟨fun dl' hdl' => hs.commits dl' (State.mem_downloads_of_erase hdl'), fun dl' hdl' => ?_⟩
    rw [State.setDirectory_directory, if_pos rfl]
    rcases onSnapshotOpened_lookup s.now dl c.data out (s.directory _) dl'.filename with
      hsame | ⟨_, left, m, _, hfile⟩
    · rw [hsame]
      exact hs.writable dl' (State.mem_downloads_of_erase hdl')
    · simp [hfile]
  | _ => exact ha.elim

/-- The callbacks of the pending downloads can run in any order. -/
lemma exists_run_of_order (hs : Loadable s device) {order : List Download}
    (horder : order.Perm (s.downloads device)) :
    ∃ s', (system ι D p).Run (LoadStep device) s (s.handedBy device order) s' ∧
      s'.downloads device = [] := by
  induction order generalizing s with
  | nil => exact ⟨s, .refl, horder.nil_eq.symm⟩
  | cons dl order ih =>
    obtain ⟨hdl, hrest⟩ := List.cons_perm_iff_perm_erase.mp horder
    obtain ⟨c, hc⟩ := Option.isSome_iff_exists.mp (List.isSome_head?.mpr (hs.commits dl hdl))
    have hget : (s.cloud dl.metadata.uniqueName)[0]? = some c := by
      rw [← List.head?_eq_getElem?, hc]
    have hok : LoadStep device s (.download device dl 0 {}) := ⟨rfl, rfl, rfl, hs.writable dl hdl⟩
    have hstep : Step p s (.download device dl 0 {}) _ _ := .download device dl 0 {} c hdl hget
    obtain ⟨s', hrun, hdone⟩ := ih (hs.step hstep hok) (by
      show order.Perm ((s.setDownloads device _).downloads device)
      rw [State.setDownloads_downloads, if_pos rfl]
      exact hrest)
    refine ⟨s', ?_, hdone⟩
    have hhanded : s.handedBy device (dl :: order) =
        .handed device dl.filename c.data :: s.handedBy device order := by
      simp [State.handedBy, hc]
    rw [hhanded]
    exact (Machine.Run.single hok hstep.step_eq).trans hrun

/-- From an idle device, every order of the callbacks is a load. -/
theorem exists_load_of_order (hidle : s.downloads device = []) (hload : s.CanLoad (some buffer))
    (hfile : ∀ md ∈ buffer, ∀ g, Replaces p (s.directory device) md g →
      (s.directory device).lookup g ≠ some .folder)
    {order : List Download}
    (horder : order.Perm (selectSnapshots p (s.directory device) (some buffer))) :
    ∃ s₁ s', Load p device buffer s s₁ (s.handedBy device order) s' := by
  have hlist := (Step.list device (some buffer) hidle hload : Step p s _ _ _).step_eq
  have hpending : (s.setDownloads device (selectSnapshots p (s.directory device)
      (some buffer))).downloads device = selectSnapshots p (s.directory device) (some buffer) := by
    rw [State.setDownloads_downloads, if_pos rfl]
  have hs₁ : Loadable (s.setDownloads device
      (selectSnapshots p (s.directory device) (some buffer))) device := by
    constructor
    · rw [hpending]
      intro dl hdl
      obtain ⟨c, hc, _⟩ := hload.2 dl.metadata (mem_selectSnapshots_iff.mp hdl).1
      exact List.ne_nil_of_mem hc
    · rw [hpending]
      intro dl hdl
      obtain ⟨hmd, hrep⟩ := mem_selectSnapshots_iff.mp hdl
      exact hfile dl.metadata hmd dl.filename hrep
  rw [← hpending] at horder
  obtain ⟨s', hrun, hdone⟩ := exists_run_of_order hs₁ horder
  exact ⟨_, s', hlist, hrun, hdone⟩

/-- A load without failures replaces the files that are absent or expired by the latest commits and
leaves the others as they are; the order of the listing and of the callbacks does not matter, and a
second load from there opens no snapshot and changes nothing. -/
theorem load_confluent_idempotent (h : Load p device buffer s₀ s₁ tr s) :
    (∀ md ∈ buffer, ∀ g, Replaces p (s₀.directory device) md g →
      ∃ c, (s₀.cloud md.uniqueName).head? = some c ∧
        (s.directory device).fileAt g = some (c.data, md.lastModifiedTimestamp)) ∧
    (∀ g, (∀ md ∈ buffer, ¬ Replaces p (s₀.directory device) md g) →
      (s.directory device).lookup g = (s₀.directory device).lookup g) ∧
    (∀ buffer' s₁' tr' s', buffer'.Perm buffer → Load p device buffer' s₀ s₁' tr' s' →
      ∀ g, (s'.directory device).lookup g = (s.directory device).lookup g) ∧
    (∀ buffer', buffer'.Perm buffer → ∃ s₁',
      step p s (.list device (some buffer')) = some (s₁', []) ∧ s₁'.downloads device = [] ∧
      ∀ tr' s', (system ι D p).Run (LoadStep device) s₁' tr' s' →
        tr' = [] ∧ s'.directory = s.directory) := by
  refine ⟨fun md hmd g hrep => ?_, fun g => h.lookup_of_not_replaces,
    fun buffer' s₁' tr' s' hperm h' => h.lookup_eq_of_perm hperm h', fun buffer' hperm => ?_⟩
  · obtain ⟨c, hc, hlookup⟩ := h.lookup_of_replaces hmd hrep
    exact ⟨c, hc, Directory.fileAt_of_file hlookup⟩
  · have hidle : (s.setDownloads device []).downloads device = [] := by
      rw [State.setDownloads_downloads, if_pos rfl]
    refine ⟨_, h.step_list hperm, hidle, fun tr' s' hrun => ?_⟩
    obtain ⟨htr, hdir⟩ := unchanged_of_idle hrun hidle
    exact ⟨htr, hdir⟩

/-- A device with an old and a fresh save, at time 100000. The account has a third one. -/
def restoring : State Unit (List UInt8) where
  now := 100000
  directory _ := (Directory.putFile ∅ "Save1.rxdata".toList [1] 0).putFile
    "Save2.rxdata".toList [2] 70000
  cloud n :=
    if n = "org.ancurio.mkxp_Save1.rxdata".toList then [⟨[7], 95000⟩]
    else if n = "org.ancurio.mkxp_Save2.rxdata".toList then [⟨[8], 95000⟩]
    else if n = "org.ancurio.mkxp_Save3.rxdata".toList then [⟨[9], 95000⟩]
    else []
  tasks := []
  downloads _ := []
  started := 0
  gameWrites := 0

def restoringListing : List SnapshotMetadata :=
  [⟨"org.ancurio.mkxp_Save1.rxdata".toList, 95000⟩,
    ⟨"org.ancurio.mkxp_Save2.rxdata".toList, 95000⟩,
    ⟨"org.ancurio.mkxp_Save3.rxdata".toList, 95000⟩]

/-- The callback of the third save runs before that of the first one; the second one is kept. -/
theorem load_confluent_idempotent_save3 :
    ∃ s₁ s, Load "org.ancurio.mkxp".toList () restoringListing restoring s₁
        [.handed () "Save3.rxdata".toList [9], .handed () "Save1.rxdata".toList [7]] s ∧
      (s.directory ()).fileAt "Save3.rxdata".toList = some ([9], 95000) := by
  have hfile : ∀ g, (restoring.directory ()).lookup g ≠ some .folder := by
    intro g
    simp only [restoring, Directory.lookup_putFile]
    split_ifs <;> simp
  have horder : List.Perm [⟨⟨"org.ancurio.mkxp_Save3.rxdata".toList, 95000⟩,
        "Save3.rxdata".toList⟩, ⟨⟨"org.ancurio.mkxp_Save1.rxdata".toList, 95000⟩,
        "Save1.rxdata".toList⟩] (selectSnapshots "org.ancurio.mkxp".toList
      (restoring.directory ()) (some restoringListing)) := by decide
  obtain ⟨s₁, s, hload⟩ := exists_load_of_order rfl (by decide) (fun _ _ g _ => hfile g) horder
  refine ⟨s₁, s, hload, ?_⟩
  obtain ⟨hmd, hrep⟩ := mem_selectSnapshots_iff.mp (horder.mem_iff.mp List.mem_cons_self)
  obtain ⟨c, hc, hnew⟩ := (load_confluent_idempotent hload).1 _ hmd _ hrep
  cases hc
  exact hnew

end AndroidMkxp.Sync
