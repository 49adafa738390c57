import AndroidMkxp.Saves.Assets
import AndroidMkxp.Sync.Provenance

/-!
# Starting the app

`onCreate` copies the assets into the directory that the games and the downloads write to. Nothing
in the code keeps the two apart but the names: the assets are no save files, and a name that
`loadSaveGames` accepts was given to a save file. So the scripts of a device are what the last start
that replaced them has left.
-/

namespace AndroidMkxp.Sync

open Foundation

inductive LaunchAction (ι D : Type) where
  | sync (a : Action ι D)
  /-- `onCreate` of an activity calls `copyAssets`. -/
  | copyAssets (device : ι) (outs : JString → AssetOutcome)

inductive LaunchEvent (ι D : Type) where
  | sync (ev : Event ι D)
  /-- A pass of `copyAssets` has deleted the old file. -/
  | replaced (device : ι) (asset : JString) (out : AssetOutcome)

/-- The replacements of one asset on one device. -/
def replacedAs {ι D : Type} [DecidableEq ι] (device : ι) (asset : JString) :
    LaunchEvent ι D → Option AssetOutcome
  | .replaced device' asset' out => if device' = device ∧ asset' = asset then some out else none
  | .sync _                      => none

/-- The passes of one call. -/
def launchCopies (outs : JString → AssetOutcome) : List (JString × AssetOutcome) :=
  getAssetsToCopy.map fun asset => (asset, outs asset)

section

variable {ι D : Type} [DecidableEq ι] [FileData D]

/-- The app with its starts, where `assets` are those of the package. -/
def launchStep (savePackageName : JString) (assets : JString → Option D) (s : State ι D) :
    LaunchAction ι D → Option (State ι D × List (LaunchEvent ι D))
  | .sync a =>
    (step savePackageName s a).map fun r => (r.1, r.2.map .sync)
  | .copyAssets device outs =>
    if ∀ asset ∈ getAssetsToCopy, (outs asset).now = s.now then
      some (s.setDirectory device
          ((AndroidMkxp.copyAssets assets (launchCopies outs)).exec (s.directory device)).2,
        ((launchCopies outs).filter fun c => c.2.replaces assets c.1).map fun c =>
          .replaced device c.1 c.2)
    else none

def launches (ι D : Type) [DecidableEq ι] [FileData D] (savePackageName : JString)
    (assets : JString → Option D) :
    Machine (State ι D) (LaunchAction ι D) (LaunchEvent ι D) :=
  ⟨launchStep savePackageName assets⟩

/-- No game on `device` writes a file called `asset`. -/
def SparesAsset (device : ι) (asset : JString) (_ : State ι D) : LaunchAction ι D → Prop
  | .sync (.gameWrite device' filename _) => ¬ (device' = device ∧ filename = asset)
  | _                                     => True

instance (device : ι) (asset : JString) (s : State ι D) (a : LaunchAction ι D) :
    Decidable (SparesAsset device asset s a) := by
  unfold SparesAsset
  split <;> infer_instance

variable {p asset f : JString} {assets : JString → Option D} {s s' s₀ : State ι D}
  {a : Action ι D} {es : List (Event ι D)} {tr : List (LaunchEvent ι D)} {device : ι}
  {outs : JString → AssetOutcome}

/-! ### Names in the cloud -/

/-- Every snapshot, uploaded or on its way, is named after a save file. -/
structure SaveNamed (p : JString) (s : State ι D) : Prop where
  cloud : ∀ n, s.cloud n ≠ [] → ∃ f, isSaveFile f ∧ n = getSnapshotName p f
  task : ∀ t ∈ s.tasks, ∃ f, isSaveFile f ∧ t.upload.snapshotName = getSnapshotName p f
  download : ∀ e, ∀ dl ∈ s.downloads e, snapshotFilename p dl.metadata.uniqueName = some dl.filename

omit [DecidableEq ι] [FileData D] in
lemma SaveNamed.of_emptyAccount (h : EmptyAccount s) : SaveNamed p s where
  cloud n hn := absurd (h.cloud n) hn
  task t ht := by simp [h.tasks] at ht
  download e dl hdl := by simp [h.downloads e] at hdl

omit [DecidableEq ι] [FileData D] in
/-- A download whose snapshot exists is of a save file. -/
lemma SaveNamed.isSaveFile (hs : SaveNamed p s) {e : ι} {dl : Download}
    (hdl : dl ∈ s.downloads e) (hc : s.cloud dl.metadata.uniqueName ≠ []) :
    isSaveFile dl.filename := by
  obtain ⟨f, hf, hn⟩ := hs.cloud _ hc
  have hname := (snapshotFilename_eq_some_iff.mp (hs.download e dl hdl)).1
  rw [getSnapshotName_injective p (hname.symm.trans hn)]
  exact hf

theorem Step.saveNamed (h : Step p s a s' es) (hs : SaveNamed p s) : SaveNamed p s' := by
  cases h with
  | update device files unreadable uploads hlist huploads =>
    refine ⟨hs.cloud, fun t ht => ?_, hs.download⟩
    rcases List.mem_append.mp ht with hold | hnew
    · exact hs.task t hold
    · have hu := (mem_newTasks hnew).1
      rw [huploads] at hu
      have hcap := captures_of_mem_updateSaveFiles hu
      exact ⟨t.upload.filename, hcap.isSave, hcap.name⟩
  | uploadOpened id opened t ht hopened =>
    refine ⟨hs.cloud, fun t' ht' => ?_, hs.download⟩
    rcases List.mem_cons.mp ht' with rfl | hold
    · exact hs.task t (mem_of_findTask ht).1
    · exact hs.task t' (List.mem_filter.mp hold).1
  | uploadLost id opened t ht hopened =>
    exact ⟨hs.cloud, fun t' ht' => hs.task t' (List.mem_filter.mp ht').1, hs.download⟩
  | committed id t ht =>
    refine ⟨fun n hn => ?_, fun t' ht' => hs.task t' (List.mem_filter.mp ht').1, hs.download⟩
    rw [State.pushCommit_cloud] at hn
    split_ifs at hn with heq
    · rw [heq]
      exact hs.task t (mem_of_findTask ht).1
    · exact hs.cloud n hn
  | commitFailed id t ht =>
    exact ⟨hs.cloud, fun t' ht' => hs.task t' (List.mem_filter.mp ht').1, hs.download⟩
  | restart device =>
    exact ⟨hs.cloud, fun t ht => hs.task t (List.mem_filter.mp ht).1,
      fun e dl hdl => hs.download e dl (State.mem_downloads_of_kill hdl)⟩
  | list device buffer hidle hload =>
    refine ⟨hs.cloud, hs.task, fun e dl hdl => ?_⟩
    rcases State.mem_downloads_of_list hdl with hold | ⟨_, _, _, hsel⟩
    · exact hs.download e dl hold
    · exact (selectSnapshot_eq_some_iff.mp hsel).2.1
  | download device dl revision out c hdl hc =>
    exact ⟨hs.cloud, hs.task,
      fun e dl' hdl' => hs.download e dl' (State.mem_downloads_of_erase hdl')⟩
  | _ => exact ⟨hs.cloud, hs.task, hs.download⟩

/-- Only a game changes a file that is not a save. -/
theorem Step.lookup_of_not_save (h : Step p s a s' es) (hs : SaveNamed p s)
    (hf : isSaveFile f = false) (hgame : ∀ data, a ≠ .gameWrite device f data) :
    (s'.directory device).lookup f = (s.directory device).lookup f := by
  apply h.lookup_eq
  · intro hwrote
    cases h with
    | gameWrite device' filename data hfile =>
      cases List.mem_singleton.mp hwrote
      exact hgame data rfl
    | migrate device' child out hnow =>
      split_ifs at hwrote with hm
      · cases List.mem_singleton.mp hwrote
        simp only [ChildDocument.matches, Bool.and_eq_true] at hm
        rw [isSaveFile, hm.1.1, hm.1.2] at hf
        cases hf
      · cases hwrote
    | _ => simp at hwrote
  · intro data hhanded
    cases h with
    | migrate device' child out hnow => split_ifs at hhanded <;> simp at hhanded
    | download device' dl revision out c hdl hc =>
      obtain ⟨data', _, heq⟩ := List.mem_map.mp hhanded
      cases heq
      rw [hs.isSaveFile hdl (List.ne_nil_of_mem (List.mem_of_getElem? hc))] at hf
      cases hf
    | _ => simp at hhanded

/-! ### The assets of a device -/

lemma isSaveFile_of_mem_getAssetsToCopy (h : asset ∈ getAssetsToCopy) :
    isSaveFile asset = false := by
  have hall : ∀ asset ∈ getAssetsToCopy, isSaveFile asset = false := by decide
  exact hall asset h

lemma launchCopies_nodup (outs : JString → AssetOutcome) :
    ((launchCopies outs).map Prod.fst).Nodup := by
  rw [launchCopies, List.map_map]
  exact List.Nodup.map Function.injective_id (by decide : getAssetsToCopy.Nodup)

/-- What the last replacement has left, if there was one. -/
def lastLeft (assets : JString → Option D) (asset : JString) (outs : List AssetOutcome)
    (old : Option (Node D)) : Option (Node D) :=
  outs.getLast?.elim old fun out => out.replacement assets asset

lemma lastLeft_append (outs outs' : List AssetOutcome) (old : Option (Node D)) :
    lastLeft assets asset (outs ++ outs') old =
      lastLeft assets asset outs' (lastLeft assets asset outs old) := by
  rw [lastLeft, lastLeft, lastLeft, List.getLast?_append]
  cases outs'.getLast? <;> rfl

omit [FileData D] in
/-- The one pass of a call that may replace `asset`. -/
lemma replacedAs_launch (hasset : asset ∈ getAssetsToCopy) (e : ι) :
    ((((launchCopies outs).filter fun c => c.2.replaces assets c.1).map fun c =>
      (.replaced e c.1 c.2 : LaunchEvent ι D)).filterMap (replacedAs device asset)) =
        if e = device ∧ (outs asset).replaces assets asset then [outs asset] else [] := by
  have hlist : getAssetsToCopy = [asset] := by
    rw [getAssetsToCopy, List.mem_singleton] at hasset
    rw [getAssetsToCopy, hasset]
  simp only [launchCopies, hlist, List.map_cons, List.map_nil, List.filter_cons, List.filter_nil]
  by_cases he : e = device <;> cases (outs asset).replaces assets asset <;>
    simp [replacedAs, he]

theorem launchStep_spec {la : LaunchAction ι D} {les : List (LaunchEvent ι D)}
    (hstep : launchStep p assets s la = some (s', les)) (hs : SaveNamed p s)
    (hok : SparesAsset device asset s la) (hasset : asset ∈ getAssetsToCopy) :
    SaveNamed p s' ∧ (s'.directory device).lookup asset =
      lastLeft assets asset (les.filterMap (replacedAs device asset))
        ((s.directory device).lookup asset) := by
  cases la with
  | sync a =>
    obtain ⟨⟨s₁, es⟩, hsync, heq⟩ := Option.map_eq_some_iff.mp hstep
    cases heq
    have hnone : (es.map LaunchEvent.sync).filterMap (replacedAs device asset) = [] := by
      rw [List.filterMap_map]
      exact List.filterMap_eq_nil_iff.mpr fun _ _ => rfl
    refine ⟨(Step.of_step hsync).saveNamed hs, ?_⟩
    rw [hnone]
    apply (Step.of_step hsync).lookup_of_not_save hs (isSaveFile_of_mem_getAssetsToCopy hasset)
    rintro data rfl
    exact hok ⟨rfl, rfl⟩
  | copyAssets e outs =>
    simp only [launchStep] at hstep
    split_ifs at hstep
    cases hstep
    refine ⟨⟨hs.cloud, hs.task, hs.download⟩, ?_⟩
    rw [replacedAs_launch hasset, State.setDirectory_directory]
    by_cases he : e = device
    · subst he
      have hmem : (asset, outs asset) ∈ launchCopies outs :=
        List.mem_map.mpr ⟨asset, hasset, rfl⟩
      rw [if_pos rfl, copyAssets_lookup (launchCopies_nodup outs) hmem, AssetOutcome.leaves_eq]
      cases (outs asset).replaces assets asset <;> simp [lastLeft]
    · rw [if_neg (Ne.symm he), if_neg fun h => he h.1]
      rfl

/-- Whatever the devices and the service do, the entry of an asset is what the last start that
replaced it has left: complete if that copy ran to its end, truncated or missing if not. -/
theorem scripts_of_last_launch (h₀ : EmptyAccount s₀) (hasset : asset ∈ getAssetsToCopy)
    (h : (launches ι D p assets).Run (SparesAsset device asset) s₀ tr s) :
    (s.directory device).lookup asset =
      lastLeft assets asset (tr.filterMap (replacedAs device asset))
        ((s₀.directory device).lookup asset) := by
  have hinv : SaveNamed p s ∧ (s.directory device).lookup asset =
      lastLeft assets asset (tr.filterMap (replacedAs device asset))
        ((s₀.directory device).lookup asset) := by
    refine h.invariant (fun tr s => SaveNamed p s ∧ (s.directory device).lookup asset =
      lastLeft assets asset (tr.filterMap (replacedAs device asset))
        ((s₀.directory device).lookup asset)) ⟨.of_emptyAccount h₀, rfl⟩ ?_
    intro tr s la s' les _ hs hok hstep
    obtain ⟨hnamed, hlookup⟩ := launchStep_spec hstep hs.1 hok hasset
    refine ⟨hnamed, ?_⟩
    rw [hlookup, hs.2, List.filterMap_append, lastLeft_append]
  exact hinv.2

end

/-- A start whose copy breaks off, a save that goes to the cloud and back, and a start that cannot
delete the file. -/
theorem scripts_of_last_launch_truncated : ∃ s : State Bool (List UInt8),
    (s.directory false).contents "GameScripts.rxdata".toList = some [7] := by
  obtain ⟨tr, s, hrun, htr⟩ := Machine.Run.exists_of_exec
    (launches Bool (List UInt8) "org.ancurio.mkxp".toList fun _ => some [7, 8])
    (SparesAsset false "GameScripts.rxdata".toList) twoDevices
    [.copyAssets false fun _ => { now := 0, copied := .failsAfter 1 },
      .sync (.update false (some ["GameScripts.rxdata".toList, "Save1.rxdata".toList]) []),
      .sync (.openUpload 0 .opens), .sync (.commit 0 true),
      .sync (.list true (some [⟨"org.ancurio.mkxp_Save1.rxdata".toList, 0⟩])),
      .copyAssets false fun _ => { now := 0, deleteFails := true }]
    (fun _ tr => (lastLeft (fun _ => some ([7, 8] : List UInt8)) "GameScripts.rxdata".toList
      (tr.filterMap (replacedAs false "GameScripts.rxdata".toList))
      ((twoDevices.directory false).lookup "GameScripts.rxdata".toList)).bind Node.asFile =
        some ([7], 0)) (by decide)
  refine ⟨s, ?_⟩
  have hlast := scripts_of_last_launch ⟨fun _ => rfl, rfl, fun _ => rfl⟩ (by decide) hrun
  rw [Directory.contents, Directory.fileAt, hlast]
  exact congrArg (Option.map Prod.fst) htr

end AndroidMkxp.Sync
