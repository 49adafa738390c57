import AndroidMkxp.Sync.Pending
import AndroidMkxp.Sync.Uploads

/-!
# Downloads that are uploaded again

Nothing marks a file as downloaded. `updateSaveFiles` goes by the modification time alone, and a
callback of `loadSaveGames` sets it to the timestamp of the snapshot, or leaves the current time if
it fails halfway. So a downloaded save goes back to the cloud for as long as that time is less than
15 seconds ago.
-/

namespace AndroidMkxp.Sync

open Foundation

variable {ι D : Type} [DecidableEq ι] [FileData D] {p : JString} {s₁ s s' : State ι D}
  {device : ι} {dl : Download} {out : DownloadOutcome} {es : List (Event ι D)}
  {files : Option (List JString)} {unreadable : List JString}

/-- At `s₁` the callback of `dl` opens its file to write it, and nobody touches the file on the way
from there to `s`. -/
def Restored (p : JString) (device : ι) (dl : Download) (out : DownloadOutcome)
    (s₁ s : State ι D) : Prop :=
  ∃ revision c s₂ es tr, (s₁.cloud dl.metadata.uniqueName)[revision]? = some c ∧
    (out.landed s₁.now dl.metadata.lastModifiedTimestamp c.data).isSome ∧
    (s₁.directory device).lookup dl.filename ≠ some .folder ∧
    step p s₁ (.download device dl revision out) = some (s₂, es) ∧
    (system ι D p).Run (fun _ _ => True) s₂ tr s ∧
    .wrote device dl.filename ∉ tr ∧ ∀ data, .handed device dl.filename data ∉ tr

/-- A call of `updateSaveFiles` after a load uploads no file that a callback of the load has written
last, if the listing is not from the future. -/
def NoEcho (ι D : Type) [DecidableEq ι] [FileData D] (p : JString) : Prop :=
  ∀ (s₀ s₁ s₂ s s' : State ι D) (tr es es' : List (Event ι D)) (device : ι)
    (buffer : List SnapshotMetadata) (dl : Download) (out : DownloadOutcome)
    (files : Option (List JString)) (unreadable : List JString),
    (∀ md ∈ buffer, md.lastModifiedTimestamp ≤ s₀.now) →
    step p s₀ (.list device (some buffer)) = some (s₁, es) →
    (system ι D p).Run (fun _ _ => True) s₁ tr s₂ → Restored p device dl out s₂ s →
    s.downloads device = [] → step p s (.update device files unreadable) = some (s', es') →
    ∀ id data, .read id device dl.filename data ∉ es'

/-- The file is as the callback has left it. -/
lemma Restored.fileAt (h : Restored p device dl out s₁ s) :
    ∃ left, (s.directory device).fileAt dl.filename =
      some (left, out.stamp s₁.now dl.metadata.lastModifiedTimestamp) := by
  obtain ⟨revision, c, s₂, es, tr, hc, hlanded, hfile, hstep, hrun, hwrote, hhanded⟩ := h
  obtain ⟨⟨left, m⟩, hleft⟩ := Option.isSome_iff_exists.mp hlanded
  obtain ⟨_, _, _, rfl⟩ := DownloadOutcome.landed_eq_some_iff.mp hleft
  refine ⟨left, ?_⟩
  rw [Directory.fileAt, lookup_eq_of_run hrun hwrote hhanded]
  cases Step.of_step hstep with
  | download _ _ _ _ c' hdl hc' =>
    cases hc.symm.trans hc'
    rw [State.setDirectory_directory, if_pos rfl, onSnapshotOpened_exec hfile, hleft]
    exact Directory.fileAt_putFile_self

/-- The download of a save that another device has uploaded 10 seconds ago. -/
def recentDownload : Download :=
  ⟨⟨"org.ancurio.mkxp_Save1.rxdata".toList, 90000⟩, "Save1.rxdata".toList⟩

/-- The device `loading` calls `updateSaveFiles` right after the callback. -/
lemma restored_recentDownload : ∃ s₁ s s' es,
    step "org.ancurio.mkxp".toList loading (.list () (some [recentDownload.metadata])) =
      some (s₁, []) ∧
    Restored "org.ancurio.mkxp".toList () recentDownload {} s₁ s ∧ s.downloads () = [] ∧
    s.now = 100000 ∧
    step "org.ancurio.mkxp".toList s (.update () (some ["Save1.rxdata".toList]) []) =
      some (s', es) ∧ es = [.read 0 () "Save1.rxdata".toList [9]] := by
  have hexec : ∃ r ∈ step "org.ancurio.mkxp".toList (loading.setDownloads () [recentDownload])
        (.download () recentDownload 0 {}), r.1.downloads () = [] ∧ r.1.now = 100000 ∧
      ∃ r' ∈ step "org.ancurio.mkxp".toList r.1 (.update () (some ["Save1.rxdata".toList]) []),
        r'.2 = [.read 0 () "Save1.rxdata".toList [9]] := by decide
  obtain ⟨⟨s, es₁⟩, hdownload, hidle, hnow, ⟨s', es⟩, hcall, hes⟩ := hexec
  have hsel : selectSnapshots "org.ancurio.mkxp".toList (loading.directory ())
      (some [recentDownload.metadata]) = [recentDownload] := by decide
  have hlist := (Step.list () (some [recentDownload.metadata]) rfl (by decide) :
    Step "org.ancurio.mkxp".toList loading _ _ _).step_eq
  rw [hsel] at hlist
  refine ⟨_, s, s', es, hlist, ?_, hidle, hnow, hcall, hes⟩
  have hfile : (Directory.putFile ∅ "Save1.rxdata".toList ([1] : List UInt8) 0).lookup
      "Save1.rxdata".toList ≠ some .folder := by
    rw [Directory.lookup_putFile_self]
    simp
  exact ⟨0, ⟨[9], 90000⟩, s, es₁, [], rfl, rfl, hfile, hdownload, .refl, by simp, by simp⟩

/-- A call uploads a downloaded file again exactly if it is a save file that can be listed and read,
and the time that the callback has left is less than 15 seconds ago. -/
theorem read_of_restored_iff (h : Restored p device dl out s₁ s)
    (hcall : step p s (.update device files unreadable) = some (s', es)) :
    (∃ id data, .read id device dl.filename data ∈ es) ↔
      files.isSome ∧ isSaveFile dl.filename ∧ dl.filename ∉ unreadable ∧
        out.stamp s₁.now dl.metadata.lastModifiedTimestamp > s.now - 15000 := by
  obtain ⟨left, hf⟩ := h.fileAt
  constructor
  · rintro ⟨id, data, hread⟩
    obtain ⟨hfiles, hsave, hreadable, m, hf', hm⟩ := (exists_read_iff hcall).mp ⟨id, hread⟩
    cases hf.symm.trans hf'
    exact ⟨hfiles, hsave, hreadable, hm⟩
  · rintro ⟨hfiles, hsave, hreadable, hm⟩
    obtain ⟨id, hread⟩ := (exists_read_iff hcall).mpr ⟨hfiles, hsave, hreadable, _, hf, hm⟩
    exact ⟨id, left, hread⟩

/-- The restored save goes straight back. -/
theorem read_of_restored_recentDownload : ∃ (s s' : State Unit (List UInt8)) (es : _),
    step "org.ancurio.mkxp".toList s (.update () (some ["Save1.rxdata".toList]) []) =
      some (s', es) ∧ ∃ id data, .read id () "Save1.rxdata".toList data ∈ es := by
  obtain ⟨s₁, s, s', es, hlist, hrestored, _, hnow, hcall, _⟩ := restored_recentDownload
  refine ⟨s, s', es, hcall, (read_of_restored_iff hrestored hcall).mpr ?_⟩
  refine ⟨rfl, by decide, by simp, ?_⟩
  rw [hnow]
  show (90000 : ℤ) > 100000 - 15000
  decide

theorem not_noEcho : ¬ NoEcho Unit (List UInt8) "org.ancurio.mkxp".toList := by
  intro h
  obtain ⟨s₁, s, s', es, hlist, hrestored, hidle, _, hcall, hes⟩ := restored_recentDownload
  have hnone := h loading s₁ s₁ s s' [] [] es () _ _ _ _ _ (by decide) hlist .refl hrestored hidle
    hcall 0 [9]
  apply hnone
  rw [hes]
  exact List.mem_singleton.mpr rfl

end AndroidMkxp.Sync
