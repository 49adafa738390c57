import AndroidMkxp.Sync.Pending
import AndroidMkxp.Sync.Uploads

/-!
# Where restored saves come from

`loadSaveGames` does not test `isSaveFile`; it takes the name of the local file from the name of the
snapshot. In an account that only this app writes to, every snapshot was named by `getSnapshotName`
for a save file, and a name that is accepted is accepted for no other file. So what a download
writes to a file was read from a file of the same name.
-/

namespace AndroidMkxp.Sync

open Foundation

variable {ι D : Type} [DecidableEq ι] [FileData D] {p g : JString} {s s₀ s' : State ι D}
  {tr es : List (Event ι D)} {data : D}

/-- In the run with the trace `tr`, a call of `updateSaveFiles` on some device read `data` from the
local file `g`. -/
def ReadBefore (p : JString) (s₀ : State ι D) (tr : List (Event ι D)) (s : State ι D)
    (g : JString) (data : D) : Prop :=
  ∃ tr₁ s₁ id e files unreadable s₂ es tr₂, tr = tr₁ ++ (es ++ tr₂) ∧
    (system ι D p).Run (fun _ _ => True) s₀ tr₁ s₁ ∧
    step p s₁ (.update e files unreadable) = some (s₂, es) ∧
    (s₁.directory e).contents g = some data ∧ .read id e g data ∈ es ∧
    (system ι D p).Run (fun _ _ => True) s₂ tr₂ s

lemma readBefore_of_mem (h : (system ι D p).Run (fun _ _ => True) s₀ tr s) {id : ℕ} {e : ι}
    (hread : .read id e g data ∈ tr) : ReadBefore p s₀ tr s g data := by
  obtain ⟨tr₁, s₁, a, es, s₂, tr₂, hrun₁, _, hstep, hmem, hrun₂, rfl⟩ :=
    h.exists_step_of_mem hread
  obtain ⟨files, unreadable, rfl, hcontents⟩ := (Step.of_step hstep).contents_of_read hmem
  exact ⟨tr₁, s₁, id, e, files, unreadable, s₂, es, tr₂, rfl, hrun₁, hstep, hcontents, hmem,
    hrun₂⟩

/-- Every commit in the cloud carries bytes that were read from the save file it is named after. -/
theorem read_of_mem_cloud (h₀ : EmptyAccount s₀)
    (h : (system ι D p).Run (fun _ _ => True) s₀ tr s) {c : Commit D}
    (hc : c ∈ s.cloud (getSnapshotName p g)) :
    isSaveFile g ∧ ReadBefore p s₀ tr s g c.data := by
  have hacc : Accounted p tr s := accounted_of_run h₀.tasks h
  have hdata : c.data ∈ (s.cloud (getSnapshotName p g)).map Commit.data := List.mem_map_of_mem hc
  rw [cloud_eq_of_run h, h₀.cloud, List.map_nil, List.append_nil, List.mem_reverse] at hdata
  obtain ⟨⟨id, _⟩, hcommit, rfl⟩ := List.mem_map.mp hdata
  obtain ⟨e, hread⟩ := mem_reads.mp (hacc.mem_reads_of_mem_commits hcommit)
  exact ⟨hacc.read_isSave id e g _ hread, readBefore_of_mem h hread⟩

/-- In an account that started empty, whatever a download callback hands to `Files.write` for a
file `g` was read from a save file `g` before, and no callback touches a file that is not a save. -/
theorem restored_readBefore (h₀ : EmptyAccount s₀)
    (h : (system ι D p).Run (fun _ _ => True) s₀ tr s) {e : ι} {dl : Download} {revision : ℕ}
    {out : DownloadOutcome}
    (hstep : step p s (.download e dl revision out) = some (s', es)) :
    (∀ device g data, .handed device g data ∈ es → isSaveFile g ∧ ReadBefore p s₀ tr s g data) ∧
      ∀ device g, isSaveFile g = false →
        (s'.directory device).lookup g = (s.directory device).lookup g := by
  have hhanded : ∀ device g data, .handed device g data ∈ es →
      isSaveFile g ∧ ReadBefore p s₀ tr s g data := by
    intro device g data hmem
    cases Step.of_step hstep with
    | download _ _ _ _ c hdl hc =>
      simp only [List.mem_map, Option.mem_toList, DownloadOutcome.handed] at hmem
      obtain ⟨data', hout, heq⟩ := hmem
      cases heq
      split_ifs at hout
      cases hout
      have hname := (pendingNamed_of_run h₀.downloads h).name e dl hdl
      rw [(snapshotFilename_eq_some_iff.mp hname).1] at hc
      exact read_of_mem_cloud h₀ h (List.mem_of_getElem? hc)
  refine ⟨hhanded, ?_⟩
  intro device g hg
  apply (Step.of_step hstep).lookup_eq
  · cases Step.of_step hstep with
    | download => simp
  · intro data hmem
    rw [(hhanded device g data hmem).1] at hg
    cases hg

/-- Two devices at time 0, the first of which has a save. -/
def twoDevices : State Bool (List UInt8) where
  now := 0
  directory e := if e then ∅ else Directory.putFile ∅ "Save1.rxdata".toList [1] 0
  cloud _ := []
  tasks := []
  downloads _ := []
  started := 0
  gameWrites := 0

/-- The second device restores what the first one has read. -/
theorem restored_readBefore_save1 : ∃ tr s, ReadBefore "org.ancurio.mkxp".toList twoDevices tr s
    "Save1.rxdata".toList [1] := by
  obtain ⟨tr, s, s', es, hrun, hstep, hes⟩ := Machine.Run.exists_step_of_exec
    (system Bool (List UInt8) "org.ancurio.mkxp".toList) (fun _ _ => True) twoDevices
    [.update false (some ["Save1.rxdata".toList]) [], .openUpload 0 .opens, .commit 0 true,
      .list true (some [⟨"org.ancurio.mkxp_Save1.rxdata".toList, 0⟩])]
    (.download true ⟨⟨"org.ancurio.mkxp_Save1.rxdata".toList, 0⟩, "Save1.rxdata".toList⟩ 0 {})
    (fun _ _ es => es = [.handed true "Save1.rxdata".toList [1]])
    (by decide)
  refine ⟨tr, s,
    ((restored_readBefore ⟨fun _ => rfl, rfl, fun _ => rfl⟩ hrun hstep).1 true _ _ ?_).2⟩
  rw [hes]
  exact List.mem_singleton.mpr rfl

end AndroidMkxp.Sync
