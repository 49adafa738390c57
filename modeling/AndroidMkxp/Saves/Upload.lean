import AndroidMkxp.Saves.Names

/-!
# Uploading saves

`MKXPActivity.updateSaveFiles` runs when the game announces a save. It has no record of what is in
the cloud: it uploads every save file that was modified during the last 15 seconds.
-/

namespace AndroidMkxp

/-- What the listeners of one upload capture, with the modification time that let it pass. -/
structure Upload (D : Type) where
  filename : JString
  snapshotName : JString
  finalData : D
  lastModified : ℤ

/-- How long ago a file may have been modified to be uploaded. -/
def uploadWindow : ℤ := 15000

variable {D : Type} {savePackageName f : JString} {now : ℤ} {dir : Directory D}
  {files : Option (List JString)} {unreadable : List JString} {u : Upload D}

/-- One pass of the loop. `Files.readAllBytes` throws on the files in `unreadable`. -/
def updateSaveFile (savePackageName : JString) (now : ℤ) (dir : Directory D)
    (unreadable : List JString) (filename : JString) : Option (Upload D) :=
  match dir.fileAt filename with
  | none                      => none
  | some (data, lastModified) =>
    if lastModified > now - uploadWindow ∧ isSaveFile filename then
      if filename ∈ unreadable then none
      else some ⟨filename, getSnapshotName savePackageName filename, data, lastModified⟩
    else none

/-- `MKXPActivity.updateSaveFiles`, with the result of `listFiles()`, which may be `null`. The
result are the uploads it starts, in order. -/
def updateSaveFiles (savePackageName : JString) (now : ℤ) (dir : Directory D)
    (unreadable : List JString) : Option (List JString) → List (Upload D)
  | none       => []
  | some files => files.filterMap (updateSaveFile savePackageName now dir unreadable)

lemma updateSaveFile_eq_some_iff : updateSaveFile savePackageName now dir unreadable f = some u ↔
    ∃ data t, dir.fileAt f = some (data, t) ∧ t > now - uploadWindow ∧ isSaveFile f ∧
      f ∉ unreadable ∧ u = ⟨f, getSnapshotName savePackageName f, data, t⟩ := by
  unfold updateSaveFile
  cases hf : dir.fileAt f with
  | none => simp
  | some c =>
    obtain ⟨data, t⟩ := c
    simp only [Option.some.injEq, Prod.mk.injEq, ↓existsAndEq, true_and]
    split_ifs with hsel hread
    · simp [hread]
    · simp [hsel, hread, eq_comm]
    · constructor
      · intro h
        cases h
      · rintro ⟨ht, hsave, _⟩
        exact absurd ⟨ht, hsave⟩ hsel

/-- What is known of every upload that a call starts. -/
structure Upload.Captures (savePackageName : JString) (now : ℤ) (dir : Directory D)
    (u : Upload D) : Prop where
  fileAt : dir.fileAt u.filename = some (u.finalData, u.lastModified)
  window : u.lastModified > now - uploadWindow
  isSave : isSaveFile u.filename
  name : u.snapshotName = getSnapshotName savePackageName u.filename

lemma mem_updateSaveFiles_iff {listing : List JString} :
    u ∈ updateSaveFiles savePackageName now dir unreadable (some listing) ↔
      u.filename ∈ listing ∧ u.filename ∉ unreadable ∧ u.Captures savePackageName now dir := by
  constructor
  · intro h
    obtain ⟨f, hmem, hf⟩ := List.mem_filterMap.mp h
    obtain ⟨data, t, hfile, ht, hsave, hread, rfl⟩ := updateSaveFile_eq_some_iff.mp hf
    exact ⟨hmem, hread, hfile, ht, hsave, rfl⟩
  · rintro ⟨hmem, hread, hu⟩
    refine List.mem_filterMap.mpr ⟨u.filename, hmem, updateSaveFile_eq_some_iff.mpr
      ⟨u.finalData, u.lastModified, hu.fileAt, hu.window, hu.isSave, hread, ?_⟩⟩
    rw [← hu.name]

lemma captures_of_mem_updateSaveFiles
    (h : u ∈ updateSaveFiles savePackageName now dir unreadable files) :
    u.Captures savePackageName now dir := by
  cases files with
  | none => cases h
  | some files => exact (mem_updateSaveFiles_iff.mp h).2.2

end AndroidMkxp
