import AndroidMkxp.Saves.Migration
import Mathlib.Data.List.TakeDrop

/-!
# Assets

`MKXPActivity.copyAssets` puts the scripts of the game into the directory of the app each time the
activity is created. Other than the migration of saves, it opens the asset before it deletes the old
file, so that an asset which cannot be opened costs nothing; a copy that breaks off leaves a
truncated file, until the next start.
-/

namespace AndroidMkxp

/-- How the calls made for one asset end, and when they are made. -/
structure AssetOutcome where
  now : ℤ
  openFails : Bool := false
  deleteFails : Bool := false
  copied : WriteEnd := .completes
  closeFails : Bool := false

/-- Android assets to copy to the game folder -/
def getAssetsToCopy : List JString := ["GameScripts.rxdata".toList]

section

variable {D : Type} [FileData D]

/-- The stream that `assetManager.open(asset)` returns, where `assets` are those of the package. -/
def AssetOutcome.stream (out : AssetOutcome) (assets : JString → Option D) (asset : JString) :
    Option D :=
  if out.openFails then none else assets asset

/-- `assetManager.open(asset)` -/
def openAsset (assets : JString → Option D) (asset : JString) (out : AssetOutcome) : FileM D D :=
  match out.stream assets asset with
  | none      => throw .ioException
  | some data => pure data

/-- One pass of the loop. -/
def copyAsset (assets : JString → Option D) (asset : JString) (out : AssetOutcome) :
    FileM D Unit := do
  tryCatch (do
    let data ← openAsset assets asset out
    Files.deleteIfExists asset out.deleteFails
    Files.copy out.now data asset out.copied)
    fun _ => pure ()
  if (out.stream assets asset).isSome then
    tryCatch (closeStream out.closeFails) fun _ => pure ()

def copyAssets (assets : JString → Option D) : List (JString × AssetOutcome) → FileM D Unit
  | []                   => pure ()
  | (asset, out) :: rest => do
    copyAsset assets asset out
    copyAssets assets rest

variable {assets : JString → Option D} {asset name : JString} {out : AssetOutcome}
  {dir : Directory D} {copies : List (JString × AssetOutcome)} {data : D}

/-- A pass never throws; without a stream it does nothing, and neither does it without the
deletion. -/
lemma copyAsset_exec : (copyAsset assets asset out).exec dir =
    (.ok (), match out.stream assets asset with
      | none => dir
      | some data =>
        if out.deleteFails then dir
        else (out.copied.left data).elim (dir.erase asset)
          fun left => Directory.putFile (dir.erase asset) asset left out.now) := by
  have hnone : AList.lookup asset (AList.erase asset dir) = none := AList.lookup_erase ..
  cases hstream : out.stream assets asset with
  | none => simp [copyAsset, openAsset, hstream, FileM.exec_tryCatch]
  | some data =>
    simp only [copyAsset, openAsset, hstream, FileM.exec_bind, FileM.exec_tryCatch,
      FileM.exec_pure, Files.exec_deleteIfExists, Option.isSome_some, if_true]
    cases out.deleteFails with
    | true => cases out.closeFails <;> rfl
    | false =>
      simp only [Bool.false_eq_true, if_false, Files.exec_copy_of_none hnone]
      cases out.copied <;> cases out.closeFails <;> rfl

/-- What a pass leaves under the name of its asset. -/
def AssetOutcome.leaves (out : AssetOutcome) (assets : JString → Option D) (asset : JString)
    (old : Option (Node D)) : Option (Node D) :=
  match out.stream assets asset with
  | none      => old
  | some data =>
    if out.deleteFails then old
    else (out.copied.left data).map fun left => .file left out.now

lemma copyAsset_lookup_self : ((copyAsset assets asset out).exec dir).2.lookup asset =
    out.leaves assets asset (dir.lookup asset) := by
  rw [copyAsset_exec, AssetOutcome.leaves]
  cases out.stream assets asset with
  | none => rfl
  | some data =>
    simp only
    split_ifs
    · rfl
    · cases out.copied.left data with
      | none => exact AList.lookup_erase ..
      | some left => exact Directory.lookup_putFile_self

lemma copyAsset_lookup_of_ne (hne : name ≠ asset) :
    ((copyAsset assets asset out).exec dir).2.lookup name = dir.lookup name := by
  rw [copyAsset_exec]
  cases out.stream assets asset with
  | none => rfl
  | some data =>
    simp only
    split_ifs
    · rfl
    · cases out.copied.left data with
      | none => exact AList.lookup_erase_ne hne
      | some left =>
        rw [Option.elim_some, Directory.lookup_putFile, if_neg hne, AList.lookup_erase_ne hne]

/-! ### The loop -/

lemma copyAssets_cons_exec : ((copyAssets assets ((asset, out) :: copies)).exec dir).2 =
    ((copyAssets assets copies).exec ((copyAsset assets asset out).exec dir).2).2 := by
  rw [copyAssets, FileM.exec_bind_of_ok _ (congrArg Prod.fst copyAsset_exec)]

lemma copyAssets_lookup_of_ne (hne : ∀ c ∈ copies, name ≠ c.1) :
    ((copyAssets assets copies).exec dir).2.lookup name = dir.lookup name := by
  induction copies generalizing dir with
  | nil => rfl
  | cons c rest ih =>
    rw [copyAssets_cons_exec, ih fun c hc => hne c (List.mem_cons_of_mem _ hc)]
    exact copyAsset_lookup_of_ne (hne c List.mem_cons_self)

/-- Each asset is decided by its own pass alone. -/
lemma copyAssets_lookup (hnd : (copies.map Prod.fst).Nodup) (hmem : (asset, out) ∈ copies) :
    ((copyAssets assets copies).exec dir).2.lookup asset =
      out.leaves assets asset (dir.lookup asset) := by
  induction copies generalizing dir with
  | nil => cases hmem
  | cons c rest ih =>
    obtain ⟨a, o⟩ := c
    rw [List.map_cons, List.nodup_cons] at hnd
    rw [copyAssets_cons_exec]
    rcases List.mem_cons.mp hmem with heq | hrest
    · cases heq
      have hlater : ∀ c ∈ rest, asset ≠ c.1 := fun c hc heq =>
        hnd.1 (List.mem_map.mpr ⟨c, hc, heq.symm⟩)
      rw [copyAssets_lookup_of_ne hlater, copyAsset_lookup_self]
    · have hne : asset ≠ a := fun heq => hnd.1 (List.mem_map.mpr ⟨_, hrest, heq⟩)
      rw [ih hnd.2 hrest, copyAsset_lookup_of_ne hne]

/-- The pass opens the asset and then deletes the old file. -/
def AssetOutcome.replaces (out : AssetOutcome) (assets : JString → Option D) (asset : JString) :
    Bool :=
  (out.stream assets asset).isSome && !out.deleteFails

/-- What a replacement puts in place of the old file. -/
def AssetOutcome.replacement (out : AssetOutcome) (assets : JString → Option D)
    (asset : JString) : Option (Node D) :=
  (assets asset).bind fun data => (out.copied.left data).map fun left => .file left out.now

omit [FileData D] in
lemma AssetOutcome.assets_of_stream (h : out.stream assets asset = some data) :
    assets asset = some data := by
  rw [stream] at h
  split_ifs at h
  exact h

lemma AssetOutcome.leaves_eq (out : AssetOutcome) (old : Option (Node D)) :
    out.leaves assets asset old =
      if out.replaces assets asset then out.replacement assets asset else old := by
  rw [leaves, replaces, replacement]
  cases hstream : out.stream assets asset with
  | none => rfl
  | some data =>
    rw [assets_of_stream hstream]
    cases out.deleteFails <;> rfl

/-! ### When no asset is damaged -/

/-- Each asset is there with its complete contents, or its entry is as it was, and so is every
other entry. -/
structure AssetsKept (assets : JString → Option D) (copies : List (JString × AssetOutcome))
    (before after : Directory D) : Prop where
  asset : ∀ c ∈ copies, (∃ data, assets c.1 = some data ∧ after.contents c.1 = some data) ∨
    after.lookup c.1 = before.lookup c.1
  others : ∀ name, (∀ c ∈ copies, name ≠ c.1) → after.lookup name = before.lookup name

/-- The asset cannot be opened; or the old file cannot be deleted; or the copy runs to its end; or
it never creates the file and there was none; or it breaks off with exactly the new contents or the
old file written. -/
def AssetHarmless (assets : JString → Option D) (dir : Directory D) (asset : JString)
    (out : AssetOutcome) : Prop :=
  match out.stream assets asset with
  | none      => True
  | some data => out.deleteFails = true ∨
    match out.copied with
    | .completes    => True
    | .failsToOpen  => dir.lookup asset = none
    | .failsAfter n => FileData.take n data = data ∨
        dir.lookup asset = some (.file (FileData.take n data) out.now)

lemma assetHarmless_iff {after : Directory D}
    (hafter : after.lookup asset = out.leaves assets asset (dir.lookup asset)) :
    AssetHarmless assets dir asset out ↔
      (∃ data, assets asset = some data ∧ after.contents asset = some data) ∨
        after.lookup asset = dir.lookup asset := by
  rw [AssetOutcome.leaves] at hafter
  unfold AssetHarmless
  cases hstream : out.stream assets asset with
  | none =>
    rw [hstream] at hafter
    exact iff_of_true trivial (Or.inr hafter)
  | some data =>
    have hdata := AssetOutcome.assets_of_stream hstream
    rw [hstream] at hafter
    simp only at hafter ⊢
    split_ifs at hafter with hdelete
    · exact iff_of_true (Or.inl hdelete) (Or.inr hafter)
    · cases hcopied : out.copied with
      | completes =>
        rw [hcopied] at hafter
        refine iff_of_true (Or.inr trivial) (Or.inl ⟨data, hdata, ?_⟩)
        rw [Directory.contents, Directory.fileAt_of_file hafter]
        rfl
      | failsToOpen =>
        rw [hcopied] at hafter
        have hcontents : after.contents asset = none := by
          rw [Directory.contents, Directory.fileAt_eq_none_of_lookup hafter]
          rfl
        simp [hdelete, hcontents, hafter, WriteEnd.left, eq_comm]
      | failsAfter n =>
        rw [hcopied] at hafter
        have hcontents : after.contents asset = some (FileData.take n data) := by
          rw [Directory.contents, Directory.fileAt_of_file hafter]
          rfl
        simp [hdelete, hcontents, hafter, hdata, WriteEnd.left, eq_comm]

/-- The exact condition under which a start damages no asset, whatever fails on the way. -/
theorem copyAssets_keeps_iff (hnd : (copies.map Prod.fst).Nodup) :
    AssetsKept assets copies dir ((copyAssets assets copies).exec dir).2 ↔
      ∀ c ∈ copies, AssetHarmless assets dir c.1 c.2 := by
  constructor
  · intro h c hc
    exact (assetHarmless_iff (copyAssets_lookup hnd hc)).mpr (h.asset c hc)
  · intro h
    exact ⟨fun c hc => (assetHarmless_iff (copyAssets_lookup hnd hc)).mp (h c hc),
      fun name hne => copyAssets_lookup_of_ne hne⟩

end

/-- The asset is missing from the package, and the copy of the last start stays. With an asset that
is there, a copy that breaks off after the first byte damages it, and one that breaks off after the
last byte does not. -/
theorem copyAssets_keeps_iff_missing :
    let asset := "GameScripts.rxdata".toList
    let dir := Directory.putFile ∅ asset ([1, 2] : List UInt8) 0
    AssetsKept (fun _ => none) [(asset, { now := 5 })] dir
        ((copyAssets (fun _ => none) [(asset, { now := 5 })]).exec dir).2 ∧
      ∀ n, AssetsKept (fun _ => some [3, 4, 5]) [(asset, { now := 5, copied := .failsAfter n })] dir
        ((copyAssets (fun _ => some [3, 4, 5])
          [(asset, { now := 5, copied := .failsAfter n })]).exec dir).2 ↔ 3 ≤ n := by
  intro asset dir
  constructor
  · refine (copyAssets_keeps_iff (by simp)).mpr fun c hc => ?_
    rw [List.mem_singleton.mp hc]
    trivial
  · intro n
    have hold : dir.lookup asset = some (.file [1, 2] 0) := Directory.lookup_putFile_self
    rw [copyAssets_keeps_iff (by simp), List.forall_mem_singleton]
    simp only [AssetHarmless, AssetOutcome.stream, hold, FileData.take]
    simp

end AndroidMkxp
