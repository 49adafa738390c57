import AndroidMkxp.Saves.Names

/-!
# Downloading saves

`MKXPActivity.loadSaveGames` in two halves: the listing loop, which picks the snapshots to
download, and the callback that each of them gets when it has been opened.
-/

namespace AndroidMkxp

structure SnapshotMetadata where
  uniqueName : JString
  lastModifiedTimestamp : ℤ
  deriving DecidableEq

/-- What the callback of one download captures. -/
structure Download where
  metadata : SnapshotMetadata
  filename : JString
  deriving DecidableEq

/-- How old a local file has to be, compared with the snapshot, to be replaced. -/
def freshness : ℤ := 30000

/-- One pass of the listing loop. -/
def selectSnapshot {D : Type} (savePackageName : JString) (dir : Directory D)
    (metadata : SnapshotMetadata) : Option Download :=
  match snapshotFilename savePackageName metadata.uniqueName with
  | none          => none
  | some filename =>
    match dir.fileAt filename with
    | some (_, lastModified) =>
      -- skipping the remote file since the local version is fresh
      if metadata.lastModifiedTimestamp - lastModified < freshness then none
      else some ⟨metadata, filename⟩
    | none => some ⟨metadata, filename⟩

/-- The listing loop of `loadSaveGames` over the buffer, which may be `null`. -/
def selectSnapshots {D : Type} (savePackageName : JString) (dir : Directory D) :
    Option (List SnapshotMetadata) → List Download
  | none        => []
  | some buffer => buffer.filterMap (selectSnapshot savePackageName dir)

lemma selectSnapshot_eq_some_iff {D : Type} {p : JString} {dir : Directory D}
    {md : SnapshotMetadata} {dl : Download} : selectSnapshot p dir md = some dl ↔
      dl.metadata = md ∧ snapshotFilename p md.uniqueName = some dl.filename ∧
        ∀ data m, dir.fileAt dl.filename = some (data, m) →
          freshness ≤ md.lastModifiedTimestamp - m := by
  obtain ⟨md', filename'⟩ := dl
  unfold selectSnapshot
  cases hn : snapshotFilename p md.uniqueName with
  | none => simp
  | some filename =>
    simp only [Option.some.injEq]
    cases hf : dir.fileAt filename with
    | none =>
      simp only [Option.some.injEq, Download.mk.injEq]
      constructor
      · rintro ⟨rfl, rfl⟩
        exact ⟨rfl, rfl, by simp [hf]⟩
      · rintro ⟨rfl, rfl, _⟩
        exact ⟨rfl, rfl⟩
    | some c =>
      obtain ⟨data, m⟩ := c
      simp only
      split_ifs with hfresh
      · simp only [false_iff]
        rintro ⟨rfl, rfl, hexp⟩
        exact absurd hfresh (Int.not_lt.mpr (hexp data m hf))
      · simp only [Option.some.injEq, Download.mk.injEq]
        constructor
        · rintro ⟨rfl, rfl⟩
          refine ⟨rfl, rfl, fun data' m' hf' => ?_⟩
          cases hf.symm.trans hf'
          exact Int.not_lt.mp hfresh
        · rintro ⟨rfl, rfl, _⟩
          exact ⟨rfl, rfl⟩

/-- The result of `SnapshotsClient.open`. An opened snapshot stands for its contents. -/
inductive OpenResult (D : Type) where
  | failure
  | success (isConflict : Bool) (data : Option D)

/-- How `SnapshotsClient.open` ends. -/
inductive OpenEnd where
  | fails
  | conflict
  | noData
  | opens
  deriving DecidableEq, Repr

def OpenEnd.result {D : Type} (contents : D) : OpenEnd → OpenResult D
  | .fails    => .failure
  | .conflict => .success true none
  | .noData   => .success false none
  | .opens    => .success false (some contents)

/-- How the calls made by the callback of one download end. -/
structure DownloadOutcome where
  opened : OpenEnd := .opens
  readFails : Bool := false
  written : WriteEnd := .completes
  setTimeFails : Bool := false
  deriving DecidableEq, Repr

section

variable {D : Type} [FileData D]

/-- The success listener of a download. -/
def onSnapshotOpened (now : ℤ) (download : Download) (sres : OpenResult D)
    (out : DownloadOutcome) : FileM D Unit :=
  match sres with
  | .failure => pure ()
  | .success isConflict data =>
    if isConflict then pure ()
    else match data with
      | none          => pure ()
      | some snapshot =>
        if out.readFails then pure ()
        else tryCatch (do
          Files.write now download.filename snapshot out.written
          Files.setLastModifiedTime download.filename download.metadata.lastModifiedTimestamp
            out.setTimeFails)
          fun _ => pure ()

/-- The bytes that the callback hands to `Files.write`, if it gets there. -/
def DownloadOutcome.handed (out : DownloadOutcome) (contents : D) : Option D :=
  if out.opened = .opens ∧ out.readFails = false then some contents else none

/-- The modification time of a file that the callback has written. -/
def DownloadOutcome.stamp (out : DownloadOutcome) (now timestamp : ℤ) : ℤ :=
  if out.written = .completes ∧ out.setTimeFails = false then timestamp else now

/-- What the callback leaves in the local file, if it gets to open it. -/
def DownloadOutcome.landed (out : DownloadOutcome) (now timestamp : ℤ) (contents : D) :
    Option (D × ℤ) :=
  (out.handed contents).bind fun data =>
    (out.written.left data).map fun left => (left, out.stamp now timestamp)

variable {now t : ℤ} {dl : Download} {contents data : D} {out : DownloadOutcome}
  {dir : Directory D}

lemma DownloadOutcome.landed_eq_some_iff {left : D} {m : ℤ} :
    out.landed now t contents = some (left, m) ↔ ∃ data, out.handed contents = some data ∧
      out.written.left data = some left ∧ m = out.stamp now t := by
  simp only [landed, Option.bind_eq_some_iff, Option.map_eq_some_iff, Prod.mk.injEq]
  constructor
  · rintro ⟨data, hhanded, left', hleft, rfl, rfl⟩
    exact ⟨data, hhanded, hleft, rfl⟩
  · rintro ⟨data, hhanded, hleft, rfl⟩
    exact ⟨data, hhanded, left, hleft, rfl, rfl⟩

lemma onSnapshotOpened_exec_folder (h : dir.lookup dl.filename = some .folder) :
    ((onSnapshotOpened now dl (out.opened.result contents) out).exec dir).2 = dir := by
  obtain ⟨opened, readFails, written, setTimeFails⟩ := out
  cases opened <;> try rfl
  cases readFails
  · simp [onSnapshotOpened, OpenEnd.result, FileM.exec_tryCatch, FileM.exec_bind,
      Files.exec_write_folder h]
  · rfl

lemma onSnapshotOpened_exec (h : dir.lookup dl.filename ≠ some .folder) :
    ((onSnapshotOpened now dl (out.opened.result contents) out).exec dir).2 =
      (out.landed now dl.metadata.lastModifiedTimestamp contents).elim dir
        fun c => dir.putFile dl.filename c.1 c.2 := by
  obtain ⟨opened, readFails, written, setTimeFails⟩ := out
  cases opened <;> try rfl
  cases readFails
  · simp only [onSnapshotOpened, OpenEnd.result, Bool.false_eq_true, if_false,
      FileM.exec_tryCatch, FileM.exec_bind, Files.exec_write h]
    cases written with
    | failsToOpen => rfl
    | failsAfter n => rfl
    | completes =>
      simp only [WriteEnd.result, WriteEnd.left, Option.elim_some,
        Files.exec_setLastModifiedTime_putFile]
      cases setTimeFails <;> rfl
  · rfl

/-- The callback leaves every entry as it is, but for the file of its download if it opens it. -/
lemma onSnapshotOpened_lookup (now : ℤ) (dl : Download) (contents : D) (out : DownloadOutcome)
    (dir : Directory D) (name : JString) :
    ((onSnapshotOpened now dl (out.opened.result contents) out).exec dir).2.lookup name =
        dir.lookup name ∨
      name = dl.filename ∧ ∃ left m,
        out.landed now dl.metadata.lastModifiedTimestamp contents = some (left, m) ∧
        ((onSnapshotOpened now dl (out.opened.result contents) out).exec dir).2.lookup name =
          some (.file left m) := by
  by_cases h : dir.lookup dl.filename = some .folder
  · rw [onSnapshotOpened_exec_folder h]
    exact Or.inl rfl
  · rw [onSnapshotOpened_exec h]
    cases out.landed now dl.metadata.lastModifiedTimestamp contents with
    | none => exact Or.inl rfl
    | some c =>
      by_cases hn : name = dl.filename
      · subst hn
        exact Or.inr ⟨rfl, c.1, c.2, rfl, Directory.lookup_putFile_self⟩
      · exact Or.inl (AList.lookup_insert_ne hn)

lemma onSnapshotOpened_lookup_of_ne {name : JString} (hne : name ≠ dl.filename) :
    ((onSnapshotOpened now dl (out.opened.result contents) out).exec dir).2.lookup name =
      dir.lookup name :=
  (onSnapshotOpened_lookup now dl contents out dir name).resolve_right fun h => hne h.1

/-! ### When a download is all or nothing -/

/-- The local file is as it was, or holds the committed contents with the listed timestamp. -/
def AllOrNothing (dl : Download) (committed : D) (before after : Directory D) : Prop :=
  after.fileAt dl.filename = before.fileAt dl.filename ∨
    after.fileAt dl.filename = some (committed, dl.metadata.lastModifiedTimestamp)

lemma allOrNothing_iff {committed : D} (h : dir.lookup dl.filename ≠ some .folder) :
    AllOrNothing dl committed dir
        ((onSnapshotOpened now dl (out.opened.result contents) out).exec dir).2 ↔
      ∀ c, out.landed now dl.metadata.lastModifiedTimestamp contents = some c →
        dir.fileAt dl.filename = some c ∨ c = (committed, dl.metadata.lastModifiedTimestamp) := by
  rw [onSnapshotOpened_exec h, AllOrNothing]
  cases out.landed now dl.metadata.lastModifiedTimestamp contents with
  | none => simp
  | some c =>
    obtain ⟨d, t⟩ := c
    simp only [Option.elim_some, Directory.fileAt_putFile_self, Option.some.injEq, forall_eq']
    rw [eq_comm]

end

section

variable {β : Type}

/-- What `open` with `createIfNotFound` finds: the committed contents, or a new empty snapshot if
it has been deleted since it was listed. -/
def openOrCreate (committed : List β) (deleted : Bool) : List β :=
  if deleted then [] else committed

/-- The callback stops before it opens the local file; or it writes everything and sets the time,
and the snapshot still held the committed contents. The other alternatives are coincidences: what
is left half-done equals the old file or the complete download. -/
def DownloadHarmless (now : ℤ) (dir : Directory (List β)) (dl : Download) (committed : List β)
    (deleted : Bool) (out : DownloadOutcome) : Prop :=
  out.opened ≠ .opens ∨ out.readFails = true ∨ dir.lookup dl.filename = some .folder ∨
    match out.written, out.setTimeFails with
    | .failsToOpen, _    => True
    | .completes, false  =>
      openOrCreate committed deleted = committed ∨
        dir.fileAt dl.filename =
          some (openOrCreate committed deleted, dl.metadata.lastModifiedTimestamp)
    | .completes, true   =>
      (openOrCreate committed deleted = committed ∧ now = dl.metadata.lastModifiedTimestamp) ∨
        dir.fileAt dl.filename = some (openOrCreate committed deleted, now)
    | .failsAfter n, _   =>
      ((openOrCreate committed deleted).take n = committed ∧
          now = dl.metadata.lastModifiedTimestamp) ∨
        dir.fileAt dl.filename = some ((openOrCreate committed deleted).take n, now)

theorem download_allOrNothing_iff (now : ℤ) (dir : Directory (List β)) (dl : Download)
    (committed : List β) (deleted : Bool) (out : DownloadOutcome) :
    AllOrNothing dl committed dir ((onSnapshotOpened now dl
        (out.opened.result (openOrCreate committed deleted)) out).exec dir).2 ↔
      DownloadHarmless now dir dl committed deleted out := by
  by_cases hfolder : dir.lookup dl.filename = some .folder
  · rw [onSnapshotOpened_exec_folder hfolder]
    exact iff_of_true (Or.inl rfl) (Or.inr (Or.inr (Or.inl hfolder)))
  · rw [allOrNothing_iff hfolder]
    obtain ⟨opened, readFails, written, setTimeFails⟩ := out
    by_cases hopened : opened = .opens
    · subst hopened
      cases readFails with
      | true => simp [DownloadHarmless, DownloadOutcome.landed, DownloadOutcome.handed]
      | false =>
        -- the callback hands the opened contents to `Files.write`
        cases written with
        | failsToOpen =>
          simp [DownloadHarmless, DownloadOutcome.landed, DownloadOutcome.handed, WriteEnd.left]
        | failsAfter n =>
          simp [DownloadHarmless, DownloadOutcome.landed, DownloadOutcome.handed, WriteEnd.left,
            DownloadOutcome.stamp, hfolder, FileData.take, or_comm]
        | completes =>
          cases setTimeFails <;>
            simp [DownloadHarmless, DownloadOutcome.landed, DownloadOutcome.handed, WriteEnd.left,
              DownloadOutcome.stamp, hfolder, or_comm]
    · simp [DownloadHarmless, DownloadOutcome.landed, DownloadOutcome.handed, hopened]

end

/-- A write that breaks off leaves a truncated save with a fresh modification time. -/
theorem not_allOrNothing_of_failsAfter :
    ¬ ∀ (savePackageName : JString) (dir : Directory (List UInt8)) (metadata : SnapshotMetadata)
        (dl : Download), selectSnapshot savePackageName dir metadata = some dl →
      ∀ (now : ℤ) (committed : List UInt8) (deleted : Bool) (out : DownloadOutcome),
        AllOrNothing dl committed dir ((onSnapshotOpened now dl
          (out.opened.result (openOrCreate committed deleted)) out).exec dir).2 := by
  intro h
  have hcut := h "org.ancurio.mkxp".toList (Directory.putFile ∅ "Save1.rxdata".toList [1, 2, 3] 0)
    ⟨"org.ancurio.mkxp_Save1.rxdata".toList, 60000⟩ _ rfl 70000 [4, 5, 6, 7] false
    { written := .failsAfter 1 }
  exact absurd hcut (by unfold AllOrNothing; decide)

end AndroidMkxp
