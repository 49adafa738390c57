import AndroidMkxp.Saves.Names

/-!
# Legacy save migration

`LoginActivity.onActivityResult` copies the save files of a document tree into the directory of the
app. For each matching child it deletes the local file of that name, opens the child, copies it and
sets the modification time; any exception on the way is logged and the loop goes on.

The deletion comes first, so an existing save survives a failure only if the deletion itself fails:
`migration_keeps_saves_iff` is the exact condition.
-/

namespace AndroidMkxp

/-- A `DocumentFile` of the selected tree, with the bytes its stream delivers. -/
structure ChildDocument (D : Type) where
  name : JString
  isFile : Bool
  data : D

/-- What `openInputStream` answers. -/
inductive StreamResult where
  | stream
  | null
  | throws
  deriving DecidableEq, Repr

/-- How the calls made for one child end, and when they are made. -/
structure MigrateOutcome where
  now : ℤ
  deleteFails : Bool := false
  opened : StreamResult := .stream
  copied : WriteEnd := .completes
  closeFails : Bool := false
  setTimeFails : Bool := false

/-- The test of the loop in `onActivityResult`. -/
def ChildDocument.matches {D : Type} (child : ChildDocument D) : Bool :=
  let lname := toLowerCase child.name
  contains lname "save".toList && endsWith lname ".rxdata".toList && child.isFile

/-- The children of a tree, each with the outcome of its migration. Their names are distinct. -/
structure DocumentsTree (D : Type) where
  listFiles : List (ChildDocument D × MigrateOutcome)
  distinct : (listFiles.map fun c => c.1.name).Nodup

/-- The arguments of `onActivityResult`. The inner option is the result of
`DocumentFile.fromTreeUri`. -/
structure ActivityResult (D : Type) where
  isFinishing : Bool
  requestCode : ℤ
  resultCode : ℤ
  resultData : Option (Option (DocumentsTree D))

def MIGRATE_INTENT : ℤ := 104

/-- `Activity.RESULT_OK` -/
def RESULT_OK : ℤ := -1

section

variable {D : Type} [FileData D]

/-- `getContentResolver().openInputStream(childDocument.getUri())` -/
def openInputStream (child : ChildDocument D) : StreamResult → FileM D (Option D)
  | .stream => pure (some child.data)
  | .null   => pure none
  | .throws => throw .ioException

/-- `in.close()` -/
def closeStream (fails : Bool) : FileM D Unit :=
  if fails then throw .ioException else pure ()

/-- One pass of the loop; the result is what it adds to `numMigrated`. -/
def migrateChild (child : ChildDocument D) (out : MigrateOutcome) : FileM D ℕ :=
  if child.matches then
    tryCatch (do
      Files.deleteIfExists child.name out.deleteFails
      match ← openInputStream child out.opened with
      | none      => throw .nullPointerException
      | some data =>
        Files.copy out.now data child.name out.copied
        closeStream out.closeFails
        Files.setLastModifiedTime child.name out.now out.setTimeFails
        pure 1)
    fun _ => pure 0
  else pure 0

def migrateChildren : List (ChildDocument D × MigrateOutcome) → FileM D ℕ
  | []                   => pure 0
  | (child, out) :: rest => do
    let k ← migrateChild child out
    let n ← migrateChildren rest
    pure (k + n)

/-- `LoginActivity.onActivityResult`; the result is the number in the toast, if there is one. -/
def onActivityResult (r : ActivityResult D) : FileM D (Option ℕ) :=
  if r.isFinishing then pure none
  else if r.requestCode = MIGRATE_INTENT ∧ r.resultCode = RESULT_OK then
    match r.resultData with
    | none             => pure none
    | some none        => pure none
    | some (some tree) => do
      let numMigrated ← migrateChildren tree.listFiles
      pure (some numMigrated)
  else pure none

/-- What the copy of a child leaves under its name once the old file is gone. -/
def transferred (child : ChildDocument D) (out : MigrateOutcome) : Option D :=
  match out.opened with
  | .stream => out.copied.left child.data
  | _       => none

/-- The directory after one matching child. -/
lemma migrateChild_exec {child : ChildDocument D} {out : MigrateOutcome} {dir : Directory D}
    (hm : child.matches) : ((migrateChild child out).exec dir).2 =
      if out.deleteFails then dir
      else (transferred child out).elim (dir.erase child.name)
        fun left => Directory.putFile (dir.erase child.name) child.name left out.now := by
  have hnone : AList.lookup child.name (AList.erase child.name dir) = none := AList.lookup_erase ..
  simp only [migrateChild, hm, if_true, FileM.exec_tryCatch, FileM.exec_bind,
    Files.exec_deleteIfExists]
  cases out.deleteFails with
  | true => rfl
  | false =>
    simp only [transferred]
    cases out.opened with
    | throws => rfl
    | null => rfl
    | stream =>
      simp only [openInputStream, FileM.exec_pure, FileM.exec_bind, Files.exec_copy_of_none hnone,
        Bool.false_eq_true, if_false]
      cases out.copied with
      | failsToOpen => rfl
      | failsAfter n => rfl
      | completes =>
        cases out.closeFails with
        | true => rfl
        | false =>
          simp only [WriteEnd.result, WriteEnd.left, closeStream, Option.elim_some,
            Bool.false_eq_true, if_false, FileM.exec_pure, Files.exec_setLastModifiedTime_putFile]
          cases out.setTimeFails <;> rfl

lemma migrateChild_exec_of_not_matches {child : ChildDocument D} {out : MigrateOutcome}
    {dir : Directory D} (hm : child.matches = false) :
    (migrateChild child out).exec dir = (.ok 0, dir) := by
  simp [migrateChild, hm]

/-- Every exception of a pass is caught. -/
lemma migrateChild_ok (child : ChildDocument D) (out : MigrateOutcome) (dir : Directory D) :
    ∃ k, ((migrateChild child out).exec dir).1 = .ok k := by
  cases hm : child.matches with
  | false => exact ⟨0, by rw [migrateChild_exec_of_not_matches hm]⟩
  | true =>
    simp only [migrateChild, hm, if_true, FileM.exec_tryCatch]
    split
    · next k _ _ => exact ⟨k, rfl⟩
    · exact ⟨0, rfl⟩

/-- A pass touches no name but the child's. -/
lemma migrateChild_lookup_of_ne {child : ChildDocument D} {out : MigrateOutcome}
    {dir : Directory D} {name : JString} (hne : child.matches → name ≠ child.name) :
    ((migrateChild child out).exec dir).2.lookup name = dir.lookup name := by
  cases hm : child.matches with
  | false => rw [migrateChild_exec_of_not_matches hm]
  | true =>
    have hne := hne hm
    rw [migrateChild_exec hm]
    split_ifs
    · rfl
    · cases transferred child out with
      | none => exact AList.lookup_erase_ne hne
      | some left =>
        simp only [Option.elim_some, Directory.putFile]
        rw [AList.lookup_insert_ne hne, AList.lookup_erase_ne hne]

/-- A file that a pass leaves was there before, or it has been written by the pass. -/
lemma migrateChild_fileAt {child : ChildDocument D} {out : MigrateOutcome} {dir : Directory D}
    {name : JString} {data : D} {m : ℤ}
    (hf : Directory.fileAt ((migrateChild child out).exec dir).2 name = some (data, m)) :
    dir.fileAt name = some (data, m) ∨ child.matches ∧ name = child.name ∧ m = out.now := by
  cases hm : child.matches with
  | false =>
    rw [migrateChild_exec_of_not_matches hm] at hf
    exact Or.inl hf
  | true =>
    by_cases hn : name = child.name
    · subst hn
      rw [migrateChild_exec hm] at hf
      split_ifs at hf
      · exact Or.inl hf
      · cases htrans : transferred child out with
        | none => simp [htrans, Directory.fileAt_erase] at hf
        | some left =>
          simp only [htrans, Option.elim_some, Directory.fileAt_putFile_self, Option.some.injEq,
            Prod.mk.injEq] at hf
          exact Or.inr ⟨rfl, rfl, hf.2.symm⟩
    · rw [Directory.fileAt_congr (migrateChild_lookup_of_ne fun _ => hn)] at hf
      exact Or.inl hf

/-- Under the child's own name a pass leaves what was transferred, unless the deletion failed. -/
lemma migrateChild_contents {child : ChildDocument D} {out : MigrateOutcome} {dir : Directory D}
    (hm : child.matches) : Directory.contents ((migrateChild child out).exec dir).2 child.name =
      if out.deleteFails then dir.contents child.name else transferred child out := by
  rw [migrateChild_exec hm]
  split_ifs
  · rfl
  · cases transferred child out with
    | none => simp [Directory.contents, Directory.fileAt_erase]
    | some left => simp [Directory.contents]

/-! ### The loop -/

/-- Running the loop is running each pass on the directory the one before it left. -/
lemma migrateChildren_cons_exec (child : ChildDocument D) (out : MigrateOutcome)
    (rest : List (ChildDocument D × MigrateOutcome)) (dir : Directory D) :
    ((migrateChildren ((child, out) :: rest)).exec dir).2 =
      ((migrateChildren rest).exec ((migrateChild child out).exec dir).2).2 := by
  obtain ⟨k, hk⟩ := migrateChild_ok child out dir
  rw [migrateChildren, FileM.exec_bind_of_ok _ hk, FileM.exec_bind_pure_snd]

lemma migrateChildren_lookup_of_ne {children : List (ChildDocument D × MigrateOutcome)}
    {dir : Directory D} {name : JString}
    (hne : ∀ c ∈ children, c.1.matches → name ≠ c.1.name) :
    ((migrateChildren children).exec dir).2.lookup name = dir.lookup name := by
  induction children generalizing dir with
  | nil => rfl
  | cons c rest ih =>
    obtain ⟨child, out⟩ := c
    rw [migrateChildren_cons_exec, ih fun c hc => hne c (List.mem_cons_of_mem _ hc)]
    exact migrateChild_lookup_of_ne (hne _ List.mem_cons_self)

/-- With distinct names, each child is decided by its own pass alone. -/
lemma migrateChildren_contents {children : List (ChildDocument D × MigrateOutcome)}
    {dir : Directory D} (hnd : (children.map fun c => c.1.name).Nodup)
    {child : ChildDocument D} {out : MigrateOutcome} (hmem : (child, out) ∈ children)
    (hm : child.matches) : Directory.contents ((migrateChildren children).exec dir).2 child.name =
      if out.deleteFails then dir.contents child.name else transferred child out := by
  induction children generalizing dir with
  | nil => cases hmem
  | cons c rest ih =>
    obtain ⟨c, o⟩ := c
    rw [List.map_cons, List.nodup_cons] at hnd
    rw [migrateChildren_cons_exec]
    rcases List.mem_cons.mp hmem with heq | hrest
    · cases heq
      have hlater : ∀ d ∈ rest, d.1.matches → child.name ≠ d.1.name := fun d hd _ heq =>
        hnd.1 (List.mem_map.mpr ⟨d, hd, heq.symm⟩)
      have hown : Directory.contents ((migrateChild child out).exec dir).2 child.name = _ :=
        migrateChild_contents hm
      simp only [Directory.contents, Directory.fileAt] at hown ⊢
      rw [migrateChildren_lookup_of_ne hlater, hown]
    · have hne : child.name ≠ c.name := fun heq =>
        hnd.1 (List.mem_map.mpr ⟨(child, out), hrest, heq⟩)
      rw [ih hnd.2 hrest]
      simp only [Directory.contents, Directory.fileAt, migrateChild_lookup_of_ne fun _ => hne]

/-! ### When no existing save is lost -/

/-- The children the loop would go over. -/
def ActivityResult.children (r : ActivityResult D) : List (ChildDocument D × MigrateOutcome) :=
  match r.resultData with
  | some (some tree) => tree.listFiles
  | _                => []

/-- The result belongs to the migration request and the activity still runs. -/
def ActivityResult.isMigration (r : ActivityResult D) : Prop :=
  r.isFinishing = false ∧ r.requestCode = MIGRATE_INTENT ∧ r.resultCode = RESULT_OK

/-- Each local file named like a matching child holds the complete contents of the child or what
it held before, and every other entry is unchanged. -/
structure SavesKept (children : List (ChildDocument D × MigrateOutcome))
    (before after : Directory D) : Prop where
  child : ∀ c ∈ children, c.1.matches →
    after.contents c.1.name = some c.1.data ∨ after.contents c.1.name = before.contents c.1.name
  others : ∀ name, (∀ c ∈ children, c.1.matches → name ≠ c.1.name) →
    after.lookup name = before.lookup name

/-- The deletion fails; or the copy runs to its end; or it never creates the file and there was no
file to lose; or it breaks off with exactly the new or the old contents written. -/
def Harmless (dir : Directory D) (child : ChildDocument D) (out : MigrateOutcome) : Prop :=
  out.deleteFails = true ∨
    match out.opened, out.copied with
    | .stream, .completes    => True
    | .stream, .failsAfter n => FileData.take n child.data = child.data ∨
        dir.contents child.name = some (FileData.take n child.data)
    | _, _                   => dir.contents child.name = none

lemma onActivityResult_exec (r : ActivityResult D) (dir : Directory D) (h : r.isMigration) :
    ((onActivityResult r).exec dir).2 = ((migrateChildren r.children).exec dir).2 := by
  obtain ⟨hfin, hreq, hres⟩ := h
  simp only [onActivityResult, hfin, hreq, hres, Bool.false_eq_true, and_self, if_true, if_false,
    ActivityResult.children]
  rcases r.resultData with _ | _ | tree
  · rfl
  · rfl
  · exact FileM.exec_bind_pure_snd _ _ dir

lemma onActivityResult_exec_of_not (r : ActivityResult D) (dir : Directory D)
    (h : ¬ r.isMigration) : ((onActivityResult r).exec dir).2 = dir := by
  unfold onActivityResult
  split_ifs with hfin hcode
  · rfl
  · exact absurd ⟨by simpa using hfin, hcode⟩ h
  · rfl

omit [FileData D] in
lemma ActivityResult.children_distinct (r : ActivityResult D) :
    (r.children.map fun c => c.1.name).Nodup := by
  unfold children
  split
  · next tree _ => exact tree.distinct
  · exact List.nodup_nil

lemma harmless_iff {dir : Directory D} {child : ChildDocument D} {out : MigrateOutcome} :
    Harmless dir child out ↔
      (if out.deleteFails then dir.contents child.name else transferred child out) =
          some child.data ∨
        (if out.deleteFails then dir.contents child.name else transferred child out) =
          dir.contents child.name := by
  unfold Harmless transferred
  cases out.deleteFails with
  | true => simp
  | false =>
    cases out.opened with
    | stream => cases out.copied <;> simp [WriteEnd.left, eq_comm]
    | null => simp [eq_comm]
    | throws => simp [eq_comm]

theorem migration_keeps_saves_iff (r : ActivityResult D) (dir : Directory D) :
    SavesKept r.children dir ((onActivityResult r).exec dir).2 ↔
      (r.isMigration → ∀ c ∈ r.children, c.1.matches → Harmless dir c.1 c.2) := by
  by_cases hr : r.isMigration
  · rw [onActivityResult_exec r dir hr]
    have hcontents : ∀ c ∈ r.children, c.1.matches →
        (Harmless dir c.1 c.2 ↔
          Directory.contents ((migrateChildren r.children).exec dir).2 c.1.name = some c.1.data ∨
          Directory.contents ((migrateChildren r.children).exec dir).2 c.1.name =
            dir.contents c.1.name) := fun c hc hm => by
      rw [migrateChildren_contents r.children_distinct hc hm, harmless_iff]
    constructor
    · intro h _ c hc hm
      exact (hcontents c hc hm).mpr (h.child c hc hm)
    · intro h
      exact ⟨fun c hc hm => (hcontents c hc hm).mp (h hr c hc hm),
        fun name hne => migrateChildren_lookup_of_ne hne⟩
  · rw [onActivityResult_exec_of_not r dir hr]
    exact ⟨fun _ hr' => absurd hr' hr, fun _ => ⟨fun _ _ _ => Or.inr rfl, fun _ _ => rfl⟩⟩

end

/-- A document whose stream cannot be opened, next to an existing save of its name. -/
def unreadableChild : ActivityResult (List UInt8) where
  isFinishing := false
  requestCode := MIGRATE_INTENT
  resultCode := RESULT_OK
  resultData := some (some
    { listFiles := [(⟨"Save1.rxdata".toList, true, [9]⟩, { now := 0, opened := .throws })]
      distinct := by simp })

/-- The save is deleted and nothing takes its place. -/
theorem not_savesKept_of_unreadable :
    ¬ ∀ (r : ActivityResult (List UInt8)) (dir : Directory (List UInt8)),
      SavesKept r.children dir ((onActivityResult r).exec dir).2 := by
  intro h
  have hkept := h unreadableChild (Directory.putFile ∅ "Save1.rxdata".toList [1, 2, 3] 0)
  have hafter := hkept.child _ (List.mem_singleton.mpr rfl) (by decide)
  exact absurd hafter (by decide)

end AndroidMkxp
