import Mathlib.Data.List.AList
import Mathlib.Tactic.Common

/-!
# The files of the app

The directory `getFilesDir()` as a finite map from names to nodes, with the calls of
`java.io.File` and `java.nio.file.Files` that the activities make on it. Each call that can throw
takes a parameter that says how it ends; what it did before throwing stays done.
-/

namespace AndroidMkxp

/-- A Java `String`, as the list of its characters. -/
abbrev JString := List Char

/-- What a file can hold. An interrupted transfer leaves the first `n` bytes. -/
class FileData (D : Type*) where
  take : ℕ → D → D

instance {β : Type*} : FileData (List β) := ⟨List.take⟩

inductive Node (D : Type*) where
  | file (data : D) (lastModified : ℤ)
  | folder

def Node.asFile {D : Type*} : Node D → Option (D × ℤ)
  | .file data t => some (data, t)
  | .folder      => none

/-- A directory, by the names of its entries. Names are distinct. -/
abbrev Directory (D : Type*) := AList fun _ : JString => Node D

namespace Directory

variable {D : Type} {dir : Directory D} {name name' : JString} {data : D} {t : ℤ}

/-- Contents and modification time of the regular file called `name`. -/
def fileAt (dir : Directory D) (name : JString) : Option (D × ℤ) :=
  (dir.lookup name).bind Node.asFile

/-- Contents of the regular file called `name`. -/
def contents (dir : Directory D) (name : JString) : Option D :=
  (dir.fileAt name).map Prod.fst

def putFile (dir : Directory D) (name : JString) (data : D) (t : ℤ) : Directory D :=
  dir.insert name (.file data t)

@[simp] lemma lookup_putFile_self :
    (dir.putFile name data t).lookup name = some (.file data t) :=
  AList.lookup_insert _

lemma lookup_putFile : (dir.putFile name data t).lookup name' =
    if name' = name then some (.file data t) else dir.lookup name' := by
  split_ifs with h
  · subst h
    exact lookup_putFile_self
  · exact AList.lookup_insert_ne h

lemma fileAt_putFile : (dir.putFile name data t).fileAt name' =
    if name' = name then some (data, t) else dir.fileAt name' := by
  simp only [fileAt, lookup_putFile]
  split_ifs
  · rfl
  · rfl

lemma fileAt_erase : fileAt (dir.erase name) name' =
    if name' = name then none else dir.fileAt name' := by
  simp only [fileAt]
  split_ifs with h
  · subst h
    rw [AList.lookup_erase]
    rfl
  · rw [AList.lookup_erase_ne h]

@[simp] lemma fileAt_putFile_self : (dir.putFile name data t).fileAt name = some (data, t) := by
  simp [fileAt_putFile]

lemma fileAt_putFile_of_ne (h : name' ≠ name) :
    (dir.putFile name data t).fileAt name' = dir.fileAt name' := by
  simp [fileAt_putFile, h]

@[simp] lemma putFile_putFile {data' : D} {t' : ℤ} :
    (dir.putFile name data t).putFile name data' t' = dir.putFile name data' t' :=
  AList.insert_insert ..

lemma fileAt_congr {dir' : Directory D} (h : dir'.lookup name = dir.lookup name) :
    dir'.fileAt name = dir.fileAt name := by
  rw [fileAt, fileAt, h]

lemma contents_congr {dir' : Directory D} (h : dir'.lookup name = dir.lookup name) :
    dir'.contents name = dir.contents name := by
  rw [contents, contents, fileAt_congr h]

lemma fileAt_eq_none_of_lookup (h : dir.lookup name = none) : dir.fileAt name = none := by
  simp [fileAt, h]

lemma fileAt_of_file (h : dir.lookup name = some (.file data t)) :
    dir.fileAt name = some (data, t) := by
  simp [fileAt, h, Node.asFile]

lemma fileAt_of_folder (h : dir.lookup name = some .folder) : dir.fileAt name = none := by
  simp [fileAt, h, Node.asFile]

end Directory

/-! ### Calls that can throw -/

inductive JException where
  | ioException
  | nullPointerException
  deriving DecidableEq, Repr

/-- Code over the files of the app. A throw keeps the effects that came before it. -/
abbrev FileM (D : Type) := ExceptT JException (StateM (Directory D))

namespace FileM

variable {D α β : Type}

/-- The value or exception that the code ends with, and the directory it leaves behind. -/
def exec (x : FileM D α) (dir : Directory D) : Except JException α × Directory D :=
  x.run.run dir

lemma exec_bind (x : FileM D α) (f : α → FileM D β) (dir : Directory D) :
    exec (x >>= f) dir = match x.exec dir with
      | (.ok a, dir')    => exec (f a) dir'
      | (.error e, dir') => (.error e, dir') := by
  unfold exec
  rw [ExceptT.run_bind, StateT.run_bind]
  rcases x.run.run dir with ⟨_ | _, _⟩ <;> rfl

lemma exec_bind_of_ok {x : FileM D α} {dir : Directory D} {a : α} (f : α → FileM D β)
    (h : (x.exec dir).1 = .ok a) : exec (x >>= f) dir = exec (f a) (x.exec dir).2 := by
  rw [exec_bind]
  rcases hx : x.exec dir with ⟨r, dir'⟩
  rw [hx] at h
  cases h
  rfl

/-- A pure last step leaves the directory as it is. -/
lemma exec_bind_pure_snd (x : FileM D α) (g : α → β) (dir : Directory D) :
    (exec (x >>= fun a => pure (g a)) dir).2 = (x.exec dir).2 := by
  rw [exec_bind]
  rcases x.exec dir with ⟨_ | _, _⟩ <;> rfl

lemma exec_tryCatch (x : FileM D α) (handle : JException → FileM D α) (dir : Directory D) :
    exec (tryCatch x handle) dir = match x.exec dir with
      | (.ok a, dir')    => (.ok a, dir')
      | (.error e, dir') => exec (handle e) dir' := by
  unfold exec
  rw [ExceptT.run_tryCatch, StateT.run_bind]
  rcases x.run.run dir with ⟨_ | _, _⟩ <;> rfl

@[simp] lemma exec_pure (a : α) (dir : Directory D) :
    exec (pure a : FileM D α) dir = (.ok a, dir) := rfl

@[simp] lemma exec_throw (e : JException) (dir : Directory D) :
    exec (throw e : FileM D α) dir = (.error e, dir) := rfl

@[simp] lemma exec_get (dir : Directory D) :
    exec (getThe (Directory D) : FileM D (Directory D)) dir = (.ok dir, dir) := rfl

end FileM

/-- How the transfer of bytes into a file ends: it completes, the file cannot be opened, or the
transfer breaks off after `n` bytes. -/
inductive WriteEnd where
  | completes
  | failsToOpen
  | failsAfter (n : ℕ)
  deriving DecidableEq, Repr

/-- The exception, if any, that a transfer ends with. -/
def WriteEnd.result : WriteEnd → Except JException Unit
  | .completes => .ok ()
  | _          => .error .ioException

/-- What a transfer of `data` leaves in the file, if it got to open it. -/
def WriteEnd.left {D : Type} [FileData D] (data : D) : WriteEnd → Option D
  | .completes    => some data
  | .failsToOpen  => none
  | .failsAfter n => some (FileData.take n data)

namespace Files

variable {D : Type} [FileData D]

/-- `Files.write(name, data)`: create or truncate, then transfer. -/
def write (now : ℤ) (name : JString) (data : D) (how : WriteEnd) : FileM D Unit := do
  let dir ← getThe (Directory D)
  match dir.lookup name, how with
  | some .folder, _    => throw .ioException
  | _, .failsToOpen    => throw .ioException
  | _, .failsAfter n   =>
    set (dir.putFile name (FileData.take n data) now)
    throw .ioException
  | _, .completes      => set (dir.putFile name data now)

/-- `Files.copy(in, name)` without `REPLACE_EXISTING`: create, then transfer. -/
def copy (now : ℤ) (data : D) (name : JString) (how : WriteEnd) : FileM D Unit := do
  let dir ← getThe (Directory D)
  match dir.lookup name, how with
  | some _, _          => throw .ioException
  | none, .failsToOpen => throw .ioException
  | none, .failsAfter n =>
    set (dir.putFile name (FileData.take n data) now)
    throw .ioException
  | none, .completes   => set (dir.putFile name data now)

/-- `Files.deleteIfExists(name)` -/
def deleteIfExists (name : JString) (fails : Bool) : FileM D Unit := do
  let dir ← getThe (Directory D)
  if fails then throw .ioException else set (dir.erase name : Directory D)

/-- `Files.setLastModifiedTime(name, t)` -/
def setLastModifiedTime (name : JString) (t : ℤ) (fails : Bool) : FileM D Unit := do
  let dir ← getThe (Directory D)
  match dir.lookup name with
  | none                => throw .ioException
  | some .folder        => if fails then throw .ioException else pure ()
  | some (.file data _) => if fails then throw .ioException else set (dir.putFile name data t)

variable {now t : ℤ} {name : JString} {data : D} {how : WriteEnd} {fails : Bool}
  {dir : Directory D}

lemma exec_write_folder (h : dir.lookup name = some .folder) :
    (write now name data how).exec dir = (.error .ioException, dir) := by
  simp only [write, FileM.exec_bind, FileM.exec_get, h, FileM.exec_throw]

lemma exec_write (h : dir.lookup name ≠ some .folder) :
    (write now name data how).exec dir =
      (how.result, (how.left data).elim dir fun left => dir.putFile name left now) := by
  simp only [write, FileM.exec_bind, FileM.exec_get]
  cases hl : dir.lookup name with
  | none => cases how <;> rfl
  | some node =>
    cases node with
    | folder => exact absurd hl h
    | file _ _ => cases how <;> rfl

lemma exec_copy_of_none (h : dir.lookup name = none) :
    (copy now data name how).exec dir =
      (how.result, (how.left data).elim dir fun left => dir.putFile name left now) := by
  simp only [copy, FileM.exec_bind, FileM.exec_get, h]
  cases how <;> rfl

omit [FileData D] in
lemma exec_deleteIfExists :
    (deleteIfExists name fails : FileM D Unit).exec dir =
      if fails then (.error .ioException, dir) else (.ok (), dir.erase name) := by
  cases fails <;> rfl

omit [FileData D] in
lemma exec_setLastModifiedTime_putFile :
    (setLastModifiedTime name t fails).exec (dir.putFile name data now) =
      if fails then (.error .ioException, dir.putFile name data now)
      else (.ok (), dir.putFile name data t) := by
  simp only [setLastModifiedTime, FileM.exec_bind, FileM.exec_get, Directory.lookup_putFile_self,
    Directory.putFile_putFile]
  cases fails <;> rfl

end Files
end AndroidMkxp
