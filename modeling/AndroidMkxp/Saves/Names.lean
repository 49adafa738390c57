import AndroidMkxp.Foundation.Separator
import AndroidMkxp.Saves.Directory

/-!
# Save files and snapshot names

`MKXPActivity` names the snapshot of a save file `savePackageName() + "_" + filename` and, when it
lists the snapshots, splits each name at the last underscore to find the package and the file it
belongs to. `snapshotFilename_eq_some_iff` says which names the listing loop accepts; the exact
condition under which it inverts `getSnapshotName` is `codecExact_iff`.
-/

namespace AndroidMkxp

open Foundation

/-- `String.toLowerCase`, on ASCII letters. No other character becomes a letter of `save` or
`.rxdata` in any locale, so the tests below decide the same. -/
def toLowerCase (s : JString) : JString := s.map Char.toLower

/-- `String.contains` -/
def contains (s word : JString) : Bool := s.tails.any word.isPrefixOf

/-- `String.endsWith` -/
def endsWith (s word : JString) : Bool := word.isSuffixOf s

/-- Test if a file is a save game. -/
def isSaveFile (filename : JString) : Bool :=
  contains (toLowerCase filename) "save".toList && endsWith (toLowerCase filename) ".rxdata".toList

/-- The snapshot name of a save file. -/
def getSnapshotName (savePackageName filename : JString) : JString :=
  savePackageName ++ '_' :: filename

/-- The file that the listing loop of `loadSaveGames` takes a snapshot name for, or `none` where it
goes on to the next snapshot. -/
def snapshotFilename (savePackageName snapshotName : JString) : Option JString :=
  match lastIndexOf '_' snapshotName with
  | none => none
  | some index =>
    let packageName := snapshotName.take index
    let filename := snapshotName.drop (index + 1)
    if packageName = savePackageName then some filename else none

variable {p q f g n : JString}

lemma snapshotFilename_eq_splitLast : snapshotFilename p n =
    (splitLast '_' n).bind fun parts => if parts.1 = p then some parts.2 else none := by
  unfold snapshotFilename splitLast
  cases lastIndexOf '_' n <;> rfl

/-- The accepted names are those of the files without an underscore, for the own package. -/
theorem snapshotFilename_eq_some_iff :
    snapshotFilename p n = some g ↔ n = getSnapshotName p g ∧ '_' ∉ g := by
  rw [snapshotFilename_eq_splitLast, Option.bind_eq_some_iff]
  constructor
  · rintro ⟨⟨a, b⟩, hsplit, h⟩
    obtain ⟨rfl, hb⟩ := splitLast_eq_some_iff.mp hsplit
    split_ifs at h with hp
    cases h
    exact ⟨by rw [← hp]; rfl, hb⟩
  · rintro ⟨rfl, hg⟩
    exact ⟨(p, g), splitLast_append_cons hg, by simp⟩

lemma getSnapshotName_injective (p : JString) : Function.Injective (getSnapshotName p) :=
  fun f g h => by simpa [getSnapshotName] using h

lemma snapshotFilename_getSnapshotName (hf : '_' ∉ f) :
    snapshotFilename p (getSnapshotName p f) = some f :=
  snapshotFilename_eq_some_iff.mpr ⟨rfl, hf⟩

/-! ### The codec between file names and snapshot names -/

/-- Package `q` accepts the name that package `p` builds for `f` exactly when they are the same
package, and then reads `f` back. -/
def CodecExact (p q f : JString) : Prop :=
  ((snapshotFilename q (getSnapshotName p f)).isSome ↔ p = q) ∧
    (p = q → snapshotFilename q (getSnapshotName p f) = some f)

/-- The names Android allows for applications: at least two segments between dots, each a letter
followed by letters, digits and underscores. -/
def isApplicationId (p : JString) : Bool :=
  let segments := p.splitOn '.'
  decide (2 ≤ segments.length) && segments.all fun segment =>
    match segment with
    | []      => false
    | c :: cs => c.isAlpha && cs.all fun d => d.isAlphanum || d == '_'

/-- An underscore in the file name moves the split point, so the name is read as that of another
package and of the part of `f` after its last underscore. -/
lemma snapshotFilename_of_lastIndexOf {i : ℕ} (h : lastIndexOf '_' f = some i) :
    snapshotFilename q (getSnapshotName p f) =
      if p ++ '_' :: f.take i = q then some (f.drop (i + 1)) else none := by
  have hsplit : splitLast '_' f = some (f.take i, f.drop (i + 1)) := by simp [splitLast, h]
  rw [snapshotFilename_eq_splitLast, getSnapshotName, splitLast_join_of_split hsplit]
  rfl

theorem codecExact_iff (p q f : JString) : CodecExact p q f ↔
    ∀ i, lastIndexOf '_' f = some i → q ≠ p ∧ q ≠ p ++ '_' :: f.take i := by
  cases h : lastIndexOf '_' f with
  | none =>
    have hf : '_' ∉ f := lastIndexOf_eq_none_iff.mp h
    simp only [reduceCtorEq, false_implies, implies_true, iff_true]
    refine ⟨⟨fun hacc => ?_, ?_⟩, ?_⟩
    · obtain ⟨g, hg⟩ := Option.isSome_iff_exists.mp hacc
      have hsplit : splitLast '_' (getSnapshotName q g) = some (p, f) := by
        rw [← (snapshotFilename_eq_some_iff.mp hg).1]
        exact splitLast_append_cons hf
      rw [getSnapshotName, splitLast_append_cons (snapshotFilename_eq_some_iff.mp hg).2] at hsplit
      cases hsplit
      rfl
    · rintro rfl
      simp [snapshotFilename_getSnapshotName hf]
    · rintro rfl
      exact snapshotFilename_getSnapshotName hf
  | some i =>
    simp only [Option.some.injEq, forall_eq', CodecExact, snapshotFilename_of_lastIndexOf h]
    have hne : p ++ '_' :: f.take i ≠ p := by simp
    constructor
    · rintro ⟨hiff, hround⟩
      refine ⟨?_, ?_⟩
      · rintro rfl
        simp [hne] at hround
      · rintro rfl
        simp [hne.symm] at hiff
    · rintro ⟨hq, hq'⟩
      simp [hq.symm, hq'.symm]

/-- The app does not find the snapshot of its own save file again. -/
theorem not_codecExact_of_underscore :
    ¬ ∀ p q f : JString, isApplicationId p → isApplicationId q → isSaveFile f →
      CodecExact p q f := by
  intro h
  have hexact := h "org.ancurio.mkxp".toList "org.ancurio.mkxp".toList "My_Save1.rxdata".toList
    (by decide) (by decide) (by decide)
  have hlost : snapshotFilename "org.ancurio.mkxp".toList
      (getSnapshotName "org.ancurio.mkxp".toList "My_Save1.rxdata".toList) = none := by decide
  exact absurd (hlost.symm.trans (hexact.2 rfl)) (by simp)

end AndroidMkxp
