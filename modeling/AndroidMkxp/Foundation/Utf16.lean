import Mathlib.Data.List.Basic
import Mathlib.Data.Fin.Basic
import Mathlib.Tactic.Common

/-!
# Texts in UTF-16

A text is a list of code units, which need not be well formed. It is read as code points from left
to right: a high surrogate with a low one after it is one code point, every other unit is one by
itself. `remaining` reads what is left of a text at an offset; offsets that a reader gets to by
adding `charCount` cut the text between code points.
-/

namespace Foundation.Utf16

abbrev CodeUnit := Fin 65536

def isHighSurrogate (u : CodeUnit) : Bool := 0xD800 ≤ u.val ∧ u.val ≤ 0xDBFF

def isLowSurrogate (u : CodeUnit) : Bool := 0xDC00 ≤ u.val ∧ u.val ≤ 0xDFFF

def toCodePoint (high low : CodeUnit) : ℕ :=
  (high.val - 0xD800) * 0x400 + (low.val - 0xDC00) + 0x10000

/-- The number of code units of a code point. -/
def charCount (codePoint : ℕ) : ℕ := if 0x10000 ≤ codePoint then 2 else 1

/-- The code point at the front of a text. -/
def front : List CodeUnit → Option ℕ
  | []          => none
  | [u]         => some u.val
  | u :: v :: _ => some (if isHighSurrogate u && isLowSurrogate v then toCodePoint u v else u.val)

/-- The code point at an offset, or `none` outside the text. -/
def codePointAt (t : List CodeUnit) (offset : ℕ) : Option ℕ := front (t.drop offset)

/-- The code points of a text. -/
def decode : List CodeUnit → List ℕ
  | []          => []
  | [u]         => [u.val]
  | u :: v :: t =>
    if isHighSurrogate u && isLowSurrogate v then toCodePoint u v :: decode t
    else u.val :: decode (v :: t)

variable {t t' : List CodeUnit} {c offset : ℕ}

lemma charCount_toCodePoint (u v : CodeUnit) : charCount (toCodePoint u v) = 2 :=
  if_pos (Nat.le_add_left _ _)

lemma charCount_val (u : CodeUnit) : charCount u.val = 1 := if_neg (Nat.not_le.mpr u.isLt)

lemma charCount_pos (c : ℕ) : 0 < charCount c := by
  rw [charCount]
  split_ifs <;> decide

/-- Reading one code point. -/
lemma decode_of_front (h : front t = some c) :
    decode t = c :: decode (t.drop (charCount c)) ∧ charCount c ≤ t.length := by
  match t with
  | [] => cases h
  | [u] =>
    obtain rfl := Option.some.inj h
    simp [decode, charCount_val]
  | u :: v :: t =>
    obtain rfl := Option.some.inj h
    rw [decode]
    split_ifs with hpair
    · simp [charCount_toCodePoint]
    · simp [charCount_val]

lemma front_eq_none_iff : front t = none ↔ t = [] := by
  match t with
  | [] => simp [front]
  | [u] => simp [front]
  | u :: v :: t => simp [front]

lemma exists_front (h : t ≠ []) : ∃ c, front t = some c :=
  Option.ne_none_iff_exists'.mp fun hnone => h (front_eq_none_iff.mp hnone)

lemma decode_eq_nil_iff : decode t = [] ↔ t = [] := by
  constructor
  · intro h
    by_contra hne
    obtain ⟨c, hc⟩ := exists_front hne
    rw [(decode_of_front hc).1] at h
    cases h
  · rintro rfl
    rfl

/-! ### Reading from an offset -/

/-- The code points that are left at an offset. -/
def remaining (t : List CodeUnit) (offset : ℕ) : List ℕ := decode (t.drop offset)

lemma remaining_eq_nil_iff : remaining t offset = [] ↔ t.length ≤ offset := by
  rw [remaining, decode_eq_nil_iff, List.drop_eq_nil_iff]

lemma exists_codePointAt (h : offset < t.length) : ∃ c, codePointAt t offset = some c :=
  exists_front (mt List.drop_eq_nil_iff.mp (Nat.not_le.mpr h))

lemma remaining_of_codePointAt (h : codePointAt t offset = some c) :
    remaining t offset = c :: remaining t (offset + charCount c) ∧
      offset + charCount c ≤ t.length := by
  obtain ⟨hdecode, hlength⟩ := decode_of_front h
  have hpos := charCount_pos c
  rw [List.length_drop] at hlength
  refine ⟨?_, by omega⟩
  rw [remaining, hdecode, List.drop_drop, remaining]

end Foundation.Utf16
