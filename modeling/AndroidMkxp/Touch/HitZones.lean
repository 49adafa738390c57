import AndroidMkxp.Touch.Views

/-!
# The drawn cross and its hitboxes

`onDraw` outlines a cross with four arms, and `setBounds` computes a hitbox for each direction. Both
start from a third of the size rounded down, but the hitboxes reach beyond the arms, and they
overlap: the left one ends two thirds before the right edge, which is beyond the left arm, and is
padded towards the bottom. Since it is tested first, it takes a strip of the down arm.
-/

namespace AndroidMkxp.Touch

/-- The point is in the rectangle and on none of its sides. -/
def Rect.Inside (r : Rect) (x y : ℤ) : Prop :=
  r.left < x ∧ x < r.right ∧ r.top < y ∧ y < r.bottom

instance (r : Rect) (x y : ℤ) : Decidable (r.Inside x y) :=
  inferInstanceAs (Decidable (_ ∧ _))

/-- `Rect.offset` -/
def Rect.offset (r : Rect) (dx dy : ℤ) : Rect :=
  ⟨r.left + dx, r.top + dy, r.right + dx, r.bottom + dy⟩

lemma Rect.contains_iff {r : Rect} {x y : ℤ} : r.contains x y = true ↔
    r.left ≤ x ∧ x < r.right ∧ r.top ≤ y ∧ y < r.bottom := by
  simp only [Rect.contains, Bool.and_eq_true, decide_eq_true_eq]
  omega

lemma Rect.contains_offset {r : Rect} {x y dx dy : ℤ} :
    (r.offset dx dy).contains (dx + x) (dy + y) = r.contains x y := by
  rw [Bool.eq_iff_iff, contains_iff, contains_iff]
  simp only [offset]
  omega

/-- How often the ray from a point to the left crosses the side of a path from `p` to `q`, which is
horizontal or vertical, counted with its direction. -/
def crossing (x y : ℤ) (p q : ℤ × ℤ) : ℤ :=
  if p.1 < x then
    if p.2 < y ∧ y < q.2 then 1 else if q.2 < y ∧ y < p.2 then -1 else 0
  else 0

/-- The crossings of the rest of a path, which closes at `start`. -/
def windingFrom (x y : ℤ) (start : ℤ × ℤ) : ℤ × ℤ → List (ℤ × ℤ) → ℤ
  | p, []        => crossing x y p start
  | p, q :: path => crossing x y p q + windingFrom x y start q path

/-- The winding number of a closed path, which encloses the points where it is not 0. -/
def windingNumber (x y : ℤ) : List (ℤ × ℤ) → ℤ
  | []            => 0
  | start :: path => windingFrom x y start start path

section

variable {x y x₀ x₁ y₀ y₁ : ℤ}

lemma crossing_of_le (hx : x ≤ x₀) : crossing x y (x₀, y₀) (x₁, y₁) = 0 := by
  simp only [crossing, Int.not_lt.mpr hx, if_false]

/-- The side is above or below the ray, or parallel to it. -/
lemma crossing_of_beside (hy : (y ≤ y₀ ∧ y ≤ y₁) ∨ (y₀ ≤ y ∧ y₁ ≤ y)) :
    crossing x y (x₀, y₀) (x₁, y₁) = 0 := by
  simp only [crossing]
  split_ifs <;> omega

lemma crossing_upwards (hx : x₀ < x) (h₁ : y₁ < y) (h₀ : y < y₀) :
    crossing x y (x₀, y₀) (x₁, y₁) = -1 := by
  simp only [crossing]
  split_ifs <;> omega

end

/-- The arms of the cross. -/
inductive Arm where
  | up
  | left
  | right
  | down
  deriving DecidableEq, Repr

def Arm.keyCode : Arm → ℤ
  | .up    => KeyEvent.KEYCODE_DPAD_UP
  | .left  => KeyEvent.KEYCODE_DPAD_LEFT
  | .right => KeyEvent.KEYCODE_DPAD_RIGHT
  | .down  => KeyEvent.KEYCODE_DPAD_DOWN

namespace VirtualCross

variable {c : VirtualCross} {x y : ℤ}

/-- The cast of `realSize * 0.33` to `int`, for a size that is not negative. -/
def iconSize_33 (c : VirtualCross) : ℤ := 33 * c.realSize / 100

/-- The cast of `realSize * 0.20` to `int`, for a size that is not negative. -/
def padding (c : VirtualCross) : ℤ := c.realSize / 5

/-- The corners of the path that `onDraw` draws, relative to the view. -/
def onDraw (c : VirtualCross) : List (ℤ × ℤ) :=
  let iconSize_33 := c.iconSize_33
  [(iconSize_33, 5), (iconSize_33 * 2, 5), (iconSize_33 * 2, iconSize_33),
    (c.realSize - 5, iconSize_33), (c.realSize - 5, iconSize_33 * 2),
    (iconSize_33 * 2, iconSize_33 * 2), (iconSize_33 * 2, c.realSize - 5),
    (iconSize_33, c.realSize - 5), (iconSize_33, iconSize_33 * 2), (5, iconSize_33 * 2),
    (5, iconSize_33), (iconSize_33, iconSize_33)]

/-- The part of the cross that is one arm. -/
def arm (c : VirtualCross) : Arm → Rect
  | .up    => ⟨c.iconSize_33, 5, 2 * c.iconSize_33, c.iconSize_33⟩
  | .left  => ⟨5, c.iconSize_33, c.iconSize_33, 2 * c.iconSize_33⟩
  | .right => ⟨2 * c.iconSize_33, c.iconSize_33, c.realSize - 5, 2 * c.iconSize_33⟩
  | .down  => ⟨c.iconSize_33, 2 * c.iconSize_33, 2 * c.iconSize_33, c.realSize - 5⟩

/-- The path encloses the arms. -/
theorem arm_enclosed {a : Arm} (hin : (c.arm a).Inside x y) : windingNumber x y c.onDraw ≠ 0 := by
  simp only [onDraw, windingNumber, windingFrom]
  cases a with
  | up | left | right | down =>
    -- the ray leaves the cross through the one side that goes up to the left of the point
    simp only [arm, iconSize_33, Rect.Inside] at hin ⊢
    simp (disch := omega) only [crossing_of_le, crossing_of_beside, crossing_upwards]
    decide

/-- The view is laid out as the square that it measures. -/
structure LaidOut (c : VirtualCross) : Prop where
  right : c.frame.right = c.frame.left + c.realSize
  bottom : c.frame.bottom = c.frame.top + c.realSize

/-- The hitbox of a direction, relative to the view. -/
def zone (c : VirtualCross) : Arm → Rect
  | .up    => ⟨c.iconSize_33, -c.padding, c.realSize - c.iconSize_33,
      c.realSize - 2 * c.iconSize_33⟩
  | .left  => ⟨-c.padding, c.iconSize_33, c.realSize - 2 * c.iconSize_33,
      c.realSize - c.iconSize_33 + c.padding⟩
  | .right => ⟨2 * c.iconSize_33, c.iconSize_33, c.realSize + c.padding,
      c.realSize - c.iconSize_33 + c.padding⟩
  | .down  => ⟨c.iconSize_33, 2 * c.iconSize_33, c.realSize - c.iconSize_33,
      c.realSize + c.padding⟩

/-- The hitbox of a direction on the screen. -/
def bound (c : VirtualCross) : Arm → Rect
  | .up    => c.setBounds.boundUp
  | .left  => c.setBounds.boundLeft
  | .right => c.setBounds.boundRight
  | .down  => c.setBounds.boundDown

lemma bound_eq_zone (hlaid : c.LaidOut) (a : Arm) :
    c.bound a = (c.zone a).offset c.frame.left c.frame.top := by
  cases a with
  | up | left | right | down =>
    simp only [bound, setBounds, zone, Rect.offset, Rect.mk.injEq, hlaid.right, hlaid.bottom,
      iconSize_33, padding]
    omega

lemma zone_contains (hlaid : c.LaidOut) (a : Arm) (x y : ℤ) : (c.zone a).contains x y =
    (c.bound a).contains (c.frame.left + x) (c.frame.top + y) := by
  rw [bound_eq_zone hlaid, Rect.contains_offset]

lemma keyCodeAt_eq_zone (hlaid : c.LaidOut) : c.keyCodeAt x y =
    if (c.zone .left).contains x y then KeyEvent.KEYCODE_DPAD_LEFT
    else if (c.zone .right).contains x y then KeyEvent.KEYCODE_DPAD_RIGHT
    else if (c.zone .up).contains x y then KeyEvent.KEYCODE_DPAD_UP
    else if (c.zone .down).contains x y then KeyEvent.KEYCODE_DPAD_DOWN
    else -1 := by
  simp only [zone_contains hlaid]
  rfl

section

variable {a : Arm} (hin : (c.arm a).Inside x y)
include hin

/-- The own hitbox of an arm covers it. -/
lemma zone_of_inside : (c.zone a).contains x y = true := by
  rw [Rect.contains_iff]
  cases a with
  | up | left | right | down =>
    simp only [arm, zone, iconSize_33, padding, Rect.Inside] at hin ⊢
    omega

/-- The left hitbox covers a strip of the down arm, and no other point of another arm. -/
lemma zone_left_iff (ha : a ≠ .left) : (c.zone .left).contains x y = true ↔
    a = .down ∧ x < c.realSize - 2 * c.iconSize_33 ∧
      y < c.realSize - c.iconSize_33 + c.padding := by
  rw [Rect.contains_iff]
  cases a with
  | left => exact absurd rfl ha
  | up | right | down =>
    simp only [arm, zone, iconSize_33, padding, Rect.Inside, reduceCtorEq, false_and, iff_false,
      true_and] at hin ⊢
    omega

lemma zone_right_of_inside (ha : a = .up ∨ a = .down) :
    (c.zone .right).contains x y = false := by
  rw [Bool.eq_false_iff, ne_eq, Rect.contains_iff]
  rcases ha with rfl | rfl
  · simp only [arm, zone, iconSize_33, padding, Rect.Inside] at hin ⊢
    omega
  · simp only [arm, zone, iconSize_33, padding, Rect.Inside] at hin ⊢
    omega

lemma zone_up_of_inside (ha : a = .down) : (c.zone .up).contains x y = false := by
  rw [Bool.eq_false_iff, ne_eq, Rect.contains_iff]
  subst ha
  simp only [arm, zone, iconSize_33, padding, Rect.Inside] at hin ⊢
  omega

end

/-- A point of an arm has the direction of the arm, but for the strip of the down arm that the
left hitbox covers. -/
theorem keyCodeAt_arm_iff (hlaid : c.LaidOut) {a : Arm} (hin : (c.arm a).Inside x y) :
    c.keyCodeAt x y = a.keyCode ↔ ¬ (a = .down ∧ x < c.realSize - 2 * c.iconSize_33 ∧
      y < c.realSize - c.iconSize_33 + c.padding) := by
  have hown := zone_of_inside hin
  rw [keyCodeAt_eq_zone hlaid]
  cases a with
  | left => simp [hown, Arm.keyCode]
  | right =>
    have hleft := zone_left_iff hin (by simp)
    simp [hown, hleft, Arm.keyCode]
  | up =>
    have hleft := zone_left_iff hin (by simp)
    have hright := zone_right_of_inside hin (Or.inl rfl)
    simp [hown, hleft, hright, Arm.keyCode]
  | down =>
    have hleft := zone_left_iff hin (by simp)
    have hright := zone_right_of_inside hin (Or.inr rfl)
    have hup := zone_up_of_inside hin rfl
    rw [← hleft]
    cases (c.zone .left).contains x y with
    | true => simp [Arm.keyCode, KeyEvent.KEYCODE_DPAD_LEFT, KeyEvent.KEYCODE_DPAD_DOWN]
    | false => simp [hown, hright, hup, Arm.keyCode]

/-- The middle of the down arm of a cross of 200 pixels. -/
theorem keyCodeAt_arm_down : (Create ⟨10, 20, 210, 220⟩).keyCodeAt 100 150 = Arm.down.keyCode :=
  (keyCodeAt_arm_iff ⟨rfl, rfl⟩ (by decide)).mpr (by decide)

/-- The first column of pixels inside the down arm goes left. -/
theorem not_keyCodeAt_arm : ¬ ∀ c : VirtualCross, 0 ≤ c.realSize → c.LaidOut →
    ∀ (a : Arm) (x y : ℤ), (c.arm a).Inside x y → c.keyCodeAt x y = a.keyCode := by
  intro h
  have hdown := h (Create ⟨10, 20, 210, 220⟩) (by decide) ⟨rfl, rfl⟩ .down 67 150 (by decide)
  exact absurd hdown (by decide)

end VirtualCross
end AndroidMkxp.Touch
