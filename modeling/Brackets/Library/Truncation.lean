/-
  File:      Brackets/Library/Truncation.lean
  Subject:   Truncation towards zero.

  * `towardsZero_neg`: truncation is odd;
  * `abs_towardsZero_le`: it brings a number closer to zero;
  * `towardsZero_near`: it is constant around a number that is no integer;
  * `exists_rat_towardsZero`: so a real number can be replaced by a rational one with the same
    truncations of finitely many rational multiples of differences.
-/
import Mathlib.Data.Rat.Floor
import Mathlib.Algebra.Order.Archimedean.Real.Basic

namespace Library

section Field

variable {R : Type} [Field R] [LinearOrder R] [IsStrictOrderedRing R] [FloorRing R]

def towardsZero (x : R) : Int := if 0 ≤ x then ⌊x⌋ else ⌈x⌉

theorem towardsZero_neg (x : R) : towardsZero (-x) = -towardsZero x := by
  unfold towardsZero
  rcases lt_trichotomy x 0 with hx | rfl | hx
  · rw [if_pos (neg_nonneg.mpr hx.le), if_neg (not_le.mpr hx), Int.floor_neg]
  · simp
  · rw [if_neg (not_le.mpr (neg_lt_zero.mpr hx)), if_pos hx.le, Int.ceil_neg]

theorem abs_towardsZero_le (x : R) : |(towardsZero x : R)| ≤ |x| := by
  unfold towardsZero
  split
  · next hx =>
    have hfloor : (0 : R) ≤ ⌊x⌋ := Int.cast_nonneg (Int.floor_nonneg.mpr hx)
    rw [abs_of_nonneg hfloor, abs_of_nonneg hx]
    exact Int.floor_le x
  · next hx =>
    have hx := not_le.mp hx
    have hceil : (⌈x⌉ : R) ≤ 0 := Int.cast_nonpos.mpr (Int.ceil_le.mpr (by simpa using hx.le))
    rw [abs_of_nonpos hceil, abs_of_neg hx]
    exact neg_le_neg (Int.le_ceil x)

theorem towardsZero_ratCast (q : ℚ) : towardsZero (q : R) = towardsZero q := by
  unfold towardsZero
  rw [Rat.floor_cast, Rat.ceil_cast]
  exact if_congr Rat.cast_nonneg rfl rfl

omit [IsStrictOrderedRing R] in
/-- Between two integers the truncation is the one closer to zero. -/
theorem towardsZero_between {x : R} {n : Int} (hlo : (n : R) < x) (hhi : x < n + 1) :
    towardsZero x = if 0 ≤ n then n else n + 1 := by
  have hfloor : ⌊x⌋ = n := Int.floor_eq_iff.mpr ⟨hlo.le, hhi⟩
  have hceil : ⌈x⌉ = n + 1 := by
    refine Int.ceil_eq_iff.mpr ⟨?_, ?_⟩
    · simpa using hlo
    · simpa using hhi.le
  unfold towardsZero
  rw [hfloor, hceil]
  refine if_congr ?_ rfl rfl
  rw [← hfloor, Int.floor_nonneg]

/-- Around a number that is no integer the truncation is constant. -/
theorem towardsZero_near {x : R} (hx : ∀ n : Int, (n : R) ≠ x) :
    ∃ ε > 0, ∀ y, |y - x| < ε → towardsZero y = towardsZero x := by
  have hlo : (⌊x⌋ : R) < x := lt_of_le_of_ne (Int.floor_le x) (hx _)
  have hhi : x < ⌊x⌋ + 1 := Int.lt_floor_add_one x
  refine ⟨min (x - ⌊x⌋) (⌊x⌋ + 1 - x), lt_min (sub_pos.mpr hlo) (sub_pos.mpr hhi), fun y hy => ?_⟩
  obtain ⟨hylo, hyhi⟩ := abs_lt.mp hy
  have hmin := min_le_left (x - (⌊x⌋ : R)) (⌊x⌋ + 1 - x)
  have hmin' := min_le_right (x - (⌊x⌋ : R)) (⌊x⌋ + 1 - x)
  rw [towardsZero_between hlo hhi, towardsZero_between (n := ⌊x⌋) (by linarith) (by linarith)]

end Field

/-- **A rational number truncates like a real one.** -/
theorem exists_rat_towardsZero (k : ℚ) (gains : List ℚ) (y : ℝ) :
    ∃ q : ℚ, ∀ g ∈ gains, towardsZero (k * (g - q)) = towardsZero ((k : ℝ) * (g - y)) := by
  by_cases hrat : ∃ q : ℚ, (q : ℝ) = y
  · obtain ⟨q, rfl⟩ := hrat
    refine ⟨q, fun g _ => ?_⟩
    rw [← towardsZero_ratCast (R := ℝ) (k * (g - q))]
    push_cast
    rfl
  by_cases hk : k = 0
  · subst hk
    refine ⟨0, fun g _ => ?_⟩
    simp [towardsZero]
  -- no multiple of a difference is an integer, as `y` would be rational
  have hno : ∀ (g : ℚ) (n : Int), (n : ℝ) ≠ k * (g - y) := by
    intro g n h
    refine hrat ⟨g - n / k, ?_⟩
    have hk' : (k : ℝ) ≠ 0 := Rat.cast_ne_zero.mpr hk
    push_cast
    rw [h]
    field_simp
    ring
  have hnear : ∃ ε > 0, ∀ z : ℝ, |z - y| < ε → ∀ g ∈ gains,
      towardsZero ((k : ℝ) * (g - z)) = towardsZero ((k : ℝ) * (g - y)) := by
    induction gains with
    | nil => exact ⟨1, one_pos, fun _ _ _ h => absurd h List.not_mem_nil⟩
    | cons g gains ih =>
      obtain ⟨ε, hε, hall⟩ := ih
      obtain ⟨δ, hδ, hg⟩ := towardsZero_near (hno g)
      have hkpos : 0 < |(k : ℝ)| := abs_pos.mpr (Rat.cast_ne_zero.mpr hk)
      refine ⟨min ε (δ / |(k : ℝ)|), lt_min hε (div_pos hδ hkpos), fun z hz => ?_⟩
      refine List.forall_mem_cons.mpr ⟨hg _ ?_, hall z (lt_of_lt_of_le hz (min_le_left _ _))⟩
      have hdiff : (k : ℝ) * (g - z) - k * (g - y) = k * (y - z) := by ring
      rw [hdiff, abs_mul, abs_sub_comm, mul_comm]
      exact (lt_div_iff₀ hkpos).mp (lt_of_lt_of_le hz (min_le_right _ _))
  obtain ⟨ε, hε, hall⟩ := hnear
  obtain ⟨q, hq⟩ := exists_rat_near y hε
  refine ⟨q, fun g hg => ?_⟩
  rw [← hall q (by rwa [abs_sub_comm]) g hg, ← towardsZero_ratCast (R := ℝ) (k * (g - q))]
  push_cast
  rfl

end Library
