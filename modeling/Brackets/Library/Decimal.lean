/-
  File:      Brackets/Library/Decimal.lean
  Subject:   Numbers with a fixed count of digits.

  A `Rounding` keeps the order, fixes what it returns, and fixes zero; exact arithmetic rounds
  nothing. `Rounding.sum` adds numbers one after the other and rounds every sum: it is the exact
  sum if none of them is changed (`Rounding.sum_of_fits`).

  `decimal` rounds to a count of decimal digits, halves to the even last digit.

  * `decimal_of_hasDigits`: a number with that many digits stays what it is;
  * `decimal_mono`: the order is kept, so it is a rounding (`Rounding.decimals`);
  * `fits_decimals`: what is added fits if the whole sum does.
-/
import Mathlib.Data.Int.Log
import Mathlib.Data.List.Induction
import Mathlib.Data.List.Infix
import Mathlib.Data.Rat.Floor
import Mathlib.Tactic.Linarith
import Mathlib.Tactic.Positivity

namespace Library

structure Rounding where
  round : ℚ → ℚ
  mono : Monotone round
  idem : ∀ q, round (round q) = round q
  zero : round 0 = 0

namespace Rounding

/-- Exact arithmetic. -/
def exact : Rounding := ⟨id, monotone_id, fun _ => rfl, rfl⟩

/-! ## 1. Sums -/

variable (A : Rounding)

/-- The numbers added one after the other, every sum rounded. -/
def sum (start : ℚ) (qs : List ℚ) : ℚ := qs.foldl (fun s q => A.round (s + q)) start

/-- No sum on the way is changed. -/
def Fits (qs : List ℚ) : Prop := ∀ first ∈ qs.inits, A.round first.sum = first.sum

instance (qs : List ℚ) : Decidable (A.Fits qs) :=
  inferInstanceAs (Decidable (∀ first ∈ qs.inits, A.round first.sum = first.sum))

variable {A} {qs qs' : List ℚ} {start start' : ℚ}

@[simp] theorem sum_nil : A.sum start [] = start := rfl

@[simp] theorem sum_singleton (q : ℚ) : A.sum start [q] = A.round (start + q) := rfl

theorem sum_append : A.sum start (qs ++ qs') = A.sum (A.sum start qs) qs' := List.foldl_append

/-- A greater start gives a sum that is not smaller. -/
theorem sum_mono (h : start ≤ start') : A.sum start qs ≤ A.sum start' qs := by
  induction qs generalizing start start' with
  | nil => exact h
  | cons q qs ih => exact ih (A.mono (add_le_add_left h q))

/-- A sum is already rounded. -/
theorem round_sum (h : A.round start = start) : A.round (A.sum start qs) = A.sum start qs := by
  induction qs generalizing start with
  | nil => exact h
  | cons q qs ih => exact ih (A.idem _)

theorem Fits.left (h : A.Fits (qs ++ qs')) : A.Fits qs := by
  intro first hfirst
  rw [List.mem_inits] at hfirst
  exact h first ((List.mem_inits _ _).mpr (hfirst.trans (List.prefix_append qs qs')))

theorem Fits.round_sum (h : A.Fits qs) : A.round qs.sum = qs.sum :=
  h qs ((List.mem_inits _ _).mpr List.prefix_rfl)

/-- **A sum that fits is exact.** -/
theorem sum_of_fits (h : A.Fits qs) : A.sum 0 qs = qs.sum := by
  induction qs using List.reverseRecOn with
  | nil => rfl
  | append_singleton qs q ih =>
    have hall := h.round_sum
    rw [List.sum_append, List.sum_singleton] at hall
    rw [sum_append, ih h.left, sum_singleton, List.sum_append, List.sum_singleton, hall]

end Rounding

/-! ## 2. Whole numbers -/

/-- The nearest whole number, of two the even one. -/
def halfEven (q : ℚ) : ℤ :=
  if q - ⌊q⌋ < 1 / 2 then ⌊q⌋
  else if 1 / 2 < q - ⌊q⌋ then ⌊q⌋ + 1
  else if ⌊q⌋ % 2 = 0 then ⌊q⌋ else ⌊q⌋ + 1

theorem halfEven_intCast (n : ℤ) : halfEven n = n := by
  unfold halfEven
  rw [Int.floor_intCast, sub_self, if_pos one_half_pos]

theorem floor_le_halfEven (q : ℚ) : ⌊q⌋ ≤ halfEven q := by
  unfold halfEven
  split_ifs <;> omega

theorem halfEven_le_floor (q : ℚ) : halfEven q ≤ ⌊q⌋ + 1 := by
  unfold halfEven
  split_ifs <;> omega

theorem halfEven_mono {q q' : ℚ} (h : q ≤ q') : halfEven q ≤ halfEven q' := by
  rcases (Int.floor_le_floor h).lt_or_eq with hlt | heq
  · exact (halfEven_le_floor q).trans (hlt.trans_le (floor_le_halfEven q'))
  · have hfraction : q - ⌊q⌋ ≤ q' - ⌊q'⌋ := by
      rw [heq]
      exact sub_le_sub_right h _
    by_cases hlow : q - ⌊q⌋ < 1 / 2
    · calc halfEven q = ⌊q⌋ := if_pos hlow
        _ = ⌊q'⌋ := heq
        _ ≤ halfEven q' := floor_le_halfEven q'
    · have hlow' : ¬ q' - ⌊q'⌋ < 1 / 2 := fun h' => hlow (hfraction.trans_lt h')
      by_cases hhigh' : 1 / 2 < q' - ⌊q'⌋
      · calc halfEven q ≤ ⌊q⌋ + 1 := halfEven_le_floor q
          _ = ⌊q'⌋ + 1 := congrArg (· + 1) heq
          _ = halfEven q' := ((if_neg hlow').trans (if_pos hhigh')).symm
      · -- both are halves
        have hhigh : ¬ 1 / 2 < q - ⌊q⌋ := fun h' => hhigh' (h'.trans_le hfraction)
        have hq : halfEven q = if ⌊q⌋ % 2 = 0 then ⌊q⌋ else ⌊q⌋ + 1 :=
          (if_neg hlow).trans (if_neg hhigh)
        have hq' : halfEven q' = if ⌊q'⌋ % 2 = 0 then ⌊q'⌋ else ⌊q'⌋ + 1 :=
          (if_neg hlow').trans (if_neg hhigh')
        rw [hq, hq', heq]

theorem halfEven_neg (q : ℚ) : halfEven (-q) = -halfEven q := by
  by_cases hint : ∃ n : ℤ, (n : ℚ) = q
  · obtain ⟨n, rfl⟩ := hint
    rw [← Int.cast_neg, halfEven_intCast, halfEven_intCast]
  · have hlo : (⌊q⌋ : ℚ) < q := lt_of_le_of_ne (Int.floor_le q) fun h => hint ⟨_, h⟩
    have hfloor : ⌊-q⌋ = -⌊q⌋ - 1 := by
      rw [Int.floor_eq_iff]
      have hhi := Int.lt_floor_add_one q
      push_cast
      exact ⟨by linarith, by linarith⟩
    have hfraction : -q - ((-⌊q⌋ - 1 : ℤ) : ℚ) = 1 - (q - ⌊q⌋) := by
      push_cast
      linarith
    unfold halfEven
    rw [hfloor, hfraction]
    split_ifs <;> first | omega | linarith

/-! ## 3. Digits -/

/-- A whole number of that many digits times a power of ten. -/
def HasDigits (digits : ℕ) (q : ℚ) : Prop :=
  ∃ c e : ℤ, |c| < 10 ^ digits ∧ q = c * 10 ^ e

/-- What the last of the digits counts. -/
def lastDigit (digits : ℕ) (q : ℚ) : ℤ := Int.log 10 |q| + 1 - digits

/-- The nearest number with that many digits, of two the one with the even last digit. -/
def decimal (digits : ℕ) (q : ℚ) : ℚ :=
  halfEven (q / 10 ^ lastDigit digits q) * 10 ^ lastDigit digits q

section Digits

variable {digits : ℕ} {q : ℚ}

theorem ten_zpow_pos (e : ℤ) : (0 : ℚ) < 10 ^ e := zpow_pos (by norm_num) e

theorem lastDigit_neg (digits : ℕ) (q : ℚ) : lastDigit digits (-q) = lastDigit digits q := by
  unfold lastDigit
  rw [abs_neg]

theorem decimal_neg (digits : ℕ) (q : ℚ) : decimal digits (-q) = -decimal digits q := by
  unfold decimal
  rw [lastDigit_neg, neg_div, halfEven_neg, Int.cast_neg, neg_mul]

theorem decimal_zero (digits : ℕ) : decimal digits 0 = 0 := by
  have hzero : halfEven 0 = 0 := halfEven_intCast 0
  unfold decimal
  rw [zero_div, hzero, Int.cast_zero, zero_mul]

/-- **A number with that many digits stays what it is.** -/
theorem decimal_of_hasDigits (h : HasDigits digits q) : decimal digits q = q := by
  obtain ⟨c, e, hc, rfl⟩ := h
  rcases eq_or_ne c 0 with rfl | hne
  · rw [Int.cast_zero, zero_mul, decimal_zero]
  set q : ℚ := c * 10 ^ e with hq
  have habs : |q| = (|c| : ℤ) * 10 ^ e := by
    rw [hq, abs_mul, abs_of_pos (ten_zpow_pos e), Int.cast_abs]
  have hpos : 0 < |q| := abs_pos.mpr (mul_ne_zero (Int.cast_ne_zero.mpr hne) (ten_zpow_pos e).ne')
  have hlog : Int.log 10 |q| < digits + e := by
    rw [← Int.lt_zpow_iff_log_lt (by norm_num) hpos, habs, Nat.cast_ofNat,
      zpow_add₀ (by norm_num : (10 : ℚ) ≠ 0), zpow_natCast]
    exact mul_lt_mul_of_pos_right (by exact_mod_cast hc) (ten_zpow_pos e)
  -- the last digit of `q` is one of those that are kept
  obtain ⟨n, hn⟩ : ∃ n : ℕ, e = lastDigit digits q + n :=
    ⟨(e - lastDigit digits q).toNat, by unfold lastDigit; omega⟩
  have hdiv : q / 10 ^ lastDigit digits q = ((c * 10 ^ n : ℤ) : ℚ) := by
    rw [div_eq_iff (ten_zpow_pos _).ne']
    calc q = c * 10 ^ (lastDigit digits q + n) := by rw [← hn]
      _ = ((c * 10 ^ n : ℤ) : ℚ) * 10 ^ lastDigit digits q := by
          rw [zpow_add₀ (by norm_num : (10 : ℚ) ≠ 0), zpow_natCast]
          push_cast
          ring
  unfold decimal
  rw [hdiv, halfEven_intCast, ← hdiv, div_mul_cancel₀ _ (ten_zpow_pos _).ne']

theorem hasDigits_of_multiple {places : ℕ} (hwhole : ∃ n : ℤ, q * 10 ^ places = n)
    (hsmall : |q| * 10 ^ places < 10 ^ digits) : HasDigits digits q := by
  obtain ⟨n, hn⟩ := hwhole
  have hplaces : (0 : ℚ) < 10 ^ places := by positivity
  refine ⟨n, -places, ?_, ?_⟩
  · have habs : ((|n| : ℤ) : ℚ) = |q| * 10 ^ places := by
      rw [Int.cast_abs, ← hn, abs_mul, abs_of_pos hplaces]
    rw [← habs] at hsmall
    exact_mod_cast hsmall
  · rw [← hn, zpow_neg, zpow_natCast, mul_inv_cancel_right₀ hplaces.ne']

end Digits

/-! ## 4. The order -/

section Order

variable {digits : ℕ} (hdigits : 0 < digits) {q q' : ℚ}
include hdigits

/-- The rounded number has the size of the exact one. -/
theorem decimal_bounds (hq : 0 < q) :
    10 ^ Int.log 10 q ≤ decimal digits q ∧ decimal digits q ≤ 10 ^ (Int.log 10 q + 1) := by
  have hlo := Int.zpow_log_le_self (b := 10) (by norm_num) hq
  have hhi := Int.lt_zpow_succ_log_self (b := 10) (by norm_num) q
  rw [Nat.cast_ofNat] at hlo hhi
  have hlast : lastDigit digits q = Int.log 10 q + 1 - digits := by
    unfold lastDigit
    rw [abs_of_pos hq]
  have hscale := ten_zpow_pos (lastDigit digits q)
  have hpower : ∀ n : ℕ, ((10 ^ n : ℤ) : ℚ) * 10 ^ lastDigit digits q =
      10 ^ (n + lastDigit digits q) := by
    intro n
    rw [zpow_add₀ (by norm_num : (10 : ℚ) ≠ 0), zpow_natCast]
    push_cast
    rfl
  have hfirst : ((digits - 1 : ℕ) : ℤ) + lastDigit digits q = Int.log 10 q := by omega
  have hnext : (digits : ℤ) + lastDigit digits q = Int.log 10 q + 1 := by omega
  constructor
  · rw [← hfirst, ← hpower]
    refine mul_le_mul_of_nonneg_right (Int.cast_le.mpr ?_) hscale.le
    rw [← halfEven_intCast (10 ^ (digits - 1))]
    refine halfEven_mono ?_
    rw [le_div_iff₀ hscale, hpower, hfirst]
    exact hlo
  · rw [← hnext, ← hpower]
    refine mul_le_mul_of_nonneg_right (Int.cast_le.mpr ?_) hscale.le
    rw [← halfEven_intCast (10 ^ digits)]
    refine halfEven_mono ?_
    rw [div_le_iff₀ hscale, hpower, hnext]
    exact hhi.le

theorem decimal_nonneg (hq : 0 ≤ q) : 0 ≤ decimal digits q := by
  rcases hq.eq_or_lt with rfl | hq
  · rw [decimal_zero]
  · exact (ten_zpow_pos _).le.trans (decimal_bounds hdigits hq).1

theorem decimal_le_of_pos (hq : 0 < q) (h : q ≤ q') : decimal digits q ≤ decimal digits q' := by
  have hq' := hq.trans_le h
  rcases (Int.log_mono_right (b := 10) hq h).lt_or_eq with hlt | heq
  · calc decimal digits q ≤ 10 ^ (Int.log 10 q + 1) := (decimal_bounds hdigits hq).2
      _ ≤ 10 ^ Int.log 10 q' := zpow_le_zpow_right₀ (by norm_num) hlt
      _ ≤ decimal digits q' := (decimal_bounds hdigits hq').1
  · have hlast : lastDigit digits q' = lastDigit digits q := by
      unfold lastDigit
      rw [abs_of_pos hq, abs_of_pos hq', heq]
    have hscale := ten_zpow_pos (lastDigit digits q)
    unfold decimal
    rw [hlast]
    exact mul_le_mul_of_nonneg_right
      (Int.cast_le.mpr (halfEven_mono (div_le_div_of_nonneg_right h hscale.le))) hscale.le

/-- **The order is kept.** -/
theorem decimal_mono : Monotone (decimal digits) := by
  intro q q' h
  rcases lt_or_ge 0 q with hq | hq
  · exact decimal_le_of_pos hdigits hq h
  · have hneg : decimal digits q ≤ 0 := by
      have hnonneg := decimal_nonneg hdigits (neg_nonneg.mpr hq)
      rw [decimal_neg] at hnonneg
      exact neg_nonneg.mp hnonneg
    rcases lt_or_ge q' 0 with hq' | hq'
    · have hle := decimal_le_of_pos hdigits (neg_pos.mpr hq') (neg_le_neg h)
      rw [decimal_neg, decimal_neg] at hle
      exact neg_le_neg_iff.mp hle
    · exact hneg.trans (decimal_nonneg hdigits hq')

theorem hasDigits_decimal (q : ℚ) : HasDigits digits (decimal digits q) := by
  rcases eq_or_ne q 0 with rfl | hne
  · exact ⟨0, 0, by positivity, by rw [decimal_zero, Int.cast_zero, zero_mul]⟩
  wlog hq : 0 < q generalizing q
  · obtain ⟨c, e, hc, hce⟩ := this (-q) (neg_ne_zero.mpr hne)
      (neg_pos.mpr (lt_of_le_of_ne (not_lt.mp hq) hne))
    rw [decimal_neg] at hce
    exact ⟨-c, e, by rwa [abs_neg], by rw [Int.cast_neg, neg_mul, ← hce, neg_neg]⟩
  have hsize := (decimal_bounds hdigits hq).2
  rcases hsize.lt_or_eq with hlt | heq
  · refine ⟨_, _, ?_, rfl⟩
    have hnonneg : 0 ≤ halfEven (q / 10 ^ lastDigit digits q) := by
      have hzero := halfEven_mono (div_nonneg hq.le (ten_zpow_pos (lastDigit digits q)).le)
      rwa [show halfEven 0 = 0 from halfEven_intCast 0] at hzero
    have hlast : Int.log 10 q + 1 - lastDigit digits q = digits := by
      unfold lastDigit
      rw [abs_of_pos hq, sub_sub_cancel]
    rw [abs_of_nonneg hnonneg]
    unfold decimal at hlt
    rw [← lt_div_iff₀ (ten_zpow_pos _), ← zpow_sub₀ (by norm_num : (10 : ℚ) ≠ 0), hlast,
      zpow_natCast] at hlt
    exact_mod_cast hlt
  · -- the digits carried over
    refine ⟨1, _, ?_, by rw [heq, Int.cast_one, one_mul]⟩
    rw [abs_one]
    exact one_lt_pow₀ (by norm_num) hdigits.ne'

end Order

/-- Rounding to a count of digits. -/
def Rounding.decimals (digits : ℕ) (hdigits : 0 < digits) : Rounding where
  round := decimal digits
  mono := decimal_mono hdigits
  idem q := decimal_of_hasDigits (hasDigits_decimal hdigits q)
  zero := decimal_zero digits

/-- **What is added fits if the whole sum does**: numbers with so many places after the point whose
    sum has no more digits than there are. -/
theorem fits_decimals {digits places : ℕ} (hdigits : 0 < digits) {qs : List ℚ}
    (hnonneg : ∀ q ∈ qs, 0 ≤ q) (hwhole : ∀ q ∈ qs, ∃ n : ℤ, q * 10 ^ places = n)
    (hsmall : qs.sum * 10 ^ places < 10 ^ digits) : (Rounding.decimals digits hdigits).Fits qs := by
  intro first hfirst
  obtain ⟨rest, rfl⟩ := (List.mem_inits _ _).mp hfirst
  have hfirstNonneg : 0 ≤ first.sum :=
    List.sum_nonneg fun q hq => hnonneg q (List.mem_append_left rest hq)
  have hrestNonneg : 0 ≤ rest.sum :=
    List.sum_nonneg fun q hq => hnonneg q (List.mem_append_right first hq)
  have hsumWhole : ∃ n : ℤ, first.sum * 10 ^ places = n := by
    have hfirstWhole := fun q hq => hwhole q (List.mem_append_left rest hq)
    clear * - hfirstWhole
    induction first with
    | nil => exact ⟨0, by simp⟩
    | cons q first ih =>
      obtain ⟨n, hn⟩ := hfirstWhole q List.mem_cons_self
      obtain ⟨n', hn'⟩ := ih fun q' hq' => hfirstWhole q' (List.mem_cons_of_mem q hq')
      exact ⟨n + n', by rw [List.sum_cons, add_mul, hn, hn', Int.cast_add]⟩
  refine decimal_of_hasDigits (hasDigits_of_multiple hsumWhole (lt_of_le_of_lt ?_ hsmall))
  rw [abs_of_nonneg hfirstNonneg, List.sum_append]
  exact mul_le_mul_of_nonneg_right (le_add_of_nonneg_right hrestNonneg) (by positivity)

end Library
