/-
  File:      Brackets/Library/Circle.lean
  Subject:   The circle method: seats around a table, one of them fixed.

  `R + 1` players sit at the places `0 .. R`, player `0` always at place `0`. After each round the
  player at the last place moves to place `1` and all others move up by one. Players at the places
  `i` and `R - i` meet.

  * `circle_turn`: moving the last player is one round;
  * `meets_iff`: in round `r` the players `a` and `b` meet when `a + b + 2 r` is a multiple of `R`;
  * `meets_existsUnique`: for odd `R` every two players meet in exactly one of the rounds `0 .. R-1`;
  * `mem_circlePairs_or`, `circlePairs_disjoint`: the meetings of a round as disjoint pairs.
-/
import Mathlib.Data.List.Nodup
import Mathlib.Data.List.Pairwise
import Mathlib.Tactic.Common

namespace Library

/-- The player at place `i` in round `r`. -/
def seat (R r i : Nat) : Nat := if i = 0 then 0 else if i ≤ r then R - r + i else i - r

/-- The table in round `r`. -/
def circle (R r : Nat) : List Nat := 0 :: (List.range' (R - r + 1) r ++ List.range' 1 (R - r))

/-- The pairs of round `r`, from the outer places to the inner ones. -/
def circlePairs (R r : Nat) : List (Nat × Nat) :=
  (List.range ((R + 1) / 2)).map fun m => (seat R r m, seat R r (R - m))

/-- Two players sit at places that meet. -/
def Meets (R r a b : Nat) : Prop := ∃ i ≤ R, seat R r i = a ∧ seat R r (R - i) = b

/-! ## 1. The table -/

theorem circle_zero (R : Nat) : circle R 0 = List.range (R + 1) := by
  rw [List.range_eq_range', List.range'_succ]
  rfl

theorem length_circle {R r : Nat} (hr : r ≤ R) : (circle R r).length = R + 1 := by
  rw [circle, List.length_cons, List.length_append, List.length_range', List.length_range']
  omega

theorem circle_getElem? {R r i : Nat} (hr : r ≤ R) (hi : i ≤ R) :
    (circle R r)[i]? = some (seat R r i) := by
  unfold circle seat
  cases i with
  | zero => rfl
  | succ i =>
    rw [List.getElem?_cons_succ, if_neg (Nat.succ_ne_zero i)]
    by_cases hlt : i < r
    · rw [List.getElem?_append_left (by rw [List.length_range']; exact hlt),
        List.getElem?_range' hlt, if_pos (Nat.succ_le_of_lt hlt)]
      congr 1
      omega
    · rw [List.getElem?_append_right (by rw [List.length_range']; omega), List.length_range',
        List.getElem?_range' (by omega), if_neg (by omega)]
      congr 1
      omega

/-- **Moving the last player to place `1` is one round.** -/
theorem circle_turn {R r : Nat} (hr : r < R) : R - r ∈ circle R r ∧
    ((circle R r).erase (R - r)).take 1 ++ (R - r) :: ((circle R r).erase (R - r)).drop 1 =
      circle R (r + 1) := by
  obtain ⟨s, hs⟩ : ∃ s, R - r = s + 1 := ⟨R - r - 1, by omega⟩
  have hs' : R - (r + 1) = s := by omega
  have hlast : circle R r = 0 :: (List.range' (s + 2) r ++ (List.range' 1 s ++ [s + 1])) := by
    rw [circle, hs, List.range'_concat, Nat.one_mul, Nat.add_comm 1 s]
  have hfirst : s + 1 ∉ List.range' (s + 2) r := fun h => by
    have := List.mem_range'_1.mp h
    omega
  have hmiddle : s + 1 ∉ List.range' 1 s := fun h => by
    have := List.mem_range'_1.mp h
    omega
  have herase : (circle R r).erase (s + 1) = 0 :: (List.range' (s + 2) r ++ List.range' 1 s) := by
    rw [hlast, List.erase_cons_tail (by simp), List.erase_append_right _ hfirst,
      List.erase_append_right _ hmiddle, List.erase_cons_head, List.append_nil]
  rw [hs]
  refine ⟨?_, ?_⟩
  · rw [hlast]
    simp
  · rw [herase, circle, hs', List.range'_succ]
    rfl

/-! ## 2. Who meets whom -/

theorem seat_le {R r i : Nat} (hr : r ≤ R) (hi : i ≤ R) : seat R r i ≤ R := by
  unfold seat
  split
  · omega
  · split <;> omega

/-- A player sits at one place. -/
theorem seat_inj {R r i j : Nat} (hr : r ≤ R) (hi : i ≤ R) (hj : j ≤ R)
    (h : seat R r i = seat R r j) : i = j := by
  unfold seat at h
  split at h <;> split at h <;> (try split at h) <;> (try split at h) <;> omega

theorem exists_seat {R r a : Nat} (hr : r < R) (ha : a ≤ R) : ∃ i ≤ R, seat R r i = a := by
  unfold seat
  by_cases h0 : a = 0
  · exact ⟨0, Nat.zero_le R, by simp [h0]⟩
  · by_cases hle : a + r ≤ R
    · exact ⟨a + r, hle, by rw [if_neg (by omega), if_neg (by omega)]; omega⟩
    · exact ⟨a + r - R, by omega, by rw [if_neg (by omega), if_pos (by omega)]; omega⟩

theorem Meets.symm {R r a b : Nat} (h : Meets R r a b) : Meets R r b a := by
  obtain ⟨i, hi, ha, hb⟩ := h
  exact ⟨R - i, Nat.sub_le R i, hb, by rwa [Nat.sub_sub_self hi]⟩

/-- A player meets one player a round. -/
theorem Meets.right_unique {R r a b c : Nat} (hr : r ≤ R) (hb : Meets R r a b)
    (hc : Meets R r a c) : b = c := by
  obtain ⟨i, hi, hia, hib⟩ := hb
  obtain ⟨j, hj, hja, hjc⟩ := hc
  rw [← hib, ← hjc, seat_inj hr hi hj (hia.trans hja.symm)]

theorem exists_meets {R r a : Nat} (hr : r < R) (ha : a ≤ R) : ∃ b ≤ R, Meets R r a b := by
  obtain ⟨i, hi, h⟩ := exists_seat hr ha
  exact ⟨_, seat_le (Nat.le_of_lt hr) (Nat.sub_le R i), i, hi, h, rfl⟩

/-- The fixed player meets the one at the last place. -/
theorem meets_zero {R r b : Nat} (hr : r < R) : Meets R r 0 b ↔ b = R - r := by
  have hlast : seat R r R = R - r := by
    unfold seat
    rw [if_neg (by omega), if_neg (by omega)]
  constructor
  · rintro ⟨i, hi, h0, rfl⟩
    have hi0 : i = 0 := seat_inj (Nat.le_of_lt hr) hi (Nat.zero_le R) h0
    rw [hi0, Nat.sub_zero, hlast]
  · rintro rfl
    exact ⟨0, Nat.zero_le R, rfl, hlast⟩

/-- **Two others meet when the sum of their numbers and twice the round is a multiple of `R`.** -/
theorem meets_iff {R r a b : Nat} (hr : r < R) (ha : 0 < a) (haR : a ≤ R) (hb : 0 < b)
    (hbR : b ≤ R) (hab : a ≠ b) :
    Meets R r a b ↔ a + b + 2 * r = R ∨ a + b + 2 * r = 2 * R ∨ a + b + 2 * r = 3 * R := by
  obtain ⟨i, hi, hseat⟩ := exists_seat hr haR
  have hopponent : Meets R r a b ↔ seat R r (R - i) = b := by
    constructor
    · rintro ⟨j, hj, hja, hjb⟩
      rwa [seat_inj (Nat.le_of_lt hr) hi hj (hseat.trans hja.symm)]
    · exact fun h => ⟨i, hi, hseat, h⟩
  rw [hopponent]
  unfold seat at hseat ⊢
  split at hseat
  · omega
  · split at hseat <;> split <;> (try split) <;> omega

/-- **Every two players meet in exactly one round.** -/
theorem meets_existsUnique {R a b : Nat} (hodd : R % 2 = 1) (ha : a ≤ R) (hb : b ≤ R)
    (hab : a ≠ b) : ∃! r, r < R ∧ Meets R r a b := by
  have zero : ∀ c, c ≤ R → 0 ≠ c → ∃! r, r < R ∧ Meets R r 0 c := by
    intro c hc h0
    refine ⟨R - c, ⟨by omega, (meets_zero (by omega)).mpr (by omega)⟩, fun r ⟨hr, h⟩ => ?_⟩
    have := (meets_zero hr).mp h
    omega
  by_cases ha0 : a = 0
  · subst ha0
    exact zero b hb hab
  by_cases hb0 : b = 0
  · subst hb0
    obtain ⟨r, ⟨hr, h⟩, huniq⟩ := zero a ha (Ne.symm hab)
    exact ⟨r, ⟨hr, h.symm⟩, fun s ⟨hs, h'⟩ => huniq s ⟨hs, h'.symm⟩⟩
  have hmeets : ∀ r, r < R → (Meets R r a b ↔
      a + b + 2 * r = R ∨ a + b + 2 * r = 2 * R ∨ a + b + 2 * r = 3 * R) := fun r hr =>
    meets_iff hr (Nat.pos_of_ne_zero ha0) ha (Nat.pos_of_ne_zero hb0) hb hab
  obtain ⟨r, hr, hsum⟩ : ∃ r, r < R ∧
      (a + b + 2 * r = R ∨ a + b + 2 * r = 2 * R ∨ a + b + 2 * r = 3 * R) := by
    by_cases heven : (a + b) % 2 = 0
    · exact ⟨R - (a + b) / 2, by omega, by omega⟩
    · by_cases hle : a + b ≤ R
      · exact ⟨(R - (a + b)) / 2, by omega, by omega⟩
      · exact ⟨(3 * R - (a + b)) / 2, by omega, by omega⟩
  refine ⟨r, ⟨hr, (hmeets r hr).mpr hsum⟩, fun s ⟨hs, h⟩ => ?_⟩
  have := (hmeets s hs).mp h
  omega

/-! ## 3. The pairs of a round -/

theorem mem_circlePairs {R r : Nat} {p : Nat × Nat} : p ∈ circlePairs R r ↔
    ∃ m < (R + 1) / 2, p = (seat R r m, seat R r (R - m)) := by
  simp only [circlePairs, List.mem_map, List.mem_range]
  exact exists_congr fun m => and_congr_right fun _ => eq_comm

theorem circlePairs_ne {R r : Nat} (hodd : R % 2 = 1) (hr : r ≤ R) {p : Nat × Nat}
    (hp : p ∈ circlePairs R r) : p.1 ≠ p.2 := by
  obtain ⟨m, hm, rfl⟩ := mem_circlePairs.mp hp
  intro e
  have := seat_inj hr (by omega) (by omega) e
  omega

/-- The pairs are the meetings, each once. -/
theorem mem_circlePairs_or {R r a b : Nat} (hodd : R % 2 = 1) :
    (a, b) ∈ circlePairs R r ∨ (b, a) ∈ circlePairs R r ↔ Meets R r a b := by
  constructor
  · rintro (h | h)
    · obtain ⟨m, hm, e⟩ := mem_circlePairs.mp h
      rw [Prod.mk.injEq] at e
      exact ⟨m, by omega, e.1.symm, e.2.symm⟩
    · obtain ⟨m, hm, e⟩ := mem_circlePairs.mp h
      rw [Prod.mk.injEq] at e
      exact Meets.symm ⟨m, by omega, e.1.symm, e.2.symm⟩
  · rintro ⟨i, hi, rfl, rfl⟩
    by_cases hlt : i < (R + 1) / 2
    · exact Or.inl (mem_circlePairs.mpr ⟨i, hlt, rfl⟩)
    · refine Or.inr (mem_circlePairs.mpr ⟨R - i, by omega, ?_⟩)
      rw [Nat.sub_sub_self hi]

/-- No player is in two pairs of a round. -/
theorem circlePairs_disjoint {R r : Nat} (hr : r ≤ R) : (circlePairs R r).Pairwise
    fun p q => ∀ a, a = p.1 ∨ a = p.2 → ¬ (a = q.1 ∨ a = q.2) := by
  have hlt : (List.range ((R + 1) / 2)).Pairwise fun m n => m < n ∧ n < (R + 1) / 2 := by
    refine List.pairwise_lt_range.imp_of_mem fun {m n} _ hn h => ⟨h, List.mem_range.mp hn⟩
  refine List.pairwise_map.mpr (hlt.imp fun {m n} hmn a ha hb => ?_)
  have hinj : ∀ i j, i ≤ R → j ≤ R → seat R r i = seat R r j → i = j := fun i j hi hj =>
    seat_inj hr hi hj
  rcases ha with rfl | rfl <;> rcases hb with e | e <;>
    have := hinj _ _ (by omega) (by omega) e <;> omega

end Library
