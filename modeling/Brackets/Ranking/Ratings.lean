/-
  File:      Brackets/Ranking/Ratings.lean
  Subject:   The ratings of a Swiss stage item.

  The points of a Swiss stage item are ratings. Every match moves the ratings of its two inputs,
  each by `int(K * (gain - expected score))`, truncated on its own.

  * `swissRatings_conserved`: where a match hands out one point, halves for a draw, and the
    expected scores of the two sides add up to one, the two changes cancel. So the ratings are
    whole numbers of which the average stays `START_ELO`;
  * `determineRanking_overflows`: the replay fails exactly if two ratings are so far apart when
    their inputs meet that `math.pow` overflows, and it cannot fail while what the inputs have
    at stake in their matches is small;
  * `determineTeamRanking_listed`: so there are standings, the same for every listing of the stage
    item, unless two such inputs meet.
-/
import Mathlib.Analysis.SpecialFunctions.Pow.Real
import Brackets.Library.Truncation
import Brackets.Ranking.Decimals
import Brackets.Ranking.Turns

namespace Brackets

open Library

/-! ## 1. Truncation -/

theorem truncate_eq (q : Rat) : truncate q = towardsZero q := by
  unfold truncate towardsZero
  split
  · next hq =>
    rw [Rat.floor_def', Int.tdiv_eq_ediv_of_nonneg (Rat.num_nonneg.mpr hq)]
  · next hq =>
    have hneg : 0 ≤ -q.num := Int.neg_nonneg.mpr (Rat.num_nonpos.mpr (not_le.mp hq).le)
    rw [← neg_neg ⌈q⌉, ← Int.floor_neg, Rat.floor_def', Rat.neg_num, Rat.neg_den,
      ← Int.tdiv_eq_ediv_of_nonneg hneg, Int.neg_tdiv, neg_neg]

theorem abs_truncate_le (q : Rat) : |(truncate q : Rat)| ≤ |q| := by
  rw [truncate_eq]
  exact abs_towardsZero_le q

/-! ## 2. What a match does to the ratings -/

section Match

variable {E : ExpectedScore} {ranking : RankingRow}

/-- The ratings of the two inputs before the match. -/
def ratingsBefore (d : StatisticsDict) (r : Result) : Rat × Rat :=
  ((d.getD r.input1 (initialStatistics .swiss)).points,
    (d.getD r.input2 (initialStatistics .swiss)).points)

/-- How much all ratings together exceed their start. -/
def surplus (d : StatisticsDict) : Rat := (d.entries.map fun e => e.2.points - startElo).sum

theorem sum_points (d : StatisticsDict) :
    (d.entries.map fun e => e.2.points).sum = startElo * d.entries.length + surplus d := by
  unfold surplus
  induction d.entries with
  | nil => simp
  | cons e es ih =>
    rw [List.map_cons, List.sum_cons, ih, List.map_cons, List.sum_cons, List.length_cons]
    push_cast
    ring

theorem setStatistics_surplus {side : Side} {d d' : StatisticsDict} {r : Result} {q : Rat × Rat}
    (h : setStatisticsForStageItemInput E .swiss ranking side d r q = .ok d') :
    ∃ p, pointsChange E .swiss side q (r.gain ranking side) = .ok p ∧
      surplus d' = surplus d + p := by
  obtain ⟨p, hp, rfl⟩ := setStatistics_ok h
  refine ⟨p, hp, ?_⟩
  refine (@Dict.sum_set _ _ _ _ _ d _ _ (fun s : TeamStatistics => s.points - startElo)
    (initialStatistics .swiss) (sub_self _)).trans ?_
  unfold TeamStatistics.add surplus
  ring

theorem replayResult_surplus {d d' : StatisticsDict} {r : Result}
    (h : replayResult E .swiss ranking d r = .ok d') : ∃ p1 p2,
      pointsChange E .swiss .one (ratingsBefore d r) (r.gain ranking .one) = .ok p1 ∧
      pointsChange E .swiss .two (ratingsBefore d r) (r.gain ranking .two) = .ok p2 ∧
      surplus d' = surplus d + p1 + p2 := by
  obtain ⟨d1, h1, h2⟩ := bind_eq_ok.mp h
  obtain ⟨p1, hp1, hs1⟩ := setStatistics_surplus h1
  obtain ⟨p2, hp2, hs2⟩ := setStatistics_surplus h2
  exact ⟨p1, p2, hp1, hp2, by rw [hs2, hs1]⟩

theorem seated_surplus (seated : List StageItemInputId) :
    surplus (seatedStatistics .swiss seated) = 0 := by
  refine List.sum_eq_zero fun x hx => ?_
  obtain ⟨e, he, rfl⟩ := List.mem_map.mp hx
  have hget := (Dict.get?_eq_some _).mpr he
  rw [seatedStatistics_get?] at hget
  split at hget
  · rw [← Option.some.inj hget]
    exact sub_self _
  · cases hget

/-! ## 3. Conservation -/

/-- The rating is a whole number. -/
def TeamStatistics.Whole (s : TeamStatistics) : Prop := ∃ n : Int, s.points = n

theorem setStatistics_whole {side : Side} {d d' : StatisticsDict} {r : Result} {q : Rat × Rat}
    (h : setStatisticsForStageItemInput E .swiss ranking side d r q = .ok d')
    (hd : ∀ k, (d.getD k (initialStatistics .swiss)).Whole) (k : StageItemInputId) :
    (d'.getD k (initialStatistics .swiss)).Whole := by
  obtain ⟨p, hp, rfl⟩ := setStatistics_ok h
  obtain ⟨e, -, hp⟩ := bind_eq_ok.mp hp
  rw [Dict.getD_set]
  split
  · obtain ⟨n, hn⟩ := hd (r.input side)
    cases hp
    refine ⟨n + truncate (K * (r.gain ranking side - e)), ?_⟩
    show (d.getD (r.input side) (initialStatistics .swiss)).points + _ = _
    rw [hn]
    push_cast
    rfl
  · exact hd k

/-- `E` gives the rating changes that the exact expected score `F` gives. -/
def Rates (ranking : RankingRow) (E : ExpectedScore) (F : Rat → ℝ) : Prop :=
  ∀ x, ∃ e, E x = some e ∧ ∀ gain ∈ [ranking.winPoints, ranking.drawPoints, ranking.lossPoints],
    truncate (K * (gain - e)) = towardsZero ((K : ℝ) * (gain - F x))

/-- Every exact expected score is rated. -/
theorem exists_rates (ranking : RankingRow) (F : Rat → ℝ) : ∃ E, Rates ranking E F := by
  have hvalue := fun x => exists_rat_towardsZero K
    [ranking.winPoints, ranking.drawPoints, ranking.lossPoints] (F x)
  choose e he using hvalue
  refine ⟨fun x => some (e x), fun x => ⟨e x, rfl, fun gain hgain => ?_⟩⟩
  rw [truncate_eq]
  exact he x gain hgain

variable {F : Rat → ℝ}

theorem gain_mem (hadd : ranking.addScorePoints = false) (r : Result) (side : Side) :
    r.gain ranking side ∈ [ranking.winPoints, ranking.drawPoints, ranking.lossPoints] := by
  unfold Result.gain
  rw [hadd]
  cases r.verdict side <;> simp

/-- A match hands out one point. -/
theorem gain_add (hpoints : ranking.winPoints + ranking.lossPoints = 1)
    (hdraw : ranking.drawPoints = 1 / 2) (hadd : ranking.addScorePoints = false) (r : Result) :
    r.gain ranking .one + r.gain ranking .two = 1 := by
  unfold Result.gain
  rw [hadd]
  have hboth : r.verdict .one = verdictOf r.score1 r.score2 ∧
      r.verdict .two = verdictOf r.score2 r.score1 := ⟨rfl, rfl⟩
  rcases verdictOf_cases r.score1 r.score2 with ⟨hv, h⟩ | ⟨hv, h⟩ | ⟨hv, h⟩
  · rw [hboth.1, hboth.2, hv, verdictOf_eq_loss.mpr h]
    exact hpoints
  · rw [hboth.1, hboth.2, hv, verdictOf_eq_draw.mpr h.symm]
    show ranking.drawPoints + ranking.drawPoints = 1
    rw [hdraw]
    norm_num
  · rw [hboth.1, hboth.2, hv, verdictOf_eq_win.mpr h]
    exact (add_comm _ _).trans hpoints

theorem pointsChange_rated (hE : Rates ranking E F) {side : Side} {q : Rat × Rat} {gain p : Rat}
    (hgain : gain ∈ [ranking.winPoints, ranking.drawPoints, ranking.lossPoints])
    (h : pointsChange E .swiss side q gain = .ok p) :
    p = towardsZero ((K : ℝ) *
      (gain - F ((q.2 - q.1) * (if side = .one then 1 else -1) / D))) := by
  obtain ⟨e, he, h⟩ := bind_eq_ok.mp h
  cases h
  obtain ⟨e', he', htrunc⟩ := hE ((q.2 - q.1) * (if side = .one then 1 else -1) / D)
  obtain rfl := Option.some.inj ((orRaise_eq_ok.mp he).symm.trans he')
  rw [htrunc gain hgain]

/-- **The two changes of a match cancel**, although each is truncated on its own. -/
theorem pointsChange_cancel (hE : Rates ranking E F) (hF : ∀ x, F x + F (-x) = 1)
    {q : Rat × Rat} {gain1 gain2 p1 p2 : Rat}
    (h1 : gain1 ∈ [ranking.winPoints, ranking.drawPoints, ranking.lossPoints])
    (h2 : gain2 ∈ [ranking.winPoints, ranking.drawPoints, ranking.lossPoints])
    (hgain : gain1 + gain2 = 1) (hp1 : pointsChange E .swiss .one q gain1 = .ok p1)
    (hp2 : pointsChange E .swiss .two q gain2 = .ok p2) : p1 + p2 = 0 := by
  have hx : (q.2 - q.1) * (if Side.two = Side.one then (1 : Rat) else -1) / D =
      -((q.2 - q.1) * (if Side.one = Side.one then 1 else -1) / D) := by
    rw [if_neg (by decide), if_pos rfl]
    ring
  have hopposite : (K : ℝ) *
      (gain2 - F ((q.2 - q.1) * (if Side.two = Side.one then (1 : Rat) else -1) / D)) =
      -((K : ℝ) * (gain1 - F ((q.2 - q.1) * (if Side.one = Side.one then 1 else -1) / D))) := by
    have hreal : (gain1 : ℝ) + gain2 = 1 := by exact_mod_cast hgain
    have hsum := hF ((q.2 - q.1) * (if Side.one = Side.one then 1 else -1) / D)
    rw [hx]
    linear_combination (K : ℝ) * hreal - (K : ℝ) * hsum
  rw [pointsChange_rated hE h1 hp1, pointsChange_rated hE h2 hp2, hopposite, towardsZero_neg]
  push_cast
  ring

end Match

/-- **Swiss ratings are conserved.** Where a win and a loss share one point and a draw halves it,
    the ratings add up to `START_ELO` for each entry, and each is a whole number, for every
    exact expected score of which opposite differences add up to one. -/
theorem swissRatings_conserved {ranking : RankingRow} {E : ExpectedScore} {F : Rat → ℝ}
    (hE : Rates ranking E F) (hF : ∀ x, F x + F (-x) = 1)
    (hpoints : ranking.winPoints + ranking.lossPoints = 1) (hdraw : ranking.drawPoints = 1 / 2)
    (hadd : ranking.addScorePoints = false) {item : StageItemWithRounds}
    (htype : item.type = .swiss) :
    ∃ d, determineRankingForStageItem E item ranking = .ok d ∧
      (d.entries.map fun e => e.2.points).sum = startElo * d.entries.length ∧
      ∀ e ∈ d.entries, e.2.Whole := by
  rw [determineRanking_eq_replay, htype]
  obtain ⟨d, hd⟩ : ∃ d, replay E .swiss ranking item.seated item.results = .ok d := by
    refine replay_ok_of_changes (fun side q gain => ?_) item.seated item.results
    obtain ⟨e, he, -⟩ := hE ((q.2 - q.1) * (if side = .one then 1 else -1) / D)
    exact ⟨_, bind_eq_ok.mpr ⟨e, orRaise_eq_ok.mpr he, rfl⟩⟩
  have hkept : surplus d = 0 ∧ ∀ k, (d.getD k (initialStatistics .swiss)).Whole := by
    refine foldlM_invariant (P := fun d => surplus d = 0 ∧
      ∀ k, (d.getD k (initialStatistics .swiss)).Whole) (fun d r d' hinv h => ?_)
      ⟨seated_surplus item.seated, fun k => ⟨1200, ?_⟩⟩ hd
    · obtain ⟨p1, p2, hp1, hp2, hsum⟩ := replayResult_surplus h
      refine ⟨?_, ?_⟩
      · rw [hsum, hinv.1, zero_add]
        exact pointsChange_cancel hE hF (gain_mem hadd r .one) (gain_mem hadd r .two)
          (gain_add hpoints hdraw hadd r) hp1 hp2
      · obtain ⟨d1, h1, h2⟩ := bind_eq_ok.mp h
        exact setStatistics_whole h2 (setStatistics_whole h1 hinv.2)
    · rw [seatedStatistics_getD]
      norm_num [initialStatistics, initialPoints, startElo]
  refine ⟨d, hd, by rw [sum_points, hkept.1, add_zero], fun e he => ?_⟩
  have hwhole := hkept.2 e.1
  rw [Dict.getD, d.get?_eq_some.mpr he] at hwhole
  exact hwhole

/-- The expected score over the reals. -/
noncomputable def logistic (x : Rat) : ℝ := 1 / (1 + (10 : ℝ) ^ (x : ℝ))

theorem logistic_add (x : Rat) : logistic x + logistic (-x) = 1 := by
  unfold logistic
  have hpos : (0 : ℝ) < (10 : ℝ) ^ (x : ℝ) := Real.rpow_pos_of_pos (by norm_num) _
  rw [Rat.cast_neg, Real.rpow_neg (by norm_num)]
  field_simp
  ring

theorem swissDuel_conserved : ∃ E, Rates ⟨1, 1, 0, 1, 1 / 2, 0, false⟩ E logistic ∧
    ∃ d, determineRankingForStageItem E swissDuel ⟨1, 1, 0, 1, 1 / 2, 0, false⟩ = .ok d ∧
      (d.entries.map fun e => e.2.points).sum = startElo * d.entries.length ∧
      ∀ e ∈ d.entries, e.2.Whole := by
  obtain ⟨E, hE⟩ := exists_rates ⟨1, 1, 0, 1, 1 / 2, 0, false⟩ logistic
  exact ⟨E, hE, swissRatings_conserved hE logistic_add (by norm_num) rfl rfl rfl⟩

/-! ## 4. Overflow -/

/-- The largest double. -/
def maxDouble : Nat := (2 ^ 53 - 1) * 2 ^ 971

/-- `1 / (1 + math.pow(10.0, x))`: it overflows exactly if the power exceeds the doubles. -/
structure MathPow (E : ExpectedScore) : Prop where
  overflow : ∀ x, E x = none ↔ (maxDouble : ℝ) < (10 : ℝ) ^ (x : ℝ)
  value : ∀ x e, E x = some e → 0 ≤ e ∧ e ≤ 1

/-- The ratings are so far apart that the power overflows. -/
def TooFar (q : Rat × Rat) : Prop := (maxDouble : ℝ) < (10 : ℝ) ^ ((|q.1 - q.2| / D : Rat) : ℝ)

section Overflow

variable {E : ExpectedScore} {ranking : RankingRow}

theorem pow_308_le : (10 : ℝ) ^ (308 : ℝ) ≤ maxDouble := by
  have hnat : 10 ^ 308 ≤ maxDouble := by decide +kernel
  rw [show (308 : ℝ) = ((308 : Nat) : ℝ) by norm_num, Real.rpow_natCast]
  exact_mod_cast hnat

theorem not_tooFar {q : Rat × Rat} (h : |q.1 - q.2| ≤ 123200) : ¬ TooFar q := by
  have hx : |q.1 - q.2| / D ≤ 308 := by
    unfold D
    linarith
  have hreal : ((|q.1 - q.2| / D : Rat) : ℝ) ≤ 308 := by exact_mod_cast hx
  exact not_lt.mpr ((Real.rpow_le_rpow_of_exponent_le (by norm_num) hreal).trans pow_308_le)

namespace Rounded

/-- The exponent of the power for a side of a match, from the ratings before it. -/
def exponent (A : Rounding) (q : Rat × Rat) (side : Side) : Rat :=
  A.round (A.round (A.round (q.2 - q.1) * (if side = .one then 1 else -1)) / D)

/-- The power overflows for one of the two sides. -/
def TooFar (A : Rounding) (q : Rat × Rat) : Prop :=
  ∃ side, (maxDouble : ℝ) < (10 : ℝ) ^ (exponent A q side : ℝ)

variable {A : Rounding}

/-- A side gets its statistics, or the power overflows. -/
theorem setStatistics_swiss (side : Side) (d : StatisticsDict) (r : Result) (q : Rat × Rat) :
    (E (exponent A q side) ≠ none ∧
      ∃ d', setStatisticsForStageItemInput A E .swiss ranking side d r q = .ok d') ∨
    (E (exponent A q side) = none ∧
      setStatisticsForStageItemInput A E .swiss ranking side d r q =
        .error (.crash .overflowError)) := by
  unfold setStatisticsForStageItemInput statisticsAfter
  dsimp only
  rw [show A.round (A.round (A.round (q.2 - q.1) * (if side = .one then 1 else -1)) / D) =
    exponent A q side from rfl]
  cases E (exponent A q side) with
  | none => exact Or.inr ⟨rfl, rfl⟩
  | some e => exact Or.inl ⟨Option.some_ne_none e, _, rfl⟩

variable (A ranking) in
/-- A match fails only by overflow, exactly if the two ratings before it are too far apart. -/
theorem replayResult_tooFar (hE : MathPow E) (d : StatisticsDict) (r : Result) :
    (¬ TooFar A (ratingsBefore d r) ∧ ∃ d', replayResult A E .swiss ranking d r = .ok d') ∨
      (TooFar A (ratingsBefore d r) ∧
        replayResult A E .swiss ranking d r = .error (.crash .overflowError)) := by
  have hfar (side : Side) : E (exponent A (ratingsBefore d r) side) = none ↔
      (maxDouble : ℝ) < (10 : ℝ) ^ (exponent A (ratingsBefore d r) side : ℝ) := hE.overflow _
  have hreplay : replayResult A E .swiss ranking d r =
      setStatisticsForStageItemInput A E .swiss ranking .one d r (ratingsBefore d r) >>= fun d1 =>
        setStatisticsForStageItemInput A E .swiss ranking .two d1 r (ratingsBefore d r) := rfl
  rw [hreplay]
  rcases @setStatistics_swiss E ranking A .one d r (ratingsBefore d r) with
    ⟨hnear, d1, h1⟩ | ⟨hnone, h1⟩
  · rw [h1]
    rcases @setStatistics_swiss E ranking A .two d1 r (ratingsBefore d r) with
      ⟨hnear', d2, h2⟩ | ⟨hnone, h2⟩
    · refine Or.inl ⟨?_, d2, h2⟩
      rintro ⟨side, hside⟩
      cases side with
      | one => exact hnear ((hfar .one).mpr hside)
      | two => exact hnear' ((hfar .two).mpr hside)
    · exact Or.inr ⟨⟨.two, (hfar .two).mp hnone⟩, h2⟩
  · rw [h1]
    exact Or.inr ⟨⟨.one, (hfar .one).mp hnone⟩, rfl⟩

/-- A run fails exactly with the first match that fails. -/
theorem foldlM_overflows (hE : MathPow E) (rs : List Result) (d : StatisticsDict) (e : Failure) :
    rs.foldlM (replayResult A E .swiss ranking) d = .error e ↔ e = .crash .overflowError ∧
      ∃ pre r post d', rs = pre ++ r :: post ∧
        pre.foldlM (replayResult A E .swiss ranking) d = .ok d' ∧
        TooFar A (ratingsBefore d' r) := by
  induction rs generalizing d with
  | nil =>
    constructor
    · intro h
      cases h
    · rintro ⟨-, pre, r, post, d', h, -⟩
      exact absurd h.symm (List.append_ne_nil_of_right_ne_nil _ (List.cons_ne_nil _ _))
  | cons r rs ih =>
    rw [List.foldlM_cons]
    rcases replayResult_tooFar ranking A hE d r with ⟨hnear, d1, h1⟩ | ⟨hfar, h1⟩
    · rw [h1]
      refine (ih d1).trans (and_congr_right fun _ => ⟨?_, ?_⟩)
      · rintro ⟨pre, r', post, d', rfl, hpre, hfar⟩
        refine ⟨r :: pre, r', post, d', rfl, ?_, hfar⟩
        rw [List.foldlM_cons, h1]
        exact hpre
      · rintro ⟨pre, r', post, d', hsplit, hpre, hfar⟩
        cases pre with
        | nil =>
          cases hsplit
          cases hpre
          exact absurd hfar hnear
        | cons a pre =>
          cases hsplit
          rw [List.foldlM_cons, h1] at hpre
          exact ⟨pre, r', post, d', rfl, hpre, hfar⟩
    · rw [h1]
      constructor
      · intro h
        cases h
        exact ⟨rfl, [], r, rs, d, rfl, rfl, hfar⟩
      · rintro ⟨rfl, -⟩
        rfl

/-- The replay fails exactly with the first match of two inputs that are too far apart. -/
theorem determineRanking_fails (hE : MathPow E) {item : StageItemWithRounds}
    (htype : item.type = .swiss) (ranking : RankingRow) (e : Failure) :
    determineRankingForStageItem A E item ranking = .error e ↔ e = .crash .overflowError ∧
      ∃ pre r post d, item.results = pre ++ r :: post ∧
        replay A E .swiss ranking item.seated pre = .ok d ∧ TooFar A (ratingsBefore d r) := by
  rw [determineRanking_eq_replay, htype]
  exact foldlM_overflows hE item.results _ e

end Rounded

/-- In exact arithmetic one of the two sides overflows exactly if the ratings are too far apart. -/
theorem tooFar_iff (q : Rat × Rat) : Rounded.TooFar .exact q ↔ TooFar q := by
  have habs : |q.1 - q.2| / D = |(q.2 - q.1) / D| := by
    rw [abs_div, abs_sub_comm, abs_of_pos (show (0 : Rat) < D by norm_num [D])]
  have hone : Rounded.exponent .exact q .one = (q.2 - q.1) / D := congrArg (· / D) (mul_one _)
  have htwo : Rounded.exponent .exact q .two = -((q.2 - q.1) / D) :=
    (congrArg (· / D) (mul_neg_one _)).trans (neg_div _ _)
  unfold TooFar
  rw [habs]
  constructor
  · have hmono : ∀ x : Rat, x ≤ |(q.2 - q.1) / D| → (maxDouble : ℝ) < (10 : ℝ) ^ (x : ℝ) →
        (maxDouble : ℝ) < (10 : ℝ) ^ ((|(q.2 - q.1) / D| : Rat) : ℝ) := fun x hx h =>
      h.trans_le (Real.rpow_le_rpow_of_exponent_le (by norm_num) (Rat.cast_le.mpr hx))
    rintro ⟨side, h⟩
    cases side with
    | one => exact hmono _ (hone.le.trans (le_abs_self _)) h
    | two => exact hmono _ (htwo.le.trans (neg_le_abs _)) h
  · intro h
    rcases abs_choice ((q.2 - q.1) / D) with hx | hx
    · exact ⟨.one, hone.symm ▸ hx ▸ h⟩
    · exact ⟨.two, htwo.symm ▸ hx ▸ h⟩

/-! ## 5. What is at stake -/

/-- A bound for what a match can do to the rating of an input. -/
def Result.stake (ranking : RankingRow) (k : StageItemInputId) (r : Result) : Rat :=
  (if r.input1 = k then K * (|r.gain ranking .one| + 1) else 0) +
    if r.input2 = k then K * (|r.gain ranking .two| + 1) else 0

/-- A bound for what the matches together can do to it. -/
def stake (ranking : RankingRow) (k : StageItemInputId) (rs : List Result) : Rat :=
  (rs.map (·.stake ranking k)).sum

theorem stake_nonneg (k : StageItemInputId) (r : Result) : 0 ≤ r.stake ranking k := by
  have hside : ∀ (p : Prop) [Decidable p] (gain : Rat), 0 ≤ if p then K * (|gain| + 1) else 0 := by
    intro p _ gain
    split
    · unfold K
      positivity
    · exact le_refl 0
  exact add_nonneg (hside _ _) (hside _ _)

theorem pointsChange_le (hE : MathPow E) {side : Side} {q : Rat × Rat} {gain p : Rat}
    (h : pointsChange E .swiss side q gain = .ok p) : |p| ≤ K * (|gain| + 1) := by
  obtain ⟨e, he, h⟩ := bind_eq_ok.mp h
  cases h
  obtain ⟨hge, hle⟩ := hE.value _ e (orRaise_eq_ok.mp he)
  have hK : (0 : Rat) < K := by norm_num [K]
  calc |(truncate (K * (gain - e)) : Rat)|
      ≤ |K * (gain - e)| := abs_truncate_le _
    _ = K * |gain - e| := by rw [abs_mul, abs_of_pos hK]
    _ ≤ K * (|gain| + |e|) := by gcongr; exact abs_sub gain e
    _ ≤ K * (|gain| + 1) := by gcongr; rwa [abs_of_nonneg hge]

theorem setStatistics_le (hE : MathPow E) {side : Side} {d d' : StatisticsDict} {r : Result}
    {q : Rat × Rat} (h : setStatisticsForStageItemInput E .swiss ranking side d r q = .ok d')
    (k : StageItemInputId) :
    |(d'.getD k (initialStatistics .swiss)).points - (d.getD k (initialStatistics .swiss)).points| ≤
      if r.input side = k then K * (|r.gain ranking side| + 1) else 0 := by
  obtain ⟨p, hp, rfl⟩ := setStatistics_ok h
  rw [Dict.getD_set]
  by_cases hk : r.input side = k
  · rw [if_pos hk.symm, if_pos hk, ← hk]
    unfold TeamStatistics.add
    rw [add_sub_cancel_left]
    exact pointsChange_le hE hp
  · rw [if_neg fun e => hk e.symm, if_neg hk, sub_self, abs_zero]

theorem replayResult_le (hE : MathPow E) {d d' : StatisticsDict} {r : Result}
    (h : replayResult E .swiss ranking d r = .ok d') (k : StageItemInputId) :
    |(d'.getD k (initialStatistics .swiss)).points - (d.getD k (initialStatistics .swiss)).points| ≤
      r.stake ranking k := by
  obtain ⟨d1, h1, h2⟩ := bind_eq_ok.mp h
  refine (abs_sub_le _ (d1.getD k (initialStatistics .swiss)).points _).trans ?_
  rw [add_comm]
  exact add_le_add (setStatistics_le hE h1 k) (setStatistics_le hE h2 k)

/-- A run moves a rating by no more than what is at stake. -/
theorem foldlM_le (hE : MathPow E) {rs : List Result} {d d' : StatisticsDict}
    (h : rs.foldlM (replayResult E .swiss ranking) d = .ok d') (k : StageItemInputId) :
    |(d'.getD k (initialStatistics .swiss)).points - (d.getD k (initialStatistics .swiss)).points| ≤
      stake ranking k rs := by
  induction rs generalizing d with
  | nil =>
    cases h
    rw [sub_self, abs_zero]
    exact le_refl 0
  | cons r rs ih =>
    rw [List.foldlM_cons] at h
    obtain ⟨d1, h1, h⟩ := bind_eq_ok.mp h
    refine (abs_sub_le _ (d1.getD k (initialStatistics .swiss)).points _).trans ?_
    unfold stake
    rw [List.map_cons, List.sum_cons, add_comm]
    exact add_le_add (replayResult_le hE h1 k) (ih h)

theorem stake_append_le (k : StageItemInputId) (pre post : List Result) :
    stake ranking k pre ≤ stake ranking k (pre ++ post) := by
  unfold stake
  rw [List.map_append, List.sum_append]
  refine le_add_of_nonneg_right (List.sum_nonneg fun x hx => ?_)
  obtain ⟨r, -, rfl⟩ := List.mem_map.mp hx
  exact stake_nonneg k r

/-- While little is at stake the ratings stay close. -/
theorem not_tooFar_of_stake (hE : MathPow E) {seated : List StageItemInputId}
    {pre post : List Result} {r : Result} {d : StatisticsDict}
    (h : replay E .swiss ranking seated pre = .ok d)
    (hstake : stake ranking r.input1 (pre ++ r :: post) + stake ranking r.input2 (pre ++ r :: post) ≤
      123200) : ¬ TooFar (ratingsBefore d r) := by
  have hmoved : ∀ k, |(d.getD k (initialStatistics .swiss)).points - startElo| ≤
      stake ranking k (pre ++ r :: post) := by
    intro k
    have hle := foldlM_le hE h k
    rw [seatedStatistics_getD] at hle
    exact hle.trans (stake_append_le k pre _)
  refine not_tooFar ((abs_sub_le _ startElo _).trans (le_trans ?_ hstake))
  refine add_le_add (hmoved r.input1) ?_
  rw [abs_sub_comm]
  exact hmoved r.input2

/-- The replay fails exactly with the first match of two inputs that are too far apart. -/
theorem determineRanking_fails (hE : MathPow E) {item : StageItemWithRounds}
    (htype : item.type = .swiss) (ranking : RankingRow) (e : Failure) :
    determineRankingForStageItem E item ranking = .error e ↔ e = .crash .overflowError ∧
      ∃ pre r post d, item.results = pre ++ r :: post ∧
        replay E .swiss ranking item.seated pre = .ok d ∧ TooFar (ratingsBefore d r) := by
  simp only [← tooFar_iff]
  exact Rounded.determineRanking_fails hE htype ranking e

end Overflow

/-- Whether `10^x` exceeds the largest double, in whole numbers. -/
def powOverflows (x : Rat) : Bool := decide (0 ≤ x.num ∧ maxDouble ^ x.den < 10 ^ x.num.toNat)

theorem powOverflows_iff (x : Rat) : powOverflows x = true ↔ (maxDouble : ℝ) < (10 : ℝ) ^ (x : ℝ) := by
  have hone : (1 : ℝ) ≤ maxDouble := by
    have hnat : 1 ≤ maxDouble := by decide +kernel
    exact_mod_cast hnat
  unfold powOverflows
  rw [decide_eq_true_eq]
  by_cases hnum : 0 ≤ x.num
  · rw [and_iff_right hnum]
    have hpow : ((10 : ℝ) ^ (x : ℝ)) ^ x.den = (10 : ℝ) ^ x.num.toNat := by
      rw [← Real.rpow_natCast, ← Real.rpow_mul (by norm_num), ← Real.rpow_natCast]
      congr 1
      have hx : (x : ℝ) * x.den = x.num := by exact_mod_cast Rat.mul_den_eq_num x
      rw [hx]
      exact_mod_cast (Int.toNat_of_nonneg hnum).symm
    have hroot : (maxDouble : ℝ) ^ x.den < ((10 : ℝ) ^ (x : ℝ)) ^ x.den ↔
        (maxDouble : ℝ) < (10 : ℝ) ^ (x : ℝ) :=
      pow_lt_pow_iff_left₀ (by positivity) (by positivity) x.den_ne_zero
    rw [← hroot, hpow]
    exact_mod_cast Iff.rfl
  · have hx : (x : ℝ) ≤ 0 := by
      exact_mod_cast Rat.num_nonpos.mp (not_le.mp hnum).le
    have hle : (10 : ℝ) ^ (x : ℝ) ≤ 1 := Real.rpow_le_one_of_one_le_of_nonpos (by norm_num) hx
    exact iff_of_false (fun h => hnum h.1) (not_lt.mpr (hle.trans hone))

/-- The expected score between equal ratings, and in the limit of far apart ones. -/
def coarseScore : ExpectedScore := fun x =>
  if powOverflows x then none else some (if x = 0 then 1 / 2 else if x < 0 then 1 else 0)

theorem coarseScore_mathPow : MathPow coarseScore := by
  refine ⟨fun x => ?_, fun x e h => ?_⟩
  · rw [← powOverflows_iff, coarseScore]
    split
    · next h => exact iff_of_true rfl h
    · next h => exact iff_of_false (Option.some_ne_none _) h
  · unfold coarseScore at h
    split at h
    · cases h
    · rw [← Option.some.inj h]
      split
      · norm_num
      · split <;> norm_num

/-- Two inputs of a Swiss stage item meet whose ratings are then so far apart that `math.pow`
    overflows. -/
def MeetTooFarApart (A : Rounding) (E : ExpectedScore) (item : StageItemWithRounds)
    (ranking : RankingRow) : Prop :=
  item.type = .swiss ∧ ∃ pre r post d, item.results = pre ++ r :: post ∧
    Rounded.replay A E .swiss ranking item.seated pre = .ok d ∧
    Rounded.TooFar A (ratingsBefore d r)

theorem determineRanking_of_near {A : Rounding} {E : ExpectedScore} (hE : MathPow E)
    {item : StageItemWithRounds} {ranking : RankingRow} (hnear : ¬ MeetTooFarApart A E item ranking) :
    ∃ d, Rounded.determineRankingForStageItem A E item ranking = .ok d := by
  by_cases htype : item.type = .swiss
  · cases h : Rounded.determineRankingForStageItem A E item ranking with
    | ok d => exact ⟨d, rfl⟩
    | error e =>
      have hmeet := ((Rounded.determineRanking_fails hE htype ranking e).mp h).2
      exact absurd ⟨htype, hmeet⟩ hnear
  · exact Rounded.determineRanking_total htype

/-- **The standings of a stage item** are the same for every order in which its inputs, rounds and
    matches are listed. They list everyone with a team or a match that counts once, each strictly
    ahead of the next; only where two inputs of a Swiss stage item meet whose ratings are too far
    apart there is an OverflowError instead. -/
theorem determineTeamRanking_listed {A : Rounding} {E : ExpectedScore} (hE : MathPow E)
    {item : StageItemWithRounds} (hitem : item.Listed) (ranking : RankingRow) :
    (∀ item', Relisting item item' → Rounded.determineTeamRankingForStageItem A E item' ranking =
      Rounded.determineTeamRankingForStageItem A E item ranking) ∧
    (¬ MeetTooFarApart A E item ranking → ∃ d l,
      Rounded.determineRankingForStageItem A E item ranking = .ok d ∧
      Rounded.determineTeamRankingForStageItem A E item ranking = .ok l ∧
      ListedStandings item d l) ∧
    (MeetTooFarApart A E item ranking →
      Rounded.determineTeamRankingForStageItem A E item ranking =
        .error (.crash .overflowError)) := by
  refine ⟨fun item' h => Rounded.determineTeamRanking_relisted hitem h, fun hnear => ?_,
    fun hfar => ?_⟩
  · obtain ⟨d, hd⟩ := determineRanking_of_near hE hnear
    obtain ⟨l, hl, hstandings⟩ := Rounded.determineTeamRanking_standings hitem hd
    exact ⟨d, l, hd, hl, hstandings⟩
  · obtain ⟨htype, hmeet⟩ := hfar
    exact Rounded.determineTeamRanking_error
      ((Rounded.determineRanking_fails hE htype ranking _).mpr ⟨rfl, hmeet⟩)

theorem swissDuel_listed : swissDuel.Listed :=
  ⟨by decide, by decide, by decide, by decide, own_of_ownInputs (by decide)⟩

theorem swissDuel_near : ¬ MeetTooFarApart decimalContext coarseScore swissDuel
    ⟨1, 1, 0, 1, 1 / 2, 0, false⟩ := by
  rintro ⟨htype, hmeet⟩
  have hfails :=
    (Rounded.determineRanking_fails coarseScore_mathPow htype _ _).mpr ⟨rfl, hmeet⟩
  have hrated : (Rounded.determineRankingForStageItem decimalContext coarseScore swissDuel
      ⟨1, 1, 0, 1, 1 / 2, 0, false⟩).toOption.isSome = true := by decide +kernel
  rw [hfails] at hrated
  cases hrated

/-- The duel has standings, whoever is listed first: the winner leads. -/
theorem swissDuel_standings : ∃ d l,
    (∀ item', Relisting swissDuel item' →
      Rounded.determineTeamRankingForStageItem decimalContext coarseScore item'
        ⟨1, 1, 0, 1, 1 / 2, 0, false⟩ = .ok l) ∧
    Rounded.determineRankingForStageItem decimalContext coarseScore swissDuel
      ⟨1, 1, 0, 1, 1 / 2, 0, false⟩ = .ok d ∧
    ListedStandings swissDuel d l ∧ l.map (·.1) = [1, 2] := by
  obtain ⟨hsame, hlisted, -⟩ := @determineTeamRanking_listed decimalContext _ coarseScore_mathPow _
    swissDuel_listed ⟨1, 1, 0, 1, 1 / 2, 0, false⟩
  obtain ⟨d, l, hd, hl, hstandings⟩ := hlisted swissDuel_near
  have horder : (Rounded.determineTeamRankingForStageItem decimalContext coarseScore swissDuel
      ⟨1, 1, 0, 1, 1 / 2, 0, false⟩).map (fun l => l.map (·.1)) = .ok [1, 2] := by decide +kernel
  rw [hl] at horder
  exact ⟨d, l, fun item' h => (hsame item' h).trans hl, hd, hstandings, Except.ok.inj horder⟩

/-- With ten thousand points for a win the rematch has no standings. -/
theorem rematch_overflows : MathPow coarseScore ∧ rematch.Listed ∧
    Rounded.determineTeamRankingForStageItem decimalContext coarseScore rematch
      ⟨1, 1, 0, 10000, 1 / 2, 0, false⟩ = .error (.crash .overflowError) :=
  ⟨coarseScore_mathPow, ⟨by decide, by decide, by decide, by decide, own_of_ownInputs (by decide)⟩,
    by decide +kernel⟩

end Brackets
