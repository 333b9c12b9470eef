/-
  File:      Brackets/Ranking/Decimals.lean
  Subject:   Points that are rounded.

  Outside of Swiss stage items a side of a match adds its rounded gain to the points of its input,
  and the sum is rounded again. The score difference stays exact.

  * `Rounded.replay_scored`: the points of an input are the rounded sum over its scores, in the
    order of the replay;
  * `determineRanking_exact`: if the points of every input fit, the ranking is the one in
    exact arithmetic;
  * `pointsFit_decimals`: 28 digits are enough for points with few enough places.
-/
import Mathlib.Tactic.Linarith
import Brackets.Ranking.Standings

namespace Brackets

open Library

/-! ## 1. Sums over scores -/

/-- What pairs of scores are worth in points. -/
def worth (ranking : RankingRow) (scores : List (Int × Int)) : Rat :=
  (scores.map fun p => gainOf ranking p.1 p.2).sum

def margin (scores : List (Int × Int)) : Int := (scores.map fun p => p.1 - p.2).sum

section Sums

variable {ranking : RankingRow}

@[simp] theorem worth_append (scores scores' : List (Int × Int)) :
    worth ranking (scores ++ scores') = worth ranking scores + worth ranking scores' := by
  rw [worth, List.map_append, List.sum_append]
  rfl

@[simp] theorem margin_append (scores scores' : List (Int × Int)) :
    margin (scores ++ scores') = margin scores + margin scores' := by
  rw [margin, List.map_append, List.sum_append]
  rfl

@[simp] theorem worth_nil : worth ranking [] = 0 := rfl

@[simp] theorem margin_nil : margin [] = 0 := rfl

@[simp] theorem worth_singleton (a b : Int) : worth ranking [(a, b)] = gainOf ranking a b :=
  add_zero _

@[simp] theorem margin_singleton (a b : Int) : margin [(a, b)] = a - b := add_zero _

/-- Scores have only one sum of points. -/
theorem TeamStatistics.Sums.points_unique {s t : TeamStatistics} {scores : List (Int × Int)}
    (hs : s.Sums ranking scores) (ht : t.Sums ranking scores) : s.points = t.points := by
  rw [hs.points, ht.points, hs.wins, ht.wins, hs.draws, ht.draws, hs.losses, ht.losses,
    hs.scoreFor, ht.scoreFor]

theorem TeamStatistics.Sums.points_eq {s : TeamStatistics} {scores : List (Int × Int)}
    (h : s.Sums ranking scores) : s.points = worth ranking scores := by
  have run : ∃ t : TeamStatistics, t.Sums ranking scores ∧ t.points = worth ranking scores := by
    clear h
    induction scores using List.reverseRecOn with
    | nil => exact ⟨{}, ⟨rfl, rfl, rfl, rfl, rfl, by simp⟩, rfl⟩
    | append_singleton scores p ih =>
      obtain ⟨t, ht, hpoints⟩ := ih
      refine ⟨_, ht.add p.1 p.2, ?_⟩
      rw [worth_append, ← hpoints]
      exact congrArg (t.points + ·) (worth_singleton p.1 p.2).symm
  obtain ⟨t, ht, hpoints⟩ := run
  rw [h.points_unique ht, hpoints]

end Sums

/-- What a pair of scores is worth, rounded where the program adds the score. -/
def roundedGain (A : Rounding) (ranking : RankingRow) (score opponentScore : Int) : Rat :=
  if ranking.addScorePoints then A.round (gainOf ranking score opponentScore)
  else gainOf ranking score opponentScore

/-! ## 2. The replay -/

namespace Rounded

section Replay

variable (A : Rounding) {E : ExpectedScore} {type : StageType} (ranking : RankingRow)

/-- The points of an input with these scores, added to others. -/
def pointsAfter (start : Rat) (scores : List (Int × Int)) : Rat :=
  A.sum start (scores.map fun p => roundedGain A ranking p.1 p.2)

variable {A ranking}

@[simp] theorem pointsAfter_nil {start : Rat} : pointsAfter A ranking start [] = start := rfl

@[simp] theorem pointsAfter_singleton {start : Rat} (a b : Int) :
    pointsAfter A ranking start [(a, b)] = A.round (start + roundedGain A ranking a b) := rfl

theorem pointsAfter_append {start : Rat} (scores scores' : List (Int × Int)) :
    pointsAfter A ranking start (scores ++ scores') =
      pointsAfter A ranking (pointsAfter A ranking start scores) scores' := by
  unfold pointsAfter
  rw [List.map_append, Rounding.sum_append]

variable (A ranking) in
theorem pointsAfter_mono {start start' : Rat} (scores : List (Int × Int)) (h : start ≤ start') :
    pointsAfter A ranking start scores ≤ pointsAfter A ranking start' scores :=
  Rounding.sum_mono h

/-- The statistics with one more match. -/
theorem statisticsAfter_eq (h : type ≠ .swiss) (side : Side) (r : Result) (q : Rat × Rat)
    (s : TeamStatistics) : statisticsAfter A E type ranking side r q s =
      .ok { s.add (r.verdict side) (r.score side) (r.score side.other) 0 with
        points := A.round (s.points + roundedGain A ranking (r.score side) (r.score side.other)) } := by
  unfold statisticsAfter
  dsimp only
  rw [hasWon_eq r side, wasDraw_eq r side]
  unfold roundedGain gainOf TeamStatistics.add Result.verdict
  cases type with
  | roundRobin =>
    cases verdictOf (r.score side) (r.score side.other) <;>
      cases ranking.addScorePoints <;> simp
  | singleElimination =>
    cases verdictOf (r.score side) (r.score side.other) <;>
      cases ranking.addScorePoints <;> simp
  | swiss => exact absurd rfl h

/-- The points are the rounded sum over the scores, the difference is the exact one. -/
structure Scored (A : Rounding) (ranking : RankingRow) (s : TeamStatistics)
    (scores : List (Int × Int)) : Prop where
  points : s.points = pointsAfter A ranking 0 scores
  difference : s.scoreDifference = margin scores

variable {d d' : StatisticsDict} {r : Result} {k : StageItemInputId} {scores : List (Int × Int)}

theorem setStatistics_scored (h : type ≠ .swiss) {side : Side} {q : Rat × Rat}
    (hd : setStatisticsForStageItemInput A E type ranking side d r q = .ok d')
    (hs : Scored A ranking (d.getD k (initialStatistics type)) scores) :
    Scored A ranking (d'.getD k (initialStatistics type))
      (scores ++ if r.input side = k then [(r.score side, r.score side.other)] else []) := by
  obtain ⟨s, hstatistics, rfl⟩ := setStatistics_eq_ok.mp hd
  rw [statisticsAfter_eq h] at hstatistics
  cases hstatistics
  rw [Dict.getD_set]
  by_cases hk : r.input side = k
  · rw [if_pos hk.symm, if_pos hk, hk]
    constructor
    · rw [pointsAfter_append, ← hs.points]
      rfl
    · have hdifference := hs.difference
      unfold TeamStatistics.scoreDifference TeamStatistics.add at *
      rw [margin_append, margin_singleton, ← hdifference]
      dsimp only
      omega
  · rw [if_neg fun e => hk e.symm, if_neg hk, List.append_nil]
    exact hs

theorem replayResult_scored (h : type ≠ .swiss) (hd : replayResult A E type ranking d r = .ok d')
    (hs : Scored A ranking (d.getD k (initialStatistics type)) scores) :
    Scored A ranking (d'.getD k (initialStatistics type)) (scores ++ r.scoresOf k) := by
  obtain ⟨d1, h1, h2⟩ := bind_eq_ok.mp hd
  have hboth := setStatistics_scored h h2 (setStatistics_scored h h1 hs)
  rw [List.append_assoc] at hboth
  exact hboth

/-- **The points of an input are the rounded sum over its scores.** -/
theorem replay_scored (h : type ≠ .swiss) {seated : List StageItemInputId} {results : List Result}
    (hd : replay A E type ranking seated results = .ok d) (k : StageItemInputId) :
    Scored A ranking (d.getD k (initialStatistics type)) (results.flatMap (·.scoresOf k)) := by
  have run : ∀ (rs : List Result) (d0 : StatisticsDict) (scores : List (Int × Int)),
      Scored A ranking (d0.getD k (initialStatistics type)) scores →
      rs.foldlM (replayResult A E type ranking) d0 = .ok d →
      Scored A ranking (d.getD k (initialStatistics type))
        (scores ++ rs.flatMap (·.scoresOf k)) := by
    intro rs
    induction rs with
    | nil =>
      intro d0 scores hs hd
      cases hd
      rw [List.flatMap_nil, List.append_nil]
      exact hs
    | cons r rs ih =>
      intro d0 scores hs hd
      rw [List.foldlM_cons] at hd
      obtain ⟨d1, h1, hd⟩ := bind_eq_ok.mp hd
      have hrest := ih d1 _ (replayResult_scored h h1 hs) hd
      rwa [List.append_assoc] at hrest
  refine run results _ [] ?_ hd
  rw [seatedStatistics_getD]
  cases type with
  | roundRobin => exact ⟨rfl, rfl⟩
  | singleElimination => exact ⟨rfl, rfl⟩
  | swiss => exact absurd rfl h

/-- Outside of Swiss stage items the replay always returns. -/
theorem replay_total (h : type ≠ .swiss) (seated : List StageItemInputId)
    (results : List Result) : ∃ d, replay A E type ranking seated results = .ok d := by
  have run : ∀ (rs : List Result) (d : StatisticsDict),
      ∃ d', rs.foldlM (replayResult A E type ranking) d = .ok d' := by
    intro rs
    induction rs with
    | nil => exact fun d => ⟨d, rfl⟩
    | cons r rs ih =>
      intro d
      have hside : ∀ side d q,
          ∃ d', setStatisticsForStageItemInput A E type ranking side d r q = .ok d' :=
        fun side d q => ⟨_, setStatistics_eq_ok.mpr ⟨_, statisticsAfter_eq h side r q _, rfl⟩⟩
      obtain ⟨d1, h1⟩ := hside .one d _
      obtain ⟨d2, h2⟩ := hside .two d1 _
      obtain ⟨d3, h3⟩ := ih d2
      refine ⟨d3, ?_⟩
      rw [List.foldlM_cons, bind_eq_ok]
      exact ⟨d2, bind_eq_ok.mpr ⟨d1, h1, h2⟩, h3⟩
  exact run results _

theorem determineRanking_total {item : StageItemWithRounds} (h : item.type ≠ .swiss) :
    ∃ d, determineRankingForStageItem A E item ranking = .ok d := by
  rw [determineRanking_eq_replay]
  exact replay_total h _ _

end Replay

end Rounded

/-! ## 3. Points that fit -/

/-- No gain and no sum of points of these scores is changed by the rounding. -/
structure PointsFit (A : Rounding) (ranking : RankingRow) (scores : List (Int × Int)) : Prop where
  gains : ∀ p ∈ scores, roundedGain A ranking p.1 p.2 = gainOf ranking p.1 p.2
  sums : A.Fits (scores.map fun p => gainOf ranking p.1 p.2)

instance (A : Rounding) (ranking : RankingRow) (scores : List (Int × Int)) :
    Decidable (PointsFit A ranking scores) :=
  decidable_of_iff ((∀ p ∈ scores, roundedGain A ranking p.1 p.2 = gainOf ranking p.1 p.2) ∧
    A.Fits (scores.map fun p => gainOf ranking p.1 p.2)) ⟨fun h => ⟨h.1, h.2⟩, fun h => ⟨h.1, h.2⟩⟩

section Fit

variable {A : Rounding} {E : ExpectedScore} {type : StageType} {ranking : RankingRow}
  {scores scores' : List (Int × Int)} {d d' : StatisticsDict} {r : Result}

theorem PointsFit.left (h : PointsFit A ranking (scores ++ scores')) : PointsFit A ranking scores := by
  have hsums := h.sums
  rw [List.map_append] at hsums
  exact ⟨fun p hp => h.gains p (List.mem_append_left _ hp), hsums.left⟩

/-- Points that fit are exact. -/
theorem PointsFit.pointsAfter_eq (h : PointsFit A ranking scores) :
    Rounded.pointsAfter A ranking 0 scores = worth ranking scores := by
  unfold Rounded.pointsAfter
  rw [List.map_congr_left h.gains]
  exact Rounding.sum_of_fits h.sums

/-- A side that adds to exact points adds the exact gain. -/
theorem PointsFit.setStatistics_exact (h : type ≠ .swiss) {side : Side} {q : Rat × Rat}
    (hfit : PointsFit A ranking (scores ++ [(r.score side, r.score side.other)]))
    (hs : (d.getD (r.input side) (initialStatistics type)).points = worth ranking scores) :
    Rounded.setStatisticsForStageItemInput A E type ranking side d r q =
      setStatisticsForStageItemInput E type ranking side d r q := by
  have hgain := hfit.gains _ (List.mem_append_right _ List.mem_cons_self)
  have hsum : A.round (worth ranking scores + gainOf ranking (r.score side) (r.score side.other)) =
      worth ranking scores + gainOf ranking (r.score side) (r.score side.other) := by
    have hround := hfit.sums.round_sum
    rw [List.map_append, List.sum_append, List.map_singleton, List.sum_singleton] at hround
    exact hround
  rw [setStatistics_eq h]
  refine Rounded.setStatistics_eq_ok.mpr ⟨_, ?_, rfl⟩
  rw [Rounded.statisticsAfter_eq h, hgain, hs, hsum, ← hs]
  rfl

/-- **If the points of every input fit, the ranking is the one in exact arithmetic.** -/
theorem determineRanking_exact {item : StageItemWithRounds} (h : item.type ≠ .swiss)
    (hfit : ∀ k, PointsFit A ranking (item.results.flatMap (·.scoresOf k))) :
    Rounded.determineRankingForStageItem A E item ranking =
      determineRankingForStageItem E item ranking := by
  rw [Rounded.determineRanking_eq_replay, determineRanking_eq_replay]
  have run : ∀ (rs before : List Result) (d : StatisticsDict),
      item.results = before ++ rs →
      (∀ k, (d.getD k (initialStatistics item.type)).Sums ranking
        (before.flatMap (·.scoresOf k))) →
      rs.foldlM (Rounded.replayResult A E item.type ranking) d =
        rs.foldlM (replayResult E item.type ranking) d := by
    intro rs
    induction rs with
    | nil => exact fun _ _ _ _ => rfl
    | cons r rs ih =>
      intro before d hsplit hs
      -- the scores up to and with this match
      have hprefix : ∀ k, PointsFit A ranking (before.flatMap (·.scoresOf k) ++ r.scoresOf k) := by
        intro k
        have hall := hfit k
        rw [hsplit, List.flatMap_append, List.flatMap_cons, ← List.append_assoc] at hall
        exact hall.left
      have hturn : Rounded.replayResult A E item.type ranking d r =
          replayResult E item.type ranking d r := by
        have hone : ∀ q, Rounded.setStatisticsForStageItemInput A E item.type ranking .one d r q =
            setStatisticsForStageItemInput E item.type ranking .one d r q := by
          intro q
          refine PointsFit.setStatistics_exact h ?_ (hs r.input1).points_eq
          have hfirst := hprefix r.input1
          unfold Result.scoresOf at hfirst
          rw [if_pos rfl, ← List.append_assoc] at hfirst
          exact hfirst.left
        refine (congrArg (· >>= _) (hone _)).trans (bind_congr_ok fun d1 h1 => ?_)
        have hs1 := setStatistics_sums h h1 (hs r.input2)
        refine PointsFit.setStatistics_exact h ?_ hs1.points_eq
        have hsecond := hprefix r.input2
        unfold Result.scoresOf at hsecond
        rw [if_pos rfl, ← List.append_assoc] at hsecond
        exact hsecond
      rw [List.foldlM_cons, List.foldlM_cons, hturn]
      refine bind_congr_ok fun d1 h1 => ?_
      refine ih (before ++ [r]) d1 (by rw [hsplit, List.append_assoc, List.singleton_append])
        fun k => ?_
      rw [List.flatMap_append, List.flatMap_singleton]
      exact replayResult_sums h h1 (hs k)
  have hstart : replay E item.type ranking item.seated [] = .ok (seatedStatistics item.type item.seated) :=
    rfl
  exact run _ [] _ rfl (replay_sums h hstart)

/-- **28 digits are enough** for points with so many places after the point. -/
theorem pointsFit_decimals {places : Nat}
    (hnonneg : ∀ p ∈ scores, 0 ≤ gainOf ranking p.1 p.2)
    (hwhole : ∀ p ∈ scores, ∃ n : Int, gainOf ranking p.1 p.2 * 10 ^ places = n)
    (hsmall : worth ranking scores * 10 ^ places < 10 ^ 28) :
    PointsFit decimalContext ranking scores := by
  have hgains : ∀ q ∈ scores.map (fun p => gainOf ranking p.1 p.2), 0 ≤ q := by
    intro q hq
    obtain ⟨p, hp, rfl⟩ := List.mem_map.mp hq
    exact hnonneg p hp
  have hwholes : ∀ q ∈ scores.map (fun p => gainOf ranking p.1 p.2),
      ∃ n : Int, q * 10 ^ places = n := by
    intro q hq
    obtain ⟨p, hp, rfl⟩ := List.mem_map.mp hq
    exact hwhole p hp
  refine ⟨fun p hp => ?_, fits_decimals (by decide) hgains hwholes hsmall⟩
  unfold roundedGain
  split
  · -- a gain is no more than the whole sum
    refine decimal_of_hasDigits (hasDigits_of_multiple (hwhole p hp) (lt_of_le_of_lt ?_ hsmall))
    rw [abs_of_nonneg (hnonneg p hp)]
    exact mul_le_mul_of_nonneg_right
      (List.single_le_sum hgains _ (List.mem_map_of_mem hp)) (by positivity)
  · rfl

end Fit

end Brackets
