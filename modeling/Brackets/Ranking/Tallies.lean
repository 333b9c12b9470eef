/-
  File:      Brackets/Ranking/Tallies.lean
  Subject:   Wins, draws and losses are counts.

  A match that counts has two sides, and each side a verdict (`Match.sides`). The replay adds to
  an input, for each verdict, the sides it has in the results with that verdict:
  `determineRanking_count`. What is counted does not depend on the order of the replay.
-/
import Mathlib.Data.List.Perm.Basic
import Brackets.Ranking.Calculation

namespace Brackets

open Library

/-! ## 1. Verdicts -/

inductive Verdict where
  | win
  | draw
  | loss
  deriving DecidableEq, Repr

/-- The verdict of a score against the opponent's. -/
def verdictOf (score opponentScore : Int) : Verdict :=
  if score > opponentScore then .win else if score = opponentScore then .draw else .loss

theorem verdictOf_cases (a b : Int) : (verdictOf a b = .win ∧ b < a) ∨
    (verdictOf a b = .draw ∧ a = b) ∨ (verdictOf a b = .loss ∧ a < b) := by
  unfold verdictOf
  rcases lt_trichotomy a b with h | h | h
  · exact Or.inr (Or.inr ⟨by rw [if_neg (by omega), if_neg (by omega)], h⟩)
  · exact Or.inr (Or.inl ⟨by rw [if_neg (by omega), if_pos h], h⟩)
  · exact Or.inl ⟨if_pos h, h⟩

theorem verdictOf_eq_win {a b : Int} : verdictOf a b = .win ↔ b < a := by
  rcases verdictOf_cases a b with ⟨h, h'⟩ | ⟨h, h'⟩ | ⟨h, h'⟩ <;> rw [h] <;> simp <;> omega

theorem verdictOf_eq_draw {a b : Int} : verdictOf a b = .draw ↔ a = b := by
  rcases verdictOf_cases a b with ⟨h, h'⟩ | ⟨h, h'⟩ | ⟨h, h'⟩ <;> rw [h] <;> simp <;> omega

theorem verdictOf_eq_loss {a b : Int} : verdictOf a b = .loss ↔ a < b := by
  rcases verdictOf_cases a b with ⟨h, h'⟩ | ⟨h, h'⟩ | ⟨h, h'⟩ <;> rw [h] <;> simp <;> omega

def TeamStatistics.count (s : TeamStatistics) : Verdict → Int
  | .win => s.wins
  | .draw => s.draws
  | .loss => s.losses

def Result.verdict (r : Result) (side : Side) : Verdict :=
  verdictOf (r.score side) (r.score side.other)

/-- The inputs of a result with their verdicts. -/
def Result.sides (r : Result) : List (StageItemInputId × Verdict) :=
  [(r.input1, r.verdict .one), (r.input2, r.verdict .two)]

/-- The inputs of a match that counts, with their verdicts. -/
def Match.sides (m : Match) : List (StageItemInput × Verdict) :=
  match m.stageItemInput1, m.stageItemInput2 with
  | some i1, some i2 =>
    if m.stageItemInput1Score != 0 || m.stageItemInput2Score != 0 then
      [(i1, verdictOf m.stageItemInput1Score m.stageItemInput2Score),
        (i2, verdictOf m.stageItemInput2Score m.stageItemInput1Score)]
    else []
  | _, _ => []

/-- The sides of a match are those of its result. -/
theorem Match.sides_ids (m : Match) :
    m.sides.map (fun a => (a.1.id, a.2)) = (m.result?.map Result.sides).getD [] := by
  unfold Match.sides Match.result?
  cases m.stageItemInput1 with
  | none => rfl
  | some i1 =>
    cases m.stageItemInput2 with
    | none => rfl
    | some i2 =>
      dsimp only
      split <;> rfl

theorem results_sides (ms : List Match) : (ms.filterMap (·.result?)).flatMap (·.sides) =
    (ms.flatMap (·.sides)).map fun a => (a.1.id, a.2) := by
  induction ms with
  | nil => rfl
  | cons m ms ih =>
    rw [List.flatMap_cons, List.map_append, ← ih, m.sides_ids]
    cases h : m.result? with
    | none => rw [List.filterMap_cons_none h, Option.map_none, Option.getD_none, List.nil_append]
    | some r => rw [List.filterMap_cons_some h, List.flatMap_cons, Option.map_some, Option.getD_some]

/-- The replay goes through the matches of the published rounds. -/
theorem publishedMatches_perm (item : StageItemWithRounds) : item.publishedMatches.Perm
    ((item.rounds.filter fun r => !r.isDraft).flatMap (·.matches_)) := by
  have hrounds := (List.perm_insertionSort (fun a b : RoundWithMatches => a.id ≤ b.id)
    item.rounds).filter fun r => !r.isDraft
  refine (hrounds.flatMap_right _).trans (List.Perm.flatMap_left _ fun r _ => ?_)
  exact List.perm_insertionSort _ _

/-! ## 2. One side of a match -/

/-- The points of a side before its rating counts: `swiss_score_diff`. -/
def Result.gain (ranking : RankingRow) (side : Side) (r : Result) : Rat :=
  let points := match r.verdict side with
    | .win => ranking.winPoints
    | .draw => ranking.drawPoints
    | .loss => ranking.lossPoints
  if ranking.addScorePoints then points + r.score side else points

/-- What a side adds to the points. -/
def pointsChange (E : ExpectedScore) (type : StageType) (side : Side) (ratingsBefore : Rat × Rat)
    (gain : Rat) : Outcome Rat :=
  match type with
  | .roundRobin | .singleElimination => .ok gain
  | .swiss => do
    let ratingDiff := (ratingsBefore.2 - ratingsBefore.1) * (if side = .one then 1 else -1)
    let expectedScore ← orRaise (E (ratingDiff / D)) (.crash .overflowError)
    .ok (truncate (K * (gain - expectedScore)))

/-- The statistics with one more match. -/
def TeamStatistics.add (s : TeamStatistics) (v : Verdict) (score opponentScore : Int)
    (points : Rat) : TeamStatistics where
  wins := s.wins + if v = .win then 1 else 0
  draws := s.draws + if v = .draw then 1 else 0
  losses := s.losses + if v = .loss then 1 else 0
  points := s.points + points
  scoreFor := s.scoreFor + score
  scoreAgainst := s.scoreAgainst + opponentScore

theorem TeamStatistics.count_add (s : TeamStatistics) (v w : Verdict) (score opponentScore : Int)
    (points : Rat) : (s.add v score opponentScore points).count w =
      s.count w + if v = w then 1 else 0 := by
  cases w <;> rfl

theorem hasWon_eq (r : Result) (side : Side) :
    (!(r.score1 == r.score2) && r.score side == max r.score1 r.score2) =
      decide (r.verdict side = .win) := by
  rw [Bool.eq_iff_iff, Bool.and_eq_true, Bool.not_eq_true', beq_eq_false_iff_ne, beq_iff_eq,
    decide_eq_true_eq, Result.verdict, verdictOf_eq_win]
  cases side <;> simp only [Result.score, Side.other] <;> omega

theorem wasDraw_eq (r : Result) (side : Side) :
    (r.score1 == r.score2) = decide (r.verdict side = .draw) := by
  rw [Bool.eq_iff_iff, beq_iff_eq, decide_eq_true_eq, Result.verdict, verdictOf_eq_draw]
  cases side
  · rfl
  · exact eq_comm

/-- **What a side does to the statistics.** -/
theorem statisticsAfter_eq (E : ExpectedScore) (type : StageType) (ranking : RankingRow)
    (side : Side) (r : Result) (q : Rat × Rat) (s : TeamStatistics) :
    statisticsAfter E type ranking side r q s =
      (pointsChange E type side q (r.gain ranking side)).map
        (s.add (r.verdict side) (r.score side) (r.score side.other)) := by
  unfold statisticsAfter Rounded.statisticsAfter
  dsimp only [Rounding.exact, id]
  rw [hasWon_eq r side, wasDraw_eq r side]
  unfold Result.gain pointsChange TeamStatistics.add
  cases type with
  | roundRobin => cases r.verdict side <;> simp [Except.map]
  | singleElimination => cases r.verdict side <;> simp [Except.map]
  | swiss =>
    dsimp only
    generalize E ((q.2 - q.1) * (if side = Side.one then 1 else -1) / D) = e
    cases e with
    | none => cases r.verdict side <;> rfl
    | some e => cases r.verdict side <;> simp [Except.map]

/-! ## 3. The replay counts sides -/

section Counts

variable {E : ExpectedScore} {type : StageType} {ranking : RankingRow}

/-- A side adds its match to the statistics of its input. -/
theorem setStatistics_ok {side : Side} {r : Result} {q : Rat × Rat} {d d' : StatisticsDict}
    (h : setStatisticsForStageItemInput E type ranking side d r q = .ok d') :
    ∃ p, pointsChange E type side q (r.gain ranking side) = .ok p ∧
      d' = d.set (r.input side) ((d.getD (r.input side) (initialStatistics type)).add
        (r.verdict side) (r.score side) (r.score side.other) p) := by
  obtain ⟨s, hs, rfl⟩ := setStatistics_eq_ok.mp h
  rw [statisticsAfter_eq] at hs
  cases hp : pointsChange E type side q (r.gain ranking side) with
  | error e =>
    rw [hp] at hs
    cases hs
  | ok p =>
    rw [hp] at hs
    exact ⟨p, rfl, congrArg _ (Except.ok.inj hs).symm⟩

theorem setStatistics_count {side : Side} {r : Result} {q : Rat × Rat} {d d' : StatisticsDict}
    (h : setStatisticsForStageItemInput E type ranking side d r q = .ok d') (k : StageItemInputId)
    (v : Verdict) : (d'.getD k (initialStatistics type)).count v =
      (d.getD k (initialStatistics type)).count v +
        if r.input side = k ∧ r.verdict side = v then 1 else 0 := by
  obtain ⟨p, -, rfl⟩ := setStatistics_ok h
  rw [Dict.getD_set]
  by_cases hk : r.input side = k
  · rw [if_pos hk.symm, TeamStatistics.count_add, hk]
    simp only [true_and]
  · rw [if_neg fun e => hk e.symm, if_neg fun e => hk e.1, Int.add_zero]

theorem replayResult_count {r : Result} {d d' : StatisticsDict}
    (h : replayResult E type ranking d r = .ok d') (k : StageItemInputId) (v : Verdict) :
    (d'.getD k (initialStatistics type)).count v =
      (d.getD k (initialStatistics type)).count v + (r.sides.count (k, v) : Int) := by
  obtain ⟨d1, h1, h2⟩ := replayResult_eq_ok.mp h
  rw [setStatistics_count h2, setStatistics_count h1, Int.add_assoc]
  congr 1
  unfold Result.sides
  simp only [List.count_cons, List.count_nil, beq_iff_eq, Prod.mk.injEq, Result.input]
  by_cases hone : r.input1 = k ∧ r.verdict .one = v
  · by_cases htwo : r.input2 = k ∧ r.verdict .two = v
    · simp [hone, htwo]
    · simp [hone, htwo]
  · by_cases htwo : r.input2 = k ∧ r.verdict .two = v
    · simp [hone, htwo]
    · simp [hone, htwo]

/-- **Wins, draws and losses count the sides of the results.** -/
theorem replay_count {seated : List StageItemInputId} {results : List Result} {d : StatisticsDict}
    (h : replay E type ranking seated results = .ok d) (k : StageItemInputId) (v : Verdict) :
    (d.getD k (initialStatistics type)).count v =
      ((results.flatMap (·.sides)).count (k, v) : Int) := by
  have run : ∀ (rs : List Result) (d0 : StatisticsDict),
      rs.foldlM (replayResult E type ranking) d0 = .ok d →
      (d.getD k (initialStatistics type)).count v =
        (d0.getD k (initialStatistics type)).count v +
          ((rs.flatMap (·.sides)).count (k, v) : Int) := by
    intro rs
    induction rs with
    | nil =>
      intro d0 h
      cases h
      exact (Int.add_zero _).symm
    | cons r rs ih =>
      intro d0 h
      rw [List.foldlM_cons] at h
      obtain ⟨d1, h1, h⟩ := bind_eq_ok.mp h
      rw [ih d1 h, replayResult_count h1, List.flatMap_cons, List.count_append, Int.natCast_add,
        Int.add_assoc]
  rw [run results _ h, seatedStatistics_getD]
  cases v <;> exact Int.zero_add _

/-- **Wins, draws and losses count the sides of the published matches.** -/
theorem determineRanking_count {item : StageItemWithRounds} {d : StatisticsDict}
    (h : determineRankingForStageItem E item ranking = .ok d) (k : StageItemInputId) (v : Verdict) :
    (d.getD k (initialStatistics item.type)).count v =
      ((item.publishedMatches.flatMap (·.sides)).countP (fun a => a.1.id = k ∧ a.2 = v) : Int) := by
  rw [determineRanking_eq_replay] at h
  rw [replay_count h, StageItemWithRounds.results, results_sides, List.count_eq_countP,
    List.countP_map]
  congr 1
  refine List.countP_congr fun a _ => ?_
  simp only [Function.comp, beq_iff_eq, Prod.mk.injEq, decide_eq_true_eq]

/-- The replay returns if every side of a match can be rated. -/
theorem replay_ok_of_changes (h : ∀ side q gain, ∃ p, pointsChange E type side q gain = .ok p)
    (seated : List StageItemInputId) (results : List Result) :
    ∃ d, replay E type ranking seated results = .ok d := by
  have hside : ∀ side d r q,
      ∃ d', setStatisticsForStageItemInput E type ranking side d r q = .ok d' := by
    intro side d r q
    obtain ⟨p, hp⟩ := h side q (r.gain ranking side)
    have hstatistics := statisticsAfter_eq E type ranking side r q
      (d.getD (r.input side) (initialStatistics type))
    rw [hp] at hstatistics
    exact ⟨_, setStatistics_eq_ok.mpr ⟨_, hstatistics, rfl⟩⟩
  have run : ∀ (rs : List Result) (d : StatisticsDict),
      ∃ d', rs.foldlM (replayResult E type ranking) d = .ok d' := by
    intro rs
    induction rs with
    | nil => exact fun d => ⟨d, rfl⟩
    | cons r rs ih =>
      intro d
      obtain ⟨d1, h1⟩ := hside .one d r ((d.getD r.input1 (initialStatistics type)).points,
        (d.getD r.input2 (initialStatistics type)).points)
      obtain ⟨d2, h2⟩ := hside .two d1 r ((d.getD r.input1 (initialStatistics type)).points,
        (d.getD r.input2 (initialStatistics type)).points)
      obtain ⟨d3, h3⟩ := ih d2
      refine ⟨d3, ?_⟩
      rw [List.foldlM_cons, bind_eq_ok]
      exact ⟨d2, replayResult_eq_ok.mpr ⟨d1, h1, h2⟩, h3⟩
  exact run results _

/-- Outside of Swiss stage items no rating is computed, so the replay always returns. -/
theorem replay_total (h : type ≠ .swiss) (seated : List StageItemInputId) (results : List Result) :
    ∃ d, replay E type ranking seated results = .ok d := by
  refine replay_ok_of_changes (fun side q gain => ?_) seated results
  cases type with
  | roundRobin => exact ⟨_, rfl⟩
  | singleElimination => exact ⟨_, rfl⟩
  | swiss => exact absurd rfl h

theorem determineRanking_total {item : StageItemWithRounds} (h : item.type ≠ .swiss) :
    ∃ d, determineRankingForStageItem E item ranking = .ok d := by
  rw [determineRanking_eq_replay]
  exact replay_total h _ _

end Counts

end Brackets
