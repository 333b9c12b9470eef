/-
  File:      Brackets/Ranking/Totals.lean
  Subject:   The statistics in closed form.

  Outside of Swiss stage items a side of a match gives its input what the two scores say. So the
  statistics of an input are sums over the sides it takes in the matches that count, in whatever
  order they are replayed: `replay_sums`. Over all inputs the sides of a match cancel:
  `replay_balanced`.
-/
import Mathlib.Tactic.Ring
import Mathlib.Algebra.Order.Field.Rat
import Brackets.Library.Tally
import Brackets.Ranking.Tallies

namespace Brackets

open Library

/-! ## 1. Scores -/

/-- The scores of an input in a match, its own first: none, or one pair for each side it takes. -/
def Match.scoresOf (k : StageItemInputId) (m : Match) : List (Int × Int) :=
  (if m.stageItemInput1.any (·.id == k) then
    [(m.stageItemInput1Score, m.stageItemInput2Score)] else []) ++
  (if m.stageItemInput2.any (·.id == k) then
    [(m.stageItemInput2Score, m.stageItemInput1Score)] else [])

/-- The matches of published rounds that count, as they are listed. -/
def StageItemWithRounds.played (item : StageItemWithRounds) : List Match :=
  (item.rounds.filter fun r => !r.isDraft).flatMap fun r => r.matches_.filter (·.counts)

/-- The scores of an input in the matches that count. -/
def StageItemWithRounds.scoresOf (item : StageItemWithRounds) (k : StageItemInputId) :
    List (Int × Int) := item.played.flatMap (·.scoresOf k)

def Result.scoresOf (k : StageItemInputId) (r : Result) : List (Int × Int) :=
  (if r.input1 = k then [(r.score1, r.score2)] else []) ++
  (if r.input2 = k then [(r.score2, r.score1)] else [])

theorem Match.scoresOf_result {m : Match} {r : Result} (h : m.result? = some r)
    (k : StageItemInputId) : r.scoresOf k = m.scoresOf k := by
  unfold Match.result? at h
  split at h
  · next i1 i2 h1 h2 =>
    split at h
    · cases h
      simp only [Result.scoresOf, Match.scoresOf, h1, h2, Option.any_some, beq_iff_eq]
    · cases h
  · cases h

theorem filterMap_result (ms : List Match) (k : StageItemInputId) :
    (ms.filterMap (·.result?)).flatMap (·.scoresOf k) =
      (ms.filter (·.counts)).flatMap (·.scoresOf k) := by
  induction ms with
  | nil => rfl
  | cons m ms ih =>
    rw [List.filter_cons, m.counts_eq]
    cases h : m.result? with
    | none =>
      rw [List.filterMap_cons_none h, ih]
      rfl
    | some r =>
      rw [List.filterMap_cons_some h, List.flatMap_cons, ih, Match.scoresOf_result h]
      rfl

/-- The replay goes through the matches that count. -/
theorem countedMatches_perm (item : StageItemWithRounds) :
    item.countedMatches.Perm item.played := by
  have hcounted := (publishedMatches_perm item).filter (·.counts)
  rwa [List.filter_flatMap] at hcounted

theorem results_scoresOf (item : StageItemWithRounds) (k : StageItemInputId) :
    (item.results.flatMap (·.scoresOf k)).Perm (item.scoresOf k) := by
  rw [StageItemWithRounds.results, filterMap_result]
  exact (countedMatches_perm item).flatMap_right _

/-! ## 2. Sums -/

/-- The statistics are those of the scores. -/
structure TeamStatistics.Sums (ranking : RankingRow) (s : TeamStatistics)
    (scores : List (Int × Int)) : Prop where
  wins : s.wins = scores.countP fun p => p.2 < p.1
  draws : s.draws = scores.countP fun p => p.1 = p.2
  losses : s.losses = scores.countP fun p => p.1 < p.2
  scoreFor : s.scoreFor = (scores.map Prod.fst).sum
  scoreAgainst : s.scoreAgainst = (scores.map Prod.snd).sum
  points : s.points = ranking.winPoints * s.wins + ranking.drawPoints * s.draws +
    ranking.lossPoints * s.losses + if ranking.addScorePoints then (s.scoreFor : Rat) else 0

/-- The order of the scores plays no part. -/
theorem TeamStatistics.Sums.perm {ranking : RankingRow} {s : TeamStatistics}
    {scores scores' : List (Int × Int)} (h : s.Sums ranking scores) (hp : scores.Perm scores') :
    s.Sums ranking scores' where
  wins := by rw [← hp.countP_eq, h.wins]
  draws := by rw [← hp.countP_eq, h.draws]
  losses := by rw [← hp.countP_eq, h.losses]
  scoreFor := by rw [h.scoreFor, (hp.map _).sum_eq]
  scoreAgainst := by rw [h.scoreAgainst, (hp.map _).sum_eq]
  points := h.points

/-- What a pair of scores is worth. -/
def gainOf (ranking : RankingRow) (score opponentScore : Int) : Rat :=
  let points := match verdictOf score opponentScore with
    | .win => ranking.winPoints
    | .draw => ranking.drawPoints
    | .loss => ranking.lossPoints
  if ranking.addScorePoints then points + score else points

/-- One more pair of scores. -/
theorem TeamStatistics.Sums.add {ranking : RankingRow} {s : TeamStatistics}
    {scores : List (Int × Int)} (h : s.Sums ranking scores) (a b : Int) :
    (s.add (verdictOf a b) a b (gainOf ranking a b)).Sums ranking (scores ++ [(a, b)]) := by
  obtain ⟨hw, hd, hl, hf, ha, hp⟩ := h
  unfold TeamStatistics.add gainOf
  refine ⟨?_, ?_, ?_, ?_, ?_, ?_⟩
  · simp [hw, List.countP_append, verdictOf_eq_win]
  · simp [hd, List.countP_append, verdictOf_eq_draw]
  · simp [hl, List.countP_append, verdictOf_eq_loss]
  · simp [hf]
  · simp [ha]
  · dsimp only
    rw [hp]
    rcases verdictOf_cases a b with ⟨hv, -⟩ | ⟨hv, -⟩ | ⟨hv, -⟩
    · rw [hv]
      split <;> simp <;> ring
    · rw [hv]
      split <;> simp <;> ring
    · rw [hv]
      split <;> simp <;> ring

/-! ## 3. The replay -/

section Replay

variable {E : ExpectedScore} {type : StageType} {ranking : RankingRow}

/-- What one side does outside of Swiss stage items. -/
theorem setStatistics_eq (h : type ≠ .swiss) (side : Side) (d : StatisticsDict) (r : Result)
    (q : Rat × Rat) : setStatisticsForStageItemInput E type ranking side d r q =
      .ok (d.set (r.input side) ((d.getD (r.input side) (initialStatistics type)).add
        (r.verdict side) (r.score side) (r.score side.other) (r.gain ranking side))) := by
  refine setStatistics_eq_ok.mpr ⟨_, ?_, rfl⟩
  rw [statisticsAfter_eq]
  cases type with
  | roundRobin => rfl
  | singleElimination => rfl
  | swiss => exact absurd rfl h

/-- The statistics of an input after one side, if they were those of its scores. -/
theorem setStatistics_sums (h : type ≠ .swiss) {side : Side} {d d' : StatisticsDict} {r : Result}
    {q : Rat × Rat} (hd : setStatisticsForStageItemInput E type ranking side d r q = .ok d')
    {k : StageItemInputId} {scores : List (Int × Int)}
    (hs : (d.getD k (initialStatistics type)).Sums ranking scores) :
    (d'.getD k (initialStatistics type)).Sums ranking
      (scores ++ if r.input side = k then [(r.score side, r.score side.other)] else []) := by
  rw [setStatistics_eq h] at hd
  cases hd
  rw [Dict.getD_set]
  by_cases hk : r.input side = k
  · rw [if_pos hk.symm, if_pos hk, hk]
    exact hs.add _ _
  · rw [if_neg fun e => hk e.symm, if_neg hk, List.append_nil]
    exact hs

theorem replayResult_sums (h : type ≠ .swiss) {d d' : StatisticsDict} {r : Result}
    (hd : replayResult E type ranking d r = .ok d') {k : StageItemInputId}
    {scores : List (Int × Int)} (hs : (d.getD k (initialStatistics type)).Sums ranking scores) :
    (d'.getD k (initialStatistics type)).Sums ranking (scores ++ r.scoresOf k) := by
  obtain ⟨d1, h1, h2⟩ := replayResult_eq_ok.mp hd
  have hboth := setStatistics_sums h h2 (setStatistics_sums h h1 hs)
  rw [List.append_assoc] at hboth
  exact hboth

/-- **The statistics of an input are the sums of its scores.** -/
theorem replay_sums (h : type ≠ .swiss) {seated : List StageItemInputId} {results : List Result}
    {d : StatisticsDict} (hd : replay E type ranking seated results = .ok d)
    (k : StageItemInputId) : (d.getD k (initialStatistics type)).Sums ranking
      (results.flatMap (·.scoresOf k)) := by
  have run : ∀ (rs : List Result) (d0 : StatisticsDict) (scores : List (Int × Int)),
      (d0.getD k (initialStatistics type)).Sums ranking scores →
      rs.foldlM (replayResult E type ranking) d0 = .ok d →
      (d.getD k (initialStatistics type)).Sums ranking (scores ++ rs.flatMap (·.scoresOf k)) := by
    intro rs
    induction rs with
    | nil =>
      intro d0 scores hs hd
      cases hd
      rw [List.flatMap_nil, List.append_nil]
      exact hs
    | cons r rs ih =>
      intro d0 scores hs hd
      rw [List.foldlM_cons] at hd
      obtain ⟨d1, h1, hd⟩ := bind_eq_ok.mp hd
      have hrest := ih d1 _ (replayResult_sums h h1 hs) hd
      rwa [List.append_assoc] at hrest
  refine run results _ [] ?_ hd
  rw [seatedStatistics_getD]
  have hpoints : initialPoints type = 0 := by
    cases type with
    | roundRobin => rfl
    | singleElimination => rfl
    | swiss => exact absurd rfl h
  refine ⟨rfl, rfl, rfl, rfl, rfl, ?_⟩
  simp [initialStatistics, hpoints]

/-! ## 4. Totals -/

/-- A sum over all inputs with statistics. -/
def total (f : TeamStatistics → Int) (d : StatisticsDict) : Int :=
  (d.entries.map fun e => f e.2).sum

theorem total_seated {f : TeamStatistics → Int} (hf : f (initialStatistics type) = 0)
    (seated : List StageItemInputId) : total f (seatedStatistics type seated) = 0 := by
  have run : ∀ (l : List StageItemInputId) (d : StatisticsDict),
      (∀ k, f (d.getD k (initialStatistics type)) = 0) → total f d = 0 →
      total f (l.foldl (fun d k => d.set k (initialStatistics type)) d) = 0 := by
    intro l
    induction l with
    | nil => exact fun _ _ h => h
    | cons k l ih =>
      intro d hzero h
      refine ih _ (fun j => ?_) ?_
      · rw [Dict.getD_set]
        split
        · exact hf
        · exact hzero j
      · rw [total, Dict.sum_set d k _ hf, hzero k, hf]
        exact (Int.add_zero _).trans ((Int.sub_zero _).trans h)
  exact run seated .empty (fun _ => hf) rfl

/-- What both sides of a result add to a total. -/
def Result.added (change : Verdict → Int → Int → Int) (r : Result) : Int :=
  change (verdictOf r.score1 r.score2) r.score1 r.score2 +
    change (verdictOf r.score2 r.score1) r.score2 r.score1

section Change

variable {f : TeamStatistics → Int} {g : Verdict → Int → Int → Int}
  (hadd : ∀ s v a b p, f (TeamStatistics.add s v a b p) = f s + g v a b)
  (hf : f (initialStatistics type) = 0)

include hadd hf

theorem setStatistics_total (h : type ≠ .swiss) {side : Side} {d d' : StatisticsDict} {r : Result}
    {q : Rat × Rat} (hd : setStatisticsForStageItemInput E type ranking side d r q = .ok d') :
    total f d' = total f d + g (r.verdict side) (r.score side) (r.score side.other) := by
  rw [setStatistics_eq h] at hd
  cases hd
  rw [total, Dict.sum_set d _ _ hf, hadd, total]
  omega

theorem replay_total_eq (h : type ≠ .swiss) {seated : List StageItemInputId}
    {results : List Result} {d : StatisticsDict}
    (hd : replay E type ranking seated results = .ok d) :
    total f d = (results.map (·.added g)).sum := by
  have run : ∀ (rs : List Result) (d0 : StatisticsDict),
      rs.foldlM (replayResult E type ranking) d0 = .ok d →
      total f d = total f d0 + (rs.map (·.added g)).sum := by
    intro rs
    induction rs with
    | nil =>
      intro d0 hd
      cases hd
      exact (Int.add_zero _).symm
    | cons r rs ih =>
      intro d0 hd
      rw [List.foldlM_cons] at hd
      obtain ⟨d1, h1, hd⟩ := bind_eq_ok.mp hd
      obtain ⟨dm, hm1, hm2⟩ := replayResult_eq_ok.mp h1
      have hone := setStatistics_total hadd hf h hm1
      have htwo := setStatistics_total hadd hf h hm2
      have hadded : r.added g =
          g (r.verdict .one) (r.score .one) (r.score Side.one.other) +
            g (r.verdict .two) (r.score .two) (r.score Side.two.other) := rfl
      rw [ih d1 hd, htwo, hone, List.map_cons, List.sum_cons, hadded]
      omega
  rw [run results _ hd, total_seated hf, Int.zero_add]

end Change

/-- The totals of the statistics balance over the matches that count. -/
structure Balanced (d : StatisticsDict) (matches_ : List Match) : Prop where
  wins : total (·.wins) d = total (·.losses) d
  draws : total (·.draws) d =
    2 * (matches_.countP fun m => m.stageItemInput1Score = m.stageItemInput2Score : Int)
  scores : total (·.scoreFor) d = total (·.scoreAgainst) d

theorem sum_draws (rs : List Result) :
    (rs.map (·.added fun v _ _ => if v = .draw then 1 else 0)).sum =
      2 * (rs.countP fun r => r.score1 = r.score2 : Int) := by
  induction rs with
  | nil => rfl
  | cons r rs ih =>
    rw [List.map_cons, List.sum_cons, ih, List.countP_cons, Result.added]
    rcases verdictOf_cases r.score1 r.score2 with ⟨hv, h⟩ | ⟨hv, h⟩ | ⟨hv, h⟩
    · rw [hv, verdictOf_eq_loss.mpr h]
      simp [ne_of_gt h]
    · rw [hv, verdictOf_eq_draw.mpr h.symm]
      simp [h]
      omega
    · rw [hv, verdictOf_eq_win.mpr h]
      simp [ne_of_lt h]

theorem countP_result (ms : List Match) :
    (ms.filterMap (·.result?)).countP (fun r => r.score1 = r.score2) =
      (ms.filter (·.counts)).countP fun m => m.stageItemInput1Score = m.stageItemInput2Score := by
  induction ms with
  | nil => rfl
  | cons m ms ih =>
    rw [List.filter_cons, m.counts_eq]
    cases h : m.result? with
    | none =>
      rw [List.filterMap_cons_none h, ih]
      rfl
    | some r =>
      have hr : r.score1 = m.stageItemInput1Score ∧ r.score2 = m.stageItemInput2Score := by
        unfold Match.result? at h
        split at h
        · split at h
          · cases h
            exact ⟨rfl, rfl⟩
          · cases h
        · cases h
      rw [List.filterMap_cons_some h, List.countP_cons, ih, Option.isSome_some, if_pos rfl,
        List.countP_cons, hr.1, hr.2]

/-- **Over all inputs the sides of the matches cancel.** -/
theorem determineRanking_balanced {item : StageItemWithRounds} (h : item.type ≠ .swiss)
    {d : StatisticsDict} (hd : determineRankingForStageItem E item ranking = .ok d) :
    Balanced d item.played := by
  rw [determineRanking_eq_replay] at hd
  refine ⟨?_, ?_, ?_⟩
  · rw [replay_total_eq (f := (·.wins)) (g := fun v _ _ => if v = .win then 1 else 0)
        (fun _ _ _ _ _ => rfl) rfl h hd,
      replay_total_eq (f := (·.losses)) (g := fun v _ _ => if v = .loss then 1 else 0)
        (fun _ _ _ _ _ => rfl) rfl h hd]
    congr 1
    refine List.map_congr_left fun r _ => ?_
    unfold Result.added
    rcases verdictOf_cases r.score1 r.score2 with ⟨hv, hlt⟩ | ⟨hv, heq⟩ | ⟨hv, hlt⟩
    · rw [hv, verdictOf_eq_loss.mpr hlt]
      rfl
    · rw [hv, verdictOf_eq_draw.mpr heq.symm]
      rfl
    · rw [hv, verdictOf_eq_win.mpr hlt]
      rfl
  · rw [replay_total_eq (f := (·.draws)) (g := fun v _ _ => if v = .draw then 1 else 0)
        (fun _ _ _ _ _ => rfl) rfl h hd, sum_draws, StageItemWithRounds.results, countP_result]
    congr 2
    exact (countedMatches_perm item).countP_eq _
  · rw [replay_total_eq (f := (·.scoreFor)) (g := fun _ a _ => a)
        (fun _ _ _ _ _ => rfl) rfl h hd,
      replay_total_eq (f := (·.scoreAgainst)) (g := fun _ _ b => b)
        (fun _ _ _ _ _ => rfl) rfl h hd]
    congr 1
    refine List.map_congr_left fun r _ => ?_
    exact Int.add_comm _ _

end Replay

/-! ## 5. The ranking -/

/-- **The statistics in closed form**: outside of Swiss stage items the replay returns, the
    statistics of every input are the sums over the sides it takes in the matches that count, and
    over all inputs they balance. -/
theorem determineRanking_sums {item : StageItemWithRounds} (h : item.type ≠ .swiss)
    (E : ExpectedScore) (ranking : RankingRow) :
    ∃ d, determineRankingForStageItem E item ranking = .ok d ∧
      (∀ k, (d.getD k (initialStatistics item.type)).Sums ranking (item.scoresOf k)) ∧
      Balanced d item.played := by
  obtain ⟨d, hd⟩ : ∃ d, determineRankingForStageItem E item ranking = .ok d :=
    determineRanking_total h
  refine ⟨d, hd, fun k => ?_, determineRanking_balanced h hd⟩
  rw [determineRanking_eq_replay] at hd
  exact (replay_sums h hd k).perm (results_scoresOf item k)

/-- A group of two with one match, won 3-1. -/
def duel : StageItemWithRounds where
  id := 1
  name := "Group"
  stageId := 1
  teamCount := 2
  rankingId := 1
  type := .roundRobin
  rounds := [{
    id := 1, name := "Round 01", isDraft := false, stageItemId := 1
    matches_ := [{
      id := 1, startTime := none, durationMinutes := 10, marginMinutes := 5
      customDurationMinutes := none, customMarginMinutes := none, roundId := 1
      stageItemInput1Id := some 1, stageItemInput2Id := some 2
      stageItemInput1Conflict := false, stageItemInput2Conflict := false
      stageItemInput1WinnerFromMatchId := none, stageItemInput2WinnerFromMatchId := none
      stageItemInput1Score := 3, stageItemInput2Score := 1
      stageItemInput1 := some (seat 1), stageItemInput2 := some (seat 2) }] }]
  inputs := [seat 1, seat 2]
where
  seat (k : Int) : StageItemInput :=
    { id := k, slot := k, tournamentId := 1, stageItemId := 1, teamId := some k
      winnerFromStageItemId := none, winnerPosition := none, points := 0, wins := 0, draws := 0
      losses := 0, team := none }

theorem duel_sums : ∃ d,
    determineRankingForStageItem (fun _ => none) duel ⟨1, 1, 0, 1, 1 / 2, 0, true⟩ = .ok d ∧
      (∀ k, (d.getD k (initialStatistics duel.type)).Sums ⟨1, 1, 0, 1, 1 / 2, 0, true⟩
        (duel.scoresOf k)) ∧ Balanced d duel.played :=
  determineRanking_sums (by decide) _ _

end Brackets
