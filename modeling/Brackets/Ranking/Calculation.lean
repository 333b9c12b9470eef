/-
  File:      Brackets/Ranking/Calculation.lean
  Subject:   `logic/ranking/calculation.py`: the replay of the played matches of a stage item.

  `determineRankingForStageItem` replays the counted matches of a loaded stage item in order and
  totals every input's statistics in a dictionary. The expected score of a Swiss match comes from
  `math.pow`, so it is a parameter `E` of the exponent: `none` stands for its OverflowError.

  The points are `Decimal`s, and every result of their arithmetic is rounded to the 28 digits of
  `decimalContext`. So the replay (`Rounded.determineRankingForStageItem`) takes the rounding;
  without a namespace it is the replay in exact arithmetic, to which it is equal as long as no
  result needs more digits (`determineRanking_exact`).

  What the replay reads of a match is its `Result`: who played and the two scores.
  `determineRanking_eq_replay` says that the ranking is the replay of the results
  (`StageItemWithRounds.results`) over the inputs with a team, so two stage items with the same
  results and the same inputs with a team rank alike. `replay_played` counts: the wins, draws
  and losses of an input add up to the sides it took in the results.
-/
import Mathlib.Data.List.Sort
import Brackets.Library.Decimal
import Brackets.Library.Dict
import Brackets.Details

namespace Brackets

open Library

/-- The expected score `1.0 / (1.0 + math.pow(10.0, x))`; `none` where `math.pow` overflows. -/
abbrev ExpectedScore := Rat → Option Rat

/-- The default context of `decimal`. -/
def decimalContext : Rounding := .decimals 28 (by decide)

/-! ## 1. Statistics -/

def startElo : Rat := 1200

/-- `TeamStatistics`. The points are a `Decimal`, a number that `decimalContext` may have rounded. -/
structure TeamStatistics where
  wins : Int := 0
  draws : Int := 0
  losses : Int := 0
  points : Rat := 0
  scoreFor : Int := 0
  scoreAgainst : Int := 0
  deriving DecidableEq, Repr

namespace TeamStatistics

def scoreDifference (s : TeamStatistics) : Int := s.scoreFor - s.scoreAgainst

/-- The matches the statistics count. -/
def played (s : TeamStatistics) : Int := s.wins + s.draws + s.losses

end TeamStatistics

def K : Rat := 32
def D : Rat := 400

/-- `int(q)`: towards zero. -/
def truncate (q : Rat) : Int := q.num.tdiv q.den

abbrev StatisticsDict := Dict StageItemInputId TeamStatistics

/-! ## 2. The results of a stage item -/

/-- What the ranking reads of a match: the two inputs and their scores. -/
structure Result where
  input1 : StageItemInputId
  input2 : StageItemInputId
  score1 : Int
  score2 : Int
  deriving DecidableEq, Repr

namespace Result

def input (r : Result) : Side → StageItemInputId
  | .one => r.input1
  | .two => r.input2

def score (r : Result) : Side → Int
  | .one => r.score1
  | .two => r.score2

end Result

/-- The other side of a match. -/
def Side.other : Side → Side
  | .one => .two
  | .two => .one

/-- A match counts once both its inputs are known and it has a score. -/
def Match.counts (m : Match) : Bool :=
  m.isDefinitive && (m.stageItemInput1Score != 0 || m.stageItemInput2Score != 0)

/-- The result of a match that counts. -/
def Match.result? (m : Match) : Option Result :=
  match m.stageItemInput1, m.stageItemInput2 with
  | some i1, some i2 =>
    if m.stageItemInput1Score != 0 || m.stageItemInput2Score != 0 then
      some ⟨i1.id, i2.id, m.stageItemInput1Score, m.stageItemInput2Score⟩
    else none
  | _, _ => none

namespace StageItemWithRounds

/-- The matches of the published rounds in the order of the replay. -/
def publishedMatches (item : StageItemWithRounds) : List Match :=
  ((item.rounds.insertionSort (·.id ≤ ·.id)).filter fun r => !r.isDraft).flatMap fun r =>
    r.matches_.insertionSort (·.id ≤ ·.id)

/-- The matches the ranking counts, in the order of the replay. -/
def countedMatches (item : StageItemWithRounds) : List Match :=
  item.publishedMatches.filter (·.counts)

/-- The results the ranking counts, in the order of the replay. -/
def results (item : StageItemWithRounds) : List Result := item.publishedMatches.filterMap (·.result?)

/-- The inputs with a team. -/
def seated (item : StageItemWithRounds) : List StageItemInputId :=
  (item.inputs.filter fun i => i.teamId.isSome).map (·.id)

end StageItemWithRounds

/-! ## 3. The replay -/

section Start

variable (type : StageType)

def initialPoints : Rat :=
  match type with
  | .swiss => startElo
  | _ => 0

/-- The default of the defaultdict. -/
def initialStatistics : TeamStatistics := { points := initialPoints type }

/-- An entry for every input with a team. -/
def seatedStatistics (seated : List StageItemInputId) : StatisticsDict :=
  seated.foldl (fun d k => d.set k (initialStatistics type)) .empty

end Start

namespace Rounded

section Replay

variable (A : Rounding) (E : ExpectedScore) (type : StageType) (ranking : RankingRow)

/-- `set_statistics_for_stage_item_input`, on the statistics of that input. -/
def statisticsAfter (side : Side) (r : Result) (ratingsBefore : Rat × Rat)
    (s : TeamStatistics) : Outcome TeamStatistics := do
  let teamScore := r.score side
  let opponentScore := r.score side.other
  let wasDraw := r.score1 == r.score2
  let hasWon := !wasDraw && teamScore == max r.score1 r.score2
  let s := { s with
    scoreFor := s.scoreFor + teamScore
    scoreAgainst := s.scoreAgainst + opponentScore }
  let (s, swissScoreDiff) :=
    if hasWon then ({ s with wins := s.wins + 1 }, ranking.winPoints)
    else if wasDraw then ({ s with draws := s.draws + 1 }, ranking.drawPoints)
    else ({ s with losses := s.losses + 1 }, ranking.lossPoints)
  let swissScoreDiff :=
    if ranking.addScorePoints then A.round (swissScoreDiff + teamScore) else swissScoreDiff
  match type with
  | .roundRobin | .singleElimination =>
    .ok { s with points := A.round (s.points + swissScoreDiff) }
  | .swiss =>
    let ratingDiff :=
      A.round (A.round (ratingsBefore.2 - ratingsBefore.1) * (if side = .one then 1 else -1))
    let expectedScore ← orRaise (E (A.round (ratingDiff / D))) (.crash .overflowError)
    let change := truncate (A.round (K * A.round (swissScoreDiff - expectedScore)))
    .ok { s with points := A.round (s.points + change) }

def setStatisticsForStageItemInput (side : Side) (stats : StatisticsDict) (r : Result)
    (ratingsBefore : Rat × Rat) : Outcome StatisticsDict := do
  let s ← statisticsAfter A E type ranking side r ratingsBefore
    (stats.getD (r.input side) (initialStatistics type))
  .ok (stats.set (r.input side) s)

/-- One turn of the loop over the matches: both sides, from the ratings before the match. -/
def replayResult (stats : StatisticsDict) (r : Result) : Outcome StatisticsDict := do
  let ratingsBefore := ((stats.getD r.input1 (initialStatistics type)).points,
    (stats.getD r.input2 (initialStatistics type)).points)
  let stats ← setStatisticsForStageItemInput A E type ranking .one stats r ratingsBefore
  setStatisticsForStageItemInput A E type ranking .two stats r ratingsBefore

/-- The turn of the loop on a loaded match. -/
def replayMatch (stats : StatisticsDict) (m : Match) : Outcome StatisticsDict :=
  match m.stageItemInput1, m.stageItemInput2 with
  | some i1, some i2 => replayResult A E type ranking stats
      ⟨i1.id, i2.id, m.stageItemInput1Score, m.stageItemInput2Score⟩
  | _, _ => .error (.crash .assertionError)

/-- The replay of results over the inputs with a team. -/
def replay (seated : List StageItemInputId) (results : List Result) : Outcome StatisticsDict :=
  results.foldlM (replayResult A E type ranking) (seatedStatistics type seated)

end Replay

def determineRankingForStageItem (A : Rounding) (E : ExpectedScore) (item : StageItemWithRounds)
    (ranking : RankingRow) : Outcome StatisticsDict :=
  item.countedMatches.foldlM (replayMatch A E item.type ranking)
    ((item.inputs.filter fun i => i.teamId.isSome).foldl
      (fun d i => d.set i.id (initialStatistics item.type)) .empty)

end Rounded

section Exact

variable (E : ExpectedScore) (type : StageType) (ranking : RankingRow)

def statisticsAfter (side : Side) (r : Result) (ratingsBefore : Rat × Rat) (s : TeamStatistics) :
    Outcome TeamStatistics :=
  Rounded.statisticsAfter .exact E type ranking side r ratingsBefore s

def setStatisticsForStageItemInput (side : Side) (stats : StatisticsDict) (r : Result)
    (ratingsBefore : Rat × Rat) : Outcome StatisticsDict :=
  Rounded.setStatisticsForStageItemInput .exact E type ranking side stats r ratingsBefore

def replayResult (stats : StatisticsDict) (r : Result) : Outcome StatisticsDict :=
  Rounded.replayResult .exact E type ranking stats r

def replay (seated : List StageItemInputId) (results : List Result) : Outcome StatisticsDict :=
  results.foldlM (replayResult E type ranking) (seatedStatistics type seated)

end Exact

/-- The ranking in exact arithmetic. -/
def determineRankingForStageItem (E : ExpectedScore) (item : StageItemWithRounds)
    (ranking : RankingRow) : Outcome StatisticsDict :=
  Rounded.determineRankingForStageItem .exact E item ranking

/-! ## 4. The order of the standings -/

abbrev RankingEntry := StageItemInputId × TeamStatistics

/-- The sort key's order: points, score difference, score and wins descending, then the slot. -/
def standsBefore (a b : RankingEntry × Int) : Prop :=
  b.1.2.points < a.1.2.points ∨ b.1.2.points = a.1.2.points ∧
  (b.1.2.scoreDifference < a.1.2.scoreDifference ∨
    b.1.2.scoreDifference = a.1.2.scoreDifference ∧
  (b.1.2.scoreFor < a.1.2.scoreFor ∨ b.1.2.scoreFor = a.1.2.scoreFor ∧
  (b.1.2.wins < a.1.2.wins ∨ b.1.2.wins = a.1.2.wins ∧ a.2 ≤ b.2)))

instance : DecidableRel standsBefore := fun a b => by
  unfold standsBefore
  infer_instance

def Rounded.determineTeamRankingForStageItem (A : Rounding) (E : ExpectedScore)
    (item : StageItemWithRounds) (ranking : RankingRow) : Outcome (List RankingEntry) := do
  let slots : Dict StageItemInputId Int := .ofList (item.inputs.map fun i => (i.id, i.slot))
  let teamRanking ← Rounded.determineRankingForStageItem A E item ranking
  let keyed ← teamRanking.entries.mapM fun e => do
    let slot ← orRaise (slots.get? e.1) (.crash .keyError)
    .ok (e, slot)
  .ok ((keyed.insertionSort standsBefore).map (·.1))

def determineTeamRankingForStageItem (E : ExpectedScore) (item : StageItemWithRounds)
    (ranking : RankingRow) : Outcome (List RankingEntry) :=
  Rounded.determineTeamRankingForStageItem .exact E item ranking

abbrev StageItemXTeamRanking := List (StageItemId × List RankingEntry)

/-- The ranking of one stage item, under its `Ranking`. -/
def teamRankingOf (E : ExpectedScore) (db : Database) (tid : TournamentId)
    (item : StageItemWithRounds) : Outcome (List RankingEntry) := do
  let ranking ← orRaise (getRankingForStageItem db tid item.id) (.crash .assertionError)
  determineTeamRankingForStageItem E item ranking

def getTeamRankingsLookupForTournament (E : ExpectedScore) (db : Database) (tid : TournamentId)
    (stages : List StageWithStageItems) : Outcome StageItemXTeamRanking :=
  let stageItems : Dict StageItemId StageItemWithRounds :=
    .ofList ((stages.flatMap (·.stageItems)).map fun item => (item.id, item))
  stageItems.entries.mapM fun e => do
    let teamRanking ← teamRankingOf E db tid e.2
    .ok (e.1, teamRanking)

/-! ## 5. Storing the statistics -/

def updateTeamStats (db : Database) (tid : TournamentId) (k : StageItemInputId)
    (s : TeamStatistics) : Database :=
  { db with
    stageItemInputs := db.stageItemInputs.update (fun i => i.tournamentId == tid && i.id == k)
      (fun i => { i with wins := s.wins, draws := s.draws, losses := s.losses, points := s.points })
      fun _ => rfl }

/-- `team_x_stage_item_input_lookup`. -/
def teamXStageItemInputLookup (item : StageItemWithRounds) : Dict TeamId StageItemInputId :=
  .ofList (item.inputs.filterMap fun i => i.teamId.map fun t => (t, i.id))

def recalculateRankingForStageItem (E : ExpectedScore) (db : Database) (tid : TournamentId)
    (item : StageItemWithRounds) : Outcome Database := do
  let ranking ← orRaise (getRankingForStageItem db tid item.id) (.crash .assertionError)
  let eloPerInput ← determineRankingForStageItem E item ranking
  .ok ((teamXStageItemInputLookup item).values.foldl
    (fun db k => updateTeamStats db tid k (eloPerInput.getD k (initialStatistics item.type))) db)

/-! ## 6. The ranking is the replay of the results -/

section Bridge

theorem Match.counts_eq (m : Match) : m.counts = m.result?.isSome := by
  unfold counts result? isDefinitive
  cases m.stageItemInput1 <;> cases m.stageItemInput2 <;> simp only [Option.isSome_none,
    Option.isSome_some, Bool.false_and, Bool.and_false, Bool.true_and]
  split <;> simp_all

theorem foldl_seated (type : StageType) (inputs : List StageItemInput) (d : StatisticsDict) :
    inputs.foldl (fun d i => d.set i.id (initialStatistics type)) d =
      (inputs.map (·.id)).foldl (fun d k => d.set k (initialStatistics type)) d := by
  rw [List.foldl_map]

namespace Rounded

variable (A : Rounding) (E : ExpectedScore)

theorem replayMatch_of_result {m : Match} {r : Result} (h : m.result? = some r) (type : StageType)
    (ranking : RankingRow) (stats : StatisticsDict) :
    replayMatch A E type ranking stats m = replayResult A E type ranking stats r := by
  unfold Match.result? at h
  unfold replayMatch
  split at h
  · split at h
    · cases h
      rfl
    · cases h
  · cases h

/-- **The ranking is the replay of the results over the inputs with a team.** -/
theorem determineRanking_eq_replay (item : StageItemWithRounds) (ranking : RankingRow) :
    determineRankingForStageItem A E item ranking =
      replay A E item.type ranking item.seated item.results := by
  unfold determineRankingForStageItem replay seatedStatistics StageItemWithRounds.seated
    StageItemWithRounds.results StageItemWithRounds.countedMatches
  rw [foldl_seated, List.foldlM_filter, List.foldlM_filterMap]
  congr 1
  funext stats m
  rw [Match.counts_eq]
  cases h : m.result? with
  | none => rfl
  | some r => exact replayMatch_of_result A E h item.type ranking stats

/-- Stage items with the same results and the same inputs with a team rank alike. -/
theorem determineRanking_congr {item item' : StageItemWithRounds} (ht : item'.type = item.type)
    (hs : item'.seated = item.seated) (hr : item'.results = item.results) (ranking : RankingRow) :
    determineRankingForStageItem A E item' ranking =
      determineRankingForStageItem A E item ranking := by
  rw [determineRanking_eq_replay, determineRanking_eq_replay, ht, hs, hr]

end Rounded

variable (E : ExpectedScore)

theorem determineRanking_eq_replay (item : StageItemWithRounds) (ranking : RankingRow) :
    determineRankingForStageItem E item ranking =
      replay E item.type ranking item.seated item.results :=
  Rounded.determineRanking_eq_replay .exact E item ranking

theorem determineRanking_congr {item item' : StageItemWithRounds} (ht : item'.type = item.type)
    (hs : item'.seated = item.seated) (hr : item'.results = item.results) (ranking : RankingRow) :
    determineRankingForStageItem E item' ranking = determineRankingForStageItem E item ranking :=
  Rounded.determineRanking_congr .exact E ht hs hr ranking

end Bridge

/-! ## 7. One match of a replay -/

section Inversion

variable {A : Rounding} {E : ExpectedScore} {type : StageType} {ranking : RankingRow}
  {d d' : StatisticsDict} {r : Result}

theorem Rounded.setStatistics_eq_ok {side : Side} {q : Rat × Rat} :
    Rounded.setStatisticsForStageItemInput A E type ranking side d r q = .ok d' ↔
      ∃ s, Rounded.statisticsAfter A E type ranking side r q
          (d.getD (r.input side) (initialStatistics type)) = .ok s ∧
        d' = d.set (r.input side) s := by
  unfold Rounded.setStatisticsForStageItemInput
  rw [bind_eq_ok]
  simp only [Except.ok.injEq, eq_comm]

theorem setStatistics_eq_ok {side : Side} {q : Rat × Rat} :
    setStatisticsForStageItemInput E type ranking side d r q = .ok d' ↔
      ∃ s, statisticsAfter E type ranking side r q
          (d.getD (r.input side) (initialStatistics type)) = .ok s ∧
        d' = d.set (r.input side) s :=
  Rounded.setStatistics_eq_ok

theorem replayResult_eq_ok : replayResult E type ranking d r = .ok d' ↔
    ∃ d1, setStatisticsForStageItemInput E type ranking .one d r
        ((d.getD r.input1 (initialStatistics type)).points,
          (d.getD r.input2 (initialStatistics type)).points) = .ok d1 ∧
      setStatisticsForStageItemInput E type ranking .two d1 r
        ((d.getD r.input1 (initialStatistics type)).points,
          (d.getD r.input2 (initialStatistics type)).points) = .ok d' := by
  unfold replayResult Rounded.replayResult
  exact bind_eq_ok

end Inversion

/-! ## 8. What a replay counts -/

section Counts

variable {E : ExpectedScore} {type : StageType} {ranking : RankingRow}

theorem seatedStatistics_getD (seated : List StageItemInputId) (k : StageItemInputId) :
    (seatedStatistics type seated).getD k (initialStatistics type) = initialStatistics type := by
  unfold seatedStatistics
  have : ∀ (l : List StageItemInputId) (d : StatisticsDict),
      d.getD k (initialStatistics type) = initialStatistics type →
      (l.foldl (fun d k => d.set k (initialStatistics type)) d).getD k (initialStatistics type) =
        initialStatistics type := by
    intro l
    induction l with
    | nil => exact fun d h => h
    | cons a l ih =>
      intro d h
      refine ih _ ?_
      rw [Dict.getD_set]
      split
      · rfl
      · exact h
  exact this seated .empty rfl

/-- A side adds one match to the statistics, whatever its result. -/
theorem statisticsAfter_played {side : Side} {r : Result} {q : Rat × Rat} {s s' : TeamStatistics}
    (h : statisticsAfter E type ranking side r q s = .ok s') : s'.played = s.played + 1 := by
  have key : ∀ (t : TeamStatistics) (d : Rat), t.played = s.played + 1 →
      (match type with
        | .roundRobin | .singleElimination =>
          (.ok { t with points := t.points + d } : Outcome TeamStatistics)
        | .swiss => do
          let e ← orRaise (E ((q.2 - q.1) * (if side = Side.one then 1 else -1) / D))
            (.crash .overflowError)
          .ok { t with points := t.points + truncate (K * (d - e)) }) = .ok s' →
      s'.played = s.played + 1 := by
    intro t d ht h
    cases type with
    | roundRobin =>
      cases h
      exact ht
    | singleElimination =>
      cases h
      exact ht
    | swiss =>
      obtain ⟨e, _, h⟩ := bind_eq_ok.mp h
      cases h
      exact ht
  unfold statisticsAfter Rounded.statisticsAfter at h
  dsimp only [Rounding.exact, id] at h
  refine key _ _ ?_ h
  unfold TeamStatistics.played
  split
  · dsimp only
    omega
  · split <;> dsimp only <;> omega

/-- How often an input takes a side in the results. -/
def sidesTaken (k : StageItemInputId) : List Result → Int
  | [] => 0
  | r :: rs => (if r.input1 = k then 1 else 0) + (if r.input2 = k then 1 else 0) + sidesTaken k rs

theorem sidesTaken_cons (k : StageItemInputId) (r : Result) (rs : List Result) :
    sidesTaken k (r :: rs) = (if r.input1 = k then 1 else 0) + (if r.input2 = k then 1 else 0) +
      sidesTaken k rs := rfl

theorem setStatistics_played {side : Side} {r : Result} {q : Rat × Rat} {d d' : StatisticsDict}
    (h : setStatisticsForStageItemInput E type ranking side d r q = .ok d')
    (k : StageItemInputId) :
    (d'.getD k (initialStatistics type)).played =
      (d.getD k (initialStatistics type)).played + if r.input side = k then 1 else 0 := by
  obtain ⟨s, hs, rfl⟩ := setStatistics_eq_ok.mp h
  rw [Dict.getD_set]
  by_cases hk : r.input side = k
  · rw [if_pos hk.symm, if_pos hk, statisticsAfter_played hs, hk]
  · rw [if_neg fun e => hk e.symm, if_neg hk, Int.add_zero]

theorem replayResult_played {r : Result} {d d' : StatisticsDict}
    (h : replayResult E type ranking d r = .ok d') (k : StageItemInputId) :
    (d'.getD k (initialStatistics type)).played = (d.getD k (initialStatistics type)).played +
      ((if r.input1 = k then 1 else 0) + if r.input2 = k then 1 else 0) := by
  obtain ⟨d1, h1, h2⟩ := replayResult_eq_ok.mp h
  rw [setStatistics_played h2, setStatistics_played h1, Int.add_assoc]
  rfl

/-- **The wins, draws and losses of an input add up to the sides it took.** -/
theorem replay_played {seated : List StageItemInputId} {results : List Result}
    {d : StatisticsDict} (h : replay E type ranking seated results = .ok d)
    (k : StageItemInputId) :
    (d.getD k (initialStatistics type)).played = sidesTaken k results := by
  have run : ∀ (rs : List Result) (d0 : StatisticsDict),
      rs.foldlM (replayResult E type ranking) d0 = .ok d →
      (d.getD k (initialStatistics type)).played =
        (d0.getD k (initialStatistics type)).played + sidesTaken k rs := by
    intro rs
    induction rs with
    | nil =>
      intro d0 h
      cases h
      simp [sidesTaken]
    | cons r rs ih =>
      intro d0 h
      rw [List.foldlM_cons] at h
      obtain ⟨d1, h1, h⟩ := bind_eq_ok.mp h
      rw [ih d1 h, replayResult_played h1, sidesTaken_cons]
      omega
  rw [run results _ h, seatedStatistics_getD]
  simp [TeamStatistics.played, initialStatistics]

end Counts

end Brackets
