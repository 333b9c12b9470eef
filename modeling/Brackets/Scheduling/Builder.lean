/-
  File:      Brackets/Scheduling/Builder.lean
  Subject:   `logic/scheduling/builder.py`: the rounds and matches of a new stage item.
-/
import Brackets.Scheduling.RoundRobin

namespace Brackets

open Library

/-- How many rounds are made for a new stage item. -/
def roundsToCreate (item : StageItemRow) : Outcome Nat :=
  match item.type with
  | .roundRobin => .ok (getNumberOfRoundsToCreateRoundRobin item.teamCount)
  | .singleElimination => getNumberOfRoundsToCreateSingleElimination item.teamCount
  | .swiss => .ok 0

/-- The turn of the loop that creates the rounds. -/
def createNextRound (tid : TournamentId) (k : StageItemId) (db : Database) : Database :=
  (sqlCreateRound db (getNextRoundName db tid k) false k).2

def createRoundsForNewStageItem (db : Database) (tid : TournamentId) (item : StageItemRow) :
    Outcome Database := do
  let roundsCount ← roundsToCreate item
  .ok ((createNextRound tid item.id)^[roundsCount] db)

def buildMatchesForStageItem (E : ExpectedScore) (db : Database) (item : StageItemRow)
    (tid : TournamentId) : Outcome Database := do
  let db ← createRoundsForNewStageItem db tid item
  let itemWithRounds ← getStageItem db tid item.id
  match item.type with
  | .roundRobin => do
    let db ← buildRoundRobinStageItem db tid itemWithRounds
    recalculateRankingForStageItem E db tid itemWithRounds
  | .singleElimination => do
    let db ← buildSingleEliminationStageItem db tid itemWithRounds
    recalculateRankingForStageItem E db tid itemWithRounds
  | .swiss => .ok db

/-- **The construction of a stage item** stores its rounds and its matches, and then its
    statistics, unless it is Swiss. -/
theorem buildMatches_ok {E : ExpectedScore} {db db' : Database} {item : StageItemRow}
    {tid : TournamentId} (h : buildMatchesForStageItem E db item tid = .ok db') :
    ∃ n loaded bodies, roundsToCreate item = .ok n ∧
      getStageItem ((createNextRound tid item.id)^[n] db) tid item.id = .ok loaded ∧
      (db' = (createMatches ((createNextRound tid item.id)^[n] db) bodies).2 ∨
        recalculateRankingForStageItem E
          (createMatches ((createNextRound tid item.id)^[n] db) bodies).2 tid loaded = .ok db') := by
  obtain ⟨db1, h1, h⟩ := bind_eq_ok.mp h
  obtain ⟨loaded, hloaded, h⟩ := bind_eq_ok.mp h
  obtain ⟨n, hn, h1⟩ := bind_eq_ok.mp h1
  cases h1
  split at h
  · obtain ⟨db2, h2, h⟩ := bind_eq_ok.mp h
    obtain ⟨bodies, rfl⟩ := buildRoundRobin_created h2
    exact ⟨n, loaded, bodies, hn, hloaded, .inr h⟩
  · obtain ⟨db2, h2, h⟩ := bind_eq_ok.mp h
    obtain ⟨bodies, rfl⟩ := buildSingleElimination_created h2
    exact ⟨n, loaded, bodies, hn, hloaded, .inr h⟩
  · cases h
    exact ⟨n, loaded, [], hn, hloaded, .inl rfl⟩

end Brackets
