/-
  File:      Brackets/Routes/Rankings.lean
  Subject:   `routes/rankings.py`: the standings, and changing the rankings.
-/
import Brackets.Entities
import Brackets.Ranking.Elimination
import Brackets.Routes.Validation

namespace Brackets

open Library

/-- The standings of every stage item; draft rounds are left out of the load. -/
def getStandings (E : ExpectedScore) (db : Database) (tid : TournamentId) :
    Outcome StageItemXTeamRanking := do
  let stages ← getFullTournamentDetails db tid { noDraftRounds := true }
  getTeamRankingsLookupForTournament E db tid stages

/-- The body of the loop over the stage items that use the ranking. -/
def refreshStageItem (E : ExpectedScore) (tid : TournamentId) (db : Database) (k : StageItemId) :
    Outcome Database := do
  let item ← getStageItem db tid k
  let db ← recalculateRankingForStageItem E db tid item
  if item.type = .singleElimination then updateInputsInCompleteEliminationStageItem db item
  else .ok db

def updateRankingById (E : ExpectedScore) (db : Database) (tid : TournamentId) (k : RankingId)
    (body : RankingBody) : Outcome Database := do
  let _ ← disallowArchivedTournament db tid
  let _ ← rankingDependency db tid k
  let db := sqlUpdateRanking db tid k body
  (getStageItemIdsByRankingId db tid k).foldlM (refreshStageItem E tid) db

def deleteRanking (db : Database) (tid : TournamentId) (k : RankingId) : Outcome Database := do
  let _ ← disallowArchivedTournament db tid
  let _ ← rankingDependency db tid k
  let stageItemIds := getStageItemIdsByRankingId db tid k
  require stageItemIds.isEmpty (badRequest ("Could not delete ranking since it's used by " ++
    toString stageItemIds.length ++ " stage items"))
  sqlDeleteRanking db tid k

def createRanking (db : Database) (tid : TournamentId) (body : RankingCreateBody) :
    Outcome Database := do
  let _ ← disallowArchivedTournament db tid
  let existingRankings := getAllRankingsInTournament db tid
  checkRequirement existingRankings.length regularSubscription.maxRankings "rankings"
  let highestPosition := (existingRankings.getLast?.map (·.position)).getD (-1)
  .ok (sqlCreateRanking db tid body (highestPosition + 1))

/-! ## What an accepted request did -/

section Accepted

variable {db db' : Database} {tid : TournamentId}

/-- The statistics of a stage item stored anew, and the winners of a bracket moved on. -/
structure Refresh (E : ExpectedScore) (db : Database) (tid : TournamentId)
    (item : StageItemWithRounds) (db' : Database) where
  recalculated : Database
  recalculation : recalculateRankingForStageItem E db tid item = .ok recalculated
  propagation : (if item.type = .singleElimination then
    updateInputsInCompleteEliminationStageItem recalculated item else .ok recalculated) = .ok db'

theorem refreshStageItem_ok {E : ExpectedScore} {k : StageItemId}
    (h : refreshStageItem E tid db k = .ok db') :
    ∃ item, getStageItem db tid k = .ok item ∧ Nonempty (Refresh E db tid item db') := by
  obtain ⟨item, hitem, h⟩ := bind_eq_ok.mp h
  obtain ⟨recalculated, hrecalc, h⟩ := bind_eq_ok.mp h
  exact ⟨item, hitem, ⟨⟨recalculated, hrecalc, h⟩⟩⟩

theorem updateRankingById_ok {E : ExpectedScore} {k : RankingId} {body : RankingBody}
    (h : updateRankingById E db tid k body = .ok db') :
    NotArchived db tid ∧ (∃ ranking, rankingDependency db tid k = .ok ranking) ∧
      (getStageItemIdsByRankingId (sqlUpdateRanking db tid k body) tid k).foldlM
        (refreshStageItem E tid) (sqlUpdateRanking db tid k body) = .ok db' := by
  obtain ⟨_, hopened, h⟩ := bind_eq_ok.mp h
  obtain ⟨ranking, hranking, h⟩ := bind_eq_ok.mp h
  exact ⟨disallowArchived_ok hopened, ⟨ranking, hranking⟩, h⟩

theorem deleteRanking_ok {k : RankingId} (h : deleteRanking db tid k = .ok db') :
    NotArchived db tid ∧ (∃ ranking, rankingDependency db tid k = .ok ranking) ∧
      getStageItemIdsByRankingId db tid k = [] ∧ sqlDeleteRanking db tid k = .ok db' := by
  obtain ⟨_, hopened, h⟩ := bind_eq_ok.mp h
  obtain ⟨ranking, hranking, h⟩ := bind_eq_ok.mp h
  obtain ⟨_, hunused, h⟩ := bind_eq_ok.mp h
  exact ⟨disallowArchived_ok hopened, ⟨ranking, hranking⟩,
    List.isEmpty_iff.mp (require_eq_ok.mp hunused), h⟩

theorem createRanking_ok {body : RankingCreateBody} (h : createRanking db tid body = .ok db') :
    NotArchived db tid ∧
      (getAllRankingsInTournament db tid).length + 1 ≤ regularSubscription.maxRankings ∧
      db' = sqlCreateRanking db tid body
        (((getAllRankingsInTournament db tid).getLast?.map (·.position)).getD (-1) + 1) := by
  obtain ⟨_, hopened, h⟩ := bind_eq_ok.mp h
  obtain ⟨_, hroom, h⟩ := bind_eq_ok.mp h
  exact ⟨disallowArchived_ok hopened, checkRequirement_ok hroom, (Except.ok.inj h).symm⟩

end Accepted

end Brackets
