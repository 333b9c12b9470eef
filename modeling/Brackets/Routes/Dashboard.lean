/-
  File:      Brackets/Routes/Dashboard.lean
  Subject:   What the dashboard reads: `get_stages`, `get_standings` and `get_players`.

  The three requests answer the organizers and, while the tournament is public, everyone else.
  Only an organizer may load the draft rounds.
-/
import Brackets.Ranking.Players
import Brackets.Routes.Rankings
import Brackets.Routes.Validation

namespace Brackets

open Library

/-! ## 1. Stages and standings -/

def getStages (db : Database) (tid : TournamentId) (caller : Caller) (noDraftRounds : Bool) :
    Outcome (List StageWithStageItems) := do
  userAuthenticatedOrPublicDashboard db tid caller
  require (noDraftRounds || caller == .organizer)
    (.http 403 "Can't view draft rounds when not authorized")
  getFullTournamentDetails db tid { noDraftRounds := noDraftRounds }

def standingsFor (E : ExpectedScore) (db : Database) (tid : TournamentId) (caller : Caller) :
    Outcome StageItemXTeamRanking := do
  userAuthenticatedOrPublicDashboard db tid caller
  getStandings E db tid

/-! ## 2. Players -/

inductive SortDirection where
  | asc
  | desc
  deriving DecidableEq, Repr

/-- `sort_by` of `PaginationPlayers`. -/
inductive PlayerSort where
  | name
  | eloScore
  | swissScore
  | wins
  | draws
  | losses
  | active
  | created
  deriving DecidableEq, Repr

structure PaginationPlayers where
  limit : Nat := 25
  offset : Nat := 0
  sortDirection : SortDirection := .asc
  sortBy : PlayerSort := .name
  limit_le : 1 ≤ limit ∧ limit ≤ 500 := by decide

/-- A player with the statistics of this request. -/
structure Player where
  row : PlayerRow
  statistics : PlayerStatistics
  deriving DecidableEq, Repr

/-- The field of `PlayerStatistics` that is sorted by, if it is one. -/
def PlayerSort.statistic : PlayerSort → Option (PlayerStatistics → Rat)
  | .eloScore => some (·.eloScore)
  | .swissScore => some (·.swissScore)
  | .wins => some fun s => s.wins
  | .draws => some fun s => s.draws
  | .losses => some fun s => s.losses
  | _ => none

/-- The order of a column of the players table. -/
def PlayerSort.column (by_ : PlayerSort) (a b : PlayerRow) : Bool :=
  match by_ with
  | .active => !a.active || b.active
  | .created => decide (a.created ≤ b.created)
  | _ => decide (a.name ≤ b.name)

/-- An order, ascending or descending. -/
def SortDirection.order {α : Type} (d : SortDirection) (le : α → α → Bool) (a b : α) : Bool :=
  match d with
  | .asc => le a b
  | .desc => le b a

/-- `get_all_players_in_tournament`. The table has no `team_id` column to filter by. -/
def getAllPlayersInTournament (db : Database) (tid : TournamentId) (notInTeam : Bool)
    (pagination : Option PaginationPlayers) : Outcome (List PlayerRow) := do
  require (!notInTeam) (.crash .programmingError)
  let players := db.players.rows.filter (·.tournamentId == tid)
  match pagination with
  | none => .ok (players.insertionSort (PlayerSort.column .name · ·))
  | some p =>
    let sorted := players.insertionSort (p.sortDirection.order p.sortBy.column · ·)
    .ok ((sorted.drop p.offset).take p.limit)

def getPlayerCount (db : Database) (tid : TournamentId) (notInTeam : Bool) : Outcome Nat := do
  require (!notInTeam) (.crash .programmingError)
  .ok (db.players.rows.filter (·.tournamentId == tid)).length

def getPlayers (E : ExpectedScore) (db : Database) (tid : TournamentId) (caller : Caller)
    (notInTeam : Bool) (pagination : PaginationPlayers) : Outcome (List Player × Nat) := do
  userAuthenticatedOrPublicDashboard db tid caller
  let statistics ← getPlayerStatistics E db tid
  let withStatistics (p : PlayerRow) : Player := ⟨p, statistics.getD p.id {}⟩
  let players ← match pagination.sortBy.statistic with
    | some statistic => do
      let players ← getAllPlayersInTournament db tid notInTeam none
      let sorted := (players.map withStatistics).insertionSort (pagination.sortDirection.order
        (fun a b => decide (statistic a.statistics ≤ statistic b.statistics)) · ·)
      .ok ((sorted.drop pagination.offset).take pagination.limit)
    | none => do
      let players ← getAllPlayersInTournament db tid notInTeam (some pagination)
      .ok (players.map withStatistics)
  let count ← getPlayerCount db tid notInTeam
  .ok (players, count)

end Brackets
