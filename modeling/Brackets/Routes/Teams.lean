/-
  File:      Brackets/Routes/Teams.lean
  Subject:   `routes/teams.py` and `routes/players.py`.

  The names that `TeamMultiBody` and `PlayerMultiBody` hold in one text are given as the list
  their parsers make of it.
-/
import Brackets.Entities
import Brackets.Routes.Validation

namespace Brackets

open Library

/-! ## 1. Teams -/

structure TeamBody where
  name : String
  active : Bool
  playerIds : List PlayerId

def updateTeamMembers (db : Database) (teamId : TeamId) (tid : TournamentId)
    (playerIds : List PlayerId) : Outcome Database := do
  let team ← orRaise ((getTeamsWithMembers db tid).find? (·.id == teamId)) (.crash .valueError)
  let db := (playerIds.filter fun p => !team.playerIds.contains p).foldl
    (fun db p => insertMember db teamId p) db
  .ok { db with
    playersXTeams := db.playersXTeams.delete fun x =>
      !playerIds.contains x.playerId && x.teamId == teamId }

/-- `team_dependency` -/
def teamDependency (db : Database) (tid : TournamentId) (k : TeamId) : Outcome TeamRow :=
  orRaise (getTeamById db k tid) (notFound ("Could not find team with id " ++ toString k))

def updateTeamById (db : Database) (tid : TournamentId) (k : TeamId) (body : TeamBody) :
    Outcome Database := do
  let _ ← disallowArchivedTournament db tid
  let team ← teamDependency db tid k
  checkForeignKeysBelongToTournament db tid [.playerIds body.playerIds]
  let db := { db with
    teams := db.teams.update (fun t => t.id == team.id && t.tournamentId == tid)
      (fun t => { t with name := body.name, active := body.active }) fun _ => rfl }
  updateTeamMembers db team.id tid body.playerIds

/-- `filename` is the stored upload, or none to remove the logo. -/
def updateTeamLogo (db : Database) (tid : TournamentId) (k : TeamId) (filename : Option String) :
    Outcome Database := do
  let _ ← disallowArchivedTournament db tid
  let team ← teamDependency db tid k
  .ok { db with
    teams := db.teams.update (fun t => t.id == team.id) (fun t => { t with logoPath := filename })
      fun _ => rfl }

def deleteTeam (db : Database) (tid : TournamentId) (k : TeamId) : Outcome Database := do
  let _ ← disallowArchivedTournament db tid
  let team ← orRaise ((getTeamsWithMembers db tid).find? (·.id == k))
    (notFound ("Could not find team with id " ++ toString k))
  checkViolation (sqlDeleteTeam db tid team.id) "Invalid team as input to this stage item"

def createTeam (db : Database) (tid : TournamentId) (body : TeamBody) : Outcome Database := do
  let _ ← disallowArchivedTournament db tid
  checkForeignKeysBelongToTournament db tid [.playerIds body.playerIds]
  checkRequirement (getTeamsWithMembers db tid).length regularSubscription.maxTeams "teams"
  let (k, db) := insertTeam db tid body.name body.active
  updateTeamMembers db k tid body.playerIds

/-- A team of `create_multiple_teams` with its players. -/
def createTeamWithPlayers (now : DateTime) (tid : TournamentId) (active : Bool) (db : Database)
    (team : String × List String) : Database :=
  let (teamId, db) := insertTeam db tid team.1 active
  team.2.foldl (fun db name =>
    let (playerId, db) := insertPlayer db now ⟨name, active⟩ tid
    insertMember db teamId playerId) db

def createMultipleTeams (db : Database) (now : DateTime) (tid : TournamentId)
    (teamsWithPlayers : List (String × List String)) (active : Bool) : Outcome Database := do
  let _ ← disallowArchivedTournament db tid
  let playerCount := (teamsWithPlayers.flatMap (·.2)).length
  checkRequirement (getTeamsWithMembers db tid).length regularSubscription.maxTeams "teams"
    teamsWithPlayers.length
  checkRequirement (db.players.rows.filter (·.tournamentId == tid)).length
    regularSubscription.maxPlayers "players" playerCount
  .ok (teamsWithPlayers.foldl (createTeamWithPlayers now tid active) db)

/-! ## 2. Players -/

def updatePlayerById (db : Database) (tid : TournamentId) (k : PlayerId) (body : PlayerBody) :
    Outcome Database := do
  let _ ← disallowArchivedTournament db tid
  let _ ← orRaise ((db.players.find? k).filter (·.tournamentId == tid))
    (notFound ("Could not find player with id " ++ toString k))
  .ok (sqlUpdatePlayer db tid k body)

def deletePlayer (db : Database) (tid : TournamentId) (k : PlayerId) : Outcome Database := do
  let _ ← disallowArchivedTournament db tid
  .ok (sqlDeletePlayer db tid k)

def createSinglePlayer (db : Database) (now : DateTime) (tid : TournamentId) (body : PlayerBody) :
    Outcome Database := do
  let _ ← disallowArchivedTournament db tid
  checkRequirement (db.players.rows.filter (·.tournamentId == tid)).length
    regularSubscription.maxPlayers "players"
  .ok (insertPlayer db now body tid).2

def createMultiplePlayers (db : Database) (now : DateTime) (tid : TournamentId)
    (playerNames : List String) (active : Bool) : Outcome Database := do
  let _ ← disallowArchivedTournament db tid
  checkRequirement (db.players.rows.filter (·.tournamentId == tid)).length
    regularSubscription.maxPlayers "players" playerNames.length
  .ok (playerNames.foldl (fun db name => (insertPlayer db now ⟨name, active⟩ tid).2) db)

/-! ## 3. What an accepted request did -/

section Accepted

variable {db db' : Database} {tid : TournamentId}

theorem updateTeamMembers_ok {teamId : TeamId} {playerIds : List PlayerId}
    (h : updateTeamMembers db teamId tid playerIds = .ok db') :
    ∃ team, (getTeamsWithMembers db tid).find? (·.id == teamId) = some team ∧
      let added := (playerIds.filter fun p => !team.playerIds.contains p).foldl
        (fun db p => insertMember db teamId p) db
      db' = { added with
        playersXTeams := added.playersXTeams.delete fun x =>
          !playerIds.contains x.playerId && x.teamId == teamId } := by
  obtain ⟨team, hteam, h⟩ := bind_eq_ok.mp h
  exact ⟨team, orRaise_eq_ok.mp hteam, (Except.ok.inj h).symm⟩

theorem teamDependency_ok {k : TeamId} {team : TeamRow} (h : teamDependency db tid k = .ok team) :
    db.teams.find? k = some team ∧ team.tournamentId = tid := by
  obtain ⟨hteam, ht⟩ := Option.filter_eq_some_iff.mp (orRaise_eq_ok.mp h)
  exact ⟨hteam, eq_of_beq ht⟩

theorem updateTeamById_ok {k : TeamId} {body : TeamBody}
    (h : updateTeamById db tid k body = .ok db') :
    ∃ team, NotArchived db tid ∧ teamDependency db tid k = .ok team ∧
      Belong db tid [.playerIds body.playerIds] ∧
      updateTeamMembers { db with
        teams := db.teams.update (fun t => t.id == team.id && t.tournamentId == tid)
          (fun t => { t with name := body.name, active := body.active }) fun _ => rfl }
        team.id tid body.playerIds = .ok db' := by
  obtain ⟨_, hopened, h⟩ := bind_eq_ok.mp h
  obtain ⟨team, hteam, h⟩ := bind_eq_ok.mp h
  obtain ⟨_, hkeys, h⟩ := bind_eq_ok.mp h
  exact ⟨team, disallowArchived_ok hopened, hteam, checkForeignKeys_ok hkeys, h⟩

theorem updateTeamLogo_ok {k : TeamId} {filename : Option String}
    (h : updateTeamLogo db tid k filename = .ok db') :
    ∃ team, NotArchived db tid ∧ teamDependency db tid k = .ok team ∧
      db' = { db with
        teams := db.teams.update (fun t => t.id == team.id)
          (fun t => { t with logoPath := filename }) fun _ => rfl } := by
  obtain ⟨_, hopened, h⟩ := bind_eq_ok.mp h
  obtain ⟨team, hteam, h⟩ := bind_eq_ok.mp h
  exact ⟨team, disallowArchived_ok hopened, hteam, (Except.ok.inj h).symm⟩

theorem deleteTeam_ok {k : TeamId} (h : deleteTeam db tid k = .ok db') :
    NotArchived db tid ∧ (∃ team ∈ getTeamsWithMembers db tid, team.id = k) ∧
      sqlDeleteTeam db tid k = .ok db' := by
  obtain ⟨_, hopened, h⟩ := bind_eq_ok.mp h
  obtain ⟨team, hteam, h⟩ := bind_eq_ok.mp h
  have hteam := orRaise_eq_ok.mp hteam
  have hk := List.find?_some hteam
  have hk : team.id = k := eq_of_beq hk
  exact ⟨disallowArchived_ok hopened, ⟨team, List.mem_of_find?_eq_some hteam, hk⟩,
    hk ▸ checkViolation_ok h⟩

theorem createTeam_ok {body : TeamBody} (h : createTeam db tid body = .ok db') :
    NotArchived db tid ∧ Belong db tid [.playerIds body.playerIds] ∧
      (getTeamsWithMembers db tid).length + 1 ≤ regularSubscription.maxTeams ∧
      updateTeamMembers (insertTeam db tid body.name body.active).2 db.teams.next tid
        body.playerIds = .ok db' := by
  obtain ⟨_, hopened, h⟩ := bind_eq_ok.mp h
  obtain ⟨_, hkeys, h⟩ := bind_eq_ok.mp h
  obtain ⟨_, hroom, h⟩ := bind_eq_ok.mp h
  exact ⟨disallowArchived_ok hopened, checkForeignKeys_ok hkeys, checkRequirement_ok hroom, h⟩

theorem createMultipleTeams_ok {now : DateTime}
    {teamsWithPlayers : List (String × List String)} {active : Bool}
    (h : createMultipleTeams db now tid teamsWithPlayers active = .ok db') :
    NotArchived db tid ∧
      (getTeamsWithMembers db tid).length + teamsWithPlayers.length ≤
        regularSubscription.maxTeams ∧
      (db.players.rows.filter (·.tournamentId == tid)).length +
        (teamsWithPlayers.flatMap (·.2)).length ≤ regularSubscription.maxPlayers ∧
      db' = teamsWithPlayers.foldl (createTeamWithPlayers now tid active) db := by
  obtain ⟨_, hopened, h⟩ := bind_eq_ok.mp h
  obtain ⟨_, hteams, h⟩ := bind_eq_ok.mp h
  obtain ⟨_, hplayers, h⟩ := bind_eq_ok.mp h
  exact ⟨disallowArchived_ok hopened, checkRequirement_ok hteams, checkRequirement_ok hplayers,
    (Except.ok.inj h).symm⟩

theorem updatePlayerById_ok {k : PlayerId} {body : PlayerBody}
    (h : updatePlayerById db tid k body = .ok db') :
    NotArchived db tid ∧ (∃ p, db.players.find? k = some p ∧ p.tournamentId = tid) ∧
      db' = sqlUpdatePlayer db tid k body := by
  obtain ⟨_, hopened, h⟩ := bind_eq_ok.mp h
  obtain ⟨p, hp, h⟩ := bind_eq_ok.mp h
  obtain ⟨hp, ht⟩ := Option.filter_eq_some_iff.mp (orRaise_eq_ok.mp hp)
  exact ⟨disallowArchived_ok hopened, ⟨p, hp, eq_of_beq ht⟩, (Except.ok.inj h).symm⟩

theorem deletePlayer_ok {k : PlayerId} (h : deletePlayer db tid k = .ok db') :
    NotArchived db tid ∧ db' = sqlDeletePlayer db tid k := by
  obtain ⟨_, hopened, h⟩ := bind_eq_ok.mp h
  exact ⟨disallowArchived_ok hopened, (Except.ok.inj h).symm⟩

theorem createSinglePlayer_ok {now : DateTime} {body : PlayerBody}
    (h : createSinglePlayer db now tid body = .ok db') :
    NotArchived db tid ∧ (db.players.rows.filter (·.tournamentId == tid)).length + 1 ≤
        regularSubscription.maxPlayers ∧ db' = (insertPlayer db now body tid).2 := by
  obtain ⟨_, hopened, h⟩ := bind_eq_ok.mp h
  obtain ⟨_, hroom, h⟩ := bind_eq_ok.mp h
  exact ⟨disallowArchived_ok hopened, checkRequirement_ok hroom, (Except.ok.inj h).symm⟩

theorem createMultiplePlayers_ok {now : DateTime} {playerNames : List String} {active : Bool}
    (h : createMultiplePlayers db now tid playerNames active = .ok db') :
    NotArchived db tid ∧ (db.players.rows.filter (·.tournamentId == tid)).length +
        playerNames.length ≤ regularSubscription.maxPlayers ∧
      db' = playerNames.foldl (fun db name => (insertPlayer db now ⟨name, active⟩ tid).2) db := by
  obtain ⟨_, hopened, h⟩ := bind_eq_ok.mp h
  obtain ⟨_, hroom, h⟩ := bind_eq_ok.mp h
  exact ⟨disallowArchived_ok hopened, checkRequirement_ok hroom, (Except.ok.inj h).symm⟩

end Accepted

end Brackets
