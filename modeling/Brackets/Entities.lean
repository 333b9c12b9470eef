/-
  File:      Brackets/Entities.lean
  Subject:   The SQL statements that create, change and delete tournaments, stages, stage items,
             inputs, teams, players and rankings.

  Deleting follows the foreign keys of `schema.py`: a stage item takes its rounds, matches and
  inputs with it and is forgotten by the inputs it fills, a ranking takes its stage items, a team
  or a player its memberships. An input that a match still names, and a team that an input still
  names, cannot be deleted: the statement fails with an IntegrityError.
-/
import Brackets.Loads
import Brackets.Statements

namespace Brackets

open Library

/-- An IntegrityError of an expected constraint, as `check_unique_constraint_violation` and
    `check_foreign_key_violation` report it. -/
def checkViolation {α : Type} (x : Outcome α) (detail : String) : Outcome α :=
  match x with
  | .error (.crash .integrityError) => .error (badRequest detail)
  | x => x

theorem checkViolation_ok {α : Type} {x : Outcome α} {detail : String} {a : α}
    (h : checkViolation x detail = .ok a) : x = .ok a := by
  unfold checkViolation at h
  split at h
  · cases h
  · exact h

/-! ## 1. Stages -/

structure StageUpdateBody where
  name : String
  customDurationMinutes : Option Int := none
  duration_ge : ∀ n ∈ customDurationMinutes, 1 ≤ n := by decide

def sqlCreateStage (db : Database) (tid : TournamentId) : Database :=
  { db with stages := db.stages.insert (fun k => ⟨k, "Stage", tid, false, none⟩) fun _ => rfl }

/-- The statement of `update_stage`. -/
def sqlUpdateStage (db : Database) (tid : TournamentId) (k : StageId) (body : StageUpdateBody) :
    Database :=
  { db with
    stages := db.stages.update (fun s => s.id == k && s.tournamentId == tid)
      (fun s => { s with name := body.name, customDurationMinutes := body.customDurationMinutes })
      fun _ => rfl }

/-! ## 2. Stage items -/

structure StageItemCreateBody where
  stageId : StageId
  name : Option String := none
  type : StageType
  teamCount : Nat
  rankingId : Option RankingId := none
  teamCount_range : 2 ≤ teamCount ∧ teamCount ≤ 64 := by decide

/-- `str(self.type.value).replace("_", " ").title()` -/
def StageType.title : StageType → String
  | .roundRobin => "Round Robin"
  | .singleElimination => "Single Elimination"
  | .swiss => "Swiss"

def getAllRankingsInTournament (db : Database) (tid : TournamentId) : List RankingRow :=
  (db.rankings.rows.filter (·.tournamentId == tid)).insertionSort (·.position ≤ ·.position)

def getDefaultRankingsInTournament (db : Database) (tid : TournamentId) : Outcome RankingRow :=
  orRaise (getAllRankingsInTournament db tid).head? (.crash .assertionError)

/-- The ranking of the body, or the default one. -/
def rankingIdOf (db : Database) (tid : TournamentId) (body : StageItemCreateBody) :
    Outcome RankingId :=
  match body.rankingId.filter (· ≠ 0) with
  | some k => .ok k
  | none => do
    let ranking ← getDefaultRankingsInTournament db tid
    .ok ranking.id

/-- The row of a new stage item. -/
def StageItemCreateBody.row (body : StageItemCreateBody) (rankingId : RankingId)
    (k : StageItemId) : StageItemRow :=
  ⟨k, body.name.getD body.type.title, body.stageId, body.teamCount, rankingId, body.type⟩

theorem StageItemCreateBody.key_row (body : StageItemCreateBody) (rankingId : RankingId)
    (k : StageItemId) : key (body.row rankingId k) = k := rfl

/-- The new stage item and the database with it. -/
def sqlCreateStageItem (db : Database) (tid : TournamentId) (body : StageItemCreateBody) :
    Outcome (StageItemRow × Database) := do
  let rankingId ← rankingIdOf db tid body
  .ok (body.row rankingId db.stageItems.next,
    { db with stageItems := db.stageItems.insert (body.row rankingId) (body.key_row rankingId) })

/-- `sql_create_stage_item_input`, for an input without team and source. -/
def sqlCreateEmptyInput (tid : TournamentId) (k : StageItemId) (db : Database) (slot : Int) :
    Database :=
  { db with
    stageItemInputs := db.stageItemInputs.insert
      (fun id => ⟨id, slot, tid, k, none, none, none, 0, 0, 0, 0⟩) fun _ => rfl }

def sqlCreateStageItemWithEmptyInputs (db : Database) (tid : TournamentId)
    (body : StageItemCreateBody) : Outcome (StageItemRow × Database) := do
  let (row, db) ← sqlCreateStageItem db tid body
  .ok (row, (List.range body.teamCount).foldl
    (fun db (i : Nat) => sqlCreateEmptyInput tid row.id db (i + 1)) db)

theorem sqlCreateStageItem_ok {db : Database} {tid : TournamentId} {body : StageItemCreateBody}
    {new : StageItemRow × Database} (h : sqlCreateStageItemWithEmptyInputs db tid body = .ok new) :
    ∃ rankingId, rankingIdOf db tid body = .ok rankingId ∧
      new = (body.row rankingId db.stageItems.next, (List.range body.teamCount).foldl
        (fun d (i : Nat) => sqlCreateEmptyInput tid db.stageItems.next d (i + 1))
        { db with
          stageItems := db.stageItems.insert (body.row rankingId) (body.key_row rankingId) }) := by
  obtain ⟨item, hitem, h⟩ := bind_eq_ok.mp h
  obtain ⟨rankingId, hranking, hitem⟩ := bind_eq_ok.mp hitem
  cases hitem
  cases h
  exact ⟨rankingId, hranking, rfl⟩

/-- `sql_update_stage_item_name` -/
def sqlUpdateStageItemName (db : Database) (k : StageItemId) (name : String) : Database :=
  { db with
    stageItems := db.stageItems.update (fun i => i.id == k) (fun i => { i with name := name })
      fun _ => rfl }

/-! ## 3. Deleting stage items, stages and rankings -/

/-- A side of the match is the input. -/
def MatchRow.names (m : MatchRow) (i : StageItemInputId) : Bool :=
  m.stageItemInput1Id == some i || m.stageItemInput2Id == some i

/-- DELETE FROM stage_item_inputs; no match may still name one of them. -/
def deleteInputs (db : Database) (p : StageItemInputRow → Bool) : Outcome Database :=
  if (db.stageItemInputs.rows.filter p).all fun i => db.matches_.rows.all fun m => !m.names i.id then
    .ok { db with stageItemInputs := db.stageItemInputs.delete p }
  else .error (.crash .integrityError)

def sqlDeleteStageItemInputs (db : Database) (k : StageItemId) : Outcome Database :=
  deleteInputs db fun i => i.stageItemId == k || i.winnerFromStageItemId == some k

def sqlDeleteMatchesForStageItemId (db : Database) (k : StageItemId) : Database :=
  deleteMatches db fun m => (db.rounds.find? m.roundId).any (·.stageItemId == k)

/-- DELETE FROM rounds; their matches go with them. -/
def deleteRounds (db : Database) (p : RoundRow → Bool) : Database :=
  let db' := deleteMatches db fun m => (db.rounds.find? m.roundId).any p
  { db' with rounds := db.rounds.delete p }

def sqlDeleteRoundsForStageItemId (db : Database) (k : StageItemId) : Database :=
  deleteRounds db (·.stageItemId == k)

/-- `ON DELETE SET NULL`: the inputs forget deleted stage items. -/
def forgetStageItems (db : Database) (ids : List StageItemId) : Database :=
  { db with
    stageItemInputs := db.stageItemInputs.update
      (fun i => i.winnerFromStageItemId.any ids.contains)
      (fun i => { i with winnerFromStageItemId := none })
      fun _ => rfl }

/-- DELETE FROM stage_items; their rounds, matches and inputs go with them. -/
def deleteStageItems (db : Database) (p : StageItemRow → Bool) : Outcome Database := do
  let ids := (db.stageItems.rows.filter p).map (·.id)
  let db := deleteRounds db fun r => ids.contains r.stageItemId
  let db ← deleteInputs db fun i => ids.contains i.stageItemId
  .ok (forgetStageItems { db with stageItems := db.stageItems.delete p } ids)

def sqlDeleteStageItem (db : Database) (k : StageItemId) : Outcome Database :=
  deleteStageItems db (·.id == k)

def sqlDeleteStageItemWithForeignKeys (db : Database) (k : StageItemId) : Outcome Database := do
  let db := sqlDeleteMatchesForStageItemId db k
  let db ← sqlDeleteStageItemInputs db k
  let db := sqlDeleteRoundsForStageItemId db k
  sqlDeleteStageItem db k

/-- `sql_delete_stage_item_relations` -/
def sqlDeleteStageItemRelations (db : Database) (k : StageItemId) : Outcome Database :=
  sqlDeleteStageItemInputs (sqlDeleteRoundsForStageItemId db k) k

/-- DELETE FROM stages; their stage items go with them. -/
def deleteStages (db : Database) (p : StageRow → Bool) : Outcome Database := do
  let ids := (db.stages.rows.filter p).map (·.id)
  let db ← deleteStageItems db fun i => ids.contains i.stageId
  .ok { db with stages := db.stages.delete p }

def sqlDeleteStage (db : Database) (tid : TournamentId) (k : StageId) : Outcome Database := do
  let db ← deleteStageItems db (·.stageId == k)
  deleteStages db fun s => s.id == k && s.tournamentId == tid

structure RankingCreateBody where
  winPoints : Rat := 1
  drawPoints : Rat := 1 / 2
  lossPoints : Rat := 0
  addScorePoints : Bool := false

def sqlCreateRanking (db : Database) (tid : TournamentId) (body : RankingCreateBody)
    (position : Int) : Database :=
  { db with
    rankings := db.rankings.insert (fun k => ⟨k, tid, position, body.winPoints, body.drawPoints,
      body.lossPoints, body.addScorePoints⟩) fun _ => rfl }

/-- DELETE FROM rankings; the stage items that use them go with them. -/
def deleteRankings (db : Database) (p : RankingRow → Bool) : Outcome Database := do
  let ids := (db.rankings.rows.filter p).map (·.id)
  let db ← deleteStageItems db fun i => ids.contains i.rankingId
  .ok { db with rankings := db.rankings.delete p }

def sqlDeleteRanking (db : Database) (tid : TournamentId) (k : RankingId) : Outcome Database :=
  deleteRankings db fun r => r.id == k && r.tournamentId == tid

/-! ## 4. Teams and players -/

/-- The id of the new team and the database with it. -/
def insertTeam (db : Database) (tid : TournamentId) (name : String) (active : Bool) :
    TeamId × Database :=
  (db.teams.next,
    { db with teams := db.teams.insert (fun k => ⟨k, name, tid, active, none⟩) fun _ => rfl })

/-- DELETE FROM teams; no input may still name one of them, and their memberships go with them. -/
def deleteTeams (db : Database) (p : TeamRow → Bool) : Outcome Database :=
  let ids := (db.teams.rows.filter p).map (·.id)
  if db.stageItemInputs.rows.all fun i => !i.teamId.any ids.contains then
    .ok { db with
      teams := db.teams.delete p
      playersXTeams := db.playersXTeams.delete fun x => ids.contains x.teamId }
  else .error (.crash .integrityError)

theorem deleteTeams_ok {db db' : Database} {p : TeamRow → Bool} (h : deleteTeams db p = .ok db') :
    (∀ i ∈ db.stageItemInputs.rows,
      i.teamId.any ((db.teams.rows.filter p).map (·.id)).contains = false) ∧
    db' = { db with
      teams := db.teams.delete p
      playersXTeams := db.playersXTeams.delete fun x =>
        ((db.teams.rows.filter p).map (·.id)).contains x.teamId } := by
  unfold deleteTeams at h
  dsimp only at h
  split at h
  · next hfree =>
    exact ⟨fun i hi => (Bool.not_eq_true' _).mp (List.all_eq_true.mp hfree i hi),
      (Except.ok.inj h).symm⟩
  · cases h

def sqlDeleteTeam (db : Database) (tid : TournamentId) (k : TeamId) : Outcome Database :=
  deleteTeams db fun t => t.id == k && t.tournamentId == tid

structure PlayerBody where
  name : String
  active : Bool

/-- The id of the new player and the database with it. -/
def insertPlayer (db : Database) (now : DateTime) (body : PlayerBody) (tid : TournamentId) :
    PlayerId × Database :=
  (db.players.next,
    { db with
      players := db.players.insert (fun k => ⟨k, body.name, now, tid, body.active⟩) fun _ => rfl })

/-- The statement of `update_player_by_id`. -/
def sqlUpdatePlayer (db : Database) (tid : TournamentId) (k : PlayerId) (body : PlayerBody) :
    Database :=
  { db with
    players := db.players.update (fun p => p.id == k && p.tournamentId == tid)
      (fun p => { p with name := body.name, active := body.active })
      fun _ => rfl }

/-- DELETE FROM players; their memberships go with them. -/
def deletePlayers (db : Database) (p : PlayerRow → Bool) : Database :=
  let ids := (db.players.rows.filter p).map (·.id)
  { db with
    players := db.players.delete p
    playersXTeams := db.playersXTeams.delete fun x => ids.contains x.playerId }

def sqlDeletePlayer (db : Database) (tid : TournamentId) (k : PlayerId) : Database :=
  deletePlayers db fun p => p.id == k && p.tournamentId == tid

/-- The insert of `players_x_teams`. -/
def insertMember (db : Database) (teamId : TeamId) (playerId : PlayerId) : Database :=
  { db with
    playersXTeams := db.playersXTeams.insert (fun k => ⟨k, playerId, teamId⟩) fun _ => rfl }

/-! ## 5. Tournaments -/

structure TournamentUpdateBody where
  startTime : DateTime
  dashboardPublic : Bool
  dashboardEndpoint : Option String := none
  durationMinutes : Int
  marginMinutes : Int
  duration_ge : 1 ≤ durationMinutes := by decide
  margin_ge : 0 ≤ marginMinutes := by decide

structure TournamentBody extends TournamentUpdateBody where
  clubId : ClubId

/-- The row of a tournament with new settings. -/
def TournamentUpdateBody.write (body : TournamentUpdateBody) (t : TournamentRow) : TournamentRow :=
  { t with
    startTime := body.startTime
    dashboardPublic := body.dashboardPublic
    dashboardEndpoint := body.dashboardEndpoint
    durationMinutes := body.durationMinutes
    marginMinutes := body.marginMinutes }

theorem TournamentUpdateBody.key_write (body : TournamentUpdateBody) (t : TournamentRow) :
    key (body.write t) = key t := rfl

/-- The row of a new tournament. -/
def TournamentBody.row (body : TournamentBody) (k : TournamentId) : TournamentRow :=
  ⟨k, body.startTime, body.durationMinutes, body.marginMinutes, .opened, body.dashboardPublic,
    body.dashboardEndpoint, body.clubId, none⟩

theorem TournamentBody.key_row (body : TournamentBody) (k : TournamentId) :
    key (body.row k) = k := rfl

/-- The unique constraint on the dashboard endpoints. -/
def endpointsUnique (db : Database) : Outcome Database :=
  if noTwoAgree (·.dashboardEndpoint) db.tournaments.rows then .ok db
  else .error (.crash .integrityError)

theorem endpointsUnique_ok {db db' : Database} (h : endpointsUnique db = .ok db') :
    db' = db ∧ noTwoAgree (·.dashboardEndpoint) db.tournaments.rows = true := by
  unfold endpointsUnique at h
  split at h
  · next hunique => exact ⟨(Except.ok.inj h).symm, hunique⟩
  · cases h

def sqlUpdateTournament (db : Database) (tid : TournamentId) (body : TournamentUpdateBody) :
    Outcome Database :=
  endpointsUnique { db with
    tournaments := db.tournaments.update (fun t => t.id == tid) body.write body.key_write }

def sqlUpdateTournamentStatus (db : Database) (tid : TournamentId) (status : TournamentStatus) :
    Database :=
  { db with
    tournaments := db.tournaments.update (fun t => t.id == tid)
      (fun t => { t with status := status }) fun _ => rfl }

/-- The id of the new tournament and the database with it. -/
def sqlCreateTournament (db : Database) (body : TournamentBody) :
    Outcome (TournamentId × Database) := do
  let db' ← endpointsUnique { db with
    tournaments := db.tournaments.insert body.row body.key_row }
  .ok (db.tournaments.next, db')

/-- DELETE FROM tournaments; what is stored under the tournament goes with it. -/
def sqlDeleteTournament (db : Database) (tid : TournamentId) : Outcome Database := do
  let db ← deleteStages db (·.tournamentId == tid)
  let db ← deleteInputs db (·.tournamentId == tid)
  let db ← deleteRankings db (·.tournamentId == tid)
  let db := deletePlayers db (·.tournamentId == tid)
  let db ← deleteTeams db (·.tournamentId == tid)
  .ok { db with tournaments := db.tournaments.delete fun t => t.id == tid }

/-- `sql_delete_tournament_completely` -/
def sqlDeleteTournamentCompletely (db : Database) (tid : TournamentId) : Outcome Database := do
  let _ ← sqlGetTournament db tid
  let stages ← getFullTournamentDetails db tid {}
  let items := stages.flatMap (·.stageItems)
  let db := items.foldl (fun db item => sqlDeleteMatchesForStageItemId db item.id) db
  let db ← items.foldlM (fun db item => sqlDeleteStageItemRelations db item.id) db
  let db ← stages.foldlM (fun db stage => do
    let db ← stage.stageItems.foldlM (fun db item => sqlDeleteStageItem db item.id) db
    sqlDeleteStage db tid stage.id) db
  let db ← (getAllRankingsInTournament db tid).foldlM (fun db r => sqlDeleteRanking db tid r.id) db
  let db := deletePlayers db (·.tournamentId == tid)
  let db ← deleteTeams db (·.tournamentId == tid)
  sqlDeleteTournament db tid

/-! ### What an accepted deletion of a tournament did -/

/-- The statements of an accepted `DELETE FROM tournaments`, with what goes with it. -/
structure TournamentDeletion (db : Database) (tid : TournamentId) (db' : Database) where
  unstaged : Database
  unfilled : Database
  unranked : Database
  unteamed : Database
  stages : deleteStages db (·.tournamentId == tid) = .ok unstaged
  inputs : deleteInputs unstaged (·.tournamentId == tid) = .ok unfilled
  rankings : deleteRankings unfilled (·.tournamentId == tid) = .ok unranked
  teams : deleteTeams (deletePlayers unranked (·.tournamentId == tid)) (·.tournamentId == tid) =
    .ok unteamed
  deleted : db' = { unteamed with tournaments := unteamed.tournaments.delete fun t => t.id == tid }

theorem sqlDeleteTournament_steps {db db' : Database} {tid : TournamentId}
    (h : sqlDeleteTournament db tid = .ok db') : Nonempty (TournamentDeletion db tid db') := by
  obtain ⟨db1, h1, h⟩ := bind_eq_ok.mp h
  obtain ⟨db2, h2, h⟩ := bind_eq_ok.mp h
  obtain ⟨db3, h3, h⟩ := bind_eq_ok.mp h
  obtain ⟨db4, h4, h⟩ := bind_eq_ok.mp h
  exact ⟨⟨db1, db2, db3, db4, h1, h2, h3, h4, (Except.ok.inj h).symm⟩⟩

/-- The stages of an accepted `sql_delete_tournament_completely`. -/
structure CompleteDeletion (db : Database) (tid : TournamentId) (db' : Database) where
  unrelated : Database
  unstaged : Database
  unranked : Database
  unteamed : Database
  relations : ((fullTournamentDetails db tid {}).flatMap (·.stageItems)).foldlM
    (fun db (item : StageItemWithRounds) => sqlDeleteStageItemRelations db item.id)
    (((fullTournamentDetails db tid {}).flatMap (·.stageItems)).foldl
      (fun db (item : StageItemWithRounds) => sqlDeleteMatchesForStageItemId db item.id) db) =
    .ok unrelated
  stages : (fullTournamentDetails db tid {}).foldlM (fun db (stage : StageWithStageItems) => do
    let db ← stage.stageItems.foldlM
      (fun db (item : StageItemWithRounds) => sqlDeleteStageItem db item.id) db
    sqlDeleteStage db tid stage.id) unrelated = .ok unstaged
  rankings : (getAllRankingsInTournament unstaged tid).foldlM
    (fun db (r : RankingRow) => sqlDeleteRanking db tid r.id) unstaged = .ok unranked
  teams : deleteTeams (deletePlayers unranked (·.tournamentId == tid)) (·.tournamentId == tid) =
    .ok unteamed
  tournament : sqlDeleteTournament unteamed tid = .ok db'

theorem sqlDeleteTournamentCompletely_steps {db db' : Database} {tid : TournamentId}
    (h : sqlDeleteTournamentCompletely db tid = .ok db') :
    Nonempty (CompleteDeletion db tid db') := by
  obtain ⟨_, -, h⟩ := bind_eq_ok.mp h
  obtain ⟨stages, hstages, h⟩ := bind_eq_ok.mp h
  obtain rfl := getFullTournamentDetails_ok hstages
  obtain ⟨db2, h2, h⟩ := bind_eq_ok.mp h
  obtain ⟨db3, h3, h⟩ := bind_eq_ok.mp h
  obtain ⟨db4, h4, h⟩ := bind_eq_ok.mp h
  obtain ⟨db5, h5, h⟩ := bind_eq_ok.mp h
  exact ⟨⟨db2, db3, db4, db5, h2, h3, h4, h5, h⟩⟩

end Brackets
