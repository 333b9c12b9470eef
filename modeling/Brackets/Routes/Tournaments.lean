/-
  File:      Brackets/Routes/Tournaments.lean
  Subject:   `routes/tournaments.py`: creating, changing, archiving and deleting a tournament.
-/
import Brackets.Entities
import Brackets.Routes.Validation

namespace Brackets

open Library

def updateTournamentById (db : Database) (tid : TournamentId) (body : TournamentUpdateBody) :
    Outcome Database := do
  let _ ← disallowArchivedTournament db tid
  let db ← checkViolation (sqlUpdateTournament db tid body) "This Details link is already taken"
  scheduleAllMatches db tid

def deleteTournament (db : Database) (tid : TournamentId) : Outcome Database :=
  sqlDeleteTournamentCompletely db tid

/-- `filename` is the stored upload, or none to remove the logo. -/
def uploadLogo (db : Database) (tid : TournamentId) (filename : Option String) :
    Outcome Database := do
  let _ ← disallowArchivedTournament db tid
  .ok { db with
    tournaments := db.tournaments.update (fun t => t.id == tid)
      (fun t => { t with logoPath := filename }) fun _ => rfl }

def changeStatus (db : Database) (tid : TournamentId) (status : TournamentStatus) :
    Outcome Database := do
  let tournament ← sqlGetTournament db tid
  require (tournament.status != status) (badRequest "Tournament already has the requested status")
  .ok (sqlUpdateTournamentStatus db tid status)

def createTournament (db : Database) (body : TournamentBody) : Outcome Database := do
  let existingTournaments := db.tournaments.rows.filter (·.clubId == body.clubId)
  checkRequirement existingTournaments.length regularSubscription.maxTournaments "tournaments"
  let (tid, db) ← checkViolation (sqlCreateTournament db body) "This Details link is already taken"
  .ok (sqlCreateRanking db tid {} 0)

/-! ## What an accepted request did -/

section Accepted

variable {db db' : Database} {tid : TournamentId}

theorem updateTournamentById_ok {body : TournamentUpdateBody}
    (h : updateTournamentById db tid body = .ok db') :
    NotArchived db tid ∧
      noTwoAgree (·.dashboardEndpoint) (db.tournaments.update (fun t => t.id == tid) body.write
        body.key_write).rows = true ∧
      scheduleAllMatches { db with
        tournaments := db.tournaments.update (fun t => t.id == tid) body.write body.key_write } tid =
        .ok db' := by
  obtain ⟨_, hopened, h⟩ := bind_eq_ok.mp h
  obtain ⟨db1, h1, h⟩ := bind_eq_ok.mp h
  obtain ⟨rfl, hunique⟩ := endpointsUnique_ok (checkViolation_ok h1)
  exact ⟨disallowArchived_ok hopened, hunique, h⟩

theorem uploadLogo_ok {filename : Option String} (h : uploadLogo db tid filename = .ok db') :
    NotArchived db tid ∧ db' = { db with
      tournaments := db.tournaments.update (fun t => t.id == tid)
        (fun t => { t with logoPath := filename }) fun _ => rfl } := by
  obtain ⟨_, hopened, h⟩ := bind_eq_ok.mp h
  exact ⟨disallowArchived_ok hopened, (Except.ok.inj h).symm⟩

theorem changeStatus_ok {status : TournamentStatus} (h : changeStatus db tid status = .ok db') :
    (∃ t, db.tournaments.find? tid = some t ∧ t.status ≠ status) ∧
      db' = sqlUpdateTournamentStatus db tid status := by
  obtain ⟨t, ht, h⟩ := bind_eq_ok.mp h
  obtain ⟨_, hstatus, h⟩ := bind_eq_ok.mp h
  exact ⟨⟨t, orRaise_eq_ok.mp ht, bne_iff_ne.mp (require_eq_ok.mp hstatus)⟩,
    (Except.ok.inj h).symm⟩

theorem createTournament_ok {body : TournamentBody} (h : createTournament db body = .ok db') :
    (db.tournaments.rows.filter (·.clubId == body.clubId)).length + 1 ≤
        regularSubscription.maxTournaments ∧
      noTwoAgree (·.dashboardEndpoint) (db.tournaments.insert body.row body.key_row).rows = true ∧
      db' = sqlCreateRanking { db with tournaments := db.tournaments.insert body.row body.key_row }
        db.tournaments.next {} 0 := by
  obtain ⟨_, hroom, h⟩ := bind_eq_ok.mp h
  obtain ⟨new, hnew, h⟩ := bind_eq_ok.mp h
  obtain ⟨db1, h1, hnew⟩ := bind_eq_ok.mp (checkViolation_ok hnew)
  obtain ⟨rfl, hunique⟩ := endpointsUnique_ok h1
  cases hnew
  exact ⟨checkRequirement_ok hroom, hunique, (Except.ok.inj h).symm⟩

end Accepted

end Brackets
