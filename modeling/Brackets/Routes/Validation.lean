/-
  File:      Brackets/Routes/Validation.lean
  Subject:   The checks that requests share: `sql/validation.py` and `logic/subscriptions.py`.

  A body names rows of other tables. `checkForeignKeysBelongToTournament` loads the tournament
  and refuses the first field, in the order of the body, whose row is not part of it.
-/
import Brackets.Loads
import Brackets.Statements

namespace Brackets

open Library

/-! ## 1. Foreign keys of a body -/

/-- A field of a body that names a row. -/
inductive ForeignKeyField where
  | stageId (id : StageId)
  | stageItemId (id : StageItemId)
  | stageItemInputId (id : StageItemInputId)
  | roundId (id : RoundId)
  | matchId (id : MatchId)
  | rankingId (id : RankingId)
  | playerIds (ids : List PlayerId)

namespace ForeignKeyField

/-- `check_lookup` -/
def belongs (db : Database) (tid : TournamentId) (stages : List StageWithStageItems) :
    ForeignKeyField → Bool
  | stageId id => stages.any (·.id == id)
  | stageItemId id => stages.any fun s => s.stageItems.any (·.id == id)
  | stageItemInputId id => stages.any fun s => s.stageItems.any fun i => i.inputs.any (·.id == id)
  | roundId id => stages.any fun s => s.stageItems.any fun i => i.rounds.any (·.id == id)
  | matchId id => stages.any fun s => s.stageItems.any fun i => i.rounds.any fun r =>
      r.matches_.any (·.id == id)
  | rankingId id => db.rankings.rows.any fun r => r.tournamentId == tid && r.id == id
  | playerIds ids => ids.all fun id => db.players.rows.any fun p => p.tournamentId == tid && p.id == id

/-- `raise_exception` -/
def couldNotFind : ForeignKeyField → Failure
  | stageId id => message "Stage" (toString id)
  | stageItemId id => message "StageItem" (toString id)
  | stageItemInputId id => message "StageItemInput" (toString id)
  | roundId id => message "Round" (toString id)
  | matchId id => message "Match" (toString id)
  | rankingId id => message "Ranking" (toString id)
  | playerIds ids => message "Player" ("\x7b" ++ ", ".intercalate (ids.map toString) ++ "\x7d")
where
  message (fieldName value : String) : Failure :=
    badRequest ("Could not find " ++ fieldName ++ "(s) with ID " ++ value)

end ForeignKeyField

def checkForeignKeysBelongToTournament (db : Database) (tid : TournamentId)
    (fields : List ForeignKeyField) : Outcome Unit := do
  let stages ← getFullTournamentDetails db tid {}
  fields.forM fun f => require (f.belongs db tid stages) f.couldNotFind

/-! ## 2. Subscriptions -/

structure Subscription where
  maxTeams : Nat
  maxPlayers : Nat
  maxTournaments : Nat
  maxStages : Nat
  maxStageItems : Nat
  maxRounds : Nat
  maxRankings : Nat

def regularSubscription : Subscription where
  maxTeams := 128
  maxPlayers := 256
  maxTournaments := 64
  maxStages := 16
  maxStageItems := 64
  maxRounds := 64
  maxRankings := 16

/-- `check_requirement`, for a user of the one account type. -/
def checkRequirement (existing : Nat) (constraint : Nat) (label : String) (additions : Nat := 1) :
    Outcome Unit :=
  if existing + additions > constraint then
    .error (badRequest ("Your `REGULAR` subscription allows a maximum of " ++
      toString constraint ++ " " ++ label ++ "."))
  else .ok ()

/-! ## 3. Access -/

/-- Who asks: a signed-in user with access to the tournament, or anyone else. -/
inductive Caller where
  | organizer
  | visitor
  deriving DecidableEq, Repr

def userAuthenticatedOrPublicDashboard (db : Database) (tid : TournamentId) (caller : Caller) :
    Outcome Unit :=
  match caller with
  | .organizer => .ok ()
  | .visitor => require ((db.tournaments.find? tid).any fun t => t.dashboardPublic || t.status == .opened)
      (.http 401 "Could not validate credentials or page is not publicly available")

/-! ## 4. What the checks establish -/

section Checked

variable {db : Database} {tid : TournamentId}

/-- The tournament is there, and it is not archived. -/
def NotArchived (db : Database) (tid : TournamentId) : Prop :=
  ∃ t, db.tournaments.find? tid = some t ∧ t.status ≠ .archived

theorem disallowArchived_ok {t : TournamentRow} (h : disallowArchivedTournament db tid = .ok t) :
    NotArchived db tid := by
  obtain ⟨t', ht, h⟩ := bind_eq_ok.mp h
  split at h
  · cases h
  · next hopen => exact ⟨t', orRaise_eq_ok.mp ht, hopen⟩

theorem forM_ok {α : Type} {l : List α} {f : α → Outcome Unit} {u : Unit}
    (h : l.forM f = .ok u) : ∀ a ∈ l, f a = .ok () := by
  induction l with
  | nil => exact fun a ha => absurd ha List.not_mem_nil
  | cons b l ih =>
    obtain ⟨_, hb, h⟩ := bind_eq_ok.mp h
    intro a ha
    rcases List.mem_cons.mp ha with rfl | ha
    · exact hb
    · exact ih h a ha

/-- The fields name rows of the tournament. -/
def Belong (db : Database) (tid : TournamentId) (fields : List ForeignKeyField) : Prop :=
  ∀ f ∈ fields, f.belongs db tid (fullTournamentDetails db tid {}) = true

theorem checkForeignKeys_ok {fields : List ForeignKeyField} {u : Unit}
    (h : checkForeignKeysBelongToTournament db tid fields = .ok u) : Belong db tid fields := by
  obtain ⟨stages, hstages, h⟩ := bind_eq_ok.mp h
  obtain rfl := getFullTournamentDetails_ok hstages
  exact fun f hf => require_eq_ok.mp (forM_ok h f hf)

theorem checkRequirement_ok {existing constraint additions : Nat} {label : String} {u : Unit}
    (h : checkRequirement existing constraint label additions = .ok u) :
    existing + additions ≤ constraint := by
  unfold checkRequirement at h
  split at h
  · cases h
  · omega

end Checked

end Brackets
