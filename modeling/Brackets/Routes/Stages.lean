/-
  File:      Brackets/Routes/Stages.lean
  Subject:   `routes/stages.py`: creating, changing, deleting and activating stages, and the options
             for their slots.
-/
import Brackets.Entities
import Brackets.Routes.Validation
import Brackets.Scheduling.AvailableInputs
import Brackets.Scheduling.StageActivation

namespace Brackets

open Library

/-- `direction` of `StageActivateBody`. -/
inductive Direction where
  | next
  | previous
  deriving DecidableEq, Repr

def Direction.word : Direction → String
  | .next => "next"
  | .previous => "previous"

/-- `stage_dependency` -/
def stageDependency (db : Database) (tid : TournamentId) (k : StageId) :
    Outcome StageWithStageItems := do
  let stages ← getFullTournamentDetails db tid { stageId := some k }
  orRaise stages.head? (notFound ("Could not find stage with id " ++ toString k))

def deleteStage (db : Database) (tid : TournamentId) (k : StageId) : Outcome Database := do
  let _ ← disallowArchivedTournament db tid
  let stage ← stageDependency db tid k
  require stage.stageItems.isEmpty
    (badRequest "Stage contains stage items, please delete those first")
  require (!stage.isActive || stage.stageItems.isEmpty)
    (badRequest "Stage is active, please activate another stage first")
  sqlDeleteStage db tid k

def createStage (db : Database) (tid : TournamentId) : Outcome Database := do
  let _ ← disallowArchivedTournament db tid
  let existingStages ← getFullTournamentDetails db tid {}
  checkRequirement existingStages.length regularSubscription.maxStages "stages"
  .ok (sqlCreateStage db tid)

def updateStage (db : Database) (tid : TournamentId) (k : StageId) (body : StageUpdateBody) :
    Outcome Database := do
  let _ ← disallowArchivedTournament db tid
  let stage ← stageDependency db tid k
  let db := sqlUpdateStage db tid k body
  if body.customDurationMinutes != stage.customDurationMinutes then scheduleAllMatches db tid
  else .ok db

def activateNextStage (E : ExpectedScore) (db : Database) (tid : TournamentId)
    (direction : Direction) : Outcome Database := do
  let _ ← disallowArchivedTournament db tid
  let newActiveStageId ← orRaise (getNextStageInTournament db tid (direction == .next))
    (badRequest ("There is no " ++ direction.word ++ " stage"))
  let stages ← getFullTournamentDetails db tid {}
  let db ← match direction, stages.find? (·.isActive) with
    | .next, _ => updateMatchesInActivatedStage E db tid newActiveStageId
    | .previous, some deactivatedStage => updateMatchesInDeactivatedStage db tid deactivatedStage
    | .previous, none => .ok db
  .ok (sqlActivateNextStage db newActiveStageId tid)

/-- What the slots of each stage can be filled with. -/
def getAvailableInputs (db : Database) (tid : TournamentId) :
    Outcome (Dict StageId (List StageItemInputOption)) := do
  let stages ← getFullTournamentDetails db tid {}
  .ok (determineAvailableInputs (getTeamsWithMembers db tid) stages)

/-- Who would enter the next stage now. -/
def getNextStageRankings (E : ExpectedScore) (db : Database) (tid : TournamentId) :
    Outcome StageItemInputUpdates :=
  match getNextStageInTournament db tid true with
  | none => .ok .empty
  | some nextStageId => getUpdatesToInputsInActivatedStage E db tid nextStageId

/-! ## What an accepted request did -/

section Accepted

variable {db db' : Database} {tid : TournamentId}

/-- The row of the stage that the path names. -/
theorem stageDependency_ok {k : StageId} {stage : StageWithStageItems}
    (h : stageDependency db tid k = .ok stage) :
    ∃ s ∈ db.stages.rows, s.id = k ∧ s.tournamentId = tid ∧
      stage = stageWithStageItems db tid { stageId := some k } s := by
  obtain ⟨stages, hstages, h⟩ := bind_eq_ok.mp h
  obtain rfl := getFullTournamentDetails_ok hstages
  obtain ⟨s, hs, rfl⟩ := List.mem_map.mp (List.mem_of_head? (orRaise_eq_ok.mp h))
  rw [List.mem_filter, Bool.and_eq_true, Bool.and_eq_true, beq_iff_eq] at hs
  obtain ⟨hs, ⟨ht, hk⟩, -⟩ := hs
  have hk : k = s.id := eq_of_beq hk
  exact ⟨s, hs, hk.symm, ht, rfl⟩

theorem deleteStage_ok {k : StageId} (h : deleteStage db tid k = .ok db') :
    ∃ stage, NotArchived db tid ∧ stageDependency db tid k = .ok stage ∧ stage.stageItems = [] ∧
      sqlDeleteStage db tid k = .ok db' := by
  obtain ⟨_, hopened, h⟩ := bind_eq_ok.mp h
  obtain ⟨stage, hstage, h⟩ := bind_eq_ok.mp h
  obtain ⟨_, hempty, h⟩ := bind_eq_ok.mp h
  obtain ⟨_, -, h⟩ := bind_eq_ok.mp h
  exact ⟨stage, disallowArchived_ok hopened, hstage, List.isEmpty_iff.mp (require_eq_ok.mp hempty), h⟩

theorem createStage_ok (h : createStage db tid = .ok db') :
    NotArchived db tid ∧
      (fullTournamentDetails db tid {}).length + 1 ≤ regularSubscription.maxStages ∧
      db' = sqlCreateStage db tid := by
  obtain ⟨_, hopened, h⟩ := bind_eq_ok.mp h
  obtain ⟨stages, hstages, h⟩ := bind_eq_ok.mp h
  obtain rfl := getFullTournamentDetails_ok hstages
  obtain ⟨_, hroom, h⟩ := bind_eq_ok.mp h
  exact ⟨disallowArchived_ok hopened, checkRequirement_ok hroom, (Except.ok.inj h).symm⟩

/-- The matches are planned again if the duration is new. -/
theorem updateStage_ok {k : StageId} {body : StageUpdateBody}
    (h : updateStage db tid k body = .ok db') :
    ∃ stage, NotArchived db tid ∧ stageDependency db tid k = .ok stage ∧
      (body.customDurationMinutes = stage.customDurationMinutes ∧
          db' = sqlUpdateStage db tid k body ∨
        scheduleAllMatches (sqlUpdateStage db tid k body) tid = .ok db') := by
  obtain ⟨_, hopened, h⟩ := bind_eq_ok.mp h
  obtain ⟨stage, hstage, h⟩ := bind_eq_ok.mp h
  refine ⟨stage, disallowArchived_ok hopened, hstage, ?_⟩
  dsimp only at h
  split at h
  · exact .inr h
  · next hsame =>
    exact .inl ⟨bne_eq_false_iff_eq.mp (Bool.eq_false_iff.mpr hsame), (Except.ok.inj h).symm⟩

/-- What an activation writes before the stages themselves. -/
inductive ActivationWrites (E : ExpectedScore) (db : Database) (tid : TournamentId) (k : StageId) :
    Direction → Database → Prop where
  | entered {db1 : Database} (h : updateMatchesInActivatedStage E db tid k = .ok db1) :
      ActivationWrites E db tid k .next db1
  | left {stage : StageWithStageItems} {db1 : Database}
      (hactive : (fullTournamentDetails db tid {}).find? (·.isActive) = some stage)
      (h : updateMatchesInDeactivatedStage db tid stage = .ok db1) :
      ActivationWrites E db tid k .previous db1
  | nothing (hactive : (fullTournamentDetails db tid {}).find? (·.isActive) = none) :
      ActivationWrites E db tid k .previous db

theorem activateNextStage_ok {E : ExpectedScore} {direction : Direction}
    (h : activateNextStage E db tid direction = .ok db') :
    ∃ k db1, NotArchived db tid ∧ getNextStageInTournament db tid (direction == .next) = some k ∧
      ActivationWrites E db tid k direction db1 ∧ db' = sqlActivateNextStage db1 k tid := by
  obtain ⟨_, hopened, h⟩ := bind_eq_ok.mp h
  obtain ⟨k, hk, h⟩ := bind_eq_ok.mp h
  obtain ⟨stages, hstages, h⟩ := bind_eq_ok.mp h
  obtain rfl := getFullTournamentDetails_ok hstages
  suffices hwrites : ∃ db1, ActivationWrites E db tid k direction db1 ∧
      db' = sqlActivateNextStage db1 k tid by
    obtain ⟨db1, hwrites, hlast⟩ := hwrites
    exact ⟨k, db1, disallowArchived_ok hopened, orRaise_eq_ok.mp hk, hwrites, hlast⟩
  dsimp only at h
  cases direction with
  | next =>
    obtain ⟨db1, h1, h⟩ := bind_eq_ok.mp h
    exact ⟨db1, .entered h1, (Except.ok.inj h).symm⟩
  | previous =>
    cases hactive : (fullTournamentDetails db tid {}).find? (·.isActive) with
    | some stage =>
      rw [hactive] at h
      obtain ⟨db1, h1, h⟩ := bind_eq_ok.mp h
      exact ⟨db1, .left hactive h1, (Except.ok.inj h).symm⟩
    | none =>
      rw [hactive] at h
      exact ⟨db, .nothing hactive, (Except.ok.inj h).symm⟩

end Accepted

end Brackets
