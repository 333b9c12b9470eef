/-
  File:      Brackets/Routes/StageItems.lean
  Subject:   `routes/stage_items.py` and `routes/stage_item_inputs.py`.
-/
import Brackets.Routes.Rankings
import Brackets.Scheduling.Builder

namespace Brackets

open Library

/-! ## 1. Stage items -/

def deleteStageItem (db : Database) (tid : TournamentId) (k : StageItemId) : Outcome Database := do
  let _ ← getStageItem db tid k
  let _ ← disallowArchivedTournament db tid
  let db ← checkViolation (sqlDeleteStageItemWithForeignKeys db k)
    "This team is still part of matches"
  scheduleAllMatches db tid

/-- The foreign keys of a `StageItemCreateBody`, in the order of its fields. -/
def StageItemCreateBody.foreignKeys (body : StageItemCreateBody) : List ForeignKeyField :=
  [.stageId body.stageId] ++ (body.rankingId.map .rankingId).toList

def createStageItem (E : ExpectedScore) (db : Database) (tid : TournamentId)
    (body : StageItemCreateBody) : Outcome Database := do
  let _ ← disallowArchivedTournament db tid
  checkForeignKeysBelongToTournament db tid body.foreignKeys
  let stages ← getFullTournamentDetails db tid {}
  checkRequirement (stages.flatMap (·.stageItems)).length regularSubscription.maxStageItems
    "stage_items"
  let (item, db) ← sqlCreateStageItemWithEmptyInputs db tid body
  let db ← buildMatchesForStageItem E db item tid
  scheduleAllMatches db tid

structure StageItemUpdateBody where
  name : String
  rankingId : RankingId

def updateStageItem (E : ExpectedScore) (db : Database) (tid : TournamentId) (k : StageItemId)
    (body : StageItemUpdateBody) : Outcome Database := do
  let _ ← disallowArchivedTournament db tid
  let item ← getStageItem db tid k
  let db := sqlUpdateStageItemName db item.id body.name
  let db ← recalculateRankingForStageItem E db tid item
  if item.type = .singleElimination then updateInputsInCompleteEliminationStageItem db item
  else .ok db

/-! ## 2. Inputs -/

def validateStageItemUpdate (db : Database) (inputDb : Option StageItemInput)
    (body : StageItemInputUpdateBody) (tid : TournamentId) : Outcome Unit := do
  require inputDb.isSome (notFound "Could not find the stage item input")
  match body with
  | .tentative k _ _ => do
    let stages ← getFullTournamentDetails db tid { stageItemIds := some [k] }
    require (!stages.isEmpty) (notFound ("Could not find stage item with id " ++ toString k))
  | .final t => do
    require (getTeamById db t tid).isSome (notFound ("Could not find team with id " ++ toString t))
  | .empty => .ok ()

/-- The stage item whose place the slot takes from now on. -/
def StageItemInputUpdateBody.source : StageItemInputUpdateBody → Option StageItemId
  | .tentative winnerFrom _ _ => some winnerFrom
  | .final _ => none
  | .empty => none

/-- The place. -/
def StageItemInputUpdateBody.position : StageItemInputUpdateBody → Option Int
  | .tentative _ position _ => some position
  | .final _ => none
  | .empty => none

/-- The team that gets the slot. -/
def StageItemInputUpdateBody.teamId : StageItemInputUpdateBody → Option TeamId
  | .tentative _ _ _ => none
  | .final t => some t
  | .empty => none

/-- The update of the input, with its unique constraints. -/
def storeStageItemInput (db : Database) (tid : TournamentId) (k : StageItemInputId)
    (body : StageItemInputUpdateBody) : Outcome Database := do
  let db := match body with
    | .tentative winnerFrom position _ =>
      sqlUpdateStageItemInput db tid k none (some winnerFrom) (some position)
    | .final t => sqlUpdateStageItemInput db tid k (some t) none none
    | .empty => sqlUpdateStageItemInput db tid k none none none
  require (noTwoAgree (·.teamKey) db.stageItemInputs.rows)
    (badRequest "This team is already assigned to another stage item")
  require (noTwoAgree (·.sourceKey) db.stageItemInputs.rows)
    (badRequest "This stage item winner is already assigned to another stage item")
  .ok db

def updateStageItemInput (db : Database) (tid : TournamentId) (stageItemId : StageItemId)
    (k : StageItemInputId) (body : StageItemInputUpdateBody) : Outcome Database := do
  let _ ← getStageItem db tid stageItemId
  let _ ← disallowArchivedTournament db tid
  let inputDb ← getStageItemInputById db tid k
  validateStageItemUpdate db inputDb body tid
  storeStageItemInput db tid k body

/-! ## What an accepted request did -/

section Accepted

variable {db db' : Database} {tid : TournamentId}

/-- The stages of an accepted `delete_stage_item` request. -/
structure StageItemDeletion (db : Database) (tid : TournamentId) (k : StageItemId)
    (db' : Database) where
  item : StageItemWithRounds
  deleted : Database
  opened : NotArchived db tid
  found : getStageItem db tid k = .ok item
  deletion : sqlDeleteStageItemWithForeignKeys db k = .ok deleted
  planning : scheduleAllMatches deleted tid = .ok db'

theorem deleteStageItem_ok {k : StageItemId} (h : deleteStageItem db tid k = .ok db') :
    Nonempty (StageItemDeletion db tid k db') := by
  obtain ⟨item, hitem, h⟩ := bind_eq_ok.mp h
  obtain ⟨_, hopened, h⟩ := bind_eq_ok.mp h
  obtain ⟨deleted, hdeleted, h⟩ := bind_eq_ok.mp h
  exact ⟨⟨item, deleted, disallowArchived_ok hopened, hitem, checkViolation_ok hdeleted, h⟩⟩

/-- The stages of an accepted `create_stage_item` request. -/
structure StageItemCreation (E : ExpectedScore) (db : Database) (tid : TournamentId)
    (body : StageItemCreateBody) (db' : Database) where
  new : StageItemRow × Database
  built : Database
  opened : NotArchived db tid
  keys : Belong db tid body.foreignKeys
  room : ((fullTournamentDetails db tid {}).flatMap (·.stageItems)).length + 1 ≤
    regularSubscription.maxStageItems
  created : sqlCreateStageItemWithEmptyInputs db tid body = .ok new
  building : buildMatchesForStageItem E new.2 new.1 tid = .ok built
  planning : scheduleAllMatches built tid = .ok db'

theorem createStageItem_ok {E : ExpectedScore} {body : StageItemCreateBody}
    (h : createStageItem E db tid body = .ok db') :
    Nonempty (StageItemCreation E db tid body db') := by
  obtain ⟨_, hopened, h⟩ := bind_eq_ok.mp h
  obtain ⟨_, hkeys, h⟩ := bind_eq_ok.mp h
  obtain ⟨stages, hstages, h⟩ := bind_eq_ok.mp h
  obtain rfl := getFullTournamentDetails_ok hstages
  obtain ⟨_, hroom, h⟩ := bind_eq_ok.mp h
  obtain ⟨new, hnew, h⟩ := bind_eq_ok.mp h
  obtain ⟨built, hbuilt, h⟩ := bind_eq_ok.mp h
  exact ⟨⟨new, built, disallowArchived_ok hopened, checkForeignKeys_ok hkeys,
    checkRequirement_ok hroom, hnew, hbuilt, h⟩⟩

/-- The stages of an accepted `update_stage_item` request. -/
structure StageItemUpdate (E : ExpectedScore) (db : Database) (tid : TournamentId)
    (k : StageItemId) (body : StageItemUpdateBody) (db' : Database) where
  item : StageItemWithRounds
  opened : NotArchived db tid
  found : getStageItem db tid k = .ok item
  refresh : Refresh E (sqlUpdateStageItemName db item.id body.name) tid item db'

theorem updateStageItem_ok {E : ExpectedScore} {k : StageItemId} {body : StageItemUpdateBody}
    (h : updateStageItem E db tid k body = .ok db') :
    Nonempty (StageItemUpdate E db tid k body db') := by
  obtain ⟨_, hopened, h⟩ := bind_eq_ok.mp h
  obtain ⟨item, hitem, h⟩ := bind_eq_ok.mp h
  obtain ⟨recalculated, hrecalc, h⟩ := bind_eq_ok.mp h
  exact ⟨⟨item, disallowArchived_ok hopened, hitem, ⟨recalculated, hrecalc, h⟩⟩⟩

/-- The stages of an accepted `update_stage_item_input` request. -/
structure InputUpdate (db : Database) (tid : TournamentId) (stageItemId : StageItemId)
    (k : StageItemInputId) (body : StageItemInputUpdateBody) (db' : Database) where
  item : StageItemWithRounds
  input : StageItemInput
  opened : NotArchived db tid
  found : getStageItem db tid stageItemId = .ok item
  foundInput : getStageItemInputById db tid k = .ok (some input)
  source : ∀ s, body.source = some s →
    (fullTournamentDetails db tid { stageItemIds := some [s] }).isEmpty = false
  team : ∀ t, body.teamId = some t → ∃ row, getTeamById db t tid = some row
  stored : db' = sqlUpdateStageItemInput db tid k body.teamId body.source body.position
  teamsOnce : noTwoAgree (·.teamKey) db'.stageItemInputs.rows = true
  sourcesOnce : noTwoAgree (·.sourceKey) db'.stageItemInputs.rows = true

theorem updateStageItemInput_ok {stageItemId : StageItemId} {k : StageItemInputId}
    {body : StageItemInputUpdateBody} (h : updateStageItemInput db tid stageItemId k body = .ok db') :
    Nonempty (InputUpdate db tid stageItemId k body db') := by
  obtain ⟨item, hitem, h⟩ := bind_eq_ok.mp h
  obtain ⟨_, hopened, h⟩ := bind_eq_ok.mp h
  obtain ⟨inputDb, hinput, h⟩ := bind_eq_ok.mp h
  obtain ⟨_, hvalid, h⟩ := bind_eq_ok.mp h
  obtain ⟨_, hsome, hvalid⟩ := bind_eq_ok.mp hvalid
  obtain ⟨_, hteams, h⟩ := bind_eq_ok.mp h
  obtain ⟨_, hsources, h⟩ := bind_eq_ok.mp h
  obtain ⟨input, hfound⟩ := Option.isSome_iff_exists.mp (require_eq_ok.mp hsome)
  have hinput : getStageItemInputById db tid k = .ok (some input) := hfound ▸ hinput
  cases h
  cases body with
  | tentative source position hge =>
    obtain ⟨stages, hstages, hvalid⟩ := bind_eq_ok.mp hvalid
    obtain rfl := getFullTournamentDetails_ok hstages
    refine ⟨⟨item, input, disallowArchived_ok hopened, hitem, hinput, fun s hs => ?_, nofun, rfl,
      require_eq_ok.mp hteams, require_eq_ok.mp hsources⟩⟩
    cases hs
    exact (Bool.not_eq_true' _).mp (require_eq_ok.mp hvalid)
  | final t =>
    refine ⟨⟨item, input, disallowArchived_ok hopened, hitem, hinput, nofun, fun t' ht => ?_, rfl,
      require_eq_ok.mp hteams, require_eq_ok.mp hsources⟩⟩
    cases ht
    exact Option.isSome_iff_exists.mp (require_eq_ok.mp hvalid)
  | empty =>
    exact ⟨⟨item, input, disallowArchived_ok hopened, hitem, hinput, nofun, nofun, rfl,
      require_eq_ok.mp hteams, require_eq_ok.mp hsources⟩⟩

end Accepted

end Brackets
