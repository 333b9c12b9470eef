/-
  File:      Brackets/Routes/Rounds.lean
  Subject:   `routes/rounds.py`: creating, deleting and updating a round.

  `createRound` is the Swiss request. It checks (`createRoundChecks`), pairs, refuses an empty
  pairing, and stores the draft round with its matches (`draftRound`).
-/
import Brackets.Routes.Validation
import Brackets.Scheduling.Swiss

namespace Brackets

open Library

structure RoundCreateBody where
  name : Option String
  stageItemId : StageItemId

structure RoundUpdateBody where
  name : String
  isDraft : Bool

/-- `type_name.lower()` -/
def StageType.lowerName : StageType → String
  | .roundRobin => "round robin"
  | .singleElimination => "single elimination"
  | .swiss => "swiss"

def StageType.supportsDynamicNumberOfRounds : StageType → Bool
  | .swiss => true
  | _ => false

/-- `get_draft_round` -/
def getDraftRound (item : StageItemWithRounds) : Option RoundWithMatches :=
  (item.rounds.insertionSort (·.id ≤ ·.id)).find? (·.isDraft)

/-- The match that stores a pair of the draft. -/
def pairBody (tournament : TournamentRow) (roundId : RoundId)
    (pair : StageItemInput × StageItemInput) : MatchCreateBody where
  roundId := roundId
  stageItemInput1Id := some pair.1.id
  stageItemInput2Id := some pair.2.id
  durationMinutes := tournament.durationMinutes
  marginMinutes := tournament.marginMinutes

/-- The part of `create_round` before the pairing. -/
def createRoundChecks (db : Database) (tid : TournamentId) (body : RoundCreateBody) :
    Outcome (TournamentRow × StageItemWithRounds) := do
  let tournament ← disallowArchivedTournament db tid
  checkForeignKeysBelongToTournament db tid [.stageItemId body.stageItemId]
  let stages ← getFullTournamentDetails db tid {}
  let existingRounds := stages.flatMap fun s => s.stageItems.flatMap (·.rounds)
  checkRequirement existingRounds.length regularSubscription.maxRounds "rounds"
  let item ← getStageItem db tid body.stageItemId
  require item.type.supportsDynamicNumberOfRounds
    (badRequest ("Rounds of " ++ item.type.lowerName ++ " stage items are created automatically"))
  match getDraftRound item with
  | some draft => .error (badRequest ("Publish or discard the draft " ++ draft.name ++ " first"))
  | none => .ok (tournament, item)

/-- The answer when no pair is left. -/
def noPairs (pairing : SwissPairing) : Failure :=
  badRequest (if pairing.unpaired.length < 2
    then "Assign at least two active teams to this stage item first"
    else "Every team has already played every other team")

/-- The part of `create_round` after the pairing. -/
def draftRound (db : Database) (tid : TournamentId) (tournament : TournamentRow)
    (body : RoundCreateBody) (item : StageItemWithRounds) (pairing : SwissPairing) :
    Outcome Database :=
  let name := (body.name.filter (· ≠ "")).getD (getNextRoundName db tid item.id)
  let (roundId, db) := sqlCreateRound db name true item.id
  let db := pairing.pairs.foldl
    (fun db pair => (sqlCreateMatch db (pairBody tournament roundId pair)).2) db
  scheduleAllMatches db tid

def createRound (maxWeightMatching : MatchingSolver) (shuffle : Shuffle) (db : Database)
    (tid : TournamentId) (body : RoundCreateBody) : Outcome Database := do
  let (tournament, item) ← createRoundChecks db tid body
  let pairing ← getSwissPairing maxWeightMatching shuffle item
  if pairing.pairs.length < 1 then .error (noPairs pairing)
  else draftRound db tid tournament body item pairing

def deleteRound (E : ExpectedScore) (db : Database) (tid : TournamentId) (k : RoundId) :
    Outcome Database := do
  let _ ← disallowArchivedTournament db tid
  let round ← getRoundById db tid k
  let db := round.matches_.foldl (fun db m => sqlDeleteMatch db m.id) db
  let db := sqlDeleteRound db k
  let item ← getStageItem db tid round.stageItemId
  let db ← recalculateRankingForStageItem E db tid item
  scheduleAllMatches db tid

def updateRoundById (db : Database) (tid : TournamentId) (k : RoundId) (body : RoundUpdateBody) :
    Outcome Database := do
  let _ ← roundDependency db tid k
  let _ ← disallowArchivedTournament db tid
  .ok (sqlUpdateRound db tid k body.name body.isDraft)

/-! ## What an accepted request did -/

section Accepted

variable {db db' : Database} {tid : TournamentId}

/-- What the checks of `create_round` let pass. -/
structure RoundChecks (db : Database) (tid : TournamentId) (body : RoundCreateBody)
    (tournament : TournamentRow) (item : StageItemWithRounds) : Prop where
  opened : disallowArchivedTournament db tid = .ok tournament
  keys : Belong db tid [.stageItemId body.stageItemId]
  room : ((fullTournamentDetails db tid {}).flatMap fun s =>
    s.stageItems.flatMap (·.rounds)).length + 1 ≤ regularSubscription.maxRounds
  found : getStageItem db tid body.stageItemId = .ok item
  dynamic : item.type.supportsDynamicNumberOfRounds = true
  noDraft : getDraftRound item = none

theorem createRoundChecks_ok {body : RoundCreateBody} {x : TournamentRow × StageItemWithRounds}
    (h : createRoundChecks db tid body = .ok x) : RoundChecks db tid body x.1 x.2 := by
  obtain ⟨tournament, hopened, h⟩ := bind_eq_ok.mp h
  obtain ⟨_, hkeys, h⟩ := bind_eq_ok.mp h
  obtain ⟨stages, hstages, h⟩ := bind_eq_ok.mp h
  obtain rfl := getFullTournamentDetails_ok hstages
  obtain ⟨_, hroom, h⟩ := bind_eq_ok.mp h
  obtain ⟨item, hitem, h⟩ := bind_eq_ok.mp h
  obtain ⟨_, hdynamic, h⟩ := bind_eq_ok.mp h
  split at h
  · cases h
  · next hdraft =>
    cases h
    exact ⟨hopened, checkForeignKeys_ok hkeys, checkRequirement_ok hroom, hitem,
      require_eq_ok.mp hdynamic, hdraft⟩

/-- The stages of an accepted `create_round` request. -/
structure RoundCreation (maxWeightMatching : MatchingSolver) (shuffle : Shuffle) (db : Database)
    (tid : TournamentId) (body : RoundCreateBody) (db' : Database) where
  tournament : TournamentRow
  item : StageItemWithRounds
  pairing : SwissPairing
  checks : RoundChecks db tid body tournament item
  paired : getSwissPairing maxWeightMatching shuffle item = .ok pairing
  somePair : 1 ≤ pairing.pairs.length
  drafted : draftRound db tid tournament body item pairing = .ok db'

theorem createRound_ok {maxWeightMatching : MatchingSolver} {shuffle : Shuffle}
    {body : RoundCreateBody} (h : createRound maxWeightMatching shuffle db tid body = .ok db') :
    Nonempty (RoundCreation maxWeightMatching shuffle db tid body db') := by
  obtain ⟨⟨tournament, item⟩, hchecks, h⟩ := bind_eq_ok.mp h
  obtain ⟨pairing, hpairing, h⟩ := bind_eq_ok.mp h
  split at h
  · cases h
  · next hpairs =>
    exact ⟨⟨tournament, item, pairing, createRoundChecks_ok hchecks, hpairing,
      Nat.le_of_not_lt hpairs, h⟩⟩

/-- The stages of an accepted `delete_round` request. -/
structure RoundDeletion (E : ExpectedScore) (db : Database) (tid : TournamentId) (k : RoundId)
    (db' : Database) where
  round : RoundWithMatches
  item : StageItemWithRounds
  recalculated : Database
  opened : NotArchived db tid
  found : getRoundById db tid k = .ok round
  reloaded : getStageItem (sqlDeleteRound (round.matches_.foldl
    (fun db m => sqlDeleteMatch db m.id) db) k) tid round.stageItemId = .ok item
  recalculation : recalculateRankingForStageItem E (sqlDeleteRound (round.matches_.foldl
    (fun db m => sqlDeleteMatch db m.id) db) k) tid item = .ok recalculated
  planning : scheduleAllMatches recalculated tid = .ok db'

theorem deleteRound_ok {E : ExpectedScore} {k : RoundId} (h : deleteRound E db tid k = .ok db') :
    Nonempty (RoundDeletion E db tid k db') := by
  obtain ⟨_, hopened, h⟩ := bind_eq_ok.mp h
  obtain ⟨round, hround, h⟩ := bind_eq_ok.mp h
  obtain ⟨item, hitem, h⟩ := bind_eq_ok.mp h
  obtain ⟨recalculated, hrecalc, h⟩ := bind_eq_ok.mp h
  exact ⟨⟨round, item, recalculated, disallowArchived_ok hopened, hround, hitem, hrecalc, h⟩⟩

/-- A round that the path names is the tournament's. -/
theorem roundDependency_ok {k : RoundId} {r : RoundRow} (h : roundDependency db tid k = .ok r) :
    db.rounds.find? k = some r ∧ db.stageItemTournament r.stageItemId = some tid := by
  obtain ⟨hr, ht⟩ := Option.filter_eq_some_iff.mp (orRaise_eq_ok.mp h)
  exact ⟨hr, eq_of_beq ht⟩

theorem updateRoundById_ok {k : RoundId} {body : RoundUpdateBody}
    (h : updateRoundById db tid k body = .ok db') :
    NotArchived db tid ∧ (∃ round, roundDependency db tid k = .ok round) ∧
      db' = sqlUpdateRound db tid k body.name body.isDraft := by
  obtain ⟨round, hround, h⟩ := bind_eq_ok.mp h
  obtain ⟨_, hopened, h⟩ := bind_eq_ok.mp h
  exact ⟨disallowArchived_ok hopened, ⟨round, hround⟩, (Except.ok.inj h).symm⟩

end Accepted

end Brackets
