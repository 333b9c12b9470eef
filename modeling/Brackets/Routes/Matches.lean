/-
  File:      Brackets/Routes/Matches.lean
  Subject:   `routes/matches.py`: creating, deleting and scoring a match.

  `updateMatchById` is the request that enters a score. In order: it stores the body, reloads
  the stage item, recalculates the cached results, replans when a custom duration changed, and
  in a single elimination stage item moves the winners on.
-/
import Brackets.Loads
import Brackets.Ranking.Elimination
import Brackets.Routes.Validation

namespace Brackets

open Library

def deleteMatch (E : ExpectedScore) (db : Database) (tid : TournamentId) (k : MatchId) :
    Outcome Database := do
  let _ ← disallowArchivedTournament db tid
  let m ← matchDependency db tid k
  let round ← getRoundById db tid m.roundId
  let item ← getStageItem db tid round.stageItemId
  require (round.isDraft && item.type == .swiss)
    (badRequest "Can only delete matches from draft rounds in Swiss stage items")
  let db := sqlDeleteMatch db m.id
  let item ← getStageItem db tid round.stageItemId
  let db ← recalculateRankingForStageItem E db tid item
  scheduleAllMatches db tid

/-- The ids of the inputs that already have a match in the round. -/
def inputIdsInRound (round : RoundWithMatches) : List StageItemInputId :=
  round.matches_.flatMap fun m => m.stageItemInput1Id.toList ++ m.stageItemInput2Id.toList

/-- The foreign keys of a `MatchCreateBodyFrontend`, in the order of its fields. -/
def MatchCreateBodyFrontend.foreignKeys (body : MatchCreateBodyFrontend) : List ForeignKeyField :=
  [.roundId body.roundId] ++ (body.stageItemInput1Id.map .stageItemInputId).toList ++
    (body.stageItemInput2Id.map .stageItemInputId).toList ++
    (body.stageItemInput1WinnerFromMatchId.map .matchId).toList ++
    (body.stageItemInput2WinnerFromMatchId.map .matchId).toList

def createMatch (db : Database) (tid : TournamentId) (body : MatchCreateBodyFrontend) :
    Outcome Database := do
  let _ ← disallowArchivedTournament db tid
  checkForeignKeysBelongToTournament db tid body.foreignKeys
  let round ← getRoundById db tid body.roundId
  let item ← getStageItem db tid round.stageItemId
  require (round.isDraft && item.type == .swiss)
    (badRequest "Can only create matches in draft rounds of Swiss stage items")
  require (body.stageItemInput1Id.isNone || body.stageItemInput1Id != body.stageItemInput2Id)
    (badRequest "A team can't play against itself")
  require (!(body.stageItemInput1Id.toList ++ body.stageItemInput2Id.toList).any
      (inputIdsInRound round).contains)
    (badRequest "One of these teams already has a match in this round")
  let tournament ← sqlGetTournament db tid
  let (_, db) := sqlCreateMatch db
    { body with
      durationMinutes := tournament.durationMinutes
      marginMinutes := tournament.marginMinutes }
  scheduleAllMatches db tid

def scheduleMatches (db : Database) (tid : TournamentId) : Outcome Database := do
  let _ ← disallowArchivedTournament db tid
  scheduleAllMatches db tid

/-- Plans again when a custom duration changed. -/
def planIfChanged (db : Database) (tid : TournamentId) (m : MatchRow) (body : MatchBody) :
    Outcome Database :=
  if body.customDurationMinutes != m.customDurationMinutes ||
      body.customMarginMinutes != m.customMarginMinutes then scheduleAllMatches db tid
  else .ok db

def updateMatchById (E : ExpectedScore) (db : Database) (tid : TournamentId) (k : MatchId)
    (body : MatchBody) : Outcome Database := do
  let _ ← disallowArchivedTournament db tid
  let m ← matchDependency db tid k
  checkForeignKeysBelongToTournament db tid [.roundId body.roundId]
  let db := sqlUpdateMatch db k body
  let round ← getRoundById db tid m.roundId
  let item ← getStageItem db tid round.stageItemId
  let db ← recalculateRankingForStageItem E db tid item
  let db ← planIfChanged db tid m body
  if item.type = .singleElimination then
    updateInputsInSubsequentEliminationRounds db round.id item (some [k])
  else .ok db

/-! ## What an accepted request did -/

section Accepted

variable {db db' : Database} {tid : TournamentId}

/-- A match that the path names is the tournament's. -/
theorem matchDependency_ok {k : MatchId} {m : MatchRow} (h : matchDependency db tid k = .ok m) :
    db.matches_.find? k = some m ∧
      ((db.rounds.find? m.roundId).bind fun r => db.stageItemTournament r.stageItemId) =
        some tid := by
  obtain ⟨hm, ht⟩ := Option.filter_eq_some_iff.mp (orRaise_eq_ok.mp h)
  exact ⟨hm, eq_of_beq ht⟩

/-- The stages of an accepted `delete_match` request. -/
structure MatchDeletion (E : ExpectedScore) (db : Database) (tid : TournamentId) (k : MatchId)
    (db' : Database) where
  row : MatchRow
  round : RoundWithMatches
  item : StageItemWithRounds
  reloadedItem : StageItemWithRounds
  recalculated : Database
  opened : NotArchived db tid
  found : matchDependency db tid k = .ok row
  ofRound : getRoundById db tid row.roundId = .ok round
  ofItem : getStageItem db tid round.stageItemId = .ok item
  inDraft : round.isDraft = true
  swiss : item.type = .swiss
  reloaded : getStageItem (sqlDeleteMatch db row.id) tid round.stageItemId = .ok reloadedItem
  recalculation : recalculateRankingForStageItem E (sqlDeleteMatch db row.id) tid reloadedItem =
    .ok recalculated
  planning : scheduleAllMatches recalculated tid = .ok db'

theorem deleteMatch_ok {E : ExpectedScore} {k : MatchId} (h : deleteMatch E db tid k = .ok db') :
    Nonempty (MatchDeletion E db tid k db') := by
  obtain ⟨_, hopened, h⟩ := bind_eq_ok.mp h
  obtain ⟨m, hm, h⟩ := bind_eq_ok.mp h
  obtain ⟨round, hround, h⟩ := bind_eq_ok.mp h
  obtain ⟨item, hitem, h⟩ := bind_eq_ok.mp h
  obtain ⟨_, hdraft, h⟩ := bind_eq_ok.mp h
  obtain ⟨reloaded, hreloaded, h⟩ := bind_eq_ok.mp h
  obtain ⟨recalculated, hrecalc, h⟩ := bind_eq_ok.mp h
  obtain ⟨hdraft, hswiss⟩ := Bool.and_eq_true _ _ |>.mp (require_eq_ok.mp hdraft)
  exact ⟨⟨m, round, item, reloaded, recalculated, disallowArchived_ok hopened, hm, hround, hitem,
    hdraft, eq_of_beq hswiss, hreloaded, hrecalc, h⟩⟩

/-- The stages of an accepted `create_match` request. -/
structure MatchCreation (db : Database) (tid : TournamentId) (body : MatchCreateBodyFrontend)
    (db' : Database) where
  round : RoundWithMatches
  item : StageItemWithRounds
  tournament : TournamentRow
  opened : NotArchived db tid
  keys : Belong db tid body.foreignKeys
  found : getRoundById db tid body.roundId = .ok round
  ofItem : getStageItem db tid round.stageItemId = .ok item
  inDraft : round.isDraft = true
  swiss : item.type = .swiss
  sidesDiffer : body.stageItemInput1Id = none ∨ body.stageItemInput1Id ≠ body.stageItemInput2Id
  unpaired : ∀ i ∈ body.stageItemInput1Id.toList ++ body.stageItemInput2Id.toList,
    i ∉ inputIdsInRound round
  ofTournament : db.tournaments.find? tid = some tournament
  planning : scheduleAllMatches (sqlCreateMatch db
    { body with
      durationMinutes := tournament.durationMinutes
      marginMinutes := tournament.marginMinutes }).2 tid = .ok db'

theorem createMatch_ok {body : MatchCreateBodyFrontend} (h : createMatch db tid body = .ok db') :
    Nonempty (MatchCreation db tid body db') := by
  obtain ⟨_, hopened, h⟩ := bind_eq_ok.mp h
  obtain ⟨_, hkeys, h⟩ := bind_eq_ok.mp h
  obtain ⟨round, hround, h⟩ := bind_eq_ok.mp h
  obtain ⟨item, hitem, h⟩ := bind_eq_ok.mp h
  obtain ⟨_, hdraft, h⟩ := bind_eq_ok.mp h
  obtain ⟨_, hsides, h⟩ := bind_eq_ok.mp h
  obtain ⟨_, hfree, h⟩ := bind_eq_ok.mp h
  obtain ⟨tournament, htournament, h⟩ := bind_eq_ok.mp h
  obtain ⟨hdraft, hswiss⟩ := Bool.and_eq_true _ _ |>.mp (require_eq_ok.mp hdraft)
  have hsides : body.stageItemInput1Id = none ∨
      body.stageItemInput1Id ≠ body.stageItemInput2Id := by
    simpa using require_eq_ok.mp hsides
  have hfree : ∀ i ∈ body.stageItemInput1Id.toList ++ body.stageItemInput2Id.toList,
      i ∉ inputIdsInRound round := by
    have hnone := (Bool.not_eq_true' _).mp (require_eq_ok.mp hfree)
    exact fun i hi hin => List.any_eq_false.mp hnone i hi (List.contains_iff_mem.mpr hin)
  exact ⟨⟨round, item, tournament, disallowArchived_ok hopened, checkForeignKeys_ok hkeys, hround,
    hitem, hdraft, eq_of_beq hswiss, hsides, hfree, orRaise_eq_ok.mp htournament, h⟩⟩

theorem scheduleMatches_ok (h : scheduleMatches db tid = .ok db') :
    NotArchived db tid ∧ scheduleAllMatches db tid = .ok db' := by
  obtain ⟨_, hopened, h⟩ := bind_eq_ok.mp h
  exact ⟨disallowArchived_ok hopened, h⟩

/-- The stages of an accepted `update_match_by_id` request. -/
structure ScoreEntry (E : ExpectedScore) (db : Database) (tid : TournamentId) (k : MatchId)
    (body : MatchBody) (db' : Database) where
  row : MatchRow
  round : RoundRow
  item : StageItemRow
  recalculated : Database
  planned : Database
  opened : NotArchived db tid
  keys : Belong db tid [.roundId body.roundId]
  own : matchDependency db tid k = .ok row
  found : db.matches_.find? k = some row
  ofRound : db.rounds.find? row.roundId = some round
  ofItem : db.stageItems.find? round.stageItemId = some item
  ofTournament : db.stageItemTournament round.stageItemId = some tid
  valid : (loadStageItem (sqlUpdateMatch db k body) tid item).valid
  recalculation : recalculateRankingForStageItem E (sqlUpdateMatch db k body) tid
    (loadStageItem (sqlUpdateMatch db k body) tid item) = .ok recalculated
  replanning : planIfChanged recalculated tid row body = .ok planned
  planning : planned.untimed = recalculated.untimed
  propagation :
    (if item.type = .singleElimination then
      updateInputsInSubsequentEliminationRounds planned round.id
        (loadStageItem (sqlUpdateMatch db k body) tid item) (some [k])
    else .ok planned) = .ok db'

/-- The stage item is loaded after the score is stored. -/
theorem ScoreEntry.loads {E : ExpectedScore} {k : MatchId} {body : MatchBody}
    (e : ScoreEntry E db tid k body db') :
    getStageItem (sqlUpdateMatch db k body) tid e.round.stageItemId =
      .ok (loadStageItem (sqlUpdateMatch db k body) tid e.item) :=
  getStageItem_eq_ok.mpr ⟨e.item, e.ofItem, e.ofTournament, rfl, e.valid⟩

/-- **An accepted score entry went through all its stages.** -/
theorem updateMatchById_ok {E : ExpectedScore} {k : MatchId} {body : MatchBody}
    (h : updateMatchById E db tid k body = .ok db') :
    Nonempty (ScoreEntry E db tid k body db') := by
  obtain ⟨_, hopened, h⟩ := bind_eq_ok.mp h
  obtain ⟨m, hm, h⟩ := bind_eq_ok.mp h
  obtain ⟨_, hkeys, h⟩ := bind_eq_ok.mp h
  obtain ⟨round, hround, h⟩ := bind_eq_ok.mp h
  obtain ⟨item, hitem, h⟩ := bind_eq_ok.mp h
  obtain ⟨recalculated, hrecalc, h⟩ := bind_eq_ok.mp h
  obtain ⟨planned, hplanned, h⟩ := bind_eq_ok.mp h
  obtain ⟨row, inputs, hrow, htour, rfl⟩ := getRoundById_ok hround
  obtain ⟨irow, hirow, -, rfl, hvalid⟩ := getStageItem_eq_ok.mp hitem
  have huntimed : planned.untimed = recalculated.untimed := by
    unfold planIfChanged at hplanned
    split at hplanned
    · exact scheduleAllMatches_untimed hplanned
    · cases hplanned
      rfl
  exact ⟨⟨m, row, irow, recalculated, planned, disallowArchived_ok hopened,
    checkForeignKeys_ok hkeys, hm, (matchDependency_ok hm).1, hrow, hirow, htour, hvalid, hrecalc,
    hplanned, huntimed, h⟩⟩

end Accepted

end Brackets
