/-
  File:      Brackets/Details.lean
  Subject:   What the program loads: stages, stage items, rounds, matches and inputs, joined.

  `getFullTournamentDetails` is the one query every endpoint reads the tournament with. The
  loaded objects are the rows together with what is joined to them:

  * an input with its team (`inputsWithTeams`, limited to the requested stage items);
  * a match with the inputs of its two sides, or `none` where the query has no such input;
  * a round with its matches in id order, a stage item with its rounds in id order and its
    inputs in slot order, a stage with its stage items by name.

  Pydantic refuses an input row that is none of the three kinds of `StageItemInput`
  (`StageItemInput.valid`); such a row fails the whole load. `getStageItem_eq_ok` and
  `getRoundById_eq_ok` say what the two narrow loads return in terms of rows.
-/
import Brackets.Schema

namespace Brackets

open Library

/-! ## 1. Loaded objects -/

/-- A slot with its team joined. -/
structure StageItemInput extends StageItemInputRow where
  team : Option TeamRow
  deriving DecidableEq, Repr

namespace StageItemInput

/-- `isinstance(input_, StageItemInputFinal)`. -/
def isFinal (i : StageItemInput) : Bool := i.teamId.isSome

/-- `isinstance(input_, StageItemInputEmpty)`. -/
def isEmpty (i : StageItemInput) : Bool := i.teamId.isNone && i.winnerFromStageItemId.isNone

/-- The row is one of the three kinds of the union, so pydantic accepts it. -/
def valid (i : StageItemInput) : Bool :=
  match i.teamId with
  | some _ => i.team.isSome
  | none =>
    match i.winnerFromStageItemId, i.winnerPosition with
    | none, none => true
    | some _, some p => decide (1 ≤ p)
    | _, _ => false

end StageItemInput

/-- A match with the inputs of its sides joined. -/
structure Match extends MatchRow where
  stageItemInput1 : Option StageItemInput
  stageItemInput2 : Option StageItemInput
  deriving DecidableEq, Repr

namespace Match

/-- `stage_item_input1` / `stage_item_input2`. -/
def input (m : Match) : Side → Option StageItemInput
  | .one => m.stageItemInput1
  | .two => m.stageItemInput2

/-- `isinstance(match, MatchWithDetailsDefinitive)`. -/
def isDefinitive (m : Match) : Bool := m.stageItemInput1.isSome && m.stageItemInput2.isSome

def getWinner (m : Match) : Option StageItemInput :=
  if m.stageItemInput1Score > m.stageItemInput2Score then m.stageItemInput1
  else if m.stageItemInput1Score < m.stageItemInput2Score then m.stageItemInput2
  else none

def valid (m : Match) : Bool :=
  m.stageItemInput1.all (·.valid) && m.stageItemInput2.all (·.valid)

end Match

structure RoundWithMatches extends RoundRow where
  matches_ : List Match
  deriving DecidableEq, Repr

structure StageItemWithRounds extends StageItemRow where
  rounds : List RoundWithMatches
  inputs : List StageItemInput
  deriving DecidableEq, Repr

def StageItemWithRounds.valid (item : StageItemWithRounds) : Bool :=
  item.inputs.all (·.valid) && item.rounds.all fun r => r.matches_.all (·.valid)

structure StageWithStageItems extends StageRow where
  stageItems : List StageItemWithRounds
  deriving DecidableEq, Repr

def StageWithStageItems.valid (stage : StageWithStageItems) : Bool := stage.stageItems.all (·.valid)

/-! ## 2. The query -/

/-- The optional arguments of `get_full_tournament_details`. -/
structure DetailsFilter where
  roundId : Option RoundId := none
  stageId : Option StageId := none
  stageItemIds : Option (List StageItemId) := none
  noDraftRounds : Bool := false

namespace DetailsFilter

/-- `draft_filter` and `round_filter`. -/
def round (f : DetailsFilter) (r : RoundRow) : Bool :=
  (!f.noDraftRounds || !r.isDraft) && f.roundId.all (· == r.id)

/-- `stage_filter`. -/
def stage (f : DetailsFilter) (s : StageRow) : Bool := f.stageId.all (· == s.id)

/-- `stage_item_filter`. -/
def stageItem (f : DetailsFilter) (k : StageItemId) : Bool := f.stageItemIds.all (·.contains k)

end DetailsFilter

/-- The tournament a stage item belongs to through its stage. -/
def Database.stageItemTournament (db : Database) (k : StageItemId) : Option TournamentId :=
  (db.stageItems.find? k).bind fun item => (db.stages.find? item.stageId).map (·.tournamentId)

/-- An input row with its team. -/
def withTeam (db : Database) (i : StageItemInputRow) : StageItemInput :=
  { i with team := i.teamId.bind db.teams.find? }

/-- `inputs_with_teams`. -/
def inputsWithTeams (db : Database) (tid : TournamentId) (f : DetailsFilter) :
    List StageItemInput :=
  (db.stageItemInputs.rows.filter fun i =>
    db.stageItemTournament i.stageItemId == some tid && f.stageItem i.stageItemId).map (withTeam db)

/-- A row of `matches_with_inputs`. -/
def matchWithInputs (inputs : List StageItemInput) (m : MatchRow) : Match :=
  { m with
    stageItemInput1 := m.stageItemInput1Id.bind fun k => inputs.find? fun i => i.id == k
    stageItemInput2 := m.stageItemInput2Id.bind fun k => inputs.find? fun i => i.id == k }

/-- A row of `rounds_with_matches`. -/
def roundWithMatches (db : Database) (inputs : List StageItemInput) (r : RoundRow) :
    RoundWithMatches :=
  { r with matches_ := (db.matches_.rows.filter (·.roundId == r.id)).map (matchWithInputs inputs) }

/-- A row of `stage_items_with_rounds_and_inputs`. -/
def stageItemWithRounds (db : Database) (tid : TournamentId) (f : DetailsFilter)
    (item : StageItemRow) : StageItemWithRounds :=
  { item with
    rounds := (db.rounds.rows.filter fun r => r.stageItemId == item.id && f.round r).map
      (roundWithMatches db (inputsWithTeams db tid f))
    inputs := ((inputsWithTeams db tid f).filter fun i =>
      i.stageItemId == item.id && i.tournamentId == tid).insertionSort (·.slot ≤ ·.slot) }

/-- `ORDER BY r.name, r.id`. -/
def nameLe (a b : StageItemRow) : Prop := a.name < b.name ∨ a.name = b.name ∧ a.id ≤ b.id

instance : DecidableRel nameLe := fun a b =>
  inferInstanceAs (Decidable (a.name < b.name ∨ a.name = b.name ∧ a.id ≤ b.id))

def stageWithStageItems (db : Database) (tid : TournamentId) (f : DetailsFilter) (s : StageRow) :
    StageWithStageItems :=
  { s with
    stageItems := ((db.stageItems.rows.filter fun k =>
      k.stageId == s.id && f.stageItem k.id).insertionSort nameLe).map
        (stageItemWithRounds db tid f) }

/-- The stages the query selects, before pydantic has seen them. -/
def fullTournamentDetails (db : Database) (tid : TournamentId) (f : DetailsFilter) :
    List StageWithStageItems :=
  (db.stages.rows.filter fun s => s.tournamentId == tid && f.stage s &&
    (f.stageItemIds.isNone || db.stageItems.rows.any fun k =>
      k.stageId == s.id && f.stageItem k.id)).map (stageWithStageItems db tid f)

def getFullTournamentDetails (db : Database) (tid : TournamentId) (f : DetailsFilter) :
    Outcome (List StageWithStageItems) :=
  if (fullTournamentDetails db tid f).all (·.valid) then .ok (fullTournamentDetails db tid f)
  else .error (.crash .validationError)

def getStageItem (db : Database) (tid : TournamentId) (k : StageItemId) :
    Outcome StageItemWithRounds := do
  let stages ← getFullTournamentDetails db tid { stageItemIds := some [k] }
  orRaise (stages.head?.bind fun s => s.stageItems.head?) (badRequest "Stage item doesn't exist")

def getRoundById (db : Database) (tid : TournamentId) (k : RoundId) :
    Outcome RoundWithMatches := do
  let stages ← getFullTournamentDetails db tid { roundId := some k }
  orRaise (stages.flatMap fun s => s.stageItems.flatMap (·.rounds)).head? (.crash .valueError)

def sqlGetTournament (db : Database) (tid : TournamentId) : Outcome TournamentRow :=
  orRaise (db.tournaments.find? tid) (.crash .noResultFound)

/-- `disallow_archived_tournament`. -/
def disallowArchivedTournament (db : Database) (tid : TournamentId) : Outcome TournamentRow := do
  let tournament ← sqlGetTournament db tid
  if tournament.status = .archived then .error (badRequest "Can't update archived tournament")
  else .ok tournament

/-- `match_dependency`. -/
def matchDependency (db : Database) (tid : TournamentId) (k : MatchId) : Outcome MatchRow :=
  orRaise
    ((db.matches_.find? k).filter fun m =>
      ((db.rounds.find? m.roundId).bind fun r => db.stageItemTournament r.stageItemId) == some tid)
    (notFound ("Could not find match with id " ++ toString k))

/-- `round_dependency`. -/
def roundDependency (db : Database) (tid : TournamentId) (k : RoundId) : Outcome RoundRow :=
  orRaise
    ((db.rounds.find? k).filter fun r => db.stageItemTournament r.stageItemId == some tid)
    (notFound ("Could not find round with id " ++ toString k))

/-- `ranking_dependency`. -/
def rankingDependency (db : Database) (tid : TournamentId) (k : RankingId) : Outcome RankingRow :=
  orRaise ((db.rankings.find? k).filter (·.tournamentId == tid))
    (notFound ("Could not find ranking with id " ++ toString k))

/-- `get_ranking_for_stage_item`. -/
def getRankingForStageItem (db : Database) (tid : TournamentId) (k : StageItemId) :
    Option RankingRow :=
  ((db.stageItems.find? k).bind fun item => db.rankings.find? item.rankingId).filter
    (·.tournamentId == tid)

/-- `get_team_by_id`. -/
def getTeamById (db : Database) (t : TeamId) (tid : TournamentId) : Option TeamRow :=
  (db.teams.find? t).filter (·.tournamentId == tid)

/-- A team with its members. -/
structure FullTeamWithPlayers extends TeamRow where
  players : List PlayerRow
  deriving DecidableEq, Repr

def FullTeamWithPlayers.playerIds (t : FullTeamWithPlayers) : List PlayerId := t.players.map (·.id)

/-- `get_teams_with_members`, without its optional arguments. No request writes the ratings and
    wins of a team, so its ORDER BY is by name. -/
def getTeamsWithMembers (db : Database) (tid : TournamentId) : List FullTeamWithPlayers :=
  ((db.teams.rows.filter (·.tournamentId == tid)).insertionSort (·.name ≤ ·.name)).map fun t =>
    { t with
      players := (db.playersXTeams.rows.filter (·.teamId == t.id)).filterMap fun x =>
        db.players.find? x.playerId }

/-- `get_stage_item_input_by_id`. The team is looked up within the tournament. -/
def getStageItemInputById (db : Database) (tid : TournamentId) (k : StageItemInputId) :
    Outcome (Option StageItemInput) :=
  match (db.stageItemInputs.find? k).filter (·.tournamentId == tid) with
  | none => .ok none
  | some row =>
    let input : StageItemInput := { row with team := row.teamId.bind (getTeamById db · tid) }
    if input.valid then .ok (some input) else .error (.crash .validationError)

end Brackets
