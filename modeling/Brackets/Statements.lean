/-
  File:      Brackets/Statements.lean
  Subject:   The SQL statements of `sql/matches.py`, `sql/rounds.py`, `sql/stage_item_inputs.py`,
             `sql/stages.py` and `sql/rankings.py` that change rows.

  Each statement is a function on the database. A statement that can violate a unique constraint
  of `stage_item_inputs` fails with an IntegrityError; deleting matches follows the foreign keys
  (`ON DELETE SET NULL` on the references between matches, `ON DELETE CASCADE` from a round).

  The second part is what each statement leaves alone, as equations between projections of the
  database: `Database.untimed` drops what planning writes, `Database.unscored` the cached
  results of the inputs, `Database.bare` both.
-/
import Brackets.Planning.Matches
import Brackets.Ranking.Calculation

namespace Brackets

open Library

/-! ## 1. Bodies -/

/-- `MatchBody`. -/
structure MatchBody where
  roundId : RoundId
  stageItemInput1Score : Nat := 0
  stageItemInput2Score : Nat := 0
  customDurationMinutes : Option Int := none
  customMarginMinutes : Option Int := none
  duration_ge : ∀ n ∈ customDurationMinutes, 1 ≤ n := by decide
  margin_ge : ∀ n ∈ customMarginMinutes, 0 ≤ n := by decide

structure MatchCreateBodyFrontend where
  roundId : RoundId
  stageItemInput1Id : Option StageItemInputId := none
  stageItemInput2Id : Option StageItemInputId := none
  stageItemInput1WinnerFromMatchId : Option MatchId := none
  stageItemInput2WinnerFromMatchId : Option MatchId := none
  deriving DecidableEq, Repr

structure MatchCreateBody extends MatchCreateBodyFrontend where
  durationMinutes : Int
  marginMinutes : Int
  customDurationMinutes : Option Int := none
  customMarginMinutes : Option Int := none
  deriving DecidableEq, Repr

/-- `StageItemInputUpdateBody`. -/
inductive StageItemInputUpdateBody where
  | tentative (winnerFromStageItemId : StageItemId) (winnerPosition : Int)
      (position_ge : 1 ≤ winnerPosition)
  | final (teamId : TeamId)
  | empty

structure RankingBody where
  winPoints : Rat
  drawPoints : Rat
  lossPoints : Rat
  addScorePoints : Bool
  position : Int

/-! ## 2. Matches -/

def sqlUpdateMatch (db : Database) (k : MatchId) (body : MatchBody) : Database :=
  { db with
    matches_ := db.matches_.update (fun m => m.id == k)
      (fun m => { m with
        roundId := body.roundId
        stageItemInput1Score := body.stageItemInput1Score
        stageItemInput2Score := body.stageItemInput2Score
        customDurationMinutes := body.customDurationMinutes
        customMarginMinutes := body.customMarginMinutes })
      fun _ => rfl }

/-- The row that `sql_create_match` inserts. -/
def newMatch (body : MatchCreateBody) (k : MatchId) : MatchRow where
  id := k
  startTime := none
  durationMinutes := body.durationMinutes
  marginMinutes := body.marginMinutes
  customDurationMinutes := body.customDurationMinutes
  customMarginMinutes := body.customMarginMinutes
  roundId := body.roundId
  stageItemInput1Id := body.stageItemInput1Id
  stageItemInput2Id := body.stageItemInput2Id
  stageItemInput1Conflict := false
  stageItemInput2Conflict := false
  stageItemInput1WinnerFromMatchId := body.stageItemInput1WinnerFromMatchId
  stageItemInput2WinnerFromMatchId := body.stageItemInput2WinnerFromMatchId
  stageItemInput1Score := 0
  stageItemInput2Score := 0

/-- The new match and the database with it. -/
def sqlCreateMatch (db : Database) (body : MatchCreateBody) : MatchRow × Database :=
  (newMatch body db.matches_.next,
    { db with matches_ := db.matches_.insert (newMatch body) fun _ => rfl })

/-- `ON DELETE SET NULL`: the references to deleted matches are cleared. -/
def clearWinnerFrom (ids : List MatchId) (m : MatchRow) : MatchRow :=
  { m with
    stageItemInput1WinnerFromMatchId :=
      m.stageItemInput1WinnerFromMatchId.filter (!ids.contains ·)
    stageItemInput2WinnerFromMatchId :=
      m.stageItemInput2WinnerFromMatchId.filter (!ids.contains ·) }

/-- DELETE FROM matches, with the foreign keys between matches. -/
def deleteMatches (db : Database) (p : MatchRow → Bool) : Database :=
  { db with
    matches_ := (db.matches_.delete p).map
      (clearWinnerFrom ((db.matches_.rows.filter p).map (·.id))) fun _ => rfl }

def sqlDeleteMatch (db : Database) (k : MatchId) : Database := deleteMatches db fun m => m.id == k

/-- `clear_scores_for_matches_in_stage_item`. -/
def clearScoresForMatchesInStageItem (db : Database) (tid : TournamentId) (k : StageItemId) :
    Database :=
  { db with
    matches_ := db.matches_.update
      (fun m => (db.rounds.find? m.roundId).any fun r => r.stageItemId == k &&
        db.stageItemTournament r.stageItemId == some tid)
      (fun m => { m with stageItemInput1Score := 0, stageItemInput2Score := 0 })
      fun _ => rfl }

/-! ## 3. Rounds -/

/-- The id of the new round and the database with it. -/
def sqlCreateRound (db : Database) (name : String) (isDraft : Bool) (k : StageItemId) :
    RoundId × Database :=
  (db.rounds.next,
    { db with rounds := db.rounds.insert (fun id => ⟨id, name, isDraft, k⟩) fun _ => rfl })

/-- `get_next_round_name`. -/
def getNextRoundName (db : Database) (tid : TournamentId) (k : StageItemId) : String :=
  let roundCount := (db.rounds.rows.filter fun r => r.stageItemId == k &&
    db.stageItemTournament r.stageItemId == some tid).length
  "Round " ++ (if roundCount + 1 < 10 then "0" else "") ++ toString (roundCount + 1)

/-- `sql_delete_round`; the matches of the round go with it. -/
def sqlDeleteRound (db : Database) (k : RoundId) : Database :=
  let db := deleteMatches db fun m => m.roundId == k
  { db with rounds := db.rounds.delete fun r => r.id == k }

/-- The statement of `update_round_by_id`. -/
def sqlUpdateRound (db : Database) (tid : TournamentId) (k : RoundId) (name : String)
    (isDraft : Bool) : Database :=
  { db with
    rounds := db.rounds.update
      (fun r => db.stageItemTournament r.stageItemId == some tid && r.id == k)
      (fun r => { r with name := name, isDraft := isDraft })
      fun _ => rfl }

/-! ## 4. Inputs, stages and rankings -/

/-- No two rows of a list agree where both have a value. -/
def noTwoAgree {α β : Type} [DecidableEq β] (f : α → Option β) : List α → Bool
  | [] => true
  | a :: l => (f a).all (fun b => l.all fun c => f c != some b) && noTwoAgree f l

/-- The columns of the unique constraint (stage_item_id, team_id). -/
def StageItemInputRow.teamKey (i : StageItemInputRow) : Option (StageItemId × TeamId) :=
  i.teamId.map fun t => (i.stageItemId, t)

/-- The columns of the unique constraint (stage_item_id, winner_from_stage_item_id,
    winner_position). -/
def StageItemInputRow.sourceKey (i : StageItemInputRow) : Option (StageItemId × StageItemId × Int) :=
  i.winnerFromStageItemId.bind fun s => i.winnerPosition.map fun p => (i.stageItemId, s, p)

/-- The statement of `update_stage_item_input`. -/
def sqlUpdateStageItemInput (db : Database) (tid : TournamentId) (k : StageItemInputId)
    (teamId : Option TeamId) (winnerFrom : Option StageItemId) (winnerPosition : Option Int) :
    Database :=
  { db with
    stageItemInputs := db.stageItemInputs.update (fun i => i.id == k && i.tournamentId == tid)
      (fun i => { i with
        teamId := teamId
        winnerFromStageItemId := winnerFrom
        winnerPosition := winnerPosition })
      fun _ => rfl }

/-- The statement of `sql_set_team_id_for_stage_item_input`, before its constraints. -/
def setTeamId (db : Database) (tid : TournamentId) (k : StageItemInputId)
    (teamId : Option TeamId) : Database :=
  { db with
    stageItemInputs := db.stageItemInputs.update (fun i => i.tournamentId == tid && i.id == k)
      (fun i => { i with teamId := teamId })
      fun _ => rfl }

/-- `sql_set_team_id_for_stage_item_input`. -/
def sqlSetTeamIdForStageItemInput (db : Database) (tid : TournamentId) (k : StageItemInputId)
    (teamId : Option TeamId) : Outcome Database :=
  let db := setTeamId db tid k teamId
  if noTwoAgree (·.teamKey) db.stageItemInputs.rows then .ok db
  else .error (.crash .integrityError)

/-- `get_next_stage_in_tournament`. -/
def getNextStageInTournament (db : Database) (tid : TournamentId) (next : Bool) : Option StageId :=
  let stages := db.stages.rows.filter fun s => s.tournamentId == tid
  let active := stages.filter (·.isActive)
  let inactive := stages.filter fun s => !s.isActive
  if next then
    let bound := (active.head?.map (·.id)).getD (-1)
    (inactive.find? fun s => s.id > bound).map (·.id)
  else
    let bound := (active.getLast?.map (·.id)).getD 10000000000
    ((inactive.filter fun s => s.id < bound).getLast?).map (·.id)

/-- `sql_activate_next_stage`. -/
def sqlActivateNextStage (db : Database) (newActiveStageId : StageId) (tid : TournamentId) :
    Database :=
  { db with
    stages := db.stages.update (fun s => s.tournamentId == tid)
      (fun s => { s with isActive := s.id == newActiveStageId })
      fun _ => rfl }

def sqlUpdateRanking (db : Database) (tid : TournamentId) (k : RankingId) (body : RankingBody) :
    Database :=
  { db with
    rankings := db.rankings.update (fun r => r.tournamentId == tid && r.id == k)
      (fun r => { r with
        position := body.position
        winPoints := body.winPoints
        drawPoints := body.drawPoints
        lossPoints := body.lossPoints
        addScorePoints := body.addScorePoints })
      fun _ => rfl }

/-- `get_stage_item_ids_by_ranking_id`. -/
def getStageItemIdsByRankingId (db : Database) (tid : TournamentId) (k : RankingId) :
    List StageItemId :=
  (db.stageItems.rows.filter fun item => item.rankingId == k &&
    db.stageItemTournament item.id == some tid).map (·.id)

/-! ## 5. Projections -/

/-- An input row without its cached results. -/
def StageItemInputRow.unscored (i : StageItemInputRow) : StageItemInputRow :=
  { i with points := 0, wins := 0, draws := 0, losses := 0 }

theorem StageItemInputRow.key_unscored (i : StageItemInputRow) : key i.unscored = key i := rfl

/-- The database without the cached results of the inputs. -/
def Database.unscored (db : Database) : Database :=
  { db with stageItemInputs := db.stageItemInputs.map StageItemInputRow.unscored StageItemInputRow.key_unscored }

/-- The database without cached results and without what planning writes. -/
def Database.bare (db : Database) : Database := db.untimed.unscored

theorem Database.bare_match (db : Database) (x : MatchId) :
    db.bare.matches_.find? x = (db.matches_.find? x).map MatchRow.untimed :=
  db.matches_.find?_map MatchRow.key_untimed x

theorem Database.bare_input (db : Database) (i : StageItemInputId) :
    db.bare.stageItemInputs.find? i = (db.stageItemInputs.find? i).map StageItemInputRow.unscored :=
  db.stageItemInputs.find?_map StageItemInputRow.key_unscored i

theorem bare_of_untimed {db db' : Database} (h : db'.untimed = db.untimed) :
    db'.bare = db.bare := by
  rw [Database.bare, Database.bare, h]

theorem untimed_unscored (db : Database) : db.unscored.untimed = db.untimed.unscored := rfl

theorem bare_of_unscored {db db' : Database} (h : db'.unscored = db.unscored) :
    db'.bare = db.bare := by
  rw [Database.bare, Database.bare, ← untimed_unscored, ← untimed_unscored, h]

theorem updateTeamStats_unscored (db : Database) (tid : TournamentId) (k : StageItemInputId)
    (s : TeamStatistics) : (updateTeamStats db tid k s).unscored = db.unscored := by
  simp only [Database.unscored, updateTeamStats]
  congr 1
  exact db.stageItemInputs.map_of_update fun _ => rfl

/-- **Recalculating writes the cached results only.** -/
theorem recalculateRanking_unscored {E : ExpectedScore} {db db' : Database} {tid : TournamentId}
    {item : StageItemWithRounds} (h : recalculateRankingForStageItem E db tid item = .ok db') :
    db'.unscored = db.unscored := by
  obtain ⟨ranking, _, h⟩ := bind_eq_ok.mp h
  obtain ⟨elo, _, h⟩ := bind_eq_ok.mp h
  cases h
  exact foldl_project _ _ (fun db k => updateTeamStats_unscored db tid k _) _ _

end Brackets
