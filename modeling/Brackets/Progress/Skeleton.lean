/-
  File:      Brackets/Progress/Skeleton.lean
  Subject:   The part of the database that most requests leave alone.

  `Database.skeleton` keeps which rows there are, what they belong to, where slots and matches take
  their inputs from, and everything about times. It drops names and flags, the teams of the slots,
  the inputs and scores of the matches, the cached results and the settings of rankings.

  The statements that score, rank, publish, activate or rename do not touch the skeleton; section
  2 says so statement by statement, section 3 request by request.
-/
import Brackets.Planning.Replanning
import Brackets.Routes.Api

namespace Brackets

open Library

/-! ## 1. The skeleton -/

def StageItemRow.skeleton (i : StageItemRow) : StageItemRow := { i with name := "" }

def StageItemInputRow.skeleton (i : StageItemInputRow) : StageItemInputRow :=
  { i with teamId := none, points := 0, wins := 0, draws := 0, losses := 0 }

def MatchRow.skeleton (m : MatchRow) : MatchRow :=
  { m with
    stageItemInput1Id := none, stageItemInput2Id := none,
    stageItemInput1Conflict := false, stageItemInput2Conflict := false,
    stageItemInput1Score := 0, stageItemInput2Score := 0 }

def TeamRow.skeleton (t : TeamRow) : TeamRow := ⟨t.id, "", t.tournamentId, false, none⟩

def PlayerRow.skeleton (p : PlayerRow) : PlayerRow := ⟨p.id, "", 0, p.tournamentId, false⟩

def RankingRow.skeleton (r : RankingRow) : RankingRow := ⟨r.id, r.tournamentId, 0, 0, 0, 0, false⟩

theorem StageItemRow.key_skeleton (i : StageItemRow) : key i.skeleton = key i := rfl
theorem StageItemInputRow.key_skeleton (i : StageItemInputRow) : key i.skeleton = key i := rfl
theorem MatchRow.key_skeleton (m : MatchRow) : key m.skeleton = key m := rfl
theorem TeamRow.key_skeleton (t : TeamRow) : key t.skeleton = key t := rfl
theorem PlayerRow.key_skeleton (p : PlayerRow) : key p.skeleton = key p := rfl
theorem RankingRow.key_skeleton (r : RankingRow) : key r.skeleton = key r := rfl

def Database.skeleton (db : Database) : Database where
  tournaments := db.tournaments.map TournamentRow.agenda TournamentRow.key_agenda
  stages := db.stages.map StageRow.agenda StageRow.key_agenda
  stageItems := db.stageItems.map StageItemRow.skeleton StageItemRow.key_skeleton
  stageItemInputs := db.stageItemInputs.map StageItemInputRow.skeleton StageItemInputRow.key_skeleton
  rounds := db.rounds.map RoundRow.agenda RoundRow.key_agenda
  matches_ := db.matches_.map MatchRow.skeleton MatchRow.key_skeleton
  teams := db.teams.map TeamRow.skeleton TeamRow.key_skeleton
  players := db.players.map PlayerRow.skeleton PlayerRow.key_skeleton
  playersXTeams := .empty
  rankings := db.rankings.map RankingRow.skeleton RankingRow.key_skeleton

theorem skeleton_agenda (db : Database) : db.skeleton.agenda = db.agenda := by
  have hmap : ∀ {α : Type} [Keyed α] (t : Table α) {g g' : α → α} {hg : ∀ r, key (g r) = key r}
      {hg' : ∀ r, key (g' r) = key r}, (∀ r, g' (g r) = g' r) →
        (t.map g hg).map g' hg' = t.map g' hg' := fun t _ _ _ _ h => t.map_of_update h
  unfold Database.agenda Database.skeleton
  dsimp only
  congr 1
  · exact hmap _ fun _ => rfl
  · exact hmap _ fun _ => rfl
  · exact hmap _ fun _ => rfl
  · exact hmap _ fun _ => rfl
  · exact hmap _ fun _ => rfl

theorem agenda_of_skeleton {db db' : Database} (h : db'.skeleton = db.skeleton) :
    db'.agenda = db.agenda := by
  rw [← skeleton_agenda db', ← skeleton_agenda db, h]

/-! ## 2. Statements -/

section Updates

variable {db : Database}

/-! An UPDATE of columns that the skeleton drops. -/

theorem skeleton_tournaments {p : TournamentRow → Bool} {f : TournamentRow → TournamentRow}
    {hf : ∀ t, key (f t) = key t}
    (h : ∀ t ∈ db.tournaments.rows, p t = true → (f t).agenda = t.agenda) :
    { db with tournaments := db.tournaments.update p f hf }.skeleton = db.skeleton := by
  simp only [Database.skeleton, db.tournaments.map_of_update_of_mem h]

theorem skeleton_stages {p : StageRow → Bool} {f : StageRow → StageRow}
    {hf : ∀ s, key (f s) = key s}
    (h : ∀ s ∈ db.stages.rows, p s = true → (f s).agenda = s.agenda) :
    { db with stages := db.stages.update p f hf }.skeleton = db.skeleton := by
  simp only [Database.skeleton, db.stages.map_of_update_of_mem h]

theorem skeleton_stageItems {p : StageItemRow → Bool} {f : StageItemRow → StageItemRow}
    {hf : ∀ i, key (f i) = key i}
    (h : ∀ i ∈ db.stageItems.rows, p i = true → (f i).skeleton = i.skeleton) :
    { db with stageItems := db.stageItems.update p f hf }.skeleton = db.skeleton := by
  simp only [Database.skeleton, db.stageItems.map_of_update_of_mem h]

theorem skeleton_inputs {p : StageItemInputRow → Bool} {f : StageItemInputRow → StageItemInputRow}
    {hf : ∀ i, key (f i) = key i}
    (h : ∀ i ∈ db.stageItemInputs.rows, p i = true → (f i).skeleton = i.skeleton) :
    { db with stageItemInputs := db.stageItemInputs.update p f hf }.skeleton = db.skeleton := by
  simp only [Database.skeleton, db.stageItemInputs.map_of_update_of_mem h]

theorem skeleton_rounds {p : RoundRow → Bool} {f : RoundRow → RoundRow}
    {hf : ∀ r, key (f r) = key r}
    (h : ∀ r ∈ db.rounds.rows, p r = true → (f r).agenda = r.agenda) :
    { db with rounds := db.rounds.update p f hf }.skeleton = db.skeleton := by
  simp only [Database.skeleton, db.rounds.map_of_update_of_mem h]

theorem skeleton_matches_ {p : MatchRow → Bool} {f : MatchRow → MatchRow}
    {hf : ∀ m, key (f m) = key m}
    (h : ∀ m ∈ db.matches_.rows, p m = true → (f m).skeleton = m.skeleton) :
    { db with matches_ := db.matches_.update p f hf }.skeleton = db.skeleton := by
  simp only [Database.skeleton, db.matches_.map_of_update_of_mem h]

theorem skeleton_teams {p : TeamRow → Bool} {f : TeamRow → TeamRow}
    {hf : ∀ t, key (f t) = key t}
    (h : ∀ t ∈ db.teams.rows, p t = true → (f t).skeleton = t.skeleton) :
    { db with teams := db.teams.update p f hf }.skeleton = db.skeleton := by
  simp only [Database.skeleton, db.teams.map_of_update_of_mem h]

theorem skeleton_players {q : PlayerRow → Bool} {f : PlayerRow → PlayerRow}
    {hf : ∀ p, key (f p) = key p}
    (h : ∀ p ∈ db.players.rows, q p = true → (f p).skeleton = p.skeleton) :
    { db with players := db.players.update q f hf }.skeleton = db.skeleton := by
  simp only [Database.skeleton, db.players.map_of_update_of_mem h]

theorem skeleton_rankings {p : RankingRow → Bool} {f : RankingRow → RankingRow}
    {hf : ∀ r, key (f r) = key r}
    (h : ∀ r ∈ db.rankings.rows, p r = true → (f r).skeleton = r.skeleton) :
    { db with rankings := db.rankings.update p f hf }.skeleton = db.skeleton := by
  simp only [Database.skeleton, db.rankings.map_of_update_of_mem h]

/-! The statements. -/

theorem setInputIds_skeleton (db : Database) (m : Match) :
    (setInputIds db m).skeleton = db.skeleton := skeleton_matches_ fun _ _ _ => rfl

theorem updateTeamStats_skeleton (db : Database) (tid : TournamentId) (k : StageItemInputId)
    (s : TeamStatistics) : (updateTeamStats db tid k s).skeleton = db.skeleton :=
  skeleton_inputs fun _ _ _ => rfl

theorem clearScores_skeleton (db : Database) (tid : TournamentId) (k : StageItemId) :
    (clearScoresForMatchesInStageItem db tid k).skeleton = db.skeleton :=
  skeleton_matches_ fun _ _ _ => rfl

theorem sqlSetTeamId_skeleton {db db' : Database} {tid : TournamentId} {k : StageItemInputId}
    {teamId : Option TeamId} (h : sqlSetTeamIdForStageItemInput db tid k teamId = .ok db') :
    db'.skeleton = db.skeleton := by
  unfold sqlSetTeamIdForStageItemInput at h
  dsimp only at h
  split at h
  · cases h
    exact skeleton_inputs fun _ _ _ => rfl
  · cases h

theorem recalculateRanking_skeleton {E : ExpectedScore} {db db' : Database} {tid : TournamentId}
    {item : StageItemWithRounds} (h : recalculateRankingForStageItem E db tid item = .ok db') :
    db'.skeleton = db.skeleton := by
  obtain ⟨ranking, -, h⟩ := bind_eq_ok.mp h
  obtain ⟨elo, -, h⟩ := bind_eq_ok.mp h
  cases h
  exact foldl_project _ _ (fun db k => updateTeamStats_skeleton db tid k _) _ _

theorem updateInputsInSubsequent_skeleton {db db' : Database} {item : StageItemWithRounds}
    {roundId : RoundId} {matchIds : Option (List MatchId)}
    (h : updateInputsInSubsequentEliminationRounds db roundId item matchIds = .ok db') :
    db'.skeleton = db.skeleton := by
  obtain ⟨updates, -, h⟩ := bind_eq_ok.mp h
  cases h
  exact foldl_project Database.skeleton (fun db (e : MatchId × Match) => setInputIds db e.2)
    (fun db e => setInputIds_skeleton db e.2) _ _

/-- A loop whose turns leave the skeleton alone. -/
theorem foldlM_skeleton {β : Type} {f : Database → β → Outcome Database}
    (hstep : ∀ db b db', f db b = .ok db' → db'.skeleton = db.skeleton) {l : List β}
    {db db' : Database} (h : l.foldlM f db = .ok db') : db'.skeleton = db.skeleton :=
  foldlM_invariant (P := fun d => d.skeleton = db.skeleton)
    (fun d b d' hd hf => (hstep d b d' hf).trans hd) rfl h

theorem updateInputsInComplete_skeleton {db db' : Database} {item : StageItemWithRounds}
    (h : updateInputsInCompleteEliminationStageItem db item = .ok db') :
    db'.skeleton = db.skeleton :=
  foldlM_skeleton (fun _ _ _ => updateInputsInSubsequent_skeleton) h

theorem updateMatchesInActivatedStage_skeleton {E : ExpectedScore} {db db' : Database}
    {tid : TournamentId} {k : StageId} (h : updateMatchesInActivatedStage E db tid k = .ok db') :
    db'.skeleton = db.skeleton := by
  obtain ⟨updates, -, h⟩ := bind_eq_ok.mp h
  exact foldlM_skeleton (fun _ _ _ => sqlSetTeamId_skeleton) h

theorem updateMatchesInDeactivatedStage_skeleton {db db' : Database} {tid : TournamentId}
    {stage : StageWithStageItems} (h : updateMatchesInDeactivatedStage db tid stage = .ok db') :
    db'.skeleton = db.skeleton := by
  refine foldlM_skeleton (fun db item db' h => ?_) h
  exact (foldlM_skeleton (fun _ _ _ => sqlSetTeamId_skeleton) h).trans
    (clearScores_skeleton db tid item.id)

end Updates

/-! ## 3. Requests -/

section Requests

variable {db db' : Database} {tid : TournamentId}

theorem changeStatus_skeleton {status : TournamentStatus}
    (h : changeStatus db tid status = .ok db') : db'.skeleton = db.skeleton := by
  obtain ⟨-, rfl⟩ := changeStatus_ok h
  exact skeleton_tournaments fun _ _ _ => rfl

theorem uploadLogo_skeleton {filename : Option String} (h : uploadLogo db tid filename = .ok db') :
    db'.skeleton = db.skeleton := by
  obtain ⟨-, rfl⟩ := uploadLogo_ok h
  exact skeleton_tournaments fun _ _ _ => rfl

theorem activateNextStage_skeleton {E : ExpectedScore} {direction : Direction}
    (h : activateNextStage E db tid direction = .ok db') : db'.skeleton = db.skeleton := by
  obtain ⟨k, db1, -, -, hwrites, rfl⟩ := activateNextStage_ok h
  have hactivate : (sqlActivateNextStage db1 k tid).skeleton = db1.skeleton :=
    skeleton_stages fun _ _ _ => rfl
  refine hactivate.trans ?_
  cases hwrites with
  | entered h1 => exact updateMatchesInActivatedStage_skeleton h1
  | left _ h1 => exact updateMatchesInDeactivatedStage_skeleton h1
  | nothing _ => rfl

theorem Refresh.skeleton {E : ExpectedScore} {item : StageItemWithRounds}
    (e : Refresh E db tid item db') : db'.skeleton = db.skeleton := by
  have hstats := recalculateRanking_skeleton e.recalculation
  have hpropagation := e.propagation
  split at hpropagation
  · exact (updateInputsInComplete_skeleton hpropagation).trans hstats
  · exact Except.ok.inj hpropagation ▸ hstats

theorem updateStageItem_skeleton {E : ExpectedScore} {k : StageItemId} {body : StageItemUpdateBody}
    (h : updateStageItem E db tid k body = .ok db') : db'.skeleton = db.skeleton := by
  obtain ⟨e⟩ := updateStageItem_ok h
  exact e.refresh.skeleton.trans (skeleton_stageItems fun _ _ _ => rfl)

theorem updateRoundById_skeleton {k : RoundId} {body : RoundUpdateBody}
    (h : updateRoundById db tid k body = .ok db') : db'.skeleton = db.skeleton := by
  obtain ⟨-, -, rfl⟩ := updateRoundById_ok h
  exact skeleton_rounds fun _ _ _ => rfl

theorem updateRankingById_skeleton {E : ExpectedScore} {k : RankingId} {body : RankingBody}
    (h : updateRankingById E db tid k body = .ok db') : db'.skeleton = db.skeleton := by
  obtain ⟨-, -, h⟩ := updateRankingById_ok h
  have hupdate : (sqlUpdateRanking db tid k body).skeleton = db.skeleton :=
    skeleton_rankings fun _ _ _ => rfl
  refine (foldlM_skeleton (fun db i db' h => ?_) h).trans hupdate
  obtain ⟨item, -, ⟨e⟩⟩ := refreshStageItem_ok h
  exact e.skeleton

theorem updateTeamMembers_skeleton {teamId : TeamId} {playerIds : List PlayerId}
    (h : updateTeamMembers db teamId tid playerIds = .ok db') : db'.skeleton = db.skeleton := by
  obtain ⟨team, -, rfl⟩ := updateTeamMembers_ok h
  exact foldl_project Database.skeleton (fun db p => insertMember db teamId p) (fun _ _ => rfl) _ _

theorem updateTeamById_skeleton {k : TeamId} {body : TeamBody}
    (h : updateTeamById db tid k body = .ok db') : db'.skeleton = db.skeleton := by
  obtain ⟨team, -, -, -, h⟩ := updateTeamById_ok h
  exact (updateTeamMembers_skeleton h).trans (skeleton_teams fun _ _ _ => rfl)

theorem updateTeamLogo_skeleton {k : TeamId} {filename : Option String}
    (h : updateTeamLogo db tid k filename = .ok db') : db'.skeleton = db.skeleton := by
  obtain ⟨team, -, -, rfl⟩ := updateTeamLogo_ok h
  exact skeleton_teams fun _ _ _ => rfl

theorem updatePlayerById_skeleton {k : PlayerId} {body : PlayerBody}
    (h : updatePlayerById db tid k body = .ok db') : db'.skeleton = db.skeleton := by
  obtain ⟨-, -, rfl⟩ := updatePlayerById_ok h
  exact skeleton_players fun _ _ _ => rfl

end Requests

end Brackets
