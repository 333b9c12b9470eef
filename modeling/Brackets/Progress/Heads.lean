/-
  File:      Brackets/Progress/Heads.lean
  Subject:   Which requests write the rows of the tournaments and of the stages.

  * Four write the tournaments: the settings, the status and the logo are columns of the
    tournament's own row, and a deletion removes that row.
  * Four write the stages, and the deletion of a tournament takes its stages with it.
  * No request moves a tournament to another club.
-/
import Brackets.Progress.Effects

namespace Brackets

open Library

variable {db db' : Database} {tid : TournamentId}

/-- The tables of the tournaments and of the stages. -/
def Database.heads (db : Database) : Table TournamentRow × Table StageRow :=
  (db.tournaments, db.stages)

/-! ## 1. Statements on other tables -/

theorem heads_of_untimed (h : db'.untimed = db.untimed) : db'.heads = db.heads := by
  have htables : db'.untimed.heads = db.untimed.heads := congrArg Database.heads h
  exact htables

theorem scheduleAllMatches_heads (h : scheduleAllMatches db tid = .ok db') :
    db'.heads = db.heads := heads_of_untimed (scheduleAllMatches_untimed h)

theorem recalculateRanking_heads {E : ExpectedScore} {item : StageItemWithRounds}
    (h : recalculateRankingForStageItem E db tid item = .ok db') :
    db'.heads = db.heads := by
  have htables : db'.unscored.heads = db.unscored.heads :=
    congrArg Database.heads (recalculateRanking_unscored h)
  exact htables

/-- What every turn of a loop leaves alone. -/
theorem foldlM_project {β γ : Type} (π : Database → γ) {f : Database → β → Outcome Database}
    (hstep : ∀ db b db', f db b = .ok db' → π db' = π db) {l : List β}
    (h : l.foldlM f db = .ok db') : π db' = π db :=
  foldlM_invariant (P := fun d => π d = π db) (fun d b d' hd hf => (hstep d b d' hf).trans hd) rfl h

theorem updateInputsInSubsequent_heads {item : StageItemWithRounds} {roundId : RoundId}
    {matchIds : Option (List MatchId)}
    (h : updateInputsInSubsequentEliminationRounds db roundId item matchIds = .ok db') :
    db'.heads = db.heads := by
  obtain ⟨updates, -, h⟩ := bind_eq_ok.mp h
  cases h
  exact foldl_project Database.heads
    (fun db (e : MatchId × Match) => setInputIds db e.2) (fun _ _ => rfl) _ _

theorem updateInputsInComplete_heads {item : StageItemWithRounds}
    (h : updateInputsInCompleteEliminationStageItem db item = .ok db') :
    db'.heads = db.heads :=
  foldlM_project Database.heads (fun _ _ _ => updateInputsInSubsequent_heads) h

theorem sqlSetTeamId_heads {k : StageItemInputId} {teamId : Option TeamId}
    (h : sqlSetTeamIdForStageItemInput db tid k teamId = .ok db') :
    db'.heads = db.heads := by
  unfold sqlSetTeamIdForStageItemInput at h
  dsimp only at h
  split at h
  · cases h
    rfl
  · cases h

theorem updateTeamMembers_heads {teamId : TeamId} {playerIds : List PlayerId}
    (h : updateTeamMembers db teamId tid playerIds = .ok db') :
    db'.heads = db.heads := by
  obtain ⟨team, -, rfl⟩ := updateTeamMembers_ok h
  exact foldl_project Database.heads (fun db p => insertMember db teamId p)
    (fun _ _ => rfl) _ _

theorem buildMatches_heads {E : ExpectedScore} {item : StageItemRow}
    (h : buildMatchesForStageItem E db item tid = .ok db') : db'.heads = db.heads := by
  obtain ⟨n, loaded, bodies, -, -, hbuilt⟩ := buildMatches_ok h
  have hmatches := (createMatches_project Database.heads (fun _ _ => rfl) bodies _).trans
    (iterate_project Database.heads (createNextRound tid item.id) (fun _ => rfl) n db)
  rcases hbuilt with rfl | h
  · exact hmatches
  · exact (recalculateRanking_heads h).trans hmatches

/-! ## 2. Requests for other tables -/

theorem createStageItem_heads {E : ExpectedScore} {body : StageItemCreateBody}
    (h : createStageItem E db tid body = .ok db') : db'.heads = db.heads := by
  obtain ⟨e⟩ := createStageItem_ok h
  have hitem : e.new.2.heads = db.heads := by
    obtain ⟨rankingId, -, hnew⟩ := sqlCreateStageItem_ok e.created
    rw [hnew]
    exact foldl_project Database.heads
      (fun d (i : Nat) => sqlCreateEmptyInput tid db.stageItems.next d ((i : Int) + 1))
      (fun _ _ => rfl) _ _
  exact (scheduleAllMatches_heads e.planning).trans ((buildMatches_heads e.building).trans hitem)

theorem deleteStageItem_heads {k : StageItemId} (h : deleteStageItem db tid k = .ok db') :
    db'.heads = db.heads := by
  obtain ⟨e⟩ := deleteStageItem_ok h
  have hitem : e.deleted.heads = db.heads := by
    obtain ⟨db2, h2, h1⟩ := bind_eq_ok.mp e.deletion
    obtain ⟨-, rfl⟩ := deleteInputs_ok h2
    obtain ⟨db4, h4, h1⟩ := bind_eq_ok.mp h1
    obtain ⟨-, rfl⟩ := deleteInputs_ok h4
    exact (congrArg Database.heads (Except.ok.inj h1)).symm
  exact (scheduleAllMatches_heads e.planning).trans hitem

/-- Activating a stage writes inputs, and then the stages. -/
theorem activateNextStage_heads {E : ExpectedScore} {direction : Direction}
    (h : activateNextStage E db tid direction = .ok db') :
    ∃ k db1, getNextStageInTournament db tid (direction == .next) = some k ∧
      db1.heads = db.heads ∧ db' = sqlActivateNextStage db1 k tid := by
  obtain ⟨k, db1, -, hk, hwrites, hlast⟩ := activateNextStage_ok h
  refine ⟨k, db1, hk, ?_, hlast⟩
  cases hwrites with
  | entered h1 =>
    obtain ⟨updates, -, h1⟩ := bind_eq_ok.mp h1
    exact foldlM_project Database.heads (fun _ _ _ => sqlSetTeamId_heads) h1
  | left _ h1 =>
    refine foldlM_project Database.heads (fun d item d' hitem => ?_) h1
    exact (foldlM_project Database.heads (fun _ _ _ => sqlSetTeamId_heads) hitem).trans rfl
  | nothing _ => rfl

theorem Refresh.heads {E : ExpectedScore} {item : StageItemWithRounds}
    (e : Refresh E db tid item db') : db'.heads = db.heads := by
  have hstats := recalculateRanking_heads e.recalculation
  have hpropagation := e.propagation
  split at hpropagation
  · exact (updateInputsInComplete_heads hpropagation).trans hstats
  · exact Except.ok.inj hpropagation ▸ hstats

theorem updateStageItem_heads {E : ExpectedScore} {k : StageItemId}
    {body : StageItemUpdateBody} (h : updateStageItem E db tid k body = .ok db') :
    db'.heads = db.heads := by
  obtain ⟨e⟩ := updateStageItem_ok h
  exact e.refresh.heads.trans rfl

theorem updateRankingById_heads {E : ExpectedScore} {k : RankingId} {body : RankingBody}
    (h : updateRankingById E db tid k body = .ok db') : db'.heads = db.heads := by
  obtain ⟨-, -, h⟩ := updateRankingById_ok h
  refine (foldlM_project Database.heads (fun db i db' h => ?_) h).trans rfl
  obtain ⟨item, -, ⟨e⟩⟩ := refreshStageItem_ok h
  exact e.heads

theorem updateMatchById_heads {E : ExpectedScore} {k : MatchId} {body : MatchBody}
    (h : updateMatchById E db tid k body = .ok db') : db'.heads = db.heads := by
  obtain ⟨se⟩ := updateMatchById_ok h
  have hplanned : se.planned.heads = db.heads :=
    (heads_of_untimed se.planning).trans
      ((recalculateRanking_heads se.recalculation).trans rfl)
  have hpropagation := se.propagation
  split at hpropagation
  · exact (updateInputsInSubsequent_heads hpropagation).trans hplanned
  · exact Except.ok.inj hpropagation ▸ hplanned

theorem deleteRound_heads {E : ExpectedScore} {k : RoundId}
    (h : deleteRound E db tid k = .ok db') : db'.heads = db.heads := by
  obtain ⟨e⟩ := deleteRound_ok h
  exact (scheduleAllMatches_heads e.planning).trans ((recalculateRanking_heads e.recalculation).trans
    (foldl_project Database.heads (fun d (m : Match) => sqlDeleteMatch d m.id)
      (fun _ _ => rfl) _ _))

theorem createRound_heads {maxWeightMatching : MatchingSolver} {shuffle : Shuffle}
    {body : RoundCreateBody} (h : createRound maxWeightMatching shuffle db tid body = .ok db') :
    db'.heads = db.heads := by
  obtain ⟨e⟩ := createRound_ok h
  exact (scheduleAllMatches_heads e.drafted).trans (foldl_project Database.heads
    (fun d pair => (sqlCreateMatch d (pairBody e.tournament db.rounds.next pair)).2)
    (fun _ _ => rfl) _ _)

/-- A request leaves both tables as they are, or it is one of the eight that write them. -/
theorem Request.heads (hdb : Isolated db) {env : Environment} {r : Request}
    (h : r.handle env db tid = .ok db') (hr : match r with
      | .updateTournamentById _ | .deleteTournament | .changeStatus _ | .uploadLogo _ => False
      | .createStage | .updateStage _ _ | .deleteStage _ | .activateNextStage _ => False
      | _ => True) : db'.heads = db.heads := by
  cases r with
  | updateTournamentById body => exact hr.elim
  | deleteTournament => exact hr.elim
  | changeStatus status => exact hr.elim
  | uploadLogo filename => exact hr.elim
  | createStage => exact hr.elim
  | updateStage k body => exact hr.elim
  | deleteStage k => exact hr.elim
  | activateNextStage direction => exact hr.elim
  | createStageItem body => exact createStageItem_heads h
  | updateStageItem k body => exact updateStageItem_heads h
  | deleteStageItem k => exact deleteStageItem_heads h
  | updateStageItemInput stageItemId k body =>
    obtain ⟨e⟩ := updateStageItemInput_ok h
    rw [e.stored]
    rfl
  | createRound body => exact createRound_heads h
  | updateRoundById k body =>
    obtain ⟨-, -, rfl⟩ := updateRoundById_ok h
    rfl
  | deleteRound k => exact deleteRound_heads h
  | createMatch body =>
    obtain ⟨e⟩ := createMatch_ok h
    exact (scheduleAllMatches_heads e.planning).trans rfl
  | updateMatchById k body => exact updateMatchById_heads h
  | deleteMatch k =>
    obtain ⟨e⟩ := deleteMatch_ok h
    exact (scheduleAllMatches_heads e.planning).trans
      ((recalculateRanking_heads e.recalculation).trans rfl)
  | scheduleMatches => exact scheduleAllMatches_heads (scheduleMatches_ok h).2
  | createRanking body =>
    obtain ⟨-, -, rfl⟩ := createRanking_ok h
    rfl
  | updateRankingById k body => exact updateRankingById_heads h
  | deleteRanking k => exact deleteRanking_eq hdb h ▸ rfl
  | createTeam body =>
    obtain ⟨-, -, -, h⟩ := createTeam_ok h
    exact (updateTeamMembers_heads h).trans rfl
  | createMultipleTeams teamsWithPlayers active =>
    obtain ⟨-, -, -, rfl⟩ := createMultipleTeams_ok h
    exact foldl_project Database.heads _ (fun d team =>
      createTeamWithPlayers_project Database.heads (fun _ _ => rfl) (fun _ _ _ => rfl) d team)
      _ _
  | updateTeamById k body =>
    obtain ⟨team, -, -, -, h⟩ := updateTeamById_ok h
    exact (updateTeamMembers_heads h).trans rfl
  | updateTeamLogo k filename =>
    obtain ⟨team, -, -, rfl⟩ := updateTeamLogo_ok h
    rfl
  | deleteTeam k =>
    obtain ⟨-, -, h⟩ := deleteTeam_ok h
    obtain ⟨-, rfl⟩ := deleteTeams_ok h
    rfl
  | createSinglePlayer body =>
    obtain ⟨-, -, rfl⟩ := createSinglePlayer_ok h
    rfl
  | createMultiplePlayers playerNames active =>
    obtain ⟨-, -, rfl⟩ := createMultiplePlayers_ok h
    exact foldl_project Database.heads
      (fun d name => (insertPlayer d env.now ⟨name, active⟩ tid).2) (fun _ _ => rfl) _ _
  | updatePlayerById k body =>
    obtain ⟨-, -, rfl⟩ := updatePlayerById_ok h
    rfl
  | deletePlayer k =>
    obtain ⟨-, rfl⟩ := deletePlayer_ok h
    rfl

theorem updateStage_heads {k : StageId} {body : StageUpdateBody}
    (h : updateStage db tid k body = .ok db') : db'.heads = (sqlUpdateStage db tid k body).heads := by
  obtain ⟨stage, -, -, ⟨-, rfl⟩ | hplanned⟩ := updateStage_ok h
  · rfl
  · exact scheduleAllMatches_heads hplanned

/-- **A request either leaves all rows of tournaments as they are, or is one of the four.** -/
theorem Request.tournaments (hdb : Isolated db) {env : Environment} {r : Request}
    (h : r.handle env db tid = .ok db') (hr : match r with
      | .updateTournamentById _ | .deleteTournament | .changeStatus _ | .uploadLogo _ => False
      | _ => True) : db'.tournaments = db.tournaments := by
  cases r with
  | updateTournamentById body => exact hr.elim
  | deleteTournament => exact hr.elim
  | changeStatus status => exact hr.elim
  | uploadLogo filename => exact hr.elim
  | createStage =>
    obtain ⟨-, -, rfl⟩ := createStage_ok h
    rfl
  | updateStage k body => exact (congrArg Prod.fst (updateStage_heads h)).trans rfl
  | deleteStage k =>
    obtain ⟨-, rfl⟩ := deleteStage_eq h
    rfl
  | activateNextStage direction =>
    obtain ⟨k, db1, -, hheads, rfl⟩ := activateNextStage_heads h
    exact congrArg Prod.fst hheads
  | _ => exact congrArg Prod.fst (Request.heads hdb h trivial)

/-! ## 3. The deletion of a tournament -/

theorem deleteStageItems_tournaments {p : StageItemRow → Bool}
    (h : deleteStageItems db p = .ok db') : db'.tournaments = db.tournaments := by
  obtain ⟨db2, h2, h⟩ := bind_eq_ok.mp h
  obtain ⟨-, rfl⟩ := deleteInputs_ok h2
  cases h
  rfl

theorem deleteStages_tournaments {p : StageRow → Bool} (h : deleteStages db p = .ok db') :
    db'.tournaments = db.tournaments := by
  obtain ⟨db1, h1, h⟩ := bind_eq_ok.mp h
  cases h
  have htables := deleteStageItems_tournaments h1
  exact htables

theorem deleteRankings_tournaments {p : RankingRow → Bool} (h : deleteRankings db p = .ok db') :
    db'.tournaments = db.tournaments := by
  obtain ⟨db1, h1, h⟩ := bind_eq_ok.mp h
  cases h
  have htables := deleteStageItems_tournaments h1
  exact htables

theorem deleteTeams_tournaments {p : TeamRow → Bool} (h : deleteTeams db p = .ok db') :
    db'.tournaments = db.tournaments := by
  obtain ⟨-, rfl⟩ := deleteTeams_ok h
  rfl

theorem deleteInputs_tournaments {p : StageItemInputRow → Bool} (h : deleteInputs db p = .ok db') :
    db'.tournaments = db.tournaments := by
  obtain ⟨-, rfl⟩ := deleteInputs_ok h
  rfl

theorem deleteRelations_tournaments {k : StageItemId}
    (h : sqlDeleteStageItemRelations db k = .ok db') : db'.tournaments = db.tournaments := by
  have htables := deleteInputs_tournaments h
  exact htables

/-- **A deletion takes the row of the tournament and no other.** -/
theorem deleteTournament_tournaments (h : deleteTournament db tid = .ok db') :
    db'.tournaments = db.tournaments.delete fun t => t.id == tid := by
  obtain ⟨e⟩ := sqlDeleteTournamentCompletely_steps h
  obtain ⟨last⟩ := sqlDeleteTournament_steps e.tournament
  have hitems : e.unrelated.tournaments = db.tournaments :=
    (foldlM_project Database.tournaments (fun _ _ _ => deleteRelations_tournaments)
      e.relations).trans (foldl_project Database.tournaments
        (fun d (item : StageItemWithRounds) => sqlDeleteMatchesForStageItemId d item.id)
        (fun _ _ => rfl) _ _)
  have hstages : e.unstaged.tournaments = e.unrelated.tournaments := by
    refine foldlM_project Database.tournaments (fun d stage d' hd => ?_) e.stages
    obtain ⟨d1, hd1, hd⟩ := bind_eq_ok.mp hd
    obtain ⟨d2, hd2, hd⟩ := bind_eq_ok.mp hd
    exact (deleteStages_tournaments hd).trans ((deleteStageItems_tournaments hd2).trans
      (foldlM_project Database.tournaments (fun _ _ _ => deleteStageItems_tournaments) hd1))
  have hrest : e.unteamed.tournaments = db.tournaments :=
    (deleteTeams_tournaments e.teams).trans ((foldlM_project Database.tournaments
      (fun _ _ _ => deleteRankings_tournaments) e.rankings).trans (hstages.trans hitems))
  have hlast : last.unteamed.tournaments = db.tournaments :=
    (deleteTeams_tournaments last.teams).trans ((deleteRankings_tournaments last.rankings).trans
      ((deleteInputs_tournaments last.inputs).trans
        ((deleteStages_tournaments last.stages).trans hrest)))
  rw [last.deleted, hlast]

/-! ## 4. What a call does to the tournaments -/

/-- The tournaments after an accepted call. -/
inductive TournamentEffect (db : Database) : Call → Database → Prop
  | kept {call : Call} {db' : Database} (h : db'.tournaments = db.tournaments) :
      TournamentEffect db call db'
  | created {body : TournamentBody} {db' : Database}
      (h : db'.tournaments = db.tournaments.insert body.row body.key_row)
      (unique : noTwoAgree (·.dashboardEndpoint) db'.tournaments.rows = true) :
      TournamentEffect db (.createTournament body) db'
  | settings {tid : TournamentId} {body : TournamentUpdateBody} {db' : Database}
      (h : db'.tournaments = db.tournaments.update (fun t => t.id == tid) body.write body.key_write)
      (unique : noTwoAgree (·.dashboardEndpoint) db'.tournaments.rows = true) :
      TournamentEffect db (.request tid (.updateTournamentById body)) db'
  | status {tid : TournamentId} {status : TournamentStatus} {db' : Database}
      (h : db'.tournaments = db.tournaments.update (fun t => t.id == tid)
        (fun t => { t with status := status }) fun _ => rfl) :
      TournamentEffect db (.request tid (.changeStatus status)) db'
  | logo {tid : TournamentId} {filename : Option String} {db' : Database}
      (h : db'.tournaments = db.tournaments.update (fun t => t.id == tid)
        (fun t => { t with logoPath := filename }) fun _ => rfl) :
      TournamentEffect db (.request tid (.uploadLogo filename)) db'
  | deleted {tid : TournamentId} {db' : Database}
      (h : db'.tournaments = db.tournaments.delete fun t => t.id == tid) :
      TournamentEffect db (.request tid .deleteTournament) db'

/-- **Which calls change the tournaments, and how.** -/
theorem Call.tournamentEffect (hdb : Isolated db) {env : Environment} {call : Call}
    (h : call.handle env db = .ok db') : TournamentEffect db call db' := by
  cases call with
  | createTournament body =>
    obtain ⟨-, hunique, rfl⟩ := createTournament_ok h
    exact .created rfl hunique
  | request tid r =>
    have h : r.handle env db tid = .ok db' := h
    cases r with
    | updateTournamentById body =>
      obtain ⟨-, hunique, h⟩ := updateTournamentById_ok h
      have hsame : db'.tournaments =
          db.tournaments.update (fun t => t.id == tid) body.write body.key_write :=
        congrArg Prod.fst (scheduleAllMatches_heads h)
      exact .settings hsame (hsame ▸ hunique)
    | deleteTournament => exact .deleted (deleteTournament_tournaments h)
    | changeStatus status =>
      obtain ⟨-, rfl⟩ := changeStatus_ok h
      exact .status rfl
    | uploadLogo filename =>
      obtain ⟨-, rfl⟩ := uploadLogo_ok h
      exact .logo rfl
    | _ => exact .kept (Request.tournaments hdb h trivial)

/-- A rewritten row of a table. -/
theorem mem_update_tournaments {p : TournamentRow → Bool} {f : TournamentRow → TournamentRow}
    {hf : ∀ t, key (f t) = key t} {t : TournamentRow}
    (ht : t ∈ (db.tournaments.update p f hf).rows) :
    ∃ old ∈ db.tournaments.rows, t = if p old then f old else old := by
  rw [Table.rows_update] at ht
  obtain ⟨old, hold, rfl⟩ := List.mem_map.mp ht
  exact ⟨old, hold, rfl⟩

/-- A written tournament keeps its id and its club. -/
theorem club_of_update {p : TournamentRow → Bool} {f : TournamentRow → TournamentRow}
    {hf : ∀ t, key (f t) = key t} {t : TournamentRow}
    (ht : t ∈ (db.tournaments.update p f hf).rows) (hclub : ∀ old, (f old).clubId = old.clubId) :
    ∃ old ∈ db.tournaments.rows, old.id = t.id ∧ old.clubId = t.clubId := by
  obtain ⟨old, hold, rfl⟩ := mem_update_tournaments ht
  refine ⟨old, hold, ?_⟩
  split
  · exact ⟨(hf old).symm, (hclub old).symm⟩
  · exact ⟨rfl, rfl⟩

/-- **A tournament stays with the club that it was created for.** -/
theorem Call.club_of (hdb : Isolated db) {env : Environment} {call : Call}
    (h : call.handle env db = .ok db') {t : TournamentRow} (ht : t ∈ db'.tournaments.rows) :
    (∃ old ∈ db.tournaments.rows, old.id = t.id ∧ old.clubId = t.clubId) ∨
      ∃ body, call = .createTournament body ∧ t.clubId = body.clubId := by
  cases Call.tournamentEffect hdb h with
  | kept hsame => exact .inl ⟨t, hsame ▸ ht, rfl, rfl⟩
  | created hsame =>
    rw [hsame] at ht
    rcases (Table.mem_insert _).mp ht with hold | rfl
    · exact .inl ⟨t, hold, rfl, rfl⟩
    · exact .inr ⟨_, rfl, rfl⟩
  | settings hsame =>
    rw [hsame] at ht
    exact .inl (club_of_update ht fun _ => rfl)
  | status hsame =>
    rw [hsame] at ht
    exact .inl (club_of_update ht fun _ => rfl)
  | logo hsame =>
    rw [hsame] at ht
    exact .inl (club_of_update ht fun _ => rfl)
  | deleted hsame =>
    rw [hsame] at ht
    exact .inl ⟨t, (db.tournaments.mem_delete.mp ht).1, rfl, rfl⟩

end Brackets
