/-
  File:      Brackets/Progress/Seats.lean
  Subject:   A team has one slot of a stage item.

  The two statements that seat a team check the unique constraint on (stage_item_id, team_id).
  Every other statement seats nobody: what is seated afterwards was seated before (`SeatsNobody`).
  So the constraint holds in every state: `Runs.teamsOnce`.
-/
import Brackets.Progress.Activation
import Brackets.Progress.TournamentDeletion

namespace Brackets

open Library

/-! ## 1. Who is seated -/

/-- The seated teams with their stage items. -/
def Database.seated (db : Database) : List (StageItemId × TeamId) :=
  db.stageItemInputs.rows.filterMap (·.teamKey)

theorem noTwoAgree_iff_nodup {α β : Type} [DecidableEq β] (f : α → Option β) (l : List α) :
    noTwoAgree f l = true ↔ (l.filterMap f).Nodup := by
  induction l with
  | nil => exact iff_of_true rfl List.nodup_nil
  | cons a l ih =>
    have hrest : noTwoAgree f (a :: l) = true ↔
        ((f a).all fun b => l.all fun c => f c != some b) = true ∧ noTwoAgree f l = true := by
      rw [noTwoAgree, Bool.and_eq_true]
    rw [hrest, ih]
    cases ha : f a with
    | none =>
      rw [List.filterMap_cons_none ha]
      exact and_iff_right rfl
    | some b =>
      rw [List.filterMap_cons_some ha, List.nodup_cons, List.mem_filterMap]
      refine and_congr_left fun _ => ?_
      simp

theorem teamsOnce_iff (db : Database) : TeamsOnce db ↔ db.seated.Nodup :=
  noTwoAgree_iff_nodup _ _

/-- Whoever is seated afterwards was seated before. -/
def SeatsNobody (db db' : Database) : Prop := db'.seated.Sublist db.seated

namespace SeatsNobody

variable {db db' db'' : Database} {tid : TournamentId}

theorem refl (db : Database) : SeatsNobody db db := List.Sublist.refl _

theorem trans (h : SeatsNobody db db') (h' : SeatsNobody db' db'') : SeatsNobody db db'' :=
  List.Sublist.trans h' h

theorem teamsOnce (h : SeatsNobody db db') (hdb : TeamsOnce db) : TeamsOnce db' :=
  (teamsOnce_iff db').mpr (List.Sublist.nodup h ((teamsOnce_iff db).mp hdb))

/-- The slot that a team had before. -/
theorem seat (h : SeatsNobody db db') {i' : StageItemInputRow} (hi' : i' ∈ db'.stageItemInputs.rows)
    (hteam : i'.teamId.isSome = true) : ∃ i ∈ db.stageItemInputs.rows,
      i.stageItemId = i'.stageItemId ∧ i.teamId = i'.teamId := by
  obtain ⟨t, ht⟩ := Option.isSome_iff_exists.mp hteam
  have hseated : (i'.stageItemId, t) ∈ db'.seated :=
    List.mem_filterMap.mpr ⟨i', hi', by rw [StageItemInputRow.teamKey, ht, Option.map_some]⟩
  obtain ⟨i, hi, hkey⟩ := List.mem_filterMap.mp (h.subset hseated)
  obtain ⟨t', ht', e⟩ := Option.map_eq_some_iff.mp hkey
  obtain ⟨hitem, rfl⟩ := Prod.mk.inj e
  exact ⟨i, hi, hitem, ht'.trans ht.symm⟩

theorem foldl {β : Type} {f : Database → β → Database} (hf : ∀ db b, SeatsNobody db (f db b))
    (l : List β) (db : Database) : SeatsNobody db (l.foldl f db) := by
  induction l generalizing db with
  | nil => exact .refl db
  | cons b l ih => exact (hf db b).trans (ih (f db b))

theorem foldlM {β : Type} {f : Database → β → Outcome Database}
    (hf : ∀ db b db', f db b = .ok db' → SeatsNobody db db') {l : List β}
    (h : l.foldlM f db = .ok db') : SeatsNobody db db' :=
  foldlM_invariant (P := SeatsNobody db) (fun d b d' hd hstep => hd.trans (hf d b d' hstep))
    (.refl db) h

/-! ## 2. Statements -/

theorem of_seated (h : db'.seated = db.seated) : SeatsNobody db db' := by
  rw [SeatsNobody, h]

theorem of_inputs (h : db'.stageItemInputs = db.stageItemInputs) : SeatsNobody db db' :=
  of_seated (by rw [Database.seated, Database.seated, h])

theorem after (h' : SeatsNobody db' db'') (h : db'.stageItemInputs = db.stageItemInputs) :
    SeatsNobody db db'' := (of_inputs h).trans h'

theorem of_bare (h : db'.bare = db.bare) : SeatsNobody db db' := by
  have hbare : ∀ d : Database, d.seated = d.bare.stageItemInputs.rows.filterMap (·.teamKey) := by
    intro d
    have hrows : d.bare.stageItemInputs.rows =
        d.stageItemInputs.rows.map StageItemInputRow.unscored := rfl
    rw [hrows, List.filterMap_map]
    rfl
  exact of_seated (by rw [hbare, hbare, h])

theorem of_untimed (h : db'.untimed = db.untimed) : SeatsNobody db db' := of_bare (bare_of_untimed h)

theorem scheduled (h : scheduleAllMatches db tid = .ok db') : SeatsNobody db db' :=
  of_untimed (scheduleAllMatches_untimed h)

theorem recalculated {E : ExpectedScore} {item : StageItemWithRounds}
    (h : recalculateRankingForStageItem E db tid item = .ok db') : SeatsNobody db db' :=
  of_bare (bare_of_unscored (recalculateRanking_unscored h))

theorem propagated {item : StageItemWithRounds} {r : RoundId} {ids : Option (List MatchId)}
    (h : updateInputsInSubsequentEliminationRounds db r item ids = .ok db') : SeatsNobody db db' := by
  obtain ⟨updates, -, h⟩ := bind_eq_ok.mp h
  cases h
  exact of_inputs (foldl_project Database.stageItemInputs
    (fun db (e : MatchId × Match) => setInputIds db e.2) (fun _ _ => rfl) _ _)

theorem completed {item : StageItemWithRounds}
    (h : updateInputsInCompleteEliminationStageItem db item = .ok db') : SeatsNobody db db' :=
  foldlM (fun _ _ _ => propagated) h

theorem insertEmpty (k : StageItemId) (slot : Int) :
    SeatsNobody db (sqlCreateEmptyInput tid k db slot) := by
  refine of_seated ?_
  rw [Database.seated, sqlCreateEmptyInput, Table.rows_insert, List.filterMap_append]
  exact List.append_nil _

theorem delete (p : StageItemInputRow → Bool) :
    SeatsNobody db { db with stageItemInputs := db.stageItemInputs.delete p } :=
  List.filter_sublist.filterMap _

theorem deleteInputs {p : StageItemInputRow → Bool} (h : deleteInputs db p = .ok db') :
    SeatsNobody db db' := by
  obtain ⟨-, rfl⟩ := deleteInputs_ok h
  exact delete p

theorem forget (ids : List StageItemId) : SeatsNobody db (forgetStageItems db ids) := by
  refine of_seated ?_
  rw [Database.seated, forgetStageItems, Table.rows_update, List.filterMap_map]
  refine List.filterMap_congr fun i _ => ?_
  rw [Function.comp]
  split <;> rfl

theorem deleteStageItems {p : StageItemRow → Bool} (h : deleteStageItems db p = .ok db') :
    SeatsNobody db db' := by
  obtain ⟨db1, h1, h⟩ := bind_eq_ok.mp h
  cases h
  have hrounds : SeatsNobody db (deleteRounds db fun r =>
      ((db.stageItems.rows.filter p).map (·.id)).contains r.stageItemId) := of_inputs rfl
  exact (hrounds.trans (deleteInputs h1)).trans ((of_inputs rfl).trans (forget _))

theorem deleteStages {p : StageRow → Bool} (h : deleteStages db p = .ok db') :
    SeatsNobody db db' := by
  obtain ⟨db1, h1, h⟩ := bind_eq_ok.mp h
  cases h
  exact (deleteStageItems h1).trans (of_inputs rfl)

theorem sqlDeleteStage {k : StageId} (h : sqlDeleteStage db tid k = .ok db') : SeatsNobody db db' := by
  obtain ⟨db1, h1, h⟩ := bind_eq_ok.mp h
  exact (deleteStageItems h1).trans (deleteStages h)

theorem deleteRankings {p : RankingRow → Bool} (h : deleteRankings db p = .ok db') :
    SeatsNobody db db' := by
  obtain ⟨db1, h1, h⟩ := bind_eq_ok.mp h
  cases h
  exact (deleteStageItems h1).trans (of_inputs rfl)

theorem deleteTeams {p : TeamRow → Bool} (h : deleteTeams db p = .ok db') : SeatsNobody db db' := by
  obtain ⟨-, rfl⟩ := deleteTeams_ok h
  exact of_inputs rfl

theorem sqlDeleteStageItemWithForeignKeys {k : StageItemId}
    (h : sqlDeleteStageItemWithForeignKeys db k = .ok db') : SeatsNobody db db' := by
  obtain ⟨db1, h1, h⟩ := bind_eq_ok.mp h
  have hmatches : SeatsNobody db (sqlDeleteMatchesForStageItemId db k) := of_inputs rfl
  have hrounds : SeatsNobody db1 (sqlDeleteRoundsForStageItemId db1 k) := of_inputs rfl
  have hitem : SeatsNobody (sqlDeleteRoundsForStageItemId db1 k) db' := deleteStageItems h
  exact ((hmatches.trans (deleteInputs h1)).trans hrounds).trans hitem

theorem sqlDeleteStageItemRelations {k : StageItemId}
    (h : sqlDeleteStageItemRelations db k = .ok db') : SeatsNobody db db' := by
  have hrounds : SeatsNobody db (sqlDeleteRoundsForStageItemId db k) := of_inputs rfl
  exact hrounds.trans (deleteInputs h)

theorem sqlDeleteTournament (h : sqlDeleteTournament db tid = .ok db') : SeatsNobody db db' := by
  obtain ⟨e⟩ := sqlDeleteTournament_steps h
  have hplayers : SeatsNobody e.unranked (deletePlayers e.unranked (·.tournamentId == tid)) :=
    of_inputs rfl
  have hlast : SeatsNobody e.unteamed db' :=
    of_inputs ((congrArg Database.stageItemInputs e.deleted).trans rfl)
  exact ((((deleteStages e.stages).trans (deleteInputs e.inputs)).trans
    (deleteRankings e.rankings)).trans hplayers).trans ((deleteTeams e.teams).trans hlast)

theorem sqlDeleteTournamentCompletely (h : sqlDeleteTournamentCompletely db tid = .ok db') :
    SeatsNobody db db' := by
  obtain ⟨e⟩ := sqlDeleteTournamentCompletely_steps h
  have hmatches := foldl (f := fun db (item : StageItemWithRounds) =>
    sqlDeleteMatchesForStageItemId db item.id) (fun _ _ => of_inputs rfl)
    ((fullTournamentDetails db tid {}).flatMap (·.stageItems)) db
  have hrelations := foldlM (fun _ _ _ => sqlDeleteStageItemRelations) e.relations
  have hstages := foldlM (fun d stage d' hstep => by
    obtain ⟨d1, h1, hstep⟩ := bind_eq_ok.mp hstep
    exact (foldlM (fun _ _ _ => deleteStageItems) h1).trans (sqlDeleteStage hstep)) e.stages
  have hrankings := foldlM (fun _ _ _ => deleteRankings) e.rankings
  have hplayers : SeatsNobody e.unranked (deletePlayers e.unranked (·.tournamentId == tid)) :=
    of_inputs rfl
  exact ((((hmatches.trans hrelations).trans hstages).trans hrankings).trans hplayers).trans
    ((deleteTeams e.teams).trans (sqlDeleteTournament e.tournament))

theorem iterate {f : Database → Database} (hf : ∀ db, SeatsNobody db (f db)) (n : Nat)
    (db : Database) : SeatsNobody db (f^[n] db) := by
  induction n generalizing db with
  | zero => exact .refl db
  | succ n ih => exact (hf db).trans (ih (f db))

theorem buildMatchesForStageItem {E : ExpectedScore} {item : StageItemRow}
    (h : buildMatchesForStageItem E db item tid = .ok db') : SeatsNobody db db' := by
  obtain ⟨n, loaded, bodies, -, -, hbuilt⟩ := buildMatches_ok h
  have hmatches := (iterate (f := createNextRound tid item.id) (fun _ => of_inputs rfl) n db).trans
    (of_inputs (createMatches_project Database.stageItemInputs (fun _ _ => rfl) bodies _))
  rcases hbuilt with rfl | h
  · exact hmatches
  · exact hmatches.trans (recalculated h)

theorem refresh {E : ExpectedScore} {item : StageItemWithRounds} (e : Refresh E db tid item db') :
    SeatsNobody db db' := by
  have hstats : SeatsNobody db e.recalculated := recalculated e.recalculation
  have hpropagation := e.propagation
  split at hpropagation
  · exact hstats.trans (completed hpropagation)
  · exact Except.ok.inj hpropagation ▸ hstats

end SeatsNobody

/-! ## 3. Requests -/

section Requests

variable {db db' : Database} {tid : TournamentId}

theorem createStageItem_seats {E : ExpectedScore} {body : StageItemCreateBody}
    (h : createStageItem E db tid body = .ok db') : SeatsNobody db db' := by
  obtain ⟨e⟩ := createStageItem_ok h
  have hnew : SeatsNobody db e.new.2 := by
    obtain ⟨rankingId, -, hnew⟩ := sqlCreateStageItem_ok e.created
    rw [hnew]
    have hinputs := SeatsNobody.foldl (f := fun d (i : Nat) =>
      sqlCreateEmptyInput tid db.stageItems.next d (i + 1))
      (fun _ i => .insertEmpty db.stageItems.next (i + 1)) (List.range body.teamCount)
    exact (hinputs _).after rfl
  exact (hnew.trans (.buildMatchesForStageItem e.building)).trans (.scheduled e.planning)

theorem setTeams_teamsOnce {β : Type} {f : β → StageItemInputId} {t : β → Option TeamId} {l : List β}
    (h : l.foldlM (fun db b => sqlSetTeamIdForStageItemInput db tid (f b) (t b)) db = .ok db')
    (hdb : TeamsOnce db) : TeamsOnce db' :=
  foldlM_invariant (P := TeamsOnce) (fun _ _ _ _ hstep => (sqlSetTeamId_ok hstep).2) hdb h

theorem activateNextStage_teamsOnce {E : ExpectedScore} {direction : Direction}
    (h : activateNextStage E db tid direction = .ok db') (hdb : TeamsOnce db) : TeamsOnce db' := by
  obtain ⟨k, db1, -, -, hwrites, rfl⟩ := activateNextStage_ok h
  have hdb1 : TeamsOnce db1 := by
    cases hwrites with
    | entered h1 =>
      obtain ⟨updates, -, h1⟩ := bind_eq_ok.mp h1
      exact setTeams_teamsOnce h1 hdb
    | left _ h1 =>
      exact foldlM_invariant (f := clearStageItem tid) (P := TeamsOnce)
        (fun d item _ hd hstep => setTeams_teamsOnce (f := fun i : StageItemInput => i.id)
          (t := fun _ => none) hstep hd) hdb h1
    | nothing _ => exact hdb
  exact hdb1

theorem updateMatchById_seats {E : ExpectedScore} {k : MatchId} {body : MatchBody}
    (h : updateMatchById E db tid k body = .ok db') : SeatsNobody db db' := by
  obtain ⟨e⟩ := updateMatchById_ok h
  have hscore : SeatsNobody db (sqlUpdateMatch db k body) := .of_inputs rfl
  refine ((hscore.trans (.recalculated e.recalculation)).trans (.of_untimed e.planning)).trans ?_
  have hpropagation := e.propagation
  split at hpropagation
  · exact .propagated hpropagation
  · exact .of_inputs (congrArg Database.stageItemInputs (Except.ok.inj hpropagation).symm)

theorem updateTeamMembers_seats {teamId : TeamId} {playerIds : List PlayerId}
    (h : updateTeamMembers db teamId tid playerIds = .ok db') : SeatsNobody db db' := by
  obtain ⟨team, -, rfl⟩ := updateTeamMembers_ok h
  exact .of_inputs (foldl_project Database.stageItemInputs (fun db p => insertMember db teamId p)
    (fun _ _ => rfl) _ _)

theorem createTeamWithPlayers_seats (now : DateTime) (active : Bool) (db : Database)
    (team : String × List String) : SeatsNobody db (createTeamWithPlayers now tid active db team) :=
  .of_inputs (foldl_project Database.stageItemInputs
    (fun db name => insertMember (insertPlayer db now ⟨name, active⟩ tid).2 _ _) (fun _ _ => rfl) _ _)

/-- **No request seats a team twice in a stage item.** -/
theorem Request.teamsOnce {env : Environment} {r : Request} (h : r.handle env db tid = .ok db')
    (hdb : TeamsOnce db) : TeamsOnce db' := by
  have hseats : ∀ {d : Database}, SeatsNobody db d → TeamsOnce d := fun h => h.teamsOnce hdb
  cases r with
  | updateTournamentById body =>
    obtain ⟨-, -, h⟩ := updateTournamentById_ok h
    exact hseats ((SeatsNobody.scheduled h).after rfl)
  | deleteTournament => exact hseats (.sqlDeleteTournamentCompletely h)
  | changeStatus status =>
    obtain ⟨-, rfl⟩ := changeStatus_ok h
    exact hdb
  | uploadLogo filename =>
    obtain ⟨-, rfl⟩ := uploadLogo_ok h
    exact hdb
  | createStage =>
    obtain ⟨-, -, rfl⟩ := createStage_ok h
    exact hdb
  | updateStage k body =>
    obtain ⟨stage, -, -, ⟨-, rfl⟩ | hplanned⟩ := updateStage_ok h
    · exact hdb
    · exact hseats ((SeatsNobody.scheduled hplanned).after rfl)
  | deleteStage k =>
    obtain ⟨stage, -, -, -, h⟩ := deleteStage_ok h
    exact hseats (.sqlDeleteStage h)
  | activateNextStage direction => exact activateNextStage_teamsOnce h hdb
  | createStageItem body => exact hseats (createStageItem_seats h)
  | updateStageItem k body =>
    obtain ⟨e⟩ := updateStageItem_ok h
    exact hseats ((SeatsNobody.refresh e.refresh).after rfl)
  | deleteStageItem k =>
    obtain ⟨e⟩ := deleteStageItem_ok h
    exact hseats (.trans (.sqlDeleteStageItemWithForeignKeys e.deletion) (.scheduled e.planning))
  | updateStageItemInput stageItemId k body =>
    obtain ⟨e⟩ := updateStageItemInput_ok h
    exact e.teamsOnce
  | createRound body =>
    obtain ⟨e⟩ := createRound_ok h
    have hpairs := SeatsNobody.foldl (f := fun d pair =>
      (sqlCreateMatch d (pairBody e.tournament db.rounds.next pair)).2) (fun _ _ => .of_inputs rfl)
      e.pairing.pairs
    have hall := (hpairs _).trans (.scheduled e.drafted)
    exact hseats (hall.after rfl)
  | updateRoundById k body =>
    obtain ⟨-, -, rfl⟩ := updateRoundById_ok h
    exact hdb
  | deleteRound k =>
    obtain ⟨e⟩ := deleteRound_ok h
    have hmatches := SeatsNobody.foldl (f := fun db (m : Match) => sqlDeleteMatch db m.id)
      (fun _ _ => .of_inputs rfl) e.round.matches_ db
    have hround : ∀ d, SeatsNobody d (sqlDeleteRound d k) := fun _ => .of_inputs rfl
    exact hseats (((hmatches.trans (hround _)).trans (.recalculated e.recalculation)).trans
      (.scheduled e.planning))
  | createMatch body =>
    obtain ⟨e⟩ := createMatch_ok h
    exact hseats ((SeatsNobody.scheduled e.planning).after rfl)
  | updateMatchById k body => exact hseats (updateMatchById_seats h)
  | deleteMatch k =>
    obtain ⟨e⟩ := deleteMatch_ok h
    have hdelete : SeatsNobody db (sqlDeleteMatch db e.row.id) := .of_inputs rfl
    exact hseats ((hdelete.trans (.recalculated e.recalculation)).trans (.scheduled e.planning))
  | scheduleMatches => exact hseats (.scheduled (scheduleMatches_ok h).2)
  | createRanking body =>
    obtain ⟨-, -, rfl⟩ := createRanking_ok h
    exact hdb
  | updateRankingById k body =>
    obtain ⟨-, -, h⟩ := updateRankingById_ok h
    have hupdate : SeatsNobody db (sqlUpdateRanking db tid k body) := .of_inputs rfl
    refine hseats (hupdate.trans (.foldlM (fun d k d' hstep => ?_) h))
    obtain ⟨item, -, ⟨e⟩⟩ := refreshStageItem_ok hstep
    exact .refresh e
  | deleteRanking k =>
    obtain ⟨-, -, -, h⟩ := deleteRanking_ok h
    exact hseats (.deleteRankings h)
  | createTeam body =>
    obtain ⟨-, -, -, h⟩ := createTeam_ok h
    exact hseats ((updateTeamMembers_seats h).after rfl)
  | createMultipleTeams teamsWithPlayers active =>
    obtain ⟨-, -, -, rfl⟩ := createMultipleTeams_ok h
    exact hseats (.foldl (createTeamWithPlayers_seats env.now active) _ _)
  | updateTeamById k body =>
    obtain ⟨team, -, -, -, h⟩ := updateTeamById_ok h
    exact hseats ((updateTeamMembers_seats h).after rfl)
  | updateTeamLogo k filename =>
    obtain ⟨team, -, -, rfl⟩ := updateTeamLogo_ok h
    exact hdb
  | deleteTeam k =>
    obtain ⟨-, -, h⟩ := deleteTeam_ok h
    exact hseats (.deleteTeams h)
  | createSinglePlayer body =>
    obtain ⟨-, -, rfl⟩ := createSinglePlayer_ok h
    exact hdb
  | createMultiplePlayers playerNames active =>
    obtain ⟨-, -, rfl⟩ := createMultiplePlayers_ok h
    exact hseats (.foldl (f := fun d name => (insertPlayer d env.now ⟨name, active⟩ tid).2)
      (fun _ _ => .of_inputs rfl) playerNames db)
  | updatePlayerById k body =>
    obtain ⟨-, -, rfl⟩ := updatePlayerById_ok h
    exact hdb
  | deletePlayer k =>
    obtain ⟨-, rfl⟩ := deletePlayer_ok h
    exact hdb

/-- **After any run a team has at most one slot of a stage item.** -/
theorem Runs.teamsOnce {C : Environment → Database → Call → Prop} (h : Runs C .empty db) :
    TeamsOnce db := by
  refine h.invariant (P := TeamsOnce) (fun env d call d' hd _ hcall => ?_) rfl
  cases call with
  | createTournament body =>
    obtain ⟨-, -, rfl⟩ := createTournament_ok hcall
    exact hd
  | request tid r => exact Request.teamsOnce hcall hd

end Requests

end Brackets
