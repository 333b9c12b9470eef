/-
  File:      Brackets/Progress/Thinning.lean
  Subject:   The requests after which nothing new can reach a match.

  All of them but those that create matches or move one: deletions take matches, rounds and inputs
  away, score entries and activations leave every match in its place, and the winners of a bracket
  move on to where they could be.
-/
import Brackets.Progress.Heads
import Brackets.Progress.ItemRequests
import Brackets.Progress.Origins

namespace Brackets

open Library

variable {db db' : Database} {tid : TournamentId}

/-! ## 1. Other tables -/

/-- The matches stay, and so do the places of their rounds and inputs. -/
theorem Thins.of_tables (hmatches : db'.matches_ = db.matches_)
    (hrounds : ∀ m ∈ db.matches_.rows, ∀ k, db'.roundItem m.roundId = some k →
      db.roundItem m.roundId = some k)
    (hbrackets : ∀ k m, db.InItem k m → db'.IsBracket k → db.IsBracket k)
    (hinputs : ∀ m ∈ db.matches_.rows, ∀ side i k, m.inputId side = some i →
      db'.inputItem i = some k → db.inputItem i = some k) : Thins db db' where
  rows m hm := ⟨m, .of_lineup (hmatches ▸ hm) rfl⟩
  rounds m hm k hk := hrounds m (hmatches ▸ hm) k hk
  brackets k m hm hk :=
    hbrackets k m ⟨hmatches ▸ hm.1, hrounds m (hmatches ▸ hm.1) k hm.2⟩ hk
  inputs m hm side i k hi hk := hinputs m (hmatches ▸ hm) side i k hi hk

/-- None of the tables that say where a match is. -/
theorem Thins.of_same (hmatches : db'.matches_ = db.matches_) (hrounds : db'.rounds = db.rounds)
    (hitems : db'.stageItems = db.stageItems) (hinputs : db'.stageItemInputs = db.stageItemInputs) :
    Thins db db' := by
  refine .of_tables hmatches (fun m _ k hk => ?_) (fun k _ _ hk => ?_)
    fun _ _ _ i k _ hk => ?_
  · rwa [Database.roundItem, hrounds] at hk
  · rwa [Database.IsBracket, hitems] at hk
  · rwa [Database.inputItem, hinputs] at hk

/-! ## 2. Deletions -/

theorem Reseats.deleteMatches (db : Database) (p : MatchRow → Bool) :
    Reseats db (deleteMatches db p) := by
  refine ⟨rfl, fun m' hm' => ?_⟩
  obtain ⟨m, hm, rfl⟩ := List.mem_map.mp hm'
  refine ⟨m, (db.matches_.mem_delete.mp hm).1, rfl, rfl, fun side j hj => ?_, fun side i hi => ?_⟩
  · cases side with
    | one => exact (Option.filter_eq_some_iff.mp hj).1
    | two => exact (Option.filter_eq_some_iff.mp hj).1
  · refine .stored (db.matches_.mem_delete.mp hm).1 ?_
    cases side with
    | one => exact hi
    | two => exact hi

theorem Thins.deleteInputs {p : StageItemInputRow → Bool} (h : deleteInputs db p = .ok db') :
    Thins db db' := by
  obtain ⟨-, rfl⟩ := deleteInputs_ok h
  refine .of_tables rfl (fun _ _ _ hk => hk) (fun _ _ _ hk => hk) fun _ _ _ i k _ hk => ?_
  obtain ⟨row, hrow, hk⟩ := Option.map_eq_some_iff.mp hk
  rw [Table.find?_delete] at hrow
  exact Option.map_eq_some_iff.mpr ⟨row, (Option.filter_eq_some_iff.mp hrow).1, hk⟩

theorem Thins.dropRounds (db : Database) (p : RoundRow → Bool) :
    Thins db { db with rounds := db.rounds.delete p } := by
  refine .of_tables rfl (fun m _ k hk => ?_) (fun _ _ _ hk => hk) fun _ _ _ _ _ _ hk => hk
  obtain ⟨row, hrow, hk⟩ := Option.map_eq_some_iff.mp hk
  rw [Table.find?_delete] at hrow
  exact Option.map_eq_some_iff.mpr ⟨row, (Option.filter_eq_some_iff.mp hrow).1, hk⟩

theorem Thins.deleteRounds (db : Database) (p : RoundRow → Bool) :
    Thins db (deleteRounds db p) :=
  (Reseats.deleteMatches db fun m => (db.rounds.find? m.roundId).any p).thins.trans
    (.dropRounds _ p)

theorem Thins.deleteStageItems {p : StageItemRow → Bool} (h : deleteStageItems db p = .ok db') :
    Thins db db' := by
  obtain ⟨db2, h2, h⟩ := bind_eq_ok.mp h
  have hrows := (Thins.deleteRounds db _).trans (.deleteInputs h2)
  cases h
  refine hrows.trans (.of_tables rfl (fun _ _ _ hk => hk) (fun k _ _ hk => ?_)
    fun _ _ _ i k _ hk => ?_)
  · obtain ⟨row, hrow, htype⟩ := hk
    have hrow : (db2.stageItems.delete p).find? k = some row := hrow
    rw [Table.find?_delete] at hrow
    exact ⟨row, (Option.filter_eq_some_iff.mp hrow).1, htype⟩
  · obtain ⟨row, hrow, hk⟩ := Option.map_eq_some_iff.mp hk
    unfold forgetStageItems at hrow
    dsimp only at hrow
    rw [Table.find?_update] at hrow
    obtain ⟨old, hold, rfl⟩ := Option.map_eq_some_iff.mp hrow
    refine Option.map_eq_some_iff.mpr ⟨old, hold, ?_⟩
    split at hk
    · exact hk
    · exact hk

theorem Thins.deleteStages {p : StageRow → Bool} (h : deleteStages db p = .ok db') :
    Thins db db' := by
  obtain ⟨db1, h1, h⟩ := bind_eq_ok.mp h
  cases h
  exact (Thins.deleteStageItems h1).trans (.of_same rfl rfl rfl rfl)

theorem Thins.deleteRankings {p : RankingRow → Bool} (h : deleteRankings db p = .ok db') :
    Thins db db' := by
  obtain ⟨db1, h1, h⟩ := bind_eq_ok.mp h
  cases h
  exact (Thins.deleteStageItems h1).trans (.of_same rfl rfl rfl rfl)

theorem Thins.deleteTeams {p : TeamRow → Bool} (h : deleteTeams db p = .ok db') :
    Thins db db' := by
  obtain ⟨-, rfl⟩ := deleteTeams_ok h
  exact .of_same rfl rfl rfl rfl

/-- What every turn of a loop thins, the loop thins. -/
theorem Thins.foldlM {β : Type} {f : Database → β → Outcome Database}
    (hstep : ∀ d b d', f d b = .ok d' → Thins d d') {l : List β} (h : l.foldlM f db = .ok db') :
    Thins db db' :=
  foldlM_invariant (P := Thins db) (fun d b d' hd hf => hd.trans (hstep d b d' hf)) (.refl db) h

theorem Thins.foldl {β : Type} {f : Database → β → Database} (hstep : ∀ d b, Thins d (f d b))
    (l : List β) (db : Database) : Thins db (l.foldl f db) := by
  induction l generalizing db with
  | nil => exact .refl db
  | cons b l ih => exact (hstep db b).trans (ih (f db b))

/-- A deleted tournament leaves the matches of the others in their places. -/
theorem Thins.deleteTournament (h : deleteTournament db tid = .ok db') : Thins db db' := by
  obtain ⟨e⟩ := sqlDeleteTournamentCompletely_steps h
  obtain ⟨last⟩ := sqlDeleteTournament_steps e.tournament
  have hitem : ∀ (d : Database) (item : StageItemWithRounds),
      Thins d (sqlDeleteMatchesForStageItemId d item.id) := fun d item =>
    (Reseats.deleteMatches d _).thins
  have hmatches := Thins.foldl hitem ((fullTournamentDetails db tid {}).flatMap (·.stageItems)) db
  have hrelations := hmatches.trans (.foldlM
    (fun _ _ _ hd => (Thins.deleteRounds _ _).trans (.deleteInputs hd)) e.relations)
  have hstages := hrelations.trans (.foldlM (fun d stage d' hd => ?_) e.stages)
  · have hrankings := hstages.trans (.foldlM (fun _ _ _ hd => .deleteRankings hd) e.rankings)
    have hplayers := hrankings.trans (.of_same rfl rfl rfl rfl :
      Thins e.unranked (deletePlayers e.unranked (·.tournamentId == tid)))
    have hlast := (((hplayers.trans (.deleteTeams e.teams)).trans (.deleteStages last.stages)).trans
      (.deleteInputs last.inputs)).trans (.deleteRankings last.rankings)
    have hlastPlayers := hlast.trans (.of_same rfl rfl rfl rfl :
      Thins last.unranked (deletePlayers last.unranked (·.tournamentId == tid)))
    have hall := hlastPlayers.trans (.deleteTeams last.teams)
    rw [last.deleted]
    exact hall.trans (.of_same rfl rfl rfl rfl)
  · obtain ⟨d1, hd1, hd⟩ := bind_eq_ok.mp hd
    obtain ⟨d2, hd2, hd⟩ := bind_eq_ok.mp hd
    exact ((Thins.foldlM (fun _ _ _ h => .deleteStageItems h) hd1).trans
      (.deleteStageItems hd2)).trans (.deleteStages hd)

theorem Thins.deleteStageItem {k : StageItemId} (h : deleteStageItem db tid k = .ok db') :
    Thins db db' := by
  obtain ⟨e⟩ := deleteStageItem_ok h
  obtain ⟨db1, h1, hitem⟩ := bind_eq_ok.mp e.deletion
  have hrows := (((Reseats.deleteMatches db _).thins.trans (.deleteInputs h1)).trans
    (.deleteRounds _ _)).trans (.deleteStageItems hitem)
  exact hrows.trans (Reseats.scheduleAllMatches e.planning).thins

theorem Thins.deleteRound {E : ExpectedScore} {k : RoundId} (h : deleteRound E db tid k = .ok db') :
    Thins db db' := by
  obtain ⟨e⟩ := deleteRound_ok h
  have hmatch : ∀ (d : Database) (m : Match), Thins d (sqlDeleteMatch d m.id) := fun d m =>
    (Reseats.deleteMatches d _).thins
  have hround : ∀ d : Database, Thins d (sqlDeleteRound d k) := fun d =>
    (Reseats.deleteMatches d _).thins.trans (.dropRounds _ _)
  have hrows := (Thins.foldl hmatch e.round.matches_ db).trans (hround _)
  exact hrows.trans ((Reseats.recalculateRanking e.recalculation).trans
    (.scheduleAllMatches e.planning)).thins

theorem Thins.deleteMatch {E : ExpectedScore} {k : MatchId} (h : deleteMatch E db tid k = .ok db') :
    Thins db db' := by
  obtain ⟨e⟩ := deleteMatch_ok h
  exact (((Reseats.deleteMatches db _).trans (.recalculateRanking e.recalculation)).trans
    (.scheduleAllMatches e.planning)).thins

/-! ## 3. Requests that leave the matches in their places -/

theorem sqlSetTeamId_lineup {k : StageItemInputId} {teamId : Option TeamId}
    (h : sqlSetTeamIdForStageItemInput db tid k teamId = .ok db') : db'.lineup = db.lineup := by
  unfold sqlSetTeamIdForStageItemInput at h
  dsimp only at h
  split at h
  · cases h
    rfl
  · cases h

theorem clearScores_lineup (db : Database) (tid : TournamentId) (k : StageItemId) :
    (clearScoresForMatchesInStageItem db tid k).lineup = db.lineup := lineup_update fun _ => rfl

/-- An activation writes scores, teams and flags. -/
theorem Reseats.activateNextStage {E : ExpectedScore} {direction : Direction}
    (h : activateNextStage E db tid direction = .ok db') : Reseats db db' := by
  refine .of_lineup (layout_of_outline (outline_of_skeleton (activateNextStage_skeleton h))) ?_
  obtain ⟨k, db1, -, -, hwrites, rfl⟩ := activateNextStage_ok h
  have hlineup : db1.lineup = db.lineup := by
    cases hwrites with
    | entered h1 =>
      obtain ⟨updates, -, h1⟩ := bind_eq_ok.mp h1
      exact foldlM_project Database.lineup (fun _ _ _ => sqlSetTeamId_lineup) h1
    | left _ h1 =>
      refine foldlM_project Database.lineup (fun d item d' hitem => ?_) h1
      exact (foldlM_project Database.lineup (fun _ _ _ => sqlSetTeamId_lineup) hitem).trans
        (clearScores_lineup d tid item.id)
    | nothing _ => rfl
  exact hlineup

theorem Reseats.updateStageItem {E : ExpectedScore} {k : StageItemId} {body : StageItemUpdateBody}
    (h : updateStageItem E db tid k body = .ok db') : Reseats db db' := by
  obtain ⟨⟨item, -, hfound, refresh⟩⟩ := updateStageItem_ok h
  obtain ⟨row, hrow, -, rfl, -⟩ := getStageItem_eq_ok.mp hfound
  have hid : row.id = k := db.stageItems.key_of_find? hrow
  have hname : Reseats db (sqlUpdateStageItemName db row.id body.name) :=
    .of_lineup (layout_of_outline (outline_of_skeleton (skeleton_stageItems fun _ _ _ => rfl))) rfl
  exact hname.refresh (hid.symm ▸ hrow) refresh

theorem Thins.updateRankingById {E : ExpectedScore} {k : RankingId} {body : RankingBody}
    (h : updateRankingById E db tid k body = .ok db') : Thins db db' := by
  obtain ⟨-, -, h⟩ := updateRankingById_ok h
  have hranking : Thins db (sqlUpdateRanking db tid k body) := .of_same rfl rfl rfl rfl
  refine hranking.trans (.foldlM (fun d i d' hd => ?_) h)
  obtain ⟨item, hitem, ⟨e⟩⟩ := refreshStageItem_ok hd
  obtain ⟨row, hrow, -, rfl, -⟩ := getStageItem_eq_ok.mp hitem
  have hid : row.id = i := d.stageItems.key_of_find? hrow
  exact ((Reseats.refl d).refresh (hid.symm ▸ hrow) e).thins

theorem Thins.updateStageItemInput {stageItemId : StageItemId} {k : StageItemInputId}
    {body : StageItemInputUpdateBody}
    (h : updateStageItemInput db tid stageItemId k body = .ok db') :
    Thins db db' := by
  obtain ⟨e⟩ := updateStageItemInput_ok h
  rw [e.stored]
  refine .of_tables rfl (fun _ _ _ hk => hk) (fun _ _ _ hk => hk) fun _ _ _ i k _ hk => ?_
  obtain ⟨row, hrow, hk⟩ := Option.map_eq_some_iff.mp hk
  unfold sqlUpdateStageItemInput at hrow
  dsimp only at hrow
  rw [Table.find?_update] at hrow
  obtain ⟨old, hold, rfl⟩ := Option.map_eq_some_iff.mp hrow
  refine Option.map_eq_some_iff.mpr ⟨old, hold, ?_⟩
  split at hk
  · exact hk
  · exact hk

theorem Reseats.updateRoundById {k : RoundId} {body : RoundUpdateBody}
    (h : updateRoundById db tid k body = .ok db') : Reseats db db' := by
  refine .of_lineup (layout_of_outline (outline_of_skeleton (updateRoundById_skeleton h))) ?_
  obtain ⟨-, -, rfl⟩ := updateRoundById_ok h
  rfl

theorem Thins.updateStage {k : StageId} {body : StageUpdateBody}
    (h : updateStage db tid k body = .ok db') : Thins db db' := by
  have hupdate : Thins db (sqlUpdateStage db tid k body) := .of_same rfl rfl rfl rfl
  obtain ⟨stage, -, -, ⟨-, rfl⟩ | hplanned⟩ := updateStage_ok h
  · exact hupdate
  · exact hupdate.trans (Reseats.scheduleAllMatches hplanned).thins

theorem Thins.of_ranked (h : db'.ranked = db.ranked) : Thins db db' := by
  have hmatches : db'.ranked.matches_ = db.ranked.matches_ := by rw [h]
  have hrounds : db'.ranked.rounds = db.ranked.rounds := by rw [h]
  have hitems : db'.ranked.stageItems = db.ranked.stageItems := by rw [h]
  have hinputs : db'.ranked.stageItemInputs = db.ranked.stageItemInputs := by rw [h]
  exact .of_same hmatches hrounds hitems hinputs

/-- **After most requests nothing new can reach a match.** -/
theorem Request.thins (hdb : Isolated db) {env : Environment} {r : Request}
    (h : r.handle env db tid = .ok db') (hr : match r with
      | .createStageItem _ | .createRound _ | .createMatch _ | .updateMatchById _ _ => False
      | _ => True) : Thins db db' := by
  cases r with
  | createStageItem body => exact hr.elim
  | createRound body => exact hr.elim
  | createMatch body => exact hr.elim
  | updateMatchById k body => exact hr.elim
  | updateTournamentById body =>
    obtain ⟨-, -, h⟩ := updateTournamentById_ok h
    refine Thins.trans ?_ (Reseats.scheduleAllMatches h).thins
    exact .of_same rfl rfl rfl rfl
  | deleteTournament => exact .deleteTournament h
  | createStage =>
    obtain ⟨-, -, rfl⟩ := createStage_ok h
    exact .of_same rfl rfl rfl rfl
  | updateStage k body => exact .updateStage h
  | deleteStage k =>
    obtain ⟨-, rfl⟩ := deleteStage_eq h
    exact .of_same rfl rfl rfl rfl
  | activateNextStage direction => exact (Reseats.activateNextStage h).thins
  | updateStageItem k body => exact (Reseats.updateStageItem h).thins
  | deleteStageItem k => exact .deleteStageItem h
  | updateStageItemInput stageItemId k body => exact .updateStageItemInput h
  | updateRoundById k body => exact (Reseats.updateRoundById h).thins
  | deleteRound k => exact .deleteRound h
  | deleteMatch k => exact .deleteMatch h
  | scheduleMatches => exact (Reseats.scheduleAllMatches (scheduleMatches_ok h).2).thins
  | createRanking body =>
    obtain ⟨-, -, rfl⟩ := createRanking_ok h
    exact .of_same rfl rfl rfl rfl
  | updateRankingById k body => exact .updateRankingById h
  | deleteRanking k =>
    rw [deleteRanking_eq hdb h]
    exact .of_same rfl rfl rfl rfl
  | _ => exact .of_ranked (Request.ranked h trivial)

end Brackets
