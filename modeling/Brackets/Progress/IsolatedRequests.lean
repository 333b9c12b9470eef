/-
  File:      Brackets/Progress/IsolatedRequests.lean
  Subject:   Tournaments are isolated from each other.

  Every accepted request closes the ids it is given before it writes: through a dependency of its
  path, the validator of its body (`ForeignKeyField.belongs`), or a WHERE clause. So whatever ids
  the calls carry, no row ever refers to a row of another tournament, and a call changes rows of
  its own tournament only (`tournaments_isolated`).
-/
import Brackets.Progress.IsolatedBuilds
import Brackets.Progress.IsolatedDeletions
import Brackets.Routes.Api

namespace Brackets

open Library

variable {db db' : Database} {tid : TournamentId}

/-! ## 1. What the checks establish -/

section Checked

variable {k : Int}

theorem stage_belongs (h : (ForeignKeyField.stageId k).belongs db tid
    (fullTournamentDetails db tid {}) = true) : db.stageTournament k = some tid := by
  obtain ⟨stage, hs, hk⟩ := List.any_eq_true.mp h
  obtain ⟨s, hrow, rfl, rfl⟩ := (mem_full_stages ⟨rfl, rfl⟩).mp hs
  rw [← eq_of_beq hk]
  exact Database.stageTournament_row hrow

/-- A loaded stage item is a row of the tournament. -/
theorem loaded_stageItem {stage : StageWithStageItems} {item : StageItemWithRounds}
    {f : DetailsFilter} (hs : stage ∈ fullTournamentDetails db tid f) (hi : item ∈ stage.stageItems) :
    db.stageItemTournament item.id = some tid := by
  obtain ⟨s, hsrow, rfl, rfl⟩ := mem_fullTournamentDetails hs
  obtain ⟨i, hirow, hstage, -, rfl⟩ := mem_stageWithStageItems hi
  exact (Database.stageItemTournament_row hirow).trans
    (hstage ▸ Database.stageTournament_row hsrow)

theorem input_belongs (h : (ForeignKeyField.stageItemInputId k).belongs db tid
    (fullTournamentDetails db tid {}) = true) : db.inputTournament k = some tid := by
  obtain ⟨stage, hs, h⟩ := List.any_eq_true.mp h
  obtain ⟨item, hi, h⟩ := List.any_eq_true.mp h
  obtain ⟨input, hinput, hk⟩ := List.any_eq_true.mp h
  obtain ⟨s, -, -, rfl⟩ := (mem_full_stages ⟨rfl, rfl⟩).mp hs
  obtain ⟨i, -, -, rfl⟩ := (mem_full_stageItems ⟨rfl, rfl⟩).mp hi
  rw [stageItemWithRounds, List.mem_insertionSort, List.mem_filter, Bool.and_eq_true,
    beq_iff_eq, beq_iff_eq] at hinput
  obtain ⟨hmem, -, hown⟩ := hinput
  obtain ⟨row, hrow, rfl⟩ := List.mem_map.mp hmem
  rw [← eq_of_beq hk, ← hown]
  exact Database.inputTournament_row (List.mem_filter.mp hrow).1

/-- The load of one stage item finds it if it is the tournament's. -/
theorem source_belongs (h : (fullTournamentDetails db tid (itemFilter k)).isEmpty = false) :
    db.stageItemTournament k = some tid := by
  obtain ⟨stage, hstage⟩ := List.exists_mem_of_ne_nil _ (List.isEmpty_eq_false_iff.mp h)
  obtain ⟨s, hs, rfl⟩ := List.mem_map.mp hstage
  rw [List.mem_filter, Bool.and_eq_true, Bool.and_eq_true, beq_iff_eq] at hs
  obtain ⟨hs, ⟨ht, -⟩, hany⟩ := hs
  rw [show (itemFilter k).stageItemIds.isNone = false from rfl, Bool.false_or] at hany
  obtain ⟨i, hi, hany⟩ := List.any_eq_true.mp hany
  rw [Bool.and_eq_true, beq_iff_eq, itemFilter_stageItem, beq_iff_eq] at hany
  rw [← hany.2, Database.stageItemTournament_row hi, hany.1, Database.stageTournament_row hs, ht]

theorem round_belongs (h : (ForeignKeyField.roundId k).belongs db tid
    (fullTournamentDetails db tid {}) = true) : db.roundTournament k = some tid := by
  obtain ⟨stage, hs, h⟩ := List.any_eq_true.mp h
  obtain ⟨item, hi, h⟩ := List.any_eq_true.mp h
  obtain ⟨round, hr, hk⟩ := List.any_eq_true.mp h
  have hitem := loaded_stageItem hs hi
  obtain ⟨s, -, -, rfl⟩ := (mem_full_stages ⟨rfl, rfl⟩).mp hs
  obtain ⟨i, -, -, rfl⟩ := (mem_full_stageItems ⟨rfl, rfl⟩).mp hi
  obtain ⟨r, hrow, hri, -, rfl⟩ := mem_full_rounds.mp hr
  rw [← eq_of_beq hk]
  exact (Database.roundTournament_row hrow).trans (hri ▸ hitem)

theorem match_belongs (h : (ForeignKeyField.matchId k).belongs db tid
    (fullTournamentDetails db tid {}) = true) : db.matchTournament k = some tid := by
  obtain ⟨stage, hs, h⟩ := List.any_eq_true.mp h
  obtain ⟨item, hi, h⟩ := List.any_eq_true.mp h
  obtain ⟨round, hr, h⟩ := List.any_eq_true.mp h
  obtain ⟨m, hm, hk⟩ := List.any_eq_true.mp h
  obtain ⟨row, hrow, ht, rfl⟩ := mem_tournamentMatches_iff.mp
    (mem_tournamentMatches.mpr ⟨stage, item, round, hs, hi, hr, hm⟩)
  rw [← eq_of_beq hk]
  exact (Database.matchTournament_row hrow).trans ht

theorem ranking_belongs {stages : List StageWithStageItems}
    (h : (ForeignKeyField.rankingId k).belongs db tid stages = true) :
    db.rankingTournament k = some tid := by
  obtain ⟨r, hr, h⟩ := List.any_eq_true.mp h
  rw [Bool.and_eq_true, beq_iff_eq, beq_iff_eq] at h
  rw [← h.2, ← h.1]
  exact Database.rankingTournament_row hr

theorem players_belong {ids : List PlayerId} {stages : List StageWithStageItems}
    (h : (ForeignKeyField.playerIds ids).belongs db tid stages = true) :
    ∀ k ∈ ids, db.playerTournament k = some tid := by
  intro k hk
  obtain ⟨p, hp, h⟩ := List.any_eq_true.mp (List.all_eq_true.mp h k hk)
  rw [Bool.and_eq_true, beq_iff_eq, beq_iff_eq] at h
  rw [← h.2, ← h.1]
  exact Database.playerTournament_row hp

end Checked

/-- A match that the path names is the tournament's. -/
theorem matchDependency_own {k : MatchId} {m : MatchRow} (h : matchDependency db tid k = .ok m) :
    m ∈ db.matches_.rows ∧ m.id = k ∧ db.matchTournament k = some tid := by
  obtain ⟨hm, ht⟩ := matchDependency_ok h
  have hmem := db.matches_.mem_of_find? hm
  have hid : m.id = k := db.matches_.key_of_find? hm
  refine ⟨hmem, hid, ?_⟩
  rw [← hid, Database.matchTournament_row hmem]
  exact ht

theorem teamDependency_own {k : TeamId} {team : TeamRow} (h : teamDependency db tid k = .ok team) :
    db.teamTournament team.id = some tid := by
  obtain ⟨hfind, ht⟩ := teamDependency_ok h
  rw [Database.teamTournament_row (db.teams.mem_of_find? hfind), ht]

/-! ## 2. Requests -/

section Requests

variable (hdb : Isolated db)

include hdb

/-! Matches and rounds. -/

theorem Confined.createMatch {body : MatchCreateBodyFrontend}
    (h : createMatch db tid body = .ok db') : Confined tid db db' := by
  obtain ⟨e⟩ := createMatch_ok h
  have hkeys := e.keys
  have hcreate : Grows tid db (sqlCreateMatch db
      { body with
        durationMinutes := e.tournament.durationMinutes
        marginMinutes := e.tournament.marginMinutes }).2 := by
    refine .sqlCreateMatch hdb ⟨?_, fun k hk => ?_, fun k hk => ?_, fun k hk => ?_, fun k hk => ?_⟩
    · exact round_belongs (hkeys (.roundId body.roundId) (by simp [MatchCreateBodyFrontend.foreignKeys]))
    · refine input_belongs (hkeys (.stageItemInputId k) ?_)
      simp [MatchCreateBodyFrontend.foreignKeys, show body.stageItemInput1Id = some k from hk]
    · refine input_belongs (hkeys (.stageItemInputId k) ?_)
      simp [MatchCreateBodyFrontend.foreignKeys, show body.stageItemInput2Id = some k from hk]
    · refine match_belongs (hkeys (.matchId k) ?_)
      simp [MatchCreateBodyFrontend.foreignKeys,
        show body.stageItemInput1WinnerFromMatchId = some k from hk]
    · refine match_belongs (hkeys (.matchId k) ?_)
      simp [MatchCreateBodyFrontend.foreignKeys,
        show body.stageItemInput2WinnerFromMatchId = some k from hk]
  exact (hcreate.trans (.scheduleAllMatches hcreate.isolated e.planning)).toConfined

theorem Confined.deleteMatch {E : ExpectedScore} {k : MatchId}
    (h : deleteMatch E db tid k = .ok db') : Confined tid db db' := by
  obtain ⟨e⟩ := deleteMatch_ok h
  obtain ⟨-, hid, hown⟩ := matchDependency_own e.found
  have hdelete : Confined tid db (Brackets.sqlDeleteMatch db e.row.id) := by
    refine .deleteMatches hdb fun r hr hp => ?_
    rw [← Database.matchTournament_row hr, show r.id = e.row.id from eq_of_beq hp, hid, hown]
  have hstats := Grows.recalculateRanking hdelete.isolated e.recalculation
  exact hdelete.trans (hstats.trans (.scheduleAllMatches hstats.isolated e.planning)).toConfined

theorem Confined.updateMatchById {E : ExpectedScore} {k : MatchId} {body : MatchBody}
    (h : updateMatchById E db tid k body = .ok db') : Confined tid db db' := by
  obtain ⟨e⟩ := updateMatchById_ok h
  obtain ⟨-, -, hown⟩ := matchDependency_own e.own
  have hround := round_belongs (e.keys _ List.mem_cons_self)
  have hupdate : Grows tid db (sqlUpdateMatch db k body) := .sqlUpdateMatch hdb hown hround
  have hstats := Grows.recalculateRanking hupdate.isolated e.recalculation
  have hplan : Grows tid (sqlUpdateMatch db k body) e.planned := by
    have hplanned := e.replanning
    unfold planIfChanged at hplanned
    split at hplanned
    · exact hstats.trans (.scheduleAllMatches hstats.isolated hplanned)
    · exact Except.ok.inj hplanned ▸ hstats
  refine (hupdate.trans ?_).toConfined
  have hpropagation := e.propagation
  split at hpropagation
  · have hitem := hplan.keeps.item (hupdate.isolated.stageItem e.loads)
    exact hplan.trans (.updateInputsInSubsequentEliminationRounds hplan.isolated hitem hpropagation)
  · exact Except.ok.inj hpropagation ▸ hplan

theorem Confined.deleteRound {E : ExpectedScore} {k : RoundId}
    (h : deleteRound E db tid k = .ok db') : Confined tid db db' := by
  obtain ⟨e⟩ := deleteRound_ok h
  obtain ⟨row, inputs, hrow, ht, hround⟩ := getRoundById_ok e.found
  have hid : row.id = k := db.rounds.key_of_find? hrow
  have hown : db.roundTournament k = some tid := by
    rw [← hid, Database.roundTournament_row (db.rounds.mem_of_find? hrow), ht]
  have hmatches : Confined tid db
      (e.round.matches_.foldl (fun db m => Brackets.sqlDeleteMatch db m.id) db) := by
    refine .foldl (P := fun db (m : Match) => MatchOf db tid m.id)
      (fun _ _ _ hc hk => hc.matchOf hk) (fun _ _ hdb hk => .sqlDeleteMatch hdb hk) hdb
      fun m hm b hb => ?_
    rw [hround] at hm
    obtain ⟨mrow, hmrow, hmround, rfl⟩ := mem_roundWithMatches.mp hm
    have hm := (Database.matchTournament_row hmrow).trans (hmround ▸ hid.symm ▸ hown)
    exact Option.some.inj (hb.symm.trans hm)
  have hdelete := hmatches.trans (.sqlDeleteRound hmatches.isolated (k := k) fun b hb => by
    by_contra hne
    have hb := ((hmatches.same b hne).round_iff k).mp hb
    exact hne (Option.some.inj (hb.symm.trans hown)))
  have hstats := Grows.recalculateRanking hdelete.isolated e.recalculation
  exact hdelete.trans (hstats.trans (.scheduleAllMatches hstats.isolated e.planning)).toConfined

theorem Confined.updateRoundById {k : RoundId} {body : RoundUpdateBody}
    (h : updateRoundById db tid k body = .ok db') : Confined tid db db' := by
  obtain ⟨-, -, rfl⟩ := updateRoundById_ok h
  refine (Grows.rounds hdb (.update fun r hr hp => ?_)).toConfined
  have ht := (Bool.and_eq_true _ _ |>.mp hp).1
  exact ⟨eq_of_beq ht, eq_of_beq ht, trivial⟩

theorem Confined.createRound {maxWeightMatching : MatchingSolver} {shuffle : Shuffle}
    {body : RoundCreateBody} (h : createRound maxWeightMatching shuffle db tid body = .ok db') :
    Confined tid db db' := by
  obtain ⟨e⟩ := createRound_ok h
  exact (Grows.draftRound hdb (hdb.stageItem e.checks.found) (pairing_inputs e.paired)
    e.drafted).toConfined

/-! Stage items and their inputs. -/

theorem Confined.createStageItem {E : ExpectedScore} {body : StageItemCreateBody}
    (h : createStageItem E db tid body = .ok db') : Confined tid db db' := by
  obtain ⟨e⟩ := createStageItem_ok h
  have hstage := stage_belongs (e.keys (.stageId body.stageId) List.mem_cons_self)
  obtain ⟨hcreate, hitem⟩ := Grows.createStageItem hdb hstage (fun k hk =>
    ranking_belongs (e.keys (.rankingId k) (by simp [StageItemCreateBody.foreignKeys, hk])))
    e.created
  have hbuild := hcreate.trans (.buildMatches hcreate.isolated hitem e.building)
  exact (hbuild.trans (.scheduleAllMatches hbuild.isolated e.planning)).toConfined

theorem Refresh.grows {E : ExpectedScore} {item : StageItemWithRounds}
    (e : Refresh E db tid item db') (hitem : item.BelongsTo db tid) : Grows tid db db' := by
  have hstats := Grows.recalculateRanking hdb e.recalculation
  have hpropagation := e.propagation
  split at hpropagation
  · exact hstats.trans (.updateInputsInCompleteEliminationStageItem hstats.isolated
      (hstats.keeps.item hitem) hpropagation)
  · exact Except.ok.inj hpropagation ▸ hstats

theorem Confined.updateStageItem {E : ExpectedScore} {k : StageItemId} {body : StageItemUpdateBody}
    (h : updateStageItem E db tid k body = .ok db') : Confined tid db db' := by
  obtain ⟨e⟩ := updateStageItem_ok h
  have hitem := hdb.stageItem e.found
  have hname : Grows tid db (sqlUpdateStageItemName db e.item.id body.name) := by
    refine .stageItems hdb (.update fun i hi hp => ?_)
    have ht : db.stageTournament i.stageId = some tid := by
      rw [← Database.stageItemTournament_row hi, show i.id = e.item.id from eq_of_beq hp, hitem.own]
    exact ⟨ht, ht, ⟨ht, (hdb.stageItem_within hi ht).ranking⟩⟩
  exact (hname.trans (e.refresh.grows hname.isolated (hname.keeps.item hitem))).toConfined

theorem Confined.deleteStageItem {k : StageItemId} (h : deleteStageItem db tid k = .ok db') :
    Confined tid db db' := by
  obtain ⟨e⟩ := deleteStageItem_ok h
  obtain ⟨_, -, ht, -, -⟩ := getStageItem_eq_ok.mp e.found
  have hdelete := Confined.sqlDeleteStageItemWithForeignKeys hdb
    (fun b hb => Option.some.inj (hb.symm.trans ht)) e.deletion
  exact hdelete.trans (Grows.scheduleAllMatches hdelete.isolated e.planning).toConfined

theorem Confined.updateStageItemInput {stageItemId : StageItemId} {k : StageItemInputId}
    {body : StageItemInputUpdateBody} (h : updateStageItemInput db tid stageItemId k body = .ok db') :
    Confined tid db db' := by
  obtain ⟨e⟩ := updateStageItemInput_ok h
  rw [e.stored]
  refine (Grows.sqlUpdateStageItemInput hdb (fun t ht => ?_)
    fun s hs => source_belongs (e.source s hs)).toConfined
  obtain ⟨team, hteam⟩ := e.team t ht
  obtain ⟨hfind, hown⟩ := Option.filter_eq_some_iff.mp hteam
  obtain rfl : team.id = t := db.teams.key_of_find? hfind
  rw [Database.teamTournament_row (db.teams.mem_of_find? hfind)]
  exact congrArg some (eq_of_beq hown)

/-! Stages. -/

theorem Confined.createStage (h : createStage db tid = .ok db') : Confined tid db db' := by
  obtain ⟨-, -, rfl⟩ := createStage_ok h
  have hinsert : Grows tid db (sqlCreateStage db tid) := .stages hdb (.insert ⟨rfl, trivial⟩)
  exact hinsert.toConfined

theorem Confined.updateStage {k : StageId} {body : StageUpdateBody}
    (h : updateStage db tid k body = .ok db') : Confined tid db db' := by
  have hupdate : Grows tid db (sqlUpdateStage db tid k body) := by
    refine .stages hdb (.update fun s hs hp => ?_)
    have ht : some s.tournamentId = some tid :=
      congrArg some (eq_of_beq (Bool.and_eq_true _ _ |>.mp hp).2)
    exact ⟨ht, ht, trivial⟩
  obtain ⟨stage, -, -, ⟨-, rfl⟩ | hplanned⟩ := updateStage_ok h
  · exact hupdate.toConfined
  · exact (hupdate.trans (.scheduleAllMatches hupdate.isolated hplanned)).toConfined

theorem Confined.deleteStage {k : StageId} (h : deleteStage db tid k = .ok db') :
    Confined tid db db' := by
  obtain ⟨stage, -, hstage, -, h⟩ := deleteStage_ok h
  obtain ⟨s, hs, rfl, ht, -⟩ := stageDependency_ok hstage
  refine .sqlDeleteStage hdb (fun b hb => ?_) h
  rw [Database.stageTournament_row hs, ht] at hb
  exact (Option.some.inj hb).symm

theorem Grows.activate (k : StageId) : Grows tid db (sqlActivateNextStage db k tid) := by
  refine .stages hdb (.update fun s hs hp => ?_)
  have ht : some s.tournamentId = some tid := congrArg some (eq_of_beq hp)
  exact ⟨ht, ht, trivial⟩

theorem Confined.activateNextStage {E : ExpectedScore} {direction : Direction}
    (h : activateNextStage E db tid direction = .ok db') : Confined tid db db' := by
  obtain ⟨k, db1, -, -, hwrites, rfl⟩ := activateNextStage_ok h
  have hgrows : Grows tid db db1 := by
    cases hwrites with
    | entered h1 => exact .updateMatchesInActivatedStage hdb h1
    | left _ h1 => exact .updateMatchesInDeactivatedStage hdb h1
    | nothing _ => exact .refl tid hdb
  exact (hgrows.trans (.activate hgrows.isolated k)).toConfined

/-! Rankings. -/

theorem Grows.sqlCreateRanking (body : RankingCreateBody) (position : Int) :
    Grows tid db (sqlCreateRanking db tid body position) :=
  .rankings hdb (.insert ⟨rfl, trivial⟩)

theorem Confined.createRanking {body : RankingCreateBody}
    (h : createRanking db tid body = .ok db') : Confined tid db db' := by
  obtain ⟨-, -, rfl⟩ := createRanking_ok h
  exact (Grows.sqlCreateRanking hdb body _).toConfined

theorem Confined.updateRankingById {E : ExpectedScore} {k : RankingId} {body : RankingBody}
    (h : updateRankingById E db tid k body = .ok db') : Confined tid db db' := by
  obtain ⟨-, -, h⟩ := updateRankingById_ok h
  have hupdate : Grows tid db (sqlUpdateRanking db tid k body) := by
    refine .rankings hdb (.update fun r hr hp => ?_)
    have ht : some r.tournamentId = some tid :=
      congrArg some (eq_of_beq (Bool.and_eq_true _ _ |>.mp hp).1)
    exact ⟨ht, ht, trivial⟩
  refine (hupdate.trans (.foldlM (P := fun _ _ => True) (fun _ _ _ _ h => h)
    (fun db db' i hdb _ h => ?_) hupdate.isolated (fun _ _ => trivial) h)).toConfined
  obtain ⟨item, hitem, ⟨e⟩⟩ := refreshStageItem_ok h
  exact e.grows hdb (hdb.stageItem hitem)

theorem Confined.deleteRanking {k : RankingId} (h : deleteRanking db tid k = .ok db') :
    Confined tid db db' := by
  obtain ⟨-, -, -, h⟩ := deleteRanking_ok h
  exact .deleteRankings hdb (fun _ _ hp => eq_of_beq (Bool.and_eq_true _ _ |>.mp hp).2) h

/-! Teams and players. -/

theorem Grows.insertMember {teamId : TeamId} {playerId : PlayerId}
    (hteam : db.teamTournament teamId = some tid)
    (hplayer : db.playerTournament playerId = some tid) :
    Grows tid db (insertMember db teamId playerId) :=
  .members hdb (.insert ⟨hteam, hteam, hplayer⟩)

theorem Grows.insertTeam (tid : TournamentId) (name : String) (active : Bool) :
    Grows tid db (insertTeam db tid name active).2 ∧
      (insertTeam db tid name active).2.teamTournament (insertTeam db tid name active).1 =
        some tid := by
  have hrow : ⟨db.teams.next, name, tid, active, none⟩ ∈
      (Brackets.insertTeam db tid name active).2.teams.rows := db.teams.mem_insert.mpr (Or.inr rfl)
  exact ⟨.teams hdb (.insert ⟨rfl, trivial⟩), Database.teamTournament_row hrow⟩

theorem Grows.insertPlayer (tid : TournamentId) (now : DateTime) (body : PlayerBody) :
    Grows tid db (insertPlayer db now body tid).2 ∧
      (insertPlayer db now body tid).2.playerTournament (insertPlayer db now body tid).1 =
        some tid := by
  have hrow : ⟨db.players.next, body.name, now, tid, body.active⟩ ∈
      (Brackets.insertPlayer db now body tid).2.players.rows := db.players.mem_insert.mpr (Or.inr rfl)
  exact ⟨.players hdb (.insert ⟨rfl, trivial⟩), Database.playerTournament_row hrow⟩

/-- Deleting memberships of the tournament. -/
theorem Confined.deleteMembers {p : MemberRow → Bool}
    (hp : ∀ x ∈ db.playersXTeams.rows, p x = true → db.teamTournament x.teamId = some tid) :
    Confined tid db { db with playersXTeams := db.playersXTeams.delete p } := by
  refine ⟨⟨fun i hi => ?_, fun i hi => ?_, hdb.rounds, fun m hm => ?_, fun x hx => ?_⟩,
    fun b hb => ?_⟩
  · obtain ⟨b, h⟩ := hdb.stageItems i hi
    exact ⟨b, h.stage, h.ranking⟩
  · obtain ⟨b, h⟩ := hdb.inputs i hi
    exact ⟨b, h.own, h.stageItem, h.source, h.team⟩
  · obtain ⟨b, h⟩ := hdb.matches_ m hm
    exact ⟨b, h.round, h.input, h.source⟩
  · obtain ⟨b, h⟩ := hdb.members x (db.playersXTeams.mem_delete.mp hx).1
    exact ⟨b, h.team, h.player⟩
  · refine .of_parts rfl rfl rfl rfl rfl rfl rfl rfl ?_ rfl
    exact Table.owned_delete fun x hx hpx e => hb (Option.some.inj (e.symm.trans (hp x hx hpx)))

theorem Confined.updateTeamMembers {teamId : TeamId} {playerIds : List PlayerId}
    (hteam : db.teamTournament teamId = some tid)
    (hplayers : ∀ k ∈ playerIds, db.playerTournament k = some tid)
    (h : updateTeamMembers db teamId tid playerIds = .ok db') : Confined tid db db' := by
  obtain ⟨team, -, rfl⟩ := updateTeamMembers_ok h
  have hinsert := Grows.foldl (P := fun (db : Database) (k : PlayerId) =>
      db.teamTournament teamId = some tid ∧ db.playerTournament k = some tid)
    (fun _ _ _ hk h => ⟨hk.team _ _ h.1, hk.player _ _ h.2⟩)
    (fun _ _ hdb h => Grows.insertMember hdb h.1 h.2) hdb
    fun k (hk : k ∈ playerIds.filter fun p => !team.playerIds.contains p) =>
      ⟨hteam, hplayers k (List.mem_filter.mp hk).1⟩
  refine hinsert.toConfined.trans (.deleteMembers hinsert.isolated fun x hx hp => ?_)
  rw [show x.teamId = teamId from eq_of_beq (Bool.and_eq_true _ _ |>.mp hp).2]
  exact hinsert.keeps.team _ _ hteam

theorem Confined.updateTeamById {k : TeamId} {body : TeamBody}
    (h : updateTeamById db tid k body = .ok db') : Confined tid db db' := by
  obtain ⟨team, -, hteam, hkeys, h⟩ := updateTeamById_ok h
  have hplayers := players_belong (hkeys _ List.mem_cons_self)
  have hupdate : Grows tid db { db with
      teams := db.teams.update (fun t => t.id == team.id && t.tournamentId == tid)
        (fun t => { t with name := body.name, active := body.active }) fun _ => rfl } := by
    refine .teams hdb (.update fun t ht hp => ?_)
    have ht : some t.tournamentId = some tid :=
      congrArg some (eq_of_beq (Bool.and_eq_true _ _ |>.mp hp).2)
    exact ⟨ht, ht, trivial⟩
  exact hupdate.toConfined.trans (.updateTeamMembers hupdate.isolated
    (hupdate.keeps.team _ _ (teamDependency_own hteam))
    (fun k hk => hupdate.keeps.player _ _ (hplayers k hk)) h)

theorem Confined.updateTeamLogo {k : TeamId} {filename : Option String}
    (h : updateTeamLogo db tid k filename = .ok db') : Confined tid db db' := by
  obtain ⟨team, -, hteam, rfl⟩ := updateTeamLogo_ok h
  refine (Grows.teams hdb (.update fun t ht hp => ?_)).toConfined
  have hown : some t.tournamentId = some tid := by
    rw [← Database.teamTournament_row ht, show t.id = team.id from eq_of_beq hp,
      teamDependency_own hteam]
  exact ⟨hown, hown, trivial⟩

theorem Confined.deleteTeam {k : TeamId} (h : deleteTeam db tid k = .ok db') :
    Confined tid db db' := by
  obtain ⟨-, -, h⟩ := deleteTeam_ok h
  exact .deleteTeams hdb (fun _ _ hp => eq_of_beq (Bool.and_eq_true _ _ |>.mp hp).2) h

theorem Confined.createTeam {body : TeamBody} (h : createTeam db tid body = .ok db') :
    Confined tid db db' := by
  obtain ⟨-, hkeys, -, h⟩ := createTeam_ok h
  have hplayers := players_belong (hkeys _ List.mem_cons_self)
  obtain ⟨hinsert, hteam⟩ := Grows.insertTeam hdb tid body.name body.active
  exact hinsert.toConfined.trans (.updateTeamMembers hinsert.isolated hteam
    (fun k hk => hinsert.keeps.player _ _ (hplayers k hk)) h)

theorem Grows.createTeamWithPlayers (now : DateTime) (active : Bool)
    (team : String × List String) :
    Grows tid db (createTeamWithPlayers now tid active db team) := by
  obtain ⟨hteam, hown⟩ := Grows.insertTeam hdb tid team.1 active
  refine hteam.trans (.foldl (P := fun (d : Database) (_ : String) =>
      d.teamTournament db.teams.next = some tid) (fun _ _ _ hk h => hk.team _ _ h)
    (fun db name hdb h => ?_) hteam.isolated fun _ _ => hown)
  obtain ⟨hplayer, hplays⟩ := Grows.insertPlayer hdb tid now ⟨name, active⟩
  exact hplayer.trans (.insertMember hplayer.isolated (hplayer.keeps.team _ _ h) hplays)

theorem Confined.createMultipleTeams {now : DateTime}
    {teamsWithPlayers : List (String × List String)} {active : Bool}
    (h : createMultipleTeams db now tid teamsWithPlayers active = .ok db') :
    Confined tid db db' := by
  obtain ⟨-, -, -, rfl⟩ := createMultipleTeams_ok h
  exact (Grows.foldl (P := fun _ _ => True) (fun _ _ _ _ h => h)
    (fun _ team hdb _ => .createTeamWithPlayers hdb now active team) hdb
    fun _ _ => trivial).toConfined

theorem Confined.updatePlayerById {k : PlayerId} {body : PlayerBody}
    (h : updatePlayerById db tid k body = .ok db') : Confined tid db db' := by
  obtain ⟨-, -, rfl⟩ := updatePlayerById_ok h
  refine (Grows.players hdb (.update fun p hp hsel => ?_)).toConfined
  have ht : some p.tournamentId = some tid :=
    congrArg some (eq_of_beq (Bool.and_eq_true _ _ |>.mp hsel).2)
  exact ⟨ht, ht, trivial⟩

theorem Confined.deletePlayer {k : PlayerId} (h : deletePlayer db tid k = .ok db') :
    Confined tid db db' := by
  obtain ⟨-, rfl⟩ := deletePlayer_ok h
  exact .deletePlayers hdb fun _ _ hp => eq_of_beq (Bool.and_eq_true _ _ |>.mp hp).2

theorem Confined.createSinglePlayer {now : DateTime} {body : PlayerBody}
    (h : createSinglePlayer db now tid body = .ok db') : Confined tid db db' := by
  obtain ⟨-, -, rfl⟩ := createSinglePlayer_ok h
  exact (Grows.insertPlayer hdb _ now body).1.toConfined

theorem Confined.createMultiplePlayers {now : DateTime} {playerNames : List String} {active : Bool}
    (h : createMultiplePlayers db now tid playerNames active = .ok db') : Confined tid db db' := by
  obtain ⟨-, -, rfl⟩ := createMultiplePlayers_ok h
  exact (Grows.foldl (P := fun _ _ => True) (fun _ _ _ _ h => h)
    (fun _ name hdb _ => (Grows.insertPlayer hdb _ now ⟨name, active⟩).1) hdb
    fun _ _ => trivial).toConfined

/-! Tournaments. -/

/-- An UPDATE of the tournament's own row. -/
theorem Grows.updateTournament {f : TournamentRow → TournamentRow}
    {hf : ∀ t, key (f t) = key t} : Grows tid db { db with
      tournaments := db.tournaments.update (fun t => t.id == tid) f hf } := by
  refine .tournaments hdb fun b hb => ?_
  rw [Table.find?_update]
  cases hfind : db.tournaments.find? b with
  | none => rfl
  | some t =>
    have hid : t.id = b := db.tournaments.key_of_find? hfind
    rw [Option.map_some, hid, beq_eq_false_iff_ne.mpr hb]
    rfl

theorem Confined.updateTournamentById {body : TournamentUpdateBody}
    (h : updateTournamentById db tid body = .ok db') : Confined tid db db' := by
  obtain ⟨-, -, h⟩ := updateTournamentById_ok h
  have hupdate : Grows tid db { db with
      tournaments := db.tournaments.update (fun t => t.id == tid) body.write body.key_write } :=
    .updateTournament hdb
  exact (hupdate.trans (.scheduleAllMatches hupdate.isolated h)).toConfined

theorem Confined.changeStatus {status : TournamentStatus}
    (h : changeStatus db tid status = .ok db') : Confined tid db db' := by
  obtain ⟨-, rfl⟩ := changeStatus_ok h
  have hupdate : Grows tid db (sqlUpdateTournamentStatus db tid status) := .updateTournament hdb
  exact hupdate.toConfined

theorem Confined.uploadLogo {filename : Option String}
    (h : uploadLogo db tid filename = .ok db') : Confined tid db db' := by
  obtain ⟨-, rfl⟩ := uploadLogo_ok h
  exact (Grows.updateTournament hdb).toConfined

theorem Confined.createTournament {body : TournamentBody}
    (h : createTournament db body = .ok db') : Confined db.tournaments.next db db' := by
  obtain ⟨-, -, rfl⟩ := createTournament_ok h
  have hinsert : Grows db.tournaments.next db
      { db with tournaments := db.tournaments.insert body.row body.key_row } :=
    .tournaments hdb fun b hb => db.tournaments.find?_insert_of_ne hb
  exact (hinsert.trans (.sqlCreateRanking hinsert.isolated _ _)).toConfined

/-! ## 3. All requests -/

/-- **An accepted request keeps to its tournament.** -/
theorem Confined.handle {env : Environment} {r : Request} (h : r.handle env db tid = .ok db') :
    Confined tid db db' := by
  cases r with
  | updateTournamentById body => exact .updateTournamentById hdb h
  | deleteTournament => exact .sqlDeleteTournamentCompletely hdb h
  | changeStatus status => exact .changeStatus hdb h
  | uploadLogo filename => exact .uploadLogo hdb h
  | createStage => exact .createStage hdb h
  | updateStage k body => exact .updateStage hdb h
  | deleteStage k => exact .deleteStage hdb h
  | activateNextStage direction => exact .activateNextStage hdb h
  | createStageItem body => exact .createStageItem hdb h
  | updateStageItem k body => exact .updateStageItem hdb h
  | deleteStageItem k => exact .deleteStageItem hdb h
  | updateStageItemInput stageItemId k body => exact .updateStageItemInput hdb h
  | createRound body => exact .createRound hdb h
  | updateRoundById k body => exact .updateRoundById hdb h
  | deleteRound k => exact .deleteRound hdb h
  | createMatch body => exact .createMatch hdb h
  | updateMatchById k body => exact .updateMatchById hdb h
  | deleteMatch k => exact .deleteMatch hdb h
  | scheduleMatches =>
    exact (Grows.scheduleAllMatches hdb (scheduleMatches_ok h).2).toConfined
  | createRanking body => exact .createRanking hdb h
  | updateRankingById k body => exact .updateRankingById hdb h
  | deleteRanking k => exact .deleteRanking hdb h
  | createTeam body => exact .createTeam hdb h
  | createMultipleTeams teamsWithPlayers active => exact .createMultipleTeams hdb h
  | updateTeamById k body => exact .updateTeamById hdb h
  | updateTeamLogo k filename => exact .updateTeamLogo hdb h
  | deleteTeam k => exact .deleteTeam hdb h
  | createSinglePlayer body => exact .createSinglePlayer hdb h
  | createMultiplePlayers playerNames active => exact .createMultiplePlayers hdb h
  | updatePlayerById k body => exact .updatePlayerById hdb h
  | deletePlayer k => exact .deletePlayer hdb h

theorem Confined.call {env : Environment} {call : Call} (h : call.handle env db = .ok db') :
    Confined (call.tournament db) db db' := by
  cases call with
  | createTournament body => exact .createTournament hdb h
  | request tid r => exact .handle hdb h

end Requests

theorem isolated_empty : Isolated .empty where
  stageItems _ h := absurd h List.not_mem_nil
  inputs _ h := absurd h List.not_mem_nil
  rounds _ h := absurd h List.not_mem_nil
  matches_ _ h := absurd h List.not_mem_nil
  members _ h := absurd h List.not_mem_nil

/-- The database stays isolated, whatever condition the calls are under. -/
theorem Runs.isolated {C : Environment → Database → Call → Prop} (h : Runs C db db')
    (hdb : Isolated db) : Isolated db' :=
  h.invariant (fun _ _ _ _ hdb _ hcall => (Confined.call hdb hcall).isolated) hdb

/-- **Tournaments are isolated**: after any sequence of accepted calls, with any ids in their paths
    and bodies, no row refers to a row of another tournament, and an accepted call leaves the rows
    of every other tournament unchanged. -/
theorem tournaments_isolated (h : Runs (fun _ _ _ => True) .empty db) :
    Isolated db ∧ ∀ env (call : Call) db', call.handle env db = .ok db' →
      ∀ tid, tid ≠ call.tournament db → SameFor tid db db' :=
  have hdb := h.isolated isolated_empty
  ⟨hdb, fun _ _ _ hcall => (Confined.call hdb hcall).same⟩

/-! ### Two tournaments -/

/-- Two tournaments with a stage each, a bracket of two in the first and a Swiss stage item in the
    second. -/
def twoTournaments : List Call :=
  [.createTournament ⟨⟨0, true, none, 10, 5, by decide, by decide⟩, 1⟩,
    .createTournament ⟨⟨0, false, some "cup", 20, 0, by decide, by decide⟩, 1⟩,
    .request 1 .createStage, .request 2 .createStage,
    .request 1 (.createTeam ⟨"Red", true, []⟩),
    .request 2 (.createMultipleTeams [("Blue", ["Ann"])] true),
    .request 1 (.createStageItem { stageId := 1, type := .singleElimination, teamCount := 2 }),
    .request 2 (.createStageItem { stageId := 2, type := .swiss, teamCount := 2 }),
    .request 1 (.updateStageItemInput 1 1 (.final 1))]

/-- Even expectations, the exhaustive solver, no shuffling. -/
def quietEnvironment : Environment where
  expectedScore _ := some (1 / 2)
  maxWeightMatching := WeightedGraph.searchMatching
  shuffle := ⟨id, fun _ => .refl _⟩
  now := 0

theorem runs_of_calls {C : Environment → Database → Call → Prop} {env : Environment}
    (hC : ∀ db call, C env db call) {calls : List Call}
    (h : calls.foldlM (fun db call => call.handle env db) db = .ok db') : Runs C db db' := by
  induction calls generalizing db with
  | nil =>
    cases h
    exact .refl
  | cons call calls ih =>
    rw [List.foldlM_cons] at h
    obtain ⟨db1, h1, h⟩ := bind_eq_ok.mp h
    exact .head ⟨env, call, hC db call, h1⟩ (ih h)

theorem twoTournaments_isolated : ∃ db,
    twoTournaments.foldlM (fun db call => call.handle quietEnvironment db) .empty = .ok db ∧
      Isolated db ∧ ∀ env (call : Call) db', call.handle env db = .ok db' →
        ∀ tid, tid ≠ call.tournament db → SameFor tid db db' := by
  obtain ⟨db, hdb⟩ := exists_ok (x := twoTournaments.foldlM
    (fun db call => call.handle quietEnvironment db) .empty) (by decide +kernel)
  exact ⟨db, hdb, tournaments_isolated (runs_of_calls (fun _ _ => trivial) hdb)⟩

end Brackets
