/-
  File:      Brackets/Progress/UpToDate.lean
  Subject:   The stored schedule over runs.

  Every request that changes what the plan reads plans again afterwards, or changes it by a stage
  without stage items (`Rescheduled`). There is one exception: a match that is moved to another
  round without a new custom duration or margin. `planned_of_moves` is the invariant while nobody
  moves a match that way; `movedMatch_stale` is a round robin with a stale schedule.
-/
import Brackets.Planning.Replanning
import Brackets.Progress.IsolatedLoads
import Brackets.Progress.Limits

namespace Brackets

open Library

variable {db db' : Database} {tid : TournamentId}

/-! ## 1. Stages without stage items -/

/-- The stages of the tournament that have stage items. -/
def Database.usedStages (db : Database) (tid : TournamentId) : List StageRow :=
  db.stages.rows.filter fun s =>
    s.tournamentId == tid && db.stageItems.rows.any (·.stageId == s.id)

theorem mem_usedStages {s : StageRow} : s ∈ db.usedStages tid ↔ s ∈ db.stages.rows ∧
    s.tournamentId = tid ∧ ∃ i ∈ db.stageItems.rows, i.stageId = s.id := by
  simp only [Database.usedStages, List.mem_filter, Bool.and_eq_true, List.any_eq_true, beq_iff_eq]

/-- The other stages take no time. -/
theorem stageOffset_used (tournament : TournamentRow) (k : StageId) :
    db.stageOffset tournament tid k =
      lengthBefore (·.id) (db.stageSpan tournament) (db.usedStages tid) k := by
  have hfilter : db.usedStages tid = (db.stages.rows.filter (·.tournamentId == tid)).filter
      fun s => db.stageItems.rows.any (·.stageId == s.id) := by
    rw [List.filter_filter]
    exact List.filter_congr fun s _ => Bool.and_comm _ _
  unfold Database.stageOffset
  rw [hfilter]
  refine (lengthBefore_filter _ _ (fun s _ hs => ?_) k).symm
  unfold Database.stageSpan
  rw [List.filter_eq_nil_iff.mpr fun i hi e => List.any_eq_false.mp hs i hi e]
  rfl

/-- A tournament stays on schedule while the stages that have stage items stay the same. -/
theorem Planned.of_usedStages (h : Planned db tid) (htournaments : db'.tournaments = db.tournaments)
    (hitems : db'.stageItems = db.stageItems) (hrounds : db'.rounds = db.rounds)
    (hmatches : db'.matches_ = db.matches_) (hused : db'.usedStages tid = db.usedStages tid) :
    Planned db' tid := by
  rw [planned_iff] at h ⊢
  intro tournament ht s i r m hrows
  have hmem : s ∈ db.usedStages tid :=
    hused ▸ mem_usedStages.mpr ⟨hrows.stage, hrows.tournament, i, hrows.item, hrows.ofStage⟩
  have hbefore : RowsAt db tid s i r m :=
    ⟨(mem_usedStages.mp hmem).1, hrows.tournament, hitems ▸ hrows.item, hrows.ofStage,
      hrounds ▸ hrows.round, hrows.ofItem, hmatches ▸ hrows.match_, hrows.ofRound⟩
  have hround : ∀ duration k,
      db'.roundSpan tournament duration k = db.roundSpan tournament duration k := by
    intro duration k
    unfold Database.roundSpan
    rw [hmatches]
  have hspan : db'.stageSpan tournament = db.stageSpan tournament := by
    funext s
    unfold Database.stageSpan Database.itemSpan
    simp only [hround]
    rw [hitems, hrounds]
  have htiming : db'.timing tournament s i r m = db.timing tournament s i r m := by
    unfold Database.timing Database.roundOffset
    simp only [hround]
    rw [hrows.tournament, stageOffset_used, stageOffset_used, hspan, hused, hrounds]
  rw [htiming]
  exact h tournament (htournaments ▸ ht) s i r m hbefore

theorem usedStages_createStage (hdb : Isolated db) :
    (sqlCreateStage db tid).usedStages tid = db.usedStages tid := by
  have hnew : db.stageItems.rows.any (·.stageId == db.stages.next) = false := by
    refine List.any_eq_false.mpr fun i hi e => ?_
    obtain ⟨b, hb⟩ := hdb.stageItems i hi
    obtain ⟨s, hs, hid, -⟩ := Table.ownerAt_eq_some.mp hb.stage
    exact absurd (hid.trans (eq_of_beq e)) (ne_of_lt (db.stages.below s hs))
  unfold Database.usedStages sqlCreateStage
  dsimp only
  rw [Table.filter_insert, hnew, Bool.and_false, if_neg Bool.false_ne_true, List.append_nil]

theorem usedStages_deleteStage {k : StageId} (hempty : ∀ i ∈ db.stageItems.rows, i.stageId ≠ k) :
    { db with stages := db.stages.delete fun s =>
      s.id == k && s.tournamentId == tid }.usedStages tid = db.usedStages tid := by
  unfold Database.usedStages Table.delete
  dsimp only
  rw [List.filter_filter]
  refine List.filter_congr fun s _ => ?_
  cases hused : db.stageItems.rows.any (·.stageId == s.id) with
  | false => rw [Bool.and_false, Bool.false_and]
  | true =>
    obtain ⟨i, hi, e⟩ := List.any_eq_true.mp hused
    have hne : (s.id == k) = false :=
      beq_eq_false_iff_ne.mpr fun hk => hempty i hi ((eq_of_beq e).trans hk)
    rw [hne, Bool.false_and]
    exact Bool.and_true _

/-! ## 2. The requests -/

/-- What an accepted request does to the schedule. -/
inductive Rescheduled (tid : TournamentId) (db db' : Database) : Prop where
  | planned (h : Planned db' tid)
  | kept (h : db'.agenda = db.agenda)
  | stageCreated (h : db'.agenda = (sqlCreateStage db tid).agenda)
  | stageDeleted {k : StageId} (hempty : ∀ i ∈ db.stageItems.rows, i.stageId ≠ k)
      (h : db'.agenda =
        { db with stages := db.stages.delete fun s => s.id == k && s.tournamentId == tid }.agenda)

theorem Rescheduled.step (h : Rescheduled tid db db') (hdb : Isolated db) (hP : Planned db tid) :
    Planned db' tid := by
  cases h with
  | planned h => exact h
  | kept h => exact hP.of_agenda h
  | stageCreated h =>
    have hcreated : Planned (sqlCreateStage db tid) tid :=
      hP.of_usedStages rfl rfl rfl rfl (usedStages_createStage hdb)
    exact hcreated.of_agenda h
  | stageDeleted hempty h =>
    exact Planned.of_agenda h
      (hP.of_usedStages rfl rfl rfl rfl (usedStages_deleteStage hempty))

theorem Rescheduled.of_skeleton (h : db'.skeleton = db.skeleton) : Rescheduled tid db db' :=
  .kept (agenda_of_skeleton h)

/-- An UPDATE of columns of stages that the plan does not read. -/
theorem updateStage_rescheduled {k : StageId} {body : StageUpdateBody}
    (h : updateStage db tid k body = .ok db') : Rescheduled tid db db' := by
  obtain ⟨stage, -, hstage, ⟨hcustom, rfl⟩ | hplanned⟩ := updateStage_ok h
  · obtain ⟨s, hs, hid, -, rfl⟩ := stageDependency_ok hstage
    refine .of_skeleton (skeleton_stages fun row hrow hk => ?_)
    have hrowid := (Bool.and_eq_true _ _ |>.mp hk).1
    obtain rfl := db.stages.eq_of_key hrow hs ((eq_of_beq hrowid).trans hid.symm)
    have hcustom : body.customDurationMinutes = row.customDurationMinutes := hcustom
    rw [hcustom]
    rfl
  · exact .planned (scheduleAllMatches_planned hplanned)

/-- The moves of matches that are planned: the round stays, or a custom duration or margin is new. -/
def MatchRow.StaysOrReplans (m : MatchRow) (body : MatchBody) : Prop :=
  body.roundId = m.roundId ∨ body.customDurationMinutes ≠ m.customDurationMinutes ∨
    body.customMarginMinutes ≠ m.customMarginMinutes

instance (m : MatchRow) (body : MatchBody) : Decidable (m.StaysOrReplans body) :=
  inferInstanceAs (Decidable (_ ∨ _ ∨ _))

theorem updateMatchById_rescheduled {E : ExpectedScore} {k : MatchId} {body : MatchBody}
    (hmove : ∀ m ∈ db.matches_.rows, m.id = k → m.StaysOrReplans body)
    (h : updateMatchById E db tid k body = .ok db') : Rescheduled tid db db' := by
  obtain ⟨e⟩ := updateMatchById_ok h
  have hpropagation : db'.skeleton = e.planned.skeleton := by
    have hpropagation := e.propagation
    split at hpropagation
    · exact updateInputsInSubsequent_skeleton hpropagation
    · exact congrArg Database.skeleton (Except.ok.inj hpropagation).symm
  have hplanned := e.replanning
  unfold planIfChanged at hplanned
  split at hplanned
  · exact .planned ((scheduleAllMatches_planned hplanned).of_agenda (agenda_of_skeleton hpropagation))
  · next hsame =>
    rw [Bool.or_eq_true, not_or, Bool.not_eq_true, Bool.not_eq_true, bne_eq_false_iff_eq,
      bne_eq_false_iff_eq] at hsame
    have hmem := db.matches_.mem_of_find? e.found
    have hid : e.row.id = k := db.matches_.key_of_find? e.found
    have hround : body.roundId = e.row.roundId := by
      rcases hmove e.row hmem hid with hround | hduration | hmargin
      · exact hround
      · exact absurd hsame.1 hduration
      · exact absurd hsame.2 hmargin
    have hstored : (sqlUpdateMatch db k body).skeleton = db.skeleton := by
      refine skeleton_matches_ fun row hrow hk => ?_
      have hrow : row = e.row := db.matches_.eq_of_key hrow hmem ((eq_of_beq hk).trans hid.symm)
      unfold MatchRow.skeleton
      dsimp only
      rw [hrow, hround, hsame.1, hsame.2]
    have hsame : e.recalculated.skeleton = e.planned.skeleton :=
      congrArg Database.skeleton (Except.ok.inj hplanned)
    exact .of_skeleton (hpropagation.trans (hsame.symm.trans
      ((recalculateRanking_skeleton e.recalculation).trans hstored)))

/-- **What an accepted request of the tournament does to its schedule.** -/
theorem Request.rescheduled (hdb : Isolated db) {env : Environment} {r : Request}
    (hmove : ∀ k body, r = .updateMatchById k body →
      ∀ m ∈ db.matches_.rows, m.id = k → m.StaysOrReplans body)
    (h : r.handle env db tid = .ok db') : Rescheduled tid db db' := by
  cases r with
  | updateTournamentById body =>
    obtain ⟨-, -, h⟩ := updateTournamentById_ok h
    exact .planned (scheduleAllMatches_planned h)
  | deleteTournament =>
    refine .planned fun t ht => ?_
    rw [(deleteTournament_cleared h).tournament] at ht
    cases ht
  | changeStatus status => exact .of_skeleton (changeStatus_skeleton h)
  | uploadLogo filename => exact .of_skeleton (uploadLogo_skeleton h)
  | createStage =>
    obtain ⟨-, -, rfl⟩ := createStage_ok h
    exact .stageCreated rfl
  | updateStage k body => exact updateStage_rescheduled h
  | deleteStage k =>
    obtain ⟨hempty, rfl⟩ := deleteStage_eq h
    exact .stageDeleted hempty rfl
  | activateNextStage direction => exact .of_skeleton (activateNextStage_skeleton h)
  | createStageItem body =>
    obtain ⟨e⟩ := createStageItem_ok h
    exact .planned (scheduleAllMatches_planned e.planning)
  | updateStageItem k body => exact .of_skeleton (updateStageItem_skeleton h)
  | deleteStageItem k =>
    obtain ⟨e⟩ := deleteStageItem_ok h
    exact .planned (scheduleAllMatches_planned e.planning)
  | updateStageItemInput stageItemId k body =>
    obtain ⟨e⟩ := updateStageItemInput_ok h
    exact .kept ((congrArg Database.agenda e.stored).trans rfl)
  | createRound body =>
    obtain ⟨e⟩ := createRound_ok h
    exact .planned (scheduleAllMatches_planned e.drafted)
  | updateRoundById k body => exact .of_skeleton (updateRoundById_skeleton h)
  | deleteRound k =>
    obtain ⟨e⟩ := deleteRound_ok h
    exact .planned (scheduleAllMatches_planned e.planning)
  | createMatch body =>
    obtain ⟨e⟩ := createMatch_ok h
    exact .planned (scheduleAllMatches_planned e.planning)
  | updateMatchById k body => exact updateMatchById_rescheduled (hmove k body rfl) h
  | deleteMatch k =>
    obtain ⟨e⟩ := deleteMatch_ok h
    exact .planned (scheduleAllMatches_planned e.planning)
  | scheduleMatches => exact .planned (scheduleAllMatches_planned (scheduleMatches_ok h).2)
  | createRanking body =>
    obtain ⟨-, -, rfl⟩ := createRanking_ok h
    exact .kept rfl
  | updateRankingById k body => exact .of_skeleton (updateRankingById_skeleton h)
  | deleteRanking k =>
    rw [deleteRanking_eq hdb h]
    exact .kept rfl
  | createTeam body =>
    obtain ⟨-, -, -, h⟩ := createTeam_ok h
    exact .kept ((agenda_of_skeleton (updateTeamMembers_skeleton h)).trans rfl)
  | createMultipleTeams teamsWithPlayers active =>
    obtain ⟨-, -, -, rfl⟩ := createMultipleTeams_ok h
    exact .kept (foldl_project Database.agenda _ (fun d team =>
      createTeamWithPlayers_project Database.agenda (fun _ _ => rfl) (fun _ _ _ => rfl) d team) _ _)
  | updateTeamById k body => exact .of_skeleton (updateTeamById_skeleton h)
  | updateTeamLogo k filename => exact .of_skeleton (updateTeamLogo_skeleton h)
  | deleteTeam k =>
    obtain ⟨-, -, h⟩ := deleteTeam_ok h
    obtain ⟨-, rfl⟩ := deleteTeams_ok h
    exact .kept rfl
  | createSinglePlayer body =>
    obtain ⟨-, -, rfl⟩ := createSinglePlayer_ok h
    exact .kept rfl
  | createMultiplePlayers playerNames active =>
    obtain ⟨-, -, rfl⟩ := createMultiplePlayers_ok h
    exact .kept (foldl_project Database.agenda
      (fun d name => (insertPlayer d env.now ⟨name, active⟩ tid).2) (fun _ _ => rfl) _ _)
  | updatePlayerById k body => exact .of_skeleton (updatePlayerById_skeleton h)
  | deletePlayer k =>
    obtain ⟨-, rfl⟩ := deletePlayer_ok h
    exact .kept rfl

/-! ## 3. The runs -/

/-- The match that a call of the tournament stores a body for. -/
def Call.storedMatch (tid : TournamentId) : Call → Option (MatchId × MatchBody)
  | .request t (.updateMatchById k body) => if t = tid then some (k, body) else none
  | _ => none

/-- No match of the tournament is moved to another round without being planned. -/
def StaysOrReplans (tid : TournamentId) (db : Database) (call : Call) : Prop :=
  ∀ u ∈ call.storedMatch tid, ∀ m ∈ db.matches_.rows, m.id = u.1 → m.StaysOrReplans u.2

instance (tid : TournamentId) (db : Database) (call : Call) :
    Decidable (StaysOrReplans tid db call) :=
  inferInstanceAs (Decidable (∀ u ∈ call.storedMatch tid, _))

/-- A tournament without stages has no match. -/
theorem planned_of_noStages (h : ∀ s ∈ db.stages.rows, s.tournamentId ≠ tid) : Planned db tid := by
  intro tournament ht m hm hround
  obtain ⟨r, hr, hitem⟩ := Option.bind_eq_some_iff.mp hround
  obtain ⟨i, s, hi, hs, hst⟩ := stageItemTournament_eq_some.mp hitem
  exact absurd hst (h s (db.stages.mem_of_find? hs))

/-- What the other tournaments do leaves the schedule as it was. -/
theorem Planned.sameFor (hdb : Isolated db) (hdb' : Isolated db') (hsame : SameFor tid db db')
    (h : Planned db tid) : Planned db' tid := by
  intro tournament ht m hm hround
  rw [hsame.tournament] at ht
  rw [hsame.details hdb hdb' {}]
  exact h tournament ht m (Table.mem_of_owned hsame.matches_ hm hround)
    ((hsame.round_iff m.roundId).mp hround)

theorem Planned.call (h : Planned db tid) (hdb : Isolated db) (hroot : Rooted db)
    {env : Environment} {call : Call} (hmove : StaysOrReplans tid db call)
    (hcall : call.handle env db = .ok db') : Planned db' tid := by
  have hconfined := Confined.call hdb hcall
  by_cases htid : tid = call.tournament db
  · cases call with
    | createTournament body =>
      subst htid
      obtain ⟨-, -, rfl⟩ := createTournament_ok hcall
      refine planned_of_noStages fun s hs ht => ?_
      have hsome := hroot.stages s hs
      rw [ht, Call.tournament, db.tournaments.find?_next] at hsome
      cases hsome
    | request t r =>
      cases htid
      refine (Request.rescheduled hdb (fun k body he => ?_) hcall).step hdb h
      subst he
      exact hmove (k, body) (if_pos rfl)
  · exact h.sameFor hdb hconfined.isolated (hconfined.same tid htid)

/-- **A tournament that started without stages is on schedule** after every run that moves none of
    its matches to another round without a new custom duration or margin. -/
theorem planned_of_moves {start : Database} (h0 : Runs (fun _ _ _ => True) .empty start)
    (hstart : ∀ s ∈ start.stages.rows, s.tournamentId ≠ tid)
    (h : Runs (fun _ db call => StaysOrReplans tid db call) start db) : Planned db tid := by
  have hall : (Isolated db ∧ Rooted db) ∧ Planned db tid := by
    refine h.invariant (P := fun d => (Isolated d ∧ Rooted d) ∧ Planned d tid)
      (fun env d call d' hd hmove hcall => ?_) ⟨h0.rooted, planned_of_noStages hstart⟩
    obtain ⟨⟨hdb, hroot⟩, hplanned⟩ := hd
    exact ⟨⟨(Confined.call hdb hcall).isolated, hroot.call hdb hcall⟩,
      hplanned.call hdb hroot hmove hcall⟩
  exact hall.2

theorem three_teams : 2 ≤ 3 ∧ 3 ≤ 64 := by decide

theorem no_duration : ∀ n ∈ (none : Option Int), 1 ≤ n := fun _ h => absurd h (Option.not_mem_none _)

theorem no_margin : ∀ n ∈ (none : Option Int), 0 ≤ n := fun _ h => absurd h (Option.not_mem_none _)

theorem half_hour : ∀ n ∈ some (30 : Int), 1 ≤ n := by decide

/-- A group of three, with a match in each of its three rounds. -/
def groupOfThree : StageItemCreateBody where
  stageId := 1
  type := .roundRobin
  teamCount := 3
  teamCount_range := three_teams

def groupOnly : List Call :=
  [.createTournament ⟨⟨0, true, none, 16, 8, by decide, by decide⟩, 1⟩, .request 1 .createStage,
    .request 1 (.createStageItem groupOfThree)]

/-- The first match moves to the second round. -/
def movedMatch : MatchBody where
  roundId := 2
  duration_ge := no_duration
  margin_ge := no_margin

/-- It moves there with half an hour of its own. -/
def movedLongMatch : MatchBody where
  roundId := 2
  customDurationMinutes := some 30
  duration_ge := half_hour
  margin_ge := no_margin

theorem movedLongMatch_planned : ∃ db, runAllowed quietEnvironment
    (fun db call => decide (StaysOrReplans 1 db call))
      (groupOnly ++ [.request 1 (.updateMatchById 1 movedLongMatch)]) = .ok db ∧
        Planned db 1 := by
  obtain ⟨db, hdb⟩ := exists_ok (x := runAllowed quietEnvironment
    (fun db call => decide (StaysOrReplans 1 db call))
      (groupOnly ++ [.request 1 (.updateMatchById 1 movedLongMatch)])) (by decide +kernel)
  exact ⟨db, hdb, planned_of_moves .refl (fun _ hs => absurd hs List.not_mem_nil)
    (runs_of_allowed (fun _ _ h => of_decide_eq_true h) hdb)⟩

/-- **A moved match leaves a stale schedule**: the matches of the second and third round keep the
    times from before the first round was empty. -/
theorem movedMatch_stale : ∃ db, Runs (fun _ _ _ => True) .empty db ∧ ¬ Planned db 1 := by
  obtain ⟨db, hdb, hstale⟩ := exists_ok_of_any (x := runCalls quietEnvironment
    (groupOnly ++ [.request 1 (.updateMatchById 1 movedMatch)]))
    (P := fun db => ¬ Planned db 1) (by decide +kernel)
  exact ⟨db, runs_of_calls (fun _ _ => trivial) hdb, hstale⟩

end Brackets
