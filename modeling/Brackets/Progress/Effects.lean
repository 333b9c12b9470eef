/-
  File:      Brackets/Progress/Effects.lean
  Subject:   What an accepted call does to the layout of the tournaments.

  `Database.outline` keeps which rows there are, what they belong to and which slots take their
  team from which place. `Effect` says for every call what it makes of the outline, with the
  limits that the call checked before: most calls keep it, the others insert or delete rows of one
  or two tables or rewrite one slot. `Call.effect` is the inversion that the invariants over runs
  are derived from.
-/
import Brackets.Progress.Skeleton
import Brackets.Progress.TournamentDeletion

namespace Brackets

open Library

/-! ## 1. The outline -/

def TournamentRow.outline (t : TournamentRow) : TournamentRow :=
  ⟨t.id, 0, 0, 0, .opened, false, none, 0, none⟩

def StageRow.outline (s : StageRow) : StageRow := ⟨s.id, "", s.tournamentId, false, none⟩

def RoundRow.outline (r : RoundRow) : RoundRow := ⟨r.id, "", false, r.stageItemId⟩

theorem TournamentRow.key_outline (t : TournamentRow) : key t.outline = key t := rfl
theorem StageRow.key_outline (s : StageRow) : key s.outline = key s := rfl
theorem RoundRow.key_outline (r : RoundRow) : key r.outline = key r := rfl

/-- Tournaments, stages, stage items, slots, rounds and rankings. -/
def Database.layout (db : Database) : Database :=
  { Database.empty with
    tournaments := db.tournaments.map TournamentRow.outline TournamentRow.key_outline
    stages := db.stages.map StageRow.outline StageRow.key_outline
    stageItems := db.stageItems.map StageItemRow.skeleton StageItemRow.key_skeleton
    stageItemInputs :=
      db.stageItemInputs.map StageItemInputRow.skeleton StageItemInputRow.key_skeleton
    rounds := db.rounds.map RoundRow.outline RoundRow.key_outline
    rankings := db.rankings.map RankingRow.skeleton RankingRow.key_skeleton }

/-- The layout with the teams and the players. -/
def Database.outline (db : Database) : Database :=
  { db.layout with
    teams := db.teams.map TeamRow.skeleton TeamRow.key_skeleton
    players := db.players.map PlayerRow.skeleton PlayerRow.key_skeleton }

variable {db db' : Database} {tid : TournamentId}

/-- The other tables play no part. -/
theorem outline_of_tables (htournaments : db'.tournaments = db.tournaments)
    (hstages : db'.stages = db.stages)
    (hitems : db'.stageItems = db.stageItems) (hinputs : db'.stageItemInputs = db.stageItemInputs)
    (hrounds : db'.rounds = db.rounds) (hrankings : db'.rankings = db.rankings)
    (hteams : db'.teams = db.teams) (hplayers : db'.players = db.players) :
    db'.outline = db.outline := by
  unfold Database.outline Database.layout
  rw [htournaments, hstages, hitems, hinputs, hrounds, hrankings, hteams, hplayers]

theorem layout_of_outline (h : db'.outline = db.outline) : db'.layout = db.layout := by
  have hlayout : ∀ d : Database, d.layout =
      { d.outline with teams := .empty, players := .empty } := fun _ => rfl
  rw [hlayout, hlayout, h]

theorem skeleton_outline (db : Database) : db.skeleton.outline = db.outline := by
  have hmap : ∀ {α : Type} [Keyed α] (t : Table α) {g g' : α → α} {hg : ∀ r, key (g r) = key r}
      {hg' : ∀ r, key (g' r) = key r}, (∀ r, g' (g r) = g' r) →
        (t.map g hg).map g' hg' = t.map g' hg' := fun t _ _ _ _ h => t.map_of_update h
  unfold Database.outline Database.layout Database.skeleton
  dsimp only
  congr 1
  · exact hmap _ fun _ => rfl
  · exact hmap _ fun _ => rfl
  · exact hmap _ fun _ => rfl
  · exact hmap _ fun _ => rfl
  · exact hmap _ fun _ => rfl
  · exact hmap _ fun _ => rfl
  · exact hmap _ fun _ => rfl
  · exact hmap _ fun _ => rfl

theorem outline_of_skeleton (h : db'.skeleton = db.skeleton) : db'.outline = db.outline := by
  rw [← skeleton_outline db', ← skeleton_outline db, h]

theorem outline_of_untimed (h : db'.untimed = db.untimed) : db'.outline = db.outline := by
  have huntimed : ∀ d : Database, d.untimed.outline = d.outline := fun _ => rfl
  rw [← huntimed db', ← huntimed db, h]

theorem scheduleAllMatches_outline (h : scheduleAllMatches db tid = .ok db') :
    db'.outline = db.outline := outline_of_untimed (scheduleAllMatches_untimed h)

theorem recalculateRanking_outline {E : ExpectedScore} {item : StageItemWithRounds}
    (h : recalculateRankingForStageItem E db tid item = .ok db') : db'.outline = db.outline :=
  outline_of_skeleton (recalculateRanking_skeleton h)

/-! ## 2. Limits -/

/-- What a subscription counts within a tournament. -/
inductive Counted where
  | teams
  | players
  | stages
  | stageItems
  | rounds
  | rankings

/-- The number of records of a tournament. -/
def Database.count (db : Database) (tid : TournamentId) : Counted → Nat
  | .teams => (db.teams.owned (fun t => some t.tournamentId) tid).length
  | .players => (db.players.owned (fun p => some p.tournamentId) tid).length
  | .stages => (db.stages.owned (fun s => some s.tournamentId) tid).length
  | .stageItems => (db.stageItems.owned (fun i => db.stageTournament i.stageId) tid).length
  | .rounds => (db.rounds.owned (fun r => db.stageItemTournament r.stageItemId) tid).length
  | .rankings => (db.rankings.owned (fun r => some r.tournamentId) tid).length

def Subscription.limit (s : Subscription) : Counted → Nat
  | .teams => s.maxTeams
  | .players => s.maxPlayers
  | .stages => s.maxStages
  | .stageItems => s.maxStageItems
  | .rounds => s.maxRounds
  | .rankings => s.maxRankings

/-- There is room for more records. -/
def Room (db : Database) (tid : TournamentId) (c : Counted) (additions : Nat) : Prop :=
  db.count tid c + additions ≤ regularSubscription.limit c

/-- The check counts every record of the tournament. -/
theorem Room.of_counted {c : Counted} {existing additions : Nat} (hall : db.count tid c ≤ existing)
    (h : existing + additions ≤ regularSubscription.limit c) : Room db tid c additions :=
  (Nat.add_le_add_right hall additions).trans h

theorem count_teams_le : db.count tid .teams ≤ (getTeamsWithMembers db tid).length := by
  refine Table.length_owned_le (fun t : FullTeamWithPlayers => t.id) fun t ht hown => ?_
  refine ⟨_, List.mem_map.mpr ⟨t, (List.mem_insertionSort _).mpr ?_, rfl⟩, rfl⟩
  exact List.mem_filter.mpr ⟨ht, beq_iff_eq.mpr (Option.some.inj hown)⟩

theorem count_players_le :
    db.count tid .players ≤ (db.players.rows.filter (·.tournamentId == tid)).length :=
  Table.length_owned_le PlayerRow.id fun p hp hown =>
    ⟨p, List.mem_filter.mpr ⟨hp, beq_iff_eq.mpr (Option.some.inj hown)⟩, rfl⟩

theorem count_rankings_le : db.count tid .rankings ≤ (getAllRankingsInTournament db tid).length :=
  Table.length_owned_le RankingRow.id fun r hr hown => ⟨r, (List.mem_insertionSort _).mpr
    (List.mem_filter.mpr ⟨hr, beq_iff_eq.mpr (Option.some.inj hown)⟩), rfl⟩

theorem count_stages_le : db.count tid .stages ≤ (fullTournamentDetails db tid {}).length :=
  Table.length_owned_le (fun s : StageWithStageItems => s.id) fun s hs hown =>
    ⟨_, (mem_full_stages wholeFilter_whole).mpr ⟨s, hs, Option.some.inj hown, rfl⟩, rfl⟩

theorem count_stageItems_le : db.count tid .stageItems ≤
    ((fullTournamentDetails db tid {}).flatMap (·.stageItems)).length :=
  Table.length_owned_le (fun i : StageItemWithRounds => i.id) fun _ hi hown =>
    exists_loaded_item ((Database.stageItemTournament_row hi).trans hown)

theorem count_rounds_le : db.count tid .rounds ≤ ((fullTournamentDetails db tid {}).flatMap
    fun s => s.stageItems.flatMap (·.rounds)).length := by
  refine Table.length_owned_le (fun r : RoundWithMatches => r.id) fun r hr hown => ?_
  obtain ⟨i, s, hi, hs, ht⟩ := stageItemTournament_eq_some.mp hown
  have hstage := (mem_full_stages wholeFilter_whole).mpr ⟨s, db.stages.mem_of_find? hs, ht, rfl⟩
  have hitem : stageItemWithRounds db tid {} i ∈ (stageWithStageItems db tid {} s).stageItems :=
    (mem_full_stageItems wholeFilter_whole).mpr
      ⟨i, db.stageItems.mem_of_find? hi, (db.stages.key_of_find? hs).symm, rfl⟩
  have hround : roundWithMatches db (inputsWithTeams db tid {}) r ∈
      (stageItemWithRounds db tid {} i).rounds :=
    mem_full_rounds.mpr ⟨r, hr, (db.stageItems.key_of_find? hi).symm, rfl, rfl⟩
  exact ⟨_, List.mem_flatMap.mpr ⟨_, hstage, List.mem_flatMap.mpr ⟨_, hitem, hround⟩⟩, rfl⟩

/-! ## 3. The calls -/

/-- The deletion of a stage item, with everything that names it. -/
def withoutStageItem (db : Database) (k : StageItemId) : Database :=
  { db with
    stageItems := db.stageItems.delete (·.id == k)
    stageItemInputs := db.stageItemInputs.delete fun i =>
      i.stageItemId == k || i.winnerFromStageItemId == some k
    rounds := db.rounds.delete (·.stageItemId == k) }

theorem clearWinnerFrom_nil (m : MatchRow) : clearWinnerFrom [] m = m := by
  have hall : ∀ o : Option MatchId, o.filter (!List.contains [] ·) = o := by
    intro o
    cases o <;> rfl
  unfold clearWinnerFrom
  rw [hall, hall]

/-- Deleting no stage items deletes nothing. -/
theorem deleteStageItems_none {p : StageItemRow → Bool}
    (hp : ∀ i ∈ db.stageItems.rows, p i = false) (h : deleteStageItems db p = .ok db') :
    db' = db := by
  have hids : (db.stageItems.rows.filter p).map (·.id) = [] := by
    rw [List.filter_eq_nil_iff.mpr fun i hi => Bool.eq_false_iff.mp (hp i hi), List.map_nil]
  unfold deleteStageItems at h
  dsimp only at h
  rw [hids] at h
  obtain ⟨db2, h2, h⟩ := bind_eq_ok.mp h
  obtain ⟨-, rfl⟩ := deleteInputs_ok h2
  cases h
  have hround : ∀ m : MatchRow, ((db.rounds.find? m.roundId).any fun r =>
      [].contains r.stageItemId) = false := by
    intro m
    cases db.rounds.find? m.roundId <;> rfl
  have hmatches : (deleteMatches db fun m => (db.rounds.find? m.roundId).any fun r =>
      [].contains r.stageItemId) = db := by
    unfold deleteMatches
    rw [List.filter_eq_nil_iff.mpr fun m _ => Bool.eq_false_iff.mp (hround m),
      db.matches_.delete_eq_self fun m _ => hround m]
    exact congrArg (fun t => { db with matches_ := t })
      (db.matches_.map_eq_self clearWinnerFrom_nil)
  have hforget : ∀ d : Database, forgetStageItems d [] = d := by
    intro d
    unfold forgetStageItems
    rw [d.stageItemInputs.update_eq_self fun i _ => by cases i.winnerFromStageItemId <;> rfl]
  unfold deleteRounds
  dsimp only
  rw [hmatches, hforget, db.rounds.delete_eq_self (p := fun r => [].contains r.stageItemId)
    fun _ _ => rfl, db.stageItemInputs.delete_eq_self (p := fun i => [].contains i.stageItemId)
    fun _ _ => rfl, db.stageItems.delete_eq_self hp]

/-- The statements that delete a stage item with what names it. -/
theorem sqlDeleteStageItemWithForeignKeys_outline {k : StageItemId}
    (h : sqlDeleteStageItemWithForeignKeys db k = .ok db') :
    db'.outline = (withoutStageItem db k).outline := by
  obtain ⟨db2, h2, h⟩ := bind_eq_ok.mp h
  obtain ⟨-, rfl⟩ := deleteInputs_ok h2
  obtain ⟨db4, h4, h⟩ := bind_eq_ok.mp h
  obtain ⟨-, rfl⟩ := deleteInputs_ok h4
  cases h
  let ids := (db.stageItems.rows.filter (·.id == k)).map (·.id)
  have hids : ∀ j, ids.contains j = true → j = k := by
    intro j hj
    obtain ⟨i, hi, rfl⟩ := List.mem_map.mp (List.contains_iff_mem.mp hj)
    exact eq_of_beq (List.mem_filter.mp hi).2
  have hrounds : (db.rounds.delete (·.stageItemId == k)).delete (ids.contains ·.stageItemId) =
      db.rounds.delete (·.stageItemId == k) := by
    refine Table.delete_eq_self _ fun r hr => Bool.eq_false_iff.mpr fun hin => ?_
    have hne := beq_eq_false_iff_ne.mp (Table.mem_delete _ |>.mp hr).2
    exact hne (hids _ hin)
  let inputs := db.stageItemInputs.delete fun i =>
    i.stageItemId == k || i.winnerFromStageItemId == some k
  have hleft : ∀ i ∈ inputs.rows, i.stageItemId ≠ k ∧ i.winnerFromStageItemId ≠ some k := by
    intro i hi
    have hnot := (Table.mem_delete _ |>.mp hi).2
    rwa [Bool.or_eq_false_iff, beq_eq_false_iff_ne, beq_eq_false_iff_ne] at hnot
  have hinputs : inputs.delete (ids.contains ·.stageItemId) = inputs :=
    inputs.delete_eq_self fun i hi => Bool.eq_false_iff.mpr fun hin => (hleft i hi).1 (hids _ hin)
  have hforget : ∀ hf : ∀ i : StageItemInputRow,
      key { i with winnerFromStageItemId := none } = key i,
      (inputs.delete (ids.contains ·.stageItemId)).update
        (fun i => i.winnerFromStageItemId.any ids.contains)
        (fun i => { i with winnerFromStageItemId := none }) hf = inputs := by
    intro hf
    rw [hinputs]
    refine inputs.update_eq_self fun i hi => Bool.eq_false_iff.mpr fun hin => ?_
    obtain ⟨j, hj, hmem⟩ := (Option.any_eq_true _ _).mp hin
    exact (hleft i hi).2 (hj.trans (congrArg some (hids j hmem)))
  exact outline_of_tables rfl rfl rfl (hforget fun _ => rfl) hrounds rfl rfl rfl

/-- **What an accepted call makes of the outline**, and what it checked about it. -/
inductive Effect (db : Database) : Call → Database → Prop where
  | kept {call : Call} {db' : Database} (h : db'.outline = db.outline) : Effect db call db'
  | createTournament {body : TournamentBody} {db' : Database}
      (h : db'.outline = (sqlCreateRanking
        { db with tournaments := db.tournaments.insert body.row body.key_row }
        db.tournaments.next {} 0).outline) :
      Effect db (.createTournament body) db'
  | deleteTournament {tid : TournamentId} {db' : Database} (hconfined : Confined tid db db')
      (hcleared : Cleared tid db') : Effect db (.request tid .deleteTournament) db'
  | createStage {tid : TournamentId} {db' : Database} (hroom : Room db tid .stages 1)
      (h : db'.outline = (sqlCreateStage db tid).outline) :
      Effect db (.request tid .createStage) db'
  | deleteStage {tid : TournamentId} {k : StageId} {db' : Database}
      (hempty : ∀ i ∈ db.stageItems.rows, i.stageId ≠ k)
      (h : db'.outline =
        { db with stages := db.stages.delete fun s => s.id == k && s.tournamentId == tid }.outline) :
      Effect db (.request tid (.deleteStage k)) db'
  | createStageItem {tid : TournamentId} {body : StageItemCreateBody}
      {new : StageItemRow × Database} {n : Nat} {db' : Database}
      (hroom : Room db tid .stageItems 1) (hstage : db.stageTournament body.stageId = some tid)
      (hnew : sqlCreateStageItemWithEmptyInputs db tid body = .ok new)
      (hn : roundsToCreate new.1 = .ok n)
      (h : db'.outline = ((createNextRound tid new.1.id)^[n] new.2).outline) :
      Effect db (.request tid (.createStageItem body)) db'
  | deleteStageItem {tid : TournamentId} {k : StageItemId} {db' : Database}
      (hk : db.stageItemTournament k = some tid)
      (h : db'.outline = (withoutStageItem db k).outline) :
      Effect db (.request tid (.deleteStageItem k)) db'
  | updateStageItemInput {tid : TournamentId} {stageItemId : StageItemId} {k : StageItemInputId}
      {body : StageItemInputUpdateBody} {db' : Database}
      (hsource : ∀ s, body.source = some s → db.stageItemTournament s = some tid)
      (h : db'.outline = (sqlUpdateStageItemInput db tid k none body.source body.position).outline) :
      Effect db (.request tid (.updateStageItemInput stageItemId k body)) db'
  | createRound {tid : TournamentId} {body : RoundCreateBody} {name : String} {db' : Database}
      (hroom : Room db tid .rounds 1)
      (h : db'.outline = (sqlCreateRound db name true body.stageItemId).2.outline) :
      Effect db (.request tid (.createRound body)) db'
  | deleteRound {tid : TournamentId} {k : RoundId} {db' : Database}
      (h : db'.outline = { db with rounds := db.rounds.delete (·.id == k) }.outline) :
      Effect db (.request tid (.deleteRound k)) db'
  | createRanking {tid : TournamentId} {body : RankingCreateBody} {position : Int} {db' : Database}
      (hroom : Room db tid .rankings 1)
      (h : db'.outline = (sqlCreateRanking db tid body position).outline) :
      Effect db (.request tid (.createRanking body)) db'
  | deleteRanking {tid : TournamentId} {k : RankingId} {db' : Database}
      (h : db'.outline = { db with
        rankings := db.rankings.delete fun r => r.id == k && r.tournamentId == tid }.outline) :
      Effect db (.request tid (.deleteRanking k)) db'
  | createTeam {tid : TournamentId} {body : TeamBody} {db' : Database}
      (hroom : Room db tid .teams 1)
      (h : db'.outline = (insertTeam db tid body.name body.active).2.outline) :
      Effect db (.request tid (.createTeam body)) db'
  | createMultipleTeams {tid : TournamentId} {now : DateTime}
      {teamsWithPlayers : List (String × List String)} {active : Bool}
      (hteams : Room db tid .teams teamsWithPlayers.length)
      (hplayers : Room db tid .players (teamsWithPlayers.flatMap (·.2)).length) :
      Effect db (.request tid (.createMultipleTeams teamsWithPlayers active))
        (teamsWithPlayers.foldl (createTeamWithPlayers now tid active) db)
  | deleteTeam {tid : TournamentId} {k : TeamId} {db' : Database}
      (h : db'.outline = { db with
        teams := db.teams.delete fun t => t.id == k && t.tournamentId == tid }.outline) :
      Effect db (.request tid (.deleteTeam k)) db'
  | createSinglePlayer {tid : TournamentId} {now : DateTime} {body : PlayerBody}
      (hroom : Room db tid .players 1) :
      Effect db (.request tid (.createSinglePlayer body)) (insertPlayer db now body tid).2
  | createMultiplePlayers {tid : TournamentId} {now : DateTime} {playerNames : List String}
      {active : Bool} (hroom : Room db tid .players playerNames.length) :
      Effect db (.request tid (.createMultiplePlayers playerNames active))
        (playerNames.foldl (fun db name => (insertPlayer db now ⟨name, active⟩ tid).2) db)
  | deletePlayer {tid : TournamentId} {k : PlayerId} {db' : Database}
      (h : db'.outline = { db with
        players := db.players.delete fun p => p.id == k && p.tournamentId == tid }.outline) :
      Effect db (.request tid (.deletePlayer k)) db'

/-! ## 4. The requests that keep the outline -/

/-- An UPDATE of columns of tournaments that the outline drops. -/
theorem outline_tournaments {p : TournamentRow → Bool} {f : TournamentRow → TournamentRow}
    {hf : ∀ t, key (f t) = key t} (h : ∀ t, (f t).outline = t.outline) :
    { db with tournaments := db.tournaments.update p f hf }.outline = db.outline := by
  simp only [Database.outline, Database.layout, db.tournaments.map_of_update h]

/-- An UPDATE of columns of stages that the outline drops. -/
theorem outline_stages {p : StageRow → Bool} {f : StageRow → StageRow}
    {hf : ∀ s, key (f s) = key s} (h : ∀ s, (f s).outline = s.outline) :
    { db with stages := db.stages.update p f hf }.outline = db.outline := by
  simp only [Database.outline, Database.layout, db.stages.map_of_update h]

theorem updateTournamentById_outline {body : TournamentUpdateBody}
    (h : updateTournamentById db tid body = .ok db') : db'.outline = db.outline := by
  obtain ⟨-, -, h⟩ := updateTournamentById_ok h
  exact (scheduleAllMatches_outline h).trans (outline_tournaments fun _ => rfl)

theorem updateStage_outline {k : StageId} {body : StageUpdateBody}
    (h : updateStage db tid k body = .ok db') : db'.outline = db.outline := by
  have hupdate : (sqlUpdateStage db tid k body).outline = db.outline :=
    outline_stages fun _ => rfl
  obtain ⟨stage, -, -, ⟨-, rfl⟩ | hplanned⟩ := updateStage_ok h
  · exact hupdate
  · exact (scheduleAllMatches_outline hplanned).trans hupdate

theorem createMatch_outline {body : MatchCreateBodyFrontend}
    (h : createMatch db tid body = .ok db') : db'.outline = db.outline := by
  obtain ⟨e⟩ := createMatch_ok h
  rw [scheduleAllMatches_outline e.planning]
  rfl

theorem updateMatchById_outline {E : ExpectedScore} {k : MatchId} {body : MatchBody}
    (h : updateMatchById E db tid k body = .ok db') : db'.outline = db.outline := by
  obtain ⟨se⟩ := updateMatchById_ok h
  have hplanned : se.planned.outline = db.outline := by
    rw [outline_of_untimed se.planning, recalculateRanking_outline se.recalculation]
    rfl
  have hpropagation := se.propagation
  split at hpropagation
  · exact (outline_of_skeleton (updateInputsInSubsequent_skeleton hpropagation)).trans hplanned
  · exact Except.ok.inj hpropagation ▸ hplanned

theorem deleteMatch_outline {E : ExpectedScore} {k : MatchId}
    (h : deleteMatch E db tid k = .ok db') : db'.outline = db.outline := by
  obtain ⟨e⟩ := deleteMatch_ok h
  rw [scheduleAllMatches_outline e.planning, recalculateRanking_outline e.recalculation]
  rfl

theorem scheduleMatches_outline (h : scheduleMatches db tid = .ok db') :
    db'.outline = db.outline := scheduleAllMatches_outline (scheduleMatches_ok h).2

/-! ## 5. The requests that change it -/

theorem buildMatches_outline {E : ExpectedScore} {item : StageItemRow}
    (h : buildMatchesForStageItem E db item tid = .ok db') :
    ∃ n, roundsToCreate item = .ok n ∧
      db'.outline = ((createNextRound tid item.id)^[n] db).outline := by
  obtain ⟨n, loaded, bodies, hn, -, hbuilt⟩ := buildMatches_ok h
  have hmatches := createMatches_project Database.outline (fun _ _ => rfl) bodies
    ((createNextRound tid item.id)^[n] db)
  refine ⟨n, hn, ?_⟩
  rcases hbuilt with rfl | h
  · exact hmatches
  · exact (recalculateRanking_outline h).trans hmatches

theorem createStageItem_effect {E : ExpectedScore} {body : StageItemCreateBody}
    (h : createStageItem E db tid body = .ok db') :
    Effect db (.request tid (.createStageItem body)) db' := by
  obtain ⟨e⟩ := createStageItem_ok h
  obtain ⟨n, hn, hbuild⟩ := buildMatches_outline e.building
  exact .createStageItem (.of_counted count_stageItems_le e.room)
    (stage_belongs (e.keys (.stageId body.stageId) List.mem_cons_self)) e.created hn
    ((scheduleAllMatches_outline e.planning).trans hbuild)

theorem deleteStageItem_effect {k : StageItemId} (h : deleteStageItem db tid k = .ok db') :
    Effect db (.request tid (.deleteStageItem k)) db' := by
  obtain ⟨e⟩ := deleteStageItem_ok h
  obtain ⟨_, -, ht, -, -⟩ := getStageItem_eq_ok.mp e.found
  exact .deleteStageItem ht ((scheduleAllMatches_outline e.planning).trans
    (sqlDeleteStageItemWithForeignKeys_outline e.deletion))

/-- The team of a slot is not part of the outline. -/
theorem sqlUpdateStageItemInput_outline (k : StageItemInputId) (teamId : Option TeamId)
    (winnerFrom : Option StageItemId) (position : Option Int) :
    (sqlUpdateStageItemInput db tid k teamId winnerFrom position).outline =
      (sqlUpdateStageItemInput db tid k none winnerFrom position).outline := by
  have hinputs : (sqlUpdateStageItemInput db tid k teamId winnerFrom position).stageItemInputs.map
      StageItemInputRow.skeleton StageItemInputRow.key_skeleton =
      (sqlUpdateStageItemInput db tid k none winnerFrom position).stageItemInputs.map
        StageItemInputRow.skeleton StageItemInputRow.key_skeleton := by
    refine Table.ext ?_ rfl
    simp only [Table.rows_map, sqlUpdateStageItemInput, Table.rows_update, List.map_map]
    refine List.map_congr_left fun i _ => ?_
    simp only [Function.comp]
    split <;> rfl
  exact congrArg (fun t => { db.outline with stageItemInputs := t }) hinputs

theorem updateStageItemInput_effect {stageItemId : StageItemId} {k : StageItemInputId}
    {body : StageItemInputUpdateBody} (h : updateStageItemInput db tid stageItemId k body = .ok db') :
    Effect db (.request tid (.updateStageItemInput stageItemId k body)) db' := by
  obtain ⟨e⟩ := updateStageItemInput_ok h
  rw [e.stored]
  exact .updateStageItemInput (fun s hs => source_belongs (e.source s hs))
    (sqlUpdateStageItemInput_outline k body.teamId body.source body.position)

theorem createStage_effect (h : createStage db tid = .ok db') :
    Effect db (.request tid .createStage) db' := by
  obtain ⟨-, hroom, rfl⟩ := createStage_ok h
  exact .createStage (.of_counted count_stages_le hroom) rfl

/-- A stage is deleted if it has no stage items. -/
theorem deleteStage_eq {k : StageId} (h : deleteStage db tid k = .ok db') :
    (∀ i ∈ db.stageItems.rows, i.stageId ≠ k) ∧ db' =
      { db with stages := db.stages.delete fun s => s.id == k && s.tournamentId == tid } := by
  obtain ⟨stage, -, hstage, hempty, h⟩ := deleteStage_ok h
  obtain ⟨s, hs, hk, -, rfl⟩ := stageDependency_ok hstage
  obtain ⟨db1, h1, h⟩ := bind_eq_ok.mp h
  obtain ⟨db2, h2, hlast⟩ := bind_eq_ok.mp h
  have hempty : ∀ i ∈ db.stageItems.rows, i.stageId ≠ k := by
    intro i hi e
    have hmem : stageItemWithRounds db tid { stageId := some k } i ∈
        (stageWithStageItems db tid { stageId := some k } s).stageItems := by
      refine List.mem_map.mpr
        ⟨i, (List.mem_insertionSort _).mpr (List.mem_filter.mpr ⟨hi, ?_⟩), rfl⟩
      rw [e, hk, beq_self_eq_true]
      rfl
    rw [hempty] at hmem
    exact List.not_mem_nil hmem
  have h1' := deleteStageItems_none (fun i hi => beq_eq_false_iff_ne.mpr (hempty i hi)) h1
  rw [h1'] at h2
  have h2' := deleteStageItems_none (fun i hi => Bool.eq_false_iff.mpr fun hin => ?_) h2
  · rw [h2'] at hlast
    exact ⟨hempty, (Except.ok.inj hlast).symm⟩
  · obtain ⟨s', hs', e⟩ := List.mem_map.mp (List.contains_iff_mem.mp hin)
    have hid := Bool.and_eq_true _ _ |>.mp (List.mem_filter.mp hs').2
    exact hempty i hi (e.symm.trans (eq_of_beq hid.1))

theorem deleteStage_effect {k : StageId} (h : deleteStage db tid k = .ok db') :
    Effect db (.request tid (.deleteStage k)) db' := by
  obtain ⟨hempty, rfl⟩ := deleteStage_eq h
  exact .deleteStage hempty rfl

theorem createRound_effect {maxWeightMatching : MatchingSolver} {shuffle : Shuffle}
    {body : RoundCreateBody} (h : createRound maxWeightMatching shuffle db tid body = .ok db') :
    Effect db (.request tid (.createRound body)) db' := by
  obtain ⟨e⟩ := createRound_ok h
  have hitem : e.item.id = body.stageItemId := by
    obtain ⟨row, hrow, -, hload, -⟩ := getStageItem_eq_ok.mp e.checks.found
    rw [hload]
    exact db.stageItems.key_of_find? hrow
  have hdraft := scheduleAllMatches_outline e.drafted
  rw [foldl_project Database.outline (fun d pair => (sqlCreateMatch d
    (pairBody e.tournament db.rounds.next pair)).2) (fun _ _ => rfl), hitem] at hdraft
  exact .createRound (.of_counted count_rounds_le e.checks.room) hdraft

theorem deleteRound_effect {E : ExpectedScore} {k : RoundId}
    (h : deleteRound E db tid k = .ok db') : Effect db (.request tid (.deleteRound k)) db' := by
  obtain ⟨e⟩ := deleteRound_ok h
  refine .deleteRound ?_
  have hset : ∀ d : Database, (sqlDeleteRound d k).outline = { d.outline with
      rounds := (d.rounds.delete (·.id == k)).map RoundRow.outline RoundRow.key_outline } :=
    fun _ => rfl
  rw [scheduleAllMatches_outline e.planning, recalculateRanking_outline e.recalculation, hset,
    foldl_project Database.outline (fun d (m : Match) => sqlDeleteMatch d m.id) (fun _ _ => rfl),
    foldl_project Database.rounds (fun d (m : Match) => sqlDeleteMatch d m.id) (fun _ _ => rfl)]
  rfl

theorem createRanking_effect {body : RankingCreateBody} (h : createRanking db tid body = .ok db') :
    Effect db (.request tid (.createRanking body)) db' := by
  obtain ⟨-, hroom, rfl⟩ := createRanking_ok h
  exact .createRanking (.of_counted count_rankings_le hroom) rfl

/-- A ranking is deleted if no stage item uses it. -/
theorem deleteRanking_eq (hdb : Isolated db) {k : RankingId}
    (h : deleteRanking db tid k = .ok db') : db' = { db with
      rankings := db.rankings.delete fun r => r.id == k && r.tournamentId == tid } := by
  obtain ⟨-, -, hunused, h⟩ := deleteRanking_ok h
  obtain ⟨db1, h1, h⟩ := bind_eq_ok.mp h
  have h1' := deleteStageItems_none (fun i hi => Bool.eq_false_iff.mpr fun hin => ?_) h1
  · rw [h1'] at h
    exact (Except.ok.inj h).symm
  · obtain ⟨r, hr, e⟩ := List.mem_map.mp (List.contains_iff_mem.mp hin)
    obtain ⟨hr, hsel⟩ := List.mem_filter.mp hr
    obtain ⟨hid, ht⟩ := Bool.and_eq_true _ _ |>.mp hsel
    obtain ⟨b, hb⟩ := hdb.stageItems i hi
    have hown := hb.ranking
    rw [← e, Database.rankingTournament_row hr, eq_of_beq ht] at hown
    have hmem : i.id ∈ getStageItemIdsByRankingId db tid k := by
      refine List.mem_map.mpr ⟨i, List.mem_filter.mpr ⟨hi, ?_⟩, rfl⟩
      rw [← e, eq_of_beq hid, Database.stageItemTournament_row hi, hb.stage, hown,
        beq_self_eq_true, beq_self_eq_true, Bool.and_true]
    rw [hunused] at hmem
    exact List.not_mem_nil hmem

theorem deleteRanking_effect (hdb : Isolated db) {k : RankingId}
    (h : deleteRanking db tid k = .ok db') : Effect db (.request tid (.deleteRanking k)) db' := by
  rw [deleteRanking_eq hdb h]
  exact .deleteRanking rfl

theorem createTeam_effect {body : TeamBody} (h : createTeam db tid body = .ok db') :
    Effect db (.request tid (.createTeam body)) db' := by
  obtain ⟨-, -, hroom, h⟩ := createTeam_ok h
  exact .createTeam (.of_counted count_teams_le hroom)
    (outline_of_skeleton (updateTeamMembers_skeleton h))

theorem createMultipleTeams_effect {now : DateTime}
    {teamsWithPlayers : List (String × List String)} {active : Bool}
    (h : createMultipleTeams db now tid teamsWithPlayers active = .ok db') :
    Effect db (.request tid (.createMultipleTeams teamsWithPlayers active)) db' := by
  obtain ⟨-, hteams, hplayers, rfl⟩ := createMultipleTeams_ok h
  exact .createMultipleTeams (.of_counted count_teams_le hteams)
    (.of_counted count_players_le hplayers)

theorem deleteTeam_effect {k : TeamId} (h : deleteTeam db tid k = .ok db') :
    Effect db (.request tid (.deleteTeam k)) db' := by
  obtain ⟨-, -, h⟩ := deleteTeam_ok h
  obtain ⟨-, rfl⟩ := deleteTeams_ok h
  exact .deleteTeam rfl

theorem createSinglePlayer_effect {now : DateTime} {body : PlayerBody}
    (h : createSinglePlayer db now tid body = .ok db') :
    Effect db (.request tid (.createSinglePlayer body)) db' := by
  obtain ⟨-, hroom, rfl⟩ := createSinglePlayer_ok h
  exact .createSinglePlayer (.of_counted count_players_le hroom)

theorem createMultiplePlayers_effect {now : DateTime} {playerNames : List String} {active : Bool}
    (h : createMultiplePlayers db now tid playerNames active = .ok db') :
    Effect db (.request tid (.createMultiplePlayers playerNames active)) db' := by
  obtain ⟨-, hroom, rfl⟩ := createMultiplePlayers_ok h
  exact .createMultiplePlayers (.of_counted count_players_le hroom)

theorem deletePlayer_effect {k : PlayerId} (h : deletePlayer db tid k = .ok db') :
    Effect db (.request tid (.deletePlayer k)) db' := by
  obtain ⟨-, rfl⟩ := deletePlayer_ok h
  exact .deletePlayer rfl

theorem createTournament_effect {body : TournamentBody} (h : createTournament db body = .ok db') :
    Effect db (.createTournament body) db' := by
  obtain ⟨-, -, rfl⟩ := createTournament_ok h
  exact .createTournament rfl

theorem deleteTournament_cleared (h : deleteTournament db tid = .ok db') : Cleared tid db' := by
  obtain ⟨e⟩ := sqlDeleteTournamentCompletely_steps h
  exact sqlDeleteTournament_cleared e.tournament

theorem deleteTournament_effect (hdb : Isolated db) (h : deleteTournament db tid = .ok db') :
    Effect db (.request tid .deleteTournament) db' :=
  .deleteTournament (.sqlDeleteTournamentCompletely hdb h) (deleteTournament_cleared h)

/-- **What an accepted call does.** -/
theorem Call.effect (hdb : Isolated db) {env : Environment} {call : Call}
    (h : call.handle env db = .ok db') : Effect db call db' := by
  cases call with
  | createTournament body => exact createTournament_effect h
  | request tid r =>
    cases r with
    | updateTournamentById body => exact .kept (updateTournamentById_outline h)
    | deleteTournament => exact deleteTournament_effect hdb h
    | changeStatus status => exact .kept (outline_of_skeleton (changeStatus_skeleton h))
    | uploadLogo filename => exact .kept (outline_of_skeleton (uploadLogo_skeleton h))
    | createStage => exact createStage_effect h
    | updateStage k body => exact .kept (updateStage_outline h)
    | deleteStage k => exact deleteStage_effect h
    | activateNextStage direction =>
      exact .kept (outline_of_skeleton (activateNextStage_skeleton h))
    | createStageItem body => exact createStageItem_effect h
    | updateStageItem k body => exact .kept (outline_of_skeleton (updateStageItem_skeleton h))
    | deleteStageItem k => exact deleteStageItem_effect h
    | updateStageItemInput stageItemId k body => exact updateStageItemInput_effect h
    | createRound body => exact createRound_effect h
    | updateRoundById k body => exact .kept (outline_of_skeleton (updateRoundById_skeleton h))
    | deleteRound k => exact deleteRound_effect h
    | createMatch body => exact .kept (createMatch_outline h)
    | updateMatchById k body => exact .kept (updateMatchById_outline h)
    | deleteMatch k => exact .kept (deleteMatch_outline h)
    | scheduleMatches => exact .kept (scheduleMatches_outline h)
    | createRanking body => exact createRanking_effect h
    | updateRankingById k body => exact .kept (outline_of_skeleton (updateRankingById_skeleton h))
    | deleteRanking k => exact deleteRanking_effect hdb h
    | createTeam body => exact createTeam_effect h
    | createMultipleTeams teamsWithPlayers active => exact createMultipleTeams_effect h
    | updateTeamById k body => exact .kept (outline_of_skeleton (updateTeamById_skeleton h))
    | updateTeamLogo k filename => exact .kept (outline_of_skeleton (updateTeamLogo_skeleton h))
    | deleteTeam k => exact deleteTeam_effect h
    | createSinglePlayer body => exact createSinglePlayer_effect h
    | createMultiplePlayers playerNames active => exact createMultiplePlayers_effect h
    | updatePlayerById k body => exact .kept (outline_of_skeleton (updatePlayerById_skeleton h))
    | deletePlayer k => exact deletePlayer_effect h

/-! ## 6. What changes the slots -/

/-- The stage items and the slots, without names, teams and results. -/
def Database.slotTables (db : Database) : Table StageItemRow × Table StageItemInputRow :=
  (db.layout.stageItems, db.layout.stageItemInputs)

theorem slotTables_of_outline (h : db'.outline = db.outline) :
    db'.slotTables = db.slotTables := by
  unfold Database.slotTables
  rw [layout_of_outline h]

theorem iterate_project {α γ : Type} (π : α → γ) (f : α → α) (h : ∀ a, π (f a) = π a) (n : Nat)
    (a : α) : π (f^[n] a) = π a := by
  induction n generalizing a with
  | zero => rfl
  | succ n ih => exact (ih (f a)).trans (h a)

/-- What inserting teams and players does not touch. -/
theorem createTeamWithPlayers_project {γ : Type} (π : Database → γ) {now : DateTime} {active : Bool}
    (hteam : ∀ d name, π (insertTeam d tid name active).2 = π d)
    (hplayer : ∀ d k name,
      π (insertMember (insertPlayer d now ⟨name, active⟩ tid).2 k d.players.next) = π d)
    (db : Database) (team : String × List String) :
    π (createTeamWithPlayers now tid active db team) = π db :=
  (foldl_project π (fun d name =>
    insertMember (insertPlayer d now ⟨name, active⟩ tid).2 db.teams.next d.players.next)
    (fun d name => hplayer d db.teams.next name) team.2 _).trans (hteam db team.1)

/-- The calls that change stage items or slots. -/
inductive SlotChange (db : Database) : Call → Database → Prop where
  | kept {call : Call} {db' : Database} (h : db'.slotTables = db.slotTables) :
      SlotChange db call db'
  | deleteTournament {tid : TournamentId} {db' : Database} (hconfined : Confined tid db db')
      (hcleared : Cleared tid db') : SlotChange db (.request tid .deleteTournament) db'
  | createStageItem {tid : TournamentId} {body : StageItemCreateBody}
      {new : StageItemRow × Database} {db' : Database}
      (hstage : db.stageTournament body.stageId = some tid)
      (hnew : sqlCreateStageItemWithEmptyInputs db tid body = .ok new)
      (h : db'.slotTables = new.2.slotTables) :
      SlotChange db (.request tid (.createStageItem body)) db'
  | deleteStageItem {tid : TournamentId} {k : StageItemId} {db' : Database}
      (h : db'.slotTables = (withoutStageItem db k).slotTables) :
      SlotChange db (.request tid (.deleteStageItem k)) db'
  | updateStageItemInput {tid : TournamentId} {stageItemId : StageItemId} {k : StageItemInputId}
      {body : StageItemInputUpdateBody} {db' : Database}
      (hsource : ∀ s, body.source = some s → db.stageItemTournament s = some tid)
      (h : db'.slotTables =
        (sqlUpdateStageItemInput db tid k none body.source body.position).slotTables) :
      SlotChange db (.request tid (.updateStageItemInput stageItemId k body)) db'

theorem Effect.slots {call : Call} (h : Effect db call db') : SlotChange db call db' := by
  cases h with
  | kept h => exact .kept (slotTables_of_outline h)
  | createTournament h => exact .kept ((slotTables_of_outline h).trans rfl)
  | deleteTournament hconfined hcleared => exact .deleteTournament hconfined hcleared
  | createStage _ h => exact .kept ((slotTables_of_outline h).trans rfl)
  | deleteStage _ h => exact .kept ((slotTables_of_outline h).trans rfl)
  | @createStageItem tid _ new _ _ _ hstage hnew _ h =>
    exact .createStageItem hstage hnew ((slotTables_of_outline h).trans
      (iterate_project Database.slotTables (createNextRound tid new.1.id) (fun _ => rfl) _ _))
  | deleteStageItem _ h => exact .deleteStageItem (slotTables_of_outline h)
  | updateStageItemInput hsource h =>
    exact .updateStageItemInput hsource (slotTables_of_outline h)
  | createRound _ h => exact .kept ((slotTables_of_outline h).trans rfl)
  | deleteRound h => exact .kept ((slotTables_of_outline h).trans rfl)
  | createRanking _ h => exact .kept ((slotTables_of_outline h).trans rfl)
  | deleteRanking h => exact .kept ((slotTables_of_outline h).trans rfl)
  | createTeam _ h => exact .kept ((slotTables_of_outline h).trans rfl)
  | createMultipleTeams =>
    exact .kept (foldl_project Database.slotTables _ (fun d team =>
      createTeamWithPlayers_project Database.slotTables (fun _ _ => rfl) (fun _ _ _ => rfl) d team)
      _ _)
  | deleteTeam h => exact .kept ((slotTables_of_outline h).trans rfl)
  | createSinglePlayer => exact .kept rfl
  | @createMultiplePlayers tid now _ active =>
    exact .kept (foldl_project Database.slotTables
      (fun d name => (insertPlayer d now ⟨name, active⟩ tid).2) (fun _ _ => rfl) _ _)
  | deletePlayer h => exact .kept ((slotTables_of_outline h).trans rfl)

end Brackets
