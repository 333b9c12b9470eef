/-
  File:      Brackets/Progress/TournamentDeletion.lean
  Subject:   Deleting a tournament completely.

  In an isolated database only two foreign keys can stop a deletion of rows of the tournament: a
  match that names a deleted input and an input that names a deleted team. The first statements
  delete all matches of the tournament, so that no match names an input of it (`Unnamed`), the
  next ones all inputs. After that nothing is in the way: `sqlDeleteTournamentCompletely_ok`.
-/
import Brackets.Progress.IsolatedRequests
import Brackets.Ranking.Published

namespace Brackets

open Library

variable {db db' db'' : Database} {tid : TournamentId}

/-! ## 1. What deletions leave -/

/-- Matches and inputs after some deletions: what they name is what they named. -/
structure Remnant (db db' : Database) : Prop where
  matches_ : ∀ m' ∈ db'.matches_.rows, ∃ m ∈ db.matches_.rows,
    m'.roundId = m.roundId ∧ ∀ side, m'.inputId side = m.inputId side
  inputs : ∀ i' ∈ db'.stageItemInputs.rows, ∃ i ∈ db.stageItemInputs.rows,
    i'.tournamentId = i.tournamentId ∧ i'.stageItemId = i.stageItemId

theorem Remnant.refl (db : Database) : Remnant db db :=
  ⟨fun m hm => ⟨m, hm, rfl, fun _ => rfl⟩, fun i hi => ⟨i, hi, rfl, rfl⟩⟩

theorem Remnant.trans (h : Remnant db db') (h' : Remnant db' db'') : Remnant db db'' where
  matches_ m'' hm'' := by
    obtain ⟨m', hm', hround', hside'⟩ := h'.matches_ m'' hm''
    obtain ⟨m, hm, hround, hside⟩ := h.matches_ m' hm'
    exact ⟨m, hm, hround'.trans hround, fun side => (hside' side).trans (hside side)⟩
  inputs i'' hi'' := by
    obtain ⟨i', hi', ht', hk'⟩ := h'.inputs i'' hi''
    obtain ⟨i, hi, ht, hk⟩ := h.inputs i' hi'
    exact ⟨i, hi, ht'.trans ht, hk'.trans hk⟩

/-- Other tables play no part. -/
theorem Remnant.of_tables (hm : db'.matches_ = db.matches_)
    (hi : db'.stageItemInputs = db.stageItemInputs) : Remnant db db' where
  matches_ m h := ⟨m, hm ▸ h, rfl, fun _ => rfl⟩
  inputs i h := ⟨i, hi ▸ h, rfl, rfl⟩

theorem Remnant.deleteMatches (db : Database) (p : MatchRow → Bool) :
    Remnant db (deleteMatches db p) where
  matches_ m' hm' := by
    obtain ⟨m, hm, rfl⟩ := List.mem_map.mp hm'
    refine ⟨m, (db.matches_.mem_delete.mp hm).1, rfl, fun side => ?_⟩
    cases side <;> rfl
  inputs i hi := ⟨i, hi, rfl, rfl⟩

theorem Remnant.deleteInputs {p : StageItemInputRow → Bool} (h : deleteInputs db p = .ok db') :
    Remnant db db' := by
  obtain ⟨-, rfl⟩ := deleteInputs_ok h
  exact ⟨fun m hm => ⟨m, hm, rfl, fun _ => rfl⟩,
    fun i hi => ⟨i, (db.stageItemInputs.mem_delete.mp hi).1, rfl, rfl⟩⟩

theorem Remnant.deleteRounds (db : Database) (p : RoundRow → Bool) :
    Remnant db (deleteRounds db p) := by
  have hmatches := Remnant.deleteMatches db fun m => (db.rounds.find? m.roundId).any p
  exact hmatches.trans (.of_tables rfl rfl)

theorem Remnant.forgetStageItems (db : Database) (ids : List StageItemId) :
    Remnant db (forgetStageItems db ids) where
  matches_ m hm := ⟨m, hm, rfl, fun _ => rfl⟩
  inputs i' hi' := by
    obtain ⟨i, hi, rfl⟩ := List.mem_map.mp hi'
    refine ⟨i, hi, ?_⟩
    split
    · exact ⟨rfl, rfl⟩
    · exact ⟨rfl, rfl⟩

theorem Remnant.deleteStageItems {p : StageItemRow → Bool} (h : deleteStageItems db p = .ok db') :
    Remnant db db' := by
  obtain ⟨db2, h2, h⟩ := bind_eq_ok.mp h
  have hrows := (Remnant.deleteRounds db _).trans (.deleteInputs h2)
  cases h
  have hitems : Remnant db2 { db2 with stageItems := db2.stageItems.delete p } :=
    .of_tables rfl rfl
  exact (hrows.trans hitems).trans (.forgetStageItems _ _)

theorem Remnant.deleteStages {p : StageRow → Bool} (h : deleteStages db p = .ok db') :
    Remnant db db' := by
  obtain ⟨db1, h1, h⟩ := bind_eq_ok.mp h
  cases h
  exact (Remnant.deleteStageItems h1).trans (.of_tables rfl rfl)

theorem Remnant.deleteRankings {p : RankingRow → Bool} (h : deleteRankings db p = .ok db') :
    Remnant db db' := by
  obtain ⟨db1, h1, h⟩ := bind_eq_ok.mp h
  cases h
  exact (Remnant.deleteStageItems h1).trans (.of_tables rfl rfl)

theorem Remnant.deleteTeams {p : TeamRow → Bool} (h : deleteTeams db p = .ok db') :
    Remnant db db' := by
  obtain ⟨-, rfl⟩ := deleteTeams_ok h
  exact .of_tables rfl rfl

/-! ## 2. Deletions that nothing stops -/

/-- Every input that a match names is another tournament's. -/
def Unnamed (tid : TournamentId) (db : Database) : Prop :=
  ∀ m ∈ db.matches_.rows, ∀ side k, m.inputId side = some k →
    ∃ b, b ≠ tid ∧ db.inputTournament k = some b

/-- The tournament has no inputs. -/
def NoInputs (tid : TournamentId) (db : Database) : Prop :=
  ∀ i ∈ db.stageItemInputs.rows, i.tournamentId ≠ tid

theorem Unnamed.confined (hu : Unnamed tid db) (hc : Confined tid db db') (hr : Remnant db db') :
    Unnamed tid db' := by
  intro m' hm' side k hk
  obtain ⟨m, hm, -, hside⟩ := hr.matches_ m' hm'
  obtain ⟨b, hb, hown⟩ := hu m hm side k ((hside side).symm.trans hk)
  exact ⟨b, hb, (Table.ownerAt_iff (hc.same b hb).inputs k).mpr hown⟩

theorem NoInputs.remnant (hn : NoInputs tid db) (hr : Remnant db db') : NoInputs tid db' := by
  intro i' hi' ht
  obtain ⟨i, hi, hown, -⟩ := hr.inputs i' hi'
  exact hn i hi (hown.symm.trans ht)

section Free

variable (hdb : Isolated db) (hu : Unnamed tid db)

include hu in
theorem deleteInputs_free {p : StageItemInputRow → Bool}
    (hp : ∀ i ∈ db.stageItemInputs.rows, p i = true → i.tournamentId = tid) :
    ∃ db', deleteInputs db p = .ok db' := by
  have hfree : ((db.stageItemInputs.rows.filter p).all fun i =>
      db.matches_.rows.all fun m => !m.names i.id) = true := by
    refine List.all_eq_true.mpr fun i hi => List.all_eq_true.mpr fun m hm => ?_
    obtain ⟨hi, hpi⟩ := List.mem_filter.mp hi
    have hnot : ∀ side, m.inputId side ≠ some i.id := by
      intro side hk
      obtain ⟨b, hb, hown⟩ := hu m hm side i.id hk
      rw [Database.inputTournament_row hi, hp i hi hpi] at hown
      exact hb (Option.some.inj hown).symm
    rw [Bool.not_eq_true', MatchRow.names, Bool.or_eq_false_iff, beq_eq_false_iff_ne,
      beq_eq_false_iff_ne]
    exact ⟨hnot .one, hnot .two⟩
  unfold deleteInputs
  rw [if_pos hfree]
  exact ⟨_, rfl⟩

include hdb hu

theorem deleteStageItems_free {p : StageItemRow → Bool}
    (hp : ∀ i ∈ db.stageItems.rows, p i = true → db.stageTournament i.stageId = some tid) :
    ∃ db', deleteStageItems db p = .ok db' := by
  have hids : ∀ k, ((db.stageItems.rows.filter p).map (·.id)).contains k = true →
      db.stageItemTournament k = some tid := by
    intro k hk
    obtain ⟨i, hi, rfl⟩ := List.mem_map.mp (List.contains_iff_mem.mp hk)
    obtain ⟨hi, hpi⟩ := List.mem_filter.mp hi
    rw [Database.stageItemTournament_row hi, hp i hi hpi]
  have hrounds := Confined.deleteRounds hdb (p := fun r =>
    ((db.stageItems.rows.filter p).map (·.id)).contains r.stageItemId) fun r _ hr => hids _ hr
  obtain ⟨db2, h2⟩ := deleteInputs_free (hu.confined hrounds (.deleteRounds db _))
    (p := fun i => ((db.stageItems.rows.filter p).map (·.id)).contains i.stageItemId)
    fun i hi hpi => hrounds.isolated.input_own hi (hids _ hpi)
  exact ⟨_, bind_eq_ok.mpr ⟨db2, h2, rfl⟩⟩

theorem deleteStages_free {p : StageRow → Bool}
    (hp : ∀ s ∈ db.stages.rows, p s = true → s.tournamentId = tid) :
    ∃ db', deleteStages db p = .ok db' := by
  obtain ⟨db1, h1⟩ := deleteStageItems_free hdb hu
    (p := fun i => ((db.stages.rows.filter p).map (·.id)).contains i.stageId) fun i hi hpi => by
      obtain ⟨s, hs, hid⟩ := List.mem_map.mp (List.contains_iff_mem.mp hpi)
      obtain ⟨hs, hps⟩ := List.mem_filter.mp hs
      rw [← hid, Database.stageTournament_row hs, hp s hs hps]
  exact ⟨_, bind_eq_ok.mpr ⟨db1, h1, rfl⟩⟩

theorem deleteRankings_free {p : RankingRow → Bool}
    (hp : ∀ r ∈ db.rankings.rows, p r = true → r.tournamentId = tid) :
    ∃ db', deleteRankings db p = .ok db' := by
  obtain ⟨db1, h1⟩ := deleteStageItems_free hdb hu
    (p := fun i => ((db.rankings.rows.filter p).map (·.id)).contains i.rankingId) fun i hi hpi => by
      obtain ⟨r, hr, hid⟩ := List.mem_map.mp (List.contains_iff_mem.mp hpi)
      obtain ⟨hr, hpr⟩ := List.mem_filter.mp hr
      obtain ⟨b, hb⟩ := hdb.stageItems i hi
      have hranking := hb.ranking
      rw [← hid, Database.rankingTournament_row hr, hp r hr hpr] at hranking
      rw [Option.some.inj hranking]
      exact hb.stage
  exact ⟨_, bind_eq_ok.mpr ⟨db1, h1, rfl⟩⟩

end Free

/-- A deletion of rows of the tournament that leaves its inputs unnamed. -/
structure Frees (tid : TournamentId) (db db' : Database) : Prop extends
    Confined tid db db', Remnant db db' where
  unnamed : Unnamed tid db'

theorem Frees.of_confined (hu : Unnamed tid db) (hc : Confined tid db db') (hr : Remnant db db') :
    Frees tid db db' := ⟨hc, hr, hu.confined hc hr⟩

theorem Frees.trans (h : Frees tid db db') (h' : Frees tid db' db'') : Frees tid db db'' :=
  ⟨h.toConfined.trans h'.toConfined, h.toRemnant.trans h'.toRemnant, h'.unnamed⟩

/-- A loop of such deletions goes through, and what each turn achieves stays. -/
theorem Frees.foldlM {β : Type} {f : Database → β → Outcome Database} {P Q : Database → β → Prop}
    (hmono : ∀ db db' b, Confined tid db db' → P db b → P db' b)
    (hstay : ∀ db db' b, Remnant db db' → Q db b → Q db' b)
    (hstep : ∀ db b, Isolated db → Unnamed tid db → P db b →
      ∃ db', f db b = .ok db' ∧ Frees tid db db' ∧ Q db' b) {l : List β} {db : Database}
    (hdb : Isolated db) (hu : Unnamed tid db) (hl : ∀ b ∈ l, P db b) :
    ∃ db', l.foldlM f db = .ok db' ∧ Frees tid db db' ∧ ∀ b ∈ l, Q db' b := by
  induction l generalizing db with
  | nil => exact ⟨db, rfl, .of_confined hu (.refl tid hdb) (.refl db), fun _ h => nomatch h⟩
  | cons b l ih =>
    obtain ⟨db1, h1, hf1, hq1⟩ := hstep db b hdb hu (hl b List.mem_cons_self)
    obtain ⟨db', h2, hf2, hq2⟩ := ih hf1.isolated hf1.unnamed fun c hc =>
      hmono db db1 c hf1.toConfined (hl c (List.mem_cons_of_mem _ hc))
    refine ⟨db', ?_, hf1.trans hf2, fun c hc => ?_⟩
    · rw [List.foldlM_cons, h1]
      exact h2
    · rcases List.mem_cons.mp hc with rfl | hc
      · exact hstay db1 db' c hf2.toRemnant hq1
      · exact hq2 c hc

section Statements

variable (hdb : Isolated db) (hu : Unnamed tid db)

include hdb hu

theorem sqlDeleteStageItemRelations_free {k : StageItemId} (hk : StageItemOf db tid k) :
    ∃ db', sqlDeleteStageItemRelations db k = .ok db' ∧ Frees tid db db' ∧
      ∀ i ∈ db'.stageItemInputs.rows, i.stageItemId ≠ k := by
  have hrounds := Frees.of_confined hu (Confined.sqlDeleteRounds hdb hk) (.deleteRounds db _)
  obtain ⟨db', h⟩ := deleteInputs_free hrounds.unnamed
    (p := fun i => i.stageItemId == k || i.winnerFromStageItemId == some k) fun i hi hp => by
      obtain ⟨b, hb⟩ := hrounds.isolated.inputs i hi
      have hk := hrounds.toConfined.stageItemOf hk
      rcases Bool.or_eq_true _ _ |>.mp hp with hp | hp
      · exact hb.own.trans (hk b (eq_of_beq hp ▸ hb.stageItem))
      · exact hb.own.trans (hk b (hb.source k (eq_of_beq hp)))
  have hconfined := Confined.sqlDeleteStageItemInputs hrounds.isolated
    (hrounds.toConfined.stageItemOf hk) h
  refine ⟨db', h, hrounds.trans (.of_confined hrounds.unnamed hconfined (.deleteInputs h)),
    fun i hi e => ?_⟩
  obtain ⟨-, rfl⟩ := deleteInputs_ok h
  have hnot := (Table.mem_delete _ |>.mp hi).2
  rw [Bool.or_eq_false_iff, beq_eq_false_iff_ne] at hnot
  exact hnot.1 e

theorem sqlDeleteStageItem_free {k : StageItemId} (hk : StageItemOf db tid k) :
    ∃ db', sqlDeleteStageItem db k = .ok db' ∧ Frees tid db db' := by
  obtain ⟨db', h⟩ := deleteStageItems_free hdb hu (p := (·.id == k)) fun i hi hp => by
    obtain ⟨b, hb⟩ := hdb.stageItems i hi
    have hown := Database.stageItemTournament_row hi
    rw [show i.id = k from eq_of_beq hp, hb.stage] at hown
    rw [hb.stage, hk b hown]
  exact ⟨db', h, .of_confined hu (.sqlDeleteStageItem hdb hk h) (.deleteStageItems h)⟩

theorem sqlDeleteStage_free {k : StageId} (hk : ∀ b, db.stageTournament k = some b → b = tid) :
    ∃ db', sqlDeleteStage db tid k = .ok db' ∧ Frees tid db db' := by
  have hitems : ∀ i ∈ db.stageItems.rows, (i.stageId == k) = true →
      db.stageTournament i.stageId = some tid := by
    intro i hi hp
    obtain ⟨b, hb⟩ := hdb.stageItems i hi
    rw [← hk b (eq_of_beq hp ▸ hb.stage)]
    exact hb.stage
  obtain ⟨db1, h1⟩ := deleteStageItems_free hdb hu (p := (·.stageId == k)) hitems
  have hfree1 := Frees.of_confined hu (Confined.deleteStageItems hdb hitems h1)
    (.deleteStageItems h1)
  have hstages : ∀ s ∈ db1.stages.rows, (s.id == k && s.tournamentId == tid) = true →
      s.tournamentId = tid := fun s _ hp => eq_of_beq (Bool.and_eq_true _ _ |>.mp hp).2
  obtain ⟨db2, h2⟩ := deleteStages_free hfree1.isolated hfree1.unnamed hstages
  refine ⟨db2, bind_eq_ok.mpr ⟨db1, h1, h2⟩, hfree1.trans ?_⟩
  exact .of_confined hfree1.unnamed (.deleteStages hfree1.isolated hstages h2) (.deleteStages h2)

end Statements

theorem deleteTeams_free (hdb : Isolated db) (hn : NoInputs tid db) {p : TeamRow → Bool}
    (hp : ∀ t ∈ db.teams.rows, p t = true → t.tournamentId = tid) :
    ∃ db', deleteTeams db p = .ok db' := by
  have hfree : (db.stageItemInputs.rows.all fun i =>
      !i.teamId.any ((db.teams.rows.filter p).map (·.id)).contains) = true := by
    refine List.all_eq_true.mpr fun i hi => ?_
    rw [Bool.not_eq_true', ← Bool.not_eq_true]
    intro hany
    obtain ⟨k, hk, hmem⟩ := (Option.any_eq_true _ _).mp hany
    obtain ⟨t, ht, rfl⟩ := List.mem_map.mp (List.contains_iff_mem.mp hmem)
    obtain ⟨ht, hpt⟩ := List.mem_filter.mp ht
    obtain ⟨b, hb⟩ := hdb.inputs i hi
    have hteam := hb.team _ hk
    rw [Database.teamTournament_row ht, hp t ht hpt] at hteam
    exact hn i hi (hb.own.trans (Option.some.inj hteam).symm)
  unfold deleteTeams
  dsimp only
  rw [if_pos hfree]
  exact ⟨_, rfl⟩

/-! ## 3. The last statement -/

theorem deletePlayers_remnant (db : Database) (p : PlayerRow → Bool) :
    Remnant db (deletePlayers db p) := .of_tables rfl rfl

theorem sqlDeleteTournament_free (hdb : Isolated db) (hu : Unnamed tid db) (hn : NoInputs tid db) :
    ∃ db', sqlDeleteTournament db tid = .ok db' := by
  obtain ⟨db1, h1⟩ := deleteStages_free hdb hu (p := (·.tournamentId == tid))
    fun _ _ hp => eq_of_beq hp
  have hf1 := Frees.of_confined hu (.deleteStages hdb (fun _ _ hp => eq_of_beq hp) h1)
    (.deleteStages h1)
  obtain ⟨db2, h2⟩ := deleteInputs_free hf1.unnamed (p := (·.tournamentId == tid))
    fun _ _ hp => eq_of_beq hp
  have hf2 := hf1.trans (.of_confined hf1.unnamed
    (.deleteInputs hf1.isolated (fun _ _ hp => eq_of_beq hp) h2) (.deleteInputs h2))
  obtain ⟨db3, h3⟩ := deleteRankings_free hf2.isolated hf2.unnamed (p := (·.tournamentId == tid))
    fun _ _ hp => eq_of_beq hp
  have hf3 := hf2.trans (.of_confined hf2.unnamed
    (.deleteRankings hf2.isolated (fun _ _ hp => eq_of_beq hp) h3) (.deleteRankings h3))
  have hc4 : Confined tid db3 (deletePlayers db3 (·.tournamentId == tid)) :=
    .deletePlayers hf3.isolated fun _ _ hp => eq_of_beq hp
  have hn4 := hn.remnant (hf3.toRemnant.trans (deletePlayers_remnant db3 (·.tournamentId == tid)))
  obtain ⟨db5, h5⟩ := deleteTeams_free hc4.isolated hn4 (p := (·.tournamentId == tid))
    fun _ _ hp => eq_of_beq hp
  exact ⟨{ db5 with tournaments := db5.tournaments.delete fun t => t.id == tid },
    bind_eq_ok.mpr ⟨db1, h1, bind_eq_ok.mpr ⟨db2, h2, bind_eq_ok.mpr ⟨db3, h3,
      bind_eq_ok.mpr ⟨db5, h5, rfl⟩⟩⟩⟩⟩

/-- No row is left that is stored under the tournament. -/
structure Cleared (tid : TournamentId) (db : Database) : Prop where
  tournament : db.tournaments.find? tid = none
  stages : ∀ s ∈ db.stages.rows, s.tournamentId ≠ tid
  inputs : ∀ i ∈ db.stageItemInputs.rows, i.tournamentId ≠ tid
  teams : ∀ t ∈ db.teams.rows, t.tournamentId ≠ tid
  players : ∀ p ∈ db.players.rows, p.tournamentId ≠ tid
  rankings : ∀ r ∈ db.rankings.rows, r.tournamentId ≠ tid

theorem deleteStages_tables {p : StageRow → Bool} (h : deleteStages db p = .ok db') :
    db'.stages = db.stages.delete p ∧ db'.rankings = db.rankings := by
  obtain ⟨db1, h1, h⟩ := bind_eq_ok.mp h
  cases h
  obtain ⟨hstages, hrankings, -⟩ := deleteStageItems_ok h1
  exact ⟨congrArg (·.delete p) hstages, hrankings⟩

theorem deleteRankings_tables {p : RankingRow → Bool} (h : deleteRankings db p = .ok db') :
    db'.rankings = db.rankings.delete p ∧ db'.stages = db.stages := by
  obtain ⟨db1, h1, h⟩ := bind_eq_ok.mp h
  cases h
  obtain ⟨hstages, hrankings, -⟩ := deleteStageItems_ok h1
  exact ⟨congrArg (·.delete p) hrankings, hstages⟩

theorem deleteTeams_tables {p : TeamRow → Bool} (h : deleteTeams db p = .ok db') :
    db'.teams = db.teams.delete p ∧ db'.stages = db.stages ∧ db'.rankings = db.rankings ∧
      db'.players = db.players ∧ db'.stageItemInputs = db.stageItemInputs := by
  obtain ⟨-, rfl⟩ := deleteTeams_ok h
  exact ⟨rfl, rfl, rfl, rfl, rfl⟩

/-- The last statement leaves nothing. -/
theorem sqlDeleteTournament_cleared (h : sqlDeleteTournament db tid = .ok db') :
    Cleared tid db' := by
  obtain ⟨db1, db2, db3, db5, h1, h2, h3, h5, rfl⟩ := sqlDeleteTournament_steps h
  obtain ⟨hstages1, -⟩ := deleteStages_tables h1
  obtain ⟨-, rfl⟩ := deleteInputs_ok h2
  obtain ⟨hrankings3, hstages3⟩ := deleteRankings_tables h3
  obtain ⟨hteams5, hstages5, hrankings5, hplayers5, hinputs5⟩ := deleteTeams_tables h5
  refine ⟨?_, fun s hs => ?_, ?_, fun t ht => ?_, fun p hp => ?_, fun r hr => ?_⟩
  · rw [Table.find?_delete, Option.filter_eq_none_iff]
    intro t ht
    rw [show t.id = tid from Table.key_of_find? _ ht, beq_self_eq_true]
    exact Bool.false_ne_true
  · rw [hstages5.trans (hstages3.trans hstages1)] at hs
    exact beq_eq_false_iff_ne.mp (Table.mem_delete _ |>.mp hs).2
  · have hcleared : NoInputs tid
        { db1 with stageItemInputs := db1.stageItemInputs.delete (·.tournamentId == tid) } :=
      fun i hi => beq_eq_false_iff_ne.mp (Table.mem_delete _ |>.mp hi).2
    have hremnant := ((Remnant.deleteRankings h3).trans
      (deletePlayers_remnant db3 (·.tournamentId == tid))).trans (.deleteTeams h5)
    exact fun i hi => hcleared.remnant hremnant i hi
  · rw [hteams5] at ht
    exact beq_eq_false_iff_ne.mp (Table.mem_delete _ |>.mp ht).2
  · rw [hplayers5] at hp
    exact beq_eq_false_iff_ne.mp (Table.mem_delete _ |>.mp hp).2
  · rw [hrankings5.trans hrankings3] at hr
    exact beq_eq_false_iff_ne.mp (Table.mem_delete _ |>.mp hr).2

/-! ## 4. The loops -/

/-- Every stage item of the tournament is loaded with it. -/
theorem exists_loaded_item {k : StageItemId} (h : db.stageItemTournament k = some tid) :
    ∃ item ∈ (fullTournamentDetails db tid {}).flatMap (·.stageItems), item.id = k := by
  obtain ⟨i, s, hi, hs, ht⟩ := stageItemTournament_eq_some.mp h
  have hstage := (mem_full_stages wholeFilter_whole).mpr ⟨s, db.stages.mem_of_find? hs, ht, rfl⟩
  have hitem : stageItemWithRounds db tid {} i ∈ (stageWithStageItems db tid {} s).stageItems :=
    (mem_full_stageItems wholeFilter_whole).mpr
      ⟨i, db.stageItems.mem_of_find? hi, (db.stages.key_of_find? hs).symm, rfl⟩
  exact ⟨_, List.mem_flatMap.mpr ⟨_, hstage, hitem⟩, db.stageItems.key_of_find? hi⟩

/-- The first loop deletes the matches of each stage item and nothing else. -/
theorem foldl_deleteMatches (l : List StageItemWithRounds) (db : Database) :
    let db' := l.foldl (fun db item => sqlDeleteMatchesForStageItemId db item.id) db
    Remnant db db' ∧ db'.rounds = db.rounds ∧
      ∀ m ∈ db'.matches_.rows, ∀ item ∈ l, db.roundItem m.roundId ≠ some item.id := by
  induction l generalizing db with
  | nil => exact ⟨.refl db, rfl, fun _ _ _ h => nomatch h⟩
  | cons item l ih =>
    obtain ⟨hrest, hrounds, hgone⟩ := ih (sqlDeleteMatchesForStageItemId db item.id)
    have hfirst : Remnant db (sqlDeleteMatchesForStageItemId db item.id) := .deleteMatches db _
    refine ⟨hfirst.trans hrest, hrounds, fun m hm other hother => ?_⟩
    rcases List.mem_cons.mp hother with rfl | hother
    · obtain ⟨m1, hm1, hround, -⟩ := hrest.matches_ m hm
      obtain ⟨m0, hm0, rfl⟩ := List.mem_map.mp hm1
      have hkept := (db.matches_.mem_delete.mp hm0).2
      rw [hround]
      intro e
      obtain ⟨r, hr, hitem⟩ := Option.map_eq_some_iff.mp e
      rw [show db.rounds.find? m0.roundId = some r from hr, Option.any_some, hitem,
        beq_self_eq_true] at hkept
      cases hkept
    · exact hgone m hm other hother

/-- After the first loop no match names an input of the tournament. -/
theorem unnamed_of_deleteMatches (hdb : Isolated db)
    (h : ∀ m ∈ db'.matches_.rows, ∀ item ∈ (fullTournamentDetails db tid {}).flatMap (·.stageItems),
      db.roundItem m.roundId ≠ some item.id) (hc : Confined tid db db') (hr : Remnant db db') :
    Unnamed tid db' := by
  intro m hm side k hk
  obtain ⟨b, hb⟩ := hc.isolated.matches_ m hm
  refine ⟨b, fun e => ?_, hb.input side k hk⟩
  subst e
  obtain ⟨m0, hm0, hround, -⟩ := hr.matches_ m hm
  obtain ⟨a, ha⟩ := hdb.matches_ m0 hm0
  have hround0 : db.roundTournament m.roundId = some a := hround ▸ ha.round
  obtain rfl | hne := eq_or_ne a b
  · obtain ⟨r, hfind, hitem⟩ := Option.bind_eq_some_iff.mp hround0
    obtain ⟨item, hmem, hid⟩ := exists_loaded_item hitem
    refine h m hm item hmem ?_
    rw [Database.roundItem, hfind, Option.map_some, hid]
  · have hafter := ((hc.same a hne).round_iff m.roundId).mpr hround0
    exact hne (Option.some.inj (hafter.symm.trans hb.round))

/-- Once the inputs of every stage item are deleted, the tournament has none. -/
theorem noInputs_of_relations (hdb : Isolated db) (hr : Remnant db db')
    (h : ∀ item ∈ (fullTournamentDetails db tid {}).flatMap (·.stageItems),
      ∀ i ∈ db'.stageItemInputs.rows, i.stageItemId ≠ item.id) : NoInputs tid db' := by
  intro i hi ht
  obtain ⟨i0, hi0, hown, hitem⟩ := hr.inputs i hi
  have hin := (hdb.input_within hi0 (hown.symm.trans ht)).stageItem
  obtain ⟨item, hmem, hid⟩ := exists_loaded_item hin
  exact h item hmem i hi (hitem.trans hid.symm)

section Loops

variable (hdb : Isolated db) (hu : Unnamed tid db)

include hdb hu

theorem relationsLoop_free {items : List StageItemWithRounds}
    (hitems : ∀ item ∈ items, StageItemOf db tid item.id) :
    ∃ db', items.foldlM (fun db item => sqlDeleteStageItemRelations db item.id) db = .ok db' ∧
      Frees tid db db' ∧
      ∀ item ∈ items, ∀ i ∈ db'.stageItemInputs.rows, i.stageItemId ≠ item.id :=
  Frees.foldlM (P := fun db (item : StageItemWithRounds) => StageItemOf db tid item.id)
    (Q := fun db (item : StageItemWithRounds) => ∀ i ∈ db.stageItemInputs.rows,
      i.stageItemId ≠ item.id)
    (fun _ _ _ hc hk => hc.stageItemOf hk)
    (fun _ _ _ hr hq i hi => by
      obtain ⟨i0, hi0, -, hitem⟩ := hr.inputs i hi
      exact fun e => hq i0 hi0 (hitem.symm.trans e))
    (fun _ _ hdb hu hk => sqlDeleteStageItemRelations_free hdb hu hk) hdb hu hitems

theorem itemsLoop_free {items : List StageItemWithRounds}
    (hitems : ∀ item ∈ items, StageItemOf db tid item.id) :
    ∃ db', items.foldlM (fun db item => sqlDeleteStageItem db item.id) db = .ok db' ∧
      Frees tid db db' := by
  obtain ⟨db', h, hf, -⟩ := Frees.foldlM
    (f := fun db (item : StageItemWithRounds) => sqlDeleteStageItem db item.id)
    (P := fun db item => StageItemOf db tid item.id) (Q := fun _ _ => True)
    (fun _ _ _ hc hk => hc.stageItemOf hk) (fun _ _ _ _ _ => trivial)
    (fun db item hdb hu hk => by
      obtain ⟨db', h, hf⟩ := sqlDeleteStageItem_free hdb hu hk
      exact ⟨db', h, hf, trivial⟩) hdb hu hitems
  exact ⟨db', h, hf⟩

theorem stagesLoop_free {stages : List StageWithStageItems}
    (hstages : ∀ stage ∈ stages, StageOf db tid stage) :
    ∃ db', stages.foldlM (fun db stage => do
        let db ← stage.stageItems.foldlM (fun db (item : StageItemWithRounds) =>
          sqlDeleteStageItem db item.id) db
        sqlDeleteStage db tid stage.id) db = .ok db' ∧ Frees tid db db' := by
  obtain ⟨db', h, hf, -⟩ := Frees.foldlM
    (f := fun db (stage : StageWithStageItems) => do
      let db ← stage.stageItems.foldlM (fun db item => sqlDeleteStageItem db item.id) db
      sqlDeleteStage db tid stage.id)
    (P := fun db stage => StageOf db tid stage) (Q := fun _ _ => True)
    (fun _ _ _ hc hs => hc.stageOf hs) (fun _ _ _ _ _ => trivial)
    (fun db stage hdb hu hs => by
      obtain ⟨db1, h1, hf1⟩ := itemsLoop_free hdb hu hs.items
      obtain ⟨db2, h2, hf2⟩ := sqlDeleteStage_free hf1.isolated hf1.unnamed
        (hf1.toConfined.stageOf hs).own
      exact ⟨db2, bind_eq_ok.mpr ⟨db1, h1, h2⟩, hf1.trans hf2, trivial⟩) hdb hu hstages
  exact ⟨db', h, hf⟩

theorem rankingsLoop_free (rankings : List RankingRow) :
    ∃ db', rankings.foldlM (fun db r => sqlDeleteRanking db tid r.id) db = .ok db' ∧
      Frees tid db db' := by
  obtain ⟨db', h, hf, -⟩ := Frees.foldlM
    (f := fun db (r : RankingRow) => sqlDeleteRanking db tid r.id)
    (P := fun _ _ => True) (Q := fun _ _ => True) (fun _ _ _ _ h => h) (fun _ _ _ _ _ => trivial)
    (fun db r hdb hu _ => by
      have hown : ∀ row ∈ db.rankings.rows, (row.id == r.id && row.tournamentId == tid) = true →
          row.tournamentId = tid := fun _ _ hp => eq_of_beq (Bool.and_eq_true _ _ |>.mp hp).2
      obtain ⟨db', h⟩ := deleteRankings_free hdb hu hown
      exact ⟨db', h, .of_confined hu (.deleteRankings hdb hown h) (.deleteRankings h), trivial⟩)
    hdb hu fun r _ => trivial
  exact ⟨db', h, hf⟩

end Loops

/-! ## 5. The whole deletion -/

/-- Pydantic accepts the rows of the tournament. -/
structure Readable (db : Database) (tid : TournamentId) : Prop where
  tournament : ∃ t ∈ db.tournaments.rows, t.id = tid ∧ 1 ≤ t.durationMinutes ∧ 0 ≤ t.marginMinutes
  stages : ∀ s ∈ db.stages.rows, s.tournamentId = tid → ∀ n ∈ s.customDurationMinutes, 1 ≤ n
  stageItems : ∀ i ∈ db.stageItems.rows, db.stageTournament i.stageId = some tid →
    2 ≤ i.teamCount ∧ i.teamCount ≤ 64
  inputs : ∀ i ∈ db.stageItemInputs.rows, i.tournamentId = tid → (withTeam db i).valid = true

instance (db : Database) (tid : TournamentId) : Decidable (Readable db tid) :=
  decidable_of_iff
    ((∃ t ∈ db.tournaments.rows, t.id = tid ∧ 1 ≤ t.durationMinutes ∧ 0 ≤ t.marginMinutes) ∧
      (∀ s ∈ db.stages.rows, s.tournamentId = tid → ∀ n ∈ s.customDurationMinutes, 1 ≤ n) ∧
      (∀ i ∈ db.stageItems.rows, db.stageTournament i.stageId = some tid →
        2 ≤ i.teamCount ∧ i.teamCount ≤ 64) ∧
      ∀ i ∈ db.stageItemInputs.rows, i.tournamentId = tid → (withTeam db i).valid = true)
    ⟨fun ⟨h1, h2, h3, h4⟩ => ⟨h1, h2, h3, h4⟩, fun ⟨h1, h2, h3, h4⟩ => ⟨h1, h2, h3, h4⟩⟩

/-- The foreign keys to the tournaments. -/
structure Rooted (db : Database) : Prop where
  stages : ∀ s ∈ db.stages.rows, (db.tournaments.find? s.tournamentId).isSome = true
  inputs : ∀ i ∈ db.stageItemInputs.rows, (db.tournaments.find? i.tournamentId).isSome = true
  teams : ∀ t ∈ db.teams.rows, (db.tournaments.find? t.tournamentId).isSome = true
  players : ∀ p ∈ db.players.rows, (db.tournaments.find? p.tournamentId).isSome = true
  rankings : ∀ r ∈ db.rankings.rows, (db.tournaments.find? r.tournamentId).isSome = true

instance (db : Database) : Decidable (Rooted db) :=
  decidable_of_iff
    ((∀ s ∈ db.stages.rows, (db.tournaments.find? s.tournamentId).isSome = true) ∧
      (∀ i ∈ db.stageItemInputs.rows, (db.tournaments.find? i.tournamentId).isSome = true) ∧
      (∀ t ∈ db.teams.rows, (db.tournaments.find? t.tournamentId).isSome = true) ∧
      (∀ p ∈ db.players.rows, (db.tournaments.find? p.tournamentId).isSome = true) ∧
      ∀ r ∈ db.rankings.rows, (db.tournaments.find? r.tournamentId).isSome = true)
    ⟨fun ⟨h1, h2, h3, h4, h5⟩ => ⟨h1, h2, h3, h4, h5⟩,
      fun ⟨h1, h2, h3, h4, h5⟩ => ⟨h1, h2, h3, h4, h5⟩⟩

/-- What was the tournament's before is not there afterwards. -/
structure Gone (tid : TournamentId) (db db' : Database) : Prop extends Cleared tid db' where
  stageItems : ∀ i ∈ db'.stageItems.rows, db.stageTournament i.stageId ≠ some tid
  rounds : ∀ r ∈ db'.rounds.rows, db.stageItemTournament r.stageItemId ≠ some tid
  matches_ : ∀ m ∈ db'.matches_.rows, db.roundTournament m.roundId ≠ some tid
  members : ∀ x ∈ db'.playersXTeams.rows,
    db.teamTournament x.teamId ≠ some tid ∧ db.playerTournament x.playerId ≠ some tid

/-- Rows that belong to a tournament each are none of a cleared tournament's. -/
theorem Cleared.gone (hc : Confined tid db db') (h : Cleared tid db') :
    Gone tid db db' := by
  have hstage : ∀ k b, db'.stageTournament k = some b → b ≠ tid := by
    intro k b hb
    obtain ⟨s, hs, -, hown⟩ := Table.ownerAt_eq_some.mp hb
    exact Option.some.inj hown ▸ h.stages s hs
  have hstageItem : ∀ k b, db'.stageItemTournament k = some b → b ≠ tid := by
    intro k b hb
    obtain ⟨i, s, -, hs, ht⟩ := stageItemTournament_eq_some.mp hb
    exact ht ▸ h.stages s (db'.stages.mem_of_find? hs)
  refine ⟨h, fun i hi => ?_, fun r hr => ?_, fun m hm => ?_, fun x hx => ?_⟩
  · obtain ⟨b, hb⟩ := hc.isolated.stageItems i hi
    have hne := hstage _ b hb.stage
    rw [((hc.same b hne).stage_iff i.stageId).mp hb.stage]
    exact fun e => hne (Option.some.inj e)
  · obtain ⟨b, hb⟩ := hc.isolated.rounds r hr
    have hne := hstageItem _ b hb
    rw [((hc.same b hne).stageItem_iff r.stageItemId).mp hb]
    exact fun e => hne (Option.some.inj e)
  · obtain ⟨b, hb⟩ := hc.isolated.matches_ m hm
    obtain ⟨r, -, hitem⟩ := Option.bind_eq_some_iff.mp hb.round
    have hne := hstageItem _ b hitem
    rw [((hc.same b hne).round_iff m.roundId).mp hb.round]
    exact fun e => hne (Option.some.inj e)
  · obtain ⟨b, hb⟩ := hc.isolated.members x hx
    obtain ⟨t, ht, -, hown⟩ := Table.ownerAt_eq_some.mp hb.team
    have hne : b ≠ tid := Option.some.inj hown ▸ h.teams t ht
    have hsame := hc.same b hne
    rw [Database.teamTournament, (Table.ownerAt_iff hsame.teams x.teamId).mp hb.team,
      Database.playerTournament, (Table.ownerAt_iff hsame.players x.playerId).mp hb.player]
    exact ⟨fun e => hne (Option.some.inj e), fun e => hne (Option.some.inj e)⟩

theorem Rooted.of_cleared (hroot : Rooted db) (hc : Confined tid db db') (h : Cleared tid db') :
    Rooted db' := by
  have hkept : ∀ b, b ≠ tid → (db.tournaments.find? b).isSome = true →
      (db'.tournaments.find? b).isSome = true := by
    intro b hb hfind
    rwa [(hc.same b hb).tournament]
  refine ⟨fun s hs => ?_, fun i hi => ?_, fun t ht => ?_, fun p hp => ?_, fun r hr => ?_⟩
  · have hne := h.stages s hs
    exact hkept _ hne (hroot.stages s (Table.mem_of_owned (hc.same _ hne).stages hs rfl))
  · have hne := h.inputs i hi
    exact hkept _ hne (hroot.inputs i (Table.mem_of_owned (hc.same _ hne).inputs hi rfl))
  · have hne := h.teams t ht
    exact hkept _ hne (hroot.teams t (Table.mem_of_owned (hc.same _ hne).teams ht rfl))
  · have hne := h.players p hp
    exact hkept _ hne (hroot.players p (Table.mem_of_owned (hc.same _ hne).players hp rfl))
  · have hne := h.rankings r hr
    exact hkept _ hne (hroot.rankings r (Table.mem_of_owned (hc.same _ hne).rankings hr rfl))

/-- A tournament whose inputs the program accepts is loaded as a whole. -/
theorem load_of_valid (hdb : Isolated db) (h : ∀ i ∈ db.stageItemInputs.rows,
    i.tournamentId = tid → (withTeam db i).valid = true) :
    getFullTournamentDetails db tid {} = .ok (fullTournamentDetails db tid {}) := by
  have hfiled : db.InputsFiled tid := fun i hi ht => hdb.input_own hi ht
  have hvalid := (full_valid_iff (f := {}) wholeFilter_whole hfiled).mpr fun i hi => by
    obtain ⟨row, hrow, ht, rfl⟩ := (mem_inputsWithTeams wholeFilter_whole).mp hi
    exact h row hrow (hfiled row hrow ht)
  unfold getFullTournamentDetails
  rw [if_pos hvalid]

/-- **A readable tournament is deleted completely: no foreign key stops a statement, nothing of it
    is left, and the other tournaments keep their rows.** -/
theorem sqlDeleteTournamentCompletely_ok (hdb : Isolated db) (hroot : Rooted db)
    (hread : Readable db tid) :
    ∃ db', sqlDeleteTournamentCompletely db tid = .ok db' ∧ Isolated db' ∧ Rooted db' ∧
      Gone tid db db' ∧ ∀ b, b ≠ tid → SameFor b db db' := by
  obtain ⟨t, hmem, hid, -⟩ := hread.tournament
  have ht : db.tournaments.find? tid = some t := hid ▸ db.tournaments.find?_key hmem
  have hload := load_of_valid hdb hread.inputs
  have hstages : ∀ stage ∈ fullTournamentDetails db tid {}, StageOf db tid stage :=
    fun stage hs => stageOf_loaded hs
  have hitems : ∀ item ∈ (fullTournamentDetails db tid {}).flatMap (·.stageItems),
      StageItemOf db tid item.id := by
    intro item hitem
    obtain ⟨stage, hs, hitem⟩ := List.mem_flatMap.mp hitem
    exact (hstages stage hs).items item hitem
  have hc1 : Confined tid db (((fullTournamentDetails db tid {}).flatMap (·.stageItems)).foldl
      (fun db item => sqlDeleteMatchesForStageItemId db item.id) db) :=
    .foldl (P := fun db (item : StageItemWithRounds) => StageItemOf db tid item.id)
      (fun _ _ _ hc hk => hc.stageItemOf hk)
      (fun _ _ hdb hk => .sqlDeleteMatchesForStageItemId hdb hk) hdb hitems
  obtain ⟨hr1, -, hnone⟩ :=
    foldl_deleteMatches ((fullTournamentDetails db tid {}).flatMap (·.stageItems)) db
  have hu1 := unnamed_of_deleteMatches hdb hnone hc1 hr1
  obtain ⟨db2, h2, hf2, hinputs⟩ := relationsLoop_free hc1.isolated hu1
    fun item hitem => hc1.stageItemOf (hitems item hitem)
  have hc2 := hc1.trans hf2.toConfined
  have hn2 := noInputs_of_relations hdb (hr1.trans hf2.toRemnant) hinputs
  obtain ⟨db3, h3, hf3⟩ := stagesLoop_free hc2.isolated hf2.unnamed
    fun stage hs => hc2.stageOf (hstages stage hs)
  obtain ⟨db4, h4, hf4⟩ := rankingsLoop_free hf3.isolated hf3.unnamed
    (getAllRankingsInTournament db3 tid)
  have hf5 := Frees.of_confined hf4.unnamed
    (.deletePlayers hf4.isolated (p := (·.tournamentId == tid)) fun _ _ hp => eq_of_beq hp)
    (deletePlayers_remnant db4 _)
  have hn5 := hn2.remnant ((hf3.trans hf4).trans hf5).toRemnant
  obtain ⟨db6, h6⟩ := deleteTeams_free hf5.isolated hn5 (p := (·.tournamentId == tid))
    fun _ _ hp => eq_of_beq hp
  have hf6 := Frees.of_confined hf5.unnamed
    (.deleteTeams hf5.isolated (fun _ _ hp => eq_of_beq hp) h6) (.deleteTeams h6)
  obtain ⟨db', h7⟩ := sqlDeleteTournament_free hf6.isolated hf6.unnamed
    (hn5.remnant hf6.toRemnant)
  have hok : sqlDeleteTournamentCompletely db tid = .ok db' :=
    bind_eq_ok.mpr ⟨t, orRaise_eq_ok.mpr ht, bind_eq_ok.mpr ⟨_, hload, bind_eq_ok.mpr ⟨db2, h2,
      bind_eq_ok.mpr ⟨db3, h3, bind_eq_ok.mpr ⟨db4, h4, bind_eq_ok.mpr ⟨db6, h6, h7⟩⟩⟩⟩⟩⟩
  have hconfined := Confined.sqlDeleteTournamentCompletely hdb hok
  have hcleared := sqlDeleteTournament_cleared h7
  exact ⟨db', hok, hconfined.isolated, hroot.of_cleared hconfined hcleared,
    hcleared.gone hconfined, hconfined.same⟩

/-- A tournament whose bracket takes its teams from a group, next to another tournament. -/
def groupAndBracket : List Call :=
  [.createTournament ⟨⟨0, true, none, 12, 3, by decide, by decide⟩, 1⟩,
    .createTournament ⟨⟨0, false, some "cup", 25, 2, by decide, by decide⟩, 1⟩,
    .request 1 .createStage, .request 1 .createStage, .request 2 .createStage,
    .request 1 (.createMultipleTeams [("Red", ["Ann"]), ("Blue", [])] true),
    .request 1 (.createStageItem { stageId := 1, type := .roundRobin, teamCount := 3 }),
    .request 1 (.createStageItem { stageId := 2, type := .singleElimination, teamCount := 4 }),
    .request 2 (.createStageItem { stageId := 3, type := .swiss, teamCount := 4 }),
    .request 1 (.updateStageItemInput 1 1 (.final 1)),
    .request 1 (.updateStageItemInput 2 4 (.tentative 1 1 (by decide))),
    .request 1 (.updateStageItemInput 2 5 (.tentative 1 2 (by decide)))]

theorem groupAndBracket_deleted : ∃ db, runCalls quietEnvironment groupAndBracket = .ok db ∧
    ∃ db', sqlDeleteTournamentCompletely db 1 = .ok db' ∧ Isolated db' ∧ Rooted db' ∧
      Gone 1 db db' ∧ ∀ b, b ≠ 1 → SameFor b db db' := by
  obtain ⟨db, hdb, hroot, hread⟩ := exists_ok_of_any (x := runCalls quietEnvironment groupAndBracket)
    (P := fun db => Rooted db ∧ Readable db 1) (by decide +kernel)
  have hisolated : Isolated db :=
    Runs.isolated (C := fun _ _ _ => True) (runs_of_calls (fun _ _ => trivial) hdb) isolated_empty
  exact ⟨db, hdb, sqlDeleteTournamentCompletely_ok hisolated hroot hread⟩

/-- A slot that has forgotten the stage item it took a place of, but not the place. -/
def placeWithoutSource : Database :=
  { Database.empty with
    tournaments := oneTournament
    stages := oneStage
    stageItems := ⟨[⟨1, "Cup", 1, 2, 1, .singleElimination⟩], 2, by decide, by decide⟩
    stageItemInputs := ⟨[⟨1, 1, 1, 1, none, none, some 1, 0, 0, 0, 0⟩], 2, by decide, by decide⟩
    rankings := ⟨[⟨1, 1, 0, 1, 1 / 2, 0, false⟩], 2, by decide, by decide⟩ }

/-- It keeps all foreign keys, and the tournament cannot be deleted. -/
theorem placeWithoutSource_stays : Isolated placeWithoutSource ∧ Rooted placeWithoutSource ∧
    (placeWithoutSource.tournaments.find? 1).isSome = true ∧
    ∀ db', sqlDeleteTournamentCompletely placeWithoutSource 1 ≠ .ok db' := by
  refine ⟨⟨fun i hi => ⟨1, ?_⟩, fun i hi => ⟨1, ?_⟩, ?_, ?_, ?_⟩, by decide, by decide, ?_⟩
  · rw [List.mem_singleton.mp hi]
    exact ⟨rfl, rfl⟩
  · rw [List.mem_singleton.mp hi]
    exact ⟨rfl, rfl, fun _ h => (nomatch h), fun _ h => (nomatch h)⟩
  · exact fun _ h => absurd h List.not_mem_nil
  · exact fun _ h => absurd h List.not_mem_nil
  · exact fun _ h => absurd h List.not_mem_nil
  · intro db' h
    have hfails : (sqlDeleteTournamentCompletely placeWithoutSource 1).toOption.isSome = false := by
      decide +kernel
    rw [h] at hfails
    cases hfails

end Brackets
