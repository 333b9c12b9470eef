/-
  File:      Brackets/Progress/IsolatedDeletions.lean
  Subject:   Deletions keep to the tournament they are made for.

  A deletion of rows of one tournament takes rows of that tournament with it (`Confined`): what
  refers to a row is of the row's tournament, and no reference to a deleted row is left behind.
-/
import Brackets.Progress.Isolation

namespace Brackets

open Library

variable {db db' : Database} {tid : TournamentId}

/-! ## 1. Matches, inputs and rounds -/

theorem clearWinnerFrom_eq_some {ids : List MatchId} {m : MatchRow} {side : Side} {j : MatchId} :
    (clearWinnerFrom ids m).winnerFrom side = some j ↔ m.winnerFrom side = some j ∧ j ∉ ids := by
  have h : (clearWinnerFrom ids m).winnerFrom side =
      (m.winnerFrom side).filter (!ids.contains ·) := by
    cases side <;> rfl
  rw [h, Option.filter_eq_some_iff, Bool.not_eq_true', ← Bool.not_eq_true, List.contains_iff_mem]

theorem clearWinnerFrom_eq_self {ids : List MatchId} {m : MatchRow}
    (h : ∀ side j, m.winnerFrom side = some j → j ∉ ids) : clearWinnerFrom ids m = m := by
  have hfilter : ∀ o : Option MatchId, (∀ j, o = some j → j ∉ ids) →
      o.filter (!ids.contains ·) = o := by
    intro o ho
    cases o with
    | none => rfl
    | some j =>
      rw [Option.filter_eq_some_iff, Bool.not_eq_true', ← Bool.not_eq_true, List.contains_iff_mem]
      exact ⟨rfl, ho j rfl⟩
  have h1 := hfilter m.stageItemInput1WinnerFromMatchId (h .one)
  have h2 := hfilter m.stageItemInput2WinnerFromMatchId (h .two)
  rw [clearWinnerFrom, h1, h2]

theorem Confined.deleteMatches (hdb : Isolated db) {p : MatchRow → Bool}
    (hp : ∀ m ∈ db.matches_.rows, p m = true → db.roundTournament m.roundId = some tid) :
    Confined tid db (deleteMatches db p) := by
  have hids : ∀ k, k ∈ (db.matches_.rows.filter p).map (·.id) ↔
      ∃ m ∈ db.matches_.rows, p m = true ∧ m.id = k := by
    intro k
    simp only [List.mem_map, List.mem_filter, and_assoc]
  refine ⟨⟨fun i hi => ?_, fun i hi => ?_, hdb.rounds, fun m' hm' => ?_, fun x hx => ?_⟩,
    fun b hb => ?_⟩
  · obtain ⟨b, h⟩ := hdb.stageItems i hi
    exact ⟨b, h.stage, h.ranking⟩
  · obtain ⟨b, h⟩ := hdb.inputs i hi
    exact ⟨b, h.own, h.stageItem, h.source, h.team⟩
  · obtain ⟨m, hm, rfl⟩ := List.mem_map.mp hm'
    obtain ⟨hm, -⟩ := db.matches_.mem_delete.mp hm
    obtain ⟨b, h⟩ := hdb.matches_ m hm
    refine ⟨b, h.round, fun side i hi => h.input side i ?_, fun side j hj => ?_⟩
    · cases side with
      | one => exact hi
      | two => exact hi
    · obtain ⟨hj, hkept⟩ := clearWinnerFrom_eq_some.mp hj
      obtain ⟨r, hr, rfl, hrb⟩ := Table.ownerAt_eq_some.mp (h.source side j hj)
      have hpr : p r = false := by
        rw [← Bool.not_eq_true]
        exact fun hpr => hkept ((hids _).mpr ⟨r, hr, hpr, rfl⟩)
      exact Table.ownerAt_eq_some.mpr ⟨_, List.mem_map_of_mem (db.matches_.mem_delete.mpr ⟨hr, hpr⟩),
        rfl, hrb⟩
  · obtain ⟨b, h⟩ := hdb.members x hx
    exact ⟨b, h.team, h.player⟩
  · refine .of_parts rfl rfl rfl rfl rfl ?_ rfl rfl rfl rfl
    refine Eq.trans (Table.owned_map ?_ ?_ fun m hm ht => ?_)
      (Table.owned_delete fun m hm hpm e => hb (Option.some.inj (e.symm.trans (hp m hm hpm))))
    · exact fun _ => rfl
    · exact fun _ => rfl
    -- the sources of another tournament's match are of that tournament
    obtain ⟨hm, -⟩ := db.matches_.mem_delete.mp hm
    obtain ⟨a, h⟩ := hdb.matches_ m hm
    obtain rfl : a = b := Option.some.inj (h.round.symm.trans ht)
    have hkept : ∀ side j, m.winnerFrom side = some j →
        j ∉ (db.matches_.rows.filter p).map (·.id) := by
      intro side j hj hmem
      obtain ⟨r, hr, hpr, rfl⟩ := (hids j).mp hmem
      have hown := h.source side _ hj
      rw [Database.matchTournament_row hr, hp r hr hpr] at hown
      exact hb (Option.some.inj hown).symm
    exact clearWinnerFrom_eq_self hkept

/-- No match names an input that is deleted. -/
theorem deleteInputs_ok {p : StageItemInputRow → Bool} (h : deleteInputs db p = .ok db') :
    (∀ m ∈ db.matches_.rows, ∀ side k, m.inputId side = some k →
      ∀ i ∈ db.stageItemInputs.rows, i.id = k → p i = false) ∧
    db' = { db with stageItemInputs := db.stageItemInputs.delete p } := by
  unfold deleteInputs at h
  split at h
  · next hfree =>
    cases h
    refine ⟨fun m hm side k hk i hi hik => ?_, rfl⟩
    rw [← Bool.not_eq_true]
    intro hpi
    have hnot := List.all_eq_true.mp
      (List.all_eq_true.mp hfree i (List.mem_filter.mpr ⟨hi, hpi⟩)) m hm
    rw [Bool.not_eq_true', MatchRow.names, Bool.or_eq_false_iff, beq_eq_false_iff_ne,
      beq_eq_false_iff_ne] at hnot
    cases side with
    | one => exact hnot.1 (hik ▸ hk)
    | two => exact hnot.2 (hik ▸ hk)
  · cases h

theorem Confined.deleteInputs (hdb : Isolated db) {p : StageItemInputRow → Bool}
    (hp : ∀ i ∈ db.stageItemInputs.rows, p i = true → i.tournamentId = tid)
    (h : deleteInputs db p = .ok db') : Confined tid db db' := by
  obtain ⟨hfree, rfl⟩ := deleteInputs_ok h
  refine ⟨⟨fun i hi => ?_, fun i hi => ?_, hdb.rounds, fun m hm => ?_, fun x hx => ?_⟩,
    fun b hb => ?_⟩
  · obtain ⟨b, h⟩ := hdb.stageItems i hi
    exact ⟨b, h.stage, h.ranking⟩
  · obtain ⟨b, h⟩ := hdb.inputs i (db.stageItemInputs.mem_delete.mp hi).1
    exact ⟨b, h.own, h.stageItem, h.source, h.team⟩
  · obtain ⟨b, h⟩ := hdb.matches_ m hm
    exact ⟨b, h.round, fun side k hk => Table.ownerAt_delete (h.input side k hk)
      fun i hi hik => ⟨hfree m hm side k hk i hi hik, rfl⟩, h.source⟩
  · obtain ⟨b, h⟩ := hdb.members x hx
    exact ⟨b, h.team, h.player⟩
  · refine .of_parts rfl rfl rfl ?_ rfl rfl rfl rfl rfl rfl
    exact Table.owned_delete fun i hi hpi e => hb ((Option.some.inj e).symm.trans (hp i hi hpi))

/-- Deleting rounds without matches. -/
theorem Confined.dropRounds (hdb : Isolated db) {p : RoundRow → Bool}
    (hp : ∀ r ∈ db.rounds.rows, p r = true → db.stageItemTournament r.stageItemId = some tid)
    (hfree : ∀ m ∈ db.matches_.rows, ∀ r ∈ db.rounds.rows, r.id = m.roundId → p r = false) :
    Confined tid db { db with rounds := db.rounds.delete p } := by
  have hround : ∀ m ∈ db.matches_.rows, ∀ b, db.roundTournament m.roundId = some b →
      Database.roundTournament { db with rounds := db.rounds.delete p } m.roundId = some b :=
    fun m hm b h => Table.ownerAt_delete h fun r hr hrm => ⟨hfree m hm r hr hrm, rfl⟩
  refine ⟨⟨fun i hi => ?_, fun i hi => ?_, fun r hr => ?_, fun m hm => ?_, fun x hx => ?_⟩,
    fun b hb => ?_⟩
  · obtain ⟨b, h⟩ := hdb.stageItems i hi
    exact ⟨b, h.stage, h.ranking⟩
  · obtain ⟨b, h⟩ := hdb.inputs i hi
    exact ⟨b, h.own, h.stageItem, h.source, h.team⟩
  · exact hdb.rounds r (db.rounds.mem_delete.mp hr).1
  · obtain ⟨b, h⟩ := hdb.matches_ m hm
    refine ⟨b, hround m hm b h.round, h.input, fun side j hj => ?_⟩
    obtain ⟨r, hr, rfl, hrb⟩ := Table.ownerAt_eq_some.mp (h.source side j hj)
    exact Table.ownerAt_eq_some.mpr ⟨r, hr, rfl, hround r hr b hrb⟩
  · obtain ⟨b, h⟩ := hdb.members x hx
    exact ⟨b, h.team, h.player⟩
  · refine .of_parts rfl rfl rfl rfl ?_ rfl rfl rfl rfl rfl
    exact Table.owned_delete fun r hr hpr e => hb (Option.some.inj (e.symm.trans (hp r hr hpr)))

theorem Confined.deleteRounds (hdb : Isolated db) {p : RoundRow → Bool}
    (hp : ∀ r ∈ db.rounds.rows, p r = true → db.stageItemTournament r.stageItemId = some tid) :
    Confined tid db (deleteRounds db p) := by
  have hmatches : Confined tid db (Brackets.deleteMatches db fun m =>
      (db.rounds.find? m.roundId).any p) := by
    refine .deleteMatches hdb fun m _ hpm => ?_
    obtain ⟨r, hr, hpr⟩ := (Option.any_eq_true _ _).mp hpm
    rw [Database.roundTournament, hr]
    exact hp r (db.rounds.mem_of_find? hr) hpr
  refine hmatches.trans (.dropRounds hmatches.isolated hp fun m hm r hr hrm => ?_)
  obtain ⟨m, hm0, rfl⟩ := List.mem_map.mp hm
  have hkept := (db.matches_.mem_delete.mp hm0).2
  have hfind : db.rounds.find? m.roundId = some r := by
    rw [← show r.id = m.roundId from hrm]
    exact db.rounds.find?_key hr
  rwa [hfind, Option.any_some] at hkept

/-- A match that is not of another tournament. -/
abbrev MatchOf (db : Database) (tid : TournamentId) (k : MatchId) : Prop :=
  ∀ b, db.matchTournament k = some b → b = tid

theorem Confined.matchOf (h : Confined tid db db') {k : MatchId} (hk : MatchOf db tid k) :
    MatchOf db' tid k := by
  intro b hb
  by_contra hne
  exact hne (hk b (((h.same b hne).match_iff k).mp hb))

theorem Confined.sqlDeleteMatch (hdb : Isolated db) {k : MatchId} (hk : MatchOf db tid k) :
    Confined tid db (sqlDeleteMatch db k) := by
  refine .deleteMatches hdb fun m hm hp => ?_
  obtain ⟨b, hb⟩ := hdb.matches_ m hm
  have hown := (Database.matchTournament_row hm).trans hb.round
  rw [← hk b (eq_of_beq hp ▸ hown)]
  exact hb.round

theorem Confined.sqlDeleteRound (hdb : Isolated db) {k : RoundId}
    (hk : ∀ b, db.roundTournament k = some b → b = tid) :
    Confined tid db (sqlDeleteRound db k) := by
  have hmatches : Confined tid db (Brackets.deleteMatches db fun m => m.roundId == k) := by
    refine .deleteMatches hdb fun m hm hp => ?_
    obtain ⟨b, hb⟩ := hdb.matches_ m hm
    rw [← hk b (eq_of_beq hp ▸ hb.round)]
    exact hb.round
  refine hmatches.trans (.dropRounds hmatches.isolated (fun r hr hp => ?_) fun m hm r hr hrm => ?_)
  · obtain ⟨b, hb⟩ := hdb.rounds r hr
    rw [← hk b (eq_of_beq hp ▸ (Database.roundTournament_row hr).trans hb)]
    exact hb
  · obtain ⟨m, hrow, rfl⟩ := List.mem_map.mp hm
    have hkept := (db.matches_.mem_delete.mp hrow).2
    rwa [← show r.id = m.roundId from hrm] at hkept

/-! ## 2. Stage items, stages and rankings -/

/-- Deleting stage items without rounds and inputs. -/
theorem Confined.dropStageItems (hdb : Isolated db) {p : StageItemRow → Bool}
    (hp : ∀ i ∈ db.stageItems.rows, p i = true → db.stageTournament i.stageId = some tid)
    (hrounds : ∀ r ∈ db.rounds.rows, ∀ i ∈ db.stageItems.rows, i.id = r.stageItemId → p i = false)
    (hinputs : ∀ i ∈ db.stageItemInputs.rows, ∀ j ∈ db.stageItems.rows, j.id = i.stageItemId →
      p j = false) :
    Confined tid db (forgetStageItems { db with stageItems := db.stageItems.delete p }
      ((db.stageItems.rows.filter p).map (·.id))) := by
  let db' := forgetStageItems { db with stageItems := db.stageItems.delete p }
    ((db.stageItems.rows.filter p).map (·.id))
  have hstay : ∀ k b, (∀ i ∈ db.stageItems.rows, i.id = k → p i = false) →
      db.stageItemTournament k = some b → db'.stageItemTournament k = some b := by
    intro k b hk h
    rw [db.stageItemTournament_eq] at h
    rw [db'.stageItemTournament_eq]
    exact Table.ownerAt_delete h fun i hi hik => ⟨hk i hi hik, rfl⟩
  have hround : ∀ k b, db.roundTournament k = some b → db'.roundTournament k = some b := by
    intro k b h
    obtain ⟨r, hr, rfl, hrb⟩ := Table.ownerAt_eq_some.mp h
    exact Table.ownerAt_eq_some.mpr ⟨r, hr, rfl, hstay _ _ (hrounds r hr) hrb⟩
  have hinput : ∀ k b, db.inputTournament k = some b → db'.inputTournament k = some b := by
    intro k b h
    obtain ⟨i, hi, rfl, hib⟩ := Table.ownerAt_eq_some.mp h
    refine Table.ownerAt_eq_some.mpr ⟨_, List.mem_map_of_mem hi, ?_, ?_⟩
    · split <;> rfl
    · split <;> exact hib
  refine ⟨⟨fun i hi => ?_, fun i' hi' => ?_, fun r hr => ?_, fun m hm => ?_, fun x hx => ?_⟩,
    fun b hb => ?_⟩
  · obtain ⟨b, h⟩ := hdb.stageItems i (db.stageItems.mem_delete.mp hi).1
    exact ⟨b, h.stage, h.ranking⟩
  · obtain ⟨i, hi, rfl⟩ := List.mem_map.mp hi'
    obtain ⟨b, h⟩ := hdb.inputs i hi
    refine ⟨b, ?_⟩
    split
    · exact ⟨h.own, hstay _ _ (hinputs i hi) h.stageItem, fun k hk => (nomatch hk), h.team⟩
    · next hsource =>
      refine ⟨h.own, hstay _ _ (hinputs i hi) h.stageItem, fun k hk => ?_, h.team⟩
      refine hstay _ _ (fun j hj hjk => ?_) (h.source k hk)
      rw [← Bool.not_eq_true]
      intro hpj
      exact hsource ((Option.any_eq_true _ _).mpr ⟨k, hk, List.contains_iff_mem.mpr
        (List.mem_map.mpr ⟨j, List.mem_filter.mpr ⟨hj, hpj⟩, hjk⟩)⟩)
  · obtain ⟨b, h⟩ := hdb.rounds r hr
    exact ⟨b, hstay _ _ (hrounds r hr) h⟩
  · obtain ⟨b, h⟩ := hdb.matches_ m hm
    refine ⟨b, hround _ _ h.round, fun side k hk => hinput _ _ (h.input side k hk),
      fun side j hj => ?_⟩
    obtain ⟨r, hr, rfl, hrb⟩ := Table.ownerAt_eq_some.mp (h.source side j hj)
    exact Table.ownerAt_eq_some.mpr ⟨r, hr, rfl, hround _ _ hrb⟩
  · obtain ⟨b, h⟩ := hdb.members x hx
    exact ⟨b, h.team, h.player⟩
  · refine .of_parts rfl rfl ?_ ?_ rfl rfl rfl rfl rfl rfl
    · exact Table.owned_delete fun i hi hpi e => hb (Option.some.inj (e.symm.trans (hp i hi hpi)))
    · -- an input that forgets its source is an input of the source's tournament
      refine Table.owned_update ?_ fun i hi hsource => ?_
      · exact fun _ => rfl
      obtain ⟨k, hk, hmem⟩ := (Option.any_eq_true _ _).mp hsource
      obtain ⟨j, hj, rfl⟩ := List.mem_map.mp (List.contains_iff_mem.mp hmem)
      obtain ⟨hj, hpj⟩ := List.mem_filter.mp hj
      obtain ⟨a, h⟩ := hdb.inputs i hi
      have hown := h.source _ hk
      rw [Database.stageItemTournament_row hj, hp j hj hpj] at hown
      have hi : i.tournamentId = tid := h.own.trans (Option.some.inj hown).symm
      exact ⟨fun e => hb ((Option.some.inj e).symm.trans hi),
        fun e => hb ((Option.some.inj e).symm.trans hi)⟩

theorem Confined.deleteStageItems (hdb : Isolated db) {p : StageItemRow → Bool}
    (hp : ∀ i ∈ db.stageItems.rows, p i = true → db.stageTournament i.stageId = some tid)
    (h : deleteStageItems db p = .ok db') : Confined tid db db' := by
  have hids : ∀ k, ((db.stageItems.rows.filter p).map (·.id)).contains k = true →
      db.stageItemTournament k = some tid := by
    intro k hk
    obtain ⟨i, hi, rfl⟩ := List.mem_map.mp (List.contains_iff_mem.mp hk)
    obtain ⟨hi, hpi⟩ := List.mem_filter.mp hi
    rw [Database.stageItemTournament_row hi, hp i hi hpi]
  have hnot : ∀ k, ((db.stageItems.rows.filter p).map (·.id)).contains k = false →
      ∀ i ∈ db.stageItems.rows, i.id = k → p i = false := by
    rintro k hk i hi rfl
    rw [← Bool.not_eq_true]
    intro hpi
    rw [List.contains_iff_mem.mpr (List.mem_map_of_mem (List.mem_filter.mpr ⟨hi, hpi⟩))] at hk
    cases hk
  have hrounds := Confined.deleteRounds hdb (p := fun r =>
    ((db.stageItems.rows.filter p).map (·.id)).contains r.stageItemId) fun r _ hr => hids _ hr
  obtain ⟨db2, h2, h⟩ := bind_eq_ok.mp h
  have hinputs : Confined tid _ db2 := .deleteInputs hrounds.isolated
    (fun i hi hpi => hrounds.isolated.input_own hi (hids _ hpi)) h2
  obtain ⟨-, rfl⟩ := deleteInputs_ok h2
  cases h
  refine (hrounds.trans hinputs).trans (.dropStageItems hinputs.isolated hp (fun r hr => ?_)
    fun i hi => ?_)
  · exact hnot _ (db.rounds.mem_delete.mp hr).2
  · exact hnot _ (Table.mem_delete _ |>.mp hi).2

/-- A stage item that is not of another tournament. -/
abbrev StageItemOf (db : Database) (tid : TournamentId) (k : StageItemId) : Prop :=
  ∀ b, db.stageItemTournament k = some b → b = tid

theorem Confined.stageItemOf (h : Confined tid db db') {k : StageItemId}
    (hk : StageItemOf db tid k) : StageItemOf db' tid k := by
  intro b hb
  by_contra hne
  exact hne (hk b (((h.same b hne).stageItem_iff k).mp hb))

theorem Confined.sqlDeleteMatchesForStageItemId (hdb : Isolated db) {k : StageItemId}
    (hk : StageItemOf db tid k) : Confined tid db (sqlDeleteMatchesForStageItemId db k) := by
  refine .deleteMatches hdb fun m hm hp => ?_
  obtain ⟨r, hr, hp⟩ := (Option.any_eq_true _ _).mp hp
  obtain ⟨b, hb⟩ := hdb.matches_ m hm
  have hround := hb.round
  rw [Database.roundTournament, hr, Option.bind_some, eq_of_beq hp] at hround
  rw [← hk b hround]
  exact hb.round

theorem Confined.sqlDeleteStageItemInputs (hdb : Isolated db) {k : StageItemId}
    (hk : StageItemOf db tid k) (h : sqlDeleteStageItemInputs db k = .ok db') :
    Confined tid db db' := by
  refine .deleteInputs hdb (fun i hi hp => ?_) h
  obtain ⟨b, hb⟩ := hdb.inputs i hi
  rcases Bool.or_eq_true _ _ |>.mp hp with hp | hp
  · exact hb.own.trans (hk b (eq_of_beq hp ▸ hb.stageItem))
  · exact hb.own.trans (hk b (hb.source k (eq_of_beq hp)))

theorem Confined.sqlDeleteRounds (hdb : Isolated db) {k : StageItemId}
    (hk : StageItemOf db tid k) : Confined tid db (sqlDeleteRoundsForStageItemId db k) := by
  refine .deleteRounds hdb fun r hr hp => ?_
  obtain ⟨b, hb⟩ := hdb.rounds r hr
  rw [← hk b (eq_of_beq hp ▸ hb)]
  exact hb

theorem Confined.sqlDeleteStageItem (hdb : Isolated db) {k : StageItemId}
    (hk : StageItemOf db tid k) (h : sqlDeleteStageItem db k = .ok db') : Confined tid db db' := by
  refine .deleteStageItems hdb (fun i hi hp => ?_) h
  obtain ⟨b, hb⟩ := hdb.stageItems i hi
  have hown := (Database.stageItemTournament_row hi).trans hb.stage
  rw [← hk b (eq_of_beq hp ▸ hown)]
  exact hb.stage

theorem Confined.sqlDeleteStageItemWithForeignKeys (hdb : Isolated db) {k : StageItemId}
    (hk : StageItemOf db tid k) (h : sqlDeleteStageItemWithForeignKeys db k = .ok db') :
    Confined tid db db' := by
  have h1 := Confined.sqlDeleteMatchesForStageItemId hdb hk
  obtain ⟨db2, h2, h⟩ := bind_eq_ok.mp h
  have h2 := h1.trans (.sqlDeleteStageItemInputs h1.isolated (h1.stageItemOf hk) h2)
  have h3 := h2.trans (.sqlDeleteRounds h2.isolated (h2.stageItemOf hk))
  exact h3.trans (.sqlDeleteStageItem h3.isolated (h3.stageItemOf hk) h)

theorem Confined.sqlDeleteStageItemRelations (hdb : Isolated db) {k : StageItemId}
    (hk : StageItemOf db tid k) (h : sqlDeleteStageItemRelations db k = .ok db') :
    Confined tid db db' := by
  have h1 := Confined.sqlDeleteRounds hdb hk
  exact h1.trans (.sqlDeleteStageItemInputs h1.isolated (h1.stageItemOf hk) h)

/-- Deleting stages without stage items. -/
theorem Confined.dropStages (hdb : Isolated db) {p : StageRow → Bool}
    (hp : ∀ s ∈ db.stages.rows, p s = true → s.tournamentId = tid)
    (hfree : ∀ i ∈ db.stageItems.rows, ∀ s ∈ db.stages.rows, s.id = i.stageId → p s = false) :
    Confined tid db { db with stages := db.stages.delete p } := by
  let db' : Database := { db with stages := db.stages.delete p }
  have hstage : ∀ i ∈ db.stageItems.rows, ∀ b, db.stageTournament i.stageId = some b →
      db'.stageTournament i.stageId = some b :=
    fun i hi b h => Table.ownerAt_delete h fun s hs hsi => ⟨hfree i hi s hs hsi, rfl⟩
  have hitem : ∀ k b, db.stageItemTournament k = some b → db'.stageItemTournament k = some b := by
    intro k b h
    rw [db.stageItemTournament_eq] at h
    obtain ⟨i, hi, rfl, hib⟩ := Table.ownerAt_eq_some.mp h
    rw [db'.stageItemTournament_eq]
    exact Table.ownerAt_eq_some.mpr ⟨i, hi, rfl, hstage i hi b hib⟩
  have hround : ∀ k b, db.roundTournament k = some b → db'.roundTournament k = some b := by
    intro k b h
    obtain ⟨r, hr, rfl, hrb⟩ := Table.ownerAt_eq_some.mp h
    exact Table.ownerAt_eq_some.mpr ⟨r, hr, rfl, hitem _ _ hrb⟩
  refine ⟨⟨fun i hi => ?_, fun i hi => ?_, fun r hr => ?_, fun m hm => ?_, fun x hx => ?_⟩,
    fun b hb => ?_⟩
  · obtain ⟨b, h⟩ := hdb.stageItems i hi
    exact ⟨b, hstage i hi b h.stage, h.ranking⟩
  · obtain ⟨b, h⟩ := hdb.inputs i hi
    exact ⟨b, h.own, hitem _ _ h.stageItem, fun k hk => hitem _ _ (h.source k hk), h.team⟩
  · obtain ⟨b, h⟩ := hdb.rounds r hr
    exact ⟨b, hitem _ _ h⟩
  · obtain ⟨b, h⟩ := hdb.matches_ m hm
    refine ⟨b, hround _ _ h.round, h.input, fun side j hj => ?_⟩
    obtain ⟨r, hr, rfl, hrb⟩ := Table.ownerAt_eq_some.mp (h.source side j hj)
    exact Table.ownerAt_eq_some.mpr ⟨r, hr, rfl, hround _ _ hrb⟩
  · obtain ⟨b, h⟩ := hdb.members x hx
    exact ⟨b, h.team, h.player⟩
  · refine .of_parts rfl ?_ rfl rfl rfl rfl rfl rfl rfl rfl
    exact Table.owned_delete fun s hs hps e => hb ((Option.some.inj e).symm.trans (hp s hs hps))

/-- What deleting stage items leaves of the tables. -/
theorem deleteStageItems_ok {p : StageItemRow → Bool} (h : deleteStageItems db p = .ok db') :
    db'.stages = db.stages ∧ db'.rankings = db.rankings ∧
      db'.stageItems = db.stageItems.delete p := by
  obtain ⟨db2, h2, h⟩ := bind_eq_ok.mp h
  obtain ⟨-, rfl⟩ := deleteInputs_ok h2
  cases h
  exact ⟨rfl, rfl, rfl⟩

theorem Confined.deleteStages (hdb : Isolated db) {p : StageRow → Bool}
    (hp : ∀ s ∈ db.stages.rows, p s = true → s.tournamentId = tid)
    (h : deleteStages db p = .ok db') : Confined tid db db' := by
  obtain ⟨db1, h1, h⟩ := bind_eq_ok.mp h
  cases h
  have hitems : Confined tid db db1 := by
    refine .deleteStageItems hdb (fun i hi hpi => ?_) h1
    obtain ⟨s, hs, hid⟩ := List.mem_map.mp (List.contains_iff_mem.mp hpi)
    obtain ⟨hs, hps⟩ := List.mem_filter.mp hs
    rw [← hid, Database.stageTournament_row hs, hp s hs hps]
  obtain ⟨hstages, -, hdeleted⟩ := deleteStageItems_ok h1
  refine hitems.trans (.dropStages hitems.isolated (fun s hs => hp s (hstages ▸ hs))
    fun i hi s hs hsi => ?_)
  rw [hdeleted] at hi
  rw [hstages] at hs
  have hnot := (db.stageItems.mem_delete.mp hi).2
  rw [← Bool.not_eq_true]
  intro hps
  rw [← hsi, List.contains_iff_mem.mpr (List.mem_map_of_mem (List.mem_filter.mpr ⟨hs, hps⟩))] at hnot
  cases hnot

theorem Confined.sqlDeleteStage (hdb : Isolated db) {k : StageId}
    (hk : ∀ b, db.stageTournament k = some b → b = tid)
    (h : sqlDeleteStage db tid k = .ok db') : Confined tid db db' := by
  obtain ⟨db1, h1, h⟩ := bind_eq_ok.mp h
  have hitems : Confined tid db db1 := by
    refine .deleteStageItems hdb (fun i hi hp => ?_) h1
    obtain ⟨b, hb⟩ := hdb.stageItems i hi
    rw [← hk b (eq_of_beq hp ▸ hb.stage)]
    exact hb.stage
  refine hitems.trans (.deleteStages hitems.isolated (fun s hs hp => ?_) h)
  rw [Bool.and_eq_true, beq_iff_eq, beq_iff_eq] at hp
  exact hp.2

/-- Deleting rankings that no stage item uses. -/
theorem Confined.dropRankings (hdb : Isolated db) {p : RankingRow → Bool}
    (hp : ∀ r ∈ db.rankings.rows, p r = true → r.tournamentId = tid)
    (hfree : ∀ i ∈ db.stageItems.rows, ∀ r ∈ db.rankings.rows, r.id = i.rankingId → p r = false) :
    Confined tid db { db with rankings := db.rankings.delete p } := by
  refine ⟨⟨fun i hi => ?_, fun i hi => ?_, hdb.rounds, fun m hm => ?_, fun x hx => ?_⟩,
    fun b hb => ?_⟩
  · obtain ⟨b, h⟩ := hdb.stageItems i hi
    exact ⟨b, h.stage, Table.ownerAt_delete h.ranking fun r hr hri => ⟨hfree i hi r hr hri, rfl⟩⟩
  · obtain ⟨b, h⟩ := hdb.inputs i hi
    exact ⟨b, h.own, h.stageItem, h.source, h.team⟩
  · obtain ⟨b, h⟩ := hdb.matches_ m hm
    exact ⟨b, h.round, h.input, h.source⟩
  · obtain ⟨b, h⟩ := hdb.members x hx
    exact ⟨b, h.team, h.player⟩
  · refine .of_parts rfl rfl rfl rfl rfl rfl rfl rfl rfl ?_
    exact Table.owned_delete fun r hr hpr e => hb ((Option.some.inj e).symm.trans (hp r hr hpr))

theorem Confined.deleteRankings (hdb : Isolated db) {p : RankingRow → Bool}
    (hp : ∀ r ∈ db.rankings.rows, p r = true → r.tournamentId = tid)
    (h : deleteRankings db p = .ok db') : Confined tid db db' := by
  obtain ⟨db1, h1, h⟩ := bind_eq_ok.mp h
  cases h
  have hitems : Confined tid db db1 := by
    refine .deleteStageItems hdb (fun i hi hpi => ?_) h1
    obtain ⟨r, hr, hid⟩ := List.mem_map.mp (List.contains_iff_mem.mp hpi)
    obtain ⟨hr, hpr⟩ := List.mem_filter.mp hr
    obtain ⟨b, hb⟩ := hdb.stageItems i hi
    have hranking := hb.ranking
    rw [← hid, Database.rankingTournament_row hr, hp r hr hpr] at hranking
    rw [Option.some.inj hranking]
    exact hb.stage
  obtain ⟨-, hrankings, hdeleted⟩ := deleteStageItems_ok h1
  refine hitems.trans (.dropRankings hitems.isolated (fun r hr => hp r (hrankings ▸ hr))
    fun i hi r hr hri => ?_)
  rw [hdeleted] at hi
  rw [hrankings] at hr
  have hnot := (db.stageItems.mem_delete.mp hi).2
  rw [← Bool.not_eq_true]
  intro hpr
  rw [← hri, List.contains_iff_mem.mpr (List.mem_map_of_mem (List.mem_filter.mpr ⟨hr, hpr⟩))] at hnot
  cases hnot

/-! ## 3. Teams, players and tournaments -/

theorem Confined.deleteTeams (hdb : Isolated db) {p : TeamRow → Bool}
    (hp : ∀ t ∈ db.teams.rows, p t = true → t.tournamentId = tid)
    (h : deleteTeams db p = .ok db') : Confined tid db db' := by
  obtain ⟨hfree, rfl⟩ := deleteTeams_ok h
  have hids : ∀ k, ((db.teams.rows.filter p).map (·.id)).contains k = false →
      ∀ t ∈ db.teams.rows, t.id = k → p t = false := by
    rintro k hk t ht rfl
    rw [← Bool.not_eq_true]
    intro hpt
    rw [List.contains_iff_mem.mpr (List.mem_map_of_mem (List.mem_filter.mpr ⟨ht, hpt⟩))] at hk
    cases hk
  refine ⟨⟨fun i hi => ?_, fun i hi => ?_, hdb.rounds, fun m hm => ?_, fun x hx => ?_⟩,
    fun b hb => ?_⟩
  · obtain ⟨b, h⟩ := hdb.stageItems i hi
    exact ⟨b, h.stage, h.ranking⟩
  · obtain ⟨b, h⟩ := hdb.inputs i hi
    refine ⟨b, h.own, h.stageItem, h.source, fun t ht => Table.ownerAt_delete (h.team t ht)
      fun r hr hrt => ⟨hids t ?_ r hr hrt, rfl⟩⟩
    have hnot := hfree i hi
    rwa [ht, Option.any_some] at hnot
  · obtain ⟨b, h⟩ := hdb.matches_ m hm
    exact ⟨b, h.round, h.input, h.source⟩
  · obtain ⟨hx, hkept⟩ := db.playersXTeams.mem_delete.mp hx
    obtain ⟨b, h⟩ := hdb.members x hx
    exact ⟨b, Table.ownerAt_delete h.team fun r hr hrt => ⟨hids _ hkept r hr hrt, rfl⟩, h.player⟩
  · refine .of_parts rfl rfl rfl rfl rfl rfl ?_ rfl ?_ rfl
    · exact Table.owned_delete fun t ht hpt e =>
        hb ((Option.some.inj e).symm.trans (hp t ht hpt))
    · refine Table.owned_delete fun x hx hpx e => hb ?_
      obtain ⟨t, ht, hid⟩ := List.mem_map.mp (List.contains_iff_mem.mp hpx)
      obtain ⟨ht, hpt⟩ := List.mem_filter.mp ht
      rw [← hid, Database.teamTournament_row ht, hp t ht hpt] at e
      exact (Option.some.inj e).symm

theorem Confined.deletePlayers (hdb : Isolated db) {p : PlayerRow → Bool}
    (hp : ∀ r ∈ db.players.rows, p r = true → r.tournamentId = tid) :
    Confined tid db (deletePlayers db p) := by
  refine ⟨⟨fun i hi => ?_, fun i hi => ?_, hdb.rounds, fun m hm => ?_, fun x hx => ?_⟩,
    fun b hb => ?_⟩
  · obtain ⟨b, h⟩ := hdb.stageItems i hi
    exact ⟨b, h.stage, h.ranking⟩
  · obtain ⟨b, h⟩ := hdb.inputs i hi
    exact ⟨b, h.own, h.stageItem, h.source, h.team⟩
  · obtain ⟨b, h⟩ := hdb.matches_ m hm
    exact ⟨b, h.round, h.input, h.source⟩
  · obtain ⟨hx, hkept⟩ := db.playersXTeams.mem_delete.mp hx
    obtain ⟨b, h⟩ := hdb.members x hx
    refine ⟨b, h.team, Table.ownerAt_delete h.player fun r hr hrx => ⟨?_, rfl⟩⟩
    rw [← Bool.not_eq_true]
    intro hpr
    rw [← show r.id = x.playerId from hrx, List.contains_iff_mem.mpr (List.mem_map_of_mem
      (List.mem_filter.mpr ⟨hr, hpr⟩))] at hkept
    cases hkept
  · refine .of_parts rfl rfl rfl rfl rfl rfl rfl ?_ ?_ rfl
    · exact Table.owned_delete fun r hr hpr e => hb ((Option.some.inj e).symm.trans (hp r hr hpr))
    · refine Table.owned_delete fun x hx hpx e => hb ?_
      obtain ⟨r, hr, hid⟩ := List.mem_map.mp (List.contains_iff_mem.mp hpx)
      obtain ⟨hr, hpr⟩ := List.mem_filter.mp hr
      obtain ⟨a, h⟩ := hdb.members x hx
      have hplayer := h.player
      rw [← hid, Database.playerTournament_row hr, hp r hr hpr] at hplayer
      exact (Option.some.inj (e.symm.trans h.team)).trans (Option.some.inj hplayer).symm

theorem Confined.dropTournament (hdb : Isolated db) :
    Confined tid db { db with tournaments := db.tournaments.delete fun t => t.id == tid } := by
  refine (Grows.tournaments hdb fun b hb => ?_).toConfined
  rw [Table.find?_delete]
  cases hfind : db.tournaments.find? b with
  | none => rfl
  | some t =>
    have hid : t.id = b := db.tournaments.key_of_find? hfind
    rw [Option.filter_eq_some_iff]
    exact ⟨rfl, by rw [hid, beq_eq_false_iff_ne.mpr hb]; rfl⟩

theorem Confined.sqlDeleteTournament (hdb : Isolated db)
    (h : sqlDeleteTournament db tid = .ok db') : Confined tid db db' := by
  obtain ⟨e⟩ := sqlDeleteTournament_steps h
  have h1 := Confined.deleteStages hdb (fun _ _ hp => eq_of_beq hp) e.stages
  have h2 := h1.trans (.deleteInputs h1.isolated (fun _ _ hp => eq_of_beq hp) e.inputs)
  have h3 := h2.trans (.deleteRankings h2.isolated (fun _ _ hp => eq_of_beq hp) e.rankings)
  have h4 := h3.trans (.deletePlayers h3.isolated (p := (·.tournamentId == tid))
    fun _ _ hp => eq_of_beq hp)
  have h5 := h4.trans (.deleteTeams h4.isolated (fun _ _ hp => eq_of_beq hp) e.teams)
  rw [e.deleted]
  exact h5.trans (.dropTournament h5.isolated)

/-- The stage is not of another tournament, and its stage items are not either. -/
structure StageOf (db : Database) (tid : TournamentId) (stage : StageWithStageItems) : Prop where
  own : ∀ b, db.stageTournament stage.id = some b → b = tid
  items : ∀ item ∈ stage.stageItems, StageItemOf db tid item.id

theorem Confined.stageOf (h : Confined tid db db') {stage : StageWithStageItems}
    (hstage : StageOf db tid stage) : StageOf db' tid stage where
  own b hb := by
    by_contra hne
    exact hne (hstage.own b (((h.same b hne).stage_iff stage.id).mp hb))
  items item hitem := h.stageItemOf (hstage.items item hitem)

theorem stageOf_loaded {f : DetailsFilter} {stage : StageWithStageItems}
    (h : stage ∈ fullTournamentDetails db tid f) : StageOf db tid stage := by
  obtain ⟨s, hs, rfl, rfl⟩ := mem_fullTournamentDetails h
  refine ⟨fun b hb => ?_, fun item hitem b hb => ?_⟩
  · have hrow := Database.stageTournament_row hs
    exact Option.some.inj (hb.symm.trans hrow)
  · obtain ⟨row, hrow, hstage, -, rfl⟩ := mem_stageWithStageItems hitem
    have hown := Database.stageItemTournament_row hrow
    rw [hstage, Database.stageTournament_row hs] at hown
    exact Option.some.inj (hb.symm.trans hown)

theorem Confined.sqlDeleteTournamentCompletely (hdb : Isolated db)
    (h : sqlDeleteTournamentCompletely db tid = .ok db') : Confined tid db db' := by
  obtain ⟨e⟩ := sqlDeleteTournamentCompletely_steps h
  have hstages : ∀ stage ∈ fullTournamentDetails db tid {}, StageOf db tid stage :=
    fun _ hs => stageOf_loaded hs
  have hitems : ∀ item ∈ (fullTournamentDetails db tid {}).flatMap (·.stageItems),
      StageItemOf db tid item.id := by
    intro item hitem
    obtain ⟨stage, hs, hitem⟩ := List.mem_flatMap.mp hitem
    exact (hstages stage hs).items item hitem
  have h1 : Confined tid db (((fullTournamentDetails db tid {}).flatMap (·.stageItems)).foldl
      (fun db item => Brackets.sqlDeleteMatchesForStageItemId db item.id) db) :=
    .foldl (P := fun db (item : StageItemWithRounds) => StageItemOf db tid item.id)
      (fun _ _ _ hc hk => hc.stageItemOf hk)
      (fun _ _ hdb hk => .sqlDeleteMatchesForStageItemId hdb hk) hdb hitems
  have h2 := h1.trans (.foldlM
    (P := fun db (item : StageItemWithRounds) => StageItemOf db tid item.id)
    (fun _ _ _ hc hk => hc.stageItemOf hk)
    (fun _ _ _ hdb hk h => .sqlDeleteStageItemRelations hdb hk h) h1.isolated
    (fun item hitem => h1.stageItemOf (hitems item hitem)) e.relations)
  have h3 := h2.trans (.foldlM (P := fun db stage => StageOf db tid stage)
    (fun _ _ _ hc hs => hc.stageOf hs)
    (fun db db' stage hdb hs h => by
      obtain ⟨db1, h1, h⟩ := bind_eq_ok.mp h
      have h1 : Confined tid db db1 := .foldlM
        (P := fun db (item : StageItemWithRounds) => StageItemOf db tid item.id)
        (fun _ _ _ hc hk => hc.stageItemOf hk)
        (fun _ _ _ hdb hk h => .sqlDeleteStageItem hdb hk h) hdb hs.items h1
      exact h1.trans (.sqlDeleteStage h1.isolated (h1.stageOf hs).own h)) h2.isolated
    (fun stage hs => h2.stageOf (hstages stage hs)) e.stages)
  have h4 := h3.trans (.foldlM (P := fun _ _ => True) (fun _ _ _ _ h => h)
    (fun _ _ _ hdb _ h => .deleteRankings hdb
      (fun _ _ hp => eq_of_beq (Bool.and_eq_true _ _ |>.mp hp).2) h) h3.isolated
    (fun _ _ => trivial) e.rankings)
  have h5 := h4.trans (.deletePlayers h4.isolated (p := (·.tournamentId == tid))
    fun _ _ hp => eq_of_beq hp)
  have h6 := h5.trans (.deleteTeams h5.isolated (fun _ _ hp => eq_of_beq hp) e.teams)
  exact h6.trans (.sqlDeleteTournament h6.isolated e.tournament)

end Brackets
