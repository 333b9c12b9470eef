/-
  File:      Brackets/Progress/ItemRequests.lean
  Subject:   The stored statistics and the requests that create and delete.

  `ExactStandings` has the requests about matches, rounds and rankings. Creating, renaming and
  deleting stage items keeps what the rankings of the others read, a new stage item starts without
  results (`accurate_of_empty`), and the requests about the tournament, its stages, teams and
  players change no table that a ranking is computed from (`Request.ranked`).
-/
import Brackets.Progress.CompleteTree
import Brackets.Progress.ExactStandings

namespace Brackets

open Library

/-! ## 1. Inputs -/

theorem resultWith_known {m : MatchRow} {known known' : StageItemInputId → Bool}
    (h : ∀ side x, m.inputId side = some x → known' x = known x) :
    m.resultWith known' = m.resultWith known := by
  have hside : ∀ side, (m.inputId side).filter known' = (m.inputId side).filter known := by
    intro side
    cases hx : m.inputId side with
    | none => rfl
    | some x => simp [Option.filter, h side x hx]
  have h1 : m.stageItemInput1Id.filter known' = m.stageItemInput1Id.filter known := hside .one
  have h2 : m.stageItemInput2Id.filter known' = m.stageItemInput2Id.filter known := hside .two
  unfold MatchRow.resultWith
  rw [h1, h2]

section Statements

variable {db db' : Database} {tid : TournamentId} {j k : StageItemId}

/-- The results name the inputs of the stage item. -/
theorem storedResults_inputs {t : Table StageItemInputRow}
    (h : ∀ m ∈ db.matches_.rows, ∀ side x, m.inputId side = some x →
      { db with stageItemInputs := t }.knows k x = db.knows k x) :
    storedResults { db with stageItemInputs := t } k = storedResults db k := by
  refine storedResults_of_rounds rfl fun r _ _ => ?_
  exact List.filterMap_congr fun m hm => resultWith_known (h m (List.mem_filter.mp hm).1)

/-- A change of the inputs. -/
theorem SameReading.of_inputs {t : Table StageItemInputRow}
    (h : ∀ m ∈ db.matches_.rows, ∀ side x, m.inputId side = some x →
      { db with stageItemInputs := t }.knows k x = db.knows k x) :
    SameReading db { db with stageItemInputs := t } tid k :=
  ⟨rfl, rfl, rfl, storedResults_inputs h⟩

/-- An UPDATE that leaves the inputs in their stage items. -/
theorem SameReading.of_updateInputs {p : StageItemInputRow → Bool}
    {f : StageItemInputRow → StageItemInputRow} {hf : ∀ i, key (f i) = key i}
    (h : ∀ i, (f i).stageItemId = i.stageItemId) :
    SameReading db { db with stageItemInputs := db.stageItemInputs.update p f hf } tid k := by
  refine .of_inputs fun _ _ _ x _ => ?_
  unfold Database.knows
  dsimp only
  rw [Table.find?_update]
  cases db.stageItemInputs.find? x with
  | none => rfl
  | some i =>
    rw [Option.map_some, Option.any_some, Option.any_some]
    split
    · rw [h]
    · rfl

theorem SameRanking.insertEmpty {slot : Int} (hj : k ≠ j) :
    SameRanking db (sqlCreateEmptyInput tid j db slot) tid k := by
  have hnew : ∀ x i, (sqlCreateEmptyInput tid j db slot).stageItemInputs.find? x = some i →
      i.stageItemId = k → db.stageItemInputs.find? x = some i := by
    intro x i hi hk
    by_cases hx : x = db.stageItemInputs.next
    · rw [hx, sqlCreateEmptyInput, Table.find?_insert_self] at hi
      cases hi
      exact absurd hk.symm hj
    · rwa [sqlCreateEmptyInput, Table.find?_insert_of_ne _ hx] at hi
  refine ⟨.of_inputs fun _ _ _ x _ => ?_,
    fun x i hi hk hteam => ⟨i, hnew x i hi hk, hk, rfl, hteam, rfl⟩⟩
  unfold Database.knows
  dsimp only
  by_cases hx : x = db.stageItemInputs.next
  · rw [hx, Table.find?_insert_self, Table.find?_next]
    exact beq_eq_false_iff_ne.mpr hj.symm
  · rw [Table.find?_insert_of_ne _ hx]

/-- The inputs that matches name are not deleted. -/
theorem SameRanking.of_deleteInputs {p : StageItemInputRow → Bool}
    (h : deleteInputs db p = .ok db') : SameRanking db db' tid k := by
  obtain ⟨hfree, rfl⟩ := deleteInputs_ok h
  refine ⟨.of_inputs fun m hm side x hx => ?_, fun x i hi hk hteam => ?_⟩
  · unfold Database.knows
    dsimp only
    rw [Table.find?_delete]
    cases hi : db.stageItemInputs.find? x with
    | none => rfl
    | some i =>
      have hkept := hfree m hm side x hx i (db.stageItemInputs.mem_of_find? hi)
        (db.stageItemInputs.key_of_find? hi)
      rw [Option.filter_some_pos (by rw [hkept]; rfl)]
  · have hi := (Option.filter_eq_some_iff.mp ((Table.find?_delete _ _ _).symm.trans hi)).1
    exact ⟨i, hi, hk, rfl, hteam, rfl⟩

/-! ## 2. Stage items and stages -/

theorem SameRanking.insertItem {row : StageItemId → StageItemRow} {hrow : ∀ k, key (row k) = k}
    (hk : k ≠ db.stageItems.next) :
    SameRanking db { db with stageItems := db.stageItems.insert row hrow } tid k := by
  have hfind : (db.stageItems.insert row hrow).find? k = db.stageItems.find? k :=
    db.stageItems.find?_insert_of_ne hk
  refine .of_tables (congrArg _ hfind) ?_ ?_ rfl rfl rfl
  · unfold Database.stageItemTournament
    rw [hfind]
  · unfold getRankingForStageItem
    rw [hfind]

/-- A round without matches. -/
theorem storedResults_insertRound {name : String} {isDraft : Bool}
    (hfree : ∀ m ∈ db.matches_.rows, m.roundId ≠ db.rounds.next) :
    storedResults (sqlCreateRound db name isDraft j).2 k = storedResults db k := by
  have hnone : publishedResults db k ⟨db.rounds.next, name, isDraft, j⟩ = [] := by
    have hempty : db.matches_.rows.filter (·.roundId == db.rounds.next) = [] :=
      List.filter_eq_nil_iff.mpr fun m hm he => hfree m hm (eq_of_beq he)
    unfold publishedResults roundResults
    rw [hempty, List.filterMap_nil, ite_self]
  rw [sqlCreateRound, storedResults_rounds, storedResults_eq, Table.rows_insert,
    List.flatMap_append, List.flatMap_singleton, hnone, List.append_nil]

/-- The rounds of a new stage item. -/
theorem SameRanking.createRounds (hfree : ∀ m ∈ db.matches_.rows, m.roundId < db.rounds.next)
    (j : StageItemId) (n : Nat) : SameRanking db ((createNextRound tid j)^[n] db) tid k := by
  induction n generalizing db with
  | zero => exact .refl db tid k
  | succ n ih =>
    rw [Function.iterate_succ_apply]
    have hround : SameRanking db (createNextRound tid j db) tid k :=
      .of_rounds (storedResults_insertRound fun m hm => (hfree m hm).ne)
    exact hround.trans (ih fun m hm => (hfree m hm).trans (Int.lt_succ _))

/-- The matches of an isolated database are in rounds that exist. -/
theorem Isolated.round_lt (hdb : Isolated db) :
    ∀ m ∈ db.matches_.rows, m.roundId < db.rounds.next := by
  intro m hm
  obtain ⟨b, hb⟩ := hdb.matches_ m hm
  obtain ⟨r, hr, hid, -⟩ := Table.ownerAt_eq_some.mp hb.round
  exact hid ▸ db.rounds.below r hr

theorem SameRanking.createMatches (db : Database) (bodies : List MatchCreateBody) :
    SameRanking db (Brackets.createMatches db bodies).2 tid k := by
  induction bodies generalizing db with
  | nil => exact .refl db tid k
  | cons body bodies ih =>
    have hmatch : SameRanking db (sqlCreateMatch db body).2 tid k :=
      .of_matches fun _ _ _ => roundResults_create
    exact hmatch.trans (ih (sqlCreateMatch db body).2)

/-- Deleting rounds of other stage items, with their matches. -/
theorem SameRanking.of_deleteRounds {p : RoundRow → Bool}
    (h : ∀ r ∈ db.rounds.rows, p r = true → r.stageItemId ≠ k) :
    SameRanking db (deleteRounds db p) tid k := by
  have hmatches : SameRanking db (deleteMatches db fun m => (db.rounds.find? m.roundId).any p)
      tid k := by
    refine .of_matches fun r hr hof => roundResults_delete fun m _ hm hid => ?_
    have hfind : db.rounds.find? r.id = some r := db.rounds.find?_key hr
    rw [hid, hfind, Option.any_some] at hm
    exact h r hr hm hof
  refine hmatches.trans (.of_rounds (storedResults_deleteRounds fun r hr hp => ?_))
  exact if_neg fun hof => h r hr hp hof.1

theorem SameRanking.of_deleteItems {p : StageItemRow → Bool}
    (hk : ∀ i ∈ db.stageItems.rows, i.id = k → p i = false) :
    SameRanking db { db with stageItems := db.stageItems.delete p } tid k := by
  have hfind : (db.stageItems.delete p).find? k = db.stageItems.find? k := by
    rw [Table.find?_delete]
    cases hi : db.stageItems.find? k with
    | none => rfl
    | some i =>
      have hkept := hk i (db.stageItems.mem_of_find? hi) (db.stageItems.key_of_find? hi)
      exact Option.filter_some_pos (by rw [hkept]; rfl)
  refine .of_tables (congrArg _ hfind) ?_ ?_ rfl rfl rfl
  · unfold Database.stageItemTournament
    rw [hfind]
  · unfold getRankingForStageItem
    rw [hfind]

/-- An UPDATE of inputs that gives nobody a team. -/
theorem SameRanking.of_updateInputs {p : StageItemInputRow → Bool}
    {f : StageItemInputRow → StageItemInputRow} {hf : ∀ i, key (f i) = key i}
    (hitem : ∀ i, (f i).stageItemId = i.stageItemId)
    (htournament : ∀ i, (f i).tournamentId = i.tournamentId) (hcached : ∀ i, (f i).cached = i.cached)
    (hteam : ∀ i ∈ db.stageItemInputs.rows, p i = true → (f i).teamId.isSome = true →
      i.teamId.isSome = true) :
    SameRanking db { db with stageItemInputs := db.stageItemInputs.update p f hf } tid k := by
  refine ⟨.of_updateInputs hitem, fun x i' hi' hk ht => ?_⟩
  rw [Table.find?_update] at hi'
  obtain ⟨i, hi, rfl⟩ := Option.map_eq_some_iff.mp hi'
  refine ⟨i, hi, ?_⟩
  by_cases hp : p i = true
  · rw [if_pos hp] at hk ht ⊢
    exact ⟨(hitem i).symm.trans hk, (htournament i).symm,
      hteam i (db.stageItemInputs.mem_of_find? hi) hp ht, (hcached i).symm⟩
  · rw [if_neg hp] at hk ht ⊢
    exact ⟨hk, rfl, ht, rfl⟩

/-- Deleting other stage items. -/
theorem SameRanking.of_deleteStageItems {p : StageItemRow → Bool}
    (hk : ∀ i ∈ db.stageItems.rows, i.id = k → p i = false) (h : deleteStageItems db p = .ok db') :
    SameRanking db db' tid k := by
  obtain ⟨db2, h2, h⟩ := bind_eq_ok.mp h
  cases h
  have hrounds : SameRanking db (deleteRounds db fun r =>
      ((db.stageItems.rows.filter p).map (·.id)).contains r.stageItemId) tid k := by
    refine .of_deleteRounds fun r _ hin hof => ?_
    obtain ⟨i, hi, hid⟩ := List.mem_map.mp (List.contains_iff_mem.mp hin)
    obtain ⟨hi, hp⟩ := List.mem_filter.mp hi
    rw [hk i hi (hid.trans hof)] at hp
    cases hp
  have hitems : db2.stageItems = db.stageItems := by
    obtain ⟨-, rfl⟩ := deleteInputs_ok h2
    rfl
  have hforget : ∀ (d : Database) (ids : List StageItemId),
      SameRanking d (forgetStageItems d ids) tid k := fun _ _ =>
    .of_updateInputs (fun _ => rfl) (fun _ => rfl) (fun _ => rfl) fun _ _ _ h => h
  refine ((hrounds.trans (.of_deleteInputs h2)).trans (.of_deleteItems (p := p) ?_)).trans
    (hforget _ _)
  rw [hitems]
  exact hk

end Statements

/-! ## 3. A new stage item -/

section Building

variable {E : ExpectedScore} {db db' : Database} {tid : TournamentId} {k : StageItemId}

/-- Without results, everyone has the statistics that the stage item starts with. -/
theorem rankingNow_of_empty (hload : Loadable db tid) (hdb : Isolated db)
    (hresults : storedResults db k = []) {row : StageItemRow}
    (hrow : db.stageItems.find? k = some row) (ht : db.stageItemTournament k = some tid) :
    ∃ d, rankingNow E db tid k = .ok (loadStageItem db tid row, d) ∧
      ∀ x, d.getD x (initialStatistics row.type) = initialStatistics row.type := by
  obtain rfl : row.id = k := db.stageItems.key_of_find? hrow
  have hmem := db.stageItems.mem_of_find? hrow
  obtain ⟨b, hb⟩ := hdb.stageItems row hmem
  obtain rfl : b = tid := Option.some.inj
    (hb.stage.symm.trans ((Database.stageItemTournament_row hmem).symm.trans ht))
  obtain ⟨r, hr, hrid, hrt⟩ := Table.ownerAt_eq_some.mp hb.ranking
  have hranking : getRankingForStageItem db b row.id = some r := by
    have hfind : db.rankings.find? row.rankingId = some r := hrid ▸ db.rankings.find?_key hr
    rw [getRankingForStageItem, hrow, Option.bind_some, hfind]
    exact Option.filter_some_pos (by simpa using hrt)
  have hreplay : determineRankingForStageItem E (loadStageItem db b row) r =
      .ok (seatedStatistics row.type (loadStageItem db b row).seated) := by
    rw [determineRanking_eq_replay, loaded_results, hresults]
    rfl
  exact ⟨_, rankingNow_eq_ok.mpr ⟨row, r, hrow, ht, rfl, hload.item ht, hranking, hreplay⟩,
    seatedStatistics_getD _⟩

/-- A stage item without results is exact if its teams start from nothing. -/
theorem accurate_of_empty (hload : Loadable db tid) (hdb : Isolated db)
    (hresults : storedResults db k = [])
    (hseats : ∀ row, db.stageItems.find? k = some row → ∀ i ∈ db.stageItemInputs.rows,
      i.stageItemId = k → i.teamId.isSome = true → i.cached = (initialStatistics row.type).cached) :
    Accurate E db tid k := by
  intro row hrow ht _
  obtain ⟨d, hnow, hstats⟩ := rankingNow_of_empty (E := E) hload hdb hresults hrow ht
  refine statisticsExact_iff.mpr ⟨_, d, hnow, fun i hi hk _ hteam => ?_⟩
  rw [hseats row hrow i hi hk hteam]
  exact congrArg TeamStatistics.cached (hstats i.id).symm

/-- The inputs that a stage item was loaded with are in no other. -/
theorem loaded_elsewhere {d : Database} {row : StageItemRow}
    (hinputs : db.stageItemInputs = d.stageItemInputs) (hne : k ≠ row.id) :
    ∀ i ∈ (loadStageItem d tid row).inputs, ∀ irow ∈ db.stageItemInputs.rows, irow.id = i.id →
      irow.stageItemId ≠ k := by
  intro i hi irow hirow hid hk
  obtain ⟨r, hr, hof, -, rfl⟩ := mem_loaded_inputs.mp hi
  rw [hinputs] at hirow
  obtain rfl : irow = r := d.stageItemInputs.eq_of_key hirow hr hid
  exact hne (hk.symm.trans hof)

/-- The statistics that a construction stores. -/
theorem built_ranking {d db1 : Database} {item : StageItemRow} {loaded : StageItemWithRounds}
    (hloaded : getStageItem d tid item.id = .ok loaded)
    (hinputs : db1.stageItemInputs = d.stageItemInputs)
    (h : recalculateRankingForStageItem E db1 tid loaded = .ok db') :
    SameReading db1 db' tid k ∧ (k ≠ item.id → SameRanking db1 db' tid k) := by
  have hbare := bare_of_unscored (recalculateRanking_unscored h)
  obtain ⟨row, hrow, -, rfl, -⟩ := getStageItem_eq_ok.mp hloaded
  have hid : row.id = item.id := d.stageItems.key_of_find? hrow
  refine ⟨⟨by rw [(Backdrop.of_bare hbare).stageItems],
    (Backdrop.of_bare hbare).stageItemTournament k, ranking_of_bare hbare,
    storedResults_of_bare hbare⟩, fun hne => .of_stored h (loaded_elsewhere hinputs (hid ▸ hne))⟩

/-- **The construction of a stage item** adds no result. -/
theorem SameReading.buildMatches {item : StageItemRow}
    (hfree : ∀ m ∈ db.matches_.rows, m.roundId < db.rounds.next)
    (h : buildMatchesForStageItem E db item tid = .ok db') :
    SameReading db db' tid k ∧ (k ≠ item.id → SameRanking db db' tid k) := by
  obtain ⟨n, loaded, bodies, -, hloaded, hbuilt⟩ := buildMatches_ok h
  have hrounds : SameRanking db ((createNextRound tid item.id)^[n] db) tid k :=
    .createRounds hfree item.id n
  have hmatches := hrounds.trans (.createMatches _ bodies)
  rcases hbuilt with rfl | h
  · exact ⟨hmatches.toSameReading, fun _ => hmatches⟩
  · have hinputs := createMatches_project Database.stageItemInputs (fun _ _ => rfl) bodies
      ((createNextRound tid item.id)^[n] db)
    obtain ⟨hreading, hranking⟩ := built_ranking (k := k) hloaded hinputs h
    exact ⟨hmatches.toSameReading.trans hreading, fun hne => hmatches.trans (hranking hne)⟩

end Building

/-! ## 4. Requests about stage items -/

section StageItems

variable {E : ExpectedScore} {db db' : Database} {tid : TournamentId}

/-- The row and the inputs of a new stage item. -/
theorem SameRanking.newStageItem {body : StageItemCreateBody} {new : StageItemRow × Database}
    (h : sqlCreateStageItemWithEmptyInputs db tid body = .ok new) {k : StageItemId}
    (hk : k ≠ db.stageItems.next) : SameRanking db new.2 tid k := by
  obtain ⟨rankingId, -, rfl⟩ := sqlCreateStageItem_ok h
  have hinputs : ∀ (l : List Nat) (d : Database), SameRanking d (l.foldl (fun d (i : Nat) =>
      sqlCreateEmptyInput tid db.stageItems.next d (i + 1)) d) tid k := by
    intro l
    induction l with
    | nil => exact fun d => .refl d tid k
    | cons i l ih => exact fun d => (SameRanking.insertEmpty hk).trans (ih _)
  have hinsert : SameRanking db { db with
      stageItems := db.stageItems.insert (body.row rankingId) (body.key_row rankingId) } tid k :=
    .insertItem hk
  exact hinsert.trans (hinputs _ _)

/-- No other table changes. -/
theorem newStageItem_frame {body : StageItemCreateBody} {new : StageItemRow × Database}
    (h : sqlCreateStageItemWithEmptyInputs db tid body = .ok new) :
    new.1.id = db.stageItems.next ∧ new.2.matches_ = db.matches_ ∧ new.2.rounds = db.rounds := by
  obtain ⟨rankingId, -, rfl⟩ := sqlCreateStageItem_ok h
  have hmatches := foldl_project Database.matches_ (fun d (i : Nat) =>
    sqlCreateEmptyInput tid db.stageItems.next d (i + 1)) fun _ _ => rfl
  have hrounds := foldl_project Database.rounds (fun d (i : Nat) =>
    sqlCreateEmptyInput tid db.stageItems.next d (i + 1)) fun _ _ => rfl
  exact ⟨rfl, hmatches _ _, hrounds _ _⟩

/-- Nothing refers to a stage item that comes next. -/
theorem stageItem_ne_next {k : StageItemId} {b : TournamentId}
    (h : db.stageItemTournament k = some b) : k ≠ db.stageItems.next := by
  obtain ⟨row, -, hrow, -⟩ := stageItemTournament_eq_some.mp h
  rintro rfl
  rw [Table.find?_next] at hrow
  cases hrow

theorem Refreshed.createStageItem {body : StageItemCreateBody} (hdb : Isolated db)
    (hdb' : Isolated db') (hload' : Loadable db' tid)
    (hcall : createStageItem E db tid body = .ok db') : Refreshed E db db' tid := by
  have hseats := createStageItem_seats hcall
  obtain ⟨e⟩ := createStageItem_ok hcall
  obtain ⟨hid, hmatches, hrounds⟩ := newStageItem_frame e.created
  have hplan : ∀ k, SameRanking e.built db' tid k := fun _ =>
    .of_untimed (scheduleAllMatches_untimed e.planning)
  have hbuild : ∀ k, SameReading e.new.2 e.built tid k ∧
      (k ≠ e.new.1.id → SameRanking e.new.2 e.built tid k) :=
    fun k => SameReading.buildMatches (by rw [hmatches, hrounds]; exact hdb.round_lt) e.building
  refine ⟨fun k => ?_, hload'⟩
  by_cases hk : k = db.stageItems.next
  · -- the new stage item has no results, and no team has entered it
    subst hk
    refine Or.inr (accurate_of_empty hload' hdb' ?_ fun row _ i hi hof hteam => ?_)
    · rw [(hplan _).results, (hbuild _).1.results, storedResults_eq, hrounds]
      refine List.flatMap_eq_nil_iff.mpr fun r hr => if_neg fun hof => ?_
      obtain ⟨b, hb⟩ := hdb.rounds r hr
      exact stageItem_ne_next hb hof.1
    · obtain ⟨j, hj, hofj, -⟩ := hseats.seat hi hteam
      obtain ⟨b, hb⟩ := hdb.inputs j hj
      exact absurd (hofj.trans hof) (stageItem_ne_next hb.stageItem)
  · have hrow := (SameRanking.newStageItem e.created hk).trans ((hbuild k).2 (hid ▸ hk))
    exact Or.inl (hrow.trans (hplan k))

/-- A name is not read. -/
theorem SameRanking.rename (j : StageItemId) (name : String) (k : StageItemId) :
    SameRanking db (sqlUpdateStageItemName db j name) tid k := by
  have hbind : ∀ {α : Type} (f : StageItemRow → Option α), (∀ i, f { i with name := name } = f i) →
      ((sqlUpdateStageItemName db j name).stageItems.find? k).bind f =
        (db.stageItems.find? k).bind f := by
    intro α f hf
    rw [sqlUpdateStageItemName, Table.find?_update]
    cases db.stageItems.find? k with
    | none => rfl
    | some i =>
      rw [Option.map_some, Option.bind_some, Option.bind_some]
      split
      · exact hf i
      · rfl
  refine .of_tables ?_ (hbind _ fun _ => rfl)
    (congrArg _ (hbind (fun i => db.rankings.find? i.rankingId) fun _ => rfl)) rfl rfl rfl
  rw [Option.map_eq_bind, Option.map_eq_bind]
  exact hbind _ fun _ => rfl

theorem Refreshed.updateStageItem {k : StageItemId} {body : StageItemUpdateBody}
    (hU : TeamsOnce db) (hload : Loadable db tid)
    (hcall : updateStageItem E db tid k body = .ok db') : Refreshed E db db' tid := by
  obtain ⟨⟨item, -, hitem, ⟨db1, h1, hpropagation⟩⟩⟩ := updateStageItem_ok hcall
  obtain ⟨row, hrow, htour, rfl, hvalid⟩ := getStageItem_eq_ok.mp hitem
  let renamed := sqlUpdateStageItemName db row.id body.name
  have hrename : ∀ j, SameRanking db renamed tid j := .rename row.id body.name
  have hloadr : Loadable renamed tid := by
    refine ⟨fun i hi ht => hload.filed i hi ?_, hload.valid⟩
    rwa [(hrename i.stageItemId).tournament] at ht
  have hrowr : renamed.stageItems.find? k = some { row with name := body.name } := by
    have hid : row.id = k := db.stageItems.key_of_find? hrow
    show (sqlUpdateStageItemName db row.id body.name).stageItems.find? k = _
    rw [sqlUpdateStageItemName, Table.find?_update, hrow, Option.map_some, if_pos (beq_self_eq_true _)]
  have hitemr := hloadr.getStageItem hrowr ((hrename k).tournament.trans htour)
  have hstored : recalculateRankingForStageItem E renamed tid
      (loadStageItem renamed tid { row with name := body.name }) = .ok db1 := h1
  have hbare : db1.bare = renamed.bare := bare_of_unscored (recalculateRanking_unscored h1)
  have hbackdrop := Backdrop.of_bare hbare
  have hrefreshed : Refreshed E db db1 tid := (Refreshed.of_same hrename hloadr).trans
    (.of_recalculated hU hloadr (.refl renamed tid k) hitemr hstored rfl)
  split at hpropagation
  · next htype =>
    have hrounds : db1.rounds = db.rounds := by
      have hall : db1.bare.rounds = renamed.bare.rounds := by rw [hbare]
      exact hall
    have hmoved : Elsewhere db1 db' tid row.id :=
      .of_completed (fun r hr m hm => loaded_roundItem hrounds hr hm) hpropagation
    refine hrefreshed.trans (.of_elsewhere hmoved hrefreshed.loadable
      fun row' hrow' _ hne => absurd ?_ hne)
    obtain rfl : row.id = k := db.stageItems.key_of_find? hrow
    rw [hmoved.backdrop.stageItems, hbackdrop.stageItems, hrowr] at hrow'
    cases hrow'
    exact htype
  · exact Except.ok.inj hpropagation ▸ hrefreshed

theorem SameRanking.deleteStageItem {j k : StageItemId} (hk : k ≠ j)
    (h : sqlDeleteStageItemWithForeignKeys db j = .ok db') : SameRanking db db' tid k := by
  obtain ⟨db1, h1, h⟩ := bind_eq_ok.mp h
  have hmatches : SameRanking db (sqlDeleteMatchesForStageItemId db j) tid k := by
    refine .of_matches fun r hr hof => roundResults_delete fun m _ hm hid => ?_
    have hfind : db.rounds.find? r.id = some r := db.rounds.find?_key hr
    rw [hid, hfind, Option.any_some] at hm
    exact hk (hof.symm.trans (eq_of_beq hm))
  have hrounds : SameRanking db1 (sqlDeleteRoundsForStageItemId db1 j) tid k :=
    .of_deleteRounds fun r _ hr hof => hk (hof.symm.trans (eq_of_beq hr))
  refine ((hmatches.trans (.of_deleteInputs h1)).trans hrounds).trans
    (.of_deleteStageItems (fun i _ hi => beq_eq_false_iff_ne.mpr fun hij => ?_) h)
  exact hk (hi.symm.trans hij)

theorem Refreshed.deleteStageItem {k : StageItemId} (hload' : Loadable db' tid)
    (hcall : deleteStageItem db tid k = .ok db') : Refreshed E db db' tid := by
  obtain ⟨e⟩ := deleteStageItem_ok hcall
  have hplan := scheduleAllMatches_untimed e.planning
  refine ⟨fun j => ?_, hload'⟩
  by_cases hj : j = k
  · -- it is gone
    refine Or.inr fun row hrow => ?_
    have hitems : db'.untimed.stageItems = e.deleted.untimed.stageItems := by rw [hplan]
    have hitems : db'.stageItems = e.deleted.stageItems := hitems
    obtain ⟨db2, -, h1⟩ := bind_eq_ok.mp e.deletion
    rw [hitems, (deleteStageItems_ok h1).2.2, Table.find?_delete] at hrow
    obtain ⟨hrow, hkept⟩ := Option.filter_eq_some_iff.mp hrow
    have hid := Table.key_of_find? _ hrow
    rw [Bool.not_eq_true', beq_eq_false_iff_ne] at hkept
    exact absurd (Eq.trans hid hj) hkept
  · exact Or.inl ((SameRanking.deleteStageItem hj e.deletion).trans (.of_untimed hplan))

end StageItems

/-! ## 5. What no ranking reads -/

/-- The tables that the rankings are computed from. -/
def Database.ranked (db : Database) : Database :=
  { db with tournaments := .empty, teams := .empty, players := .empty, playersXTeams := .empty }

section Unread

variable {E : ExpectedScore} {db db' : Database} {tid : TournamentId}

theorem SameRanking.of_ranked (h : db'.ranked = db.ranked) (k : StageItemId) :
    SameRanking db db' tid k := by
  have hreads : SameRanking db.ranked db'.ranked tid k := h ▸ .refl _ tid k
  exact ⟨⟨hreads.item, hreads.tournament, hreads.ranking, hreads.results⟩, hreads.seats⟩

/-- Other stages. -/
theorem SameRanking.of_stages {t : Table StageRow} (h : ∀ i ∈ db.stageItems.rows,
    t.find? i.stageId = db.stages.find? i.stageId) (k : StageItemId) :
    SameRanking db { db with stages := t } tid k := by
  refine .of_tables rfl ?_ rfl rfl rfl rfl
  unfold Database.stageItemTournament
  dsimp only
  cases hi : db.stageItems.find? k with
  | none => rfl
  | some i =>
    rw [Option.bind_some, Option.bind_some, h i (db.stageItems.mem_of_find? hi)]

/-- Other rankings. -/
theorem SameRanking.of_rankings {t : Table RankingRow} (h : ∀ i ∈ db.stageItems.rows,
    t.find? i.rankingId = db.rankings.find? i.rankingId) (k : StageItemId) :
    SameRanking db { db with rankings := t } tid k := by
  refine .of_tables rfl rfl ?_ rfl rfl rfl
  unfold getRankingForStageItem
  dsimp only
  cases hi : db.stageItems.find? k with
  | none => rfl
  | some i =>
    rw [Option.bind_some, Option.bind_some, h i (db.stageItems.mem_of_find? hi)]

theorem updateStage_same {j : StageId} {body : StageUpdateBody} (k : StageItemId)
    (hcall : updateStage db tid j body = .ok db') : SameRanking db db' tid k := by
  have hupdate : SameRanking db (sqlUpdateStage db tid j body) tid k := by
    refine .of_tables rfl ?_ rfl rfl rfl rfl
    unfold Database.stageItemTournament sqlUpdateStage
    dsimp only
    refine Option.bind_congr fun i _ => ?_
    rw [Table.find?_update, Option.map_map]
    refine Option.map_congr fun s _ => ?_
    rw [Function.comp]
    split <;> rfl
  obtain ⟨stage, -, -, ⟨-, rfl⟩ | hplanned⟩ := updateStage_ok hcall
  · exact hupdate
  · exact hupdate.trans (.of_untimed (scheduleAllMatches_untimed hplanned))

theorem createStage_same (hdb : Isolated db) (k : StageItemId)
    (hcall : createStage db tid = .ok db') : SameRanking db db' tid k := by
  obtain ⟨-, -, rfl⟩ := createStage_ok hcall
  refine .of_stages (fun i hi => Table.find?_insert_of_ne _ fun hnext => ?_) k
  obtain ⟨b, hb⟩ := hdb.stageItems i hi
  obtain ⟨s, hs, hid, -⟩ := Table.ownerAt_eq_some.mp hb.stage
  have hlt := db.stages.below s hs
  omega

theorem deleteStage_same {j : StageId} (k : StageItemId)
    (hcall : deleteStage db tid j = .ok db') : SameRanking db db' tid k := by
  obtain ⟨hempty, rfl⟩ := deleteStage_eq hcall
  refine .of_stages (fun i hi => ?_) k
  rw [Table.find?_delete]
  cases hs : db.stages.find? i.stageId with
  | none => rfl
  | some s =>
    have hid : s.id = i.stageId := db.stages.key_of_find? hs
    refine Option.filter_some_pos ?_
    rw [hid, beq_eq_false_iff_ne.mpr (hempty i hi), Bool.false_and]
    rfl

theorem createRanking_same (hdb : Isolated db) {body : RankingCreateBody} (k : StageItemId)
    (hcall : createRanking db tid body = .ok db') : SameRanking db db' tid k := by
  obtain ⟨-, -, rfl⟩ := createRanking_ok hcall
  refine .of_rankings (fun i hi => Table.find?_insert_of_ne _ fun hnext => ?_) k
  obtain ⟨b, hb⟩ := hdb.stageItems i hi
  obtain ⟨r, hr, hid, -⟩ := Table.ownerAt_eq_some.mp hb.ranking
  have hlt := db.rankings.below r hr
  omega

/-- The rankings that are used stay. -/
theorem deleteRanking_same (hdb : Isolated db) (hdb' : Isolated db') {j : RankingId}
    (k : StageItemId) (hcall : deleteRanking db tid j = .ok db') : SameRanking db db' tid k := by
  obtain rfl := deleteRanking_eq hdb hcall
  refine .of_rankings (fun i hi => ?_) k
  obtain ⟨b, hb⟩ := hdb'.stageItems i hi
  obtain ⟨r, hr, hid, -⟩ := Table.ownerAt_eq_some.mp hb.ranking
  obtain ⟨hr0, -⟩ := Table.mem_delete _ |>.mp hr
  have hfind := Table.find?_key _ hr
  have hfind0 := db.rankings.find?_key hr0
  rw [hid] at hfind hfind0
  rw [hfind0]
  exact hfind

theorem updateTeamMembers_ranked {teamId : TeamId} {playerIds : List PlayerId}
    (hcall : updateTeamMembers db teamId tid playerIds = .ok db') : db'.ranked = db.ranked := by
  obtain ⟨team, -, rfl⟩ := updateTeamMembers_ok hcall
  exact foldl_project Database.ranked (fun db p => insertMember db teamId p) (fun _ _ => rfl) _ _

/-- **The requests about the tournament, its teams and its players.** -/
theorem Request.ranked {env : Environment} {r : Request} (hcall : r.handle env db tid = .ok db')
    (hr : match r with
      | .changeStatus _ | .uploadLogo _ | .createTeam _ | .createMultipleTeams _ _
      | .updateTeamById _ _ | .updateTeamLogo _ _ | .deleteTeam _ | .createSinglePlayer _
      | .createMultiplePlayers _ _ | .updatePlayerById _ _ | .deletePlayer _ => True
      | _ => False) : db'.ranked = db.ranked := by
  cases r with
  | changeStatus status =>
    obtain ⟨-, rfl⟩ := changeStatus_ok hcall
    rfl
  | uploadLogo filename =>
    obtain ⟨-, rfl⟩ := uploadLogo_ok hcall
    rfl
  | createTeam body =>
    obtain ⟨-, -, -, hcall⟩ := createTeam_ok hcall
    have hranked := updateTeamMembers_ranked hcall
    exact hranked
  | createMultipleTeams teamsWithPlayers active =>
    obtain ⟨-, -, -, rfl⟩ := createMultipleTeams_ok hcall
    exact foldl_project Database.ranked (createTeamWithPlayers env.now tid active)
      (createTeamWithPlayers_project Database.ranked (fun _ _ => rfl) fun _ _ _ => rfl) _ _
  | updateTeamById k body =>
    obtain ⟨team, -, -, -, hcall⟩ := updateTeamById_ok hcall
    have hranked := updateTeamMembers_ranked hcall
    exact hranked
  | updateTeamLogo k filename =>
    obtain ⟨team, -, -, rfl⟩ := updateTeamLogo_ok hcall
    rfl
  | deleteTeam k =>
    obtain ⟨-, -, hcall⟩ := deleteTeam_ok hcall
    obtain ⟨-, rfl⟩ := deleteTeams_ok hcall
    rfl
  | createSinglePlayer body =>
    obtain ⟨-, -, rfl⟩ := createSinglePlayer_ok hcall
    rfl
  | createMultiplePlayers playerNames active =>
    obtain ⟨-, -, rfl⟩ := createMultiplePlayers_ok hcall
    exact foldl_project Database.ranked
      (fun d name => (insertPlayer d env.now ⟨name, active⟩ tid).2) (fun _ _ => rfl) _ _
  | updatePlayerById k body =>
    obtain ⟨-, -, rfl⟩ := updatePlayerById_ok hcall
    rfl
  | deletePlayer k =>
    obtain ⟨-, rfl⟩ := deletePlayer_ok hcall
    rfl
  | _ => cases hr

end Unread

end Brackets
