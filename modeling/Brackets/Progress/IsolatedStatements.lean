/-
  File:      Brackets/Progress/IsolatedStatements.lean
  Subject:   Statements keep to the tournament they are made for.

  Each statement, and each loop over statements, changes rows of one tournament if the ids it is
  given are of that tournament (`Grows`; `Confined` where it deletes). Where an id comes from a
  load of the tournament nothing is left to check: `Match.BelongsTo` is what a load of matches
  gives.
-/
import Brackets.Planning.Timeline
import Brackets.Progress.Isolation
import Brackets.Ranking.Elimination

namespace Brackets

open Library

/-! ## 1. Loads of a tournament in an isolated database -/

/-- A match of the tournament whose inputs are too. -/
structure Match.BelongsTo (db : Database) (tid : TournamentId) (m : Match) : Prop where
  own : db.matchTournament m.id = some tid
  inputId : ∀ side k, m.inputId side = some k → db.inputTournament k = some tid
  input : ∀ side i, m.input side = some i → db.inputTournament i.id = some tid

theorem Keeps.belongsTo {db db' : Database} {tid : TournamentId} (h : Keeps db db') {m : Match}
    (hm : m.BelongsTo db tid) : m.BelongsTo db' tid :=
  ⟨h.match_ _ _ hm.own, fun side k hk => h.input _ _ (hm.inputId side k hk),
    fun side i hi => h.input _ _ (hm.input side i hi)⟩

/-- What a new match refers to. -/
structure MatchCreateBody.Within (db : Database) (tid : TournamentId) (body : MatchCreateBody) :
    Prop where
  round : db.roundTournament body.roundId = some tid
  input1 : ∀ k, body.stageItemInput1Id = some k → db.inputTournament k = some tid
  input2 : ∀ k, body.stageItemInput2Id = some k → db.inputTournament k = some tid
  source1 : ∀ k, body.stageItemInput1WinnerFromMatchId = some k → db.matchTournament k = some tid
  source2 : ∀ k, body.stageItemInput2WinnerFromMatchId = some k → db.matchTournament k = some tid

theorem Keeps.body {db db' : Database} {tid : TournamentId} (h : Keeps db db')
    {b : MatchCreateBody} (hb : b.Within db tid) : b.Within db' tid :=
  ⟨h.round _ _ hb.round, fun k hk => h.input _ _ (hb.input1 k hk),
    fun k hk => h.input _ _ (hb.input2 k hk), fun k hk => h.match_ _ _ (hb.source1 k hk),
    fun k hk => h.match_ _ _ (hb.source2 k hk)⟩

theorem within_of_inputs {db : Database} {tid : TournamentId} {r : RoundId}
    {i1 i2 : StageItemInputId} {duration margin : Int} (hr : db.roundTournament r = some tid)
    (h1 : db.inputTournament i1 = some tid) (h2 : db.inputTournament i2 = some tid) :
    MatchCreateBody.Within db tid
      { roundId := r
        stageItemInput1Id := some i1
        stageItemInput2Id := some i2
        durationMinutes := duration
        marginMinutes := margin } where
  round := hr
  input1 _ hk := Option.some.inj hk ▸ h1
  input2 _ hk := Option.some.inj hk ▸ h2
  source1 _ hk := nomatch hk
  source2 _ hk := nomatch hk

theorem within_of_sources {db : Database} {tid : TournamentId} {r : RoundId} {m1 m2 : MatchId}
    {duration margin : Int} (hr : db.roundTournament r = some tid)
    (h1 : db.matchTournament m1 = some tid) (h2 : db.matchTournament m2 = some tid) :
    MatchCreateBody.Within db tid
      { roundId := r
        stageItemInput1WinnerFromMatchId := some m1
        stageItemInput2WinnerFromMatchId := some m2
        durationMinutes := duration
        marginMinutes := margin } where
  round := hr
  input1 _ hk := nomatch hk
  input2 _ hk := nomatch hk
  source1 _ hk := Option.some.inj hk ▸ h1
  source2 _ hk := Option.some.inj hk ▸ h2

section Loads

variable {db : Database} {tid : TournamentId} (hdb : Isolated db)

include hdb

/-- A match row of the tournament with any inputs of the tournament joined. -/
theorem Isolated.belongsTo {row : MatchRow} (hrow : row ∈ db.matches_.rows)
    (ht : db.roundTournament row.roundId = some tid) {inputs : List StageItemInput}
    (hinputs : ∀ i ∈ inputs, db.inputTournament i.id = some tid) :
    (matchWithInputs inputs row).BelongsTo db tid where
  own := Table.ownerAt_eq_some.mpr ⟨row, hrow, rfl, ht⟩
  inputId := (hdb.match_within hrow ht).input
  input side i hi := by
    rw [matchWithInputs_input] at hi
    obtain ⟨k, -, hf⟩ := Option.bind_eq_some_iff.mp hi
    exact hinputs i (List.mem_of_find?_eq_some hf)

theorem Isolated.loaded_input {f : DetailsFilter} {i : StageItemInput}
    (hi : i ∈ inputsWithTeams db tid f) : db.inputTournament i.id = some tid := by
  obtain ⟨row, hrow, rfl⟩ := List.mem_map.mp hi
  rw [List.mem_filter, Bool.and_eq_true, beq_iff_eq] at hrow
  exact hdb.inputTournament hrow.1 hrow.2.1

theorem Isolated.item_input {k : StageItemId} (ht : db.stageItemTournament k = some tid)
    {i : StageItemInput} (hi : i ∈ itemInputs db k) : db.inputTournament i.id = some tid := by
  rw [← inputsWithTeams_item ht] at hi
  exact hdb.loaded_input hi

theorem Isolated.tournament_match {m : Match}
    (hm : m ∈ tournamentMatches (fullTournamentDetails db tid {})) : m.BelongsTo db tid := by
  obtain ⟨row, hrow, ht, rfl⟩ := mem_tournamentMatches_iff.mp hm
  exact hdb.belongsTo hrow ht fun i hi => hdb.loaded_input hi

theorem Isolated.item_match {item : StageItemRow} (ht : db.stageItemTournament item.id = some tid)
    {r : RoundWithMatches} (hr : r ∈ (loadStageItem db tid item).rounds) {m : Match}
    (hm : m ∈ r.matches_) : m.BelongsTo db tid := by
  obtain ⟨row, hrow, hitem, rfl⟩ := mem_loaded_rounds.mp hr
  obtain ⟨mrow, hmrow, hround, rfl⟩ := mem_roundWithMatches.mp hm
  refine hdb.belongsTo hmrow ?_ fun i hi => hdb.item_input ht hi
  rw [hround, Database.roundTournament_row hrow, hitem, ht]

end Loads

/-! ## 2. Matches -/

section Matches

variable {db : Database} {tid : TournamentId} (hdb : Isolated db)

include hdb

/-- An UPDATE of matches of the tournament whose references stay in it. -/
theorem Grows.updateMatches {p : MatchRow → Bool} {f : MatchRow → MatchRow}
    {hf : ∀ m, key (f m) = key m}
    (h : ∀ m ∈ db.matches_.rows, p m = true → db.roundTournament m.roundId = some tid ∧
      (m.Within db tid → (f m).Within db tid)) :
    Grows tid db { db with matches_ := db.matches_.update p f hf } :=
  .matches_ hdb (.update fun m hm hp => by
    obtain ⟨ht, hw⟩ := h m hm hp
    have hw := hw (hdb.match_within hm ht)
    exact ⟨ht, hw.round, hw⟩)

theorem Grows.sqlUpdateMatch {k : MatchId} {body : MatchBody}
    (hk : db.matchTournament k = some tid) (hr : db.roundTournament body.roundId = some tid) :
    Grows tid db (sqlUpdateMatch db k body) :=
  .updateMatches hdb fun _ hm hp =>
    ⟨by rw [← Database.matchTournament_row hm, eq_of_beq hp, hk],
      fun hw => ⟨hr, hw.input, hw.source⟩⟩

theorem Grows.sqlSetConflict {k : MatchId} {flags : Bool × Bool}
    (hk : db.matchTournament k = some tid) : Grows tid db (sqlSetConflict db k flags) :=
  .updateMatches hdb fun _ hm hp =>
    ⟨by rw [← Database.matchTournament_row hm, eq_of_beq hp, hk],
      fun hw => ⟨hw.round, hw.input, hw.source⟩⟩

theorem Grows.setInputIds {m : Match} (hm : m.BelongsTo db tid) :
    Grows tid db (setInputIds db m) :=
  .updateMatches hdb fun row hrow hp => by
    rw [Bool.and_eq_true, beq_iff_eq, beq_iff_eq] at hp
    refine ⟨?_, fun hw => ⟨hw.round, fun side => ?_, hw.source⟩⟩
    · rw [← Database.matchTournament_row hrow, hp.2, hm.own]
    · cases side with
      | one => exact hm.inputId .one
      | two => exact hm.inputId .two

theorem Grows.clearScores (k : StageItemId) :
    Grows tid db (clearScoresForMatchesInStageItem db tid k) :=
  .updateMatches hdb fun m _ hp => by
    obtain ⟨r, hr, hp⟩ := (Option.any_eq_true _ _).mp hp
    rw [Bool.and_eq_true, beq_iff_eq, beq_iff_eq] at hp
    refine ⟨?_, fun hw => ⟨hw.round, hw.input, hw.source⟩⟩
    rw [Database.roundTournament, hr, Option.bind_some, hp.2]

theorem Grows.sqlCreateMatch {body : MatchCreateBody} (hb : body.Within db tid) :
    Grows tid db (sqlCreateMatch db body).2 :=
  .matches_ hdb (.insert ⟨hb.round, hb.round, fun side => by
      cases side with
      | one => exact hb.input1
      | two => exact hb.input2, fun side => by
      cases side with
      | one => exact hb.source1
      | two => exact hb.source2⟩)

end Matches

/-! ## 3. Planning -/

theorem mem_of_filterM {α : Type} {p : α → Outcome Bool} {l l' : List α}
    (h : l.filterM p = .ok l') : ∀ a ∈ l', a ∈ l := by
  obtain ⟨q, -, rfl⟩ := filterM_eq_ok h
  exact fun a ha => (List.mem_filter.mp ha).1

/-- The planner gives times to the loaded matches. -/
theorem planned_match {stages : List StageWithStageItems} (hD : DistinctIds stages)
    {tournament : TournamentRow} {t : MatchTiming} (ht : t ∈ timetable tournament stages) :
    ∃ m ∈ tournamentMatches stages, m.id = t.matchId := by
  obtain ⟨s, i, r, m, hL, rfl⟩ :=
    mem_timeline.mp ((timetable_perm tournament hD).mem_iff.mp ht)
  exact ⟨m, mem_tournamentMatches.mpr ⟨s, i, r, hL⟩, rfl⟩

theorem compareMatches_keys {c : Conflicts} {pair : Match × Match} {k : MatchId}
    (h : k ∈ (compareMatches c pair).toSet.keys) :
    k ∈ c.toSet.keys ∨ k = pair.1.id ∨ k = pair.2.id := by
  unfold compareMatches at h
  dsimp only at h
  split at h
  · exact Or.inl h
  · split at h
    · exact Or.inl h
    · split at h
      · rcases (Dict.mem_keys_set _ _ _ _).mp h with h | rfl
        · rcases (Dict.mem_keys_set _ _ _ _).mp h with h | rfl
          · exact Or.inl h
          · exact Or.inr (Or.inl rfl)
        · exact Or.inr (Or.inr rfl)
      · exact Or.inl h

/-- The conflict search names loaded matches. -/
theorem getConflictingMatches_ids {stages : List StageWithStageItems}
    {found : Dict MatchId (Bool × Bool) × List MatchId}
    (h : getConflictingMatches stages = .ok found) {k : MatchId}
    (hk : k ∈ found.1.keys ∨ k ∈ found.2) : ∃ m ∈ tournamentMatches stages, m.id = k := by
  have hmem : ∀ m ∈ definitiveMatches stages, m ∈ tournamentMatches stages := fun m hm =>
    (List.mem_filter.mp hm).1
  have run : ∀ (l : List (Match × Match)) (c : Conflicts),
      (∀ p ∈ l, p.1 ∈ definitiveMatches stages ∧ p.2 ∈ definitiveMatches stages) →
      k ∈ (l.foldl compareMatches c).toSet.keys →
        k ∈ c.toSet.keys ∨ ∃ m ∈ tournamentMatches stages, m.id = k := by
    intro l
    induction l with
    | nil => exact fun c _ hk => Or.inl hk
    | cons p l ih =>
      intro c hl hk
      rcases ih _ (fun q hq => hl q (List.mem_cons_of_mem _ hq)) hk with hk | hk
      · obtain ⟨h1, h2⟩ := hl p List.mem_cons_self
        rcases compareMatches_keys hk with hk | rfl | rfl
        · exact Or.inl hk
        · exact Or.inr ⟨p.1, hmem _ h1, rfl⟩
        · exact Or.inr ⟨p.2, hmem _ h2, rfl⟩
      · exact Or.inr hk
  unfold getConflictingMatches at h
  dsimp only at h
  split at h
  · cases h
  · cases h
    rcases hk with hk | hk
    · rcases run _ _ (fun p hp => mem_of_mem_pairsInOrder hp) hk with hk | hk
      · exact absurd hk List.not_mem_nil
      · exact hk
    · obtain ⟨m, hm, rfl⟩ := List.mem_map.mp (List.mem_filter.mp hk).1
      exact ⟨m, hmem m hm, rfl⟩

section Planning

variable {db : Database} {tid : TournamentId} (hdb : Isolated db)

include hdb

theorem Grows.sqlUpdateMatchTimings {timings : List MatchTiming}
    (h : ∀ t ∈ timings, db.matchTournament t.matchId = some tid) :
    Grows tid db (sqlUpdateMatchTimings db timings) :=
  .foldl (P := fun (db : Database) (t : MatchTiming) => db.matchTournament t.matchId = some tid)
    (fun _ _ _ hk ht => hk.match_ _ _ ht)
    (fun _ _ hdb ht => by
      refine .updateMatches hdb fun _ hm hp => ⟨?_, fun hw => ⟨hw.round, hw.input, hw.source⟩⟩
      rw [← Database.matchTournament_row hm, eq_of_beq hp, ht]) hdb h

theorem Grows.handleConflicts {db' : Database} {stages : List StageWithStageItems}
    (hstages : ∀ m ∈ tournamentMatches stages, db.matchTournament m.id = some tid)
    (h : handleConflicts db stages = .ok db') : Grows tid db db' := by
  obtain ⟨⟨toSet, toClear⟩, hfound, h⟩ := bind_eq_ok.mp h
  cases h
  have hids : ∀ k, k ∈ toSet.keys ∨ k ∈ toClear → db.matchTournament k = some tid := by
    intro k hk
    obtain ⟨m, hm, rfl⟩ := getConflictingMatches_ids hfound hk
    exact hstages m hm
  have hset : Grows tid db (toSet.entries.foldl (fun db e => Brackets.sqlSetConflict db e.1 e.2) db) :=
    .foldl (P := fun (db : Database) (e : MatchId × Bool × Bool) => db.matchTournament e.1 = some tid)
      (fun _ _ _ hk he => hk.match_ _ _ he) (fun _ _ hdb he => .sqlSetConflict hdb he) hdb
      fun e he => hids e.1 (Or.inl (List.mem_map_of_mem he))
  exact hset.trans (.foldl (P := fun (db : Database) (k : MatchId) => db.matchTournament k = some tid)
    (fun _ _ _ hk he => hk.match_ _ _ he) (fun _ _ hdb he => .sqlSetConflict hdb he)
    hset.isolated fun k hk => hset.keeps.match_ _ _ (hids k (Or.inr hk)))

theorem Grows.scheduleAllMatches {db' : Database} (h : scheduleAllMatches db tid = .ok db') :
    Grows tid db db' := by
  obtain ⟨tournament, -, h⟩ := bind_eq_ok.mp h
  obtain ⟨stages, hstages, h⟩ := bind_eq_ok.mp h
  obtain rfl := getFullTournamentDetails_ok hstages
  obtain ⟨timings, htimings, h⟩ := bind_eq_ok.mp h
  obtain rfl := planMatchTimings_ok (fullTournamentDetails_distinctIds ⟨rfl, rfl⟩) htimings
  obtain ⟨changed, hchanged, h⟩ := bind_eq_ok.mp h
  split at h
  · cases h
    exact .refl tid hdb
  · obtain ⟨stages, hstages, h⟩ := bind_eq_ok.mp h
    obtain rfl := getFullTournamentDetails_ok hstages
    have htimes : Grows tid db (Brackets.sqlUpdateMatchTimings db changed) := by
      refine .sqlUpdateMatchTimings hdb fun t ht => ?_
      obtain ⟨m, hm, hid⟩ := planned_match (fullTournamentDetails_distinctIds ⟨rfl, rfl⟩)
        (mem_of_filterM hchanged t ht)
      rw [← hid]
      exact (hdb.tournament_match hm).own
    exact htimes.trans (.handleConflicts htimes.isolated
      (fun m hm => (htimes.isolated.tournament_match hm).own) h)

end Planning

/-! ## 4. Inputs, standings and brackets -/

section Inputs

variable {db : Database} {tid : TournamentId} (hdb : Isolated db)

include hdb

/-- An UPDATE of inputs of the tournament whose references stay in it. -/
theorem Grows.updateInputs {p : StageItemInputRow → Bool} {f : StageItemInputRow → StageItemInputRow}
    {hf : ∀ i, key (f i) = key i}
    (h : ∀ i ∈ db.stageItemInputs.rows, p i = true → i.tournamentId = tid ∧
      (i.Within db tid → (f i).Within db tid)) :
    Grows tid db { db with stageItemInputs := db.stageItemInputs.update p f hf } :=
  .inputs hdb (.update fun i hi hp => by
    obtain ⟨ht, hw⟩ := h i hi hp
    have hw := hw (hdb.input_within hi ht)
    exact ⟨congrArg some ht, congrArg some hw.own, hw⟩)

theorem Grows.updateTeamStats (k : StageItemInputId) (s : TeamStatistics) :
    Grows tid db (updateTeamStats db tid k s) :=
  .updateInputs hdb fun _ _ hp => by
    rw [Bool.and_eq_true, beq_iff_eq] at hp
    exact ⟨hp.1, fun hw => ⟨hw.own, hw.stageItem, hw.source, hw.team⟩⟩

theorem Grows.recalculateRanking {E : ExpectedScore} {item : StageItemWithRounds} {db' : Database}
    (h : recalculateRankingForStageItem E db tid item = .ok db') : Grows tid db db' := by
  obtain ⟨ranking, -, h⟩ := bind_eq_ok.mp h
  obtain ⟨elo, -, h⟩ := bind_eq_ok.mp h
  cases h
  exact .foldl (P := fun _ _ => True) (fun _ _ _ _ h => h)
    (fun _ k hdb _ => .updateTeamStats hdb k _) hdb fun _ _ => trivial

theorem Grows.setTeamId {k : StageItemInputId} {teamId : Option TeamId}
    (hteam : ∀ t, teamId = some t → db.teamTournament t = some tid) :
    Grows tid db (setTeamId db tid k teamId) :=
  .updateInputs hdb fun _ _ hp => by
    rw [Bool.and_eq_true, beq_iff_eq] at hp
    exact ⟨hp.1, fun hw => ⟨hw.own, hw.stageItem, hw.source, hteam⟩⟩

theorem Grows.sqlSetTeamId {k : StageItemInputId} {teamId : Option TeamId} {db' : Database}
    (hteam : ∀ t, teamId = some t → db.teamTournament t = some tid)
    (h : sqlSetTeamIdForStageItemInput db tid k teamId = .ok db') : Grows tid db db' := by
  unfold sqlSetTeamIdForStageItemInput at h
  dsimp only at h
  split at h
  · cases h
    exact .setTeamId hdb hteam
  · cases h

theorem Grows.sqlUpdateStageItemInput {k : StageItemInputId} {teamId : Option TeamId}
    {winnerFrom : Option StageItemId} {winnerPosition : Option Int}
    (hteam : ∀ t, teamId = some t → db.teamTournament t = some tid)
    (hsource : ∀ s, winnerFrom = some s → db.stageItemTournament s = some tid) :
    Grows tid db (sqlUpdateStageItemInput db tid k teamId winnerFrom winnerPosition) :=
  .updateInputs hdb fun _ _ hp => by
    rw [Bool.and_eq_true, beq_iff_eq, beq_iff_eq] at hp
    exact ⟨hp.2, fun hw => ⟨hw.own, hw.stageItem, hsource, hteam⟩⟩

end Inputs

/-- A stage item of the tournament with all that is loaded with it. -/
structure StageItemWithRounds.BelongsTo (db : Database) (tid : TournamentId)
    (item : StageItemWithRounds) : Prop where
  own : db.stageItemTournament item.id = some tid
  rounds : ∀ r ∈ item.rounds, db.roundTournament r.id = some tid
  matches_ : ∀ r ∈ item.rounds, ∀ m ∈ r.matches_, m.BelongsTo db tid
  inputs : ∀ i ∈ item.inputs, db.inputTournament i.id = some tid

theorem Keeps.item {db db' : Database} {tid : TournamentId} (h : Keeps db db')
    {item : StageItemWithRounds} (hitem : item.BelongsTo db tid) : item.BelongsTo db' tid :=
  ⟨h.stageItem _ _ hitem.own, fun r hr => h.round _ _ (hitem.rounds r hr),
    fun r hr m hm => h.belongsTo (hitem.matches_ r hr m hm),
    fun i hi => h.input _ _ (hitem.inputs i hi)⟩

theorem Isolated.stageItem {db : Database} {tid : TournamentId} (hdb : Isolated db)
    {k : StageItemId} {item : StageItemWithRounds} (h : getStageItem db tid k = .ok item) :
    item.BelongsTo db tid := by
  obtain ⟨row, hrow, ht, rfl, -⟩ := getStageItem_eq_ok.mp h
  have hid : row.id = k := db.stageItems.key_of_find? hrow
  rw [← hid] at ht
  refine ⟨ht, fun r hr => ?_, fun r hr m hm => hdb.item_match ht hr hm, fun i hi => ?_⟩
  · obtain ⟨rrow, hrrow, hitem, rfl⟩ := mem_loaded_rounds.mp hr
    show db.roundTournament rrow.id = some tid
    rw [Database.roundTournament_row hrrow, hitem, ht]
  · obtain ⟨irow, hirow, -, hown, rfl⟩ := mem_loaded_inputs.mp hi
    show db.inputTournament irow.id = some tid
    rw [Database.inputTournament_row hirow, hown]

section Propagation

variable {db : Database} {tid : TournamentId}

/-- The matches whose inputs change are matches of the stage item, with inputs of theirs. -/
theorem updates_belongTo {item : StageItemWithRounds} (hitem : item.BelongsTo db tid)
    {roundId : RoundId} {matchIds : Option (List MatchId)} {updates : List (MatchId × Match)}
    (h : getInputsToUpdateInSubsequentEliminationRounds roundId item matchIds = .ok updates) :
    ∀ e ∈ updates, e.2.BelongsTo db tid := by
  obtain ⟨round, hround, h⟩ := bind_eq_ok.mp h
  cases h
  have hround := List.mem_of_find?_eq_some (orRaise_eq_ok.mp hround)
  intro e he
  refine foldl_propagateTo_entries (P := fun i => db.inputTournament i.id = some tid)
    (Q := fun m => m.BelongsTo db tid) (fun m hm side i hi => hm.input side i hi)
    (fun m i1 i2 hm h1 h2 => ⟨hm.own, fun side k hk => ?_, fun side i hi => ?_⟩) _ _
    (fun m hm => ?_) (fun j m hj => ?_) e.1 e.2 (Dict.get?_eq_some _ |>.mpr (List.mem_filter.mp he).1)
  · cases side with
    | one =>
      obtain ⟨i, hi, rfl⟩ := Option.map_eq_some_iff.mp hk
      exact h1 i hi
    | two =>
      obtain ⟨i, hi, rfl⟩ := Option.map_eq_some_iff.mp hk
      exact h2 i hi
  · cases side with
    | one => exact h1 i hi
    | two => exact h2 i hi
  · obtain ⟨r, hr, hm⟩ := List.mem_flatMap.mp hm
    exact hitem.matches_ r (List.mem_filter.mp ((List.mem_insertionSort _).mp hr)).1 m hm
  · have hj := Dict.mem_of_ofList hj
    obtain ⟨m', hm', e⟩ := List.mem_map.mp hj
    cases e
    exact hitem.matches_ round hround _ (List.mem_filter.mp hm').1

theorem Grows.updateInputsInSubsequentEliminationRounds (hdb : Isolated db)
    {item : StageItemWithRounds} (hitem : item.BelongsTo db tid) {roundId : RoundId}
    {matchIds : Option (List MatchId)} {db' : Database}
    (h : updateInputsInSubsequentEliminationRounds db roundId item matchIds = .ok db') :
    Grows tid db db' := by
  obtain ⟨updates, hupdates, h⟩ := bind_eq_ok.mp h
  cases h
  exact .foldl (P := fun (db : Database) (e : MatchId × Match) => e.2.BelongsTo db tid)
    (fun _ _ _ hk he => hk.belongsTo he) (fun _ _ hdb he => .setInputIds hdb he) hdb
    (updates_belongTo hitem hupdates)

theorem Grows.updateInputsInCompleteEliminationStageItem (hdb : Isolated db)
    {item : StageItemWithRounds} (hitem : item.BelongsTo db tid) {db' : Database}
    (h : updateInputsInCompleteEliminationStageItem db item = .ok db') : Grows tid db db' :=
  .foldlM (P := fun db _ => item.BelongsTo db tid) (fun _ _ _ hk hitem => hk.item hitem)
    (fun _ _ _ hdb hitem h => .updateInputsInSubsequentEliminationRounds hdb hitem h) hdb
    (fun _ _ => hitem) h

end Propagation

end Brackets
