/-
  File:      Brackets/Progress/ItemView.lean
  Subject:   What the ranking of one stage item reads.

  The ranking of a stage item is computed from its row, its `Ranking`, its inputs and the results
  of its published rounds (`roundResults`). A statement that leaves these alone leaves the stored
  statistics of the stage item exact:

  * `SameRanking`: the ranking reads the same in two databases;
  * `StatisticsExact.of_same`: exact statistics stay exact, also for inputs that lost their team;
  * `exact_of_recalculated`: recalculating makes them exact.

  `Backdrop` is what the requests about rounds, matches and rankings leave alone.
-/
import Brackets.Progress.ResultTransaction
import Brackets.Ranking.Published

namespace Brackets

open Library

/-! ## 1. The results of a round -/

/-- What the matches of a round add to the results of a stage item. -/
def roundResults (db : Database) (k : StageItemId) (r : RoundId) : List Result :=
  (db.matches_.rows.filter (·.roundId == r)).filterMap (·.resultWith (db.knows k))

/-- What a round adds to the results of a stage item: nothing if it is a draft. -/
def publishedResults (db : Database) (k : StageItemId) (r : RoundRow) : List Result :=
  if r.stageItemId = k ∧ r.isDraft = false then roundResults db k r.id else []

/-- **The results are those of the published rounds.** -/
theorem storedResults_eq (db : Database) (k : StageItemId) :
    storedResults db k = db.rounds.rows.flatMap (publishedResults db k) := by
  have hround : ∀ r ∈ db.rounds.rows,
      (db.matches_.rows.filter (·.roundId == r.id)).filterMap (db.resultOf k) =
        if r.isDraft then [] else roundResults db k r.id := by
    intro r hr
    have hfind : db.rounds.find? r.id = some r := db.rounds.find?_key hr
    have hone : ∀ m ∈ db.matches_.rows.filter (·.roundId == r.id), db.resultOf k m =
        if r.isDraft then none else m.resultWith (db.knows k) := by
      intro m hm
      have hid : m.roundId = r.id := by simpa using (List.mem_filter.mp hm).2
      rw [Database.resultOf, Database.published, hid, hfind]
      cases hdraft : r.isDraft <;> simp [hdraft]
    rw [List.filterMap_congr hone]
    cases r.isDraft with
    | true => exact List.filterMap_eq_nil_iff.mpr fun _ _ => rfl
    | false => rfl
  have hrows : ∀ rows : List RoundRow, (∀ r ∈ rows, r ∈ db.rounds.rows) →
      (rows.filter (·.stageItemId == k)).flatMap (fun r =>
        (db.matches_.rows.filter (·.roundId == r.id)).filterMap (db.resultOf k)) =
      rows.flatMap (publishedResults db k) := by
    intro rows
    induction rows with
    | nil => exact fun _ => rfl
    | cons r rows ih =>
      intro hrows
      have ih := ih fun r hr => hrows r (List.mem_cons_of_mem _ hr)
      rw [List.filter_cons, List.flatMap_cons, publishedResults]
      by_cases hk : r.stageItemId = k
      · rw [if_pos (by simpa using hk), List.flatMap_cons, ih, hround r (hrows r List.mem_cons_self)]
        cases hdraft : r.isDraft with
        | true => rw [if_pos rfl, if_neg fun h => by cases h.2]
        | false => rw [if_neg Bool.false_ne_true, if_pos ⟨hk, rfl⟩]
      · rw [if_neg (by simpa using hk), if_neg fun h => hk h.1]
        exact ih
  exact hrows db.rounds.rows fun _ h => h

/-- The rounds of a stage item are those of no other. -/
theorem ne_round {db : Database} {j k : StageItemId} {x : RoundId} {r : RoundRow}
    (hx : db.roundItem x = some j) (hk : k ≠ j) (hr : r ∈ db.rounds.rows)
    (hitem : r.stageItemId = k) : x ≠ r.id := by
  rintro rfl
  have hfind : db.rounds.find? r.id = some r := db.rounds.find?_key hr
  rw [Database.roundItem, hfind, Option.map_some, hitem] at hx
  exact hk (Option.some.inj hx)

/-- The same rounds with the same results in each. -/
theorem storedResults_of_rounds {db db' : Database} {k : StageItemId} (hrounds : db'.rounds = db.rounds)
    (h : ∀ r ∈ db.rounds.rows, r.stageItemId = k →
      roundResults db' k r.id = roundResults db k r.id) : storedResults db' k = storedResults db k := by
  rw [storedResults_eq, storedResults_eq, hrounds]
  refine List.flatMap_congr fun r hr => ?_
  unfold publishedResults
  split
  · next hk => exact h r hr hk.1
  · rfl

/-! ## 2. What the rankings share -/

/-- Nothing changed but rounds, matches, rankings and stored statistics. -/
structure Backdrop (db db' : Database) : Prop where
  stages : db'.stages = db.stages
  stageItems : db'.stageItems = db.stageItems
  teams : db'.teams = db.teams
  inputs : db'.unscored.stageItemInputs = db.unscored.stageItemInputs

namespace Backdrop

variable {db db' db'' : Database} {tid : TournamentId}

theorem refl (db : Database) : Backdrop db db := ⟨rfl, rfl, rfl, rfl⟩

theorem trans (h : Backdrop db db') (h' : Backdrop db' db'') : Backdrop db db'' :=
  ⟨h'.stages.trans h.stages, h'.stageItems.trans h.stageItems, h'.teams.trans h.teams,
    h'.inputs.trans h.inputs⟩

variable (h : Backdrop db db')
include h

theorem stageItemTournament (k : StageItemId) :
    db'.stageItemTournament k = db.stageItemTournament k := by
  unfold Database.stageItemTournament
  rw [h.stages, h.stageItems]

theorem input_unscored (x : StageItemInputId) :
    (db'.stageItemInputs.find? x).map StageItemInputRow.unscored =
      (db.stageItemInputs.find? x).map StageItemInputRow.unscored := by
  have hfind := congrArg (Table.find? · x) h.inputs
  rwa [Database.unscored, Database.unscored, Table.find?_map, Table.find?_map] at hfind

theorem input_of {x : StageItemInputId} {i' : StageItemInputRow}
    (hi : db'.stageItemInputs.find? x = some i') :
    ∃ i, db.stageItemInputs.find? x = some i ∧ i'.unscored = i.unscored := by
  have hx := h.input_unscored x
  rw [hi, Option.map_some] at hx
  obtain ⟨i, hfound, e⟩ := Option.map_eq_some_iff.mp hx.symm
  exact ⟨i, hfound, e.symm⟩

theorem knows (k : StageItemId) : db'.knows k = db.knows k := by
  funext x
  have hany : ∀ c : Database, c.knows k x =
      ((c.stageItemInputs.find? x).map StageItemInputRow.unscored).any (·.stageItemId == k) := by
    intro c
    rw [Option.any_map]
    rfl
  rw [hany, hany, h.input_unscored]

theorem teamsOnce (hU : TeamsOnce db) : TeamsOnce db' := by
  have hbare : ∀ c : Database, TeamsOnce c ↔
      noTwoAgree (·.teamKey) c.unscored.stageItemInputs.rows = true := by
    intro c
    rw [Database.unscored, Table.rows_map, noTwoAgree_map]
    rfl
  rw [hbare, h.inputs, ← hbare]
  exact hU

theorem filed (hfiled : db.InputsFiled tid) : db'.InputsFiled tid := by
  intro i' hi' ht
  obtain ⟨i, hi, e⟩ := h.input_of (db'.stageItemInputs.find?_key hi')
  have h1 : i'.unscored.stageItemId = i.unscored.stageItemId := by rw [e]
  have h2 : i'.unscored.tournamentId = i.unscored.tournamentId := by rw [e]
  have h1 : i'.stageItemId = i.stageItemId := h1
  have h2 : i'.tournamentId = i.tournamentId := h2
  rw [h.stageItemTournament, h1] at ht
  exact h2.trans (hfiled i (db.stageItemInputs.mem_of_find? hi) ht)

theorem loads (hvalid : ∀ i ∈ db.stageItemInputs.rows, (withTeam db i).valid = true) :
    ∀ i ∈ db'.stageItemInputs.rows, (withTeam db' i).valid = true := by
  intro i' hi'
  obtain ⟨i, hi, e⟩ := h.input_of (db'.stageItemInputs.find?_key hi')
  rw [valid_withTeam e h.teams]
  exact hvalid i (db.stageItemInputs.mem_of_find? hi)

end Backdrop

/-! ## 3. Other inputs with a team -/

section Reseated

variable {E : ExpectedScore} {type : StageType} {ranking : RankingRow}

theorem setStatistics_reseated {side : Side} {r : Result} {q : Rat × Rat}
    {d d' d1 : StatisticsDict}
    (hsame : ∀ k, d'.getD k (initialStatistics type) = d.getD k (initialStatistics type))
    (h : setStatisticsForStageItemInput E type ranking side d r q = .ok d1) :
    ∃ d1', setStatisticsForStageItemInput E type ranking side d' r q = .ok d1' ∧
      ∀ k, d1'.getD k (initialStatistics type) = d1.getD k (initialStatistics type) := by
  obtain ⟨s, hs, rfl⟩ := setStatistics_eq_ok.mp h
  refine ⟨d'.set (r.input side) s, setStatistics_eq_ok.mpr ⟨s, ?_, rfl⟩, fun k => ?_⟩
  · rw [hsame, hs]
  · rw [Dict.getD_set, Dict.getD_set, hsame]

theorem replayResult_reseated {r : Result} {d d' d1 : StatisticsDict}
    (hsame : ∀ k, d'.getD k (initialStatistics type) = d.getD k (initialStatistics type))
    (h : replayResult E type ranking d r = .ok d1) :
    ∃ d1', replayResult E type ranking d' r = .ok d1' ∧
      ∀ k, d1'.getD k (initialStatistics type) = d1.getD k (initialStatistics type) := by
  obtain ⟨d2, h2, h⟩ := replayResult_eq_ok.mp h
  obtain ⟨d2', h2', hsame2⟩ := setStatistics_reseated hsame h2
  obtain ⟨d1', h1', hsame1⟩ := setStatistics_reseated hsame2 h
  refine ⟨d1', replayResult_eq_ok.mpr ⟨d2', ?_, ?_⟩, hsame1⟩
  · rw [hsame, hsame]
    exact h2'
  · rw [hsame, hsame]
    exact h1'

/-- **Who has a team does not change the statistics.** -/
theorem replay_reseated (seated' : List StageItemInputId) {seated : List StageItemInputId}
    {results : List Result} {d : StatisticsDict} (h : replay E type ranking seated results = .ok d) :
    ∃ d', replay E type ranking seated' results = .ok d' ∧
      ∀ k, d'.getD k (initialStatistics type) = d.getD k (initialStatistics type) := by
  have run : ∀ (rs : List Result) (d0 d0' : StatisticsDict),
      (∀ k, d0'.getD k (initialStatistics type) = d0.getD k (initialStatistics type)) →
      rs.foldlM (replayResult E type ranking) d0 = .ok d →
      ∃ d', rs.foldlM (replayResult E type ranking) d0' = .ok d' ∧
        ∀ k, d'.getD k (initialStatistics type) = d.getD k (initialStatistics type) := by
    intro rs
    induction rs with
    | nil =>
      intro d0 d0' hsame h
      cases h
      exact ⟨d0', rfl, hsame⟩
    | cons r rs ih =>
      intro d0 d0' hsame h
      rw [List.foldlM_cons] at h
      obtain ⟨d1, h1, h⟩ := bind_eq_ok.mp h
      obtain ⟨d1', h1', hsame1⟩ := replayResult_reseated hsame h1
      obtain ⟨d', hd', hsame'⟩ := ih d1 d1' hsame1 h
      exact ⟨d', by rw [List.foldlM_cons, h1', ok_bind, hd'], hsame'⟩
  refine run results _ _ (fun k => ?_) h
  rw [seatedStatistics_getD, seatedStatistics_getD]

end Reseated

/-! ## 4. The view of a stage item -/

/-- The ranking of the stage item reads the same in both databases. -/
structure SameReading (db db' : Database) (tid : TournamentId) (k : StageItemId) : Prop where
  item : (db'.stageItems.find? k).map (·.type) = (db.stageItems.find? k).map (·.type)
  tournament : db'.stageItemTournament k = db.stageItemTournament k
  ranking : getRankingForStageItem db' tid k = getRankingForStageItem db tid k
  results : storedResults db' k = storedResults db k

/-- And nobody has a team but those who had one. -/
structure SameRanking (db db' : Database) (tid : TournamentId) (k : StageItemId) : Prop extends
    SameReading db db' tid k where
  seats : ∀ x i', db'.stageItemInputs.find? x = some i' → i'.stageItemId = k →
    i'.teamId.isSome = true → ∃ i, db.stageItemInputs.find? x = some i ∧ i.stageItemId = k ∧
      i.tournamentId = i'.tournamentId ∧ i.teamId.isSome = true ∧ i.cached = i'.cached

theorem SameReading.trans {db db' db'' : Database} {tid : TournamentId} {k : StageItemId}
    (h : SameReading db db' tid k) (h' : SameReading db' db'' tid k) : SameReading db db'' tid k :=
  ⟨h'.item.trans h.item, h'.tournament.trans h.tournament, h'.ranking.trans h.ranking,
    h'.results.trans h.results⟩

namespace SameRanking

variable {db db' db'' : Database} {tid : TournamentId} {k : StageItemId}

theorem refl (db : Database) (tid : TournamentId) (k : StageItemId) : SameRanking db db tid k :=
  ⟨⟨rfl, rfl, rfl, rfl⟩, fun _ i hi hk hteam => ⟨i, hi, hk, rfl, hteam, rfl⟩⟩

theorem trans (h : SameRanking db db' tid k) (h' : SameRanking db' db'' tid k) :
    SameRanking db db'' tid k where
  toSameReading := h.toSameReading.trans h'.toSameReading
  seats x i'' hi'' hk hteam := by
    obtain ⟨i', hi', hk', ht', hteam', hcached'⟩ := h'.seats x i'' hi'' hk hteam
    obtain ⟨i, hi, hk, ht, hteam, hcached⟩ := h.seats x i' hi' hk' hteam'
    exact ⟨i, hi, hk, ht.trans ht', hteam, hcached.trans hcached'⟩

end SameRanking

section Exact

variable {E : ExpectedScore} {db db' : Database} {tid : TournamentId} {k : StageItemId}

/-- A stage item of the tournament loads if the program accepts its inputs. -/
theorem valid_iff_inputs (hfiled : db.InputsFiled tid) {row : StageItemRow}
    (ht : db.stageItemTournament row.id = some tid) : (loadStageItem db tid row).valid = true ↔
      ∀ i ∈ db.stageItemInputs.rows, i.stageItemId = row.id → (withTeam db i).valid = true := by
  have hown : ∀ i ∈ db.stageItemInputs.rows, i.stageItemId = row.id → i.tournamentId = tid :=
    fun i hi hk => hfiled i hi (hk ▸ ht)
  constructor
  · intro h i hi hk
    exact (loadStageItem_valid_iff.mp h).1 _ (mem_loaded_inputs.mpr ⟨i, hi, hk, hown i hi hk, rfl⟩)
  · intro h
    refine loadStageItem_valid_iff.mpr ⟨fun i hi => ?_, fun m _ side i hi => ?_⟩
    · obtain ⟨irow, hirow, hk, -, rfl⟩ := mem_loaded_inputs.mp hi
      exact h irow hirow hk
    · obtain ⟨x, irow, -, hirow, hk, rfl⟩ := joined_row.mp hi
      exact h irow (db.stageItemInputs.mem_of_find? hirow) hk

/-- What is stored for these slots of the stage item is what the ranking computes. -/
def ExactOn (E : ExpectedScore) (db : Database) (tid : TournamentId) (k : StageItemId)
    (P : StageItemInputRow → Prop) : Prop :=
  ∃ item d, rankingNow E db tid k = .ok (item, d) ∧ ∀ i ∈ db.stageItemInputs.rows,
    i.stageItemId = k → i.tournamentId = tid → P i →
      i.cached = (d.getD i.id (initialStatistics item.type)).cached

/-- Statistics are exact for the slots with a team. -/
theorem statisticsExact_iff :
    StatisticsExact E db tid k ↔ ExactOn E db tid k fun i => i.teamId.isSome = true := by
  refine exists_congr fun item => exists_congr fun d => and_congr_right fun hnow => ?_
  obtain ⟨row, ranking, hrow, -, rfl, -⟩ := rankingNow_eq_ok.mp hnow
  obtain rfl : row.id = k := db.stageItems.key_of_find? hrow
  constructor
  · intro h i hi hk ht hteam
    exact h (withTeam db i) (mem_loaded_inputs.mpr ⟨i, hi, hk, ht, rfl⟩) hteam
  · intro h i hi hteam
    obtain ⟨irow, hirow, hk, ht, rfl⟩ := mem_loaded_inputs.mp hi
    exact h irow hirow hk ht hteam

theorem ExactOn.or {P Q : StageItemInputRow → Prop} (hP : ExactOn E db tid k P)
    (hQ : ExactOn E db tid k Q) : ExactOn E db tid k fun i => P i ∨ Q i := by
  obtain ⟨item, d, hnow, hP⟩ := hP
  obtain ⟨item', d', hnow', hQ⟩ := hQ
  cases hnow.symm.trans hnow'
  exact ⟨item, d, hnow, fun i hi hk ht hPQ => hPQ.elim (hP i hi hk ht) (hQ i hi hk ht)⟩

/-- **The same statistics are computed** where the ranking reads the same. -/
theorem SameReading.rankingNow (hsame : SameReading db db' tid k)
    (hvalid : ∀ row, db'.stageItems.find? k = some row → (loadStageItem db' tid row).valid = true)
    {item : StageItemWithRounds} {d : StatisticsDict}
    (hnow : rankingNow E db tid k = .ok (item, d)) : ∃ item' d',
      Brackets.rankingNow E db' tid k = .ok (item', d') ∧ item'.type = item.type ∧
        ∀ x, d'.getD x (initialStatistics item.type) = d.getD x (initialStatistics item.type) := by
  obtain ⟨row, ranking, hrow, htour, rfl, -, hranking, hd⟩ := rankingNow_eq_ok.mp hnow
  obtain rfl : row.id = k := db.stageItems.key_of_find? hrow
  have htype := hsame.item
  rw [hrow, Option.map_some] at htype
  obtain ⟨row', hrow', htype⟩ := Option.map_eq_some_iff.mp htype
  have hid : row'.id = row.id := db'.stageItems.key_of_find? hrow'
  rw [determineRanking_eq_replay, loaded_results] at hd
  obtain ⟨d', hd', hstats⟩ := replay_reseated (loadStageItem db' tid row').seated hd
  have hnow' : determineRankingForStageItem E (loadStageItem db' tid row') ranking = .ok d' := by
    rw [determineRanking_eq_replay, loaded_results, hid, hsame.results]
    exact (congrArg (fun t => replay E t ranking _ _) htype).trans hd'
  refine ⟨loadStageItem db' tid row', d', rankingNow_eq_ok.mpr ⟨row', ranking, hrow',
    hsame.tournament.trans htour, rfl, hvalid row' hrow', ?_, hnow'⟩, htype, hstats⟩
  rw [hid]
  exact hsame.ranking.trans hranking

/-- **What is exact stays exact** where the ranking reads the same. -/
theorem ExactOn.of_same {P P' : StageItemInputRow → Prop} (h : ExactOn E db tid k P)
    (hsame : SameReading db db' tid k)
    (hvalid : ∀ row, db'.stageItems.find? k = some row → (loadStageItem db' tid row).valid = true)
    (hslots : ∀ i' ∈ db'.stageItemInputs.rows, i'.stageItemId = k → P' i' →
      ∃ i ∈ db.stageItemInputs.rows, i.id = i'.id ∧ i.stageItemId = k ∧
        i.tournamentId = i'.tournamentId ∧ P i ∧ i.cached = i'.cached) :
    ExactOn E db' tid k P' := by
  obtain ⟨item, d, hnow, hexact⟩ := h
  obtain ⟨item', d', hnow', htype, hstats⟩ := hsame.rankingNow hvalid hnow
  refine ⟨item', d', hnow', fun i' hi' hk ht hP' => ?_⟩
  obtain ⟨i, hi, hid, hik, hit, hP, hcached⟩ := hslots i' hi' hk hP'
  rw [← hcached, htype, ← hid, hstats]
  exact hexact i hi hik (hit.trans ht) hP

theorem SameRanking.slots (hsame : SameRanking db db' tid k) :
    ∀ i' ∈ db'.stageItemInputs.rows, i'.stageItemId = k → i'.teamId.isSome = true →
      ∃ i ∈ db.stageItemInputs.rows, i.id = i'.id ∧ i.stageItemId = k ∧
        i.tournamentId = i'.tournamentId ∧ i.teamId.isSome = true ∧ i.cached = i'.cached := by
  intro i' hi' hk hteam
  obtain ⟨i, hi, hsame⟩ := hsame.seats i'.id i' (db'.stageItemInputs.find?_key hi') hk hteam
  exact ⟨i, db.stageItemInputs.mem_of_find? hi, db.stageItemInputs.key_of_find? hi, hsame⟩

theorem StatisticsExact.of_same (h : StatisticsExact E db tid k) (hsame : SameRanking db db' tid k)
    (hvalid : ∀ row, db'.stageItems.find? k = some row → (loadStageItem db' tid row).valid = true) :
    StatisticsExact E db' tid k :=
  statisticsExact_iff.mpr
    ((statisticsExact_iff.mp h).of_same hsame.toSameReading hvalid hsame.slots)

/-- **Recalculating makes the statistics exact.** -/
theorem exact_of_recalculated (hU : TeamsOnce db) {item : StageItemWithRounds}
    (hitem : getStageItem db tid k = .ok item)
    (h : recalculateRankingForStageItem E db tid item = .ok db') : StatisticsExact E db' tid k := by
  obtain ⟨ranking, d, hranking, hd, rfl⟩ := recalculateRanking_eq_ok.mp h
  obtain ⟨row, hrow, htour, rfl, hvalid⟩ := getStageItem_eq_ok.mp hitem
  have hnow : rankingNow E db tid k = .ok (loadStageItem db tid row, d) :=
    rankingNow_eq_ok.mpr ⟨row, ranking, hrow, htour, rfl, hvalid, hranking, hd⟩
  have hframe : (storeStatistics tid (loadStageItem db tid row) d db).frame = db.frame :=
    frame_of_bare storeStatistics_bare
  refine exact_of_stored (t := db) hU hnow hframe (fun row' _ hv => ?_)
    (storedResults_of_frame hframe fun x => ?_) fun x => foldl_updateTeamStats_find? _ db x
  · refine valid_of_frame hframe hv fun m hm side x hx => Or.inr ⟨m, side, ?_, hx⟩
    refine ⟨storeStatistics_matches ▸ hm.1, ?_⟩
    have hround := hm.2
    rwa [Database.roundItem, rounds_of_frame hframe] at hround
  · rw [storeStatistics_matches, reading_of_frame hframe]

end Exact

/-! ## 5. Statements elsewhere -/

section Statements

variable {E : ExpectedScore} {db db' : Database} {tid : TournamentId} {k : StageItemId}

theorem SameRanking.of_backdrop (hb : Backdrop db db')
    (hranking : getRankingForStageItem db' tid k = getRankingForStageItem db tid k)
    (hresults : storedResults db' k = storedResults db k)
    (hrows : ∀ x i, db'.stageItemInputs.find? x = some i → i.stageItemId = k →
      db.stageItemInputs.find? x = some i) : SameRanking db db' tid k where
  item := by rw [hb.stageItems]
  tournament := hb.stageItemTournament k
  ranking := hranking
  results := hresults
  seats x i hi hk hteam := ⟨i, hrows x i hi hk, hk, rfl, hteam, rfl⟩

/-- A change of the matches. -/
theorem SameRanking.of_matches {t : Table MatchRow} (h : ∀ r ∈ db.rounds.rows, r.stageItemId = k →
    roundResults { db with matches_ := t } k r.id = roundResults db k r.id) :
    SameRanking db { db with matches_ := t } tid k :=
  .of_backdrop ⟨rfl, rfl, rfl, rfl⟩ rfl (storedResults_of_rounds rfl h) fun _ _ hi _ => hi

theorem Backdrop.of_matches (t : Table MatchRow) : Backdrop db { db with matches_ := t } :=
  ⟨rfl, rfl, rfl, rfl⟩

/-! An UPDATE in other rounds. -/

theorem roundResults_update {p : MatchRow → Bool} {f : MatchRow → MatchRow}
    {hf : ∀ m, key (f m) = key m} {r : RoundId}
    (h : ∀ m ∈ db.matches_.rows, p m = true → m.roundId ≠ r ∧ (f m).roundId ≠ r) :
    roundResults { db with matches_ := db.matches_.update p f hf } k r = roundResults db k r := by
  have hrows : (db.matches_.update p f hf).rows.filter (·.roundId == r) =
      db.matches_.rows.filter (·.roundId == r) := by
    rw [Table.rows_update, List.filter_map]
    have hfilter : db.matches_.rows.filter ((·.roundId == r) ∘ fun m => if p m then f m else m) =
        db.matches_.rows.filter (·.roundId == r) := by
      refine List.filter_congr fun m hm => ?_
      rw [Function.comp]
      split
      · next hp =>
        obtain ⟨h1, h2⟩ := h m hm hp
        rw [beq_eq_false_iff_ne.mpr h1, beq_eq_false_iff_ne.mpr h2]
      · rfl
    rw [hfilter]
    refine (List.map_congr_left fun m hm => ?_).trans (List.map_id _)
    obtain ⟨hm, hr⟩ := List.mem_filter.mp hm
    exact if_neg fun hp => (h m hm hp).1 (eq_of_beq hr)
  unfold roundResults
  dsimp only
  rw [hrows]
  rfl

/-- A DELETE in other rounds; the references it clears are not read. -/
theorem roundResults_delete {p : MatchRow → Bool} {r : RoundId}
    (h : ∀ m ∈ db.matches_.rows, p m = true → m.roundId ≠ r) :
    roundResults (deleteMatches db p) k r = roundResults db k r := by
  have hrows : (db.matches_.rows.filter fun m => !p m).filter (·.roundId == r) =
      db.matches_.rows.filter (·.roundId == r) := by
    rw [List.filter_filter]
    refine List.filter_congr fun m hm => ?_
    cases hp : p m with
    | false => exact Bool.and_true _
    | true => rw [beq_eq_false_iff_ne.mpr (h m hm hp), Bool.false_and]
  have hall : (deleteMatches db p).matches_.rows = (db.matches_.rows.filter fun m => !p m).map
      (clearWinnerFrom ((db.matches_.rows.filter p).map (·.id))) := rfl
  rw [roundResults, hall, List.filter_map, List.filterMap_map]
  exact congrArg (List.filterMap (·.resultWith (db.knows k))) hrows

/-- An INSERT of a match without a score. -/
theorem roundResults_create {body : MatchCreateBody} {r : RoundId} :
    roundResults (sqlCreateMatch db body).2 k r = roundResults db k r := by
  have hnew : ∀ known, (newMatch body db.matches_.next).resultWith known = none := fun _ =>
    MatchRow.resultWith_of_unscored rfl rfl _
  have hrows : (sqlCreateMatch db body).2.matches_.rows.filter (·.roundId == r) =
      db.matches_.rows.filter (·.roundId == r) ++
        if (newMatch body db.matches_.next).roundId == r then [newMatch body db.matches_.next]
        else [] := @Table.filter_insert _ _ _ (fun _ => rfl) db.matches_ _
  have hnone : (if (newMatch body db.matches_.next).roundId == r
      then [newMatch body db.matches_.next] else []).filterMap (·.resultWith (db.knows k)) = [] := by
    split
    · exact List.filterMap_cons_none (hnew _)
    · rfl
  rw [roundResults, hrows, List.filterMap_append]
  exact (congrArg _ hnone).trans (List.append_nil _)

/-! Planning. -/

theorem Backdrop.of_bare (h : db'.bare = db.bare) : Backdrop db db' := by
  have hstages : db'.bare.stages = db.bare.stages := by rw [h]
  have hitems : db'.bare.stageItems = db.bare.stageItems := by rw [h]
  have hteams : db'.bare.teams = db.bare.teams := by rw [h]
  have hinputs : db'.bare.stageItemInputs = db.bare.stageItemInputs := by rw [h]
  exact ⟨hstages, hitems, hteams, hinputs⟩

theorem ranking_of_bare (h : db'.bare = db.bare) :
    getRankingForStageItem db' tid k = getRankingForStageItem db tid k := by
  have hranking : getRankingForStageItem db'.bare tid k = getRankingForStageItem db.bare tid k := by
    rw [h]
  exact hranking

theorem storedResults_of_bare (h : db'.bare = db.bare) : storedResults db' k = storedResults db k := by
  have hrows : ∀ (d : Database) (r : RoundId), roundResults d k r =
      ((d.bare.matches_.rows.filter (·.roundId == r)).filterMap (·.resultWith (d.knows k))) := by
    intro d r
    have hall : d.bare.matches_.rows = d.matches_.rows.map MatchRow.untimed := rfl
    rw [hall, List.filter_map, List.filterMap_map]
    rfl
  have hrounds : db'.bare.rounds = db.bare.rounds := by rw [h]
  refine storedResults_of_rounds hrounds fun r _ _ => ?_
  rw [hrows, hrows, h, (Backdrop.of_bare h).knows]

theorem SameRanking.of_untimed (h : db'.untimed = db.untimed) : SameRanking db db' tid k := by
  have hinputs : db'.untimed.stageItemInputs = db.untimed.stageItemInputs := by rw [h]
  have hinputs : db'.stageItemInputs = db.stageItemInputs := hinputs
  have hbare := bare_of_untimed h
  exact .of_backdrop (.of_bare hbare) (ranking_of_bare hbare) (storedResults_of_bare hbare)
    fun x i hi _ => hinputs ▸ hi

/-! Recalculating another stage item. -/

theorem of_mem_teamLookup {item : StageItemWithRounds} {x : StageItemInputId}
    (h : x ∈ (teamXStageItemInputLookup item).values) : ∃ i ∈ item.inputs, i.id = x := by
  obtain ⟨e, he, rfl⟩ := List.mem_map.mp h
  have hentry := Dict.mem_of_ofList ((Dict.get?_eq_some _).mpr he)
  obtain ⟨i, hi, hteam⟩ := List.mem_filterMap.mp hentry
  obtain ⟨t, -, htx⟩ := Option.map_eq_some_iff.mp hteam
  exact ⟨i, hi, congrArg Prod.snd htx⟩

/-- Storing the statistics of inputs of other stage items. -/
theorem SameRanking.of_stored {item : StageItemWithRounds}
    (h : recalculateRankingForStageItem E db tid item = .ok db')
    (hother : ∀ i ∈ item.inputs, ∀ row ∈ db.stageItemInputs.rows, row.id = i.id →
      row.stageItemId ≠ k) : SameRanking db db' tid k := by
  have hbare := bare_of_unscored (recalculateRanking_unscored h)
  obtain ⟨ranking, d, -, -, rfl⟩ := recalculateRanking_eq_ok.mp h
  refine .of_backdrop (.of_bare hbare) (ranking_of_bare hbare) (storedResults_of_bare hbare)
    fun x i' hi' hk => ?_
  rw [storeStatistics, foldl_updateTeamStats_find?] at hi'
  obtain ⟨i, hi, rfl⟩ := Option.map_eq_some_iff.mp hi'
  have hkept : (restored tid (teamXStageItemInputLookup item).values
      (fun x => d.getD x (initialStatistics item.type)) i).stageItemId = i.stageItemId := by
    unfold restored
    split <;> rfl
  have hout : ¬ (i.tournamentId = tid ∧ i.id ∈ (teamXStageItemInputLookup item).values) := by
    rintro ⟨-, hvalue⟩
    obtain ⟨input, hinput, hid⟩ := of_mem_teamLookup hvalue
    exact hother input hinput i (db.stageItemInputs.mem_of_find? hi) hid.symm (hkept.symm.trans hk)
  exact hi.trans (congrArg some (if_neg hout).symm)

theorem SameRanking.of_recalculated {j : StageItemId} {item : StageItemWithRounds}
    (hitem : getStageItem db tid j = .ok item)
    (h : recalculateRankingForStageItem E db tid item = .ok db') (hne : k ≠ j) :
    SameRanking db db' tid k := by
  obtain ⟨row, hrow, -, rfl, -⟩ := getStageItem_eq_ok.mp hitem
  refine .of_stored h fun i hi irow hirow hid hk => hne ?_
  obtain ⟨r, hr, hof, -, rfl⟩ := mem_loaded_inputs.mp hi
  obtain rfl : irow = r := db.stageItemInputs.eq_of_key hirow hr hid
  rw [← hk, hof]
  exact db.stageItems.key_of_find? hrow

/-! A change of the rounds. -/

theorem SameRanking.of_rounds {t : Table RoundRow}
    (h : storedResults { db with rounds := t } k = storedResults db k) :
    SameRanking db { db with rounds := t } tid k :=
  .of_backdrop ⟨rfl, rfl, rfl, rfl⟩ rfl h fun _ _ hi _ => hi

theorem storedResults_rounds {t : Table RoundRow} : storedResults { db with rounds := t } k =
    t.rows.flatMap (publishedResults db k) := storedResults_eq _ k

/-- A round that adds nothing. -/
theorem storedResults_createRound {name : String} {j : StageItemId} :
    storedResults (sqlCreateRound db name true j).2 k = storedResults db k := by
  have hnone : publishedResults db k ⟨db.rounds.next, name, true, j⟩ = [] :=
    if_neg fun h => by cases h.2
  rw [sqlCreateRound, storedResults_rounds, storedResults_eq, Table.rows_insert,
    List.flatMap_append, List.flatMap_singleton, hnone, List.append_nil]

theorem storedResults_deleteRounds {p : RoundRow → Bool}
    (h : ∀ r ∈ db.rounds.rows, p r = true → publishedResults db k r = []) :
    storedResults { db with rounds := db.rounds.delete p } k = storedResults db k := by
  have hrows : ∀ rows : List RoundRow, (∀ r ∈ rows, r ∈ db.rounds.rows) →
      (rows.filter fun r => !p r).flatMap (publishedResults db k) =
        rows.flatMap (publishedResults db k) := by
    intro rows
    induction rows with
    | nil => exact fun _ => rfl
    | cons r rows ih =>
      intro hrows
      have ih := ih fun r hr => hrows r (List.mem_cons_of_mem _ hr)
      rw [List.filter_cons, List.flatMap_cons]
      cases hp : p r with
      | false => rw [if_pos (by rfl), List.flatMap_cons, ih]
      | true =>
        rw [if_neg (by simp), h r (hrows r List.mem_cons_self) hp, List.nil_append, ih]
  rw [storedResults_rounds, storedResults_eq]
  exact hrows db.rounds.rows fun _ hr => hr

theorem storedResults_updateRounds {p : RoundRow → Bool} {f : RoundRow → RoundRow}
    {hf : ∀ r, key (f r) = key r} (h : ∀ r ∈ db.rounds.rows, p r = true →
      publishedResults db k (f r) = publishedResults db k r) :
    storedResults { db with rounds := db.rounds.update p f hf } k = storedResults db k := by
  rw [storedResults_rounds, storedResults_eq, Table.rows_update, List.flatMap_map]
  refine List.flatMap_congr fun r hr => ?_
  split
  · next hp => exact h r hr hp
  · rfl

end Statements

/-! ## 6. One stage item at a time -/

/-- Only the stage item `j` may be ranked from something else. -/
structure Elsewhere (db db' : Database) (tid : TournamentId) (j : StageItemId) : Prop where
  backdrop : Backdrop db db'
  same : ∀ k, k ≠ j → SameRanking db db' tid k

namespace Elsewhere

variable {E : ExpectedScore} {db db' db'' : Database} {tid : TournamentId} {j : StageItemId}

theorem refl (db : Database) (tid : TournamentId) (j : StageItemId) : Elsewhere db db tid j :=
  ⟨.refl db, fun k _ => .refl db tid k⟩

theorem trans (h : Elsewhere db db' tid j) (h' : Elsewhere db' db'' tid j) :
    Elsewhere db db'' tid j :=
  ⟨h.backdrop.trans h'.backdrop, fun k hk => (h.same k hk).trans (h'.same k hk)⟩

theorem of_untimed (h : db'.untimed = db.untimed) : Elsewhere db db' tid j :=
  ⟨.of_bare (bare_of_untimed h), fun _ _ => .of_untimed h⟩

theorem of_recalculated {item : StageItemWithRounds} (hitem : getStageItem db tid j = .ok item)
    (h : recalculateRankingForStageItem E db tid item = .ok db') : Elsewhere db db' tid j :=
  ⟨.of_bare (bare_of_unscored (recalculateRanking_unscored h)),
    fun _ hk => .of_recalculated hitem h hk⟩

/-- An UPDATE of matches of the stage item that stay there. -/
theorem of_updateMatches {p : MatchRow → Bool} {f : MatchRow → MatchRow}
    {hf : ∀ m, key (f m) = key m} (h : ∀ m ∈ db.matches_.rows, p m = true →
      db.roundItem m.roundId = some j ∧ (f m).roundId = m.roundId) :
    Elsewhere db { db with matches_ := db.matches_.update p f hf } tid j := by
  refine ⟨.of_matches _, fun k hk => .of_matches fun r hr hof =>
    roundResults_update fun m hm hp => ?_⟩
  obtain ⟨hitem, hkept⟩ := h m hm hp
  rw [hkept]
  exact ⟨ne_round hitem hk hr hof, ne_round hitem hk hr hof⟩

theorem of_deleteMatches {p : MatchRow → Bool} (h : ∀ m ∈ db.matches_.rows, p m = true →
    db.roundItem m.roundId = some j) : Elsewhere db (deleteMatches db p) tid j :=
  ⟨.of_matches _, fun _ hk => .of_matches fun _ hr hof => roundResults_delete fun m hm hp =>
    ne_round (h m hm hp) hk hr hof⟩

theorem of_createMatch {body : MatchCreateBody} : Elsewhere db (sqlCreateMatch db body).2 tid j :=
  ⟨.of_matches _, fun _ _ => .of_matches fun _ _ _ => roundResults_create⟩

theorem foldl {β : Type} {f : Database → β → Database} {P : Database → β → Prop}
    (hkeep : ∀ db a b, P db b → P (f db a) b)
    (hf : ∀ db b, P db b → Elsewhere db (f db b) tid j) (l : List β) {db : Database}
    (hl : ∀ b ∈ l, P db b) : Elsewhere db (l.foldl f db) tid j := by
  induction l generalizing db with
  | nil => exact .refl db tid j
  | cons b l ih =>
    exact (hf db b (hl b List.mem_cons_self)).trans
      (ih fun c hc => hkeep db b c (hl c (List.mem_cons_of_mem _ hc)))

theorem of_setInputIds {m : Match} (h : db.roundItem m.roundId = some j) :
    Elsewhere db (setInputIds db m) tid j := by
  refine of_updateMatches fun row _ hp => ⟨?_, rfl⟩
  rw [Bool.and_eq_true, beq_iff_eq, beq_iff_eq] at hp
  rw [hp.1, h]

/-- The winners of a stage item move on within it. -/
theorem of_propagated {item : StageItemWithRounds} {r : RoundId} {ids : Option (List MatchId)}
    (hitem : ∀ r ∈ item.rounds, ∀ m ∈ r.matches_, db.roundItem m.roundId = some j)
    (h : updateInputsInSubsequentEliminationRounds db r item ids = .ok db') :
    Elsewhere db db' tid j := by
  obtain ⟨updates, hupdates, h⟩ := bind_eq_ok.mp h
  cases h
  obtain ⟨round, hround, hupdates⟩ := bind_eq_ok.mp hupdates
  cases hupdates
  have hround := List.mem_of_find?_eq_some (orRaise_eq_ok.mp hround)
  refine foldl (f := fun db (e : MatchId × Match) => setInputIds db e.2)
    (P := fun db e => db.roundItem e.2.roundId = some j) (fun _ _ _ h => h)
    (fun _ _ h => of_setInputIds h) _ fun e he => ?_
  refine foldl_propagateTo_entries (P := fun _ => True)
    (Q := fun m => db.roundItem m.roundId = some j) (fun _ _ _ _ _ => trivial)
    (fun _ _ _ hm _ _ => hm) _ _ (fun m hm => ?_) (fun x m hm => ?_) e.1 e.2
    ((Dict.get?_eq_some _).mpr (List.mem_filter.mp he).1)
  · obtain ⟨r, hr, hm⟩ := List.mem_flatMap.mp hm
    exact hitem r (List.mem_filter.mp ((List.mem_insertionSort _).mp hr)).1 m hm
  · obtain ⟨m', hm', e⟩ := List.mem_map.mp (Dict.mem_of_ofList hm)
    cases e
    exact hitem round hround _ (List.mem_filter.mp hm').1

theorem of_completed {item : StageItemWithRounds}
    (hitem : ∀ r ∈ item.rounds, ∀ m ∈ r.matches_, db.roundItem m.roundId = some j)
    (h : updateInputsInCompleteEliminationStageItem db item = .ok db') : Elsewhere db db' tid j := by
  have hrounds := foldlM_invariant (P := fun d : Database => d.rounds = db.rounds ∧ Elsewhere db d tid j)
    (fun d r d' hd hstep => ?_) ⟨rfl, .refl db tid j⟩ h
  · exact hrounds.2
  · have hmoved : Elsewhere d d' tid j := of_propagated (fun r hr m hm => by
      rw [Database.roundItem, hd.1]
      exact hitem r hr m hm) hstep
    refine ⟨?_, hd.2.trans hmoved⟩
    obtain ⟨updates, -, hstep⟩ := bind_eq_ok.mp hstep
    cases hstep
    exact (foldl_project Database.rounds (fun db (e : MatchId × Match) => setInputIds db e.2)
      (fun _ _ => rfl) _ _).trans hd.1

end Elsewhere

end Brackets
