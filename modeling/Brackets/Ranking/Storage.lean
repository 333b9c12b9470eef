/-
  File:      Brackets/Ranking/Storage.lean
  Subject:   The stored results of the inputs.

  Wins, draws, losses and points of an input are stored beside its team. `StatisticsExact` says
  that what is stored for the inputs with a team is what the ranking computes.

  The ranking reads few columns: `storedResults` are the results of a stage item in terms of its
  rows (`loaded_results`), and what is stored stays exact as long as they stay (`Exact.of_same`).
-/
import Mathlib.Data.List.Pairwise
import Brackets.Loads
import Brackets.Statements

namespace Brackets

open Library

/-! ## 1. Exact statistics -/

/-- What an input row stores of its statistics. -/
structure CachedStatistics where
  wins : Int
  draws : Int
  losses : Int
  points : Rat
  deriving DecidableEq, Repr

def StageItemInputRow.cached (i : StageItemInputRow) : CachedStatistics :=
  ⟨i.wins, i.draws, i.losses, i.points⟩

def TeamStatistics.cached (s : TeamStatistics) : CachedStatistics :=
  ⟨s.wins, s.draws, s.losses, s.points⟩

/-- The row with other statistics. -/
def StageItemInputRow.withCached (i : StageItemInputRow) (c : CachedStatistics) :
    StageItemInputRow :=
  { i with wins := c.wins, draws := c.draws, losses := c.losses, points := c.points }

@[simp] theorem StageItemInputRow.cached_withCached (i : StageItemInputRow) (c : CachedStatistics) :
    (i.withCached c).cached = c := rfl

/-- The ranking of a stage item as the database stands. -/
def rankingNow (E : ExpectedScore) (db : Database) (tid : TournamentId) (k : StageItemId) :
    Outcome (StageItemWithRounds × StatisticsDict) := do
  let item ← getStageItem db tid k
  let ranking ← orRaise (getRankingForStageItem db tid item.id) (.crash .assertionError)
  let d ← determineRankingForStageItem E item ranking
  .ok (item, d)

/-- The stored wins, draws, losses and points of every input with a team are those the ranking
    computes. -/
def StatisticsExact (E : ExpectedScore) (db : Database) (tid : TournamentId) (k : StageItemId) :
    Prop :=
  ∃ item d, rankingNow E db tid k = .ok (item, d) ∧ ∀ i ∈ item.inputs, i.teamId.isSome →
    i.cached = (d.getD i.id (initialStatistics item.type)).cached

/-- The unique constraint (stage_item_id, team_id) of `stage_item_inputs`. -/
def TeamsOnce (db : Database) : Prop := noTwoAgree (·.teamKey) db.stageItemInputs.rows = true

theorem rankingNow_eq_ok {E : ExpectedScore} {db : Database} {tid : TournamentId} {k : StageItemId}
    {item : StageItemWithRounds} {d : StatisticsDict} :
    rankingNow E db tid k = .ok (item, d) ↔ ∃ row ranking, db.stageItems.find? k = some row ∧
      db.stageItemTournament k = some tid ∧ item = loadStageItem db tid row ∧ item.valid ∧
      getRankingForStageItem db tid row.id = some ranking ∧
      determineRankingForStageItem E item ranking = .ok d := by
  constructor
  · intro h
    obtain ⟨item', hitem, h⟩ := bind_eq_ok.mp h
    obtain ⟨ranking, hranking, h⟩ := bind_eq_ok.mp h
    obtain ⟨d', hd, h⟩ := bind_eq_ok.mp h
    cases h
    obtain ⟨row, hrow, htour, rfl, hvalid⟩ := getStageItem_eq_ok.mp hitem
    exact ⟨row, ranking, hrow, htour, rfl, hvalid, orRaise_eq_ok.mp hranking, hd⟩
  · rintro ⟨row, ranking, hrow, htour, rfl, hvalid, hranking, hd⟩
    have hitem : getStageItem db tid k = .ok (loadStageItem db tid row) :=
      getStageItem_eq_ok.mpr ⟨row, hrow, htour, rfl, hvalid⟩
    have hfound : orRaise (getRankingForStageItem db tid (loadStageItem db tid row).id)
        (.crash .assertionError) = .ok ranking := orRaise_eq_ok.mpr hranking
    rw [rankingNow, hitem, ok_bind, hfound, ok_bind, hd, ok_bind]

/-! ## 2. Storing -/

/-- The statements of `recalculate_ranking_for_stage_item`. -/
def storeStatistics (tid : TournamentId) (item : StageItemWithRounds) (d : StatisticsDict)
    (db : Database) : Database :=
  (teamXStageItemInputLookup item).values.foldl
    (fun db k => updateTeamStats db tid k (d.getD k (initialStatistics item.type))) db

theorem recalculateRanking_eq_ok {E : ExpectedScore} {db db' : Database} {tid : TournamentId}
    {item : StageItemWithRounds} : recalculateRankingForStageItem E db tid item = .ok db' ↔
      ∃ ranking d, getRankingForStageItem db tid item.id = some ranking ∧
        determineRankingForStageItem E item ranking = .ok d ∧ db' = storeStatistics tid item d db := by
  constructor
  · intro h
    obtain ⟨ranking, hranking, h⟩ := bind_eq_ok.mp h
    obtain ⟨d, hd, h⟩ := bind_eq_ok.mp h
    cases h
    exact ⟨ranking, d, orRaise_eq_ok.mp hranking, hd, rfl⟩
  · rintro ⟨ranking, d, hranking, hd, rfl⟩
    exact bind_eq_ok.mpr ⟨ranking, orRaise_eq_ok.mpr hranking, bind_eq_ok.mpr ⟨d, hd, rfl⟩⟩

section Store

variable {tid : TournamentId} {f : StageItemInputId → TeamStatistics}

/-- What the statements for some inputs leave of a row. -/
def restored (tid : TournamentId) (ks : List StageItemInputId) (f : StageItemInputId → TeamStatistics)
    (i : StageItemInputRow) : StageItemInputRow :=
  if i.tournamentId = tid ∧ i.id ∈ ks then i.withCached (f i.id).cached else i

theorem foldl_updateTeamStats_find? (ks : List StageItemInputId) (db : Database)
    (x : StageItemInputId) :
    (ks.foldl (fun db k => updateTeamStats db tid k (f k)) db).stageItemInputs.find? x =
      (db.stageItemInputs.find? x).map (restored tid ks f) := by
  induction ks generalizing db with
  | nil =>
    rw [List.foldl_nil]
    exact (Option.map_congr fun i _ => if_neg fun h => List.not_mem_nil h.2).trans Option.map_id'
      |>.symm
  | cons k ks ih =>
    rw [List.foldl_cons, ih, updateTeamStats, Table.find?_update, Option.map_map]
    refine Option.map_congr fun i _ => ?_
    rw [Function.comp]
    by_cases hk : i.tournamentId = tid ∧ i.id = k
    · obtain ⟨ht, rfl⟩ := hk
      have hone : (i.tournamentId == tid && i.id == i.id) = true := by simp [ht]
      rw [if_pos hone, restored, restored, if_pos (show _ ∧ _ from ⟨ht, List.mem_cons_self⟩)]
      split <;> rfl
    · have hno : ¬ (i.tournamentId == tid && i.id == k) = true := by simpa using hk
      rw [if_neg hno, restored, restored]
      simp only [List.mem_cons]
      by_cases hks : i.tournamentId = tid ∧ i.id ∈ ks
      · rw [if_pos hks, if_pos ⟨hks.1, Or.inr hks.2⟩]
      · rw [if_neg hks, if_neg fun h => h.2.elim (fun e => hk ⟨h.1, e⟩) fun e => hks ⟨h.1, e⟩]

end Store

theorem noTwoAgree_pairwise {α β : Type} [DecidableEq β] {f : α → Option β} {l : List α}
    (h : noTwoAgree f l = true) : l.Pairwise fun a b => ∀ x, f a = some x → f b ≠ some x := by
  induction l with
  | nil => exact .nil
  | cons a l ih =>
    rw [noTwoAgree, Bool.and_eq_true, Option.all_eq_true] at h
    refine .cons (fun b hb x hx => ?_) (ih h.2)
    simpa using List.all_eq_true.mp (h.1 x hx) b hb

theorem noTwoAgree_inj {α β : Type} [DecidableEq β] {f : α → Option β} {l : List α}
    (h : noTwoAgree f l = true) {a b : α} (ha : a ∈ l) (hb : b ∈ l) {x : β} (hax : f a = some x)
    (hbx : f b = some x) : a = b := by
  have : Std.Symm fun a b => ∀ x, f a = some x → f b ≠ some x :=
    ⟨fun a b h x hb ha => h x ha hb⟩
  by_contra hne
  exact (noTwoAgree_pairwise h).forall ha hb hne x hax hbx

/-- A team has one input of a stage item. -/
theorem TeamsOnce.eq_of_team {db : Database} (h : TeamsOnce db) {a b : StageItemInputRow}
    (ha : a ∈ db.stageItemInputs.rows) (hb : b ∈ db.stageItemInputs.rows)
    (hitem : a.stageItemId = b.stageItemId) {t : TeamId} (hat : a.teamId = some t)
    (hbt : b.teamId = some t) : a = b := by
  refine noTwoAgree_inj h ha hb (x := (b.stageItemId, t)) ?_ ?_
  · rw [StageItemInputRow.teamKey, hat, Option.map_some, hitem]
  · rw [StageItemInputRow.teamKey, hbt, Option.map_some]

/-- No two inputs of a stage item hold one team, so the lookup has all inputs with a team. -/
theorem teamLookup_values {db : Database} (hU : TeamsOnce db) (tid : TournamentId)
    (row : StageItemRow) (x : StageItemInputId) :
    x ∈ (teamXStageItemInputLookup (loadStageItem db tid row)).values ↔
      ∃ i ∈ (loadStageItem db tid row).inputs, i.teamId.isSome ∧ i.id = x := by
  have hpair : ((loadStageItem db tid row).inputs.map (·.toStageItemInputRow)).Pairwise
      fun a b => ∀ t, a.teamId = some t → b.teamId ≠ some t := by
    have hperm : ((loadStageItem db tid row).inputs.map (·.toStageItemInputRow)).Perm
        (db.stageItemInputs.rows.filter fun i => i.stageItemId == row.id && i.tournamentId == tid) := by
      refine ((List.perm_insertionSort _ _).map _).trans (List.Perm.of_eq ?_)
      rw [itemInputs, List.filter_map, List.map_map, List.filter_filter]
      refine (List.map_congr_left fun i _ => rfl).trans ((List.map_id _).trans ?_)
      exact List.filter_congr fun i _ => Bool.and_comm _ _
    refine (List.Pairwise.perm ?_ hperm.symm fun h t ht h' => h t h' ht)
    have hrows := (noTwoAgree_pairwise hU).filter
      fun i => i.stageItemId == row.id && i.tournamentId == tid
    refine hrows.imp_of_mem fun {a b} ha hb h t hta htb => ?_
    have hsame : a.stageItemId = b.stageItemId := by
      have ha := (List.mem_filter.mp ha).2
      have hb := (List.mem_filter.mp hb).2
      simp only [Bool.and_eq_true, beq_iff_eq] at ha hb
      rw [ha.1, hb.1]
    refine h (a.stageItemId, t) (by rw [StageItemInputRow.teamKey, hta]; rfl) ?_
    rw [StageItemInputRow.teamKey, htb, hsame]
    rfl
  have hkeys : (((loadStageItem db tid row).inputs.filterMap fun i =>
      i.teamId.map fun t => (t, i.id)).map Prod.fst).Nodup := by
    have hlist : ((loadStageItem db tid row).inputs.filterMap fun i =>
        i.teamId.map fun t => (t, i.id)).map Prod.fst =
          ((loadStageItem db tid row).inputs.map (·.toStageItemInputRow)).filterMap (·.teamId) := by
      rw [List.map_filterMap, List.filterMap_map]
      refine List.filterMap_congr fun i _ => ?_
      rw [Option.map_map]
      exact Option.map_id'
    rw [hlist]
    refine List.Pairwise.filterMap _ (fun a b h t ht u hu e => ?_) hpair
    exact h t ht (e ▸ hu)
  rw [teamXStageItemInputLookup, Dict.values, Dict.ofList_entries hkeys, List.map_filterMap,
    List.mem_filterMap]
  refine exists_congr fun i => and_congr_right fun _ => ?_
  rw [Option.map_map, Option.map_eq_some_iff, Option.isSome_iff_exists]
  constructor
  · rintro ⟨t, ht, h⟩
    exact ⟨⟨t, ht⟩, h⟩
  · rintro ⟨⟨t, ht⟩, h⟩
    exact ⟨t, ht, h⟩

/-! ## 3. The results in terms of rows -/

/-- The input belongs to the stage item. -/
def Database.knows (db : Database) (k : StageItemId) (i : StageItemInputId) : Bool :=
  (db.stageItemInputs.find? i).any (·.stageItemId == k)

/-- The round is a published one. -/
def Database.published (db : Database) (r : RoundId) : Bool :=
  (db.rounds.find? r).any fun r => !r.isDraft

/-- The result of a match whose inputs are known. -/
def MatchRow.resultWith (known : StageItemInputId → Bool) (m : MatchRow) : Option Result :=
  match m.stageItemInput1Id.filter known, m.stageItemInput2Id.filter known with
  | some i1, some i2 =>
    if m.stageItemInput1Score != 0 || m.stageItemInput2Score != 0 then
      some ⟨i1, i2, m.stageItemInput1Score, m.stageItemInput2Score⟩
    else none
  | _, _ => none

/-- What a match adds to the results of a stage item. -/
def Database.resultOf (db : Database) (k : StageItemId) (m : MatchRow) : Option Result :=
  if db.published m.roundId then m.resultWith (db.knows k) else none

/-- The results of a stage item in the order of the replay. -/
def storedResults (db : Database) (k : StageItemId) : List Result :=
  (db.rounds.rows.filter (·.stageItemId == k)).flatMap fun r =>
    (db.matches_.rows.filter (·.roundId == r.id)).filterMap (db.resultOf k)

section Loaded

variable {db : Database} {tid : TournamentId} {item : StageItemRow}

theorem joined_id (db : Database) (k : StageItemId) (x : Option StageItemInputId) :
    (x.bind fun i => (itemInputs db k).find? fun input => input.id == i).map (·.id) =
      x.filter (db.knows k) := by
  cases x with
  | none => rfl
  | some i =>
    rw [Option.bind_some, itemInputs_find?, Option.map_map]
    cases h : db.stageItemInputs.find? i with
    | none => rw [Option.filter_some_neg (by simp [Database.knows, h])]; rfl
    | some row =>
      have hid : row.id = i := db.stageItemInputs.key_of_find? h
      by_cases hk : row.stageItemId = k
      · rw [Option.filter_some_pos (by simpa using hk),
          Option.filter_some_pos (by simpa [Database.knows, h] using hk)]
        exact congrArg some hid
      · rw [Option.filter_some_neg (by simpa using hk),
          Option.filter_some_neg (by simpa [Database.knows, h] using hk)]
        rfl

/-- The result of a loaded match. -/
theorem matchWithInputs_result (k : StageItemId) (m : MatchRow) :
    (matchWithInputs (itemInputs db k) m).result? = m.resultWith (db.knows k) := by
  have h1 := joined_id db k m.stageItemInput1Id
  have h2 := joined_id db k m.stageItemInput2Id
  unfold Match.result? matchWithInputs MatchRow.resultWith
  rw [← h1, ← h2]
  cases m.stageItemInput1Id.bind fun i => (itemInputs db k).find? fun input => input.id == i with
  | none => rfl
  | some i1 =>
    cases m.stageItemInput2Id.bind fun i => (itemInputs db k).find? fun input => input.id == i with
    | none => rfl
    | some i2 => rfl

theorem loaded_rounds_sorted : (loadStageItem db tid item).rounds.insertionSort (·.id ≤ ·.id) =
    (loadStageItem db tid item).rounds :=
  List.Pairwise.insertionSort_eq
    (List.pairwise_map.mpr ((db.rounds.sorted_filter _).imp fun h => le_of_lt h))

theorem loaded_matches_sorted (inputs : List StageItemInput) (r : RoundRow) :
    (roundWithMatches db inputs r).matches_.insertionSort (·.id ≤ ·.id) =
      (roundWithMatches db inputs r).matches_ :=
  List.Pairwise.insertionSort_eq
    (List.pairwise_map.mpr ((db.matches_.sorted_filter _).imp fun h => le_of_lt h))

/-- The matches of a round with what they add to the results. -/
theorem round_results {k : StageItemId} {r : RoundRow} (hr : r ∈ db.rounds.rows) :
    (db.matches_.rows.filter (·.roundId == r.id)).filterMap (db.resultOf k) =
      if r.isDraft then [] else
        (roundWithMatches db (itemInputs db k) r).matches_.filterMap (·.result?) := by
  have hfind : db.rounds.find? r.id = some r := db.rounds.find?_key hr
  have hone : ∀ m ∈ db.matches_.rows.filter (·.roundId == r.id), db.resultOf k m =
      if r.isDraft then none else (matchWithInputs (itemInputs db k) m).result? := by
    intro m hm
    have hround : m.roundId = r.id := by simpa using (List.mem_filter.mp hm).2
    rw [matchWithInputs_result, Database.resultOf, Database.published, hround, hfind]
    cases hdraft : r.isDraft <;> simp [hdraft]
  rw [List.filterMap_congr hone]
  cases r.isDraft with
  | true => exact List.filterMap_eq_nil_iff.mpr fun _ _ => rfl
  | false =>
    rw [roundWithMatches, List.filterMap_map]
    rfl

/-- **The results of a loaded stage item are the stored ones.** -/
theorem loaded_results : (loadStageItem db tid item).results = storedResults db item.id := by
  have hpublished : (loadStageItem db tid item).publishedMatches =
      ((loadStageItem db tid item).rounds.filter fun r => !r.isDraft).flatMap (·.matches_) := by
    rw [StageItemWithRounds.publishedMatches, loaded_rounds_sorted]
    refine List.flatMap_congr fun r hr => ?_
    obtain ⟨row, -, -, rfl⟩ := mem_loaded_rounds.mp (List.mem_filter.mp hr).1
    exact loaded_matches_sorted _ row
  rw [StageItemWithRounds.results, hpublished, loadStageItem, storedResults, List.filter_map,
    List.flatMap_map, List.filterMap_flatMap]
  have hrows : ∀ r ∈ db.rounds.rows.filter (·.stageItemId == item.id), r ∈ db.rounds.rows :=
    fun r hr => (List.mem_filter.mp hr).1
  generalize db.rounds.rows.filter (·.stageItemId == item.id) = rows at hrows
  induction rows with
  | nil => rfl
  | cons r rows ih =>
    have ih := ih fun r hr => hrows r (List.mem_cons_of_mem _ hr)
    rw [List.flatMap_cons, round_results (hrows r List.mem_cons_self), ← ih, List.filter_cons]
    cases hdraft : r.isDraft with
    | true => rw [if_neg (by simp [roundWithMatches, hdraft])]; rfl
    | false => rw [if_pos (by simp [roundWithMatches, hdraft]), List.flatMap_cons]; rfl

end Loaded

/-- What the results read of a match. -/
def Database.reading (db : Database) (k : StageItemId) (m : MatchRow) :
    MatchId × RoundId × Option Result := (m.id, m.roundId, db.resultOf k m)

/-- **Matches that read alike have the same results.** -/
theorem storedResults_congr {db db' : Database} {k : StageItemId} (hrounds : db'.rounds = db.rounds)
    (h : ∀ x, (db'.matches_.find? x).map (db'.reading k) = (db.matches_.find? x).map (db.reading k)) :
    storedResults db' k = storedResults db k := by
  have hrows : db'.matches_.rows.map (db'.reading k) = db.matches_.rows.map (db.reading k) :=
    Table.map_rows_congr (k := Prod.fst) (fun _ => rfl) (fun _ => rfl) h
  have hround : ∀ (c : Database) (r : RoundId),
      (c.matches_.rows.filter (·.roundId == r)).filterMap (c.resultOf k) =
        ((c.matches_.rows.map (c.reading k)).filter (·.2.1 == r)).filterMap (·.2.2) := by
    intro c r
    rw [List.filter_map, List.filterMap_map]
    rfl
  unfold storedResults
  rw [hrounds]
  refine List.flatMap_congr fun r _ => ?_
  rw [hround, hround, hrows]

theorem MatchRow.resultWith_of_unscored {m : MatchRow} (h1 : m.stageItemInput1Score = 0)
    (h2 : m.stageItemInput2Score = 0) (known : StageItemInputId → Bool) :
    m.resultWith known = none := by
  unfold MatchRow.resultWith
  split
  · exact if_neg (by simp [h1, h2])
  · rfl

theorem MatchRow.resultWith_of_unknown {m : MatchRow} {known : StageItemInputId → Bool} {s : Side}
    (h : (m.inputId s).filter known = none) : m.resultWith known = none := by
  unfold MatchRow.resultWith
  cases s with
  | one =>
    have h : m.stageItemInput1Id.filter known = none := h
    rw [h]
  | two =>
    have h : m.stageItemInput2Id.filter known = none := h
    rw [h]
    cases m.stageItemInput1Id.filter known <;> rfl

end Brackets
