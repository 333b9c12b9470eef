/-
  File:      Brackets/Ranking/Standings.lean
  Subject:   The standings of a stage item.

  * `Ahead` is the five-part order of the standings; distinct slots make it total;
  * `Relisting` are two listings of one stage item: the inputs, the rounds and the matches of a
    round in another order. The replay sorts by ids, so it goes through the same matches
    (`Relisting.results`), and dictionaries with the same contents sort alike;
  * `Rounded.determineTeamRanking_standings`: what the standings list and in which order;
  * `Rounded.determineTeamRanking_relisted`: they are the same for every listing.
-/
import Mathlib.Data.Prod.Lex
import Brackets.Ranking.Totals

namespace Brackets

open Library

/-! ## 1. The order -/

/-- Strictly ahead: more points, then a better score difference, then a higher score, then more
    wins, then the lower slot. -/
def Ahead (a b : RankingEntry × Int) : Prop :=
  b.1.2.points < a.1.2.points ∨ b.1.2.points = a.1.2.points ∧
  (b.1.2.scoreDifference < a.1.2.scoreDifference ∨
    b.1.2.scoreDifference = a.1.2.scoreDifference ∧
  (b.1.2.scoreFor < a.1.2.scoreFor ∨ b.1.2.scoreFor = a.1.2.scoreFor ∧
  (b.1.2.wins < a.1.2.wins ∨ b.1.2.wins = a.1.2.wins ∧ a.2 < b.2)))

/-- The sort key. -/
def sortKey (a : RankingEntry × Int) : Ratᵒᵈ ×ₗ Intᵒᵈ ×ₗ Intᵒᵈ ×ₗ Intᵒᵈ ×ₗ Int :=
  toLex (.toDual a.1.2.points, toLex (.toDual a.1.2.scoreDifference,
    toLex (.toDual a.1.2.scoreFor, toLex (.toDual a.1.2.wins, a.2))))

theorem standsBefore_iff {a b : RankingEntry × Int} : standsBefore a b ↔ sortKey a ≤ sortKey b := by
  simp only [standsBefore, sortKey, Prod.Lex.toLex_le_toLex, OrderDual.toDual_lt_toDual,
    OrderDual.toDual_inj, eq_comm]

theorem ahead_iff {a b : RankingEntry × Int} : Ahead a b ↔ sortKey a < sortKey b := by
  simp only [Ahead, sortKey, Prod.Lex.toLex_lt_toLex, OrderDual.toDual_lt_toDual,
    OrderDual.toDual_inj, eq_comm]

instance : Std.Total standsBefore where
  total a b := by
    rw [standsBefore_iff, standsBefore_iff]
    exact le_total _ _

instance : IsTrans _ standsBefore where
  trans a b c := by
    rw [standsBefore_iff, standsBefore_iff, standsBefore_iff]
    exact le_trans

theorem sortKey_slot {a b : RankingEntry × Int} (h : sortKey a = sortKey b) : a.2 = b.2 := by
  simp only [sortKey, toLex_inj, Prod.mk.injEq] at h
  exact h.2.2.2.2

theorem standsBefore_antisymm {a b : RankingEntry × Int} (h : standsBefore a b)
    (h' : standsBefore b a) : a.2 = b.2 :=
  sortKey_slot (le_antisymm (standsBefore_iff.mp h) (standsBefore_iff.mp h'))

theorem Ahead.of_standsBefore {a b : RankingEntry × Int} (h : standsBefore a b) (hne : a.2 ≠ b.2) :
    Ahead a b :=
  ahead_iff.mpr (lt_of_le_of_ne (standsBefore_iff.mp h) fun e => hne (sortKey_slot e))

/-! ## 2. Listings -/

/-- Inputs, rounds and matches have ids of their own, inputs have slots of their own, and the
    matches use inputs of the stage item. -/
structure StageItemWithRounds.Listed (item : StageItemWithRounds) : Prop where
  inputIds : (item.inputs.map (·.id)).Nodup
  slots : (item.inputs.map (·.slot)).Nodup
  roundIds : (item.rounds.map (·.id)).Nodup
  matchIds : ((item.rounds.flatMap (·.matches_)).map (·.id)).Nodup
  own : ∀ r ∈ item.rounds, ∀ m ∈ r.matches_, ∀ side i, m.input side = some i →
    ∃ j ∈ item.inputs, j.id = i.id

/-- The same round with its matches in another order. -/
def RoundRelisting (r r' : RoundWithMatches) : Prop :=
  r'.toRoundRow = r.toRoundRow ∧ r'.matches_.Perm r.matches_

/-- The same stage item with inputs, rounds and the matches of the rounds in another order. -/
structure Relisting (item item' : StageItemWithRounds) : Prop where
  row : item'.toStageItemRow = item.toStageItemRow
  inputs : item'.inputs.Perm item.inputs
  rounds : ∃ rounds, rounds.Perm item.rounds ∧ List.Forall₂ RoundRelisting rounds item'.rounds

/-- The round with its matches in id order. -/
def RoundWithMatches.sorted (r : RoundWithMatches) : RoundWithMatches :=
  { r with matches_ := r.matches_.insertionSort (·.id ≤ ·.id) }

theorem publishedMatches_sorted (item : StageItemWithRounds) : item.publishedMatches =
    (((item.rounds.map (·.sorted)).insertionSort (·.id ≤ ·.id)).filter fun r =>
      !r.isDraft).flatMap (·.matches_) := by
  have hsort : (item.rounds.insertionSort (·.id ≤ ·.id)).map (·.sorted) =
      (item.rounds.map (·.sorted)).insertionSort (·.id ≤ ·.id) :=
    List.map_insertionSort _ _ _ _ fun _ _ _ _ => Iff.rfl
  rw [← hsort, List.filter_map, List.flatMap_map]
  rfl

/-- Elements with ids of their own are sorted the same way from every order. -/
theorem insertionSort_ids {α : Type} {l l' : List α} {id : α → Int} (hl : (l.map id).Nodup)
    (h : l'.Perm l) : l'.insertionSort (id · ≤ id ·) = l.insertionSort (id · ≤ id ·) :=
  insertionSort_perm (fun _ ha _ hb hab hba =>
    List.inj_on_of_nodup_map hl ha hb (le_antisymm hab hba)) h

theorem RoundRelisting.sorted {r r' : RoundWithMatches} (h : RoundRelisting r r')
    (hids : (r.matches_.map (·.id)).Nodup) : r'.sorted = r.sorted := by
  unfold RoundWithMatches.sorted
  rw [insertionSort_ids hids h.2, h.1]

theorem sorted_rounds {rounds rounds' : List RoundWithMatches}
    (h : List.Forall₂ RoundRelisting rounds rounds')
    (hids : ∀ r ∈ rounds, (r.matches_.map (·.id)).Nodup) :
    rounds'.map (·.sorted) = rounds.map (·.sorted) := by
  induction h with
  | nil => rfl
  | cons hr _ ih =>
    rw [List.map_cons, List.map_cons, hr.sorted (hids _ List.mem_cons_self),
      ih fun r hr => hids r (List.mem_cons_of_mem _ hr)]

section Relisting

variable {item item' : StageItemWithRounds} (hitem : item.Listed) (h : Relisting item item')

include hitem in
theorem StageItemWithRounds.Listed.roundMatchIds {r : RoundWithMatches} (hr : r ∈ item.rounds) :
    (r.matches_.map (·.id)).Nodup := by
  have hids := hitem.matchIds
  rw [List.map_flatMap, List.nodup_flatMap] at hids
  exact hids.1 r hr

include hitem h

theorem Relisting.publishedMatches : item'.publishedMatches = item.publishedMatches := by
  obtain ⟨rounds, hperm, hrounds⟩ := h.rounds
  have hsame := sorted_rounds hrounds fun r hr => hitem.roundMatchIds (hperm.mem_iff.mp hr)
  have hids : ((item.rounds.map (·.sorted)).map (·.id)).Nodup := by
    rw [List.map_map]
    exact hitem.roundIds
  rw [publishedMatches_sorted, publishedMatches_sorted, hsame,
    insertionSort_ids hids (hperm.map (·.sorted))]

theorem Relisting.results : item'.results = item.results := by
  unfold StageItemWithRounds.results
  rw [h.publishedMatches hitem]

omit hitem in
theorem Relisting.seated : item'.seated.Perm item.seated := (h.inputs.filter _).map _

end Relisting

/-! ## 3. Replaying into another dictionary -/

section Replay

variable {A : Rounding} {E : ExpectedScore} {type : StageType} {ranking : RankingRow}

theorem getD_of_get? {d d' : StatisticsDict} (h : d'.get? = d.get?) (k : StageItemInputId)
    (s : TeamStatistics) : d'.getD k s = d.getD k s := by
  rw [Dict.getD, Dict.getD, h]

theorem get?_set_congr {d d' : StatisticsDict} (h : d'.get? = d.get?) (k : StageItemInputId)
    (s : TeamStatistics) : (d'.set k s).get? = (d.set k s).get? := by
  funext j
  rw [Dict.get?_set, Dict.get?_set, h]

/-- The contents of the dictionary, or the failure. -/
def contents (x : Outcome StatisticsDict) : Outcome (StageItemInputId → Option TeamStatistics) :=
  x.map Dict.get?

/-- Outcomes with the same contents, continued by steps that read only the contents. -/
theorem contents_bind {x x' : Outcome StatisticsDict} {f : StatisticsDict → Outcome StatisticsDict}
    (h : contents x' = contents x)
    (hf : ∀ d d' : StatisticsDict, d'.get? = d.get? → contents (f d') = contents (f d)) :
    contents (x' >>= f) = contents (x >>= f) := by
  cases x with
  | error e =>
    cases x' with
    | error e' =>
      cases h
      rfl
    | ok d' => cases h
  | ok d =>
    cases x' with
    | error e' => cases h
    | ok d' => exact hf d d' (Except.ok.inj h)

theorem seatedStatistics_get? (seated : List StageItemInputId) (k : StageItemInputId) :
    (seatedStatistics type seated).get? k =
      if k ∈ seated then some (initialStatistics type) else none := by
  have run : ∀ (l : List StageItemInputId) (d : StatisticsDict),
      (l.foldl (fun d k => d.set k (initialStatistics type)) d).get? k =
        if k ∈ l then some (initialStatistics type) else d.get? k := by
    intro l
    induction l with
    | nil => exact fun d => (if_neg List.not_mem_nil).symm
    | cons j l ih =>
      intro d
      rw [List.foldl_cons, ih, Dict.get?_set]
      by_cases hl : k ∈ l
      · rw [if_pos hl, if_pos (List.mem_cons_of_mem _ hl)]
      · rw [if_neg hl]
        by_cases hk : k = j
        · rw [if_pos hk, if_pos (hk ▸ List.mem_cons_self)]
        · rw [if_neg hk, if_neg fun h => (List.mem_cons.mp h).elim hk hl]
  exact run seated .empty

namespace Rounded

theorem setStatistics_contents {d d' : StatisticsDict} (h : d'.get? = d.get?) (side : Side)
    (r : Result) (q : Rat × Rat) :
    contents (setStatisticsForStageItemInput A E type ranking side d' r q) =
      contents (setStatisticsForStageItemInput A E type ranking side d r q) := by
  unfold setStatisticsForStageItemInput
  rw [getD_of_get? h]
  cases statisticsAfter A E type ranking side r q
      (d.getD (r.input side) (initialStatistics type)) with
  | error e => rfl
  | ok s => exact congrArg Except.ok (get?_set_congr h _ s)

theorem replayResult_contents {d d' : StatisticsDict} (h : d'.get? = d.get?) (r : Result) :
    contents (replayResult A E type ranking d' r) =
      contents (replayResult A E type ranking d r) := by
  unfold replayResult
  rw [getD_of_get? h, getD_of_get? h]
  exact contents_bind (setStatistics_contents h .one r _)
    fun _ _ h => setStatistics_contents h .two r _

theorem foldlM_contents (rs : List Result) {d d' : StatisticsDict} (h : d'.get? = d.get?) :
    contents (rs.foldlM (replayResult A E type ranking) d') =
      contents (rs.foldlM (replayResult A E type ranking) d) := by
  induction rs generalizing d d' with
  | nil => exact congrArg Except.ok h
  | cons r rs ih =>
    rw [List.foldlM_cons, List.foldlM_cons]
    exact contents_bind (replayResult_contents h r) fun _ _ h => ih h

/-- The order of the inputs plays no part for the contents. -/
theorem replay_contents {seated seated' : List StageItemInputId} (h : seated'.Perm seated)
    (results : List Result) : contents (replay A E type ranking seated' results) =
      contents (replay A E type ranking seated results) := by
  refine foldlM_contents results ?_
  funext k
  rw [seatedStatistics_get?, seatedStatistics_get?]
  simp only [h.mem_iff]

end Rounded

end Replay

/-! ## 4. Whom the replay lists -/

section Keys

variable {A : Rounding} {E : ExpectedScore} {type : StageType} {ranking : RankingRow}

namespace Rounded

theorem setStatistics_keys {side : Side} {d d' : StatisticsDict} {r : Result} {q : Rat × Rat}
    (h : setStatisticsForStageItemInput A E type ranking side d r q = .ok d')
    (k : StageItemInputId) : k ∈ d'.keys ↔ k ∈ d.keys ∨ r.input side = k := by
  obtain ⟨s, -, rfl⟩ := setStatistics_eq_ok.mp h
  rw [Dict.mem_keys_set, eq_comm (a := k)]

theorem replay_keys {seated : List StageItemInputId} {results : List Result} {d : StatisticsDict}
    (h : replay A E type ranking seated results = .ok d) (k : StageItemInputId) :
    k ∈ d.keys ↔ k ∈ seated ∨ ∃ r ∈ results, ∃ side, r.input side = k := by
  have run : ∀ (rs : List Result) (d0 : StatisticsDict),
      rs.foldlM (replayResult A E type ranking) d0 = .ok d →
      (k ∈ d.keys ↔ k ∈ d0.keys ∨ ∃ r ∈ rs, ∃ side, r.input side = k) := by
    intro rs
    induction rs with
    | nil =>
      intro d0 h
      cases h
      simp
    | cons r rs ih =>
      intro d0 h
      rw [List.foldlM_cons] at h
      obtain ⟨d1, h1, h⟩ := bind_eq_ok.mp h
      obtain ⟨dm, hm1, hm2⟩ := bind_eq_ok.mp h1
      have hside : (∃ side, r.input side = k) ↔ r.input .one = k ∨ r.input .two = k := by
        constructor
        · rintro ⟨side, hside⟩
          cases side
          · exact Or.inl hside
          · exact Or.inr hside
        · rintro (hside | hside)
          · exact ⟨_, hside⟩
          · exact ⟨_, hside⟩
      rw [ih d1 h, setStatistics_keys hm2, setStatistics_keys hm1, List.exists_mem_cons_iff, hside]
      tauto
  have hseated : k ∈ (seatedStatistics type seated).keys ↔ k ∈ seated := by
    rw [← Dict.get?_isSome, seatedStatistics_get?]
    split
    · next h => exact ⟨fun _ => h, fun _ => rfl⟩
    · next h => exact ⟨fun e => absurd e Bool.false_ne_true, fun e => absurd e h⟩
  rw [run results _ h, hseated]

end Rounded

theorem replay_keys {seated : List StageItemInputId} {results : List Result} {d : StatisticsDict}
    (h : replay E type ranking seated results = .ok d) (k : StageItemInputId) :
    k ∈ d.keys ↔ k ∈ seated ∨ ∃ r ∈ results, ∃ side, r.input side = k :=
  Rounded.replay_keys (A := .exact) h k

end Keys

theorem Match.input_result {m : Match} {r : Result} (h : m.result? = some r) (side : Side) :
    ∃ i, m.input side = some i ∧ i.id = r.input side := by
  unfold Match.result? at h
  split at h
  · next i1 i2 h1 h2 =>
    split at h
    · cases h
      cases side with
      | one => exact ⟨i1, h1, rfl⟩
      | two => exact ⟨i2, h2, rfl⟩
    · cases h
  · cases h

/-- The input takes part in a match that counts. -/
def StageItemWithRounds.HasPlayed (item : StageItemWithRounds) (k : StageItemInputId) : Prop :=
  ∃ m ∈ item.played, ∃ side i, m.input side = some i ∧ i.id = k

theorem hasPlayed_iff_results {item : StageItemWithRounds} {k : StageItemInputId} :
    (∃ r ∈ item.results, ∃ side, r.input side = k) ↔ item.HasPlayed k := by
  constructor
  · rintro ⟨r, hr, side, hk⟩
    obtain ⟨m, hm, hresult⟩ := List.mem_filterMap.mp hr
    obtain ⟨i, hi, hid⟩ := Match.input_result hresult side
    have hcounts : m.counts = true := by rw [m.counts_eq, hresult, Option.isSome_some]
    exact ⟨m, (countedMatches_perm item).mem_iff.mp (List.mem_filter.mpr ⟨hm, hcounts⟩), side, i, hi,
      hid.trans hk⟩
  · rintro ⟨m, hm, side, i, hi, hid⟩
    obtain ⟨hm, hcounts⟩ := List.mem_filter.mp ((countedMatches_perm item).mem_iff.mpr hm)
    rw [m.counts_eq] at hcounts
    obtain ⟨r, hr⟩ := Option.isSome_iff_exists.mp hcounts
    obtain ⟨j, hj, hjd⟩ := Match.input_result hr side
    obtain rfl : i = j := Option.some.inj (hi.symm.trans hj)
    exact ⟨r, List.mem_filterMap.mpr ⟨m, hm, hr⟩, side, hjd.symm.trans hid⟩

theorem mem_seated {item : StageItemWithRounds} {k : StageItemInputId} :
    k ∈ item.seated ↔ ∃ i ∈ item.inputs, i.id = k ∧ i.teamId.isSome = true := by
  rw [StageItemWithRounds.seated, List.mem_map]
  constructor
  · rintro ⟨i, hi, rfl⟩
    obtain ⟨hi, hteam⟩ := List.mem_filter.mp hi
    exact ⟨i, hi, rfl, hteam⟩
  · rintro ⟨i, hi, rfl, hteam⟩
    exact ⟨i, List.mem_filter.mpr ⟨hi, hteam⟩, rfl⟩

theorem mem_played {item : StageItemWithRounds} {m : Match} (h : m ∈ item.played) :
    ∃ r ∈ item.rounds, m ∈ r.matches_ := by
  obtain ⟨r, hr, hm⟩ := List.mem_flatMap.mp h
  exact ⟨r, (List.mem_filter.mp hr).1, (List.mem_filter.mp hm).1⟩

/-! ## 5. The standings -/

/-- `slots` -/
def slotsOf (item : StageItemWithRounds) : Dict StageItemInputId Int :=
  .ofList (item.inputs.map fun i => (i.id, i.slot))

/-- The entries of the replay with the slots of their inputs. -/
def keyedEntries (item : StageItemWithRounds) (d : StatisticsDict) : List (RankingEntry × Int) :=
  d.entries.map fun e => (e, (slotsOf item).getD e.1 0)

section Standings

variable {A : Rounding} {E : ExpectedScore} {ranking : RankingRow}
  {item item' : StageItemWithRounds} {d d' : StatisticsDict}

theorem slotsOf_get? (hids : (item.inputs.map (·.id)).Nodup) {k : StageItemInputId} {slot : Int} :
    (slotsOf item).get? k = some slot ↔ ∃ i ∈ item.inputs, i.id = k ∧ i.slot = slot := by
  have hnodup : ((item.inputs.map fun i => (i.id, i.slot)).map Prod.fst).Nodup := by
    rw [List.map_map]
    exact hids
  rw [Dict.get?_eq_some, slotsOf, Dict.ofList_entries hnodup, List.mem_map]
  simp only [Prod.mk.injEq]

theorem slotsOf_perm (hids : (item.inputs.map (·.id)).Nodup) (h : item'.inputs.Perm item.inputs) :
    (slotsOf item').get? = (slotsOf item).get? := by
  have hids' : (item'.inputs.map (·.id)).Nodup := ((h.map (·.id)).nodup_iff).mpr hids
  funext k
  refine Option.ext fun slot => ?_
  rw [slotsOf_get? hids', slotsOf_get? hids]
  simp only [h.mem_iff]

theorem slotsOf_isSome (k : StageItemInputId) :
    ((slotsOf item).get? k).isSome ↔ ∃ i ∈ item.inputs, i.id = k := by
  rw [Dict.get?_isSome, slotsOf, Dict.mem_keys_ofList, List.map_map, List.mem_map]
  rfl

theorem keyedEntries_perm : ((keyedEntries item d).insertionSort standsBefore |>.map (·.1)).Perm
    d.entries := by
  refine ((List.perm_insertionSort standsBefore _).map _).trans (List.Perm.of_eq ?_)
  rw [keyedEntries, List.map_map]
  exact List.map_id d.entries

/-- **The standings are the sorted entries of the replay**, if everyone in it has a slot. -/
theorem Rounded.determineTeamRanking_eq_ok {l : List RankingEntry} :
    Rounded.determineTeamRankingForStageItem A E item ranking = .ok l ↔
      ∃ d, Rounded.determineRankingForStageItem A E item ranking = .ok d ∧
        (∀ k ∈ d.keys, ∃ i ∈ item.inputs, i.id = k) ∧
        l = ((keyedEntries item d).insertionSort standsBefore).map (·.1) := by
  have hkeyed : ∀ d : StatisticsDict, (∀ k ∈ d.keys, ∃ i ∈ item.inputs, i.id = k) →
      (d.entries.mapM fun e => do
        let slot ← orRaise ((slotsOf item).get? e.1) (.crash .keyError)
        .ok (e, slot) : Outcome (List (RankingEntry × Int))) = .ok (keyedEntries item d) := by
    intro d hslots
    refine mapM_eq_ok fun e he => ?_
    obtain ⟨slot, hslot⟩ := Option.isSome_iff_exists.1
      ((slotsOf_isSome e.1).2 (hslots e.1 (List.mem_map_of_mem he)))
    rw [Dict.getD, hslot]
    rfl
  constructor
  · intro h
    obtain ⟨d, hd, h⟩ := bind_eq_ok.mp h
    obtain ⟨keyed, hmap, h⟩ := bind_eq_ok.mp h
    have hslots : ∀ k ∈ d.keys, ∃ i ∈ item.inputs, i.id = k := by
      intro k hk
      obtain ⟨e, he, rfl⟩ := List.mem_map.mp hk
      obtain ⟨b, -, hb⟩ := mem_of_mapM_ok hmap e he
      obtain ⟨slot, hslot, -⟩ := bind_eq_ok.mp hb
      have hsome := orRaise_eq_ok.mp hslot
      exact (slotsOf_isSome e.1).1 (Option.isSome_iff_exists.2 ⟨slot, hsome⟩)
    obtain rfl : keyedEntries item d = keyed :=
      Except.ok.inj ((hkeyed d hslots).symm.trans hmap)
    exact ⟨d, hd, hslots, (Except.ok.inj h).symm⟩
  · rintro ⟨d, hd, hslots, rfl⟩
    exact bind_eq_ok.mpr ⟨d, hd, bind_eq_ok.mpr ⟨_, hkeyed d hslots, rfl⟩⟩

theorem determineTeamRanking_eq_ok {l : List RankingEntry} :
    determineTeamRankingForStageItem E item ranking = .ok l ↔
      ∃ d, determineRankingForStageItem E item ranking = .ok d ∧
        (∀ k ∈ d.keys, ∃ i ∈ item.inputs, i.id = k) ∧
        l = ((keyedEntries item d).insertionSort standsBefore).map (·.1) :=
  Rounded.determineTeamRanking_eq_ok

theorem Rounded.determineTeamRanking_error {e : Failure}
    (h : Rounded.determineRankingForStageItem A E item ranking = .error e) :
    Rounded.determineTeamRankingForStageItem A E item ranking = .error e := by
  unfold Rounded.determineTeamRankingForStageItem
  rw [h]
  rfl

section Listed

variable (hitem : item.Listed)
  (hd : Rounded.determineRankingForStageItem A E item ranking = .ok d)

include hd in
theorem ranking_keys (k : StageItemInputId) : k ∈ d.keys ↔
    (∃ i ∈ item.inputs, i.id = k ∧ i.teamId.isSome = true) ∨ item.HasPlayed k := by
  rw [Rounded.determineRanking_eq_replay] at hd
  rw [Rounded.replay_keys hd, hasPlayed_iff_results, mem_seated]

include hitem hd

/-- Everyone in the ranking has a slot. -/
theorem ranking_slot {k : StageItemInputId} (hk : k ∈ d.keys) : ∃ i ∈ item.inputs, i.id = k ∧
    (slotsOf item).get? k = some i.slot := by
  have hinput : ∃ i ∈ item.inputs, i.id = k := by
    rcases (ranking_keys hd k).mp hk with ⟨i, hi, hid, -⟩ | ⟨m, hm, side, i, hi, hid⟩
    · exact ⟨i, hi, hid⟩
    · obtain ⟨r, hr, hm⟩ := mem_played hm
      obtain ⟨j, hj, hji⟩ := hitem.own r hr m hm side i hi
      exact ⟨j, hj, hji.trans hid⟩
  obtain ⟨i, hi, hid⟩ := hinput
  exact ⟨i, hi, hid, (slotsOf_get? hitem.inputIds).mpr ⟨i, hi, hid, rfl⟩⟩

theorem mem_keyedEntries {a : RankingEntry × Int} (ha : a ∈ keyedEntries item d) :
    a.1 ∈ d.entries ∧ ∃ i ∈ item.inputs, i.id = a.1.1 ∧ i.slot = a.2 := by
  obtain ⟨e, he, rfl⟩ := List.mem_map.mp ha
  obtain ⟨i, hi, hid, hslot⟩ := ranking_slot hitem hd (List.mem_map_of_mem he)
  refine ⟨he, i, hi, hid, ?_⟩
  rw [Dict.getD, hslot, Option.getD_some]

/-- A slot tells which entry it is. -/
theorem keyedEntries_inj {a b : RankingEntry × Int} (ha : a ∈ keyedEntries item d)
    (hb : b ∈ keyedEntries item d) (h : a.2 = b.2) : a = b := by
  obtain ⟨hae, i, hi, hia, his⟩ := mem_keyedEntries hitem hd ha
  obtain ⟨hbe, j, hj, hjb, hjs⟩ := mem_keyedEntries hitem hd hb
  obtain rfl : i = j := List.inj_on_of_nodup_map hitem.slots hi hj (his.trans (h.trans hjs.symm))
  have hentry : a.1 = b.1 := List.inj_on_of_nodup_map d.nodup hae hbe (hia.symm.trans hjb)
  exact Prod.ext hentry h

theorem Rounded.determineTeamRanking_eq :
    Rounded.determineTeamRankingForStageItem A E item ranking =
      .ok (((keyedEntries item d).insertionSort standsBefore).map (·.1)) := by
  refine determineTeamRanking_eq_ok.mpr ⟨d, hd, fun k hk => ?_, rfl⟩
  obtain ⟨i, hi, hid, -⟩ := ranking_slot hitem hd hk
  exact ⟨i, hi, hid⟩

/-- What the standings of the stage item list. -/
structure ListedStandings (item : StageItemWithRounds) (d : StatisticsDict) (l : List RankingEntry) :
    Prop where
  once : (l.map Prod.fst).Nodup
  listed : ∀ k, k ∈ l.map Prod.fst ↔
    (∃ i ∈ item.inputs, i.id = k ∧ i.teamId.isSome = true) ∨ item.HasPlayed k
  statistics : ∀ e ∈ l, d.get? e.1 = some e.2
  ahead : l.Pairwise fun a b => ∃ i ∈ item.inputs, ∃ j ∈ item.inputs, i.id = a.1 ∧ j.id = b.1 ∧
    Ahead (a, i.slot) (b, j.slot)

/-- **The standings list everyone with a team or a match that counts, best first.** -/
theorem Rounded.determineTeamRanking_standings : ∃ l,
    Rounded.determineTeamRankingForStageItem A E item ranking = .ok l ∧
      ListedStandings item d l := by
  refine ⟨_, determineTeamRanking_eq hitem hd, ?_, fun k => ?_, fun e he => ?_, ?_⟩
  · exact ((keyedEntries_perm.map Prod.fst).nodup_iff).mpr d.nodup
  · rw [(keyedEntries_perm.map Prod.fst).mem_iff]
    exact ranking_keys hd k
  · exact d.get?_eq_some.mpr (keyedEntries_perm.mem_iff.mp he)
  · rw [List.pairwise_map]
    have hnodup : ((keyedEntries item d).insertionSort standsBefore).Nodup := by
      refine List.Nodup.of_map (·.1) ?_
      exact (keyedEntries_perm.nodup_iff).mpr d.nodup.of_map
    have hsorted := (List.pairwise_insertionSort standsBefore (keyedEntries item d)).and hnodup
    refine hsorted.imp_of_mem fun {a b} ha hb h => ?_
    rw [List.mem_insertionSort] at ha hb
    obtain ⟨-, i, hi, hia, his⟩ := mem_keyedEntries hitem hd ha
    obtain ⟨-, j, hj, hjb, hjs⟩ := mem_keyedEntries hitem hd hb
    refine ⟨i, hi, j, hj, hia, hjb, ?_⟩
    rw [his, hjs]
    exact .of_standsBefore h.1 fun e => h.2 (keyedEntries_inj hitem hd ha hb e)

end Listed

theorem relisted_listed (hitem : item.Listed) (h : Relisting item item') : item'.Listed := by
  obtain ⟨rounds, hperm, hrounds⟩ := h.rounds
  have hids : item'.rounds.map (·.id) = rounds.map (·.id) := by
    clear hperm
    generalize item'.rounds = rounds' at hrounds
    induction hrounds with
    | nil => rfl
    | cons hr _ ih => rw [List.map_cons, List.map_cons, hr.1, ih]
  have hmatches : (item'.rounds.flatMap (·.matches_)).Perm (item.rounds.flatMap (·.matches_)) := by
    refine List.Perm.trans ?_ (hperm.flatMap_right _)
    clear hperm hids
    generalize item'.rounds = rounds' at hrounds
    induction hrounds with
    | nil => exact .refl _
    | cons hr _ ih =>
      rw [List.flatMap_cons, List.flatMap_cons]
      exact hr.2.append ih
  refine ⟨((h.inputs.map _).nodup_iff).mpr hitem.inputIds,
    ((h.inputs.map _).nodup_iff).mpr hitem.slots, ?_, ((hmatches.map _).nodup_iff).mpr hitem.matchIds,
    fun r hr m hm side i hi => ?_⟩
  · rw [hids]
    exact ((hperm.map _).nodup_iff).mpr hitem.roundIds
  · have hold := hmatches.mem_iff.mp (List.mem_flatMap.mpr ⟨r, hr, hm⟩)
    obtain ⟨r0, hr0, hm0⟩ := List.mem_flatMap.mp hold
    obtain ⟨j, hj, hid⟩ := hitem.own r0 hr0 m hm0 side i hi
    exact ⟨j, h.inputs.mem_iff.mpr hj, hid⟩

/-- **The standings are the same for every listing.** -/
theorem Rounded.determineTeamRanking_relisted (hitem : item.Listed) (h : Relisting item item') :
    Rounded.determineTeamRankingForStageItem A E item' ranking =
      Rounded.determineTeamRankingForStageItem A E item ranking := by
  have htype : item'.type = item.type := congrArg StageItemRow.type h.row
  have hcontents : contents (Rounded.determineRankingForStageItem A E item' ranking) =
      contents (Rounded.determineRankingForStageItem A E item ranking) := by
    rw [determineRanking_eq_replay, determineRanking_eq_replay, htype, h.results hitem]
    exact replay_contents h.seated item.results
  cases hd : Rounded.determineRankingForStageItem A E item ranking with
  | error e =>
    cases hd' : Rounded.determineRankingForStageItem A E item' ranking with
    | error e' =>
      rw [hd, hd'] at hcontents
      cases hcontents
      rw [determineTeamRanking_error hd, determineTeamRanking_error hd']
    | ok d' =>
      rw [hd, hd'] at hcontents
      cases hcontents
  | ok d =>
    cases hd' : Rounded.determineRankingForStageItem A E item' ranking with
    | error e' =>
      rw [hd, hd'] at hcontents
      cases hcontents
    | ok d' =>
      rw [hd, hd'] at hcontents
      have hget : d'.get? = d.get? := Except.ok.inj hcontents
      have hentries : (keyedEntries item' d').Perm (keyedEntries item d) := by
        have hslots := slotsOf_perm hitem.inputIds h.inputs
        unfold keyedEntries Dict.getD
        rw [hslots]
        exact (Dict.entries_perm fun k => congrFun hget k).map _
      rw [determineTeamRanking_eq (relisted_listed hitem h) hd', determineTeamRanking_eq hitem hd,
        insertionSort_perm (fun a ha b hb hab hba =>
          keyedEntries_inj hitem hd ha hb (standsBefore_antisymm hab hba)) hentries]

end Standings

/-! ### A Swiss duel and its rematch -/

/-- The group of two as a Swiss stage item. -/
def swissDuel : StageItemWithRounds := { duel with type := .swiss }

/-- The match is played a second time, the other way round. -/
def rematch : StageItemWithRounds :=
  { swissDuel with
    rounds := duel.rounds ++ duel.rounds.map fun r =>
      { r with
        id := 2
        matches_ := r.matches_.map fun m =>
          { m with
            id := 2, roundId := 2
            stageItemInput1Id := m.stageItemInput2Id, stageItemInput2Id := m.stageItemInput1Id
            stageItemInput1 := m.stageItemInput2, stageItemInput2 := m.stageItemInput1 } } }

/-- Every input of a match is one of the stage item, as a test. -/
def ownInputs (item : StageItemWithRounds) : Bool :=
  item.rounds.all fun r => r.matches_.all fun m =>
    m.stageItemInput1.all (fun i => item.inputs.any (·.id == i.id)) &&
      m.stageItemInput2.all (fun i => item.inputs.any (·.id == i.id))

theorem own_of_ownInputs {item : StageItemWithRounds} (h : ownInputs item = true)
    (r : RoundWithMatches) (hr : r ∈ item.rounds) (m : Match) (hm : m ∈ r.matches_) (side : Side)
    (i : StageItemInput) (hi : m.input side = some i) : ∃ j ∈ item.inputs, j.id = i.id := by
  have hboth := List.all_eq_true.mp (List.all_eq_true.mp h r hr) m hm
  rw [Bool.and_eq_true] at hboth
  have hany : item.inputs.any (·.id == i.id) = true := by
    cases side with
    | one => exact (Option.all_eq_true _ _).mp hboth.1 i hi
    | two => exact (Option.all_eq_true _ _).mp hboth.2 i hi
  obtain ⟨j, hj, hid⟩ := List.any_eq_true.mp hany
  exact ⟨j, hj, eq_of_beq hid⟩

end Brackets
