/-
  File:      Brackets/Progress/PublishedRounds.lean
  Subject:   Publishing a round that has results, and taking it back.

  The request stores the draft flag and recalculates nothing. In a group or a bracket the stored
  statistics are exact afterwards if and only if no team has a result in the round:
  `updateRound_exact_iff`.
-/
import Brackets.Progress.Corrections
import Brackets.Progress.ExactRuns

namespace Brackets

open Library

variable {E : ExpectedScore} {db db' : Database} {tid : TournamentId}

/-! ## 1. The scores of a round -/

/-- The scores of an input in the results of a round. -/
def roundScores (db : Database) (k : StageItemId) (i : StageItemInputId) (r : RoundId) :
    List (Int × Int) := (roundResults db k r).flatMap (·.scoresOf i)

/-- What a round adds to the scores of an input. -/
def publishedScores (db : Database) (k : StageItemId) (i : StageItemInputId) (r : RoundRow) :
    List (Int × Int) := (publishedResults db k r).flatMap (·.scoresOf i)

theorem storedScores_eq (db : Database) (k : StageItemId) (i : StageItemInputId) :
    storedScores db k i = db.rounds.rows.flatMap (publishedScores db k i) := by
  rw [storedScores, storedResults_eq, List.flatMap_assoc]
  rfl

theorem publishedScores_eq {k : StageItemId} {i : StageItemInputId} {r : RoundRow}
    (hk : r.stageItemId = k) :
    publishedScores db k i r = if r.isDraft then [] else roundScores db k i r.id := by
  unfold publishedScores publishedResults
  cases hdraft : r.isDraft with
  | true =>
    rw [if_neg fun h => by cases h.2]
    rfl
  | false =>
    rw [if_pos ⟨hk, rfl⟩]
    rfl

/-- An input with scores plays. -/
theorem roundScores_ne_nil {k : StageItemId} {i : StageItemInputId} {r : RoundId} :
    roundScores db k i r ≠ [] ↔ ∃ res ∈ roundResults db k r, ∃ side, res.input side = i := by
  have hscores : ∀ res : Result, res.scoresOf i ≠ [] ↔ ∃ side, res.input side = i := by
    intro res
    unfold Result.scoresOf
    constructor
    · intro h
      by_cases h1 : res.input1 = i
      · exact ⟨.one, h1⟩
      · by_cases h2 : res.input2 = i
        · exact ⟨.two, h2⟩
        · rw [if_neg h1, if_neg h2] at h
          exact absurd rfl h
    · rintro ⟨side, hside⟩
      cases side with
      | one =>
        have hside : res.input1 = i := hside
        rw [if_pos hside]
        exact nofun
      | two =>
        have hside : res.input2 = i := hside
        rw [if_pos hside]
        exact List.append_ne_nil_of_right_ne_nil _ nofun
  rw [roundScores, Ne, List.flatMap_eq_nil_iff]
  push Not
  exact exists_congr fun res => and_congr_right fun _ => hscores res

theorem length_flatMap_lt {α γ : Type} {g g' : α → List γ} {l : List α}
    (hle : ∀ a ∈ l, (g a).length ≤ (g' a).length) {a : α} (ha : a ∈ l)
    (hlt : (g a).length < (g' a).length) : (l.flatMap g).length < (l.flatMap g').length := by
  rw [List.length_flatMap, List.length_flatMap]
  exact List.sum_lt_sum _ _ hle ⟨a, ha, hlt⟩

/-! ## 2. The request -/

/-- The row of the round after the update. -/
def updatedRound (k : RoundId) (body : RoundUpdateBody) (r : RoundRow) : RoundRow :=
  if r.id = k then { r with name := body.name, isDraft := body.isDraft } else r

theorem updatedRound_of_ne {k : RoundId} {body : RoundUpdateBody} {r : RoundRow} (hk : r.id ≠ k) :
    updatedRound k body r = r := if_neg hk

section Flipped

variable {k : RoundId} {r : RoundRow} {body : RoundUpdateBody}
  (hr : db.rounds.find? k = some r) (ht : db.stageItemTournament r.stageItemId = some tid)
include hr

theorem round_of_id {r' : RoundRow} (hr' : r' ∈ db.rounds.rows) (hk : r'.id = k) : r' = r := by
  have hfind : db.rounds.find? r'.id = some r' := db.rounds.find?_key hr'
  rw [hk, hr] at hfind
  exact (Option.some.inj hfind).symm

/-- What the round adds before and after. -/
theorem publishedScores_round (body : RoundUpdateBody) (i : StageItemInputId) :
    publishedScores db r.stageItemId i r =
        (if r.isDraft then [] else roundScores db r.stageItemId i k) ∧
      publishedScores db r.stageItemId i (updatedRound k body r) =
        if body.isDraft then [] else roundScores db r.stageItemId i k := by
  have hid : r.id = k := db.rounds.key_of_find? hr
  refine ⟨by rw [publishedScores_eq rfl, hid], ?_⟩
  have hrow : publishedScores db r.stageItemId i ⟨r.id, body.name, body.isDraft, r.stageItemId⟩ =
    if body.isDraft then [] else roundScores db r.stageItemId i r.id := publishedScores_eq rfl
  rw [updatedRound, if_pos hid, hrow, hid]

include ht

theorem storedScores_updateRound (i : StageItemInputId) :
    storedScores (sqlUpdateRound db tid k body.name body.isDraft) r.stageItemId i =
      db.rounds.rows.flatMap fun r' => publishedScores db r.stageItemId i (updatedRound k body r') := by
  rw [storedScores_eq]
  have hrows : (sqlUpdateRound db tid k body.name body.isDraft).rounds.rows =
      db.rounds.rows.map (updatedRound k body) := by
    rw [sqlUpdateRound, Table.rows_update]
    refine List.map_congr_left fun r' hr' => ?_
    unfold updatedRound
    by_cases hk : r'.id = k
    · have hsel : (db.stageItemTournament r'.stageItemId == some tid && r'.id == k) = true := by
        rw [round_of_id hr hr' hk, ht, ← hk, round_of_id hr hr' hk, beq_self_eq_true,
          beq_self_eq_true]
        rfl
      rw [if_pos hk, if_pos hsel]
    · rw [if_neg hk, if_neg (by simp [hk])]
  rw [hrows, List.flatMap_map]
  rfl

/-- No scores in the round: nothing changes. -/
theorem storedScores_of_none (body : RoundUpdateBody) {i : StageItemInputId}
    (hnone : roundScores db r.stageItemId i k = []) :
    storedScores (sqlUpdateRound db tid k body.name body.isDraft) r.stageItemId i =
      storedScores db r.stageItemId i := by
  rw [storedScores_updateRound hr ht, storedScores_eq]
  refine List.flatMap_congr fun r' hr' => ?_
  by_cases hk : r'.id = k
  · obtain rfl := round_of_id hr hr' hk
    obtain ⟨hbefore, hafter⟩ := publishedScores_round hr body i
    rw [hafter, hbefore, hnone, ite_self, ite_self]
  · rw [updatedRound_of_ne hk]

/-- Otherwise the flag adds scores or takes them away. -/
theorem storedScores_length_ne {i : StageItemInputId} (hflip : body.isDraft ≠ r.isDraft)
    (hsome : roundScores db r.stageItemId i k ≠ []) :
    (storedScores (sqlUpdateRound db tid k body.name body.isDraft) r.stageItemId i).length ≠
      (storedScores db r.stageItemId i).length := by
  have hmem : r ∈ db.rounds.rows := db.rounds.mem_of_find? hr
  obtain ⟨hbefore, hafter⟩ := publishedScores_round hr body i
  have hpos := List.length_pos_iff.mpr hsome
  have hothers : ∀ r' ∈ db.rounds.rows, r' ≠ r →
      publishedScores db r.stageItemId i (updatedRound k body r') =
        publishedScores db r.stageItemId i r' :=
    fun r' hr' hne => by rw [updatedRound_of_ne fun hk => hne (round_of_id hr hr' hk)]
  rw [storedScores_updateRound hr ht, storedScores_eq]
  cases hdraft : r.isDraft with
  | true =>
    have hbody : body.isDraft = false := by simpa [hdraft] using hflip
    rw [hdraft] at hbefore
    rw [hbody] at hafter
    refine (length_flatMap_lt (fun r' hr' => ?_) hmem ?_).ne'
    · by_cases hne : r' = r
      · rw [hne, hbefore]
        exact Nat.zero_le _
      · rw [hothers r' hr' hne]
    · rw [hbefore, hafter]
      exact hpos
  | false =>
    have hbody : body.isDraft = true := by simpa [hdraft] using hflip
    rw [hdraft] at hbefore
    rw [hbody] at hafter
    refine (length_flatMap_lt (fun r' hr' => ?_) hmem ?_).ne
    · by_cases hne : r' = r
      · rw [hne, hafter]
        exact Nat.zero_le _
      · rw [hothers r' hr' hne]
    · rw [hbefore, hafter]
      exact hpos

end Flipped

/-- The inputs of a result are of the stage item. -/
theorem known_of_result {k : StageItemId} {r : RoundId} {res : Result}
    (h : res ∈ roundResults db k r) (side : Side) : db.knows k (res.input side) = true := by
  obtain ⟨m, -, hm⟩ := List.mem_filterMap.mp h
  unfold MatchRow.resultWith at hm
  split at hm
  · next i1 i2 h1 h2 =>
    split at hm
    · cases hm
      cases side with
      | one => exact (Option.filter_eq_some_iff.mp h1).2
      | two => exact (Option.filter_eq_some_iff.mp h2).2
    · cases hm
  · cases hm

theorem played_of_cached {s s' : TeamStatistics} (h : s.cached = s'.cached) :
    s.wins + s.draws + s.losses = s'.wins + s'.draws + s'.losses := by
  have hwins : s.wins = s'.wins := congrArg CachedStatistics.wins h
  have hdraws : s.draws = s'.draws := congrArg CachedStatistics.draws h
  have hlosses : s.losses = s'.losses := congrArg CachedStatistics.losses h
  rw [hwins, hdraws, hlosses]

/-- An input has a pair of scores for every side it takes. -/
theorem length_scoresOf (i : StageItemInputId) (results : List Result) :
    ((results.flatMap (·.scoresOf i)).length : Int) = sidesTaken i results := by
  induction results with
  | nil => rfl
  | cons r results ih =>
    rw [List.flatMap_cons, List.length_append, sidesTaken_cons, ← ih, Result.scoresOf]
    split_ifs <;> simp

/-- The wins, draws and losses of an input, in stage items of any type. -/
theorem statistics_played {row : StageItemRow} {ranking : RankingRow} {d : StatisticsDict}
    (hd : determineRankingForStageItem E (loadStageItem db tid row) ranking = .ok d)
    (i : StageItemInputId) :
    (d.getD i (initialStatistics row.type)).played = (storedScores db row.id i).length := by
  rw [determineRanking_eq_replay] at hd
  have hplayed := replay_played hd i
  rwa [loaded_results, ← length_scoresOf] at hplayed

/-- No team has a result in the round of the stage item. -/
def TeamsRest (db : Database) (j : StageItemId) (k : RoundId) : Prop :=
  ∀ res ∈ roundResults db j k, ∀ side, ¬ HasTeam db (some (res.input side))

section Turned

variable {k : RoundId} {r : RoundRow} {row : StageItemRow} {body : RoundUpdateBody}
  (hload : Loadable db tid) (hr : db.rounds.find? k = some r)
  (hexact : StatisticsExact E db tid r.stageItemId)
include hload hr hexact

/-- **If the statistics are exact before and after, no team has a result in the round**: it would
    have played more or fewer matches. -/
theorem teamsRest_of_exact (hflip : body.isDraft ≠ r.isDraft)
    (hexact' : StatisticsExact E (sqlUpdateRound db tid k body.name body.isDraft) tid
      r.stageItemId) : TeamsRest db r.stageItemId k := by
  rintro res hres side ⟨i, irow, e, hirow, hteam⟩
  obtain rfl := Option.some.inj e
  obtain ⟨item, d, hnow, hstored⟩ := statisticsExact_iff.mp hexact
  obtain ⟨item', d', hnow', hstored'⟩ := statisticsExact_iff.mp hexact'
  obtain ⟨row, ranking, hrow, ht, rfl, -, -, hd⟩ := rankingNow_eq_ok.mp hnow
  obtain ⟨row', ranking', hrow', -, rfl, -, -, hd'⟩ := rankingNow_eq_ok.mp hnow'
  obtain rfl : row = row' := Option.some.inj (hrow.symm.trans hrow')
  have hid : row.id = r.stageItemId := db.stageItems.key_of_find? hrow
  -- the input is loaded with the stage item, before and after
  have hknown := known_of_result hres side
  rw [Database.knows, hirow, Option.any_some, beq_iff_eq] at hknown
  have hmem := db.stageItemInputs.mem_of_find? hirow
  have hown := hload.filed irow hmem (hknown ▸ ht)
  have hiid : irow.id = res.input side := db.stageItemInputs.key_of_find? hirow
  have hsame := (hstored irow hmem hknown hown hteam).symm.trans
    (hstored' irow hmem hknown hown hteam)
  rw [hiid] at hsame
  refine storedScores_length_ne hr ht hflip (roundScores_ne_nil.mpr ⟨res, hres, side, rfl⟩) ?_
  have hplayed := statistics_played hd (res.input side)
  have hplayed' := statistics_played hd' (res.input side)
  rw [hid] at hplayed hplayed'
  exact Int.ofNat.inj (hplayed'.symm.trans ((played_of_cached hsame).symm.trans hplayed))

/-- In a group or a bracket the statistics stay exact without one. -/
theorem exact_of_teamsRest (hrow : db.stageItems.find? r.stageItemId = some row)
    (htype : row.type ≠ .swiss) (hrest : TeamsRest db r.stageItemId k) :
    StatisticsExact E (sqlUpdateRound db tid k body.name body.isDraft) tid r.stageItemId := by
  have hid : row.id = r.stageItemId := db.stageItems.key_of_find? hrow
  obtain ⟨item, d, hnow, hstored⟩ := statisticsExact_iff.mp hexact
  obtain ⟨row0, ranking, hrow0, ht, rfl, -, hranking, hd⟩ := rankingNow_eq_ok.mp hnow
  obtain rfl : row = row0 := Option.some.inj (hrow.symm.trans hrow0)
  -- the statistics computed afterwards
  let upd := sqlUpdateRound db tid k body.name body.isDraft
  have hb : Backdrop db upd := ⟨rfl, rfl, rfl, rfl⟩
  obtain ⟨d', hd'⟩ : ∃ d', determineRankingForStageItem E (loadStageItem upd tid row) ranking =
    .ok d' := determineRanking_total htype
  have hnow' : rankingNow E upd tid r.stageItemId = .ok (loadStageItem upd tid row, d') :=
    rankingNow_eq_ok.mpr ⟨row, ranking, hrow, ht, rfl, (hb.loadable hload).item (hid ▸ ht),
      hranking, hd'⟩
  refine statisticsExact_iff.mpr ⟨_, d', hnow', fun i hi hk hit hteam => ?_⟩
  have hnone : roundScores db r.stageItemId i.id k = [] := by
    by_contra hsome
    obtain ⟨res, hres, side, hside⟩ := roundScores_ne_nil.mp hsome
    exact hrest res hres side ⟨i.id, i, by rw [hside], db.stageItemInputs.find?_key hi, hteam⟩
  have hsums : (d.getD i.id (initialStatistics row.type)).Sums ranking
    (storedScores db r.stageItemId i.id) := hid ▸ statistics_sums htype hd i.id
  have hsums' : (d'.getD i.id (initialStatistics row.type)).Sums ranking
    (storedScores upd r.stageItemId i.id) := hid ▸ statistics_sums htype hd' i.id
  rw [storedScores_of_none hr ht body hnone] at hsums'
  exact (hstored i hi hk hit hteam).trans (hsums.cached_eq hsums')

end Turned

/-- **Publishing a round or taking it back** keeps the statistics exact if and only if no team has a
    result in it. -/
theorem updateRound_exact_iff (h0 : Runs (fun _ _ _ => True) .empty db) {k : RoundId} {r : RoundRow}
    {row : StageItemRow} {body : RoundUpdateBody} (hr : db.rounds.find? k = some r)
    (hrow : db.stageItems.find? r.stageItemId = some row) (htype : row.type ≠ .swiss)
    (hexact : StatisticsExact E db tid r.stageItemId) (hflip : body.isDraft ≠ r.isDraft)
    (hcall : updateRoundById db tid k body = .ok db') :
    StatisticsExact E db' tid r.stageItemId ↔ ∀ res ∈ roundResults db r.stageItemId k,
      ∀ side, ¬ HasTeam db (some (res.input side)) := by
  obtain ⟨-, -, rfl⟩ := updateRoundById_ok hcall
  exact ⟨teamsRest_of_exact (h0.loadable tid) hr hexact hflip,
    exact_of_teamsRest (h0.loadable tid) hr hexact hrow htype⟩

/-- Whether the statistics are exact, computed. -/
def exactTest (E : ExpectedScore) (db : Database) (tid : TournamentId) (k : StageItemId) : Bool :=
  (rankingNow E db tid k).toOption.any fun x => x.1.inputs.all fun i =>
    !i.teamId.isSome || decide (i.cached = (x.2.getD i.id (initialStatistics x.1.type)).cached)

theorem exactTest_iff {k : StageItemId} :
    exactTest E db tid k = true ↔ StatisticsExact E db tid k := by
  unfold exactTest StatisticsExact
  cases rankingNow E db tid k with
  | error e => exact iff_of_false Bool.false_ne_true fun ⟨_, _, h, _⟩ => by cases h
  | ok x =>
    have hall : (x.1.inputs.all fun i => !i.teamId.isSome ||
        decide (i.cached = (x.2.getD i.id (initialStatistics x.1.type)).cached)) = true ↔
        ∀ i ∈ x.1.inputs, i.teamId.isSome →
          i.cached = (x.2.getD i.id (initialStatistics x.1.type)).cached := by
      rw [List.all_eq_true]
      refine forall₂_congr fun i _ => ?_
      cases i.teamId.isSome <;> simp
    refine Iff.trans hall ⟨fun h => ⟨x.1, x.2, rfl, h⟩, ?_⟩
    rintro ⟨item, d, h, hexact⟩
    cases h
    exact hexact

/-- The first round of the group. -/
def groupRound : RoundRow := ⟨1, "Round 01", false, 1⟩

/-- The first round of the group is taken back after its match was played. -/
theorem groupRound_takenBack : ∃ db db', Runs (fun _ _ _ => True) .empty db ∧
    StatisticsExact quietEnvironment.expectedScore db 1 1 ∧
    updateRoundById db 1 1 ⟨"Round 01", true⟩ = .ok db' ∧
    ¬ StatisticsExact quietEnvironment.expectedScore db' 1 1 := by
  obtain ⟨db, hdb, ⟨hround, hitem, hexact, hcall⟩, hresult, hteam⟩ := exists_ok_of_any
    (x := runCalls quietEnvironment playedGroup) (P := fun db =>
      (db.rounds.find? 1 = some groupRound ∧ (db.stageItems.find? 1).map (·.type) = some .roundRobin ∧
        exactTest quietEnvironment.expectedScore db 1 1 = true ∧
        (updateRoundById db 1 1 ⟨"Round 01", true⟩).toOption.isSome = true) ∧
      ⟨2, 3, 2, 1⟩ ∈ roundResults db 1 1 ∧
      (db.stageItemInputs.find? 2).any (fun i => i.teamId.isSome) = true) (by decide +kernel)
  have hrun : Runs (fun _ _ _ => True) .empty db := runs_of_calls (fun _ _ => trivial) hdb
  have hexact := exactTest_iff.mp hexact
  obtain ⟨row, hrow, htype⟩ := Option.map_eq_some_iff.mp hitem
  have htype : row.type ≠ .swiss := htype ▸ nofun
  obtain ⟨i, hi, hseated⟩ := Option.any_eq_true _ _ |>.mp hteam
  cases hcall' : updateRoundById db 1 1 ⟨"Round 01", true⟩ with
  | error e =>
    rw [hcall'] at hcall
    cases hcall
  | ok db' =>
    refine ⟨db, db', hrun, hexact, hcall', fun hexact' => ?_⟩
    exact (updateRound_exact_iff hrun hround hrow htype hexact (by decide) hcall').mp hexact'
      ⟨2, 3, 2, 1⟩ hresult .one ⟨2, i, rfl, hi, hseated⟩

end Brackets
