/-
  File:      Brackets/Ranking/Published.lean
  Subject:   What drafts play no part in.

  The standings load the tournament without its draft rounds, activation loads it whole. Both
  rank alike: the replay drops the draft rounds again (`teamRankingOf_published`), and the draft
  rounds decide nothing about whether the load is accepted (`load_published`). So the updates of
  an activated stage are worked out from what the standings see (`updates_published`).
-/
import Brackets.FullLoad
import Brackets.Scheduling.StageActivation

namespace Brackets

open Library

/-! ## 1. Without the draft rounds -/

def StageItemWithRounds.published (item : StageItemWithRounds) : StageItemWithRounds :=
  { item with rounds := item.rounds.filter fun r => !r.isDraft }

def StageWithStageItems.published (stage : StageWithStageItems) : StageWithStageItems :=
  { stage with stageItems := stage.stageItems.map (·.published) }

/-- The load of the standings. -/
def publishedFilter : DetailsFilter := { noDraftRounds := true }

theorem publishedFilter_whole : publishedFilter.Whole := ⟨rfl, rfl⟩

/-- The load of everything. -/
theorem wholeFilter_whole : DetailsFilter.Whole {} := ⟨rfl, rfl⟩

section Load

variable (db : Database) (tid : TournamentId)

theorem inputsWithTeams_published :
    inputsWithTeams db tid publishedFilter = inputsWithTeams db tid {} := rfl

theorem stageItemWithRounds_published (item : StageItemRow) :
    (stageItemWithRounds db tid {} item).published = stageItemWithRounds db tid publishedFilter item := by
  unfold StageItemWithRounds.published stageItemWithRounds
  rw [inputsWithTeams_published]
  congr 1
  rw [List.filter_map, List.filter_filter]
  congr 1
  refine List.filter_congr fun r _ => ?_
  simp [DetailsFilter.round, publishedFilter, roundWithMatches, Bool.and_comm]

theorem stageWithStageItems_published (s : StageRow) :
    (stageWithStageItems db tid {} s).published = stageWithStageItems db tid publishedFilter s := by
  unfold StageWithStageItems.published stageWithStageItems
  congr 1
  rw [List.map_map]
  refine List.map_congr_left fun item _ => ?_
  exact stageItemWithRounds_published db tid item

/-- Dropping the draft rounds in the query or afterwards is the same. -/
theorem fullTournamentDetails_published : (fullTournamentDetails db tid {}).map (·.published) =
    fullTournamentDetails db tid publishedFilter := by
  unfold fullTournamentDetails
  rw [List.map_map]
  refine List.map_congr_left fun s _ => ?_
  exact stageWithStageItems_published db tid s

end Load

/-! ## 2. Ranking -/

section Ranking

variable (E : ExpectedScore) (db : Database) (tid : TournamentId)

theorem publishedMatches_published (item : StageItemWithRounds) :
    item.published.publishedMatches = item.publishedMatches := by
  unfold StageItemWithRounds.publishedMatches StageItemWithRounds.published
  rw [insertionSort_filter, List.filter_filter]
  simp only [Bool.and_self]

theorem determineTeamRanking_published (item : StageItemWithRounds) (ranking : RankingRow) :
    determineTeamRankingForStageItem E item.published ranking =
      determineTeamRankingForStageItem E item ranking := by
  unfold determineTeamRankingForStageItem Rounded.determineTeamRankingForStageItem
    Rounded.determineRankingForStageItem StageItemWithRounds.countedMatches
  rw [publishedMatches_published]
  rfl

/-- **The draft rounds play no part in a ranking.** -/
theorem teamRankingOf_published (item : StageItemWithRounds) :
    teamRankingOf E db tid item.published = teamRankingOf E db tid item := by
  unfold teamRankingOf
  refine bind_congr_ok fun ranking _ => ?_
  exact determineTeamRanking_published E item ranking

theorem lookup_published (stages : List StageWithStageItems) :
    getTeamRankingsLookupForTournament E db tid (stages.map (·.published)) =
      getTeamRankingsLookupForTournament E db tid stages := by
  have hitems : ((stages.map (·.published)).flatMap (·.stageItems)).map (fun item => (item.id, item)) =
      ((stages.flatMap (·.stageItems)).map fun item => (item.id, item)).map
        fun e => (e.1, e.2.published) := by
    rw [List.flatMap_map, List.map_flatMap, List.map_flatMap, List.map_flatMap]
    refine List.flatMap_congr fun stage _ => ?_
    rw [StageWithStageItems.published, List.map_map, List.map_map]
    rfl
  have hentries : (Dict.ofList (((stages.flatMap (·.stageItems)).map fun item =>
      (item.id, item)).map fun e => (e.1, e.2.published))).entries = _ :=
    Dict.ofList_map _ fun (_ : StageItemId) (item : StageItemWithRounds) => item.published
  unfold getTeamRankingsLookupForTournament
  rw [hitems]
  dsimp only
  rw [hentries, List.mapM_map]
  congr 1
  funext e
  dsimp only [Function.comp]
  rw [teamRankingOf_published]

end Ranking

/-! ## 3. What pydantic accepts -/

/-- Every input of the tournament is stored under it, as its stage item is. -/
def Database.InputsFiled (db : Database) (tid : TournamentId) : Prop :=
  ∀ i ∈ db.stageItemInputs.rows, db.stageItemTournament i.stageItemId = some tid → i.tournamentId = tid

section Valid

variable {db : Database} {tid : TournamentId} {f : DetailsFilter}

theorem mem_inputsWithTeams (hf : f.Whole) {i : StageItemInput} :
    i ∈ inputsWithTeams db tid f ↔ ∃ row ∈ db.stageItemInputs.rows,
      db.stageItemTournament row.stageItemId = some tid ∧ withTeam db row = i := by
  simp only [inputsWithTeams, List.mem_map, List.mem_filter, hf.stageItem, Bool.and_true, beq_iff_eq,
    and_assoc]

theorem valid_joined {inputs : List StageItemInput} (h : ∀ i ∈ inputs, i.valid = true)
    (m : MatchRow) : (matchWithInputs inputs m).valid = true := by
  have hside : ∀ o : Option StageItemInputId,
      (o.bind fun k => inputs.find? fun i => i.id == k).all (·.valid) = true := by
    intro o
    refine (Option.all_eq_true _ _).mpr fun i hi => ?_
    obtain ⟨k, -, hk⟩ := Option.bind_eq_some_iff.mp hi
    exact h i (List.mem_of_find?_eq_some hk)
  exact Bool.and_eq_true_iff.mpr ⟨hside _, hside _⟩

/-- A load is accepted if the inputs of the tournament are. -/
theorem full_valid_iff (hf : f.Whole) (hfiled : db.InputsFiled tid) :
    (fullTournamentDetails db tid f).all (·.valid) = true ↔
      ∀ i ∈ inputsWithTeams db tid f, i.valid = true := by
  rw [List.all_eq_true]
  constructor
  · intro h i hi
    obtain ⟨row, hrow, ht, rfl⟩ := (mem_inputsWithTeams hf).mp hi
    obtain ⟨item, s, hitem, hs, hst⟩ := stageItemTournament_eq_some.mp ht
    have hstage := h _ ((mem_full_stages hf).mpr ⟨s, db.stages.mem_of_find? hs, hst, rfl⟩)
    have hvalid := List.all_eq_true.mp hstage _ ((mem_full_stageItems hf).mpr
      ⟨item, db.stageItems.mem_of_find? hitem, (db.stages.key_of_find? hs).symm, rfl⟩)
    refine List.all_eq_true.mp (Bool.and_eq_true_iff.mp hvalid).1 _ ?_
    rw [stageItemWithRounds, List.mem_insertionSort, List.mem_filter, Bool.and_eq_true, beq_iff_eq,
      beq_iff_eq]
    exact ⟨hi, (db.stageItems.key_of_find? hitem).symm, hfiled row hrow ht⟩
  · intro h stage hstage
    obtain ⟨s, -, -, rfl⟩ := (mem_full_stages hf).mp hstage
    refine List.all_eq_true.mpr fun item hitem => ?_
    obtain ⟨row, -, -, rfl⟩ := (mem_full_stageItems hf).mp hitem
    refine Bool.and_eq_true_iff.mpr ⟨List.all_eq_true.mpr fun i hi => h i ?_, ?_⟩
    · rw [stageItemWithRounds, List.mem_insertionSort, List.mem_filter] at hi
      exact hi.1
    · refine List.all_eq_true.mpr fun round hround => List.all_eq_true.mpr fun m hm => ?_
      obtain ⟨r, -, -, -, rfl⟩ := mem_full_rounds.mp hround
      obtain ⟨mrow, -, -, rfl⟩ := mem_roundWithMatches.mp hm
      exact valid_joined h mrow

/-- **Loading without the draft rounds is dropping them from the whole load.** -/
theorem load_published (hfiled : db.InputsFiled tid) :
    getFullTournamentDetails db tid publishedFilter = (do
      let stages ← getFullTournamentDetails db tid {}
      .ok (stages.map (·.published))) := by
  unfold getFullTournamentDetails
  by_cases h : ∀ i ∈ inputsWithTeams db tid {}, i.valid = true
  · rw [if_pos ((full_valid_iff publishedFilter_whole hfiled).mpr h),
      if_pos ((full_valid_iff wholeFilter_whole hfiled).mpr h), ok_bind,
      fullTournamentDetails_published]
  · rw [if_neg fun hv => h ((full_valid_iff publishedFilter_whole hfiled).mp hv),
      if_neg fun hv => h ((full_valid_iff wholeFilter_whole hfiled).mp hv), error_bind]

theorem updatesIn_published (E : ExpectedScore) (stageId : StageId)
    (stages : List StageWithStageItems) :
    updatesInActivatedStage E db tid stageId (stages.map (·.published)) =
      updatesInActivatedStage E db tid stageId stages := by
  have hfind : (stages.map (·.published)).find? (·.id == stageId) =
      (stages.find? (·.id == stageId)).map (·.published) := List.find?_map
  unfold updatesInActivatedStage
  rw [lookup_published, hfind]
  refine bind_congr_ok fun rankings _ => ?_
  cases stages.find? (·.id == stageId) with
  | none => rfl
  | some stage => exact List.foldlM_map

/-- **Activation moves the teams it would move if it loaded what the standings load.** -/
theorem updates_published (hfiled : db.InputsFiled tid) (E : ExpectedScore) (stageId : StageId) :
    getUpdatesToInputsInActivatedStage E db tid stageId = (do
      let stages ← getFullTournamentDetails db tid publishedFilter
      updatesInActivatedStage E db tid stageId stages) := by
  rw [load_published hfiled, getUpdatesToInputsInActivatedStage]
  cases getFullTournamentDetails db tid {} with
  | error e => rfl
  | ok stages => exact (updatesIn_published E stageId stages).symm

end Valid

end Brackets
