/-
  File:      Brackets/Progress/StoredResults.lean
  Subject:   Where the stored results stay exact.

  Two states of one frame differ in matches and stored results only. If they have the same
  results, the ranking is the same, and the statistics that were computed in one are exact in the
  other (`exact_of_stored`).
-/
import Brackets.Progress.BracketRuns
import Brackets.Ranking.Storage

namespace Brackets

open Library

/-! ## 1. Loading within a frame -/

/-- A loaded input without its stored results. -/
def StageItemInput.bare (i : StageItemInput) : StageItemInput :=
  { i with toStageItemInputRow := i.unscored }

section Frame

variable {db db' : Database} {tid : TournamentId} {row : StageItemRow} (hframe : db'.frame = db.frame)
include hframe

theorem inputRows_of_frame : db'.stageItemInputs.rows.map StageItemInputRow.unscored =
    db.stageItemInputs.rows.map StageItemInputRow.unscored := by
  have h : db'.frame.stageItemInputs.rows = db.frame.stageItemInputs.rows := by rw [hframe]
  exact h

theorem teams_of_frame : db'.teams = db.teams := by
  have h : db'.frame.teams = db.frame.teams := by rw [hframe]
  exact h

theorem rounds_of_frame : db'.rounds = db.rounds := by
  have h : db'.frame.rounds = db.frame.rounds := by rw [hframe]
  exact h

theorem stageItems_of_frame : db'.stageItems = db.stageItems := by
  have h : db'.frame.stageItems = db.frame.stageItems := by rw [hframe]
  exact h

theorem ranking_of_frame (k : StageItemId) :
    getRankingForStageItem db' tid k = getRankingForStageItem db tid k := by
  have h : getRankingForStageItem db'.frame tid k = getRankingForStageItem db.frame tid k := by
    rw [hframe]
  exact h

theorem knows_of_frame (k : StageItemId) (i : StageItemInputId) : db'.knows k i = db.knows k i := by
  have h := input_of_frame hframe i
  have hany : ∀ c : Database, c.knows k i =
      ((c.stageItemInputs.find? i).map StageItemInputRow.unscored).any (·.stageItemId == k) := by
    intro c
    rw [Option.any_map]
    rfl
  rw [hany, hany, h]

theorem itemInputs_of_frame (k : StageItemId) :
    (itemInputs db' k).map StageItemInput.bare = (itemInputs db k).map StageItemInput.bare := by
  have hbare : ∀ c : Database, (itemInputs c k).map StageItemInput.bare =
      ((c.stageItemInputs.rows.map StageItemInputRow.unscored).filter (·.stageItemId == k)).map
        (withTeam c) := by
    intro c
    rw [itemInputs, List.map_map, List.filter_map, List.map_map]
    rfl
  have hteam : withTeam db' = withTeam db := by
    funext i
    rw [withTeam, withTeam, teams_of_frame hframe]
  rw [hbare, hbare, inputRows_of_frame hframe, hteam]

theorem loaded_inputs_of_frame : (loadStageItem db' tid row).inputs.map StageItemInput.bare =
    (loadStageItem db tid row).inputs.map StageItemInput.bare := by
  have hsort : ∀ c : Database, (loadStageItem c tid row).inputs.map StageItemInput.bare =
      (((itemInputs c row.id).map StageItemInput.bare).filter (·.tournamentId == tid)).insertionSort
        (·.slot ≤ ·.slot) := by
    intro c
    rw [loadStageItem, List.map_insertionSort (fun a b : StageItemInput => a.slot ≤ b.slot)
      (fun a b => a.slot ≤ b.slot) StageItemInput.bare _ fun a _ b _ => Iff.rfl, List.filter_map]
    rfl
  rw [hsort, hsort, itemInputs_of_frame hframe]

theorem seated_of_frame : (loadStageItem db' tid row).seated = (loadStageItem db tid row).seated := by
  have hbare : ∀ item : StageItemWithRounds, item.seated =
      ((item.inputs.map StageItemInput.bare).filter fun i => i.teamId.isSome).map (·.id) := by
    intro item
    rw [List.filter_map, List.map_map]
    rfl
  rw [hbare, hbare, loaded_inputs_of_frame hframe]

end Frame

theorem noTwoAgree_map {α β γ : Type} [DecidableEq γ] (f : β → Option γ) (g : α → β) (l : List α) :
    noTwoAgree f (l.map g) = noTwoAgree (fun a => f (g a)) l := by
  induction l with
  | nil => rfl
  | cons a l ih =>
    rw [List.map_cons, noTwoAgree, noTwoAgree, ih]
    congr 2
    funext b
    exact List.all_map

theorem teamsOnce_of_frame {db db' : Database} (hframe : db'.frame = db.frame) (h : TeamsOnce db) :
    TeamsOnce db' := by
  have hbare : ∀ c : Database, TeamsOnce c ↔
      noTwoAgree (·.teamKey) (c.stageItemInputs.rows.map StageItemInputRow.unscored) = true := by
    intro c
    rw [noTwoAgree_map]
    rfl
  rw [hbare, inputRows_of_frame hframe, ← hbare]
  exact h

/-! ## 2. Exactness -/

section Exact

variable {E : ExpectedScore} {db db' t : Database} {tid : TournamentId} {k : StageItemId}
  {item : StageItemWithRounds} {d : StatisticsDict}

/-- A slot of a loaded match has a row of the stage item behind it. -/
theorem joined_row {k : StageItemId} {m : MatchRow} {side : Side} {i : StageItemInput} :
    (matchWithInputs (itemInputs db k) m).input side = some i ↔ ∃ x row, m.inputId side = some x ∧
      db.stageItemInputs.find? x = some row ∧ row.stageItemId = k ∧ withTeam db row = i := by
  rw [matchWithInputs_input, Option.bind_eq_some_iff]
  refine exists_congr fun x => ?_
  rw [itemInputs_find?, Option.map_eq_some_iff]
  simp only [Option.filter_eq_some_iff, beq_iff_eq]
  constructor
  · rintro ⟨hx, row, ⟨hrow, hk⟩, hi⟩
    exact ⟨row, hx, hrow, hk, hi⟩
  · rintro ⟨row, hx, hrow, hk, hi⟩
    exact ⟨hx, row, ⟨hrow, hk⟩, hi⟩

/-- A stage item loads in another state of the frame if its matches name no new inputs. -/
theorem valid_of_frame {row : StageItemRow} (hframe : db'.frame = db.frame)
    (hv : (loadStageItem db tid row).valid)
    (hids : ∀ m', db'.InItem row.id m' → ∀ side x, m'.inputId side = some x →
      KnownInput db tid row.id x ∨ ∃ m side', db.InItem row.id m ∧ m.inputId side' = some x) :
    (loadStageItem db' tid row).valid := by
  obtain ⟨hinputs, hmatches⟩ := loadStageItem_valid_iff.mp hv
  have hteams := teams_of_frame hframe
  refine loadStageItem_valid_iff.mpr ⟨fun i hi => ?_, fun m' hm' side i hi => ?_⟩
  · obtain ⟨irow', hirow', hk, ht, rfl⟩ := mem_loaded_inputs.mp hi
    obtain ⟨irow, hirow, e⟩ := row_of_frame hframe hirow'
    have h1 : irow'.unscored.stageItemId = irow.unscored.stageItemId := by rw [e]
    have h2 : irow'.unscored.tournamentId = irow.unscored.tournamentId := by rw [e]
    rw [valid_withTeam e hteams]
    exact hinputs _ (mem_loaded_inputs.mpr ⟨irow, hirow, h1.symm.trans hk, h2.symm.trans ht, rfl⟩)
  · obtain ⟨x, irow', hx, hirow', hk, rfl⟩ := joined_row.mp hi
    have hf := input_of_frame hframe x
    rw [hirow', Option.map_some] at hf
    obtain ⟨irow, hirow, e⟩ := Option.map_eq_some_iff.mp hf.symm
    have h1 : irow.unscored.stageItemId = irow'.unscored.stageItemId := by rw [e]
    rw [valid_withTeam e.symm hteams]
    rcases hids m' hm' side x hx with ⟨krow, hkrow, hkk, hkt⟩ | ⟨m, side', hm, hmx⟩
    · rw [hirow] at hkrow
      cases hkrow
      exact hinputs _ (mem_loaded_inputs.mpr
        ⟨irow, db.stageItemInputs.mem_of_find? hirow, hkk, hkt, rfl⟩)
    · exact hmatches m hm side' _ (joined_row.mpr ⟨x, irow, hmx, hirow, h1.trans hk, rfl⟩)

theorem storedResults_of_frame (hframe : db'.frame = db.frame)
    (h : ∀ x, (db'.matches_.find? x).map (db'.reading k) = (db.matches_.find? x).map (db.reading k)) :
    storedResults db' k = storedResults db k :=
  storedResults_congr (rounds_of_frame hframe) h

/-- What was computed in one state is stored with the inputs of another state of its frame. -/
theorem stored_of_frame {row : StageItemRow} {f : StageItemInputId → TeamStatistics}
    (hU : TeamsOnce db) (hframe : db'.frame = db.frame)
    (hstored : ∀ x, db'.stageItemInputs.find? x = (t.stageItemInputs.find? x).map
      (restored tid (teamXStageItemInputLookup (loadStageItem db tid row)).values f))
    {i : StageItemInput} (hi : i ∈ (loadStageItem db' tid row).inputs) (hteam : i.teamId.isSome) :
    i.cached = (f i.id).cached := by
  obtain ⟨irow', hirow', -, ht, rfl⟩ := mem_loaded_inputs.mp hi
  -- the same input was loaded when the statistics were computed
  have hmem : (withTeam db' irow').bare ∈
      (loadStageItem db tid row).inputs.map StageItemInput.bare := by
    rw [← loaded_inputs_of_frame hframe]
    exact List.mem_map_of_mem hi
  obtain ⟨i, hi0, e⟩ := List.mem_map.mp hmem
  have hids : i.bare.id = (withTeam db' irow').bare.id := by rw [e]
  have hteams : i.bare.teamId = (withTeam db' irow').bare.teamId := by rw [e]
  have hids : i.id = irow'.id := hids
  have hteams : i.teamId = irow'.teamId := hteams
  have hteam : irow'.teamId.isSome := hteam
  have hlookup : irow'.id ∈ (teamXStageItemInputLookup (loadStageItem db tid row)).values :=
    (teamLookup_values hU tid row irow'.id).mpr ⟨i, hi0, by rw [hteams]; exact hteam, hids⟩
  have hfind := hstored irow'.id
  have hself : db'.stageItemInputs.find? irow'.id = some irow' :=
    db'.stageItemInputs.find?_key hirow'
  rw [hself] at hfind
  obtain ⟨irow, hirow, hre⟩ := Option.map_eq_some_iff.mp hfind.symm
  have hrid : irow.id = irow'.id := t.stageItemInputs.key_of_find? hirow
  have hrt : irow.tournamentId = tid := by
    rw [← ht, ← hre, restored]
    split <;> rfl
  rw [restored, if_pos ⟨hrt, by rw [hrid]; exact hlookup⟩] at hre
  have hcached := congrArg StageItemInputRow.cached hre
  rw [StageItemInputRow.cached_withCached, hrid] at hcached
  exact hcached.symm

/-- **What is computed in one state and stored in another is exact there**, if both have the same
    results. -/
theorem exact_of_stored (hU : TeamsOnce db) (hnow : rankingNow E db tid k = .ok (item, d))
    (hframe : db'.frame = db.frame) (hvalid : ∀ row, db.stageItems.find? k = some row →
      (loadStageItem db tid row).valid → (loadStageItem db' tid row).valid)
    (hresults : storedResults db' k = storedResults db k)
    (hstored : ∀ x, db'.stageItemInputs.find? x = (t.stageItemInputs.find? x).map
      (restored tid (teamXStageItemInputLookup item).values
        fun i => d.getD i (initialStatistics item.type))) :
    StatisticsExact E db' tid k := by
  obtain ⟨row, ranking, hrow, htour, rfl, hv, hranking, hd⟩ := rankingNow_eq_ok.mp hnow
  have hid : row.id = k := db.stageItems.key_of_find? hrow
  subst hid
  have hd' : determineRankingForStageItem E (loadStageItem db' tid row) ranking = .ok d := by
    rw [← hd]
    have hseated : (loadStageItem db' tid row).seated = (loadStageItem db tid row).seated :=
      seated_of_frame hframe
    have htype : (loadStageItem db' tid row).type = (loadStageItem db tid row).type := rfl
    refine determineRanking_congr E htype hseated ?_ ranking
    rw [loaded_results, loaded_results, hresults]
  refine ⟨loadStageItem db' tid row, d, rankingNow_eq_ok.mpr ⟨row, ranking, ?_, ?_, rfl,
    hvalid row hrow hv, ?_, hd'⟩, fun i hi hteam => ?_⟩
  · rw [stageItems_of_frame hframe]
    exact hrow
  · rw [stageItemTournament_of_frame hframe]
    exact htour
  · rw [ranking_of_frame hframe]
    exact hranking
  · exact stored_of_frame hU hframe hstored hi hteam

end Exact

end Brackets
