/-
  File:      Brackets/Scheduling/StageActivation.lean
  Subject:   `logic/scheduling/handle_stage_activation.py`: who moves into the next stage.

  An input without a team that names a place of another stage item is tentative. Activating its
  stage looks the place up in the ranking of that stage item and stores the team of the input
  that stands there; deactivating takes the team away again and clears the scores.
-/
import Brackets.Statements

namespace Brackets

open Library

/-- The stage item and the position that a tentative input takes its team from. -/
def StageItemInput.source? (i : StageItemInput) : Option (StageItemId × Int) :=
  match i.teamId, i.winnerFromStageItemId, i.winnerPosition with
  | none, some k, some position => some (k, position)
  | _, _, _ => none

structure StageItemInputUpdate where
  stageItemInput : StageItemInput
  team : TeamRow
  deriving DecidableEq, Repr

/-- The input that stands in a place of a ranking. -/
def determineTeamId (winnerFromStageItemId : StageItemId) (winnerPosition : Int)
    (stageItemXTeamRankings : StageItemXTeamRanking) : Outcome StageItemInputId := do
  let teamRanking ← orRaise (stageItemXTeamRankings.lookup winnerFromStageItemId) (.crash .keyError)
  require (decide (winnerPosition ≤ teamRanking.length)) (.crash .assertionError)
  orRaise (teamRanking[(winnerPosition - 1).toNat]?.map (·.1)) (.crash .indexError)

def getTeamUpdateForInput (db : Database) (tid : TournamentId) (i : StageItemInput)
    (source : StageItemId × Int) (stageItemXTeamRankings : StageItemXTeamRanking) :
    Outcome StageItemInputUpdate := do
  let targetId ← determineTeamId source.1 source.2 stageItemXTeamRankings
  let target ← getStageItemInputById db tid targetId
  require (!target.any (·.isEmpty))
    (badRequest "Please first assign teams to all stage items in the current stage.")
  let team ← orRaise ((target.filter (·.isFinal)).bind (·.team)) (.crash .assertionError)
  .ok ⟨i, team⟩

abbrev StageItemInputUpdates := Dict StageItemId (List StageItemInputUpdate)

/-- The turn of the loop on an input of the activated stage. -/
def addUpdate (db : Database) (tid : TournamentId) (stageItemXTeamRankings : StageItemXTeamRanking)
    (k : StageItemId) (result : StageItemInputUpdates) (i : StageItemInput) :
    Outcome StageItemInputUpdates :=
  match i.source? with
  | some source => do
    let update ← getTeamUpdateForInput db tid i source stageItemXTeamRankings
    .ok (result.set k (result.getD k [] ++ [update]))
  | none => .ok result

/-- The updates of the inputs of the activated stage, among the loaded stages. -/
def updatesInActivatedStage (E : ExpectedScore) (db : Database) (tid : TournamentId)
    (stageId : StageId) (stages : List StageWithStageItems) : Outcome StageItemInputUpdates := do
  let teamRankingsPerStageItem ← getTeamRankingsLookupForTournament E db tid stages
  let activatedStage ← orRaise (stages.find? (·.id == stageId)) (.crash .assertionError)
  activatedStage.stageItems.foldlM
    (fun result item => item.inputs.foldlM (addUpdate db tid teamRankingsPerStageItem item.id) result)
    .empty

def getUpdatesToInputsInActivatedStage (E : ExpectedScore) (db : Database) (tid : TournamentId)
    (stageId : StageId) : Outcome StageItemInputUpdates := do
  let stages ← getFullTournamentDetails db tid {}
  updatesInActivatedStage E db tid stageId stages

def updateMatchesInActivatedStage (E : ExpectedScore) (db : Database) (tid : TournamentId)
    (stageId : StageId) : Outcome Database := do
  let updatesPerStageItem ← getUpdatesToInputsInActivatedStage E db tid stageId
  updatesPerStageItem.values.flatten.foldlM
    (fun db u => sqlSetTeamIdForStageItemInput db tid u.stageItemInput.id (some u.team.id)) db

/-- The turn of the loop on a stage item of the deactivated stage. -/
def clearStageItem (tid : TournamentId) (db : Database) (item : StageItemWithRounds) :
    Outcome Database :=
  (item.inputs.filter fun i => i.winnerFromStageItemId.isSome).foldlM
    (fun db i => sqlSetTeamIdForStageItemInput db tid i.id none)
    (clearScoresForMatchesInStageItem db tid item.id)

def updateMatchesInDeactivatedStage (db : Database) (tid : TournamentId)
    (deactivatedStage : StageWithStageItems) : Outcome Database :=
  deactivatedStage.stageItems.foldlM (clearStageItem tid) db

/-! ## What the loops collect -/

section Collected

variable {db : Database} {tid : TournamentId}

theorem addUpdate_mem {rankings : StageItemXTeamRanking} {k : StageItemId}
    {result result' : StageItemInputUpdates} {i : StageItemInput}
    (h : addUpdate db tid rankings k result i = .ok result') (u : StageItemInputUpdate) :
    u ∈ result'.values.flatten ↔ u ∈ result.values.flatten ∨
      ∃ source, i.source? = some source ∧ getTeamUpdateForInput db tid i source rankings = .ok u := by
  unfold addUpdate at h
  split at h
  · next source hsource =>
    obtain ⟨v, hv, h⟩ := bind_eq_ok.mp h
    cases h
    rw [Dict.mem_flatten_set_append]
    refine or_congr_right ⟨fun e => ⟨source, hsource, e ▸ hv⟩, fun ⟨source', hs, hu⟩ => ?_⟩
    obtain rfl : source = source' := Option.some.inj (hsource.symm.trans hs)
    exact Except.ok.inj (hu.symm.trans hv)
  · next hnone =>
    cases h
    refine (or_iff_left fun ⟨source, hs, _⟩ => ?_).symm
    rw [hnone] at hs
    cases hs

/-- Every tentative input has its update. -/
theorem addUpdate_each {rankings : StageItemXTeamRanking} {k : StageItemId}
    {result result' : StageItemInputUpdates} {i : StageItemInput}
    (h : addUpdate db tid rankings k result i = .ok result') :
    ∀ source, i.source? = some source →
      ∃ u, getTeamUpdateForInput db tid i source rankings = .ok u := by
  intro source hs
  unfold addUpdate at h
  rw [hs] at h
  obtain ⟨u, hu, -⟩ := bind_eq_ok.mp h
  exact ⟨u, hu⟩

/-- One stage item. -/
theorem itemUpdates_mem {rankings : StageItemXTeamRanking} {item : StageItemWithRounds}
    {result result' : StageItemInputUpdates}
    (h : item.inputs.foldlM (addUpdate db tid rankings item.id) result = .ok result') :
    (∀ i ∈ item.inputs, ∀ source, i.source? = some source →
      ∃ u, getTeamUpdateForInput db tid i source rankings = .ok u) ∧
    ∀ u, u ∈ result'.values.flatten ↔ u ∈ result.values.flatten ∨ ∃ i ∈ item.inputs,
      ∃ source, i.source? = some source ∧
        getTeamUpdateForInput db tid i source rankings = .ok u :=
  ⟨foldlM_each (fun _ _ _ hi => addUpdate_each hi) h, fun u =>
    foldlM_collects (S := fun (result : StageItemInputUpdates) u => u ∈ result.values.flatten)
      (fun _ _ _ hi => addUpdate_mem hi) h u⟩

/-- **The updates are those of the tentative inputs of the activated stage.** -/
theorem updatesInActivatedStage_ok {E : ExpectedScore} {stageId : StageId}
    {stages : List StageWithStageItems} {updates : StageItemInputUpdates}
    (h : updatesInActivatedStage E db tid stageId stages = .ok updates) :
    ∃ rankings stage, getTeamRankingsLookupForTournament E db tid stages = .ok rankings ∧
      stages.find? (·.id == stageId) = some stage ∧
      (∀ item ∈ stage.stageItems, ∀ i ∈ item.inputs, ∀ source, i.source? = some source →
        ∃ u, getTeamUpdateForInput db tid i source rankings = .ok u) ∧
      ∀ u, u ∈ updates.values.flatten ↔ ∃ item ∈ stage.stageItems, ∃ i ∈ item.inputs,
        ∃ source, i.source? = some source ∧
          getTeamUpdateForInput db tid i source rankings = .ok u := by
  obtain ⟨rankings, hrankings, h⟩ := bind_eq_ok.mp h
  obtain ⟨stage, hstage, h⟩ := bind_eq_ok.mp h
  have hturn : ∀ item ∈ stage.stageItems, ∃ result result',
      item.inputs.foldlM (addUpdate db tid rankings item.id) result = .ok result' :=
    foldlM_each (fun result _ result' hitem => ⟨result, result', hitem⟩) h
  refine ⟨rankings, stage, hrankings, orRaise_eq_ok.mp hstage, fun item hitem => ?_, fun u => ?_⟩
  · obtain ⟨_, _, hitem⟩ := hturn item hitem
    exact (itemUpdates_mem hitem).1
  rw [foldlM_collects (S := fun (result : StageItemInputUpdates) u => u ∈ result.values.flatten)
    (T := fun (item : StageItemWithRounds) u => ∃ i ∈ item.inputs, ∃ source,
      i.source? = some source ∧ getTeamUpdateForInput db tid i source rankings = .ok u)
    (fun _ _ _ hitem => (itemUpdates_mem hitem).2) h u]
  exact or_iff_right List.not_mem_nil

end Collected

end Brackets
