/-
  File:      Brackets/Scheduling/AvailableInputs.lean
  Subject:   `determine_available_inputs` of `logic/scheduling/builder.py`: what the slots of a
             stage can be filled with.

  * every team of the tournament can fill a slot of every stage;
  * a place of a round-robin or Swiss stage item can fill a slot of the stages after its own;
  * an option that some slot uses is marked as taken, and still listed.

  `mem_determineAvailableInputs` says which places are listed for a stage.
-/
import Brackets.Details
import Brackets.Library.Dict

namespace Brackets

open Library

/-! ## 1. The options -/

structure StageItemInputOptionFinal where
  teamId : TeamId
  alreadyTaken : Bool
  deriving DecidableEq, Repr

structure StageItemInputOptionTentative where
  winnerFromStageItemId : StageItemId
  winnerPosition : Int
  alreadyTaken : Bool
  deriving DecidableEq, Repr

/-- `StageItemInputOptionTentative | StageItemInputOptionFinal`. -/
inductive StageItemInputOption where
  | tentative (option : StageItemInputOptionTentative)
  | final (option : StageItemInputOptionFinal)
  deriving DecidableEq, Repr

abbrev TeamOptions := Dict TeamId StageItemInputOptionFinal

abbrev TentativeOptions := Dict (StageItemId × Int) StageItemInputOptionTentative

/-- `all_team_options` -/
def allTeamOptions (teams : List FullTeamWithPlayers) : TeamOptions :=
  .ofList (teams.map fun team => (team.id, ⟨team.id, false⟩))

/-- The places that a stage item hands on; a bracket is final. -/
def outputsOf (item : StageItemWithRounds) :
    List ((StageItemId × Int) × StageItemInputOptionTentative) :=
  if item.type = .roundRobin ∨ item.type = .swiss then
    (List.range item.teamCount).map fun (n : Nat) => ((item.id, n + 1), ⟨item.id, n + 1, false⟩)
  else []

/-- `all_tentative_options` -/
def allTentativeOptions (stages : List StageWithStageItems) : TentativeOptions :=
  .ofList (stages.flatMap fun stage => stage.stageItems.flatMap outputsOf)

/-- The body of the loop over the inputs. -/
def markTaken (options : TeamOptions × TentativeOptions) (input : StageItemInput) :
    TeamOptions × TentativeOptions :=
  match input.teamId with
  | some t =>
    match options.1.get? t with
    | some option => (options.1.set t { option with alreadyTaken := true }, options.2)
    | none => options
  | none =>
    match input.winnerFromStageItemId, input.winnerPosition with
    | some k, some p =>
      match options.2.get? (k, p) with
      | some option => (options.1, options.2.set (k, p) { option with alreadyTaken := true })
      | none => options
    | _, _ => options

/-- The options after the loop over the inputs. -/
def usedOptions (teams : List FullTeamWithPlayers) (stages : List StageWithStageItems) :
    TeamOptions × TentativeOptions :=
  (stages.flatMap fun stage => stage.stageItems.flatMap (·.inputs)).foldl markTaken
    (allTeamOptions teams, allTentativeOptions stages)

/-- The tentative options for the stages after this one. -/
def addOutputs (options results : TentativeOptions) (stage : StageWithStageItems) :
    TentativeOptions :=
  stage.stageItems.foldl (fun results item =>
    options.entries.foldl (fun results e =>
      if e.1.1 = item.id then results.set e.1 e.2 else results) results) results

/-- The body of the loop over the stages, on `results_tentative` and `results`. -/
def listOptions (options : TeamOptions × TentativeOptions)
    (results : TentativeOptions × Dict StageId (List StageItemInputOption))
    (stage : StageWithStageItems) : TentativeOptions × Dict StageId (List StageItemInputOption) :=
  (addOutputs options.2 results.1 stage,
    results.2.set stage.id (options.1.values.map .final ++ results.1.values.map .tentative))

def determineAvailableInputs (teams : List FullTeamWithPlayers)
    (stages : List StageWithStageItems) : Dict StageId (List StageItemInputOption) :=
  (stages.foldl (listOptions (usedOptions teams stages)) (.empty, .empty)).2

/-! ## 2. The places among them -/

def StageItemInputOptionTentative.place (o : StageItemInputOptionTentative) : StageItemId × Int :=
  (o.winnerFromStageItemId, o.winnerPosition)

/-- Every option is stored under the place that it names. -/
def Labelled (options : TentativeOptions) : Prop :=
  ∀ key option, options.get? key = some option → option.place = key

/-- What a loop over the stages does to the tentative options. -/
theorem get?_addOutputs (options results : TentativeOptions) (stage : StageWithStageItems)
    (key : StageItemId × Int) :
    (addOutputs options results stage).get? key =
      if key.1 ∈ stage.stageItems.map (·.id) then (options.get? key).or (results.get? key)
      else results.get? key := by
  unfold addOutputs
  induction stage.stageItems generalizing results with
  | nil => rfl
  | cons item items ih =>
    rw [List.foldl_cons, ih, options.get?_foldl_set_if (fun key => key.1 = item.id), List.map_cons]
    by_cases hitem : key.1 = item.id
    · rw [if_pos hitem, if_pos (List.mem_cons.mpr (.inl hitem))]
      split
      · rw [← Option.or_assoc, Option.or_self]
      · rfl
    · rw [if_neg hitem]
      exact if_congr (List.mem_cons.trans (or_iff_right hitem)).symm rfl rfl

theorem mem_outputsOf {item : StageItemWithRounds}
    {e : (StageItemId × Int) × StageItemInputOptionTentative} (h : e ∈ outputsOf item) :
    item.type ≠ .singleElimination ∧ e.1.1 = item.id ∧ 1 ≤ e.1.2 ∧ e.1.2 ≤ item.teamCount ∧
      e.2.place = e.1 := by
  unfold outputsOf at h
  split at h
  · next htype =>
    obtain ⟨n, hn, rfl⟩ := List.mem_map.mp h
    have hn := List.mem_range.mp hn
    refine ⟨fun e => ?_, rfl, ?_, ?_, rfl⟩
    · rw [e] at htype
      rcases htype with htype | htype <;> cases htype
    · show 1 ≤ (n : Int) + 1
      omega
    · show (n : Int) + 1 ≤ item.teamCount
      omega
  · cases h

theorem mem_keys_outputsOf {item : StageItemWithRounds} {k : StageItemId} {p : Int} :
    (k, p) ∈ (outputsOf item).map Prod.fst ↔
      item.type ≠ .singleElimination ∧ k = item.id ∧ 1 ≤ p ∧ p ≤ item.teamCount := by
  constructor
  · intro h
    obtain ⟨e, he, hkey⟩ := List.mem_map.mp h
    obtain ⟨htype, hid, hge, hle, -⟩ := mem_outputsOf he
    rw [hkey] at hid hge hle
    exact ⟨htype, hid, hge, hle⟩
  · rintro ⟨htype, rfl, hge, hle⟩
    have hsome : item.type = .roundRobin ∨ item.type = .swiss := by
      cases ht : item.type with
      | roundRobin => exact Or.inl rfl
      | singleElimination => exact absurd ht htype
      | swiss => exact Or.inr rfl
    unfold outputsOf
    rw [if_pos hsome, List.map_map]
    refine List.mem_map.mpr ⟨(p - 1).toNat, List.mem_range.mpr (by omega), ?_⟩
    exact Prod.ext rfl (show ((p - 1).toNat : Int) + 1 = p by omega)

theorem labelled_all (stages : List StageWithStageItems) :
    Labelled (allTentativeOptions stages) := by
  intro key option h
  obtain ⟨stage, -, h⟩ := List.mem_flatMap.mp (Dict.mem_of_ofList h)
  obtain ⟨item, -, h⟩ := List.mem_flatMap.mp h
  exact (mem_outputsOf h).2.2.2.2

/-- Marking an option as taken keeps the options and what they name. -/
theorem markTaken_place (key : StageItemId × Int) (options : TeamOptions × TentativeOptions)
    (input : StageItemInput) : ((markTaken options input).2.get? key).map (·.place) =
      (options.2.get? key).map (·.place) := by
  unfold markTaken
  split
  · split <;> rfl
  · split
    · next k p _ _ =>
      split
      · next option hoption =>
        dsimp only
        rw [Dict.get?_set]
        split
        · next he =>
          rw [he, hoption]
          rfl
        · rfl
      · rfl
    · rfl

theorem usedOptions_place (teams : List FullTeamWithPlayers) (stages : List StageWithStageItems)
    (key : StageItemId × Int) : ((usedOptions teams stages).2.get? key).map (·.place) =
      ((allTentativeOptions stages).get? key).map (·.place) :=
  foldl_project (fun options => (options.2.get? key).map (·.place)) markTaken
    (markTaken_place key) _ _

section

variable (teams : List FullTeamWithPlayers) (stages : List StageWithStageItems)

theorem labelled_used : Labelled (usedOptions teams stages).2 := by
  intro key option h
  have hplace := usedOptions_place teams stages key
  rw [h] at hplace
  obtain ⟨all, hall, hplace⟩ := Option.map_eq_some_iff.mp hplace.symm
  exact hplace.symm.trans (labelled_all stages key all hall)

theorem usedOptions_isSome (k : StageItemId) (p : Int) :
    ((usedOptions teams stages).2.get? (k, p)).isSome = true ↔ ∃ s ∈ stages, ∃ i ∈ s.stageItems,
      i.type ≠ .singleElimination ∧ k = i.id ∧ 1 ≤ p ∧ p ≤ i.teamCount := by
  rw [← Option.isSome_map (f := (·.place)), usedOptions_place, Option.isSome_map, Dict.get?_isSome,
    allTentativeOptions, Dict.mem_keys_ofList]
  simp only [List.map_flatMap, List.mem_flatMap, mem_keys_outputsOf]

end

/-! ## 3. The places of a stage -/

section

variable (options : TeamOptions × TentativeOptions) (stages : List StageWithStageItems)

/-- After some stages the tentative options are the places of their stage items. -/
theorem get?_tentative
    (results : TentativeOptions × Dict StageId (List StageItemInputOption))
    (key : StageItemId × Int) :
    (stages.foldl (listOptions options) results).1.get? key =
      if key.1 ∈ (stages.flatMap (·.stageItems)).map (·.id) then
        (options.2.get? key).or (results.1.get? key)
      else results.1.get? key := by
  induction stages generalizing results with
  | nil => rfl
  | cons stage stages ih =>
    rw [List.foldl_cons, ih, listOptions, get?_addOutputs, List.flatMap_cons, List.map_append]
    by_cases hstage : key.1 ∈ stage.stageItems.map (·.id)
    · rw [if_pos hstage, if_pos (List.mem_append_left _ hstage)]
      split
      · rw [← Option.or_assoc, Option.or_self]
      · rfl
    · rw [if_neg hstage]
      exact if_congr (List.mem_append.trans (or_iff_right hstage)).symm rfl rfl

/-- A later stage does not change what an earlier one lists. -/
theorem get?_listed (results : TentativeOptions × Dict StageId (List StageItemInputOption))
    {k : StageId} (hk : ∀ s ∈ stages, s.id ≠ k) :
    (stages.foldl (listOptions options) results).2.get? k = results.2.get? k := by
  induction stages generalizing results with
  | nil => rfl
  | cons stage stages ih =>
    rw [List.foldl_cons, ih _ fun s hs => hk s (List.mem_cons_of_mem _ hs)]
    exact results.2.get?_set_of_ne (Ne.symm (hk stage List.mem_cons_self)) _

end

/-- A place is listed among tentative options that are stored under what they name. -/
theorem mem_tentative {options : TentativeOptions} (h : Labelled options) {finals}
    {k : StageItemId} {p : Int} :
    (∃ taken, StageItemInputOption.tentative ⟨k, p, taken⟩ ∈
      List.map StageItemInputOption.final finals ++ options.values.map .tentative) ↔
      (options.get? (k, p)).isSome = true := by
  constructor
  · rintro ⟨taken, hmem⟩
    rcases List.mem_append.mp hmem with hmem | hmem
    · obtain ⟨_, -, e⟩ := List.mem_map.mp hmem
      cases e
    · obtain ⟨option, hoption, e⟩ := List.mem_map.mp hmem
      cases e
      obtain ⟨⟨key, _⟩, hentry, rfl⟩ := List.mem_map.mp hoption
      have hget := options.get?_eq_some.mpr hentry
      obtain rfl := h key _ hget
      exact Option.isSome_iff_exists.mpr ⟨_, hget⟩
  · intro hsome
    obtain ⟨⟨j, q, taken⟩, hget⟩ := Option.isSome_iff_exists.mp hsome
    cases h _ _ hget
    exact ⟨taken, List.mem_append_right _ (List.mem_map_of_mem
      (List.mem_map_of_mem (options.get?_eq_some.mp hget)))⟩

/-- A stage lists every team and the places of the stages before it. -/
theorem determineAvailableInputs_get? (teams : List FullTeamWithPlayers)
    {before after : List StageWithStageItems} {stage : StageWithStageItems}
    (hids : ((before ++ stage :: after).map (·.id)).Nodup) :
    ∃ results : TentativeOptions,
      (determineAvailableInputs teams (before ++ stage :: after)).get? stage.id =
        some ((usedOptions teams (before ++ stage :: after)).1.values.map .final ++
          results.values.map .tentative) ∧
      ∀ key, results.get? key = if key.1 ∈ (before.flatMap (·.stageItems)).map (·.id) then
        (usedOptions teams (before ++ stage :: after)).2.get? key else none := by
  let options := usedOptions teams (before ++ stage :: after)
  let results := before.foldl (listOptions options) (.empty, .empty)
  have hafter : ∀ s ∈ after, s.id ≠ stage.id := by
    rw [List.map_append, List.map_cons] at hids
    have hnew := (List.nodup_cons.mp (List.nodup_append.mp hids).2.1).1
    exact fun s hs e => hnew (e ▸ List.mem_map_of_mem hs)
  refine ⟨results.1, ?_, fun key => ?_⟩
  · unfold determineAvailableInputs
    rw [List.foldl_append, List.foldl_cons, get?_listed _ _ _ hafter, listOptions]
    exact Dict.get?_set_self _ _ _
  · rw [get?_tentative options before]
    exact if_congr Iff.rfl (Option.or_none) rfl

/-- **Listed for a stage are the places of the round-robin and Swiss stage items of the stages
    before it.** -/
theorem mem_determineAvailableInputs (teams : List FullTeamWithPlayers)
    {stages : List StageWithStageItems} (hsorted : stages.Pairwise (·.id < ·.id))
    (hitems : ∀ s ∈ stages, ∀ i ∈ s.stageItems, ∀ s' ∈ stages, ∀ i' ∈ s'.stageItems,
      i.id = i'.id → i = i') {stage : StageWithStageItems} (hstage : stage ∈ stages) :
    ∃ l, (determineAvailableInputs teams stages).get? stage.id = some l ∧
      ∀ (k : StageItemId) (p : Int), (∃ taken, .tentative ⟨k, p, taken⟩ ∈ l) ↔
        ∃ s ∈ stages, s.id < stage.id ∧ ∃ i ∈ s.stageItems,
          i.type ≠ .singleElimination ∧ k = i.id ∧ 1 ≤ p ∧ p ≤ i.teamCount := by
  obtain ⟨before, after, rfl⟩ := List.append_of_mem hstage
  have hids : ((before ++ stage :: after).map (·.id)).Nodup :=
    List.pairwise_map.mpr (hsorted.imp fun h => ne_of_lt h)
  obtain ⟨-, hafter, hbefore⟩ := List.pairwise_append.mp hsorted
  have hafter := (List.pairwise_cons.mp hafter).1
  obtain ⟨results, hget, hresults⟩ := determineAvailableInputs_get? teams hids
  refine ⟨_, hget, fun k p => ?_⟩
  have hlabelled : Labelled results := by
    intro key option h
    rw [hresults] at h
    split at h
    · exact labelled_used teams _ key option h
    · cases h
  rw [mem_tentative hlabelled, hresults]
  constructor
  · intro h
    split at h
    · next hk =>
      obtain ⟨s, hs, i, hi, htype, he, hge, hle⟩ := (usedOptions_isSome teams _ k p).mp h
      obtain ⟨i', hi', he'⟩ := List.mem_map.mp hk
      obtain ⟨s', hs', hi'⟩ := List.mem_flatMap.mp hi'
      have hs'all : s' ∈ before ++ stage :: after := List.mem_append_left _ hs'
      obtain rfl := hitems s hs i hi s' hs'all i' hi' (he.symm.trans he'.symm)
      exact ⟨s', hs'all, hbefore s' hs' stage List.mem_cons_self, i, hi', htype, he, hge, hle⟩
    · cases h
  · rintro ⟨s, hs, hlt, i, hi, htype, rfl, hge, hle⟩
    have hs' : s ∈ before := by
      rcases List.mem_append.mp hs with hs | hs
      · exact hs
      · rcases List.mem_cons.mp hs with rfl | hs
        · exact absurd hlt (lt_irrefl _)
        · exact absurd hlt (not_lt_of_gt (hafter s hs))
    rw [if_pos (List.mem_map_of_mem (List.mem_flatMap.mpr ⟨s, hs', hi⟩))]
    exact (usedOptions_isSome teams _ i.id p).mpr ⟨s, hs, i, hi, htype, rfl, hge, hle⟩

end Brackets
