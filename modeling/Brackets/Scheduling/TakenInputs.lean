/-
  File:      Brackets/Scheduling/TakenInputs.lean
  Subject:   Which of the listed options are marked as taken.

  The loop over the inputs looks at what an input is now: an input with a team marks its team, an
  input without one marks its place. An input that waited for a place keeps it when its stage
  starts, but from then on it marks the team only.

  * `usedOptions_team`, `usedOptions_place_taken`: what the marks say;
  * `exactOptions_iff`: the options of every stage are the teams and the places of the stages
    before it, each once, and the marks are those of the stored sources exactly if every place
    that an input with a team stores is stored by an input without one too;
  * `seededFinal_free`: the place of a filled slot is offered as free.
-/
import Brackets.Scheduling.AvailableInputs

namespace Brackets

open Library

/-! ## 1. What an option and an input name -/

/-- What a slot can be filled with. -/
inductive InputSource where
  | team (t : TeamId)
  | place (k : StageItemId) (p : Int)
  deriving DecidableEq, Repr

namespace StageItemInputOption

def source : StageItemInputOption → InputSource
  | .final o => .team o.teamId
  | .tentative o => .place o.winnerFromStageItemId o.winnerPosition

def alreadyTaken : StageItemInputOption → Bool
  | .final o => o.alreadyTaken
  | .tentative o => o.alreadyTaken

end StageItemInputOption

/-- The input stores the team, or the place, also after a team got it. -/
def StageItemInput.stores (i : StageItemInput) : InputSource → Bool
  | .team t => i.teamId == some t
  | .place k p => i.winnerFromStageItemId == some k && i.winnerPosition == some p

/-- The input waits for the place. -/
def StageItemInput.awaits (i : StageItemInput) (key : StageItemId × Int) : Bool :=
  i.teamId == none && i.stores (.place key.1 key.2)

def inputsOfStages (stages : List StageWithStageItems) : List StageItemInput :=
  stages.flatMap fun stage => stage.stageItems.flatMap (·.inputs)

/-! ## 2. The marks -/

theorem markTaken_team (options : TeamOptions × TentativeOptions) (input : StageItemInput)
    (t : TeamId) : (markTaken options input).1.get? t = (options.1.get? t).map fun o =>
      { o with alreadyTaken := o.alreadyTaken || input.stores (.team t) } := by
  unfold markTaken StageItemInput.stores
  cases hteam : input.teamId with
  | none =>
    have hsame : ∀ o : StageItemInputOptionFinal,
        { o with alreadyTaken := o.alreadyTaken || ((none : Option TeamId) == some t) } = o :=
      fun o => by rw [Option.none_beq_some, Bool.or_false]
    simp only [hsame, Option.map_id']
    split
    · split <;> rfl
    · rfl
  | some u =>
    dsimp only
    by_cases hu : t = u
    · subst hu
      rw [beq_self_eq_true]
      cases hoption : options.1.get? t with
      | none => exact hoption
      | some o =>
        rw [Option.map_some, Bool.or_true]
        exact options.1.get?_set_self t _
    · have hne : (some u == some t) = false := beq_eq_false_iff_ne.mpr fun e =>
        hu (Option.some.inj e).symm
      simp only [hne, Bool.or_false, Option.map_id']
      split
      · exact options.1.get?_set_of_ne hu _
      · rfl

theorem markTaken_awaits (options : TeamOptions × TentativeOptions) (input : StageItemInput)
    (key : StageItemId × Int) : (markTaken options input).2.get? key =
      (options.2.get? key).map fun o =>
        { o with alreadyTaken := o.alreadyTaken || input.awaits key } := by
  have hfree : input.awaits key = false → options.2.get? key = (options.2.get? key).map fun o =>
      { o with alreadyTaken := o.alreadyTaken || input.awaits key } := by
    intro h
    simp only [h, Bool.or_false, Option.map_id']
  unfold markTaken
  split
  · next t hteam =>
    have hawaits : input.awaits key = false := by
      simp [StageItemInput.awaits, hteam]
    rw [← hfree hawaits]
    split <;> rfl
  · next hteam =>
    split
    · next k p hk hp =>
      have hawaits : input.awaits key = decide (key = (k, p)) := by
        simp only [StageItemInput.awaits, StageItemInput.stores, hteam, hk, hp]
        rw [Bool.eq_iff_iff, decide_eq_true_eq, Prod.ext_iff]
        simp [@eq_comm _ key.1, @eq_comm _ key.2]
      by_cases hkey : key = (k, p)
      · subst hkey
        rw [hawaits, decide_eq_true rfl]
        cases hoption : options.2.get? (k, p) with
        | none => exact hoption
        | some o =>
          rw [Option.map_some, Bool.or_true]
          exact options.2.get?_set_self (k, p) _
      · rw [← hfree (hawaits.trans (decide_eq_false hkey))]
        split
        · exact options.2.get?_set_of_ne hkey _
        · rfl
    · next hplace =>
      refine hfree ?_
      unfold StageItemInput.awaits StageItemInput.stores
      cases hk : input.winnerFromStageItemId with
      | none => simp
      | some k =>
        cases hp : input.winnerPosition with
        | none => simp
        | some p => exact absurd hp (hplace k p hk)

section Marks

variable (teams : List FullTeamWithPlayers) (stages : List StageWithStageItems)

theorem foldl_markTaken_team (inputs : List StageItemInput)
    (options : TeamOptions × TentativeOptions) (t : TeamId) :
    (inputs.foldl markTaken options).1.get? t = (options.1.get? t).map fun o =>
      { o with alreadyTaken := o.alreadyTaken || inputs.any (·.stores (.team t)) } := by
  induction inputs generalizing options with
  | nil => simp only [List.foldl_nil, List.any_nil, Bool.or_false, Option.map_id']
  | cons input inputs ih =>
    rw [List.foldl_cons, ih, markTaken_team, Option.map_map, List.any_cons]
    simp only [Function.comp_def, Bool.or_assoc]

theorem foldl_markTaken_awaits (inputs : List StageItemInput)
    (options : TeamOptions × TentativeOptions) (key : StageItemId × Int) :
    (inputs.foldl markTaken options).2.get? key = (options.2.get? key).map fun o =>
      { o with alreadyTaken := o.alreadyTaken || inputs.any (·.awaits key) } := by
  induction inputs generalizing options with
  | nil => simp only [List.foldl_nil, List.any_nil, Bool.or_false, Option.map_id']
  | cons input inputs ih =>
    rw [List.foldl_cons, ih, markTaken_awaits, Option.map_map, List.any_cons]
    simp only [Function.comp_def, Bool.or_assoc]

/-- A team is marked if an input stores it. -/
theorem usedOptions_team {t : TeamId} {o : StageItemInputOptionFinal}
    (h : (usedOptions teams stages).1.get? t = some o) :
    o = ⟨t, (inputsOfStages stages).any (·.stores (.team t))⟩ := by
  unfold usedOptions at h
  rw [foldl_markTaken_team, Option.map_eq_some_iff] at h
  obtain ⟨free, hfree, rfl⟩ := h
  obtain ⟨team, -, e⟩ := List.mem_map.mp (Dict.mem_of_ofList hfree)
  cases e
  rfl

theorem usedOptions_team_isSome (t : TeamId) :
    ((usedOptions teams stages).1.get? t).isSome = true ↔ ∃ team ∈ teams, team.id = t := by
  unfold usedOptions
  rw [foldl_markTaken_team, Option.isSome_map, Dict.get?_isSome, allTeamOptions,
    Dict.mem_keys_ofList, List.map_map, List.mem_map]
  rfl

/-- A place is marked if an input waits for it. -/
theorem usedOptions_place_taken {key : StageItemId × Int} {o : StageItemInputOptionTentative}
    (h : (usedOptions teams stages).2.get? key = some o) :
    o = ⟨key.1, key.2, (inputsOfStages stages).any (·.awaits key)⟩ := by
  unfold usedOptions at h
  rw [foldl_markTaken_awaits, Option.map_eq_some_iff] at h
  obtain ⟨free, hfree, rfl⟩ := h
  obtain ⟨stage, -, e⟩ := List.mem_flatMap.mp (Dict.mem_of_ofList hfree)
  obtain ⟨item, -, e⟩ := List.mem_flatMap.mp e
  unfold outputsOf at e
  split at e
  · obtain ⟨n, -, e⟩ := List.mem_map.mp e
    cases e
    rfl
  · cases e

end Marks

/-! ## 3. The options of a stage -/

/-- What the slots of a stage can be filled with: the teams and the places of the stages before. -/
def SourceFor (teams : List FullTeamWithPlayers) (before : List StageWithStageItems) :
    InputSource → Prop
  | .team t => ∃ team ∈ teams, team.id = t
  | .place k p => ∃ s ∈ before, ∃ i ∈ s.stageItems,
      i.type ≠ .singleElimination ∧ k = i.id ∧ 1 ≤ p ∧ p ≤ i.teamCount

/-- The options are these sources, each once, and marked if an input stores them. -/
structure ExactOptions (teams : List FullTeamWithPlayers)
    (stages before : List StageWithStageItems) (options : List StageItemInputOption) : Prop where
  once : (options.map (·.source)).Nodup
  listed : ∀ source, source ∈ options.map (·.source) ↔ SourceFor teams before source
  taken : ∀ o ∈ options, o.alreadyTaken = true ↔ ∃ i ∈ inputsOfStages stages, i.stores o.source

/-- The options of every stage are exact. -/
def OffersExact (teams : List FullTeamWithPlayers) (stages : List StageWithStageItems) : Prop :=
  ∀ before stage after, stages = before ++ stage :: after →
    ∃ options, (determineAvailableInputs teams stages).get? stage.id = some options ∧
      ExactOptions teams stages before options

/-- Every place that is listed for a stage and stored by an input is stored by one without a
    team. -/
def PlacesAwaited (stages : List StageWithStageItems) : Prop :=
  ∀ before stage after, stages = before ++ stage :: after → ∀ k p,
    SourceFor [] before (.place k p) → (∃ i ∈ inputsOfStages stages, i.stores (.place k p)) →
    ∃ i ∈ inputsOfStages stages, i.teamId = none ∧ i.stores (.place k p)

/-- What a mark says about an option. -/
def Marked (stages : List StageWithStageItems) : InputSource → Prop
  | .team t => ∃ i ∈ inputsOfStages stages, i.stores (.team t)
  | .place k p => ∃ i ∈ inputsOfStages stages, i.teamId = none ∧ i.stores (.place k p)

section Listed

variable {before after : List StageWithStageItems} {stage : StageWithStageItems}

theorem mem_sources_teams {options : TeamOptions}
    (h : ∀ t o, options.get? t = some o → o.teamId = t) :
    (options.values.map StageItemInputOption.final).map (·.source) =
      options.keys.map InputSource.team := by
  unfold Dict.values Dict.keys
  rw [List.map_map, List.map_map, List.map_map]
  refine List.map_congr_left fun e he => ?_
  exact congrArg InputSource.team (h e.1 e.2 (options.get?_eq_some.mpr he))

theorem mem_sources_places {options : TentativeOptions} (h : Labelled options) :
    (options.values.map StageItemInputOption.tentative).map (·.source) =
      options.keys.map fun key => InputSource.place key.1 key.2 := by
  unfold Dict.values Dict.keys
  rw [List.map_map, List.map_map, List.map_map]
  refine List.map_congr_left fun e he => ?_
  have hplace := h e.1 e.2 (options.get?_eq_some.mpr he)
  exact congrArg (fun key : StageItemId × Int => InputSource.place key.1 key.2) hplace

/-- **The options of a stage**, whatever the inputs are: the teams and the places of the stages
    before it, each once; a team is marked if an input stores it, a place if an input waits for
    it. -/
theorem options_listed (teams : List FullTeamWithPlayers)
    (hids : ((before ++ stage :: after).map (·.id)).Nodup)
    (hitems : (((before ++ stage :: after).flatMap (·.stageItems)).map (·.id)).Nodup) :
    ∃ options, (determineAvailableInputs teams (before ++ stage :: after)).get? stage.id =
        some options ∧ (options.map (·.source)).Nodup ∧
      (∀ source, source ∈ options.map (·.source) ↔ SourceFor teams before source) ∧
      ∀ o ∈ options, o.alreadyTaken = true ↔ Marked (before ++ stage :: after) o.source := by
  obtain ⟨results, hget, hresults⟩ := determineAvailableInputs_get? teams hids
  have hused : ∀ key o, results.get? key = some o →
      (usedOptions teams (before ++ stage :: after)).2.get? key = some o := by
    intro key o h
    rw [hresults] at h
    split at h
    · exact h
    · cases h
  have hlabelled : Labelled results := fun key o h => labelled_used teams _ key o (hused key o h)
  have hteam : ∀ t o, (usedOptions teams (before ++ stage :: after)).1.get? t = some o →
      o.teamId = t := fun t o h => by rw [usedOptions_team teams _ h]
  refine ⟨_, hget, ?_, fun source => ?_, fun o ho => ?_⟩
  · rw [List.map_append, mem_sources_teams hteam, mem_sources_places hlabelled]
    refine List.nodup_append.mpr ⟨?_, ?_, ?_⟩
    · exact (Dict.nodup _).map fun _ _ e => InputSource.team.inj e
    · refine results.nodup.map fun a b e => ?_
      obtain ⟨hk, hp⟩ := InputSource.place.inj e
      exact Prod.ext hk hp
    · intro a ha b hb e
      obtain ⟨_, -, rfl⟩ := List.mem_map.mp ha
      obtain ⟨_, -, rfl⟩ := List.mem_map.mp hb
      cases e
  · rw [List.map_append, List.mem_append, mem_sources_teams hteam, mem_sources_places hlabelled]
    cases source with
    | team t =>
      have hplaces : InputSource.team t ∉ results.keys.map fun key =>
          InputSource.place key.1 key.2 := by
        intro h
        obtain ⟨_, -, e⟩ := List.mem_map.mp h
        cases e
      rw [or_iff_left hplaces, List.mem_map_of_injective fun _ _ e => InputSource.team.inj e,
        ← Dict.get?_isSome, usedOptions_team_isSome]
      rfl
    | place k p =>
      have hteams : InputSource.place k p ∉
          (usedOptions teams (before ++ stage :: after)).1.keys.map InputSource.team := by
        intro h
        obtain ⟨_, -, e⟩ := List.mem_map.mp h
        cases e
      have hkeys : (InputSource.place k p ∈ results.keys.map fun key =>
          InputSource.place key.1 key.2) ↔ (k, p) ∈ results.keys := by
        refine ⟨fun h => ?_, fun h => List.mem_map.mpr ⟨(k, p), h, rfl⟩⟩
        obtain ⟨⟨j, q⟩, hmem, e⟩ := List.mem_map.mp h
        cases e
        exact hmem
      rw [or_iff_right hteams, hkeys, ← Dict.get?_isSome, hresults]
      constructor
      · intro h
        split at h
        · next hk =>
          obtain ⟨s, hs, i, hi, htype, he, hge, hle⟩ := (usedOptions_isSome teams _ k p).mp h
          obtain ⟨i', hi', he'⟩ := List.mem_map.mp hk
          obtain ⟨s', hs', hi'⟩ := List.mem_flatMap.mp hi'
          have hmem : i ∈ (before ++ stage :: after).flatMap (·.stageItems) :=
            List.mem_flatMap.mpr ⟨s, hs, hi⟩
          have hmem' : i' ∈ (before ++ stage :: after).flatMap (·.stageItems) :=
            List.mem_flatMap.mpr ⟨s', List.mem_append_left _ hs', hi'⟩
          obtain rfl := List.inj_on_of_nodup_map hitems hmem hmem' (he.symm.trans he'.symm)
          exact ⟨s', hs', i, hi', htype, he, hge, hle⟩
        · cases h
      · rintro ⟨s, hs, i, hi, htype, rfl, hge, hle⟩
        rw [if_pos (List.mem_map_of_mem (List.mem_flatMap.mpr ⟨s, hs, hi⟩))]
        exact (usedOptions_isSome teams _ i.id p).mpr
          ⟨s, List.mem_append_left _ hs, i, hi, htype, rfl, hge, hle⟩
  · rcases List.mem_append.mp ho with ho | ho
    · obtain ⟨final, hfinal, rfl⟩ := List.mem_map.mp ho
      obtain ⟨e, he, rfl⟩ := List.mem_map.mp hfinal
      rw [usedOptions_team teams _ (Dict.get?_eq_some _ |>.mpr he)]
      exact List.any_eq_true
    · obtain ⟨tentative, htentative, rfl⟩ := List.mem_map.mp ho
      obtain ⟨e, he, rfl⟩ := List.mem_map.mp htentative
      rw [usedOptions_place_taken teams _ (hused _ _ (results.get?_eq_some.mpr he))]
      show (inputsOfStages _).any (·.awaits e.1) = true ↔ _
      simp only [List.any_eq_true, StageItemInput.awaits, Bool.and_eq_true, beq_iff_eq]
      rfl

end Listed

/-- **The options of all stages are exact exactly if every listed place that an input stores is
    also stored by an input without a team.** -/
theorem exactOptions_iff (teams : List FullTeamWithPlayers) {stages : List StageWithStageItems}
    (hids : (stages.map (·.id)).Nodup)
    (hitems : ((stages.flatMap (·.stageItems)).map (·.id)).Nodup) :
    OffersExact teams stages ↔ PlacesAwaited stages := by
  constructor
  · intro hexact before stage after hsplit k p hsource hstored
    obtain ⟨options, hget, hoptions⟩ := hexact before stage after hsplit
    subst hsplit
    obtain ⟨listed, hget', -, -, hmarked⟩ := options_listed teams hids hitems
    obtain rfl : options = listed := Option.some.inj (hget.symm.trans hget')
    have hmem : InputSource.place k p ∈ options.map (·.source) := (hoptions.listed _).mpr hsource
    obtain ⟨o, ho, hplace⟩ := List.mem_map.mp hmem
    have htaken := (hoptions.taken o ho).mpr (hplace ▸ hstored)
    have hmark := (hmarked o ho).mp htaken
    rw [hplace] at hmark
    exact hmark
  · intro hawaited before stage after hsplit
    subst hsplit
    obtain ⟨options, hget, honce, hlisted, hmarked⟩ := options_listed teams hids hitems
    refine ⟨options, hget, honce, hlisted, fun o ho => (hmarked o ho).trans ?_⟩
    have hsource := (hlisted o.source).mp (List.mem_map_of_mem ho)
    cases hs : o.source with
    | team t => rfl
    | place k p =>
      rw [hs] at hsource
      constructor
      · rintro ⟨i, hi, -, hstores⟩
        exact ⟨i, hi, hstores⟩
      · exact hawaited before stage after rfl k p hsource

def redTeam : FullTeamWithPlayers where
  id := 7
  name := "Red"
  tournamentId := 1
  active := true
  logoPath := none
  players := []

/-- A Swiss group of two, and a stage whose one slot is for its winner and has this team. -/
def groupAndFinal (winner : Option TeamId) : List StageWithStageItems :=
  [{ id := 1, name := "Groups", tournamentId := 1, isActive := winner.isNone
     customDurationMinutes := none
     stageItems := [{
      id := 1, name := "Swiss", stageId := 1, teamCount := 2, rankingId := 1, type := .swiss
      rounds := [], inputs := [] }] },
   { id := 2, name := "Final", tournamentId := 1, isActive := winner.isSome
     customDurationMinutes := none
     stageItems := [{
      id := 2, name := "Final", stageId := 2, teamCount := 2, rankingId := 1, type := .roundRobin
      rounds := []
      inputs := [{
        id := 1, slot := 1, tournamentId := 1, stageItemId := 2, teamId := winner
        winnerFromStageItemId := some 1, winnerPosition := some 1, points := 0, wins := 0
        draws := 0, losses := 0, team := winner.map fun t => ⟨t, "Red", 1, true, none⟩ }] }] }]

/-- While the slot waits for the winner the options are exact. -/
theorem awaitedFinal_exact : OffersExact [redTeam] (groupAndFinal none) := by
  refine (exactOptions_iff _ (by decide) (by decide)).mpr fun _ _ _ _ k p _ hstored => ?_
  obtain ⟨i, hi, hstores⟩ := hstored
  obtain rfl := List.mem_singleton.mp hi
  exact ⟨_, hi, rfl, hstores⟩

/-- **The place of a filled slot is offered as free.** -/
theorem seededFinal_free : ¬ OffersExact [redTeam] (groupAndFinal (some 7)) := by
  intro h
  obtain ⟨options, hget, hoptions⟩ := h [_] _ [] rfl
  have hlist : (determineAvailableInputs [redTeam] (groupAndFinal (some 7))).get? 2 =
      some [.final ⟨7, true⟩, .tentative ⟨1, 1, false⟩, .tentative ⟨1, 2, false⟩] := by decide +kernel
  obtain rfl := Option.some.inj (hget.symm.trans hlist)
  have htaken := (hoptions.taken (.tentative ⟨1, 1, false⟩)
    (List.mem_cons_of_mem _ List.mem_cons_self)).mpr ⟨_, List.mem_singleton.mpr rfl, by decide⟩
  cases htaken

end Brackets
