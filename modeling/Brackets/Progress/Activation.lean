/-
  File:      Brackets/Progress/Activation.lean
  Subject:   Who enters the next stage.

  Activating the next stage gives a team to every input of that stage that has none and names a
  place of another stage item. The places are those of the standings, although the standings are
  loaded without the draft rounds (`updates_published`).

  * `placedTeam`: the team in a place of the standings;
  * `seat_run`: what the statements of the activation leave, input by input;
  * `activateNextStage_seats`: who has which team afterwards, and what stays as it was.
-/
import Brackets.Progress.UpToDate
import Brackets.Ranking.Published
import Brackets.Ranking.Standings
import Brackets.Ranking.Storage

namespace Brackets

open Library

/-! ## 1. The places -/

/-- The team of the input that stands in a place of the standings of a stage item. -/
def placedTeam (db : Database) (standings : StageItemXTeamRanking) (k : StageItemId)
    (place : Int) : Option TeamId :=
  (standings.lookup k).bind fun ranking =>
    (if 1 ≤ place then ranking[(place - 1).toNat]? else none).bind fun entry =>
      (db.stageItemInputs.find? entry.1).bind (·.teamId)

section Places

variable {E : ExpectedScore} {db : Database} {tid : TournamentId}

/-- The standings of a stage item list different inputs of it. -/
theorem teamRankingOf_entries {item : StageItemWithRounds} {l : List RankingEntry}
    (h : teamRankingOf E db tid item = .ok l) :
    (l.map Prod.fst).Nodup ∧ ∀ e ∈ l, ∃ i ∈ item.inputs, i.id = e.1 := by
  obtain ⟨ranking, -, h⟩ := bind_eq_ok.mp h
  obtain ⟨d, -, hslots, rfl⟩ := determineTeamRanking_eq_ok.mp h
  refine ⟨((keyedEntries_perm.map Prod.fst).nodup_iff).mpr d.nodup, fun e he => hslots e.1 ?_⟩
  exact List.mem_map_of_mem (keyedEntries_perm.mem_iff.mp he)

theorem mem_of_lookup {α β : Type} [BEq α] [LawfulBEq α] {l : List (α × β)} {a : α} {b : β}
    (h : l.lookup a = some b) : (a, b) ∈ l := by
  induction l with
  | nil => cases h
  | cons e l ih =>
    rw [List.lookup_cons] at h
    split at h
    · next he =>
      cases h
      exact eq_of_beq he ▸ List.mem_cons_self
    · exact List.mem_cons_of_mem _ (ih h)

/-- The standings of a loaded stage item. -/
theorem lookup_ranked {stages : List StageWithStageItems} {rankings : StageItemXTeamRanking}
    (h : getTeamRankingsLookupForTournament E db tid stages = .ok rankings) {k : StageItemId}
    {l : List RankingEntry} (hk : rankings.lookup k = some l) :
    ∃ stage ∈ stages, ∃ item ∈ stage.stageItems, item.id = k ∧ teamRankingOf E db tid item = .ok l := by
  obtain ⟨⟨j, item⟩, he, h⟩ := mapM_ok_mem h _ (mem_of_lookup hk)
  obtain ⟨l', hl, h⟩ := bind_eq_ok.mp h
  cases h
  obtain ⟨item, hitem, hentry⟩ :=
    List.mem_map.mp (Dict.mem_of_ofList ((Dict.get?_eq_some _).mpr he))
  obtain ⟨stage, hstage, hitem⟩ := List.mem_flatMap.mp hitem
  cases hentry
  exact ⟨stage, hstage, item, hitem, rfl, hl⟩

/-- The input whose team moves on, and its place. -/
structure Placed (db : Database) (rankings : StageItemXTeamRanking) (k : StageItemId) (place : Int)
    (target : StageItemInputRow) (t : TeamId) : Prop where
  place_ge : 1 ≤ place
  listed : ∃ ranking entry, rankings.lookup k = some ranking ∧
    ranking[(place - 1).toNat]? = some entry ∧ entry.1 = target.id
  row : target ∈ db.stageItemInputs.rows
  team : target.teamId = some t

theorem Placed.placedTeam {rankings : StageItemXTeamRanking} {k : StageItemId} {place : Int}
    {target : StageItemInputRow} {t : TeamId} (h : Placed db rankings k place target t) :
    placedTeam db rankings k place = some t := by
  obtain ⟨ranking, entry, hranking, hentry, hid⟩ := h.listed
  have hfind : db.stageItemInputs.find? entry.1 = some target :=
    hid ▸ db.stageItemInputs.find?_key h.row
  refine Option.bind_eq_some_iff.mpr ⟨ranking, hranking, Option.bind_eq_some_iff.mpr ⟨entry, ?_,
    Option.bind_eq_some_iff.mpr ⟨target, hfind, h.team⟩⟩⟩
  rw [if_pos h.place_ge, hentry]

/-- An update takes the team of the input in the place. -/
theorem getTeamUpdate_placed {i : StageItemInput} {k : StageItemId} {place : Int}
    {rankings : StageItemXTeamRanking} {u : StageItemInputUpdate} (hplace : 1 ≤ place)
    (h : getTeamUpdateForInput db tid i (k, place) rankings = .ok u) :
    u.stageItemInput = i ∧ ∃ target, Placed db rankings k place target u.team.id := by
  obtain ⟨targetId, htargetId, h⟩ := bind_eq_ok.mp h
  obtain ⟨target, htarget, h⟩ := bind_eq_ok.mp h
  obtain ⟨_, -, h⟩ := bind_eq_ok.mp h
  obtain ⟨team, hteam, h⟩ := bind_eq_ok.mp h
  cases h
  obtain ⟨ranking, hranking, htargetId⟩ := bind_eq_ok.mp htargetId
  obtain ⟨_, -, htargetId⟩ := bind_eq_ok.mp htargetId
  obtain ⟨entry, hentry, rfl⟩ := Option.map_eq_some_iff.mp (orRaise_eq_ok.mp htargetId)
  obtain ⟨input, hinput, hjoined⟩ := Option.bind_eq_some_iff.mp (orRaise_eq_ok.mp hteam)
  clear hteam htargetId
  obtain ⟨rfl, -⟩ := Option.filter_eq_some_iff.mp hinput
  unfold getStageItemInputById at htarget
  split at htarget
  · cases htarget
  · next row hrow =>
    dsimp only at htarget
    split at htarget
    · cases htarget
      obtain ⟨t, ht, hfound⟩ := Option.bind_eq_some_iff.mp hjoined
      have hrow := (Option.filter_eq_some_iff.mp hrow).1
      have hteam : team.id = t := db.teams.key_of_find? (Option.filter_eq_some_iff.mp hfound).1
      exact ⟨rfl, row, hplace, ⟨ranking, entry, orRaise_eq_ok.mp hranking, hentry,
        (db.stageItemInputs.key_of_find? hrow).symm⟩, db.stageItemInputs.mem_of_find? hrow,
        hteam ▸ ht⟩
    · cases htarget

end Places

/-! ## 2. The statements -/

section Statements

variable {tid : TournamentId}

theorem sqlSetTeamId_ok {db db' : Database} {k : StageItemInputId} {teamId : Option TeamId}
    (h : sqlSetTeamIdForStageItemInput db tid k teamId = .ok db') :
    db' = setTeamId db tid k teamId ∧ TeamsOnce db' := by
  unfold sqlSetTeamIdForStageItemInput at h
  dsimp only at h
  split at h
  · next hunique =>
    cases h
    exact ⟨rfl, hunique⟩
  · cases h

/-- The row after the statements for some inputs. -/
def seatedRow (tid : TournamentId) (ks : List StageItemInputId) (team : StageItemInputId → TeamId)
    (i : StageItemInputRow) : StageItemInputRow :=
  if i.tournamentId = tid ∧ i.id ∈ ks then { i with teamId := some (team i.id) } else i

theorem setTeamId_find? (db : Database) (k : StageItemInputId) (team : StageItemInputId → TeamId)
    (x : StageItemInputId) : (setTeamId db tid k (some (team k))).stageItemInputs.find? x =
      (db.stageItemInputs.find? x).map (seatedRow tid [k] team) := by
  rw [setTeamId, Table.find?_update]
  refine Option.map_congr fun i _ => ?_
  by_cases hk : i.tournamentId = tid ∧ i.id = k
  · obtain ⟨ht, rfl⟩ := hk
    rw [if_pos (by simp [ht]), seatedRow, if_pos ⟨ht, List.mem_singleton_self _⟩]
  · rw [if_neg (by simpa using hk), seatedRow, if_neg]
    exact fun h => hk ⟨h.1, List.mem_singleton.mp h.2⟩

theorem seatedRow_seatedRow (ks ks' : List StageItemInputId) (team : StageItemInputId → TeamId)
    (i : StageItemInputRow) :
    seatedRow tid ks' team (seatedRow tid ks team i) = seatedRow tid (ks ++ ks') team i := by
  by_cases h1 : i.tournamentId = tid ∧ i.id ∈ ks
  · rw [seatedRow.eq_def tid ks, if_pos h1, seatedRow.eq_def tid (ks ++ ks'),
      if_pos ⟨h1.1, List.mem_append_left _ h1.2⟩, seatedRow]
    split <;> rfl
  · rw [seatedRow.eq_def tid ks, if_neg h1, seatedRow, seatedRow]
    refine if_congr (and_congr_right fun ht => ?_) rfl rfl
    rw [List.mem_append, or_iff_right fun h => h1 ⟨ht, h⟩]

/-- **What the statements leave**: the inputs that are named have their teams. -/
theorem seat_run {team : StageItemInputId → TeamId} {us : List StageItemInputUpdate}
    {db db' : Database} (hteam : ∀ u ∈ us, u.team.id = team u.stageItemInput.id)
    (h : us.foldlM (fun db u =>
      sqlSetTeamIdForStageItemInput db tid u.stageItemInput.id (some u.team.id)) db = .ok db')
    (x : StageItemInputId) : db'.stageItemInputs.find? x =
      (db.stageItemInputs.find? x).map (seatedRow tid (us.map (·.stageItemInput.id)) team) := by
  induction us generalizing db with
  | nil =>
    cases h
    refine (Option.map_id'.symm).trans (Option.map_congr fun i _ => ?_)
    exact (if_neg fun h => List.not_mem_nil h.2).symm
  | cons u us ih =>
    rw [List.foldlM_cons] at h
    obtain ⟨db1, h1, h⟩ := bind_eq_ok.mp h
    rw [ih (fun v hv => hteam v (List.mem_cons_of_mem _ hv)) h, (sqlSetTeamId_ok h1).1,
      hteam u List.mem_cons_self, setTeamId_find?, Option.map_map]
    exact Option.map_congr fun i _ => seatedRow_seatedRow _ _ team i

/-- Nothing but the inputs changes. -/
theorem seat_run_others {us : List StageItemInputUpdate} {db db' : Database}
    (h : us.foldlM (fun db u =>
      sqlSetTeamIdForStageItemInput db tid u.stageItemInput.id (some u.team.id)) db = .ok db') :
    db' = { db with stageItemInputs := db'.stageItemInputs } := by
  refine foldlM_invariant (P := fun d => d = { db with stageItemInputs := d.stageItemInputs })
    (fun d u d' hd hstep => ?_) rfl h
  rw [(sqlSetTeamId_ok hstep).1, hd]
  rfl

/-- The last statement has checked the constraint. -/
theorem seat_run_teamsOnce {us : List StageItemInputUpdate} {db db' : Database} (hus : us ≠ [])
    (h : us.foldlM (fun db u =>
      sqlSetTeamIdForStageItemInput db tid u.stageItemInput.id (some u.team.id)) db = .ok db') :
    TeamsOnce db' := by
  cases us with
  | nil => exact absurd rfl hus
  | cons u us =>
    rw [List.foldlM_cons] at h
    obtain ⟨db1, h1, h⟩ := bind_eq_ok.mp h
    exact foldlM_invariant (P := TeamsOnce) (fun _ _ _ _ hstep => (sqlSetTeamId_ok hstep).2)
      (sqlSetTeamId_ok h1).2 h

end Statements

/-! ## 3. Who enters -/

/-- An input of the stage that has no team and names a place of a stage item. -/
structure Database.Enters (db : Database) (stageId : StageId) (i : StageItemInputRow) : Prop where
  ofStage : (db.stageItems.find? i.stageItemId).map (·.stageId) = some stageId
  teamless : i.teamId = none
  sourced : i.winnerFromStageItemId.isSome = true

section Entering

variable {db : Database} {tid : TournamentId}

theorem mem_full_inputs {f : DetailsFilter} (hf : f.Whole) {item : StageItemRow}
    {i : StageItemInput} : i ∈ (stageItemWithRounds db tid f item).inputs ↔
      ∃ row ∈ db.stageItemInputs.rows, db.stageItemTournament row.stageItemId = some tid ∧
        row.stageItemId = item.id ∧ row.tournamentId = tid ∧ withTeam db row = i := by
  rw [stageItemWithRounds, List.mem_insertionSort, List.mem_filter, mem_inputsWithTeams hf,
    Bool.and_eq_true, beq_iff_eq, beq_iff_eq]
  constructor
  · rintro ⟨⟨row, hrow, ht, rfl⟩, hitem, hown⟩
    exact ⟨row, hrow, ht, hitem, hown, rfl⟩
  · rintro ⟨row, hrow, ht, hitem, hown, rfl⟩
    exact ⟨⟨row, hrow, ht, rfl⟩, hitem, hown⟩

theorem tournament_of_stage {s : StageRow} (hs : s ∈ db.stages.rows) (ht : s.tournamentId = tid)
    {k : StageItemId} (hof : (db.stageItems.find? k).map (·.stageId) = some s.id) :
    db.stageItemTournament k = some tid := by
  obtain ⟨irow, hfind, hstage⟩ := Option.map_eq_some_iff.mp hof
  exact stageItemTournament_eq_some.mpr ⟨irow, s, hfind, hstage ▸ db.stages.find?_key hs, ht⟩

/-- The inputs of a loaded stage. -/
theorem mem_stage_inputs {s : StageRow} (hs : s ∈ db.stages.rows) (ht : s.tournamentId = tid)
    {i : StageItemInput} :
    (∃ item ∈ (stageWithStageItems db tid {} s).stageItems, i ∈ item.inputs) ↔
      ∃ row ∈ db.stageItemInputs.rows, withTeam db row = i ∧ row.tournamentId = tid ∧
        (db.stageItems.find? row.stageItemId).map (·.stageId) = some s.id := by
  constructor
  · rintro ⟨item, hitem, hi⟩
    obtain ⟨irow, hirow, hstage, rfl⟩ := (mem_full_stageItems wholeFilter_whole).mp hitem
    obtain ⟨row, hrow, -, hof, hown, rfl⟩ := (mem_full_inputs wholeFilter_whole).mp hi
    have hfind : db.stageItems.find? row.stageItemId = some irow :=
      hof ▸ db.stageItems.find?_key hirow
    refine ⟨row, hrow, rfl, hown, ?_⟩
    rw [hfind, Option.map_some, hstage]
  · rintro ⟨row, hrow, rfl, hown, hof⟩
    obtain ⟨irow, hfind, hstage⟩ := Option.map_eq_some_iff.mp hof
    have hid : irow.id = row.stageItemId := db.stageItems.key_of_find? hfind
    have htour := tournament_of_stage hs ht hof
    exact ⟨_, (mem_full_stageItems wholeFilter_whole).mpr
      ⟨irow, db.stageItems.mem_of_find? hfind, hstage, rfl⟩,
      (mem_full_inputs wholeFilter_whole).mpr ⟨row, hrow, htour, hid.symm, hown, rfl⟩⟩

theorem source?_withTeam {row : StageItemInputRow} {k : StageItemId} {place : Int} :
    (withTeam db row).source? = some (k, place) ↔ row.teamId = none ∧
      row.winnerFromStageItemId = some k ∧ row.winnerPosition = some place := by
  unfold StageItemInput.source? withTeam
  dsimp only
  cases row.teamId <;> cases row.winnerFromStageItemId <;> cases row.winnerPosition <;> simp

/-- A place that was accepted counts from one. -/
theorem place_of_valid {row : StageItemInputRow} (h : (withTeam db row).valid = true)
    (hteam : row.teamId = none) (hsource : row.winnerFromStageItemId.isSome = true) :
    ∃ k place, row.winnerFromStageItemId = some k ∧ row.winnerPosition = some place ∧
      1 ≤ place := by
  obtain ⟨k, hk⟩ := Option.isSome_iff_exists.mp hsource
  have hteam : (withTeam db row).teamId = none := hteam
  have hk' : (withTeam db row).winnerFromStageItemId = some k := hk
  unfold StageItemInput.valid at h
  rw [hteam, hk'] at h
  cases hp : (withTeam db row).winnerPosition with
  | none =>
    rw [hp] at h
    cases h
  | some place =>
    rw [hp] at h
    exact ⟨k, place, hk, hp, of_decide_eq_true h⟩

end Entering

/-! ## 4. The activation -/

/-- What activating a stage did. -/
structure Activated (db db' : Database) (tid : TournamentId) (stageId : StageId)
    (standings : StageItemXTeamRanking) : Prop where
  entered : ∀ i ∈ db.stageItemInputs.rows, db.Enters stageId i →
    ∃ k place t, i.winnerFromStageItemId = some k ∧ i.winnerPosition = some place ∧
      placedTeam db standings k place = some t ∧
      db'.stageItemInputs.find? i.id = some { i with teamId := some t }
  apart : ∀ i ∈ db.stageItemInputs.rows, ∀ j ∈ db.stageItemInputs.rows, db.Enters stageId i →
    db.Enters stageId j → i.winnerFromStageItemId = j.winnerFromStageItemId →
    i.winnerPosition ≠ j.winnerPosition → ∀ a b, db'.stageItemInputs.find? i.id = some a →
      db'.stageItemInputs.find? j.id = some b → a.teamId ≠ b.teamId
  kept : ∀ x, (∀ i, db.stageItemInputs.find? x = some i → ¬ db.Enters stageId i) →
    db'.stageItemInputs.find? x = db.stageItemInputs.find? x
  others : db' = { db with stageItemInputs := db'.stageItemInputs, stages := db'.stages }
  stages : db'.stages.rows = db.stages.rows.map fun s =>
    if s.tournamentId = tid then { s with isActive := decide (s.id = stageId) } else s
  next : ∃ s ∈ db.stages.rows, s.tournamentId = tid ∧ s.id = stageId ∧ s.isActive = false

section Activation

variable {E : ExpectedScore} {db db' : Database} {tid : TournamentId}

theorem getNextStage_inactive {stageId : StageId}
    (h : getNextStageInTournament db tid true = some stageId) :
    ∃ s ∈ db.stages.rows, s.tournamentId = tid ∧ s.id = stageId ∧ s.isActive = false := by
  unfold getNextStageInTournament at h
  obtain ⟨s, hs, rfl⟩ := Option.map_eq_some_iff.mp h
  obtain ⟨hs, hinactive⟩ := List.mem_filter.mp (List.mem_of_find?_eq_some hs)
  obtain ⟨hs, ht⟩ := List.mem_filter.mp hs
  exact ⟨s, hs, eq_of_beq ht, rfl, by simpa using hinactive⟩

theorem sqlActivateNextStage_rows (stageId : StageId) :
    (sqlActivateNextStage db stageId tid).stages.rows = db.stages.rows.map fun s =>
      if s.tournamentId = tid then { s with isActive := decide (s.id = stageId) } else s := by
  rw [sqlActivateNextStage, Table.rows_update]
  refine List.map_congr_left fun s _ => ?_
  by_cases ht : s.tournamentId = tid
  · rw [if_pos (by simpa using ht), if_pos ht]
    rfl
  · rw [if_neg (by simpa using ht), if_neg ht]

/-- The standings of a stage item list different inputs of it. -/
theorem standings_entries {standings : StageItemXTeamRanking}
    (h : getStandings E db tid = .ok standings) {k : StageItemId} {l : List RankingEntry}
    (hk : standings.lookup k = some l) :
    (l.map Prod.fst).Nodup ∧
      ∀ e ∈ l, ∃ row ∈ db.stageItemInputs.rows, row.id = e.1 ∧ row.stageItemId = k := by
  obtain ⟨stages, hload, hlookup⟩ := bind_eq_ok.mp h
  obtain ⟨stage, hstage, item, hitem, rfl, hl⟩ := lookup_ranked hlookup hk
  obtain ⟨hnodup, hlisted⟩ := teamRankingOf_entries hl
  refine ⟨hnodup, fun e he => ?_⟩
  obtain ⟨i, hi, hid⟩ := hlisted e he
  rw [getFullTournamentDetails_ok hload] at hstage
  obtain ⟨s, -, -, rfl⟩ := (mem_full_stages publishedFilter_whole).mp hstage
  obtain ⟨irow, -, -, rfl⟩ := (mem_full_stageItems publishedFilter_whole).mp hitem
  obtain ⟨row, hrow, -, hof, -, rfl⟩ := (mem_full_inputs publishedFilter_whole).mp hi
  exact ⟨row, hrow, hid, hof⟩

/-- Two places of one stage item have different inputs of it. -/
theorem Placed.apart {standings : StageItemXTeamRanking}
    (hstandings : getStandings E db tid = .ok standings) {k : StageItemId} {p q : Int}
    {a b : StageItemInputRow} {t t' : TeamId} (ha : Placed db standings k p a t)
    (hb : Placed db standings k q b t') (hne : p ≠ q) :
    a.id ≠ b.id ∧ a.stageItemId = k ∧ b.stageItemId = k := by
  obtain ⟨l, e, hl, he, hea⟩ := ha.listed
  obtain ⟨l', f, hl', hf, hfb⟩ := hb.listed
  obtain rfl : l = l' := Option.some.inj (hl.symm.trans hl')
  obtain ⟨hnodup, hlisted⟩ := standings_entries hstandings hl
  have hof : ∀ {x : StageItemInputRow} {e : RankingEntry}, e ∈ l → e.1 = x.id →
      x ∈ db.stageItemInputs.rows → x.stageItemId = k := by
    intro x e he hex hx
    obtain ⟨row, hrow, hid, hk⟩ := hlisted e he
    rw [← hk, db.stageItemInputs.eq_of_key hx hrow (hex.symm.trans hid.symm)]
  refine ⟨fun hid => hne ?_, hof (List.mem_of_getElem? he) hea ha.row,
    hof (List.mem_of_getElem? hf) hfb hb.row⟩
  -- an input stands in one place
  have hplace : (l.map Prod.fst)[(p - 1).toNat]? = (l.map Prod.fst)[(q - 1).toNat]? := by
    rw [List.getElem?_map, List.getElem?_map, he, hf, Option.map_some, Option.map_some, hea, hfb, hid]
  obtain ⟨hlt, -⟩ := List.getElem?_eq_some_iff.mp he
  have hsame := (List.getElem?_inj (by rwa [List.length_map]) hnodup).mp hplace
  have hp := ha.place_ge
  have hq := hb.place_ge
  omega

/-- The updates of an activation are those of the inputs that enter. -/
structure EntryUpdates (db : Database) (tid : TournamentId) (stageId : StageId)
    (standings : StageItemXTeamRanking) (us : List StageItemInputUpdate) : Prop where
  sound : ∀ u ∈ us, ∃ row ∈ db.stageItemInputs.rows, u.stageItemInput.id = row.id ∧
    db.Enters stageId row ∧ ∃ k place target, row.winnerFromStageItemId = some k ∧
      row.winnerPosition = some place ∧ Placed db standings k place target u.team.id
  complete : ∀ row ∈ db.stageItemInputs.rows, db.Enters stageId row →
    row.tournamentId = tid ∧ ∃ u ∈ us, u.stageItemInput.id = row.id

/-- **Activation collects its updates from the standings.** -/
theorem updates_entries (hfiled : db.InputsFiled tid) {stageId : StageId}
    {updates : StageItemInputUpdates}
    (h : getUpdatesToInputsInActivatedStage E db tid stageId = .ok updates) :
    ∃ standings, getStandings E db tid = .ok standings ∧
      EntryUpdates db tid stageId standings updates.values.flatten := by
  obtain ⟨stages, hload, h⟩ := bind_eq_ok.mp h
  obtain ⟨standings, stage, hlookup, hfind, heach, hmem⟩ := updatesInActivatedStage_ok h
  -- the standings are loaded without the drafts and rank alike
  have hstandings : getStandings E db tid = .ok standings := by
    have hpublished := load_published hfiled
    rw [hload, ok_bind] at hpublished
    rw [getStandings, ← publishedFilter.eq_def, hpublished, ok_bind, lookup_published, hlookup]
  have hvalid : ∀ i ∈ inputsWithTeams db tid {}, i.valid = true := by
    refine (full_valid_iff wholeFilter_whole hfiled).mp ?_
    unfold getFullTournamentDetails at hload
    split at hload
    · next hall => exact hall
    · cases hload
  obtain rfl := getFullTournamentDetails_ok hload
  obtain ⟨s, hs, ht, rfl⟩ := (mem_full_stages wholeFilter_whole).mp (List.mem_of_find?_eq_some hfind)
  obtain rfl : s.id = stageId := by simpa [stageWithStageItems] using List.find?_some hfind
  have hplace : ∀ row ∈ db.stageItemInputs.rows, db.Enters s.id row →
      ∃ k place, row.winnerFromStageItemId = some k ∧ row.winnerPosition = some place ∧
        1 ≤ place := fun row hrow henters =>
    place_of_valid (hvalid _ ((mem_inputsWithTeams wholeFilter_whole).mpr
      ⟨row, hrow, tournament_of_stage hs ht henters.ofStage, rfl⟩)) henters.teamless henters.sourced
  refine ⟨standings, hstandings, fun u hu => ?_, fun row hrow henters => ?_⟩
  · obtain ⟨item, hitem, i, hi, ⟨k, place⟩, hsource, hupdate⟩ := (hmem u).mp hu
    obtain ⟨row, hrow, rfl, -, hof⟩ := (mem_stage_inputs hs ht).mp ⟨item, hitem, hi⟩
    obtain ⟨hteam, hk, hp⟩ := source?_withTeam.mp hsource
    have henters : db.Enters s.id row := ⟨hof, hteam, by rw [hk]; rfl⟩
    obtain ⟨_, place', -, hp', hge⟩ := hplace row hrow henters
    obtain rfl : place = place' := Option.some.inj (hp.symm.trans hp')
    obtain ⟨hinput, target, hplaced⟩ := getTeamUpdate_placed hge hupdate
    exact ⟨row, hrow, congrArg (·.id) hinput, henters, k, place, target, hk, hp, hplaced⟩
  · have hown := hfiled row hrow (tournament_of_stage hs ht henters.ofStage)
    obtain ⟨k, place, hk, hp, hge⟩ := hplace row hrow henters
    obtain ⟨item, hitem, hi⟩ :=
      (mem_stage_inputs hs ht).mpr ⟨row, hrow, rfl, hown, henters.ofStage⟩
    have hsource := (@source?_withTeam db row k place).mpr ⟨henters.teamless, hk, hp⟩
    obtain ⟨u, hu⟩ := heach item hitem _ hi _ hsource
    exact ⟨hown, u, (hmem u).mpr ⟨item, hitem, _, hi, _, hsource, hu⟩,
      congrArg (·.id) (getTeamUpdate_placed hge hu).1⟩

/-- The team that an input takes from its place. -/
def entryTeam (db : Database) (standings : StageItemXTeamRanking) (k : StageItemInputId) : TeamId :=
  ((db.stageItemInputs.find? k).bind fun i => i.winnerFromStageItemId.bind fun source =>
    i.winnerPosition.bind (placedTeam db standings source)).getD 0

section Entries

variable {stageId : StageId} {standings : StageItemXTeamRanking} {us : List StageItemInputUpdate}
  (hentries : EntryUpdates db tid stageId standings us)
include hentries

theorem EntryUpdates.team : ∀ u ∈ us, u.team.id = entryTeam db standings u.stageItemInput.id := by
  intro u hu
  obtain ⟨row, hrow, hid, -, k, place, target, hk, hp, hplaced⟩ := hentries.sound u hu
  have hfind : db.stageItemInputs.find? u.stageItemInput.id = some row :=
    hid ▸ db.stageItemInputs.find?_key hrow
  rw [entryTeam, hfind, Option.bind_some, hk, Option.bind_some, hp, Option.bind_some,
    hplaced.placedTeam, Option.getD_some]

variable (hrun : us.foldlM (fun db u =>
  sqlSetTeamIdForStageItemInput db tid u.stageItemInput.id (some u.team.id)) db = .ok db')
include hrun

/-- The team of an input that enters. -/
theorem EntryUpdates.entered {i : StageItemInputRow} (hi : i ∈ db.stageItemInputs.rows)
    (henters : db.Enters stageId i) : ∃ k place target t, i.winnerFromStageItemId = some k ∧
      i.winnerPosition = some place ∧ Placed db standings k place target t ∧
      db'.stageItemInputs.find? i.id = some { i with teamId := some t } := by
  obtain ⟨hown, u, hu, hid⟩ := hentries.complete i hi henters
  obtain ⟨row, hrow, hid', -, k, place, target, hk, hp, hplaced⟩ := hentries.sound u hu
  obtain rfl : i = row := db.stageItemInputs.eq_of_key hi hrow (hid.symm.trans hid')
  refine ⟨k, place, target, u.team.id, hk, hp, hplaced, ?_⟩
  have hfind : db.stageItemInputs.find? i.id = some i := db.stageItemInputs.find?_key hi
  rw [seat_run hentries.team hrun, hfind, Option.map_some, seatedRow,
    if_pos ⟨hown, List.mem_map.mpr ⟨u, hu, hid⟩⟩, hentries.team u hu, hid]

/-- Every other input stays as it was. -/
theorem EntryUpdates.kept {x : StageItemInputId}
    (hx : ∀ i, db.stageItemInputs.find? x = some i → ¬ db.Enters stageId i) :
    db'.stageItemInputs.find? x = db.stageItemInputs.find? x := by
  rw [seat_run hentries.team hrun]
  refine (Option.map_congr fun i hi => ?_).trans Option.map_id'
  refine if_neg fun ⟨_, hmem⟩ => ?_
  obtain ⟨u, hu, hid⟩ := List.mem_map.mp hmem
  obtain ⟨row, hrow, hid', henters, -⟩ := hentries.sound u hu
  obtain rfl : i = row :=
    db.stageItemInputs.eq_of_key (db.stageItemInputs.mem_of_find? hi) hrow (hid.symm.trans hid')
  exact hx i hi henters

/-- Different places bring different teams: their inputs have kept them. -/
theorem EntryUpdates.apart (hstandings : getStandings E db tid = .ok standings)
    {i j : StageItemInputRow} (hi : i ∈ db.stageItemInputs.rows) (hj : j ∈ db.stageItemInputs.rows)
    (hienters : db.Enters stageId i) (hjenters : db.Enters stageId j)
    (hsource : i.winnerFromStageItemId = j.winnerFromStageItemId)
    (hplaces : i.winnerPosition ≠ j.winnerPosition) {a b : StageItemInputRow}
    (ha : db'.stageItemInputs.find? i.id = some a) (hb : db'.stageItemInputs.find? j.id = some b) :
    a.teamId ≠ b.teamId := by
  obtain ⟨k, p, c, t, hk, hp, hc, hfind⟩ := hentries.entered hrun hi hienters
  obtain ⟨k', q, d, t', hk', hq, hd, hfind'⟩ := hentries.entered hrun hj hjenters
  obtain rfl : k = k' := Option.some.inj (hk.symm.trans (hsource.trans hk'))
  obtain rfl := Option.some.inj (ha.symm.trans hfind)
  obtain rfl := Option.some.inj (hb.symm.trans hfind')
  have hpq : p ≠ q := fun e => hplaces (by rw [hp, hq, e])
  obtain ⟨hne, hck, hdk⟩ := hc.apart hstandings hd hpq
  have hstays : ∀ {x : StageItemInputRow} {t : TeamId}, x ∈ db.stageItemInputs.rows →
      x.teamId = some t → x ∈ db'.stageItemInputs.rows := by
    intro x t hx ht
    have hfind : db.stageItemInputs.find? x.id = some x := db.stageItemInputs.find?_key hx
    refine db'.stageItemInputs.mem_of_find? ((hentries.kept hrun fun y hy henters => ?_).trans hfind)
    obtain rfl : x = y := Option.some.inj (hfind.symm.trans hy)
    rw [henters.teamless] at ht
    cases ht
  obtain ⟨-, u, hu, -⟩ := hentries.complete i hi hienters
  have hunique := seat_run_teamsOnce (List.ne_nil_of_mem hu) hrun
  intro hteams
  have hteams : some t = some t' := hteams
  refine hne (congrArg (·.id) (hunique.eq_of_team (hstays hc.row hc.team) (hstays hd.row hd.team)
    (hck.trans hdk.symm) hc.team (hd.team.trans hteams.symm)))

end Entries

/-- The steps of an activation: the standings, the inputs that enter, the active stage. -/
theorem activateNext_entries (hfiled : db.InputsFiled tid)
    (h : activateNextStage E db tid .next = .ok db') : ∃ stageId standings us db1,
      getNextStageInTournament db tid true = some stageId ∧ getStandings E db tid = .ok standings ∧
      EntryUpdates db tid stageId standings us ∧
      us.foldlM (fun db u =>
        sqlSetTeamIdForStageItemInput db tid u.stageItemInput.id (some u.team.id)) db = .ok db1 ∧
      db' = sqlActivateNextStage db1 stageId tid := by
  obtain ⟨stageId, db1, -, hnext, hwrites, rfl⟩ := activateNextStage_ok h
  obtain ⟨h1⟩ := hwrites
  obtain ⟨updates, hupdates, hrun⟩ := bind_eq_ok.mp h1
  obtain ⟨standings, hstandings, hentries⟩ := updates_entries hfiled hupdates
  exact ⟨stageId, standings, _, db1, hnext, hstandings, hentries, hrun, rfl⟩

/-- **Activation follows the standings.** -/
theorem activateNextStage_seats (hfiled : db.InputsFiled tid)
    (h : activateNextStage E db tid .next = .ok db') :
    ∃ stageId standings, getNextStageInTournament db tid true = some stageId ∧
      getStandings E db tid = .ok standings ∧ Activated db db' tid stageId standings := by
  obtain ⟨stageId, standings, us, db1, hnext, hstandings, hentries, hrun, rfl⟩ :=
    activateNext_entries hfiled h
  have hothers := seat_run_others hrun
  refine ⟨stageId, standings, hnext, hstandings, ?_, ?_, ?_, ?_, ?_, getNextStage_inactive hnext⟩
  · intro i hi henters
    obtain ⟨k, place, target, t, hk, hp, hplaced, hfind⟩ := hentries.entered hrun hi henters
    exact ⟨k, place, t, hk, hp, hplaced.placedTeam, hfind⟩
  · intro i hi j hj hienters hjenters hsource hplaces a b ha hb
    exact hentries.apart hrun hstandings hi hj hienters hjenters hsource hplaces ha hb
  · exact fun x hx => hentries.kept hrun hx
  · rw [hothers]
    rfl
  · rw [sqlActivateNextStage_rows, hothers]

/-- The inputs of an isolated database are stored under their tournaments. -/
theorem Isolated.filed (hdb : Isolated db) (tid : TournamentId) : db.InputsFiled tid :=
  fun _ hi ht => hdb.input_own hi ht

theorem two_teams : 2 ≤ 2 ∧ 2 ≤ 64 := by decide

theorem four_teams : 2 ≤ 4 ∧ 4 ≤ 64 := by decide

theorem first_place : (1 : Int) ≤ 1 := le_refl 1

theorem second_place : (1 : Int) ≤ 2 := by decide

/-- A Swiss stage item of three whose first two play a final. Its first round is played, the second
    one is a draft. -/
def swissThenFinal : List Call :=
  [.createTournament ⟨⟨0, true, none, 38, 16, by decide, by decide⟩, 1⟩,
    .request 1 .createStage, .request 1 .createStage,
    .request 1 (.createMultipleTeams [("Red", []), ("Blue", []), ("Green", [])] true),
    .request 1 (.createStageItem ⟨1, none, .swiss, 3, none, three_teams⟩),
    .request 1 (.createStageItem ⟨2, none, .singleElimination, 2, none, two_teams⟩),
    .request 1 (.updateStageItemInput 1 1 (.final 3)),
    .request 1 (.updateStageItemInput 1 2 (.final 1)),
    .request 1 (.updateStageItemInput 1 3 (.final 2)),
    .request 1 (.updateStageItemInput 2 4 (.tentative 1 2 second_place)),
    .request 1 (.updateStageItemInput 2 5 (.tentative 1 1 first_place)),
    .request 1 (.activateNextStage .next), .request 1 (.createRound ⟨none, 1⟩),
    .request 1 (.updateRoundById 2 ⟨"Round 1", false⟩),
    .request 1 (.updateMatchById 2 ⟨2, 0, 2, none, none, no_duration, no_margin⟩),
    .request 1 (.createRound ⟨none, 1⟩)]

/-- The final is seated by the result: the first slot of the group has lost, so its team is last and
    stays out, and the draft does not count. -/
theorem swissThenFinal_seats : ∃ db db', runCalls quietEnvironment swissThenFinal = .ok db ∧
    (∃ r ∈ db.rounds.rows, r.isDraft = true) ∧
    activateNextStage quietEnvironment.expectedScore db 1 .next = .ok db' ∧
    db'.stageItemInputs.rows.map (·.teamId) = [some 3, some 1, some 2, some 2, some 1] ∧
    ∃ stageId standings, getNextStageInTournament db 1 true = some stageId ∧
      getStandings quietEnvironment.expectedScore db 1 = .ok standings ∧
      standings.map (fun e => (e.1, e.2.map Prod.fst)) = [(1, [2, 3, 1]), (2, [])] ∧
      Activated db db' 1 stageId standings := by
  obtain ⟨db, hdb, hdraft, hstandings, hactive⟩ := exists_ok_of_any
    (x := runCalls quietEnvironment swissThenFinal)
    (P := fun db => (∃ r ∈ db.rounds.rows, r.isDraft = true) ∧
      ((getStandings quietEnvironment.expectedScore db 1).toOption.any fun standings =>
        decide (standings.map (fun e => (e.1, e.2.map Prod.fst)) = [(1, [2, 3, 1]), (2, [])])) =
          true ∧
      ((activateNextStage quietEnvironment.expectedScore db 1 .next).toOption.any fun db' =>
        decide (db'.stageItemInputs.rows.map (·.teamId) =
          [some 3, some 1, some 2, some 2, some 1])) = true) (by decide +kernel)
  obtain ⟨db', hdb', hteams⟩ := exists_ok_of_any hactive
  obtain ⟨standings, hstandings, horder⟩ := exists_ok_of_any hstandings
  have hisolated : Isolated db :=
    Runs.isolated (C := fun _ _ _ => True) (runs_of_calls (fun _ _ => trivial) hdb) isolated_empty
  obtain ⟨stageId, standings', hnext, hstandings', hactivated⟩ :=
    activateNextStage_seats (hisolated.filed 1) hdb'
  obtain rfl : standings = standings' := Except.ok.inj (hstandings.symm.trans hstandings')
  exact ⟨db, db', hdb, hdraft, hdb', hteams, stageId, standings, hnext, hstandings, horder,
    hactivated⟩

end Activation

end Brackets
