/-
  File:      Brackets/Progress/Entrants.lean
  Subject:   Whether everyone who enters the next stage gets a team.

  The inputs of the next stage that have no team take it from a place of the standings of another
  stage item. The standings list `ranked`: the inputs with a team and those that have played. So a
  place that nobody has taken yet is out of their range (`oneSeated_crashes`), and an empty slot is
  refused only where it has played.

  * `standings_total`: when the tournament has standings;
  * `getTeamUpdate_cases`: who gets no team, and why;
  * `nextStage_resolves`: when every input gets its team or the request is refused.
-/
import Brackets.Progress.Activation
import Brackets.Progress.Sources
import Brackets.Ranking.Ratings

namespace Brackets

open Library

/-! ## 1. The standings of a stage item -/

/-- Whoever plays in the stage item is one of its inputs. -/
def StageItemWithRounds.PlaysOwn (item : StageItemWithRounds) : Prop :=
  ∀ k, item.HasPlayed k → ∃ i ∈ item.inputs, i.id = k

/-- The inputs that the standings list: those with a team, and those that have played. -/
def StageItemWithRounds.ranked (item : StageItemWithRounds) : List StageItemInput :=
  item.inputs.filter fun i => i.teamId.isSome || item.played.any fun m =>
    m.stageItemInput1.any (·.id == i.id) || m.stageItemInput2.any (·.id == i.id)

section Ranked

variable {E : ExpectedScore} {item : StageItemWithRounds} {ranking : RankingRow}

theorem mem_ranked {i : StageItemInput} :
    i ∈ item.ranked ↔ i ∈ item.inputs ∧ (i.teamId.isSome = true ∨ item.HasPlayed i.id) := by
  have hside : ∀ (m : Match), (m.stageItemInput1.any (·.id == i.id) ||
      m.stageItemInput2.any (·.id == i.id)) = true ↔
        ∃ side j, m.input side = some j ∧ j.id = i.id := by
    intro m
    rw [Bool.or_eq_true, Option.any_eq_true, Option.any_eq_true]
    constructor
    · rintro (⟨j, hj, hid⟩ | ⟨j, hj, hid⟩)
      · exact ⟨.one, j, hj, eq_of_beq hid⟩
      · exact ⟨.two, j, hj, eq_of_beq hid⟩
    · rintro ⟨side, j, hj, hid⟩
      cases side with
      | one => exact .inl ⟨j, hj, beq_iff_eq.mpr hid⟩
      | two => exact .inr ⟨j, hj, beq_iff_eq.mpr hid⟩
  rw [StageItemWithRounds.ranked, List.mem_filter, Bool.or_eq_true, List.any_eq_true]
  simp only [hside]
  rfl

/-- **When a stage item has standings.** -/
theorem determineTeamRanking_total (hE : MathPow E) :
    (∃ l, determineTeamRankingForStageItem E item ranking = .ok l) ↔
      item.PlaysOwn ∧ ¬ MeetTooFarApart .exact E item ranking := by
  constructor
  · rintro ⟨l, hl⟩
    obtain ⟨d, hd, hslots, -⟩ := determineTeamRanking_eq_ok.mp hl
    refine ⟨fun k hk => hslots k ((ranking_keys hd k).mpr (.inr hk)), fun ⟨htype, hmeet⟩ => ?_⟩
    have hfails := (Rounded.determineRanking_fails hE htype ranking _).mpr ⟨rfl, hmeet⟩
    cases hd.symm.trans hfails
  · rintro ⟨hown, hnear⟩
    obtain ⟨d, hd⟩ := determineRanking_of_near hE hnear
    refine ⟨_, determineTeamRanking_eq_ok.mpr ⟨d, hd, fun k hk => ?_, rfl⟩⟩
    rcases (ranking_keys hd k).mp hk with ⟨i, hi, hid, -⟩ | hplayed
    · exact ⟨i, hi, hid⟩
    · exact hown k hplayed

/-- The standings list the ranked inputs. -/
theorem determineTeamRanking_ranked (hids : (item.inputs.map (·.id)).Nodup) {l : List RankingEntry}
    (h : determineTeamRankingForStageItem E item ranking = .ok l) :
    (l.map Prod.fst).Perm (item.ranked.map (·.id)) := by
  obtain ⟨d, hd, hslots, rfl⟩ := determineTeamRanking_eq_ok.mp h
  have hkeys : ((((keyedEntries item d).insertionSort standsBefore).map (·.1)).map Prod.fst).Perm
      d.keys := keyedEntries_perm.map Prod.fst
  have hnodup : (item.ranked.map (·.id)).Nodup := hids.sublist (List.filter_sublist.map _)
  refine hkeys.trans ((List.perm_ext_iff_of_nodup d.nodup hnodup).mpr fun k => ?_)
  refine (ranking_keys hd k).trans ?_
  simp only [List.mem_map, mem_ranked]
  constructor
  · rintro (⟨i, hi, hid, hteam⟩ | hplayed)
    · exact ⟨i, ⟨hi, .inl hteam⟩, hid⟩
    · obtain ⟨i, hi, hid⟩ := hslots k ((ranking_keys hd k).mpr (.inr hplayed))
      exact ⟨i, ⟨hi, .inr (hid ▸ hplayed)⟩, hid⟩
  · rintro ⟨i, ⟨hi, hteam | hplayed⟩, hid⟩
    · exact .inl ⟨i, hi, hid, hteam⟩
    · exact .inr (hid ▸ hplayed)

/-- Standings that are missing are a crash. -/
theorem determineTeamRanking_crash (hE : MathPow E) {e : Failure}
    (h : determineTeamRankingForStageItem E item ranking = .error e) : ∃ c, e = .crash c := by
  rcases bind_eq_error.mp h with h | ⟨d, -, h⟩
  · by_cases htype : item.type = .swiss
    · exact ⟨_, ((Rounded.determineRanking_fails hE htype ranking e).mp h).1⟩
    · have htotal : ∃ d, determineRankingForStageItem E item ranking = .ok d :=
        Rounded.determineRanking_total htype
      obtain ⟨d, hd⟩ := htotal
      cases hd.symm.trans h
  · rcases bind_eq_error.mp h with h | ⟨_, -, h⟩
    · obtain ⟨a, -, h⟩ := mapM_error h
      rcases bind_eq_error.mp h with h | ⟨_, -, h⟩
      · exact ⟨_, (orRaise_eq_error.mp h).2.symm⟩
      · cases h
    · cases h

end Ranked

/-! ## 2. The standings of a tournament -/

section Loaded

variable {C : Environment → Database → Call → Prop} {E : ExpectedScore} {db : Database}
  {tid : TournamentId} (hrun : Runs C .empty db)

/-- The stage item is loaded with the tournament. -/
def LoadedItem (db : Database) (tid : TournamentId) (item : StageItemWithRounds) : Prop :=
  ∃ stage ∈ fullTournamentDetails db tid {}, item ∈ stage.stageItems

theorem LoadedItem.row {item : StageItemWithRounds} (h : LoadedItem db tid item) :
    ∃ row ∈ db.stageItems.rows, db.stageItemTournament row.id = some tid ∧
      item = stageItemWithRounds db tid {} row := by
  obtain ⟨stage, hstage, hitem⟩ := h
  obtain ⟨s, hs, ht, rfl⟩ := mem_fullTournamentDetails hstage
  obtain ⟨row, hrow, hsid, -, rfl⟩ := mem_stageWithStageItems hitem
  exact ⟨row, hrow, stageItemTournament_eq_some.mpr ⟨row, s, db.stageItems.find?_key hrow,
    hsid ▸ db.stages.find?_key hs, ht⟩, rfl⟩

theorem loadedItem_of_tournament {k : StageItemId} (h : db.stageItemTournament k = some tid) :
    ∃ item, LoadedItem db tid item ∧ item.id = k := by
  obtain ⟨row, s, hrow, hs, ht⟩ := stageItemTournament_eq_some.mp h
  have hsid : s.id = row.stageId := db.stages.key_of_find? hs
  refine ⟨stageItemWithRounds db tid {} row, ⟨_, (mem_full_stages wholeFilter_whole).mpr
    ⟨s, db.stages.mem_of_find? hs, ht, rfl⟩, (mem_full_stageItems wholeFilter_whole).mpr ?_⟩,
    db.stageItems.key_of_find? hrow⟩
  exact ⟨row, db.stageItems.mem_of_find? hrow, hsid.symm, rfl⟩

theorem LoadedItem.eq {item item' : StageItemWithRounds} (h : LoadedItem db tid item)
    (h' : LoadedItem db tid item') (hid : item.id = item'.id) : item = item' := by
  obtain ⟨row, hrow, -, rfl⟩ := h.row
  obtain ⟨row', hrow', -, rfl⟩ := h'.row
  rw [db.stageItems.eq_of_key hrow hrow' hid]

theorem LoadedItem.inputs_nodup {item : StageItemWithRounds} (h : LoadedItem db tid item) :
    (item.inputs.map (·.id)).Nodup := by
  obtain ⟨row, -, -, rfl⟩ := h.row
  refine ((List.perm_insertionSort _ _).map _).nodup_iff.mpr ?_
  refine List.Nodup.sublist (List.filter_sublist.map _) ?_
  rw [inputsWithTeams, List.map_map]
  exact List.pairwise_map.mpr ((db.stageItemInputs.sorted_filter _).imp fun h => ne_of_lt h)

include hrun in
/-- Its rankings row exists. -/
theorem LoadedItem.ranking {item : StageItemWithRounds} (h : LoadedItem db tid item) :
    ∃ ranking, getRankingForStageItem db tid item.id = some ranking := by
  obtain ⟨row, hrow, ht, rfl⟩ := h.row
  obtain ⟨b, hb⟩ := (hrun.isolated isolated_empty).stageItems row hrow
  rw [Database.stageItemTournament_row hrow] at ht
  obtain rfl : b = tid := Option.some.inj (hb.stage.symm.trans ht)
  obtain ⟨ranking, hranking, hid, htour⟩ := Table.ownerAt_eq_some.mp hb.ranking
  refine ⟨ranking, Option.filter_eq_some_iff.mpr ⟨?_, ?_⟩⟩
  · have hfind : db.stageItems.find? row.id = some row := db.stageItems.find?_key hrow
    refine Option.bind_eq_some_iff.mpr ⟨row, hfind, ?_⟩
    rw [← hid]
    exact db.rankings.find?_key hranking
  · exact beq_iff_eq.mpr (Option.some.inj htour)

/-- Everyone who plays in a loaded stage item is one of its inputs, and no Swiss opponents are too
    far apart for `math.pow`. -/
structure Rankable (E : ExpectedScore) (db : Database) (tid : TournamentId) : Prop where
  own : ∀ item, LoadedItem db tid item → item.PlaysOwn
  near : ∀ item, LoadedItem db tid item → ∀ ranking,
    getRankingForStageItem db tid item.id = some ranking → ¬ MeetTooFarApart .exact E item ranking

include hrun in
/-- **When a tournament has standings**; otherwise the program crashes. -/
theorem standings_total (hE : MathPow E) :
    (Rankable E db tid → ∃ rankings, getTeamRankingsLookupForTournament E db tid
      (fullTournamentDetails db tid {}) = .ok rankings) ∧
    ∀ e, getTeamRankingsLookupForTournament E db tid (fullTournamentDetails db tid {}) = .error e →
      ∃ c, e = .crash c := by
  have hfails : ∀ e, getTeamRankingsLookupForTournament E db tid
      (fullTournamentDetails db tid {}) = .error e → ∃ item ranking, LoadedItem db tid item ∧
        getRankingForStageItem db tid item.id = some ranking ∧
        determineTeamRankingForStageItem E item ranking = .error e := by
    intro e h
    obtain ⟨⟨k, item⟩, hentry, h⟩ := mapM_error h
    obtain ⟨item, hitem, hk⟩ :=
      List.mem_map.mp (Dict.mem_of_ofList ((Dict.get?_eq_some _).mpr hentry))
    cases hk
    have hloaded : LoadedItem db tid item := List.mem_flatMap.mp hitem
    obtain ⟨ranking, hranking⟩ := hloaded.ranking hrun
    rcases bind_eq_error.mp h with h | ⟨_, -, h⟩
    · rw [teamRankingOf, hranking] at h
      exact ⟨item, ranking, hloaded, hranking, h⟩
    · cases h
  refine ⟨fun hrankable => ?_, fun e h => ?_⟩
  · cases h : getTeamRankingsLookupForTournament E db tid (fullTournamentDetails db tid {}) with
    | ok rankings => exact ⟨rankings, rfl⟩
    | error e =>
      obtain ⟨item, ranking, hloaded, hranking, h⟩ := hfails e h
      obtain ⟨l, hl⟩ := (determineTeamRanking_total hE).mpr
        ⟨hrankable.own item hloaded, hrankable.near item hloaded ranking hranking⟩
      cases hl.symm.trans h
  · obtain ⟨item, ranking, -, -, h⟩ := hfails e h
    exact determineTeamRanking_crash hE h

section Ranked

variable {rankings : StageItemXTeamRanking}
  (hrankings : getTeamRankingsLookupForTournament E db tid (fullTournamentDetails db tid {}) =
    .ok rankings)
include hrankings

/-- Every loaded stage item is looked up. -/
theorem LoadedItem.lookup {item : StageItemWithRounds} (h : LoadedItem db tid item) :
    ∃ l, rankings.lookup item.id = some l ∧ teamRankingOf E db tid item = .ok l := by
  have hkey : item.id ∈ (Dict.ofList (((fullTournamentDetails db tid {}).flatMap
      (·.stageItems)).map fun item => (item.id, item))).keys :=
    Dict.mem_keys_ofList.mpr (List.mem_map.mpr
      ⟨_, List.mem_map.mpr ⟨item, List.mem_flatMap.mpr h, rfl⟩, rfl⟩)
  obtain ⟨e, he, hid⟩ := List.mem_map.mp hkey
  obtain ⟨b, hb, hturn⟩ := mem_of_mapM_ok hrankings e he
  obtain ⟨l', -, hturn⟩ := bind_eq_ok.mp hturn
  cases hturn
  have hsome : (rankings.lookup item.id).isSome = true :=
    List.lookup_isSome_iff.mpr ⟨_, hb, beq_iff_eq.mpr hid.symm⟩
  obtain ⟨l, hl⟩ := Option.isSome_iff_exists.mp hsome
  obtain ⟨stage, hstage, item', hitem', hid', hrank⟩ := lookup_ranked hrankings hl
  obtain rfl := h.eq ⟨stage, hstage, hitem'⟩ hid'.symm
  exact ⟨l, hl, hrank⟩

include hrun in
theorem rankable_of_ok (hE : MathPow E) : Rankable E db tid := by
  have hlisted : ∀ item, LoadedItem db tid item → ∀ ranking,
      getRankingForStageItem db tid item.id = some ranking →
        item.PlaysOwn ∧ ¬ MeetTooFarApart .exact E item ranking := by
    intro item hitem ranking hranking
    obtain ⟨l, -, hl⟩ := hitem.lookup hrankings
    rw [teamRankingOf, hranking] at hl
    exact (determineTeamRanking_total hE).mp ⟨l, hl⟩
  refine ⟨fun item hitem => ?_, fun item hitem ranking hranking =>
    (hlisted item hitem ranking hranking).2⟩
  obtain ⟨ranking, hranking⟩ := hitem.ranking hrun
  exact (hlisted item hitem ranking hranking).1

end Ranked

/-! ## 3. The update of an input -/

include hrun in
/-- A stored input is loaded by its id as it is with its stage item. -/
theorem getStageItemInputById_row {row : StageItemInputRow} (hrow : row ∈ db.stageItemInputs.rows)
    (hown : row.tournamentId = tid) :
    getStageItemInputById db tid row.id = .ok (some (withTeam db row)) := by
  have hfind : db.stageItemInputs.find? row.id = some row := db.stageItemInputs.find?_key hrow
  have hteam : row.teamId.bind (getTeamById db · tid) = row.teamId.bind db.teams.find? := by
    refine Option.bind_congr fun t ht => ?_
    obtain ⟨b, hb⟩ := (hrun.isolated isolated_empty).inputs row hrow
    obtain ⟨team, hteam, hid, htour⟩ := Table.ownerAt_eq_some.mp (hb.team t ht)
    have hfound : db.teams.find? t = some team := hid ▸ db.teams.find?_key hteam
    rw [getTeamById, hfound]
    refine Option.filter_eq_some_iff.mpr ⟨rfl, beq_iff_eq.mpr ?_⟩
    exact (Option.some.inj htour).trans (hb.own.symm.trans hown)
  have hvalid := hrun.valid hrow
  unfold getStageItemInputById
  rw [hfind, Option.filter_some, if_pos (beq_iff_eq.mpr hown)]
  dsimp only
  rw [hteam]
  exact if_pos hvalid

section Update

variable {rankings : StageItemXTeamRanking}
  (hrankings : getTeamRankingsLookupForTournament E db tid (fullTournamentDetails db tid {}) =
    .ok rankings)
  {item : StageItemWithRounds} (hitem : LoadedItem db tid item)
include hrankings hitem

/-- A place of the standings is the place of a ranked input. -/
theorem determineTeamId_cases {place : Int} (hge : 1 ≤ place) :
    (item.ranked.length < place ∧
      determineTeamId item.id place rankings = .error (.crash .assertionError)) ∨
    (place ≤ item.ranked.length ∧
      ∃ j ∈ item.ranked, determineTeamId item.id place rankings = .ok j.id) := by
  obtain ⟨l, hlookup, hl⟩ := hitem.lookup hrankings
  obtain ⟨ranking, -, hl⟩ := bind_eq_ok.mp hl
  have hperm := determineTeamRanking_ranked hitem.inputs_nodup hl
  have hlength : l.length = item.ranked.length := by
    simpa only [List.length_map] using hperm.length_eq
  unfold determineTeamId
  rw [hlookup, orRaise_some, ok_bind, hlength]
  by_cases hle : place ≤ item.ranked.length
  · refine .inr ⟨hle, ?_⟩
    have hlt : (place - 1).toNat < l.length := by omega
    obtain ⟨j, hj, hid⟩ := List.mem_map.mp
      (hperm.mem_iff.mp (List.mem_map_of_mem (List.getElem_mem hlt)))
    refine ⟨j, hj, ?_⟩
    rw [decide_eq_true hle, List.getElem?_eq_getElem hlt, hid]
    rfl
  · refine .inl ⟨by omega, ?_⟩
    rw [decide_eq_false hle]
    rfl

include hrun

/-- **Who gets no team, and why.** -/
theorem getTeamUpdate_cases {place : Int} (hge : 1 ≤ place) (i : StageItemInput) :
    (item.ranked.length < place ∧ getTeamUpdateForInput db tid i (item.id, place) rankings =
      .error (.crash .assertionError)) ∨
    (place ≤ item.ranked.length ∧ ∃ j ∈ item.ranked,
      ((∃ u, getTeamUpdateForInput db tid i (item.id, place) rankings = .ok u) ∨
      (j.teamId = none ∧ j.winnerFromStageItemId = none ∧
        getTeamUpdateForInput db tid i (item.id, place) rankings = .error
          (badRequest "Please first assign teams to all stage items in the current stage.")) ∨
      (j.teamId = none ∧ j.winnerFromStageItemId.isSome = true ∧
        getTeamUpdateForInput db tid i (item.id, place) rankings =
          .error (.crash .assertionError)))) := by
  rcases determineTeamId_cases hrankings hitem hge with ⟨hlt, hid⟩ | ⟨hle, j, hj, hid⟩
  · refine .inl ⟨hlt, ?_⟩
    unfold getTeamUpdateForInput
    rw [hid]
    rfl
  refine .inr ⟨hle, j, hj, ?_⟩
  obtain ⟨row, -, -, rfl⟩ := hitem.row
  obtain ⟨irow, hirow, -, -, hown, rfl⟩ :=
    (mem_full_inputs wholeFilter_whole).mp (mem_ranked.mp hj).1
  have htarget : getStageItemInputById db tid (withTeam db irow).id =
      .ok (some (withTeam db irow)) := getStageItemInputById_row hrun hirow hown
  have hvalid := hrun.valid hirow
  unfold getTeamUpdateForInput
  rw [hid, ok_bind, htarget, ok_bind]
  cases hteam : (withTeam db irow).teamId with
  | some t =>
    rw [StageItemInput.valid, hteam] at hvalid
    obtain ⟨team, hjoined⟩ := Option.isSome_iff_exists.mp hvalid
    refine .inl ⟨⟨i, team⟩, ?_⟩
    simp [require, StageItemInput.isEmpty, StageItemInput.isFinal, Option.filter_some, hteam,
      hjoined]
  | none =>
    cases hsource : (withTeam db irow).winnerFromStageItemId with
    | none =>
      refine .inr (.inl ⟨rfl, rfl, ?_⟩)
      simp [require, StageItemInput.isEmpty, hteam, hsource]
    | some k =>
      refine .inr (.inr ⟨rfl, rfl, ?_⟩)
      simp [require, StageItemInput.isEmpty, StageItemInput.isFinal, Option.filter_some, hteam,
        hsource, orRaise]

end Update

/-! ## 4. The next stage -/

/-- An input that enters the stage takes its team from a place of the loaded stage item. -/
def FeedsStage (db : Database) (tid : TournamentId) (stageId : StageId) (item : StageItemWithRounds)
    (place : Int) : Prop :=
  LoadedItem db tid item ∧ ∃ i ∈ db.stageItemInputs.rows, db.Enters stageId i ∧
    i.winnerFromStageItemId = some item.id ∧ i.winnerPosition = some place

/-- Every place that feeds the stage is taken, and nobody who is ranked there waits for a team
    himself. -/
structure Placeable (E : ExpectedScore) (db : Database) (tid : TournamentId) (stageId : StageId) :
    Prop where
  rankable : Rankable E db tid
  places : ∀ item place, FeedsStage db tid stageId item place → place ≤ item.ranked.length
  settled : ∀ item place, FeedsStage db tid stageId item place → ∀ j ∈ item.ranked,
    j.teamId = none → j.winnerFromStageItemId = none

/-- Every input that enters the stage gets one team, or the request is refused. -/
def Resolves (db : Database) (stageId : StageId) (x : Outcome StageItemInputUpdates) : Prop :=
  (∃ updates, x = .ok updates ∧ ∀ i ∈ db.stageItemInputs.rows, db.Enters stageId i →
    ∃! t, ∃ u ∈ updates.values.flatten, u.stageItemInput.id = i.id ∧ u.team.id = t) ∨
  ∃ statusCode detail, x = .error (.http statusCode detail)

section Next

variable {stageId : StageId}

theorem getNextStage_loaded (hnext : getNextStageInTournament db tid true = some stageId) :
    ∃ s ∈ db.stages.rows, s.tournamentId = tid ∧ s.id = stageId ∧
      (fullTournamentDetails db tid {}).find? (·.id == stageId) =
        some (stageWithStageItems db tid {} s) := by
  obtain ⟨s, hs, ht, hid, -⟩ := getNextStage_inactive hnext
  have hmem : stageWithStageItems db tid {} s ∈ fullTournamentDetails db tid {} :=
    (mem_full_stages wholeFilter_whole).mpr ⟨s, hs, ht, rfl⟩
  refine ⟨s, hs, ht, hid, ?_⟩
  cases hfind : (fullTournamentDetails db tid {}).find? (·.id == stageId) with
  | none => exact absurd (beq_iff_eq.mpr hid) (List.find?_eq_none.mp hfind _ hmem)
  | some stage =>
    obtain ⟨s', hs', -, rfl⟩ := mem_fullTournamentDetails (List.mem_of_find?_eq_some hfind)
    have hid' : s'.id = stageId := by simpa [stageWithStageItems] using List.find?_some hfind
    rw [db.stages.eq_of_key hs' hs (hid'.trans hid.symm)]

include hrun

/-- An input that enters feeds on a loaded stage item. -/
theorem feeds_of_enters {i : StageItemInputRow} (hi : i ∈ db.stageItemInputs.rows)
    (hown : i.tournamentId = tid) (henters : db.Enters stageId i) : ∃ item place,
      FeedsStage db tid stageId item place ∧ 1 ≤ place ∧
        (withTeam db i).source? = some (item.id, place) := by
  obtain ⟨k, place, hk, hp, hge⟩ := place_of_valid (hrun.valid hi) henters.teamless henters.sourced
  obtain ⟨b, hb⟩ := (hrun.isolated isolated_empty).inputs i hi
  obtain rfl : b = tid := hb.own.symm.trans hown
  obtain ⟨item, hitem, rfl⟩ := loadedItem_of_tournament (hb.source k hk)
  exact ⟨item, place, ⟨hitem, i, hi, henters, hk, hp⟩, hge,
    source?_withTeam.mpr ⟨henters.teamless, hk, hp⟩⟩

/-- A failed resolution fails in the standings or at an input that enters. -/
theorem getUpdates_error (hnext : getNextStageInTournament db tid true = some stageId) {e : Failure}
    (h : getUpdatesToInputsInActivatedStage E db tid stageId = .error e) :
    getTeamRankingsLookupForTournament E db tid (fullTournamentDetails db tid {}) = .error e ∨
    ∃ rankings item place i, getTeamRankingsLookupForTournament E db tid
        (fullTournamentDetails db tid {}) = .ok rankings ∧
      FeedsStage db tid stageId item place ∧ 1 ≤ place ∧
        getTeamUpdateForInput db tid i (item.id, place) rankings = .error e := by
  obtain ⟨s, hs, ht, rfl, hfind⟩ := getNextStage_loaded hnext
  rw [getUpdatesToInputsInActivatedStage, hrun.load tid, ok_bind] at h
  rcases bind_eq_error.mp h with h | ⟨rankings, hrankings, h⟩
  · exact .inl h
  rw [hfind, orRaise_some, ok_bind] at h
  obtain ⟨item, hitem, _, h⟩ := foldlM_error h
  obtain ⟨i, hi, _, h⟩ := foldlM_error h
  unfold addUpdate at h
  split at h
  · next source hsource =>
    rcases bind_eq_error.mp h with h | ⟨_, -, h⟩
    · obtain ⟨row, hrow, rfl, hown, hof⟩ := (mem_stage_inputs hs ht).mp ⟨item, hitem, hi⟩
      obtain ⟨hteam, hk, -⟩ := source?_withTeam.mp hsource
      obtain ⟨item', place, hfeeds, hge, hsource'⟩ :=
        feeds_of_enters hrun hrow hown ⟨hof, hteam, by rw [hk]; rfl⟩
      obtain rfl := Option.some.inj (hsource.symm.trans hsource')
      exact .inr ⟨rankings, item', place, _, hrankings, hfeeds, hge, h⟩
    · cases h
  · cases h

/-- Every input that enters takes a place of the standings. -/
theorem getUpdates_ok (hnext : getNextStageInTournament db tid true = some stageId)
    {updates : StageItemInputUpdates}
    (h : getUpdatesToInputsInActivatedStage E db tid stageId = .ok updates) :
    ∃ rankings, getTeamRankingsLookupForTournament E db tid (fullTournamentDetails db tid {}) =
        .ok rankings ∧
      ∀ item place, FeedsStage db tid stageId item place → 1 ≤ place ∧
        ∃ i u, getTeamUpdateForInput db tid i (item.id, place) rankings = .ok u := by
  obtain ⟨s, hs, ht, rfl, hfind⟩ := getNextStage_loaded hnext
  rw [getUpdatesToInputsInActivatedStage, hrun.load tid, ok_bind] at h
  obtain ⟨rankings, stage, hrankings, hstage, heach, -⟩ := updatesInActivatedStage_ok h
  obtain rfl := Option.some.inj (hfind.symm.trans hstage)
  refine ⟨rankings, hrankings, fun item place hfeeds => ?_⟩
  obtain ⟨hitem, i, hi, henters, hk, hp⟩ := hfeeds
  have hown := (hrun.isolated isolated_empty).input_own hi
    (tournament_of_stage hs ht henters.ofStage)
  obtain ⟨_, place', -, hp', hge⟩ :=
    place_of_valid (hrun.valid hi) henters.teamless henters.sourced
  obtain rfl : place = place' := Option.some.inj (hp.symm.trans hp')
  obtain ⟨sitem, hsitem, hmem⟩ := (mem_stage_inputs hs ht).mpr ⟨i, hi, rfl, hown, henters.ofStage⟩
  obtain ⟨u, hu⟩ := heach sitem hsitem _ hmem _
    (source?_withTeam.mpr ⟨henters.teamless, hk, hp⟩)
  exact ⟨hge, _, u, hu⟩

theorem resolves_of_placeable (hE : MathPow E)
    (hnext : getNextStageInTournament db tid true = some stageId)
    (h : Placeable E db tid stageId) :
    Resolves db stageId (getUpdatesToInputsInActivatedStage E db tid stageId) := by
  cases hresult : getUpdatesToInputsInActivatedStage E db tid stageId with
  | ok updates =>
    obtain ⟨standings, -, hentries⟩ :=
      updates_entries ((hrun.isolated isolated_empty).filed tid) hresult
    refine .inl ⟨updates, rfl, fun i hi henters => ?_⟩
    obtain ⟨-, u, hu, hid⟩ := hentries.complete i hi henters
    refine ⟨u.team.id, ⟨u, hu, hid, rfl⟩, ?_⟩
    rintro _ ⟨u', hu', hid', rfl⟩
    rw [hentries.team u hu, hentries.team u' hu', hid, hid']
  | error e =>
    rcases getUpdates_error hrun hnext hresult with
      hrankings | ⟨rankings, item, place, i, hrankings, hfeeds, hge, hupdate⟩
    · obtain ⟨rankings, hok⟩ := (standings_total hrun hE).1 h.rankable
      cases hok.symm.trans hrankings
    · have hle := h.places item place hfeeds
      rcases getTeamUpdate_cases hrun hrankings hfeeds.1 hge i with
        ⟨hlt, -⟩ | ⟨-, j, hj, ⟨u, hu⟩ | ⟨-, -, hu⟩ | ⟨hteam, hsource, -⟩⟩
      · omega
      · cases hu.symm.trans hupdate
      · obtain rfl := Except.error.inj (hu.symm.trans hupdate)
        exact .inr ⟨_, _, rfl⟩
      · rw [h.settled item place hfeeds j hj hteam] at hsource
        cases hsource

/-- Only an empty slot that is ranked can be refused. -/
theorem places_of_resolves (hE : MathPow E)
    (hnext : getNextStageInTournament db tid true = some stageId)
    (h : Resolves db stageId (getUpdatesToInputsInActivatedStage E db tid stageId)) :
    Rankable E db tid ∧
      ((∀ item place, FeedsStage db tid stageId item place → ∀ j ∈ item.ranked, j.isEmpty = false) →
        ∀ item place, FeedsStage db tid stageId item place → place ≤ item.ranked.length) := by
  rcases h with ⟨updates, hupdates, -⟩ | ⟨statusCode, detail, herror⟩
  · obtain ⟨rankings, hrankings, heach⟩ := getUpdates_ok hrun hnext hupdates
    refine ⟨rankable_of_ok hrun hrankings hE, fun _ item place hfeeds => ?_⟩
    obtain ⟨hge, i, u, hu⟩ := heach item place hfeeds
    rcases getTeamUpdate_cases hrun hrankings hfeeds.1 hge i with ⟨-, hcrash⟩ | ⟨hle, -⟩
    · cases hu.symm.trans hcrash
    · exact hle
  · rcases getUpdates_error hrun hnext herror with
      hfails | ⟨rankings, item, place, i, hrankings, hfeeds, hge, hupdate⟩
    · obtain ⟨c, hc⟩ := (standings_total hrun hE).2 _ hfails
      cases hc
    refine ⟨rankable_of_ok hrun hrankings hE, fun hfilled => ?_⟩
    rcases getTeamUpdate_cases hrun hrankings hfeeds.1 hge i with
      ⟨-, hcrash⟩ | ⟨-, j, hj, ⟨u, hu⟩ | ⟨hteam, hsource, -⟩ | ⟨-, -, hcrash⟩⟩
    · cases hcrash.symm.trans hupdate
    · cases hu.symm.trans hupdate
    · have hempty := hfilled item place hfeeds j hj
      rw [StageItemInput.isEmpty, hteam, hsource] at hempty
      cases hempty
    · cases hcrash.symm.trans hupdate

end Next

/-- The condition as a test, for a tournament without Swiss stage items. -/
def placesTaken (db : Database) (tid : TournamentId) : Bool :=
  decide (∀ item ∈ (fullTournamentDetails db tid {}).flatMap (·.stageItems),
    item.type ≠ .swiss ∧ ownInputs item = true ∧ ∀ i ∈ db.stageItemInputs.rows,
      i.winnerFromStageItemId = some item.id →
        (∀ place ∈ i.winnerPosition, place ≤ item.ranked.length) ∧
        ∀ j ∈ item.ranked, j.teamId = none → j.winnerFromStageItemId = none)

theorem placeable_of_placesTaken {stageId : StageId} (h : placesTaken db tid = true) :
    Placeable E db tid stageId where
  rankable :=
    { own item hitem k hk := by
        obtain ⟨m, hm, side, i, hi, hid⟩ := hk
        obtain ⟨r, hr, hm⟩ := mem_played hm
        have hown := (of_decide_eq_true h item (List.mem_flatMap.mpr hitem)).2.1
        obtain ⟨j, hj, hji⟩ := own_of_ownInputs hown r hr m hm side i hi
        exact ⟨j, hj, hji.trans hid⟩
      near item hitem _ _ hmeet :=
        (of_decide_eq_true h item (List.mem_flatMap.mpr hitem)).1 hmeet.1 }
  places item place := fun ⟨hitem, i, hi, _, hk, hp⟩ =>
    ((of_decide_eq_true h item (List.mem_flatMap.mpr hitem)).2.2 i hi hk).1 place hp
  settled item _ := fun ⟨hitem, i, hi, _, hk, _⟩ =>
    ((of_decide_eq_true h item (List.mem_flatMap.mpr hitem)).2.2 i hi hk).2

end Loaded

/-! ### A group and its final -/

/-- A group of two whose places feed a final; its match ends 0-2. -/
def groupWithFinal (teams : List Call) : List Call :=
  [.createTournament ⟨⟨0, true, none, 24, 26, by decide, by decide⟩, 1⟩,
    .request 1 .createStage, .request 1 .createStage,
    .request 1 (.createMultipleTeams [("Red", []), ("Blue", [])] true),
    .request 1 (.createStageItem ⟨1, none, .roundRobin, 2, none, two_teams⟩),
    .request 1 (.createStageItem ⟨2, none, .singleElimination, 2, none, two_teams⟩),
    .request 1 (.updateStageItemInput 2 3 (.tentative 1 1 first_place)),
    .request 1 (.updateStageItemInput 2 4 (.tentative 1 2 second_place)),
    .request 1 (.activateNextStage .next)] ++ teams

def bothSeated : List Call :=
  groupWithFinal [.request 1 (.updateStageItemInput 1 1 (.final 1)),
    .request 1 (.updateStageItemInput 1 2 (.final 2)),
    .request 1 (.updateMatchById 1 ⟨1, 0, 2, none, none, no_duration, no_margin⟩)]

def nobodySeated : List Call :=
  groupWithFinal [.request 1 (.updateMatchById 1 ⟨1, 0, 2, none, none, no_duration, no_margin⟩)]

def oneSeated : List Call :=
  groupWithFinal [.request 1 (.updateStageItemInput 1 1 (.final 1))]

end Brackets
