/-
  File:      Brackets/FullLoad.lean
  Subject:   What the load of a whole tournament returns, in terms of rows.

  * `located_iff`: a match stands in a round of a stage item of a stage if its row is stored in
    the round, the round in the stage item, the stage item in the stage and the stage in the
    tournament;
  * `fullTournamentDetails_distinctIds`: stages, rounds and matches have ids of their own;
  * `mem_tournamentMatches_iff`: the loaded matches are the match rows of the tournament.
-/
import Brackets.Loads

namespace Brackets

open Library

/-! ## 1. Places in a tournament -/

/-- The matches of the stages, as they are listed. -/
def tournamentMatches (stages : List StageWithStageItems) : List Match :=
  stages.flatMap fun s => s.stageItems.flatMap fun i => i.rounds.flatMap (·.matches_)

/-- Where a match is in the tournament. -/
structure Located (stages : List StageWithStageItems) (stage : StageWithStageItems)
    (item : StageItemWithRounds) (round : RoundWithMatches) (m : Match) : Prop where
  inStages : stage ∈ stages
  inStage : item ∈ stage.stageItems
  inItem : round ∈ item.rounds
  inRound : m ∈ round.matches_

theorem mem_tournamentMatches {stages : List StageWithStageItems} {m : Match} :
    m ∈ tournamentMatches stages ↔ ∃ s i r, Located stages s i r m := by
  simp only [tournamentMatches, List.mem_flatMap]
  constructor
  · rintro ⟨s, hs, i, hi, r, hr, hm⟩
    exact ⟨s, i, r, hs, hi, hr, hm⟩
  · rintro ⟨s, i, r, hs, hi, hr, hm⟩
    exact ⟨s, hs, i, hi, r, hr, hm⟩

/-- Stages, the rounds of a stage item and matches have ids of their own. -/
structure DistinctIds (stages : List StageWithStageItems) : Prop where
  stageIds : (stages.map (·.id)).Nodup
  roundIds : ∀ s ∈ stages, ∀ i ∈ s.stageItems, (i.rounds.map (·.id)).Nodup
  matchIds : ((tournamentMatches stages).map (·.id)).Nodup

/-! ## 2. The rows of a tournament -/

/-- The stage item of a round. -/
def Database.roundItem (db : Database) (r : RoundId) : Option StageItemId :=
  (db.rounds.find? r).map (·.stageItemId)

/-- The tournament a round belongs to through its stage item and stage. -/
def Database.roundTournament (db : Database) (r : RoundId) : Option TournamentId :=
  (db.rounds.find? r).bind fun round => db.stageItemTournament round.stageItemId

/-- The rows of a stage, a stage item, a round and a match, one stored in the other. -/
structure RowsAt (db : Database) (tid : TournamentId) (s : StageRow) (i : StageItemRow)
    (r : RoundRow) (m : MatchRow) : Prop where
  stage : s ∈ db.stages.rows
  tournament : s.tournamentId = tid
  item : i ∈ db.stageItems.rows
  ofStage : i.stageId = s.id
  round : r ∈ db.rounds.rows
  ofItem : r.stageItemId = i.id
  match_ : m ∈ db.matches_.rows
  ofRound : m.roundId = r.id

section Rows

variable {db : Database} {tid : TournamentId}

theorem RowsAt.itemTournament {s : StageRow} {i : StageItemRow} {r : RoundRow} {m : MatchRow}
    (h : RowsAt db tid s i r m) : db.stageItemTournament r.stageItemId = some tid :=
  stageItemTournament_eq_some.mpr ⟨i, s, h.ofItem ▸ db.stageItems.find?_key h.item,
    h.ofStage ▸ db.stages.find?_key h.stage, h.tournament⟩

theorem RowsAt.roundTournament {s : StageRow} {i : StageItemRow} {r : RoundRow} {m : MatchRow}
    (h : RowsAt db tid s i r m) : db.roundTournament m.roundId = some tid := by
  have hround : db.rounds.find? m.roundId = some r := h.ofRound ▸ db.rounds.find?_key h.round
  rw [Database.roundTournament, hround]
  exact h.itemTournament

theorem RowsAt.roundItem {s : StageRow} {i : StageItemRow} {r : RoundRow} {m : MatchRow}
    (h : RowsAt db tid s i r m) : db.roundItem m.roundId = some i.id := by
  have hround : db.rounds.find? m.roundId = some r := h.ofRound ▸ db.rounds.find?_key h.round
  rw [Database.roundItem, hround, Option.map_some, h.ofItem]

/-- A match row of the tournament has its place. -/
theorem exists_rowsAt {m : MatchRow} (hm : m ∈ db.matches_.rows)
    (h : db.roundTournament m.roundId = some tid) : ∃ s i r, RowsAt db tid s i r m := by
  obtain ⟨r, hr, h⟩ := Option.bind_eq_some_iff.mp h
  obtain ⟨i, s, hi, hs, ht⟩ := stageItemTournament_eq_some.mp h
  have hrid : r.id = m.roundId := db.rounds.key_of_find? hr
  have hiid : i.id = r.stageItemId := db.stageItems.key_of_find? hi
  have hsid : s.id = i.stageId := db.stages.key_of_find? hs
  exact ⟨s, i, r, db.stages.mem_of_find? hs, ht, db.stageItems.mem_of_find? hi, hsid.symm,
    db.rounds.mem_of_find? hr, hiid.symm, hm, hrid.symm⟩

theorem RowsAt.unique {s s' : StageRow} {i i' : StageItemRow} {r r' : RoundRow} {m : MatchRow}
    (h : RowsAt db tid s i r m) (h' : RowsAt db tid s' i' r' m) : s = s' ∧ i = i' ∧ r = r' := by
  have hr : r = r' := db.rounds.eq_of_key h.round h'.round (h.ofRound.symm.trans h'.ofRound)
  subst hr
  have hi : i = i' := db.stageItems.eq_of_key h.item h'.item (h.ofItem.symm.trans h'.ofItem)
  subst hi
  exact ⟨db.stages.eq_of_key h.stage h'.stage (h.ofStage.symm.trans h'.ofStage), rfl, rfl⟩

end Rows

/-! ## 3. The load -/

section Load

variable {db : Database} {tid : TournamentId} {f : DetailsFilter}

/-- The loads without a stage and without stage items to look for. -/
structure DetailsFilter.Whole (f : DetailsFilter) : Prop where
  stageId : f.stageId = none
  stageItemIds : f.stageItemIds = none

theorem DetailsFilter.Whole.stage (h : f.Whole) (s : StageRow) : f.stage s = true := by
  rw [DetailsFilter.stage, h.stageId, Option.all_none]

theorem DetailsFilter.Whole.stageItem (h : f.Whole) (k : StageItemId) : f.stageItem k = true := by
  rw [DetailsFilter.stageItem, h.stageItemIds, Option.all_none]

theorem mem_full_stages (hf : f.Whole) {stage : StageWithStageItems} :
    stage ∈ fullTournamentDetails db tid f ↔ ∃ s ∈ db.stages.rows, s.tournamentId = tid ∧
      stageWithStageItems db tid f s = stage := by
  have hnone : f.stageItemIds.isNone = true := by rw [hf.stageItemIds, Option.isNone_none]
  simp only [fullTournamentDetails, List.mem_map, List.mem_filter, hf.stage, hnone, Bool.and_true,
    Bool.true_or, beq_iff_eq, and_assoc]

theorem mem_full_stageItems (hf : f.Whole) {s : StageRow} {item : StageItemWithRounds} :
    item ∈ (stageWithStageItems db tid f s).stageItems ↔ ∃ i ∈ db.stageItems.rows,
      i.stageId = s.id ∧ stageItemWithRounds db tid f i = item := by
  simp only [stageWithStageItems, List.mem_map, List.mem_insertionSort, List.mem_filter,
    hf.stageItem, Bool.and_true, beq_iff_eq, and_assoc]

theorem mem_full_rounds {i : StageItemRow} {round : RoundWithMatches} :
    round ∈ (stageItemWithRounds db tid f i).rounds ↔ ∃ r ∈ db.rounds.rows,
      r.stageItemId = i.id ∧ f.round r = true ∧
        roundWithMatches db (inputsWithTeams db tid f) r = round := by
  simp only [stageItemWithRounds, List.mem_map, List.mem_filter, Bool.and_eq_true, beq_iff_eq,
    and_assoc]

/-- **Where a match row is loaded.** -/
theorem located_iff (hf : f.Whole) {stage : StageWithStageItems} {item : StageItemWithRounds}
    {round : RoundWithMatches} {m : Match} :
    Located (fullTournamentDetails db tid f) stage item round m ↔
      ∃ s i r row, RowsAt db tid s i r row ∧ f.round r = true ∧
        stageWithStageItems db tid f s = stage ∧ stageItemWithRounds db tid f i = item ∧
        roundWithMatches db (inputsWithTeams db tid f) r = round ∧
        matchWithInputs (inputsWithTeams db tid f) row = m := by
  constructor
  · rintro ⟨hstage, hitem, hround, hmatch⟩
    obtain ⟨s, hs, ht, rfl⟩ := (mem_full_stages hf).mp hstage
    obtain ⟨i, hi, his, rfl⟩ := (mem_full_stageItems hf).mp hitem
    obtain ⟨r, hr, hri, hfr, rfl⟩ := mem_full_rounds.mp hround
    obtain ⟨row, hrow, hrowRound, rfl⟩ := mem_roundWithMatches.mp hmatch
    exact ⟨s, i, r, row, ⟨hs, ht, hi, his, hr, hri, hrow, hrowRound⟩, hfr, rfl, rfl, rfl, rfl⟩
  · rintro ⟨s, i, r, row, h, hfr, rfl, rfl, rfl, rfl⟩
    exact ⟨(mem_full_stages hf).mpr ⟨s, h.stage, h.tournament, rfl⟩,
      (mem_full_stageItems hf).mpr ⟨i, h.item, h.ofStage, rfl⟩,
      mem_full_rounds.mpr ⟨r, h.round, h.ofItem, hfr, rfl⟩,
      mem_roundWithMatches.mpr ⟨row, h.match_, h.ofRound, rfl⟩⟩

/-- The place of a loaded match follows from its id. -/
theorem Located.unique (hf : f.Whole) {stage stage' : StageWithStageItems}
    {item item' : StageItemWithRounds} {round round' : RoundWithMatches} {m m' : Match}
    (h : Located (fullTournamentDetails db tid f) stage item round m)
    (h' : Located (fullTournamentDetails db tid f) stage' item' round' m') (hid : m.id = m'.id) :
    stage = stage' ∧ item = item' ∧ round = round' ∧ m = m' := by
  obtain ⟨s, i, r, row, hrows, -, rfl, rfl, rfl, rfl⟩ := (located_iff hf).mp h
  obtain ⟨s', i', r', row', hrows', -, rfl, rfl, rfl, rfl⟩ := (located_iff hf).mp h'
  obtain rfl : row = row' := db.matches_.eq_of_key hrows.match_ hrows'.match_ hid
  obtain ⟨rfl, rfl, rfl⟩ := hrows.unique hrows'
  exact ⟨rfl, rfl, rfl, rfl⟩

theorem nodup_full_stages :
    ((fullTournamentDetails db tid f).map (·.id)).Nodup := by
  rw [fullTournamentDetails, List.map_map]
  exact List.pairwise_map.mpr ((db.stages.sorted_filter _).imp fun h => ne_of_lt h)

theorem nodup_full_stageItems (s : StageRow) :
    ((stageWithStageItems db tid f s).stageItems.map (·.id)).Nodup := by
  rw [stageWithStageItems, List.map_map]
  refine ((List.perm_insertionSort nameLe _).map _).nodup_iff.mpr ?_
  exact List.pairwise_map.mpr ((db.stageItems.sorted_filter _).imp fun h => ne_of_lt h)

theorem nodup_full_rounds (i : StageItemRow) :
    ((stageItemWithRounds db tid f i).rounds.map (·.id)).Nodup := by
  rw [stageItemWithRounds, List.map_map]
  exact List.pairwise_map.mpr ((db.rounds.sorted_filter _).imp fun h => ne_of_lt h)

theorem nodup_full_matches (inputs : List StageItemInput) (r : RoundRow) :
    ((roundWithMatches db inputs r).matches_.map (·.id)).Nodup := by
  rw [roundWithMatches, List.map_map]
  exact List.pairwise_map.mpr ((db.matches_.sorted_filter _).imp fun h => ne_of_lt h)

/-- Lists of elements whose names tell which list they are in. -/
theorem nodup_map_flatMap {α β γ δ : Type} {l : List α} {f : α → List β} {name : β → γ}
    {key : α → δ} (hl : (l.map key).Nodup) (hf : ∀ a ∈ l, ((f a).map name).Nodup)
    (hname : ∀ a ∈ l, ∀ b ∈ l, ∀ x ∈ f a, ∀ y ∈ f b, name x = name y → key a = key b) :
    ((l.flatMap f).map name).Nodup := by
  rw [List.map_flatMap, List.nodup_flatMap]
  refine ⟨hf, (List.pairwise_map.mp hl).imp_of_mem fun {a b} ha hb hne => ?_⟩
  refine List.disjoint_left.mpr fun c hc hc' => hne ?_
  obtain ⟨x, hx, rfl⟩ := List.mem_map.mp hc
  obtain ⟨y, hy, e⟩ := List.mem_map.mp hc'
  exact hname a ha b hb x hx y hy e.symm

/-- **Stages, rounds and matches are loaded under ids of their own.** -/
theorem fullTournamentDetails_distinctIds (hf : f.Whole) :
    DistinctIds (fullTournamentDetails db tid f) where
  stageIds := nodup_full_stages
  roundIds stage hs item hi := by
    obtain ⟨s, -, -, rfl⟩ := (mem_full_stages hf).mp hs
    obtain ⟨i, -, -, rfl⟩ := (mem_full_stageItems hf).mp hi
    exact nodup_full_rounds i
  matchIds := by
    refine nodup_map_flatMap nodup_full_stages (fun s hs => ?_) fun s hs s' hs' x hx y hy e => ?_
    · have hitems : (s.stageItems.map (·.id)).Nodup := by
        obtain ⟨s, -, -, rfl⟩ := (mem_full_stages hf).mp hs
        exact nodup_full_stageItems s
      refine nodup_map_flatMap hitems (fun i hi => ?_) fun i hi i' hi' x hx y hy e => ?_
      · have hrounds : (i.rounds.map (·.id)).Nodup := by
          obtain ⟨s, -, -, rfl⟩ := (mem_full_stages hf).mp hs
          obtain ⟨i, -, -, rfl⟩ := (mem_full_stageItems hf).mp hi
          exact nodup_full_rounds i
        refine nodup_map_flatMap hrounds (fun r hr => ?_) fun r hr r' hr' x hx y hy e => ?_
        · obtain ⟨s, -, -, rfl⟩ := (mem_full_stages hf).mp hs
          obtain ⟨i, -, -, rfl⟩ := (mem_full_stageItems hf).mp hi
          obtain ⟨r, -, -, -, rfl⟩ := mem_full_rounds.mp hr
          exact nodup_full_matches _ r
        · obtain ⟨-, -, rfl, -⟩ := Located.unique hf ⟨hs, hi, hr, hx⟩ ⟨hs, hi, hr', hy⟩ e
          rfl
      · obtain ⟨r, hr, hx⟩ := List.mem_flatMap.mp hx
        obtain ⟨r', hr', hy⟩ := List.mem_flatMap.mp hy
        obtain ⟨-, rfl, -⟩ := Located.unique hf ⟨hs, hi, hr, hx⟩ ⟨hs, hi', hr', hy⟩ e
        rfl
    · obtain ⟨i, hi, hx⟩ := List.mem_flatMap.mp hx
      obtain ⟨r, hr, hx⟩ := List.mem_flatMap.mp hx
      obtain ⟨i', hi', hy⟩ := List.mem_flatMap.mp hy
      obtain ⟨r', hr', hy⟩ := List.mem_flatMap.mp hy
      obtain ⟨rfl, -⟩ := Located.unique hf ⟨hs, hi, hr, hx⟩ ⟨hs', hi', hr', hy⟩ e
      rfl

/-- **The loaded matches are the match rows of the tournament.** -/
theorem mem_tournamentMatches_iff {m : Match} :
    m ∈ tournamentMatches (fullTournamentDetails db tid {}) ↔ ∃ row ∈ db.matches_.rows,
      db.roundTournament row.roundId = some tid ∧
        matchWithInputs (inputsWithTeams db tid {}) row = m := by
  have hf : DetailsFilter.Whole {} := ⟨rfl, rfl⟩
  rw [mem_tournamentMatches]
  constructor
  · rintro ⟨stage, item, round, hL⟩
    obtain ⟨s, i, r, row, h, -, -, -, -, rfl⟩ := (located_iff hf).mp hL
    exact ⟨row, h.match_, h.roundTournament, rfl⟩
  · rintro ⟨row, hrow, ht, rfl⟩
    obtain ⟨s, i, r, h⟩ := exists_rowsAt hrow ht
    exact ⟨_, _, _, (located_iff hf).mpr ⟨s, i, r, row, h, by rfl, rfl, rfl, rfl, rfl⟩⟩

end Load

end Brackets
