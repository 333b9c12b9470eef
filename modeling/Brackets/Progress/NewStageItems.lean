/-
  File:      Brackets/Progress/NewStageItems.lean
  Subject:   The matches of a new stage item are lined up.

  * `NewItem`: what the rows, the rounds and the load of a new stage item are;
  * `CompleteTree.apart`: in the tree of a new bracket no input can reach two slots of a round,
    since the sources of a round are different matches of the round before;
  * `Lined.createStageItem`: the request.
-/
import Brackets.Progress.NewMatches

namespace Brackets

open Library

variable {db db' : Database} {tid : TournamentId} {k : StageItemId}

/-! ## 1. The rows of a new stage item -/

/-- Tables that only grow around the matches. -/
theorem Thins.of_grown (hdb : Isolated db) (hmatches : db'.matches_ = db.matches_)
    (hrounds : ∀ r row, db.rounds.find? r = some row → db'.rounds.find? r = some row)
    (hitems : ∀ j row, db.stageItems.find? j = some row → db'.stageItems.find? j = some row)
    (hinputs : ∀ i row, db.stageItemInputs.find? i = some row →
      db'.stageItemInputs.find? i = some row) : Thins db db' := by
  refine .of_tables hmatches (fun m hm j hj => ?_) (fun j m hm hj => ?_)
    fun m hm side i j hi hj => ?_
  · obtain ⟨b, hb⟩ := hdb.matches_ m hm
    obtain ⟨r, hr, hid, -⟩ := Table.ownerAt_eq_some.mp hb.round
    have hfind : db.rounds.find? m.roundId = some r := hid ▸ db.rounds.find?_key hr
    rw [Database.roundItem, hrounds _ _ hfind] at hj
    rw [Database.roundItem, hfind]
    exact hj
  · obtain ⟨r, hr, hrid⟩ := Option.map_eq_some_iff.mp hm.2
    obtain ⟨b, hb⟩ := hdb.rounds r (db.rounds.mem_of_find? hr)
    obtain ⟨row, s, hrow, -⟩ := stageItemTournament_eq_some.mp hb
    rw [hrid] at hrow
    obtain ⟨row', hrow', htype⟩ := hj
    obtain rfl : row = row' := Option.some.inj ((hitems _ _ hrow).symm.trans hrow')
    exact ⟨row, hrow, htype⟩
  · obtain ⟨b, hb⟩ := hdb.matches_ m hm
    obtain ⟨row, hrow, hid, -⟩ := Table.ownerAt_eq_some.mp (hb.input side i hi)
    have hfind : db.stageItemInputs.find? i = some row := hid ▸ db.stageItemInputs.find?_key hrow
    rw [Database.inputItem, hinputs _ _ hfind] at hj
    rw [Database.inputItem, hfind]
    exact hj

/-- A row that is there stays where it is when another is inserted. -/
theorem find?_insert_of_some {α : Type} [Keyed α] {t : Table α} {mk : Int → α}
    {hk : ∀ j, key (mk j) = j} {j : Int} {row : α} (h : t.find? j = some row) :
    (t.insert mk hk).find? j = some row := by
  rw [t.find?_insert_of_ne, h]
  rintro rfl
  rw [t.find?_next] at h
  cases h

theorem createInputs_find? {i : StageItemInputId} {row : StageItemInputRow} (l : List Nat)
    (db : Database) (h : db.stageItemInputs.find? i = some row) :
    (l.foldl (fun d (n : Nat) => sqlCreateEmptyInput tid k d (n + 1)) db).stageItemInputs.find? i =
      some row := by
  induction l generalizing db with
  | nil => exact h
  | cons n l ih => exact ih _ (find?_insert_of_some h)

theorem createRounds_find? {r : RoundId} {row : RoundRow} (n : Nat) (db : Database)
    (h : db.rounds.find? r = some row) :
    ((createNextRound tid k)^[n] db).rounds.find? r = some row := by
  induction n generalizing db with
  | zero => exact h
  | succ n ih =>
    rw [Function.iterate_succ_apply]
    exact ih _ (find?_insert_of_some h)

/-- The rounds of a new stage item are counted. -/
theorem createRounds_length (n : Nat) (db : Database) :
    (((createNextRound tid k)^[n] db).rounds.rows.filter (·.stageItemId == k)).length =
      (db.rounds.rows.filter (·.stageItemId == k)).length + n := by
  induction n generalizing db with
  | zero => rfl
  | succ n ih =>
    rw [Function.iterate_succ_apply, ih]
    have hround : ((createNextRound tid k db).rounds.rows.filter (·.stageItemId == k)).length =
        (db.rounds.rows.filter (·.stageItemId == k)).length + 1 := by
      unfold createNextRound sqlCreateRound
      dsimp only
      rw [Table.filter_insert, List.length_append, if_pos (beq_self_eq_true k)]
      rfl
    omega

/-- The row of a new stage item. -/
theorem newStageItem_row {body : StageItemCreateBody} {new : StageItemRow × Database}
    (h : sqlCreateStageItemWithEmptyInputs db tid body = .ok new) :
    new.1.type = body.type ∧ new.2.stageItems.find? new.1.id = some new.1 ∧
      ∀ j row, db.stageItems.find? j = some row → new.2.stageItems.find? j = some row := by
  obtain ⟨rankingId, -, rfl⟩ := sqlCreateStageItem_ok h
  have hitems : ((List.range body.teamCount).foldl (fun d (i : Nat) =>
      sqlCreateEmptyInput tid db.stageItems.next d (i + 1))
      { db with
        stageItems := db.stageItems.insert (body.row rankingId) (body.key_row rankingId) }
      ).stageItems = db.stageItems.insert (body.row rankingId) (body.key_row rankingId) :=
    foldl_project Database.stageItems (fun d (i : Nat) =>
      sqlCreateEmptyInput tid db.stageItems.next d (i + 1)) (fun _ _ => rfl) _ _
  refine ⟨rfl, ?_, fun j row hj => ?_⟩
  · dsimp only
    rw [hitems]
    exact Table.find?_insert_self _
  · dsimp only
    rw [hitems]
    exact find?_insert_of_some hj

/-- Its inputs come after the others. -/
theorem newStageItem_inputs (hdb : Isolated db) {body : StageItemCreateBody}
    {new : StageItemRow × Database}
    (h : sqlCreateStageItemWithEmptyInputs db tid body = .ok new) :
    (slotNumbers new.2.stageItemInputs new.1.id).length = new.1.teamCount ∧
      ∀ i row, db.stageItemInputs.find? i = some row →
        new.2.stageItemInputs.find? i = some row := by
  obtain ⟨rankingId, -, rfl⟩ := sqlCreateStageItem_ok h
  refine ⟨?_, fun i row hi => createInputs_find? _ _ hi⟩
  have hid : (body.row rankingId db.stageItems.next).id = db.stageItems.next := rfl
  dsimp only
  rw [hid, slotNumbers_createEmpty, if_pos rfl, slotNumbers_next hdb, List.nil_append,
    List.length_map, List.length_range]
  rfl

/-- The loaded inputs of a stage item of the tournament are all that it has. -/
theorem loaded_inputs_length (hdb : Isolated db) {row : StageItemRow}
    (htour : db.stageItemTournament row.id = some tid) :
    (loadStageItem db tid row).inputs.length = (slotNumbers db.stageItemInputs row.id).length := by
  have hown : (db.stageItemInputs.rows.filter (·.stageItemId == row.id)).filter
      (fun i => (withTeam db i).tournamentId == tid) =
        db.stageItemInputs.rows.filter (·.stageItemId == row.id) := by
    refine List.filter_eq_self.mpr fun i hi => beq_iff_eq.mpr ?_
    obtain ⟨hi, hof⟩ := List.mem_filter.mp hi
    exact hdb.input_own hi (eq_of_beq hof ▸ htour)
  rw [loadStageItem, List.length_insertionSort, itemInputs, List.filter_map, List.length_map,
    slotNumbers, List.length_map]
  exact congrArg List.length hown

/-- A new stage item, with its rounds and before its matches. -/
structure NewItem (db db1 : Database) (tid : TournamentId) (row : StageItemRow) (n : Nat) :
    Prop where
  thins : Thins db db1
  stored : db1.stageItems.find? row.id = some row
  inputs : (loadStageItem db1 tid row).inputs.length = row.teamCount
  rounds : (loadStageItem db1 tid row).rounds.length = n
  empty : ∀ m, ¬ db1.InItem row.id m

/-- **A new stage item** has its inputs, its rounds and no matches. -/
theorem NewItem.create (hdb : Isolated db) {body : StageItemCreateBody}
    (hkeys : Belong db tid body.foreignKeys) {new : StageItemRow × Database}
    (h : sqlCreateStageItemWithEmptyInputs db tid body = .ok new) (n : Nat) :
    NewItem db ((createNextRound tid new.1.id)^[n] new.2) tid new.1 n := by
  have hstage := stage_belongs (hkeys (.stageId body.stageId) List.mem_cons_self)
  obtain ⟨hcreate, hitem⟩ := Grows.createStageItem hdb hstage (fun j hj =>
    ranking_belongs (hkeys (.rankingId j) (by simp [StageItemCreateBody.foreignKeys, hj]))) h
  obtain ⟨hid, hmatches, hrounds⟩ := newStageItem_frame h
  obtain ⟨-, hstored, hitems⟩ := newStageItem_row h
  obtain ⟨hslots, hinputs⟩ := newStageItem_inputs hdb h
  have hgrow := Grows.createRounds hcreate.isolated hitem n
  have hitem1 := hgrow.keeps.stageItem _ _ hitem
  -- the rounds change neither the stage items nor the inputs nor the matches
  have hitems1 := iterate_project Database.stageItems (createNextRound tid new.1.id)
    (fun _ => rfl) n new.2
  have hinputs1 := iterate_project Database.stageItemInputs (createNextRound tid new.1.id)
    (fun _ => rfl) n new.2
  have hmatches1 := (iterate_project Database.matches_ (createNextRound tid new.1.id)
    (fun _ => rfl) n new.2).trans hmatches
  have hrounds1 : ∀ r row, db.rounds.find? r = some row →
      ((createNextRound tid new.1.id)^[n] new.2).rounds.find? r = some row :=
    fun r row hr => createRounds_find? n new.2 (hrounds ▸ hr)
  have holdRound : ∀ r ∈ db.rounds.rows, r.stageItemId ≠ new.1.id := by
    intro r hr
    obtain ⟨b, hb⟩ := hdb.rounds r hr
    exact hid ▸ stageItem_ne_next hb
  refine ⟨.of_grown hdb hmatches1 hrounds1 (hitems1 ▸ hitems) (hinputs1 ▸ hinputs),
    hitems1 ▸ hstored, ?_, ?_, fun m hm => ?_⟩
  · rw [loaded_inputs_length hgrow.isolated hitem1, hinputs1, hslots]
  · have hnone : db.rounds.rows.filter (·.stageItemId == new.1.id) = [] :=
      List.filter_eq_nil_iff.mpr fun r hr e => holdRound r hr (eq_of_beq e)
    rw [loadStageItem, List.length_map, createRounds_length, hrounds, hnone]
    exact Nat.zero_add n
  · obtain ⟨b, hb⟩ := hdb.matches_ m (hmatches1 ▸ hm.1)
    obtain ⟨r, hr, hrid, -⟩ := Table.ownerAt_eq_some.mp hb.round
    have hfind := hrounds1 m.roundId r (hrid ▸ db.rounds.find?_key hr)
    have hof := hm.2
    rw [Database.roundItem, hfind, Option.map_some] at hof
    exact holdRound r hr (Option.some.inj hof)

/-- A loaded round is of its stage item. -/
theorem roundItem_of_loaded {row : StageItemRow} {r : RoundWithMatches}
    (hr : r ∈ (loadStageItem db tid row).rounds) : db.roundItem r.id = some row.id := by
  obtain ⟨rrow, hrrow, hof, rfl⟩ := mem_loaded_rounds.mp hr
  exact hof ▸ roundItem_row hrrow

/-! ## 2. A group -/

/-- The matches of a round robin line up. -/
theorem RoundRobin.linesUp {row : StageItemRow} {n : Nat} {created : List MatchRow}
    (h : RoundRobin (loadStageItem db tid row) n created) (hempty : ∀ m, ¬ db.InItem row.id m) :
    LinesUp db row.id created where
  own m hm x hx := by
    obtain ⟨-, i, hi, j, hj, -, hbetween⟩ := h.ofItem m hm
    have hx : x = i.id ∨ x = j.id := by
      rcases hbetween with ⟨h1, h2⟩ | ⟨h1, h2⟩ <;> rcases hx with hx | hx
      · exact .inl (Option.some.inj (hx.symm.trans h1))
      · exact .inr (Option.some.inj (hx.symm.trans h2))
      · exact .inr (Option.some.inj (hx.symm.trans h1))
      · exact .inl (Option.some.inj (hx.symm.trans h2))
    rcases hx with rfl | rfl
    · exact loaded_inputItem hi
    · exact loaded_inputItem hj
  differ m hm x h1' h2' := by
    obtain ⟨-, i, -, j, -, hne, hbetween⟩ := h.ofItem m hm
    rcases hbetween with ⟨h1, h2⟩ | ⟨h1, h2⟩
    · exact hne (Option.some.inj ((h1.symm.trans h1').trans (h2'.symm.trans h2)))
    · exact hne (Option.some.inj ((h2.symm.trans h2').trans (h1'.symm.trans h1)))
  once := h.oncePerRound
  beside m hm n hn hround := by
    obtain ⟨⟨r, hr, hrid⟩, -⟩ := h.ofItem m hm
    refine absurd ⟨hn, ?_⟩ (hempty n)
    rw [← hround, hrid]
    exact roundItem_of_loaded hr

theorem Lined.buildRoundRobin (hL : Lined db) {row : StageItemRow}
    (hstored : db.stageItems.find? row.id = some row) (hgroup : row.type = .roundRobin)
    (hinputs : (loadStageItem db tid row).inputs.length = row.teamCount)
    (hrounds : (loadStageItem db tid row).rounds.length =
      getNumberOfRoundsToCreateRoundRobin row.teamCount) (hempty : ∀ m, ¬ db.InItem row.id m)
    (h : buildRoundRobinStageItem db tid (loadStageItem db tid row) = .ok db') : Lined db' := by
  have hbuild := h
  obtain ⟨combinations, -, h⟩ := bind_eq_ok.mp h
  obtain ⟨tournament, htournament, h⟩ := bind_eq_ok.mp h
  by_cases hpos : row.teamCount = 0
  · -- no rounds, no matches
    obtain ⟨bodies, hbodies, h⟩ := bind_eq_ok.mp h
    rw [hpos] at hrounds
    have hnil : (loadStageItem db tid row).rounds = [] := List.length_eq_zero_iff.mp hrounds
    rw [hnil] at hbodies
    cases hbodies
    obtain rfl : db = db' := Except.ok.inj h
    exact hL
  · have hitem : RoundRobinItem (loadStageItem db tid row) row.teamCount :=
      ⟨Nat.one_le_iff_ne_zero.mpr hpos, rfl, hinputs, loaded_inputs_nodup db tid row, hrounds,
        (loaded_roundIds db tid row).imp ne_of_lt⟩
    obtain ⟨bodies, hbuilt, hrobin⟩ := buildRoundRobin_robin (orRaise_eq_ok.mp htournament) hitem
    obtain rfl := Except.ok.inj (hbuilt.symm.trans hbuild)
    have hno : ¬ db.IsBracket row.id := by
      rintro ⟨row', hrow', htype⟩
      obtain rfl : row = row' := Option.some.inj (hstored.symm.trans hrow')
      exact nomatch hgroup.symm.trans htype
    refine hL.add_group ⟨createMatches_rows db _, createMatches_frame db _, fun m hm => ?_,
      fun hb => absurd hb hno⟩ hno (hrobin.linesUp hempty)
    obtain ⟨⟨r, hr, hrid⟩, -⟩ := hrobin.ofItem m hm
    rw [hrid]
    exact roundItem_of_loaded hr

/-! ## 3. A bracket -/

section Tree

variable {rounds : List RoundId} {inputs : List StageItemInputId} {created : List MatchRow}
  (htree : CompleteTree rounds inputs created) (hnodup : rounds.Nodup)
  (hadds : Adds db db' k created) (hempty : ∀ m, ¬ db.InItem k m)

include hnodup in
theorem index_unique {r : RoundId} {i j : Nat} (hi : rounds[i]? = some r)
    (hj : rounds[j]? = some r) : i = j := by
  obtain ⟨hlt, -⟩ := List.getElem?_eq_some_iff.mp hi
  exact (List.getElem?_inj hlt hnodup).mp (hi.trans hj.symm)

/-- What can reach a match of the first round is seeded there. -/
theorem CompleteTree.origin_first (htree : CompleteTree rounds inputs created)
    (hadds : Adds db db' k created) {m : MatchRow} (hm : m ∈ created)
    (hround : rounds[0]? = some m.roundId) {side : Side} {i : StageItemInputId}
    (h : Origin db' m.id side i) : m.inputId side = some i ∧ i ∈ inputs := by
  obtain ⟨hnone, j, hj, hinput⟩ := htree.first m hm hround side
  rcases h.row (hadds.inItem hm).1 rfl with hi | ⟨src, _, _, -, -, -, hw, -⟩
  · exact ⟨hi, Option.some.inj (hinput.symm.trans hi) ▸ hj⟩
  · rw [hnone] at hw
    cases hw

include htree hadds hempty

/-- What can reach a match of a later round comes through a match of the round before. -/
theorem CompleteTree.origin_later {m : MatchRow} (hm : m ∈ created) {n : Nat}
    (hround : rounds[n + 1]? = some m.roundId) {side : Side} {i : StageItemInputId}
    (h : Origin db' m.id side i) : ∃ src ∈ created, rounds[n]? = some src.roundId ∧
      m.winnerFrom side = some src.id ∧ ∃ side', Origin db' src.id side' i := by
  obtain ⟨hnone, a, ha, b, hb, -, hra, hrb, h1, h2⟩ := htree.later m hm n hround
  rcases h.row (hadds.inItem hm).1 rfl with hi | ⟨src, side', j, hj, hsrc, -, hw, hi⟩
  · rw [hnone side] at hi
    cases hi
  · obtain rfl : k = j := Option.some.inj ((hadds.inItem hm).2.symm.trans hj.2)
    have hnew : src ∈ created := by
      rcases hadds.mem.mp hsrc.1 with hold | hnew
      · exact absurd ⟨hold, (hadds.roundItem _).symm.trans hsrc.2⟩ (hempty src)
      · exact hnew
    have hsame : ∀ c ∈ created, src.id = c.id → src = c := fun c hc e =>
      db'.matches_.eq_of_key hsrc.1 (hadds.inItem hc).1 e
    refine ⟨src, hnew, ?_, hw, side', hi⟩
    cases side with
    | one => rwa [hsame a ha (Option.some.inj (hw.symm.trans h1))]
    | two => rwa [hsame b hb (Option.some.inj (hw.symm.trans h2))]

/-- Only the inputs of the bracket can reach its matches. -/
theorem CompleteTree.origin_inputs {n : Nat} : ∀ m ∈ created, rounds[n]? = some m.roundId →
    ∀ side i, Origin db' m.id side i → i ∈ inputs := by
  induction n with
  | zero => exact fun m hm hround side i h => (htree.origin_first hadds hm hround h).2
  | succ n ih =>
    intro m hm hround side i h
    obtain ⟨src, hsrc, hr, -, side', hi⟩ := htree.origin_later hadds hempty hm hround h
    exact ih src hsrc hr side' i hi

include hnodup

/-- **In a new bracket no input can reach two slots of a round.** The induction is on the round:
    an input that can reach two slots of it comes through one match of the round before, and one
    slot reads that match. -/
theorem CompleteTree.apart {n : Nat} : ∀ m ∈ created, rounds[n]? = some m.roundId →
    ∀ m' ∈ created, m'.roundId = m.roundId → ∀ side side' i, Origin db' m.id side i →
      Origin db' m'.id side' i → m = m' ∧ side = side' := by
  induction n with
  | zero =>
    intro m hm hround m' hm' hround' side side' i h h'
    obtain ⟨hi, hmem⟩ := htree.origin_first hadds hm hround h
    obtain ⟨hi', -⟩ := htree.origin_first hadds hm' (hround'.symm ▸ hround) h'
    have hsame : (m, side) = (m', side') := (htree.seeded i hmem).unique ⟨hm, hi⟩ ⟨hm', hi'⟩
    exact Prod.mk.inj hsame
  | succ n ih =>
    intro m hm hround m' hm' hround' side side' i h h'
    obtain ⟨src, hsrc, hr, hw, s, hi⟩ := htree.origin_later hadds hempty hm hround h
    obtain ⟨src', hsrc', hr', hw', s', hi'⟩ := htree.origin_later hadds hempty hm'
      (hround'.symm ▸ hround) h'
    obtain ⟨rfl, -⟩ := ih src hsrc hr src' hsrc' (Option.some.inj (hr'.symm.trans hr)) s s' i hi hi'
    have hlast : rounds.getLast? ≠ some src.roundId := by
      rw [List.getLast?_eq_getElem?]
      intro e
      have hn := index_unique hnodup hr e
      obtain ⟨hlt, -⟩ := List.getElem?_eq_some_iff.mp hround
      omega
    have hsame : (m, side) = (m', side') :=
      (htree.read src hsrc hlast).unique ⟨hm, hw⟩ ⟨hm', hw'⟩
    exact Prod.mk.inj hsame

/-- The matches of a new bracket line up. -/
theorem CompleteTree.add_tree (hL : Lined db) (hown : ∀ i ∈ inputs, db.inputItem i = some k) :
    Lined db' := by
  have hindex : ∀ m ∈ created, ∃ n : Nat, rounds[n]? = some m.roundId := fun m hm =>
    List.mem_iff_getElem?.mp (htree.inRounds m hm)
  refine hL.add hadds (fun m hm side i hi j hj => ?_)
    (fun m hm n hn hround side side' i hi hi' => ?_) fun m hm n hn hround => ?_
  · obtain ⟨n, hn⟩ := hindex m hm
    have hmem := htree.origin_inputs hadds hempty m hm hn side i hi
    exact Option.some.inj (hj.symm.trans (hown i hmem))
  · obtain ⟨x, hx⟩ := hindex m hm
    exact htree.apart hnodup hadds hempty m hm hx n hn hround.symm side side' i hi hi'
  · exact absurd ⟨hn, hround ▸ hadds.ofItem m hm⟩ (hempty n)

end Tree

/-- The rounds of a bracket are the levels of its tree. -/
theorem eliminationRounds_eq {c n : Nat}
    (h : getNumberOfRoundsToCreateSingleElimination c = .ok n) : n = 0 ∨ 1 ≤ n ∧ c = 2 ^ n := by
  unfold getNumberOfRoundsToCreateSingleElimination at h
  split at h
  · cases h
    exact .inl rfl
  · split at h <;> cases h <;> exact .inr ⟨by decide, rfl⟩

theorem Lined.buildSingleElimination (hL : Lined db) {row : StageItemRow} {n : Nat}
    (hstored : getStageItem db tid row.id = .ok (loadStageItem db tid row))
    (hcount : getNumberOfRoundsToCreateSingleElimination row.teamCount = .ok n)
    (hinputs : (loadStageItem db tid row).inputs.length = row.teamCount)
    (hrounds : (loadStageItem db tid row).rounds.length = n) (hempty : ∀ m, ¬ db.InItem row.id m)
    (h : buildSingleEliminationStageItem db tid (loadStageItem db tid row) = .ok db') :
    Lined db' := by
  have hbuild := h
  obtain ⟨loaded, hloaded, h⟩ := bind_eq_ok.mp h
  obtain rfl : loadStageItem db tid row = loaded := Except.ok.inj (hstored.symm.trans hloaded)
  obtain ⟨tournament, htournament, h⟩ := bind_eq_ok.mp h
  rcases eliminationRounds_eq hcount with rfl | ⟨hn, hpow⟩
  · -- a bracket without rounds is refused
    have hnil : (loadStageItem db tid row).rounds = [] := List.length_eq_zero_iff.mp hrounds
    rw [hnil] at h
    cases h
  · have hsorted := loaded_roundIds db tid row
    obtain ⟨built, created, hbuilt, hrows, hrest, htree⟩ := builtTree hn hloaded htournament
      (hinputs.trans hpow) (loaded_inputs_nodup db tid row) hrounds hsorted
    obtain rfl : db' = built := Except.ok.inj (hbuild.symm.trans hbuilt)
    refine htree.add_tree (hsorted.imp ne_of_lt) ⟨hrows, hrest, fun m hm => ?_, fun _ => hempty⟩
      hempty hL fun i hi => ?_
    · obtain ⟨r, hr, hrid⟩ := List.mem_map.mp (htree.inRounds m hm)
      rw [← hrid]
      exact roundItem_of_loaded hr
    · obtain ⟨input, hinput, rfl⟩ := List.mem_map.mp hi
      exact loaded_inputItem hinput

/-! ## 4. The request -/

/-- **A new stage item is lined up.** -/
theorem Lined.createStageItem (hL : Lined db) (hdb : Isolated db) {E : ExpectedScore}
    {body : StageItemCreateBody} (hcall : createStageItem E db tid body = .ok db') : Lined db' := by
  obtain ⟨e⟩ := createStageItem_ok hcall
  refine (Reseats.scheduleAllMatches e.planning).thins.lined ?_
  have hbuilding := e.building
  obtain ⟨db1, h1, h⟩ := bind_eq_ok.mp hbuilding
  obtain ⟨loaded, hloaded, h⟩ := bind_eq_ok.mp h
  obtain ⟨n, hn, h1⟩ := bind_eq_ok.mp h1
  cases h1
  have hnew := NewItem.create hdb e.keys e.created n
  have hL1 := hnew.thins.lined hL
  obtain ⟨row, hrow, -, rfl, -⟩ := getStageItem_eq_ok.mp hloaded
  obtain rfl : e.new.1 = row := Option.some.inj (hnew.stored.symm.trans hrow)
  unfold roundsToCreate at hn
  split at h
  · next htype =>
    obtain ⟨db2, h2, h⟩ := bind_eq_ok.mp h
    rw [htype] at hn
    cases hn
    exact (Reseats.recalculateRanking h).thins.lined
      (hL1.buildRoundRobin hnew.stored htype hnew.inputs hnew.rounds hnew.empty h2)
  · next htype =>
    obtain ⟨db2, h2, h⟩ := bind_eq_ok.mp h
    rw [htype] at hn
    exact (Reseats.recalculateRanking h).thins.lined
      (hL1.buildSingleElimination hloaded hn hnew.inputs hnew.rounds hnew.empty h2)
  · exact Except.ok.inj h ▸ hL1

end Brackets
