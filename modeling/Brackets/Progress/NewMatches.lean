/-
  File:      Brackets/Progress/NewMatches.lean
  Subject:   Created matches are lined up.

  * `Lined.add`: matches that are added to a stage item, to a bracket all of them at once;
    `Lined.add_group`: those of a group or a Swiss stage item, by who plays in them (`LinesUp`);
  * `Lined.createMatch`: a match that is created by hand has to take its inputs from the stage
    item of its round;
  * `Lined.createRound`: what a solver answers to a pairing has to be a matching, so that nobody is
    in two pairs of a draft (`pairing_disjoint`).
-/
import Brackets.Progress.CompleteTree
import Brackets.Progress.IsolatedRequests
import Brackets.Progress.Slots
import Brackets.Progress.Thinning
import Brackets.Scheduling.SwissOptimal

namespace Brackets

open Library

variable {db db' : Database} {tid : TournamentId} {k : StageItemId} {created : List MatchRow}

/-! ## 1. Adding matches -/

/-- What can reach a match: it is stored there, or can reach a source of it. -/
theorem Origin.row {m : MatchRow} (hm : m ∈ db.matches_.rows) {x : MatchId} {side : Side}
    {i : StageItemInputId} (h : Origin db x side i) (hx : m.id = x) : m.inputId side = some i ∨
      ∃ src side' k, db.InItem k m ∧ db.InItem k src ∧ db.IsBracket k ∧
        m.winnerFrom side = some src.id ∧ Origin db src.id side' i := by
  cases h with
  | stored hn hi =>
    obtain rfl := db.matches_.eq_of_key hm hn hx
    exact .inl hi
  | fed hn hsrc hk hw h =>
    obtain rfl := db.matches_.eq_of_key hm hn.1 hx
    exact .inr ⟨_, _, _, hn, hsrc, hk, hw, h⟩

/-- Outside of brackets nobody moves on. -/
theorem Origin.stays {m : MatchRow} (hm : m ∈ db.matches_.rows)
    (hgroup : ∀ j, db.roundItem m.roundId = some j → ¬ db.IsBracket j) {side : Side}
    {i : StageItemInputId} (h : Origin db m.id side i) : m.inputId side = some i := by
  rcases h.row hm rfl with hi | ⟨_, _, j, hj, -, hbracket, -, -⟩
  · exact hi
  · exact absurd hbracket (hgroup j hj.2)

/-- Matches are added to a stage item, to a bracket all of them at once. -/
structure Adds (db db' : Database) (k : StageItemId) (created : List MatchRow) : Prop where
  rows : db'.matches_.rows = db.matches_.rows ++ created
  rest : { db' with matches_ := db.matches_ } = db
  ofItem : ∀ m ∈ created, db.roundItem m.roundId = some k
  whole : db.IsBracket k → ∀ m, ¬ db.InItem k m

namespace Adds

theorem mem (h : Adds db db' k created) {m : MatchRow} :
    m ∈ db'.matches_.rows ↔ m ∈ db.matches_.rows ∨ m ∈ created := by
  rw [h.rows, List.mem_append]

theorem roundItem (h : Adds db db' k created) (r : RoundId) : db'.roundItem r = db.roundItem r := by
  have hrest := congrArg (fun d : Database => d.roundItem r) h.rest
  exact hrest

theorem inputItem (h : Adds db db' k created) (i : StageItemInputId) :
    db'.inputItem i = db.inputItem i := by
  have hrest := congrArg (fun d : Database => d.inputItem i) h.rest
  exact hrest

theorem isBracket (h : Adds db db' k created) {j : StageItemId} :
    db'.IsBracket j ↔ db.IsBracket j := by
  have hrest := congrArg (fun d : Database => d.IsBracket j) h.rest
  exact iff_of_eq hrest

theorem inItem (h : Adds db db' k created) {m : MatchRow} (hm : m ∈ created) : db'.InItem k m :=
  ⟨h.mem.mpr (.inr hm), (h.roundItem m.roundId).trans (h.ofItem m hm)⟩

/-- Nothing new can reach an old match. -/
theorem origin_old (h : Adds db db' k created) {x : MatchId} {side : Side} {i : StageItemInputId}
    (hi : Origin db' x side i) : ∀ m ∈ db.matches_.rows, m.id = x → Origin db x side i := by
  induction hi with
  | @stored m' _ _ hm' hi =>
    intro m hm hid
    obtain rfl := db'.matches_.eq_of_key (h.mem.mpr (.inl hm)) hm' hid
    exact .stored hm hi
  | @fed m' src _ _ _ j hm' hsrc hj hw _ ih =>
    intro m hm hid
    obtain rfl := db'.matches_.eq_of_key (h.mem.mpr (.inl hm)) hm'.1 hid
    have hin : db.InItem j m := ⟨hm, (h.roundItem _).symm.trans hm'.2⟩
    rcases h.mem.mp hsrc.1 with hold | hnew
    · exact .fed hin ⟨hold, (h.roundItem _).symm.trans hsrc.2⟩ (h.isBracket.mp hj) hw
        (ih src hold rfl)
    · -- a bracket that gets matches has none yet
      obtain rfl : k = j := Option.some.inj ((h.inItem hnew).2.symm.trans hsrc.2)
      exact absurd hin (h.whole (h.isBracket.mp hj) m)

end Adds

/-- **The new matches are lined up** if they are among themselves and beside the old ones. -/
theorem Lined.add (hL : Lined db) (h : Adds db db' k created)
    (hown : ∀ m ∈ created, ∀ side i, Origin db' m.id side i → ∀ j, db.inputItem i = some j → j = k)
    (hapart : ∀ m ∈ created, ∀ n ∈ created, m.roundId = n.roundId → ∀ side side' i,
      Origin db' m.id side i → Origin db' n.id side' i → m = n ∧ side = side')
    (hacross : ∀ m ∈ created, ∀ n ∈ db.matches_.rows, m.roundId = n.roundId → ∀ side side' i,
      Origin db' m.id side i → ¬ Origin db n.id side' i) : Lined db' where
  own m hm side i hi j j' hj hj' := by
    rw [h.inputItem] at hj
    rw [h.roundItem] at hj'
    rcases h.mem.mp hm with hm | hm
    · exact hL.own m hm side i (h.origin_old hi m hm rfl) j j' hj hj'
    · rw [hown m hm side i hi j hj]
      exact Option.some.inj ((h.ofItem m hm).symm.trans hj')
  apart m hm n hn hround side side' i hi hi' := by
    rcases h.mem.mp hm with hm | hm <;> rcases h.mem.mp hn with hn | hn
    · exact hL.apart m hm n hn hround side side' i (h.origin_old hi m hm rfl)
        (h.origin_old hi' n hn rfl)
    · exact absurd (h.origin_old hi m hm rfl) (hacross n hn m hm hround.symm side' side i hi')
    · exact absurd (h.origin_old hi' n hn rfl) (hacross m hm n hn hround side side' i hi)
    · exact hapart m hm n hn hround side side' i hi hi'

/-- The input on a side plays. -/
theorem MatchRow.plays_of_inputId {m : MatchRow} {side : Side} {i : StageItemInputId}
    (h : m.inputId side = some i) : m.Plays i := by
  cases side with
  | one => exact .inl h
  | two => exact .inr h

/-- An input that is not on both sides is on one. -/
theorem MatchRow.side_eq {m : MatchRow}
    (h : ∀ i, m.stageItemInput1Id = some i → m.stageItemInput2Id ≠ some i) {side side' : Side}
    {i : StageItemInputId} (hi : m.inputId side = some i) (hi' : m.inputId side' = some i) :
    side = side' := by
  cases side with
  | one =>
    cases side' with
    | one => rfl
    | two => exact absurd hi' (h i hi)
  | two =>
    cases side' with
    | one => exact absurd hi (h i hi')
    | two => rfl

/-- The matches are of inputs of the stage item, each of two and each input once in a round. -/
structure LinesUp (db : Database) (k : StageItemId) (created : List MatchRow) : Prop where
  own : ∀ m ∈ created, ∀ i, m.Plays i → db.inputItem i = some k
  differ : ∀ m ∈ created, ∀ i, m.stageItemInput1Id = some i → m.stageItemInput2Id ≠ some i
  once : ∀ m ∈ created, ∀ n ∈ created, m.roundId = n.roundId → ∀ i, m.Plays i → n.Plays i → m = n
  beside : ∀ m ∈ created, ∀ n ∈ db.matches_.rows, m.roundId = n.roundId → ∀ i, m.Plays i →
    ¬ n.Plays i

/-- New matches of a group or of a Swiss stage item. -/
theorem Lined.add_group (hL : Lined db) (h : Adds db db' k created) (hk : ¬ db.IsBracket k)
    (hnew : LinesUp db k created) : Lined db' := by
  have hstays : ∀ m ∈ created, ∀ side i, Origin db' m.id side i → m.inputId side = some i := by
    intro m hm side i hi
    refine hi.stays (h.inItem hm).1 fun j hj hb => hk (h.isBracket.mp ?_)
    exact Option.some.inj (hj.symm.trans (h.inItem hm).2) ▸ hb
  refine hL.add h (fun m hm side i hi j hj => ?_)
    (fun m hm n hn hround side side' i hi hi' => ?_) fun m hm n hn hround side side' i hi hi' => ?_
  · have hitem := hnew.own m hm i (MatchRow.plays_of_inputId (hstays m hm side i hi))
    exact Option.some.inj (hj.symm.trans hitem)
  · have hside := hstays m hm side i hi
    have hside' := hstays n hn side' i hi'
    obtain rfl := hnew.once m hm n hn hround i (MatchRow.plays_of_inputId hside)
      (MatchRow.plays_of_inputId hside')
    exact ⟨rfl, MatchRow.side_eq (hnew.differ m hm) hside hside'⟩
  · have hgroup : ∀ j, db.roundItem n.roundId = some j → ¬ db.IsBracket j := by
      rw [← hround, h.ofItem m hm]
      exact fun j hj => Option.some.inj hj ▸ hk
    exact hnew.beside m hm n hn hround i (MatchRow.plays_of_inputId (hstays m hm side i hi))
      (MatchRow.plays_of_inputId (hi'.stays hn hgroup))

/-- `create_match` is the only write. -/
theorem Adds.createMatches (db : Database) {bodies : List MatchCreateBody}
    (hitem : ∀ b ∈ bodies, db.roundItem b.roundId = some k)
    (hwhole : db.IsBracket k → ∀ m, ¬ db.InItem k m) :
    Adds db (Brackets.createMatches db bodies).2 k (Brackets.createMatches db bodies).1 where
  rows := createMatches_rows db bodies
  rest := createMatches_frame db bodies
  ofItem m hm := by
    obtain ⟨b, hb, x, rfl⟩ := exists_body hm
    exact hitem b hb
  whole := hwhole

/-! ## 2. A match that is created by hand -/

/-- The inputs that the body names are of the stage item of the round. -/
def MatchCreateBodyFrontend.OfItem (body : MatchCreateBodyFrontend) (db : Database) : Prop :=
  ∀ i ∈ body.stageItemInput1Id.toList ++ body.stageItemInput2Id.toList,
    db.inputItem i = db.roundItem body.roundId

instance (body : MatchCreateBodyFrontend) (db : Database) : Decidable (body.OfItem db) :=
  inferInstanceAs
    (Decidable (∀ i ∈ body.stageItemInput1Id.toList ++ body.stageItemInput2Id.toList, _))

/-- The inputs that play in the round. -/
theorem mem_inputIdsInRound {inputs : List StageItemInput} {row : RoundRow} {i : StageItemInputId} :
    i ∈ inputIdsInRound (roundWithMatches db inputs row) ↔
      ∃ m ∈ db.matches_.rows, m.roundId = row.id ∧ m.Plays i := by
  unfold inputIdsInRound
  simp only [List.mem_flatMap, List.mem_append, Option.mem_toList]
  constructor
  · rintro ⟨m, hm, hi⟩
    obtain ⟨mrow, hmrow, hround, rfl⟩ := mem_roundWithMatches.mp hm
    exact ⟨mrow, hmrow, hround, hi⟩
  · rintro ⟨mrow, hmrow, hround, hi⟩
    exact ⟨_, mem_roundWithMatches.mpr ⟨mrow, hmrow, hround, rfl⟩, hi⟩

/-- A loaded input is of its stage item. -/
theorem loaded_inputItem {row : StageItemRow} {i : StageItemInput}
    (hi : i ∈ (loadStageItem db tid row).inputs) : db.inputItem i.id = some row.id := by
  obtain ⟨irow, hirow, hof, -, rfl⟩ := mem_loaded_inputs.mp hi
  exact hof ▸ inputItem_row hirow

/-- A loaded stage item that is no bracket. -/
theorem not_isBracket_of_load {item : StageItemWithRounds} (h : getStageItem db tid k = .ok item)
    (htype : item.type ≠ .singleElimination) : ¬ db.IsBracket k := by
  rintro ⟨row, hrow, hbracket⟩
  obtain ⟨row', hrow', -, rfl, -⟩ := getStageItem_eq_ok.mp h
  obtain rfl : row = row' := Option.some.inj (hrow.symm.trans hrow')
  exact htype hbracket

theorem Lined.createMatch (hL : Lined db) {body : MatchCreateBodyFrontend} (hbody : body.OfItem db)
    (hcall : createMatch db tid body = .ok db') : Lined db' := by
  obtain ⟨e⟩ := createMatch_ok hcall
  obtain ⟨row, inputs, hrow, -, hround⟩ := getRoundById_ok e.found
  have hitem : db.roundItem body.roundId = some e.round.stageItemId := by
    rw [Database.roundItem, hrow, hround]
    rfl
  have hgroup : ¬ db.IsBracket e.round.stageItemId := by
    refine not_isBracket_of_load e.ofItem fun htype => ?_
    cases e.swiss.symm.trans htype
  let new : MatchRow := newMatch
    { body with
      durationMinutes := e.tournament.durationMinutes
      marginMinutes := e.tournament.marginMinutes } db.matches_.next
  have hadds : Adds db _ e.round.stageItemId [new] := .createMatches db
    (fun b hb => List.mem_singleton.mp hb ▸ hitem) fun hb => absurd hb hgroup
  have hplays : ∀ i, new.Plays i →
      i ∈ body.stageItemInput1Id.toList ++ body.stageItemInput2Id.toList := fun i hi =>
    List.mem_append.mpr (hi.imp Option.mem_toList.mpr Option.mem_toList.mpr)
  refine (Reseats.scheduleAllMatches e.planning).thins.lined
    (hL.add_group hadds hgroup ⟨fun m hm i hi => ?_, fun m hm i hi => ?_,
      fun m hm n hn _ _ _ _ => ?_, fun m hm n hn hrounds i hi hi' => ?_⟩)
  · obtain rfl := List.mem_singleton.mp hm
    exact (hbody i (hplays i hi)).trans hitem
  · obtain rfl := List.mem_singleton.mp hm
    have hone : body.stageItemInput1Id = some i := hi
    rcases e.sidesDiffer with hnone | hne
    · rw [hnone] at hone
      cases hone
    · exact fun htwo => hne (hone.trans htwo.symm)
  · exact (List.mem_singleton.mp hm).trans (List.mem_singleton.mp hn).symm
  · obtain rfl := List.mem_singleton.mp hm
    refine e.unpaired i (hplays i hi) ?_
    rw [hround]
    exact mem_inputIdsInRound.mpr
      ⟨n, hn, hrounds.symm.trans (db.rounds.key_of_find? hrow).symm, hi'⟩

/-! ## 3. The draft of a Swiss round -/

/-- The solver answers with matchings. -/
def MatchesOnly (maxWeightMatching : MatchingSolver) : Prop :=
  ∀ G : WeightedGraph StageItemInputId, G.IsMatching (maxWeightMatching G)

theorem orderPair_endpoints {teams : List StageItemInput}
    {ids : List (StageItemInputId × StageItemInputId)}
    {ordered : List (Nat × StageItemInputId × StageItemInputId)}
    (h : ids.mapM (orderPair teams) = .ok ordered) :
    (endpoints (ordered.map (·.2))).Perm (endpoints ids) := by
  induction ids generalizing ordered with
  | nil =>
    cases h
    exact .refl _
  | cons p ids ih =>
    rw [List.mapM_cons] at h
    obtain ⟨q, hq, h⟩ := bind_eq_ok.mp h
    obtain ⟨rest, hrest, h⟩ := bind_eq_ok.mp h
    cases h
    obtain ⟨rank1, -, hq⟩ := bind_eq_ok.mp hq
    obtain ⟨rank2, -, hq⟩ := bind_eq_ok.mp hq
    obtain ⟨rank, -, hq⟩ := bind_eq_ok.mp hq
    cases hq
    rw [List.map_cons, endpoints_cons, endpoints_cons]
    split
    · exact ((ih hrest).cons _).cons _
    · exact (((ih hrest).cons _).cons _).trans (.swap _ _ _)

theorem teamsOfPair_ids {teams : List StageItemInput}
    {ids : List (StageItemInputId × StageItemInputId)}
    {pairs : List (StageItemInput × StageItemInput)}
    (h : ids.mapM (teamsOfPair teams) = .ok pairs) : pairIdsOf pairs = ids := by
  have hteam : ∀ x i, orRaise ((teamsById teams).get? x) (.crash .keyError) = .ok i → i.id = x := by
    intro x i hi
    obtain ⟨t, -, e⟩ := List.mem_map.mp (Dict.mem_of_ofList (orRaise_eq_ok.mp hi))
    cases e
    rfl
  induction ids generalizing pairs with
  | nil =>
    cases h
    rfl
  | cons p ids ih =>
    rw [List.mapM_cons] at h
    obtain ⟨q, hq, h⟩ := bind_eq_ok.mp h
    obtain ⟨rest, hrest, h⟩ := bind_eq_ok.mp h
    cases h
    obtain ⟨team1, h1, hq⟩ := bind_eq_ok.mp hq
    obtain ⟨team2, h2, hq⟩ := bind_eq_ok.mp hq
    cases hq
    have hhead : (team1.id, team2.id) = p := by rw [hteam _ _ h1, hteam _ _ h2]
    exact congrArg₂ List.cons hhead (ih hrest)

/-- **Nobody is in two pairs of a draft.** -/
theorem pairing_disjoint {maxWeightMatching : MatchingSolver} {shuffle : Shuffle}
    {item : StageItemWithRounds} {pairing : SwissPairing} (hM : MatchesOnly maxWeightMatching)
    (h : getSwissPairing maxWeightMatching shuffle item = .ok pairing) :
    (endpoints (pairIdsOf pairing.pairs)).Nodup := by
  obtain ⟨meetings, -, h⟩ := bind_eq_ok.mp h
  obtain ⟨ordered, hordered, h⟩ := bind_eq_ok.mp h
  obtain ⟨pairs, hpairs, h⟩ := bind_eq_ok.mp h
  cases h
  rw [teamsOfPair_ids hpairs]
  have hsorted : (endpoints ((ordered.insertionSort fun p q => p.1 ≤ q.1).map (·.2))).Perm
      (endpoints (ordered.map (·.2))) := endpoints_perm ((List.perm_insertionSort _ _).map _)
  rw [(hsorted.trans (orderPair_endpoints hordered)).nodup_iff]
  exact (hM _).disjoint.sublist (endpoints_sublist List.filter_sublist)

theorem foldl_pairs (tournament : TournamentRow) (r : RoundId)
    (pairs : List (StageItemInput × StageItemInput)) (db : Database) :
    pairs.foldl (fun d p => (sqlCreateMatch d (pairBody tournament r p)).2) db =
      (createMatches db (pairs.map (pairBody tournament r))).2 := by
  induction pairs generalizing db with
  | nil => rfl
  | cons p pairs ih => exact ih _

/-- The matches of a draft line up in a round that is new. -/
theorem LinesUp.draft (tournament : TournamentRow) {r : RoundId}
    {pairs : List (StageItemInput × StageItemInput)}
    (hown : ∀ p ∈ pairs, db.inputItem p.1.id = some k ∧ db.inputItem p.2.id = some k)
    (hdisjoint : (endpoints (pairIdsOf pairs)).Nodup)
    (hfresh : ∀ n ∈ db.matches_.rows, n.roundId ≠ r) :
    LinesUp db k (createMatches db (pairs.map (pairBody tournament r))).1 where
  own m hm i hi := by
    obtain ⟨b, hb, x, rfl⟩ := exists_body hm
    obtain ⟨p, hp, rfl⟩ := List.mem_map.mp hb
    rcases hi with hi | hi
    · exact Option.some.inj hi ▸ (hown p hp).1
    · exact Option.some.inj hi ▸ (hown p hp).2
  differ m hm i hone htwo := by
    obtain ⟨b, hb, x, rfl⟩ := exists_body hm
    obtain ⟨p, hp, rfl⟩ := List.mem_map.mp hb
    refine ne_of_mem_of_nodup hdisjoint (List.mem_map_of_mem hp) ?_
    exact Option.some.inj (hone.trans htwo.symm)
  once := by
    let Apart : MatchRow → MatchRow → Prop := fun m n => ∀ i, m.Plays i → ¬ n.Plays i
    have hpairwise : (createMatches db (pairs.map (pairBody tournament r))).1.Pairwise Apart := by
      refine createMatches_pairwise (List.pairwise_map.mpr ?_)
      refine (List.pairwise_map.mp (pairwise_of_endpoints hdisjoint)).imp fun h x x' i hi hi' => ?_
      exact h i (hi.imp (fun e => (Option.some.inj e).symm) fun e => (Option.some.inj e).symm)
        (hi'.imp (fun e => (Option.some.inj e).symm) fun e => (Option.some.inj e).symm)
    intro m hm n hn _ i hi hi'
    by_contra hne
    have : Std.Symm Apart := ⟨fun m n h i hi hi' => h i hi' hi⟩
    exact hpairwise.forall hm hn hne i hi hi'
  beside m hm n hn hround := by
    obtain ⟨b, hb, x, rfl⟩ := exists_body hm
    obtain ⟨p, -, rfl⟩ := List.mem_map.mp hb
    exact absurd hround.symm (hfresh n hn)

/-- A round is created. -/
theorem Thins.createRound (hdb : Isolated db) (name : String) (isDraft : Bool) (k : StageItemId) :
    Thins db (sqlCreateRound db name isDraft k).2 := by
  refine .of_tables rfl (fun m hm j hj => ?_) (fun _ _ _ h => h) fun _ _ _ _ _ _ h => h
  rwa [Database.roundItem, sqlCreateRound, Table.find?_insert_of_ne _ (hdb.round_lt m hm).ne] at hj

theorem Lined.createRound (hL : Lined db) (hdb : Isolated db) {maxWeightMatching : MatchingSolver}
    {shuffle : Shuffle} (hM : MatchesOnly maxWeightMatching) {body : RoundCreateBody}
    (hcall : createRound maxWeightMatching shuffle db tid body = .ok db') : Lined db' := by
  obtain ⟨e⟩ := createRound_ok hcall
  have hdrafted := e.drafted
  unfold draftRound at hdrafted
  dsimp only at hdrafted
  generalize (body.name.filter (· ≠ "")).getD (getNextRoundName db tid e.item.id) = name at hdrafted
  rw [foldl_pairs] at hdrafted
  obtain ⟨row, hrow, -, hitem, -⟩ := getStageItem_eq_ok.mp e.checks.found
  have hid : row.id = body.stageItemId := db.stageItems.key_of_find? hrow
  have hgroup : ¬ db.IsBracket row.id := by
    rw [hid]
    refine not_isBracket_of_load e.checks.found fun htype => ?_
    have hdynamic := e.checks.dynamic
    rw [htype] at hdynamic
    cases hdynamic
  have hinput : ∀ i ∈ e.item.inputs, db.inputItem i.id = some row.id := fun i hi =>
    loaded_inputItem (hitem ▸ hi)
  rw [hitem] at hdrafted
  have hround : (sqlCreateRound db name true row.id).2.roundItem db.rounds.next = some row.id := by
    rw [Database.roundItem, sqlCreateRound, Table.find?_insert_self]
    rfl
  have hmembers := pairing_inputs e.paired
  refine (Reseats.scheduleAllMatches hdrafted).thins.lined
    (((Thins.createRound hdb name true row.id).lined hL).add_group
      (.createMatches _ (fun b hb => ?_) fun hb => absurd hb hgroup) hgroup
      (LinesUp.draft e.tournament (fun p hp => ?_) (pairing_disjoint hM e.paired) fun n hn => ?_))
  · obtain ⟨p, -, rfl⟩ := List.mem_map.mp hb
    exact hround
  · exact ⟨hinput _ (hmembers p hp).1, hinput _ (hmembers p hp).2⟩
  · exact (hdb.round_lt n hn).ne

end Brackets
