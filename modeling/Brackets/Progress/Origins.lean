/-
  File:      Brackets/Progress/Origins.lean
  Subject:   The inputs that a match can get.

  An input reaches a slot of a match in two ways: it is stored there, or it can reach the match
  that fills the slot. `Origin` is that relation, and `Lined` the invariant that it carries: the
  inputs that can reach a match are of its stage item, and no input can reach two slots of a round.

  * `Thins`: a change after which nothing new can reach a match. It keeps the invariant
    (`Thins.lined`), whatever it deletes, scores or moves on;
  * `Reseats`: such a change that leaves the rounds, the inputs and the stage items alone;
    `Reseats.moveOn`: the winners of a bracket move on to where they could be.
-/
import Brackets.Progress.BracketRuns
import Brackets.Progress.Effects

namespace Brackets

open Library

variable {db db' db'' : Database} {tid : TournamentId}

/-! ## 1. Origins -/

/-- The stage item of an input. -/
def Database.inputItem (db : Database) (i : StageItemInputId) : Option StageItemId :=
  (db.stageItemInputs.find? i).map (·.stageItemId)

theorem inputItem_row {i : StageItemInputRow} (hi : i ∈ db.stageItemInputs.rows) :
    db.inputItem i.id = some i.stageItemId :=
  congrArg (Option.map _) (db.stageItemInputs.find?_key hi)

theorem roundItem_row {r : RoundRow} (hr : r ∈ db.rounds.rows) :
    db.roundItem r.id = some r.stageItemId :=
  congrArg (Option.map _) (db.rounds.find?_key hr)

/-- The stage item is a bracket. -/
def Database.IsBracket (db : Database) (k : StageItemId) : Prop :=
  ∃ row, db.stageItems.find? k = some row ∧ row.type = .singleElimination

/-- The input can reach the slot: it is there, or it can reach the match of the bracket that fills
    the slot. -/
inductive Origin (db : Database) : MatchId → Side → StageItemInputId → Prop
  | stored {m : MatchRow} {side : Side} {i : StageItemInputId} (hm : m ∈ db.matches_.rows)
      (hi : m.inputId side = some i) : Origin db m.id side i
  | fed {m src : MatchRow} {side side' : Side} {i : StageItemInputId} {k : StageItemId}
      (hm : db.InItem k m) (hsrc : db.InItem k src) (hk : db.IsBracket k)
      (hw : m.winnerFrom side = some src.id) (h : Origin db src.id side' i) : Origin db m.id side i

/-- Some match names the input. -/
theorem Origin.named {x : MatchId} {side : Side} {i : StageItemInputId} (h : Origin db x side i) :
    ∃ m ∈ db.matches_.rows, ∃ side, m.inputId side = some i := by
  induction h with
  | stored hm hi => exact ⟨_, hm, _, hi⟩
  | fed _ _ _ _ _ ih => exact ih

/-- **Everyone is in his stage item, and nobody can be twice in a round.** -/
structure Lined (db : Database) : Prop where
  own : ∀ m ∈ db.matches_.rows, ∀ side i, Origin db m.id side i → ∀ k k', db.inputItem i = some k →
    db.roundItem m.roundId = some k' → k = k'
  apart : ∀ m ∈ db.matches_.rows, ∀ n ∈ db.matches_.rows, m.roundId = n.roundId →
    ∀ side side' i, Origin db m.id side i → Origin db n.id side' i → m = n ∧ side = side'

/-! ## 2. Changes -/

/-- The match is an old one, and its inputs could reach it. -/
structure OldMatch (db : Database) (m' m : MatchRow) : Prop where
  row : m ∈ db.matches_.rows
  id : m'.id = m.id
  roundId : m'.roundId = m.roundId
  source : ∀ side j, m'.winnerFrom side = some j → m.winnerFrom side = some j
  input : ∀ side i, m'.inputId side = some i → Origin db m.id side i

/-- Every match is an old one that keeps to its place. -/
structure Thins (db db' : Database) : Prop where
  rows : ∀ m' ∈ db'.matches_.rows, ∃ m, OldMatch db m' m
  rounds : ∀ m' ∈ db'.matches_.rows, ∀ k, db'.roundItem m'.roundId = some k →
    db.roundItem m'.roundId = some k
  brackets : ∀ k m', db'.InItem k m' → db'.IsBracket k → db.IsBracket k
  inputs : ∀ m' ∈ db'.matches_.rows, ∀ side i k, m'.inputId side = some i →
    db'.inputItem i = some k → db.inputItem i = some k

namespace Thins

theorem refl (db : Database) : Thins db db where
  rows m hm := ⟨m, hm, rfl, rfl, fun _ _ h => h, fun _ _ h => .stored hm h⟩
  rounds _ _ _ h := h
  brackets _ _ _ h := h
  inputs _ _ _ _ _ _ h := h

theorem inItem (h : Thins db db') {k : StageItemId} {m' m : MatchRow} (hm' : db'.InItem k m')
    (hm : OldMatch db m' m) : db.InItem k m :=
  ⟨hm.row, hm.roundId ▸ h.rounds m' hm'.1 k hm'.2⟩

/-- Nothing new can reach a match. -/
theorem origin (h : Thins db db') {x : MatchId} {side : Side} {i : StageItemInputId}
    (hi : Origin db' x side i) : Origin db x side i := by
  induction hi with
  | @stored m' _ _ hm' hi =>
    obtain ⟨m, hm⟩ := h.rows m' hm'
    exact hm.id ▸ hm.input _ _ hi
  | @fed m' src' _ _ _ k hm' hsrc' hk hw _ ih =>
    obtain ⟨m, hm⟩ := h.rows m' hm'.1
    obtain ⟨src, hsrc⟩ := h.rows src' hsrc'.1
    rw [hsrc.id] at hw ih
    rw [hm.id]
    exact .fed (h.inItem hm' hm) (h.inItem hsrc' hsrc) (h.brackets k m' hm' hk)
      (hm.source _ _ hw) ih

theorem trans (h : Thins db db') (h' : Thins db' db'') : Thins db db'' where
  rows m'' hm'' := by
    obtain ⟨m', hm'⟩ := h'.rows m'' hm''
    obtain ⟨m, hm⟩ := h.rows m' hm'.row
    refine ⟨m, hm.row, hm'.id.trans hm.id, hm'.roundId.trans hm.roundId, fun side j hj =>
      hm.source side j (hm'.source side j hj), fun side i hi => ?_⟩
    exact hm.id ▸ h.origin (hm'.input side i hi)
  rounds m'' hm'' k hk := by
    obtain ⟨m', hm'⟩ := h'.rows m'' hm''
    have hround := h'.rounds m'' hm'' k hk
    rw [hm'.roundId] at hround ⊢
    exact h.rounds m' hm'.row k hround
  brackets k m'' hm'' hk := by
    obtain ⟨m', hm'⟩ := h'.rows m'' hm''.1
    exact h.brackets k m' (h'.inItem hm'' hm') (h'.brackets k m'' hm'' hk)
  inputs m'' hm'' side i k hi hk := by
    obtain ⟨m', hm'⟩ := h'.rows m'' hm''
    obtain ⟨n, hn, side', hi'⟩ := (hm'.input side i hi).named
    exact h.inputs n hn side' i k hi' (h'.inputs m'' hm'' side i k hi hk)

/-- **What nothing new can reach stays lined up.** -/
theorem lined (h : Thins db db') (hL : Lined db) : Lined db' where
  own m' hm' side i hi k k' hk hk' := by
    obtain ⟨m, hm⟩ := h.rows m' hm'
    obtain ⟨n, hn, side', hi'⟩ := hi.named
    have hround := h.rounds m' hm' k' hk'
    rw [hm.roundId] at hround
    exact hL.own m hm.row side i (hm.id ▸ h.origin hi) k k' (h.inputs n hn side' i k hi' hk) hround
  apart m' hm' n' hn' hround side side' i hi hi' := by
    obtain ⟨m, hm⟩ := h.rows m' hm'
    obtain ⟨n, hn⟩ := h.rows n' hn'
    obtain ⟨e, hside⟩ := hL.apart m hm.row n hn.row
      (hm.roundId.symm.trans (hround.trans hn.roundId)) side side' i (hm.id ▸ h.origin hi)
      (hn.id ▸ h.origin hi')
    have hid : m'.id = n'.id := hm.id.trans ((congrArg MatchRow.id e).trans hn.id.symm)
    exact ⟨db'.matches_.eq_of_key hm' hn' hid, hside⟩

end Thins

/-! ## 3. Statements that keep the matches in their places -/

/-- The match with its round, its inputs and their sources. -/
def MatchRow.lineup (m : MatchRow) : MatchRow where
  id := m.id
  startTime := none
  durationMinutes := 0
  marginMinutes := 0
  customDurationMinutes := none
  customMarginMinutes := none
  roundId := m.roundId
  stageItemInput1Id := m.stageItemInput1Id
  stageItemInput2Id := m.stageItemInput2Id
  stageItemInput1Conflict := false
  stageItemInput2Conflict := false
  stageItemInput1WinnerFromMatchId := m.stageItemInput1WinnerFromMatchId
  stageItemInput2WinnerFromMatchId := m.stageItemInput2WinnerFromMatchId
  stageItemInput1Score := 0
  stageItemInput2Score := 0

theorem MatchRow.key_lineup (m : MatchRow) : key m.lineup = key m := rfl

/-- The matches with their rounds, their inputs and the sources of these. -/
def Database.lineup (db : Database) : Table MatchRow :=
  db.matches_.map MatchRow.lineup MatchRow.key_lineup

/-- An UPDATE of columns that the places of the matches do not show. -/
theorem lineup_update {p : MatchRow → Bool} {f : MatchRow → MatchRow} {hf : ∀ m, key (f m) = key m}
    (h : ∀ m, (f m).lineup = m.lineup) :
    { db with matches_ := db.matches_.update p f hf }.lineup = db.lineup := by
  simp only [Database.lineup, db.matches_.map_of_update h]

theorem lineup_of_untimed (h : db'.untimed = db.untimed) : db'.lineup = db.lineup := by
  have huntimed : ∀ d : Database, d.untimed.lineup = d.lineup := fun _ => lineup_update fun _ => rfl
  rw [← huntimed db', ← huntimed db, h]

theorem roundItem_of_layout (h : db'.layout = db.layout) (r : RoundId) :
    db'.roundItem r = db.roundItem r := by
  have hlayout : ∀ d : Database, d.layout.roundItem r = d.roundItem r := by
    intro d
    unfold Database.roundItem Database.layout
    rw [Table.find?_map, Option.map_map]
    rfl
  rw [← hlayout db', ← hlayout db, h]

theorem inputItem_of_layout (h : db'.layout = db.layout) (i : StageItemInputId) :
    db'.inputItem i = db.inputItem i := by
  have hlayout : ∀ d : Database, d.layout.inputItem i = d.inputItem i := by
    intro d
    unfold Database.inputItem Database.layout
    rw [Table.find?_map, Option.map_map]
    rfl
  rw [← hlayout db', ← hlayout db, h]

theorem isBracket_of_layout (h : db'.layout = db.layout) (k : StageItemId) :
    db'.IsBracket k ↔ db.IsBracket k := by
  have hlayout : ∀ d : Database, d.layout.IsBracket k ↔ d.IsBracket k := by
    intro d
    unfold Database.IsBracket Database.layout
    simp only [Table.find?_map, Option.map_eq_some_iff]
    constructor
    · rintro ⟨_, ⟨row, hrow, rfl⟩, htype⟩
      exact ⟨row, hrow, htype⟩
    · rintro ⟨row, hrow, htype⟩
      exact ⟨_, ⟨row, hrow, rfl⟩, htype⟩
  rw [← hlayout db', ← hlayout db, h]

/-- The layout stays, and the matches are old ones. -/
structure Reseats (db db' : Database) : Prop where
  layout : db'.layout = db.layout
  rows : ∀ m' ∈ db'.matches_.rows, ∃ m, OldMatch db m' m

theorem Reseats.thins (h : Reseats db db') : Thins db db' where
  rows := h.rows
  rounds m' _ _ hk := (roundItem_of_layout h.layout m'.roundId).symm.trans hk
  brackets k _ _ hk := (isBracket_of_layout h.layout k).mp hk
  inputs _ _ _ i _ _ hk := (inputItem_of_layout h.layout i).symm.trans hk

theorem Reseats.refl (db : Database) : Reseats db db := ⟨rfl, (Thins.refl db).rows⟩

theorem Reseats.trans (h : Reseats db db') (h' : Reseats db' db'') : Reseats db db'' :=
  ⟨h'.layout.trans h.layout, (h.thins.trans h'.thins).rows⟩

theorem OldMatch.of_lineup {m m' : MatchRow} (hm : m ∈ db.matches_.rows)
    (h : m'.lineup = m.lineup) : OldMatch db m' m where
  row := hm
  id := by
    have hid : m'.lineup.id = m.lineup.id := by rw [h]
    exact hid
  roundId := by
    have hround : m'.lineup.roundId = m.lineup.roundId := by rw [h]
    exact hround
  source side j hj := by
    have hw : m'.lineup.winnerFrom side = m.lineup.winnerFrom side := by rw [h]
    cases side with
    | one => exact hw.symm.trans hj
    | two => exact hw.symm.trans hj
  input side i hi := by
    have hs : m'.lineup.inputId side = m.lineup.inputId side := by rw [h]
    refine .stored hm ?_
    cases side with
    | one => exact hs.symm.trans hi
    | two => exact hs.symm.trans hi

/-- The matches keep their places. -/
theorem Reseats.of_lineup (h : db'.layout = db.layout) (hrows : db'.lineup = db.lineup) :
    Reseats db db' := by
  refine ⟨h, fun m' hm' => ?_⟩
  have hmem : m'.lineup ∈ db'.lineup.rows := List.mem_map_of_mem hm'
  rw [hrows] at hmem
  obtain ⟨m, hm, e⟩ := List.mem_map.mp hmem
  exact ⟨m, .of_lineup hm e.symm⟩

theorem Reseats.of_untimed (h : db'.untimed = db.untimed) : Reseats db db' :=
  .of_lineup (layout_of_outline (outline_of_untimed h)) (lineup_of_untimed h)

theorem Reseats.scheduleAllMatches (h : scheduleAllMatches db tid = .ok db') : Reseats db db' :=
  .of_untimed (scheduleAllMatches_untimed h)

theorem Reseats.recalculateRanking {E : ExpectedScore} {item : StageItemWithRounds}
    (h : recalculateRankingForStageItem E db tid item = .ok db') : Reseats db db' := by
  refine .of_lineup (layout_of_outline (recalculateRanking_outline h)) ?_
  have hmatches : db'.unscored.lineup = db.unscored.lineup :=
    congrArg Database.lineup (recalculateRanking_unscored h)
  exact hmatches

/-! ## 4. Moving on -/

/-- A match of the bracket, under its id, with inputs that can reach it. -/
structure Carries (db : Database) (k : StageItemId) (j : MatchId) (m : Match) : Prop where
  id : m.id = j
  row : ∃ row, db.InItem k row ∧ row.id = m.id ∧ ∀ side, m.winnerFrom side = row.winnerFrom side
  input : ∀ side, ∀ i ∈ m.input side, Origin db m.id side i.id
  inputId : ∀ side i, m.inputId side = some i → Origin db m.id side i

theorem carries_loaded {row : StageItemRow} {m : Match}
    (hm : m ∈ (loadStageItem db tid row).allMatches) : Carries db row.id m.id m := by
  obtain ⟨mrow, hin, rfl⟩ := mem_loaded_matches.mp hm
  exact ⟨rfl, ⟨mrow, hin, rfl, fun _ => rfl⟩,
    fun side i hi => .stored hin.1 (matchWithInputs_inputId hi), fun side i hi => .stored hin.1 hi⟩

/-- A winner who moves on could reach the next match. -/
theorem Carries.updatedInput {k : StageItemId} (hk : db.IsBracket k) {x : Match}
    (hx : Carries db k x.id x) {d : Dict MatchId Match}
    (hd : ∀ j m, d.get? j = some m → Carries db k j m) (side : Side) :
    ∀ i ∈ updatedInput d x side, Origin db x.id side i.id := by
  intro i hi
  obtain ⟨row, hrow, hid, hsource⟩ := hx.row
  unfold Brackets.updatedInput at hi
  split at hi
  · next m hm =>
    obtain ⟨j, hj, hget⟩ := Option.bind_eq_some_iff.mp hm
    have hcarries := hd j m hget
    obtain ⟨src, hsrc, hsrcid, -⟩ := hcarries.row
    have hfed : ∀ side', Origin db m.id side' i.id → Origin db x.id side i.id := by
      intro side' h
      rw [← hid]
      refine .fed hrow hsrc hk ?_ (hsrcid ▸ h)
      rw [← hsource, hj, hsrcid, hcarries.id]
    unfold Match.getWinner at hi
    split at hi
    · exact hfed .one (hcarries.input .one i hi)
    · split at hi
      · exact hfed .two (hcarries.input .two i hi)
      · cases hi
  · exact hx.input side i hi

/-- What the walk wants to store are inputs that can reach the matches. -/
theorem carries_updates {row : StageItemRow} (hk : db.IsBracket row.id) {roundId : RoundId}
    {matchIds : Option (List MatchId)} {updates : List (MatchId × Match)}
    (h : getInputsToUpdateInSubsequentEliminationRounds roundId (loadStageItem db tid row)
      matchIds = .ok updates) : ∀ e ∈ updates, Carries db row.id e.1 e.2 := by
  obtain ⟨round, hround, h⟩ := bind_eq_ok.mp h
  cases h
  have hmem := List.mem_of_find?_eq_some (orRaise_eq_ok.mp hround)
  intro e he
  refine foldl_propagateTo_invariant _ _ (fun x hx d hd => ?_) (fun j m hj => ?_) e.1 e.2
    ((Dict.get?_eq_some _).mpr (List.mem_filter.mp he).1)
  · obtain ⟨r, hr, hx⟩ := List.mem_flatMap.mp hx
    rw [List.mem_insertionSort] at hr
    have hcarries := carries_loaded (mem_allMatches.mpr ⟨r, (List.mem_filter.mp hr).1, hx⟩)
    have hinput := hcarries.updatedInput hk hd
    refine ⟨rfl, hcarries.row, fun side i hi => ?_, fun side i hi => ?_⟩
    · cases side with
      | one => exact hinput .one i hi
      | two => exact hinput .two i hi
    · cases side with
      | one =>
        obtain ⟨input, hin, rfl⟩ := Option.map_eq_some_iff.mp hi
        exact hinput .one input hin
      | two =>
        obtain ⟨input, hin, rfl⟩ := Option.map_eq_some_iff.mp hi
        exact hinput .two input hin
  · obtain ⟨m0, hm0, e0⟩ := List.mem_map.mp (Dict.mem_of_ofList hj)
    cases e0
    exact carries_loaded (mem_allMatches.mpr ⟨round, hmem, (List.mem_filter.mp hm0).1⟩)

theorem Reseats.setInputIds (h : Reseats db db') {m : Match}
    (hm : ∀ side i, m.inputId side = some i → Origin db m.id side i) :
    Reseats db (setInputIds db' m) where
  layout := h.layout
  rows m' hm' := by
    obtain ⟨n, hn, rfl⟩ := List.mem_map.mp hm'
    obtain ⟨old, hold⟩ := h.rows n hn
    refine ⟨old, ?_⟩
    split
    · next hsel =>
      have hid : n.id = m.id := eq_of_beq (Bool.and_eq_true _ _ |>.mp hsel).2
      refine ⟨hold.row, hold.id, hold.roundId, fun side j hj => hold.source side j ?_,
        fun side i hi => ?_⟩
      · cases side with
        | one => exact hj
        | two => exact hj
      · rw [← hold.id, hid]
        refine hm side i ?_
        cases side with
        | one => exact hi
        | two => exact hi
    · exact hold

theorem Reseats.setAll (h : Reseats db db') {updates : List (MatchId × Match)}
    (hm : ∀ e ∈ updates, ∀ side i, e.2.inputId side = some i → Origin db e.2.id side i) :
    Reseats db (updates.foldl (fun d e => Brackets.setInputIds d e.2) db') := by
  induction updates generalizing db' with
  | nil => exact h
  | cons e updates ih =>
    exact ih (h.setInputIds (hm e List.mem_cons_self)) fun e' he' =>
      hm e' (List.mem_cons_of_mem _ he')

/-- **The winners of a bracket move on to where they could be.** -/
theorem Reseats.moveOn (h : Reseats db db') {row : StageItemRow} (hk : db.IsBracket row.id)
    {roundId : RoundId} {matchIds : Option (List MatchId)}
    (hcall : updateInputsInSubsequentEliminationRounds db' roundId (loadStageItem db tid row)
      matchIds = .ok db'') : Reseats db db'' := by
  obtain ⟨updates, hupdates, hcall⟩ := bind_eq_ok.mp hcall
  cases hcall
  exact h.setAll fun e he => (carries_updates hk hupdates e he).inputId

/-- The statistics are stored anew, and the winners of a bracket move on. -/
theorem Reseats.refresh {E : ExpectedScore} (h : Reseats db db') {row : StageItemRow}
    (hrow : db.stageItems.find? row.id = some row)
    (e : Refresh E db' tid (loadStageItem db tid row) db'') : Reseats db db'' := by
  have hrecalc := h.trans (.recalculateRanking e.recalculation)
  have hpropagation := e.propagation
  split at hpropagation
  · next htype =>
    have hk : db.IsBracket row.id := ⟨row, hrow, htype⟩
    exact foldlM_invariant (P := Reseats db) (fun _ _ _ hd hr => hd.moveOn hk hr) hrecalc
      hpropagation
  · exact Except.ok.inj hpropagation ▸ hrecalc

end Brackets
