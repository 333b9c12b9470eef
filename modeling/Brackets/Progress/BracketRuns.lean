/-
  File:      Brackets/Progress/BracketRuns.lean
  Subject:   A built elimination stage item under any sequence of score entries.

  `Tree` is what every sequence keeps: the stage item is wired, settled and can be loaded. The
  wiring makes it a network (`Wired.network`), in which the scored match is the only node that
  sends anything new, so only the matches it feeds change.
-/
import Mathlib.Logic.Relation
import Brackets.Progress.BracketBuild

namespace Brackets

open Library

/-! ## 1. The network of a stage item -/

/-- The source of a slot, for matches of the stage item. -/
def Database.slotSource (db : Database) (k : StageItemId) (x : MatchId) (side : Side) :
    Option MatchId :=
  ((db.matches_.find? x).filter fun m => db.roundItem m.roundId == some k).bind (·.winnerFrom side)

/-- The number of rounds before that of a match. -/
def Database.depth (db : Database) (x : MatchId) : Nat :=
  ((db.matches_.find? x).map fun m => db.rounds.before m.roundId).getD 0

/-- The inputs of a match. -/
def Database.slots (db : Database) (x : MatchId) (side : Side) : Option StageItemInputId :=
  (db.matches_.find? x).bind (·.inputId side)

/-- The winner of a match, given its inputs. -/
def Database.winner (db : Database) (x : MatchId) (ids : Side → Option StageItemInputId) :
    Option StageItemInputId := (db.matches_.find? x).bind (·.winnerOf ids)

section Network

variable {db : Database} {tid : TournamentId} {k : StageItemId}

theorem slotSource_eq_some {x : MatchId} {side : Side} {j : MatchId} :
    db.slotSource k x side = some j ↔ ∃ m, db.InItem k m ∧ m.id = x ∧ m.winnerFrom side = some j := by
  unfold Database.slotSource
  rw [Option.bind_eq_some_iff]
  constructor
  · rintro ⟨m, hm, hw⟩
    obtain ⟨hf, hk⟩ := Option.filter_eq_some_iff.mp hm
    exact ⟨m, ⟨db.matches_.mem_of_find? hf, eq_of_beq hk⟩, db.matches_.key_of_find? hf, hw⟩
  · rintro ⟨m, ⟨hm, hk⟩, rfl, hw⟩
    exact ⟨m, Option.filter_eq_some_iff.mpr ⟨db.matches_.find?_key hm, by simpa using hk⟩, hw⟩

theorem slots_of_mem {m : MatchRow} (hm : m ∈ db.matches_.rows) : db.slots m.id = m.inputId := by
  funext side
  rw [Database.slots, ← key_match m, db.matches_.find?_key hm, Option.bind_some]

theorem winner_of_mem {m : MatchRow} (hm : m ∈ db.matches_.rows) :
    db.winner m.id = m.winnerOf := by
  funext ids
  rw [Database.winner, ← key_match m, db.matches_.find?_key hm, Option.bind_some]

theorem depth_lt {a b : MatchRow} (ha : db.InItem k a) (hb : b ∈ db.matches_.rows)
    (hlt : a.roundId < b.roundId) : db.depth a.id < db.depth b.id := by
  obtain ⟨ham, r, hr, -, hid⟩ := inItem_iff.mp ha
  unfold Database.depth
  rw [← key_match a, db.matches_.find?_key ham, ← key_match b, db.matches_.find?_key hb]
  have hr' : key r = a.roundId := hid
  have h := db.rounds.before_lt hr (hr' ▸ hlt)
  rwa [hr'] at h

/-- **A wired stage item is a network.** -/
def Wired.network (hW : Wired db tid k) : Network MatchId Side where
  source := db.slotSource k
  rank := db.depth
  descends := by
    intro x side y hs
    obtain ⟨m, hm, rfl, hw⟩ := slotSource_eq_some.mp hs
    obtain ⟨src, hsrc, rfl, hlt⟩ := hW.source m hm side y hw
    exact depth_lt hsrc hm.1 hlt

theorem Wired.oneReader (hW : Wired db tid k) : hW.network.OneReader := by
  intro y x x' h h'
  obtain ⟨side, hs⟩ := h
  obtain ⟨side', hs'⟩ := h'
  obtain ⟨m, hm, rfl, hw⟩ := slotSource_eq_some.mp hs
  obtain ⟨m', hm', rfl, hw'⟩ := slotSource_eq_some.mp hs'
  rw [hW.reader m m' hm hm' side side' y hw hw']

theorem Settled.network (hW : Wired db tid k) (hS : Settled db k) :
    hW.network.Settled db.winner db.slots := by
  intro x side y hs
  obtain ⟨m, hm, rfl, hw⟩ := slotSource_eq_some.mp hs
  obtain ⟨src, hsrc, rfl, -⟩ := hW.source m hm side y hw
  rw [slots_of_mem hm.1, slots_of_mem hsrc.1, winner_of_mem hsrc.1]
  exact hS m src hm hsrc side hw

end Network

/-! ## 2. One score entry in the network -/

section Slots

variable {db db' : Database} {f : MatchRow → MatchRow} (h : Rewrites db db' f)
include h

theorem Rewrites.slots (x : MatchId) (side : Side) :
    db'.slots x side = (db.matches_.find? x).bind fun m => (f m).inputId side := by
  have hf := congrArg (Option.bind · (MatchRow.inputId · side)) (h.found x)
  rw [Option.bind_map, Option.bind_map] at hf
  exact hf

theorem Rewrites.winner (x : MatchId) (ids : Side → Option StageItemInputId) :
    db'.winner x ids = (db.matches_.find? x).bind fun m => (f m).winnerOf ids := by
  have hf := congrArg (Option.bind · (MatchRow.winnerOf · ids)) (h.found x)
  rw [Option.bind_map, Option.bind_map] at hf
  exact hf

theorem Rewrites.slotSource (k : StageItemId) (x : MatchId) (side : Side) :
    db'.slotSource k x side = db.slotSource k x side := by
  refine Option.ext fun j => ?_
  rw [slotSource_eq_some, slotSource_eq_some]
  constructor
  · rintro ⟨m', hm', rfl, hw⟩
    obtain ⟨m, hm, e⟩ := h.of_new hm'
    obtain ⟨hid, -, -, hwf, -⟩ := eq_of_untimed e
    exact ⟨m, hm, (hid.trans (h.id m)).symm, by rw [← hw, hwf, h.winnerFrom]⟩
  · rintro ⟨m, hm, rfl, hw⟩
    obtain ⟨m', hm', e⟩ := h.of_old hm
    obtain ⟨hid, -, -, hwf, -⟩ := eq_of_untimed e
    exact ⟨m', hm', hid.trans (h.id m), by rw [← hw, hwf, h.winnerFrom]⟩

end Slots

section Entry

variable {db db' : Database} {tid : TournamentId} {k : MatchId} {body : MatchBody}
  (e : Entry db tid k body db') (hround : body.roundId = e.row.roundId)
  (hW : Wired db tid e.item.id) (htype : e.item.type = .singleElimination)
include hround hW

/-- The walk leaves the slots without a source alone, in this stage item and in all others. -/
theorem Entry.rowAfter_leaf {m : MatchRow} (hm : m ∈ db.matches_.rows) {side : Side}
    (hleaf : db.slotSource e.item.id m.id side = none) :
    (e.rowAfter m).inputId side = m.inputId side := by
  have hB := e.bracket hround hW
  have hr := e.loadedRound_mem
  have hm0 := e.loadedMatch_mem hround
  rw [Entry.rowAfter, MatchRow.inputId_withInputIds]
  by_cases hin : db.InItem e.item.id m
  · have hw : (scoredRow k body m).winnerFrom side = none := by
      rw [scoredRow_winnerFrom]
      cases hw : m.winnerFrom side with
      | none => rfl
      | some j =>
        have hs := slotSource_eq_some.mpr ⟨m, hin, rfl, hw⟩
        rw [hleaf] at hs
        cases hs
    exact (slotAfter_leaf hB hr hm0 (e.mem_loaded hround hin) hw).trans
      (scoredRow_inputId k body m side)
  · have hno : e.affected.get? (scoredRow k body m).id = none := by
      cases hd : e.affected.get? (scoredRow k body m).id with
      | none => rfl
      | some m' =>
        have hloaded : ∃ a ∈ e.loaded.allMatches, a.id = (scoredRow k body m).id := by
          rcases affected_dom hB hr hm0 hd with h0 | ⟨a, ha, -, hid⟩
          · exact ⟨_, m0_mem hr hm0, h0.symm⟩
          · exact ⟨a, ha, hid⟩
        obtain ⟨a, ha, hid⟩ := hloaded
        obtain ⟨row, hrow, rfl⟩ := e.loaded_row hround ha
        have hid : row.id = m.id := (scoredRow_id k body row).symm.trans
          (hid.trans (scoredRow_id k body m))
        exact absurd (db.matches_.eq_of_key hrow.1 hm hid ▸ hrow) hin
    rw [slotAfter, hno]
    exact scoredRow_inputId k body m side

include htype

theorem Entry.sameLeaves : hW.network.SameLeaves db.slots db'.slots := by
  intro x side hleaf
  rw [(e.rewrites hround hW htype).slots, Database.slots]
  cases hx : db.matches_.find? x with
  | none => rfl
  | some m =>
    have hid : m.id = x := db.matches_.key_of_find? hx
    exact (e.rowAfter_leaf hround hW (db.matches_.mem_of_find? hx) (hid ▸ hleaf)).symm

theorem Entry.winner_of_ne {y : MatchId} (hy : y ≠ k) : db'.winner y = db.winner y := by
  funext ids
  rw [(e.rewrites hround hW htype).winner, Database.winner]
  cases hm : db.matches_.find? y with
  | none => rfl
  | some m =>
    have hid : m.id = y := db.matches_.key_of_find? hm
    have hrow := scoredRow_of_ne body (hid.trans_ne hy)
    rw [Option.bind_some, Option.bind_some, Entry.rowAfter, hrow]
    rfl

/-- The state after an entry, in the network of the state before it. -/
theorem Entry.settled_network (hS : Settled db e.item.id) :
    hW.network.Settled db'.winner db'.slots := by
  have hW' := e.wired hround hW htype
  intro x side y hs
  refine (e.settled hround hW htype hS).network hW' x side y ?_
  exact ((e.rewrites hround hW htype).slotSource e.item.id x side).trans hs

/-- **A score entry changes the slots of the matches that the scored match feeds, and no
    others.** -/
theorem Entry.changed_feeds (hS : Settled db e.item.id) {x : MatchId}
    (hx : ¬ hW.network.Feeds k x) : db'.slots x = db.slots x :=
  Network.changed_feeds (hS.network hW) (e.settled_network hround hW htype hS)
    (e.sameLeaves hround hW htype) (fun _ hy => e.winner_of_ne hround hW htype hy) x hx

/-- The scored match keeps its own inputs. -/
theorem Entry.own_slots (hS : Settled db e.item.id) : db'.slots k = db.slots k :=
  e.changed_feeds hround hW htype hS fun h => Nat.lt_irrefl _ (Network.feeds_rank h)

end Entry

/-! ## 3. Runs of score entries -/

/-- What every sequence of score entries keeps. -/
structure Tree (db : Database) (tid : TournamentId) (row : StageItemRow) : Prop where
  wired : Wired db tid row.id
  settled : Settled db row.id
  found : db.stageItems.find? row.id = some row
  ofTournament : db.stageItemTournament row.id = some tid
  type : row.type = .singleElimination
  inputs : ∀ i ∈ (loadStageItem db tid row).inputs, i.valid

/-- A request that scores the match `x` of the stage item `k`, keeping its round. -/
def ScoresMatch (E : ExpectedScore) (tid : TournamentId) (k : StageItemId) (x : MatchId)
    (db db' : Database) : Prop :=
  ∃ m body, db.InItem k m ∧ m.id = x ∧ body.roundId = m.roundId ∧
    db' = Outcome.settle db (updateMatchById E db tid x body)

/-- A request that scores some match of the stage item. -/
def Scores (E : ExpectedScore) (tid : TournamentId) (k : StageItemId) (db db' : Database) : Prop :=
  ∃ x, ScoresMatch E tid k x db db'

theorem valid_withTeam {db db' : Database} {i i' : StageItemInputRow}
    (hi : i'.unscored = i.unscored) (ht : db'.teams = db.teams) :
    (withTeam db' i').valid = (withTeam db i).valid := by
  have h1 : i'.unscored.teamId = i.unscored.teamId := by rw [hi]
  have h2 : i'.unscored.winnerFromStageItemId = i.unscored.winnerFromStageItemId := by rw [hi]
  have h3 : i'.unscored.winnerPosition = i.unscored.winnerPosition := by rw [hi]
  have h1 : i'.teamId = i.teamId := h1
  have h2 : i'.winnerFromStageItemId = i.winnerFromStageItemId := h2
  have h3 : i'.winnerPosition = i.winnerPosition := h3
  simp only [withTeam, StageItemInput.valid, h1, h2, h3, ht]

theorem row_of_frame {db db' : Database} (h : db'.frame = db.frame) {i' : StageItemInputRow}
    (hi : i' ∈ db'.stageItemInputs.rows) :
    ∃ i ∈ db.stageItemInputs.rows, i'.unscored = i.unscored := by
  have hf := input_of_frame h i'.id
  rw [← key_input i', db'.stageItemInputs.find?_key hi, Option.map_some] at hf
  obtain ⟨i, hfound, e⟩ := Option.map_eq_some_iff.mp hf.symm
  exact ⟨i, db.stageItemInputs.mem_of_find? hfound, e.symm⟩

theorem stageItemTournament_of_frame {db db' : Database} (h : db'.frame = db.frame)
    (k : StageItemId) : db'.stageItemTournament k = db.stageItemTournament k := by
  have h1 : db'.frame.stageItemTournament k = db.frame.stageItemTournament k := by rw [h]
  exact h1

section Tree

variable {E : ExpectedScore} {db db' : Database} {tid : TournamentId} {row : StageItemRow}

/-- A stage item loads if the program accepts its inputs and those of its matches. -/
theorem loadStageItem_valid_iff : (loadStageItem db tid row).valid ↔
    (∀ i ∈ (loadStageItem db tid row).inputs, i.valid) ∧ ∀ m, db.InItem row.id m → ∀ side i,
      (matchWithInputs (itemInputs db row.id) m).input side = some i → i.valid := by
  rw [StageItemWithRounds.valid, Bool.and_eq_true, List.all_eq_true]
  refine and_congr_right fun _ => ?_
  constructor
  · intro h m hm side i hi
    obtain ⟨r, hr, hmem⟩ := mem_allMatches.mp (mem_loaded_matches.mpr ⟨m, hm, rfl⟩)
    have hvalid := List.all_eq_true.mp (List.all_eq_true.mp h r hr) _ hmem
    rw [Match.valid, Bool.and_eq_true, Option.all_eq_true, Option.all_eq_true] at hvalid
    cases side with
    | one => exact hvalid.1 i hi
    | two => exact hvalid.2 i hi
  · intro h
    refine List.all_eq_true.mpr fun r hr => List.all_eq_true.mpr fun m hm => ?_
    obtain ⟨mrow, hin, rfl⟩ := mem_loaded_matches.mp (mem_allMatches.mpr ⟨r, hr, hm⟩)
    refine Bool.and_eq_true_iff.mpr ⟨?_, ?_⟩
    · exact (Option.all_eq_true _ _).mpr fun i hi => h mrow hin .one i hi
    · exact (Option.all_eq_true _ _).mpr fun i hi => h mrow hin .two i hi

/-- The stage item of the tree can be loaded. -/
theorem Tree.loads (hT : Tree db tid row) :
    getStageItem db tid row.id = .ok (loadStageItem db tid row) := by
  refine getStageItem_eq_ok.mpr ⟨row, hT.found, hT.ofTournament, rfl, ?_⟩
  refine loadStageItem_valid_iff.mpr ⟨hT.inputs, fun m hm side i hi => ?_⟩
  obtain ⟨irow, hirow, hk, ht⟩ := hT.wired.known m hm side i.id (matchWithInputs_inputId hi)
  have hin : withTeam db irow ∈ (loadStageItem db tid row).inputs :=
    mem_loaded_inputs.mpr ⟨irow, db.stageItemInputs.mem_of_find? hirow, hk, ht, rfl⟩
  have hfind : (itemInputs db row.id).find? (fun input => input.id == i.id) = _ :=
    itemInputs_find? row.id i.id
  rw [hirow, Option.filter_some_pos (by simpa using hk), Option.map_some] at hfind
  have hid := matchWithInputs_inputId hi
  rw [matchWithInputs_input, hid, Option.bind_some, hfind] at hi
  rw [← Option.some.inj hi]
  exact hT.inputs _ hin

/-- An accepted entry on a match of the tree is one in its stage item. -/
theorem Tree.entry_item (hT : Tree db tid row) {m : MatchRow} {body : MatchBody}
    (hm : db.InItem row.id m) (e : Entry db tid m.id body db') :
    e.row = m ∧ e.item = row := by
  have hrow : e.row = m := db.matches_.eq_of_key (db.matches_.mem_of_find? e.found) hm.1 e.row_id
  have hin := e.row_inItem.2
  have hk := hm.2
  rw [hrow, hk] at hin
  have hid : row.id = e.item.id := Option.some.inj hin
  have hfound := hT.found
  rw [hid, ← key_stageItem e.item] at hfound
  rw [db.stageItems.find?_key (db.stageItems.mem_of_find? e.ofItem)] at hfound
  exact ⟨hrow, Option.some.inj hfound⟩

/-- A wired and settled state that differs in matches and cached results only. -/
theorem Tree.of_frame (hT : Tree db tid row) (hframe : db'.frame = db.frame)
    (hW : Wired db' tid row.id) (hS : Settled db' row.id) : Tree db' tid row := by
  have hitems : db'.frame.stageItems = db.frame.stageItems := by rw [hframe]
  have hteams : db'.frame.teams = db.frame.teams := by rw [hframe]
  have hitems : db'.stageItems = db.stageItems := hitems
  have hteams : db'.teams = db.teams := hteams
  refine ⟨hW, hS, ?_, ?_, hT.type, ?_⟩
  · rw [hitems]
    exact hT.found
  · rw [stageItemTournament_of_frame hframe]
    exact hT.ofTournament
  · intro i hi
    obtain ⟨irow', hirow', hk, ht, rfl⟩ := mem_loaded_inputs.mp hi
    obtain ⟨irow, hirow, e'⟩ := row_of_frame hframe hirow'
    have h1 : irow'.unscored.stageItemId = irow.unscored.stageItemId := by rw [e']
    have h2 : irow'.unscored.tournamentId = irow.unscored.tournamentId := by rw [e']
    rw [valid_withTeam e' hteams]
    exact hT.inputs _ (mem_loaded_inputs.mpr ⟨irow, hirow, h1.symm.trans hk, h2.symm.trans ht, rfl⟩)

/-- **An accepted score entry keeps the tree.** -/
theorem Tree.step (hT : Tree db tid row) {m : MatchRow} {body : MatchBody}
    (hm : db.InItem row.id m) (hround : body.roundId = m.roundId)
    (e : Entry db tid m.id body db') : Tree db' tid row := by
  obtain ⟨hrow, rfl⟩ := hT.entry_item hm e
  rw [← hrow] at hround
  exact hT.of_frame e.frame (e.wired hround hT.wired hT.type)
    (e.settled hround hT.wired hT.type hT.settled)

/-- A request on a match of the tree either was refused or is an accepted entry. -/
theorem ScoresMatch.cases {x : MatchId} (h : ScoresMatch E tid row.id x db db') :
    db' = db ∨ ∃ m body, db.InItem row.id m ∧ m.id = x ∧ body.roundId = m.roundId ∧
      Nonempty (Entry db tid m.id body db') := by
  obtain ⟨m, body, hm, rfl, hround, rfl⟩ := h
  cases hupdate : updateMatchById E db tid m.id body with
  | error e => exact Or.inl rfl
  | ok db' =>
    obtain ⟨e⟩ := updateMatchById_ok hupdate
    exact Or.inr ⟨m, body, hm, rfl, hround, ⟨e.entry⟩⟩

/-- **Every sequence of score entries keeps the tree.** -/
theorem Tree.run (hT : Tree db tid row) (h : Relation.ReflTransGen (Scores E tid row.id) db db') :
    Tree db' tid row := by
  induction h with
  | refl => exact hT
  | tail _ hstep ih =>
    obtain ⟨x, hx⟩ := hstep
    rcases hx.cases with rfl | ⟨m, body, hm, -, hround, ⟨e⟩⟩
    · exact ih
    · exact ih.step hm hround e

end Tree

/-! ## 4. From the construction on -/

/-- `a` is the source of a slot of `b`. -/
def Database.Reads (db : Database) (k : StageItemId) (a b : MatchId) : Prop :=
  ∃ m, db.InItem k m ∧ m.id = b ∧ ∃ side, m.winnerFrom side = some a

/-- `b` is reached from `a` along the sources. -/
def Database.Feeds (db : Database) (k : StageItemId) : MatchId → MatchId → Prop :=
  Relation.TransGen (db.Reads k)

/-- In the stage item as it is stored, every slot with a source has the id of its winner. -/
def WinnersMovedOn (db : Database) (tid : TournamentId) (k : StageItemId) : Prop :=
  ∃ item, getStageItem db tid k = .ok item ∧ ∀ m ∈ item.allMatches, ∀ side j,
    m.winnerFrom side = some j → ∃ src ∈ item.allMatches, src.id = j ∧ src.roundId < m.roundId ∧
      m.inputId side = src.getWinner.map (·.id)

/-- Between two states, the inputs of a match change only if `x` feeds it. -/
def ChangesOnlyFed (db db' : Database) (k : StageItemId) (x : MatchId) : Prop :=
  ∀ m ∈ db.matches_.rows, ∃ m', db'.matches_.find? m.id = some m' ∧
    (m'.inputId ≠ m.inputId → db.Feeds k x m.id)

/-- The matches that `x` feeds are one in each of some later rounds. -/
def FeedsOnePerRound (db : Database) (k : StageItemId) (x : MatchId) : Prop :=
  ∀ a, db.InItem k a → db.Feeds k x a.id →
    (∀ m, db.InItem k m → m.id = x → m.roundId < a.roundId) ∧
    ∀ b, db.InItem k b → db.Feeds k x b.id → b.roundId = a.roundId → b = a

section Claims

variable {E : ExpectedScore} {db db' : Database} {tid : TournamentId} {row : StageItemRow}

theorem reads_iff {k : StageItemId} (hW : Wired db tid k) {a b : MatchId} :
    db.Reads k a b ↔ hW.network.Reads a b := by
  constructor
  · rintro ⟨m, hm, rfl, side, hw⟩
    exact ⟨side, slotSource_eq_some.mpr ⟨m, hm, rfl, hw⟩⟩
  · rintro ⟨side, hs⟩
    obtain ⟨m, hm, hid, hw⟩ := slotSource_eq_some.mp hs
    exact ⟨m, hm, hid, side, hw⟩

theorem feeds_iff {k : StageItemId} (hW : Wired db tid k) {a b : MatchId} :
    db.Feeds k a b ↔ hW.network.Feeds a b := by
  have e : db.Reads k = hW.network.Reads := funext fun _ => funext fun _ => propext (reads_iff hW)
  rw [Database.Feeds, e]
  rfl

theorem Tree.winnersMovedOn (hT : Tree db tid row) : WinnersMovedOn db tid row.id := by
  have hB := bracket_of_wired hT.wired
  refine ⟨_, hT.loads, fun m hm side j hw => ?_⟩
  obtain ⟨src, hsrc, hid, hlt⟩ := hB.source m hm side j hw
  refine ⟨src, hsrc, hid, hlt, ?_⟩
  rw [getWinner_id (hB.joined src hsrc)]
  obtain ⟨mrow, hin, rfl⟩ := mem_loaded_matches.mp hm
  obtain ⟨srow, hsin, rfl⟩ := mem_loaded_matches.mp hsrc
  exact hT.settled mrow srow hin hsin side (hw.trans (congrArg some hid.symm))

theorem Wired.feeds_later {k : StageItemId} (hW : Wired db tid k) {x y : MatchId}
    (h : db.Feeds k x y) : ∀ m a, db.InItem k m → m.id = x → db.InItem k a → a.id = y →
      m.roundId < a.roundId := by
  induction h with
  | single hr =>
    rintro m a hm rfl ha rfl
    obtain ⟨a', ha', hid, side, hw⟩ := hr
    obtain ⟨src, hsrc, hsid, hlt⟩ := hW.source a' ha' side m.id hw
    rwa [db.matches_.eq_of_key hsrc.1 hm.1 hsid, db.matches_.eq_of_key ha'.1 ha.1 hid] at hlt
  | tail _ hr ih =>
    rintro m a hm rfl ha rfl
    obtain ⟨a', ha', hid, side, hw⟩ := hr
    obtain ⟨src, hsrc, hsid, hlt⟩ := hW.source a' ha' side _ hw
    rw [db.matches_.eq_of_key ha'.1 ha.1 hid] at hlt
    exact (ih m src hm rfl hsrc hsid).trans hlt

theorem Tree.feedsOnePerRound (hT : Tree db tid row) (x : MatchId) :
    FeedsOnePerRound db row.id x := by
  refine fun a ha hxa => ⟨fun m hm hid => hT.wired.feeds_later hxa m a hm hid ha rfl, ?_⟩
  intro b hb hxb hround
  refine db.matches_.eq_of_key hb.1 ha.1 ?_
  refine Network.feeds_same_rank hT.wired.oneReader ((feeds_iff hT.wired).mp hxb)
    ((feeds_iff hT.wired).mp hxa) ?_
  show db.depth b.id = db.depth a.id
  unfold Database.depth
  rw [← key_match b, db.matches_.find?_key hb.1, ← key_match a, db.matches_.find?_key ha.1,
    Option.map_some, Option.map_some, hround]

theorem Tree.changesOnlyFed (hT : Tree db tid row) {x : MatchId}
    (h : ScoresMatch E tid row.id x db db') : ChangesOnlyFed db db' row.id x := by
  intro a ha
  rcases h.cases with rfl | ⟨m, body, hm, rfl, hround, ⟨e⟩⟩
  · exact ⟨a, db'.matches_.find?_key ha, fun hne => absurd rfl hne⟩
  · obtain ⟨hrow, rfl⟩ := hT.entry_item hm e
    rw [← hrow] at hround
    have hfound := (e.rewrites hround hT.wired hT.type).found a.id
    rw [← key_match a, db.matches_.find?_key ha, Option.map_some] at hfound
    obtain ⟨a', ha', -⟩ := Option.map_eq_some_iff.mp hfound
    refine ⟨a', ha', fun hne => by_contra fun hno => hne ?_⟩
    have hslots := e.changed_feeds hround hT.wired hT.type hT.settled
      (fun hf => hno ((feeds_iff hT.wired).mpr hf))
    rw [slots_of_mem ha] at hslots
    have hid : a'.id = a.id := db'.matches_.key_of_find? ha'
    rw [← hslots, ← hid, slots_of_mem (db'.matches_.mem_of_find? ha')]

/-- A freshly built tree. -/
theorem tree_of_built {built : Database}
    (hitem : getStageItem db tid row.id = .ok (loadStageItem db tid row))
    (hfound : db.stageItems.find? row.id = some row) (htype : row.type = .singleElimination)
    (hW : Wired built tid row.id) (hU : Unplayed built row.id)
    (hframe : { built with matches_ := db.matches_ } = db) : Tree built tid row := by
  obtain ⟨row', hrow', hT, -, hv⟩ := getStageItem_eq_ok.mp hitem
  have hitems : ({ built with matches_ := db.matches_ } : Database).stageItems = db.stageItems := by
    rw [hframe]
  have htour : ({ built with matches_ := db.matches_ } : Database).stageItemTournament row.id =
      db.stageItemTournament row.id := by rw [hframe]
  have hinputs : (loadStageItem { built with matches_ := db.matches_ } tid row).inputs =
      (loadStageItem db tid row).inputs := by rw [hframe]
  refine ⟨hW, hU.settled, ?_, htour.trans hT, htype, ?_⟩
  · exact (congrArg (·.find? row.id) hitems).trans hfound
  · intro i hi
    have hmem : i ∈ (loadStageItem db tid row).inputs := hinputs ▸ hi
    exact List.all_eq_true.mp (Bool.and_eq_true_iff.mp hv).1 i hmem

/-- **A single elimination stage item under any sequence of score entries.** It is built from
    `2 ^ n` inputs; after every request each slot with a source holds its winner, and a request
    changes the inputs only of matches that the scored match feeds, one per later round. -/
theorem eliminationTree_winnersMovedOn {k : StageItemId} {item : StageItemWithRounds}
    {tournament : TournamentRow} {n : Nat} (hitem : getStageItem db tid k = .ok item)
    (htype : item.type = .singleElimination) (ht : db.tournaments.find? tid = some tournament)
    (hfresh : Fresh item n) (hn : 1 ≤ n) :
    ∃ built, buildSingleEliminationStageItem db tid item = .ok built ∧
      ∀ db', Relation.ReflTransGen (Scores E tid k) built db' →
        WinnersMovedOn db' tid k ∧ ∀ x, FeedsOnePerRound db' k x ∧
          ∀ db'', ScoresMatch E tid k x db' db'' → ChangesOnlyFed db' db'' k x := by
  obtain ⟨built, hbuilt, hW, hU, hframe⟩ := buildSingleElimination_ok hitem ht hfresh hn
  obtain ⟨row, hrow, -, rfl, -⟩ := getStageItem_eq_ok.mp hitem
  obtain rfl : row.id = k := db.stageItems.key_of_find? hrow
  refine ⟨built, hbuilt, fun db' hrun => ?_⟩
  have hT := (tree_of_built hitem hrow htype hW hU hframe).run hrun
  exact ⟨hT.winnersMovedOn, fun x => ⟨hT.feedsOnePerRound x, fun db'' h => hT.changesOnlyFed h⟩⟩

end Claims

/-! ## 4. Entries one after the other -/

section Entries

variable {E : ExpectedScore} {tid : TournamentId} {k : StageItemId}

/-- The state after score entries, one after the other. -/
def enterScores (E : ExpectedScore) (tid : TournamentId) (db : Database)
    (entries : List (MatchId × MatchBody)) : Database :=
  entries.foldl (fun db e => Outcome.settle db (updateMatchById E db tid e.1 e.2)) db

/-- The match is one of the stage item, and the entry leaves it in its round. -/
def Database.keepsRound (db : Database) (k : StageItemId) (e : MatchId × MatchBody) : Prop :=
  ∃ m ∈ db.matches_.rows, db.roundItem m.roundId = some k ∧ m.id = e.1 ∧ e.2.roundId = m.roundId

instance (db : Database) (k : StageItemId) (e : MatchId × MatchBody) :
    Decidable (db.keepsRound k e) :=
  inferInstanceAs (Decidable (∃ m ∈ db.matches_.rows, _))

/-- Every entry does so in the state it meets. -/
def keepRounds (E : ExpectedScore) (tid : TournamentId) (k : StageItemId) :
    Database → List (MatchId × MatchBody) → Bool
  | _, [] => true
  | db, e :: entries => decide (db.keepsRound k e) &&
      keepRounds E tid k (Outcome.settle db (updateMatchById E db tid e.1 e.2)) entries

theorem scoresMatch_of_keepsRound {db : Database} {e : MatchId × MatchBody}
    (h : db.keepsRound k e) :
    ScoresMatch E tid k e.1 db (Outcome.settle db (updateMatchById E db tid e.1 e.2)) := by
  obtain ⟨m, hm, hk, hid, hround⟩ := h
  exact ⟨m, e.2, ⟨hm, hk⟩, hid, hround, rfl⟩

theorem scores_enterScores {entries : List (MatchId × MatchBody)} {db : Database}
    (h : keepRounds E tid k db entries = true) :
    Relation.ReflTransGen (Scores E tid k) db (enterScores E tid db entries) := by
  induction entries generalizing db with
  | nil => exact .refl
  | cons e entries ih =>
    obtain ⟨hkeeps, hrest⟩ := Bool.and_eq_true_iff.mp h
    have hfirst := @scoresMatch_of_keepsRound E tid k db e (of_decide_eq_true hkeeps)
    exact .head ⟨e.1, hfirst⟩ (ih hrest)

end Entries

/-! ### A cup of four -/

def cupItem : StageItemRow := ⟨1, "Cup", 1, 4, 1, .singleElimination⟩

def cupInput (k : Int) : StageItemInputRow := ⟨k, k, 1, 1, some k, none, none, 0, 0, 0, 0⟩

def cupTeam (k : Int) : TeamRow := ⟨k, "Team " ++ toString k, 1, true, none⟩

/-- Four teams in a cup whose matches are not built yet. -/
def cup : Database :=
  { Database.empty with
    tournaments := oneTournament
    stages := oneStage
    stageItems := ⟨[cupItem], 2, by decide, by decide⟩
    stageItemInputs := ⟨[1, 2, 3, 4].map cupInput, 5, by decide, by decide⟩
    rankings := ⟨[⟨1, 1, 1, 3, 1, 0, false⟩], 2, by decide, by decide⟩
    rounds := twoRounds
    teams := ⟨[1, 2, 3, 4].map cupTeam, 5, by decide, by decide⟩ }

theorem cup_loads : getStageItem cup 1 1 = .ok (loadStageItem cup 1 cupItem) :=
  getStageItem_eq_ok.mpr ⟨cupItem, rfl, rfl, rfl, by decide⟩

theorem cup_fresh : Fresh (loadStageItem cup 1 cupItem) 2 := ⟨by decide, by decide, by decide⟩

def cupMatch (k r : Int) (input1 input2 source1 source2 : Option Int) : MatchRow :=
  ⟨k, none, 10, 5, none, none, r, input1, input2, false, false, source1, source2, 0, 0⟩

/-- The cup of four with its matches: two semifinals and the final. -/
def cupBuilt : Database :=
  { cup with
    matches_ := ⟨[cupMatch 1 1 (some 1) (some 2) none none, cupMatch 2 1 (some 3) (some 4) none none,
      cupMatch 3 2 none none (some 1) (some 2)], 4, by decide, by decide⟩ }

theorem cupBuilt_eq :
    buildSingleEliminationStageItem cup 1 (loadStageItem cup 1 cupItem) = .ok cupBuilt := rfl

def evenExpectation : ExpectedScore := fun _ => some (1 / 2)

def cupBody (r : Int) (score1 score2 : Nat) : MatchBody where
  roundId := r
  stageItemInput1Score := score1
  stageItemInput2Score := score2

/-- Both semifinals and the final are played. -/
def cupEntries : List (MatchId × MatchBody) :=
  [(1, cupBody 1 2 0), (2, cupBody 1 0 1), (3, cupBody 2 1 0)]

/-- Then the first semifinal is corrected, and the other team has won it. -/
def cupCorrection : MatchId × MatchBody := (1, cupBody 1 0 1)

def cupPlayed : Database := enterScores evenExpectation 1 cupBuilt cupEntries

def cupCorrected : Database := enterScores evenExpectation 1 cupPlayed [cupCorrection]

theorem cupPlayed_run :
    Relation.ReflTransGen (Scores evenExpectation 1 1) cupBuilt cupPlayed :=
  scores_enterScores (by decide +kernel)

theorem cupCorrected_scores : ScoresMatch evenExpectation 1 1 1 cupPlayed cupCorrected :=
  @scoresMatch_of_keepsRound _ _ _ _ cupCorrection (by decide +kernel)

theorem cupCorrected_run :
    Relation.ReflTransGen (Scores evenExpectation 1 1) cupBuilt cupCorrected :=
  cupPlayed_run.tail ⟨1, cupCorrected_scores⟩

/-- The two who are in the final. -/
def finalists (db : Database) : Option (Option StageItemInputId × Option StageItemInputId) :=
  (db.matches_.find? 3).map fun m => (m.stageItemInput1Id, m.stageItemInput2Id)

/-- The correction of a semifinal after the final puts the other team there. -/
theorem cup_winnersMovedOn : buildSingleEliminationStageItem cup 1 (loadStageItem cup 1 cupItem) =
      .ok cupBuilt ∧
    Relation.ReflTransGen (Scores evenExpectation 1 1) cupBuilt cupPlayed ∧
    ScoresMatch evenExpectation 1 1 1 cupPlayed cupCorrected ∧
    finalists cupPlayed = some (some 1, some 4) ∧ finalists cupCorrected = some (some 2, some 4) ∧
    WinnersMovedOn cupPlayed 1 1 ∧ WinnersMovedOn cupCorrected 1 1 ∧
    FeedsOnePerRound cupPlayed 1 1 ∧ ChangesOnlyFed cupPlayed cupCorrected 1 1 := by
  obtain ⟨built, hbuilt, hruns⟩ := @eliminationTree_winnersMovedOn evenExpectation cup 1 1 _ _ 2
    cup_loads rfl rfl cup_fresh (by decide)
  obtain rfl : cupBuilt = built := Except.ok.inj (cupBuilt_eq.symm.trans hbuilt)
  obtain ⟨hplayed, hfed⟩ := hruns cupPlayed cupPlayed_run
  obtain ⟨hfeeds, hchanges⟩ := hfed 1
  have hcorrected := (hruns cupCorrected cupCorrected_run).1
  exact ⟨hbuilt, cupPlayed_run, cupCorrected_scores, by decide +kernel, by decide +kernel, hplayed,
    hcorrected, hfeeds, hchanges cupCorrected cupCorrected_scores⟩

end Brackets
