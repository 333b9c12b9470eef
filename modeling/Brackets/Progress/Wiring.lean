/-
  File:      Brackets/Progress/Wiring.lean
  Subject:   An elimination stage item in the database, and one score entry in it.

  * `Wired`: the sources of a stage item's matches are matches of its earlier rounds, no match is
    the source of two, and the inputs of its matches are inputs of the stage item;
  * `Settled`: every slot with a source holds the source's winner;
  * `Entry.rewrites`: what a score entry leaves in the rows of the matches;
  * `Entry.wired`, `Entry.settled`: a score entry keeps both.
-/
import Brackets.Library.Network
import Brackets.FullLoad
import Brackets.Ranking.Bracket
import Brackets.Routes.Matches

namespace Brackets

open Library

/-! ## 1. The matches of a stage item -/

/-- The match is one of the stage item. -/
def Database.InItem (db : Database) (k : StageItemId) (m : MatchRow) : Prop :=
  m ∈ db.matches_.rows ∧ db.roundItem m.roundId = some k

/-- The id of an input of the stage item. -/
def KnownInput (db : Database) (tid : TournamentId) (k : StageItemId) (i : StageItemInputId) : Prop :=
  ∃ row, db.stageItemInputs.find? i = some row ∧ row.stageItemId = k ∧ row.tournamentId = tid

structure Wired (db : Database) (tid : TournamentId) (k : StageItemId) : Prop where
  source : ∀ m, db.InItem k m → ∀ side j, m.winnerFrom side = some j →
    ∃ src, db.InItem k src ∧ src.id = j ∧ src.roundId < m.roundId
  reader : ∀ m m', db.InItem k m → db.InItem k m' → ∀ side side' j, m.winnerFrom side = some j →
    m'.winnerFrom side' = some j → m = m'
  known : ∀ m, db.InItem k m → ∀ side i, m.inputId side = some i → KnownInput db tid k i

/-- Every slot with a source holds the source's winner. -/
def Settled (db : Database) (k : StageItemId) : Prop :=
  ∀ m src, db.InItem k m → db.InItem k src → ∀ side, m.winnerFrom side = some src.id →
    m.inputId side = src.winnerId

section Loaded

variable {db : Database} {tid : TournamentId} {item : StageItemRow}

theorem inItem_iff {k : StageItemId} {m : MatchRow} : db.InItem k m ↔
    m ∈ db.matches_.rows ∧ ∃ r ∈ db.rounds.rows, r.stageItemId = k ∧ r.id = m.roundId := by
  unfold Database.InItem Database.roundItem
  refine and_congr_right fun _ => ?_
  rw [Option.map_eq_some_iff]
  constructor
  · rintro ⟨r, hr, hk⟩
    exact ⟨r, db.rounds.mem_of_find? hr, hk, db.rounds.key_of_find? hr⟩
  · rintro ⟨r, hr, hk, hid⟩
    exact ⟨r, hid ▸ db.rounds.find?_key hr, hk⟩

theorem mem_loaded_matches {m : Match} : m ∈ (loadStageItem db tid item).allMatches ↔
    ∃ row, db.InItem item.id row ∧ matchWithInputs (itemInputs db item.id) row = m := by
  rw [mem_allMatches]
  constructor
  · rintro ⟨r, hr, hm⟩
    obtain ⟨rrow, hrrow, hk, rfl⟩ := mem_loaded_rounds.mp hr
    obtain ⟨row, hrow, hround, rfl⟩ := mem_roundWithMatches.mp hm
    exact ⟨row, inItem_iff.mpr ⟨hrow, rrow, hrrow, hk, hround.symm⟩, rfl⟩
  · rintro ⟨row, hin, rfl⟩
    obtain ⟨hrow, rrow, hrrow, hk, hround⟩ := inItem_iff.mp hin
    exact ⟨_, mem_loaded_rounds.mpr ⟨rrow, hrrow, hk, rfl⟩,
      mem_roundWithMatches.mpr ⟨row, hrow, hround.symm, rfl⟩⟩

/-- The input of a match of the stage item, joined. -/
theorem joined_input {m : MatchRow} (hW : Wired db tid item.id) (hm : db.InItem item.id m)
    (side : Side) : m.inputId side =
      ((matchWithInputs (itemInputs db item.id) m).input side).map (·.id) := by
  rw [matchWithInputs_input]
  cases hs : m.inputId side with
  | none => rfl
  | some i =>
      obtain ⟨row, hrow, hk, -⟩ := hW.known m hm side i hs
      rw [Option.bind_some, itemInputs_find?, hrow, Option.filter_some_pos (by simpa using hk)]
      exact congrArg some (db.stageItemInputs.key_of_find? hrow).symm

theorem loaded_matches_distinct :
    ((loadStageItem db tid item).allMatches.map (·.id)).Nodup := by
  refine List.pairwise_map.mpr (List.pairwise_flatMap.mpr ⟨fun r hr => ?_, ?_⟩)
  · obtain ⟨rrow, -, -, rfl⟩ := mem_loaded_rounds.mp hr
    refine List.pairwise_map.mpr ?_
    exact (db.matches_.sorted_filter _).imp fun hlt => ne_of_lt hlt
  · refine List.pairwise_map.mpr ((db.rounds.sorted_filter _).imp fun {r s} hlt a ha b hb e => ?_)
    obtain ⟨ra, hra, hrar, rfl⟩ := mem_roundWithMatches.mp ha
    obtain ⟨rb, hrb, hrbr, rfl⟩ := mem_roundWithMatches.mp hb
    have hab : ra = rb := db.matches_.eq_of_key hra hrb e
    rw [key_round, key_round, ← hrar, ← hrbr, hab] at hlt
    exact lt_irrefl _ hlt

/-- A wired stage item is loaded as an elimination tree. -/
theorem bracket_of_wired (hW : Wired db tid item.id) : Bracket (loadStageItem db tid item) where
  roundOrder := List.pairwise_map.mpr ((db.rounds.sorted_filter _).imp fun h => h)
  inRound := by
    intro r hr m hm
    obtain ⟨rrow, -, -, rfl⟩ := mem_loaded_rounds.mp hr
    obtain ⟨row, -, hround, rfl⟩ := mem_roundWithMatches.mp hm
    exact hround
  distinct := loaded_matches_distinct
  source := by
    intro m hm side j hw
    obtain ⟨row, hin, rfl⟩ := mem_loaded_matches.mp hm
    obtain ⟨src, hsrc, rfl, hlt⟩ := hW.source row hin side j hw
    exact ⟨_, mem_loaded_matches.mpr ⟨src, hsrc, rfl⟩, rfl, hlt⟩
  joined := by
    intro m hm side
    obtain ⟨row, hin, rfl⟩ := mem_loaded_matches.mp hm
    exact joined_input hW hin side

end Loaded

/-! ## 2. Rewriting the rows of a tree -/

/-- The matches of `db'` are those of `db`, rewritten by `f`, up to what planning writes. The
    rewriting keeps ids, rounds and sources. -/
structure Rewrites (db db' : Database) (f : MatchRow → MatchRow) : Prop where
  rounds : db'.rounds = db.rounds
  found : ∀ x, (db'.matches_.find? x).map MatchRow.untimed =
    (db.matches_.find? x).map fun m => (f m).untimed
  id : ∀ m, (f m).id = m.id
  roundId : ∀ m ∈ db.matches_.rows, (f m).roundId = m.roundId
  winnerFrom : ∀ m side, (f m).winnerFrom side = m.winnerFrom side

theorem eq_of_untimed {m m' : MatchRow} (h : m'.untimed = m.untimed) :
    m'.id = m.id ∧ m'.roundId = m.roundId ∧ m'.inputId = m.inputId ∧
      m'.winnerFrom = m.winnerFrom ∧ m'.winnerId = m.winnerId := by
  have h1 : m'.untimed.id = m.untimed.id := by rw [h]
  have h2 : m'.untimed.roundId = m.untimed.roundId := by rw [h]
  have h3 : m'.untimed.inputId = m.untimed.inputId := by rw [h]
  have h4 : m'.untimed.winnerFrom = m.untimed.winnerFrom := by rw [h]
  have h5 : m'.untimed.winnerId = m.untimed.winnerId := by rw [h]
  exact ⟨h1, h2, h3, h4, h5⟩

namespace Rewrites

variable {db db' : Database} {f : MatchRow → MatchRow} (h : Rewrites db db' f)
include h

theorem of_new {k : StageItemId} {m' : MatchRow} (hm : db'.InItem k m') :
    ∃ m, db.InItem k m ∧ m'.untimed = (f m).untimed := by
  have hf := h.found m'.id
  rw [← key_match m', db'.matches_.find?_key hm.1, Option.map_some] at hf
  obtain ⟨m, hm', e⟩ := Option.map_eq_some_iff.mp hf.symm
  have hmem := db.matches_.mem_of_find? hm'
  refine ⟨m, ⟨hmem, ?_⟩, e.symm⟩
  rw [← h.roundId m hmem, ← (eq_of_untimed e.symm).2.1]
  have := hm.2
  rwa [Database.roundItem, h.rounds] at this

theorem of_old {k : StageItemId} {m : MatchRow} (hm : db.InItem k m) :
    ∃ m', db'.InItem k m' ∧ m'.untimed = (f m).untimed := by
  have hf := h.found m.id
  rw [← key_match m, db.matches_.find?_key hm.1, Option.map_some] at hf
  obtain ⟨m', hm', e⟩ := Option.map_eq_some_iff.mp hf
  refine ⟨m', ⟨db'.matches_.mem_of_find? hm', ?_⟩, e⟩
  rw [(eq_of_untimed e).2.1, h.roundId m hm.1, Database.roundItem, h.rounds]
  exact hm.2

/-- A rewritten tree is wired if its inputs are known. -/
theorem wired {tid : TournamentId} {k : StageItemId} (hW : Wired db tid k)
    (hknown : ∀ m, db.InItem k m → ∀ side i, (f m).inputId side = some i → KnownInput db' tid k i) :
    Wired db' tid k where
  source := by
    intro m' hm' side j hw
    obtain ⟨m, hm, e⟩ := h.of_new hm'
    obtain ⟨-, er, -, ew, -⟩ := eq_of_untimed e
    rw [ew, h.winnerFrom] at hw
    obtain ⟨src, hsrc, rfl, hlt⟩ := hW.source m hm side j hw
    obtain ⟨src', hsrc', e'⟩ := h.of_old hsrc
    obtain ⟨ei', er', -⟩ := eq_of_untimed e'
    refine ⟨src', hsrc', ei'.trans (h.id src), ?_⟩
    rwa [er', h.roundId src hsrc.1, er, h.roundId m hm.1]
  reader := by
    intro m1 m2 h1 h2 side side' j hw1 hw2
    obtain ⟨n1, hn1, e1⟩ := h.of_new h1
    obtain ⟨n2, hn2, e2⟩ := h.of_new h2
    obtain ⟨ei1, -, -, ew1, -⟩ := eq_of_untimed e1
    obtain ⟨ei2, -, -, ew2, -⟩ := eq_of_untimed e2
    rw [ew1, h.winnerFrom] at hw1
    rw [ew2, h.winnerFrom] at hw2
    have e12 := hW.reader n1 n2 hn1 hn2 side side' j hw1 hw2
    refine db'.matches_.eq_of_key h1.1 h2.1 ?_
    rw [key_match, key_match, ei1, ei2, h.id, h.id, e12]
  known := by
    intro m' hm' side i hi
    obtain ⟨m, hm, e⟩ := h.of_new hm'
    rw [(eq_of_untimed e).2.2.1] at hi
    exact hknown m hm side i hi

/-- A rewritten tree is settled if the rewritten rows are. -/
theorem settled {k : StageItemId}
    (hset : ∀ m src, db.InItem k m → db.InItem k src → ∀ side, m.winnerFrom side = some src.id →
      (f m).inputId side = (f src).winnerId) : Settled db' k := by
  intro m' src' hm' hsrc' side hw
  obtain ⟨m, hm, e⟩ := h.of_new hm'
  obtain ⟨src, hsrc, e'⟩ := h.of_new hsrc'
  obtain ⟨-, -, ei, ew, -⟩ := eq_of_untimed e
  obtain ⟨eid, -, -, -, ewin⟩ := eq_of_untimed e'
  rw [ew, h.winnerFrom, eid, h.id] at hw
  rw [ei, ewin]
  exact hset m src hm hsrc side hw

end Rewrites

/-! ## 3. The rows after a score entry -/

theorem match_of_bare {db db' : Database} (h : db'.bare = db.bare) (x : MatchId) :
    (db'.matches_.find? x).map MatchRow.untimed = (db.matches_.find? x).map MatchRow.untimed := by
  rw [← db'.bare_match, ← db.bare_match, h]

/-- The database without the matches and without cached results. -/
def Database.frame (db : Database) : Database := { db.unscored with matches_ := .empty }

theorem input_of_frame {db db' : Database} (h : db'.frame = db.frame) (i : StageItemInputId) :
    (db'.stageItemInputs.find? i).map StageItemInputRow.unscored =
      (db.stageItemInputs.find? i).map StageItemInputRow.unscored := by
  have e : db'.frame.stageItemInputs = db.frame.stageItemInputs := by rw [h]
  have e : db'.bare.stageItemInputs = db.bare.stageItemInputs := e
  rw [← db'.bare_input, ← db.bare_input, e]

theorem known_of_frame {db db' : Database} (h : db'.frame = db.frame) {tid : TournamentId}
    {k : StageItemId} {i : StageItemInputId} (hi : KnownInput db tid k i) :
    KnownInput db' tid k i := by
  obtain ⟨row, hrow, hk, ht⟩ := hi
  have hf := input_of_frame h i
  rw [hrow, Option.map_some] at hf
  obtain ⟨row', hrow', e'⟩ := Option.map_eq_some_iff.mp hf
  have h1 : row'.unscored.stageItemId = row.unscored.stageItemId := by rw [e']
  have h2 : row'.unscored.tournamentId = row.unscored.tournamentId := by rw [e']
  exact ⟨row', hrow', h1.trans hk, h2.trans ht⟩

/-- The row of a match after the score of `k` was stored. -/
def scoredRow (k : MatchId) (body : MatchBody) (m : MatchRow) : MatchRow :=
  if m.id == k then { m with
    roundId := body.roundId
    stageItemInput1Score := body.stageItemInput1Score
    stageItemInput2Score := body.stageItemInput2Score
    customDurationMinutes := body.customDurationMinutes
    customMarginMinutes := body.customMarginMinutes } else m

theorem sqlUpdateMatch_find? (db : Database) (k : MatchId) (body : MatchBody) (x : MatchId) :
    (sqlUpdateMatch db k body).matches_.find? x = (db.matches_.find? x).map (scoredRow k body) := by
  unfold sqlUpdateMatch
  rw [Table.find?_update]
  rfl

@[simp] theorem scoredRow_id (k : MatchId) (body : MatchBody) (m : MatchRow) :
    (scoredRow k body m).id = m.id := by
  unfold scoredRow
  split <;> rfl

theorem scoredRow_inputId (k : MatchId) (body : MatchBody) (m : MatchRow) (side : Side) :
    (scoredRow k body m).inputId side = m.inputId side := by
  unfold scoredRow
  split <;> cases side <;> rfl

theorem scoredRow_winnerFrom (k : MatchId) (body : MatchBody) (m : MatchRow) (side : Side) :
    (scoredRow k body m).winnerFrom side = m.winnerFrom side := by
  unfold scoredRow
  split <;> cases side <;> rfl

theorem scoredRow_roundId {k : MatchId} (body : MatchBody) {m : MatchRow} (h : m.id = k) :
    (scoredRow k body m).roundId = body.roundId := by
  rw [scoredRow, if_pos (by simpa using h)]

theorem scoredRow_withInputIds (k : MatchId) (body : MatchBody) (m : MatchRow)
    (ids : Side → Option StageItemInputId) :
    scoredRow k body (m.withInputIds ids) = (scoredRow k body m).withInputIds ids := by
  have hid : (m.withInputIds ids).id = m.id := rfl
  unfold scoredRow
  rw [hid]
  split <;> rfl

theorem scoredRow_of_ne {k : MatchId} (body : MatchBody) {m : MatchRow} (h : m.id ≠ k) :
    scoredRow k body m = m := if_neg (by simpa using h)

/-- The part of a score entry that writes matches: the score is stored, and from the stage item as
    it is loaded then the winners move on. -/
structure Entry (db : Database) (tid : TournamentId) (k : MatchId) (body : MatchBody)
    (db' : Database) where
  row : MatchRow
  round : RoundRow
  item : StageItemRow
  planned : Database
  found : db.matches_.find? k = some row
  ofRound : db.rounds.find? row.roundId = some round
  ofItem : db.stageItems.find? round.stageItemId = some item
  planned_bare : planned.bare = (sqlUpdateMatch db k body).bare
  propagation :
    (if item.type = .singleElimination then
      updateInputsInSubsequentEliminationRounds planned round.id
        (loadStageItem (sqlUpdateMatch db k body) tid item) (some [k])
    else .ok planned) = .ok db'

def ScoreEntry.entry {E : ExpectedScore} {db db' : Database} {tid : TournamentId} {k : MatchId}
    {body : MatchBody} (e : ScoreEntry E db tid k body db') : Entry db tid k body db' where
  row := e.row
  round := e.round
  item := e.item
  planned := e.planned
  found := e.found
  ofRound := e.ofRound
  ofItem := e.ofItem
  planned_bare := by
    rw [bare_of_untimed e.planning, bare_of_unscored (recalculateRanking_unscored e.recalculation)]
  propagation := e.propagation

section Entry

variable {db db' : Database} {tid : TournamentId} {k : MatchId} {body : MatchBody}
  (e : Entry db tid k body db')

/-- The loaded stage item of the entry, with the new score. -/
def Entry.loaded : StageItemWithRounds := loadStageItem (sqlUpdateMatch db k body) tid e.item

/-- The round of the entry as it is loaded with the stage item. -/
def Entry.loadedRound : RoundWithMatches :=
  roundWithMatches (sqlUpdateMatch db k body) (itemInputs (sqlUpdateMatch db k body) e.item.id) e.round

/-- The scored match as it is loaded with the stage item. -/
def Entry.loadedMatch : Match :=
  matchWithInputs (itemInputs (sqlUpdateMatch db k body) e.item.id) (scoredRow k body e.row)

/-- The dictionary of affected matches. -/
def Entry.affected : Dict MatchId Match :=
  Brackets.affected e.loaded e.loadedRound e.loadedMatch

theorem Entry.row_id : e.row.id = k := db.matches_.key_of_find? e.found

theorem Entry.round_id : e.round.id = e.row.roundId := db.rounds.key_of_find? e.ofRound

theorem Entry.item_id : e.item.id = e.round.stageItemId := db.stageItems.key_of_find? e.ofItem

theorem Entry.row_inItem : db.InItem e.item.id e.row := by
  refine ⟨db.matches_.mem_of_find? e.found, ?_⟩
  rw [Database.roundItem, e.ofRound, e.item_id]
  rfl

include e in
/-- A score entry writes matches and cached results only. -/
theorem Entry.frame : db'.frame = db.frame := by
  have hplanned : e.planned.frame = db.frame :=
    congrArg (fun d : Database => { d with matches_ := .empty }) e.planned_bare
  have hprop := e.propagation
  split at hprop
  · obtain ⟨updates, -, hdb⟩ := bind_eq_ok.mp hprop
    have hdb := Except.ok.inj hdb
    have hfold := foldl_project Database.frame
      (fun d (e : MatchId × Match) => setInputIds d e.2) (fun _ _ => rfl) updates e.planned
    rw [hdb] at hfold
    exact hfold.trans hplanned
  · rwa [Except.ok.inj hprop] at hplanned

variable (hround : body.roundId = e.row.roundId)
include hround

theorem Entry.scored_rewrites : Rewrites db (sqlUpdateMatch db k body) (scoredRow k body) where
  rounds := rfl
  found x := by
    rw [sqlUpdateMatch_find?, Option.map_map]
    rfl
  id := scoredRow_id k body
  roundId := by
    intro m hm
    by_cases hk : m.id = k
    · have : m = e.row := db.matches_.eq_of_key hm (db.matches_.mem_of_find? e.found)
        (hk.trans e.row_id.symm)
      rw [this, scoredRow, if_pos (by simpa using e.row_id)]
      exact hround
    · rw [scoredRow_of_ne body hk]
  winnerFrom := scoredRow_winnerFrom k body

theorem Entry.scored_wired (hW : Wired db tid e.item.id) :
    Wired (sqlUpdateMatch db k body) tid e.item.id := by
  refine (e.scored_rewrites hround).wired hW fun m hm side i hi => ?_
  rw [scoredRow_inputId] at hi
  exact hW.known m hm side i hi

omit hround in
theorem Entry.loadedMatch_id : e.loadedMatch.id = k := (scoredRow_id k body e.row).trans e.row_id

omit hround in
theorem Entry.loadedRound_mem : e.loadedRound ∈ e.loaded.rounds :=
  mem_loaded_rounds.mpr ⟨e.round, db.rounds.mem_of_find? e.ofRound, e.item_id.symm, rfl⟩

theorem Entry.loadedMatch_mem : e.loadedMatch ∈ e.loadedRound.matches_ := by
  have hfind := sqlUpdateMatch_find? db k body k
  rw [e.found, Option.map_some] at hfind
  refine mem_roundWithMatches.mpr ⟨_, Table.mem_of_find? _ hfind, ?_, rfl⟩
  rw [(e.scored_rewrites hround).roundId e.row (db.matches_.mem_of_find? e.found), e.round_id]

theorem Entry.bracket (hW : Wired db tid e.item.id) : Bracket e.loaded :=
  bracket_of_wired (e.scored_wired hround hW)

/-- The row of a match after the walk of the entry. -/
def Entry.rowAfter (m : MatchRow) : MatchRow :=
  (scoredRow k body m).withInputIds (slotAfter e.affected (scoredRow k body m))

/-- A loaded match of the entry is its stored row. -/
theorem Entry.loaded_row {m : Match} (hm : m ∈ e.loaded.allMatches) :
    ∃ row, db.InItem e.item.id row ∧
      m = matchWithInputs (itemInputs (sqlUpdateMatch db k body) e.item.id) (scoredRow k body row) := by
  obtain ⟨row, hrow, rfl⟩ := mem_loaded_matches.mp hm
  have hfind := sqlUpdateMatch_find? db k body row.id
  rw [← key_match row, Table.find?_key _ hrow.1] at hfind
  obtain ⟨row0, hrow0, e0⟩ := Option.map_eq_some_iff.mp hfind.symm
  refine ⟨row0, ⟨db.matches_.mem_of_find? hrow0, ?_⟩, by rw [e0]⟩
  rw [← (e.scored_rewrites hround).roundId row0 (db.matches_.mem_of_find? hrow0), e0]
  exact hrow.2

theorem Entry.mem_loaded {row : MatchRow} (hrow : db.InItem e.item.id row) :
    matchWithInputs (itemInputs (sqlUpdateMatch db k body) e.item.id) (scoredRow k body row) ∈
      e.loaded.allMatches := by
  have hfind := sqlUpdateMatch_find? db k body row.id
  rw [← key_match row, db.matches_.find?_key hrow.1, Option.map_some] at hfind
  refine mem_loaded_matches.mpr ⟨_, ⟨Table.mem_of_find? _ hfind, ?_⟩, rfl⟩
  rw [(e.scored_rewrites hround).roundId row hrow.1]
  exact hrow.2

variable (hW : Wired db tid e.item.id)
include hW

/-- The statements of the entry, applied to the scored row of a match. -/
theorem Entry.withUpdate_eq {m : MatchRow} (hm : m ∈ db.matches_.rows) :
    withUpdate (writtenInputs e.loaded e.loadedRound e.loadedMatch) (scoredRow k body m) =
      e.rowAfter m := by
  refine withUpdate_written (e.bracket hround hW) e.loadedRound_mem (e.loadedMatch_mem hround) ?_
  intro a ha hid
  obtain ⟨row, hrow, rfl⟩ := e.loaded_row hround ha
  have hid : row.id = m.id := by simpa [matchWithInputs] using hid
  rw [db.matches_.eq_of_key hrow.1 hm hid]
  rfl

/-- A statement of the entry changes an input. -/
theorem Entry.written_changes {w : MatchId × Match}
    (hw : w ∈ writtenInputs e.loaded e.loadedRound e.loadedMatch) {m : MatchRow}
    (hm : m ∈ db.matches_.rows) (hid : m.id = w.2.id) : w.2.inputId ≠ m.inputId := by
  have hB := e.bracket hround hW
  have hr := e.loadedRound_mem
  have hm0 := e.loadedMatch_mem hround
  intro hsame
  obtain ⟨hget, -, hne⟩ := mem_writtenInputs hB hr hm0 hw
  obtain ⟨x, hx, hlt, hxid⟩ := (affected_dom hB hr hm0 hget).resolve_left hne
  rw [← hxid] at hget
  obtain ⟨heq, side, hdiff⟩ := (affected_later hB hr hm0 hx hlt).written w.2 hget
  have hupdated : w.2.input side = updatedInput e.affected x side := by
    rw [heq]
    cases side <;> rfl
  have hxm : x.inputId side = m.inputId side := by
    obtain ⟨row, hrow, rfl⟩ := e.loaded_row hround hx
    have hrid : row.id = m.id := (scoredRow_id k body row).symm.trans (hxid.trans hid.symm)
    rw [db.matches_.eq_of_key hrow.1 hm hrid]
    exact scoredRow_inputId k body m side
  -- inputs of one load with the same id are the same
  have hP : ∀ a ∈ e.loaded.allMatches, ∀ side, ∀ i ∈ a.input side,
      i ∈ itemInputs (sqlUpdateMatch db k body) e.item.id := by
    intro a ha s i hi
    obtain ⟨row, -, rfl⟩ := e.loaded_row hround ha
    rw [matchWithInputs_input] at hi
    obtain ⟨j, -, hfind⟩ := Option.bind_eq_some_iff.mp hi
    exact List.mem_of_find?_eq_some hfind
  have hids : (x.input side).map (·.id) = (w.2.input side).map (·.id) := by
    rw [← hB.joined x hx side, ← affected_joined hB hr hm0 hget side, hsame, hxm]
  refine hdiff (hupdated ▸ ?_)
  cases hxi : x.input side with
  | none =>
    rw [hxi] at hids
    exact (Option.map_eq_none_iff.mp hids.symm).symm
  | some i =>
    rw [hxi] at hids
    obtain ⟨j, hj, hji⟩ := Option.map_eq_some_iff.mp hids.symm
    have hi := hP x hx side i hxi
    have hj' := affected_inputs hB hr hm0 hP hget side j hj
    rw [hj, List.inj_on_of_nodup_map (itemInputs_nodup _ _) hi hj' hji.symm]

/-- What the entry writes after its read. -/
theorem Entry.updates_eq {updates : List (MatchId × Match)}
    (h : getInputsToUpdateInSubsequentEliminationRounds e.round.id e.loaded (some [k]) =
      .ok updates) : updates = writtenInputs e.loaded e.loadedRound e.loadedMatch := by
  have heq := getInputsToUpdate_eq (e.bracket hround hW) e.loadedRound_mem e.loadedMatch
  rw [e.loadedMatch_id] at heq
  exact Except.ok.inj (h.symm.trans heq)

variable (htype : e.item.type = .singleElimination)
include htype

/-- **What a score entry leaves in the rows of the matches.** -/
theorem Entry.rewrites : Rewrites db db' e.rowAfter := by
  have hprop := e.propagation
  rw [if_pos htype] at hprop
  obtain ⟨updates, hupdates, hdb⟩ := bind_eq_ok.mp hprop
  have hes := e.updates_eq hround hW hupdates
  have hdb := Except.ok.inj hdb
  have hnodup := writtenInputs_nodup (e.bracket hround hW) e.loadedRound_mem
    (e.loadedMatch_mem hround)
  have hfind := foldl_setInputIds_find? updates (hes ▸ hnodup) e.planned
  rw [hdb] at hfind
  have hs := e.scored_rewrites hround
  refine ⟨?_, fun x => ?_, fun m => ?_, fun m hm' => ?_, fun m side => ?_⟩
  · have hframe : db'.frame.rounds = db.frame.rounds := by rw [e.frame]
    exact hframe
  · rw [hfind, Option.map_map]
    have hcomm : MatchRow.untimed ∘ withUpdate updates = withUpdate updates ∘ MatchRow.untimed := by
      funext row
      simp only [Function.comp, withUpdate]
      have hid : row.untimed.id = row.id := rfl
      rw [hid]
      split
      · have hrid : row.untimed.roundId = row.roundId := rfl
        rw [hrid]
        split <;> rfl
      · rfl
    rw [hcomm, ← Option.map_map, match_of_bare e.planned_bare, sqlUpdateMatch_find?, Option.map_map,
      Option.map_map]
    refine Option.map_congr fun row hrow => ?_
    refine (congrFun hcomm (scoredRow k body row)).symm.trans ?_
    rw [Function.comp, hes, e.withUpdate_eq hround hW (db.matches_.mem_of_find? hrow)]
  · exact scoredRow_id k body m
  · exact hs.roundId m hm'
  · exact hs.winnerFrom m side

/-- **A score entry keeps the tree settled.** -/
theorem Entry.settled (hS : Settled db e.item.id) : Settled db' e.item.id := by
  refine (e.rewrites hround hW htype).settled fun m src hm hsrc side hw => ?_
  have hold : ∀ a ∈ e.loaded.allMatches, ∀ side, ∀ b ∈ e.loaded.allMatches,
      a.winnerFrom side = some b.id → b.id ≠ e.loadedMatch.id → a.inputId side = b.winnerId := by
    intro a ha side b hb hab hne
    obtain ⟨ra, hra, rfl⟩ := e.loaded_row hround ha
    obtain ⟨rb, hrb, rfl⟩ := e.loaded_row hround hb
    have hrbk : rb.id ≠ k := fun h => hne (by rw [e.loadedMatch_id]; exact (scoredRow_id ..).trans h)
    have hw : ra.winnerFrom side = some rb.id :=
      (scoredRow_winnerFrom k body ra side).symm.trans (hab.trans (congrArg some (scoredRow_id ..)))
    have hset := hS ra rb hra hrb side hw
    exact (scoredRow_inputId k body ra side).trans
      (hset.trans (congrArg MatchRow.winnerId (scoredRow_of_ne body hrbk).symm))
  have hws : (scoredRow k body m).winnerFrom side = some (scoredRow k body src).id := by
    rw [scoredRow_winnerFrom, scoredRow_id]
    exact hw
  have hwalk := slotAfter_settled (e.bracket hround hW) e.loadedRound_mem (e.loadedMatch_mem hround)
    hold (e.mem_loaded hround hm) (e.mem_loaded hround hsrc) hws
  rw [Entry.rowAfter, MatchRow.inputId_withInputIds]
  exact hwalk

omit htype in
/-- The inputs of a match after the entry are inputs of the stage item. -/
theorem Entry.rowAfter_known {m : MatchRow} (hm : db.InItem e.item.id m) {side : Side}
    {i : StageItemInputId} (hi : (e.rowAfter m).inputId side = some i) :
    KnownInput db tid e.item.id i := by
  have hB := e.bracket hround hW
  rw [Entry.rowAfter, MatchRow.inputId_withInputIds, slotAfter, scoredRow_id] at hi
  cases hd : e.affected.get? m.id with
  | none =>
      rw [hd] at hi
      exact hW.known m hm side i ((scoredRow_inputId k body m side).symm.trans hi)
  | some m' =>
      rw [hd] at hi
      have hjoined := affected_joined hB e.loadedRound_mem (e.loadedMatch_mem hround) hd side
      obtain ⟨input, hinput, rfl⟩ := Option.map_eq_some_iff.mp (hjoined.symm.trans hi)
      have hP : ∀ a ∈ e.loaded.allMatches, ∀ side, ∀ i ∈ a.input side,
          KnownInput db tid e.item.id i.id := by
        intro a ha s i hi
        obtain ⟨row, hrow, rfl⟩ := e.loaded_row hround ha
        refine hW.known row hrow s i.id ?_
        rw [← scoredRow_inputId k body row]
        exact matchWithInputs_inputId hi
      exact affected_inputs hB e.loadedRound_mem (e.loadedMatch_mem hround) hP hd side input hinput

/-- A score entry keeps the tree wired. -/
theorem Entry.wired : Wired db' tid e.item.id :=
  (e.rewrites hround hW htype).wired hW fun _ hm _ _ hi =>
    known_of_frame e.frame (e.rowAfter_known hround hW hm hi)

end Entry

end Brackets
