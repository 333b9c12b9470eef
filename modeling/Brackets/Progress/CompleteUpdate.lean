/-
  File:      Brackets/Progress/CompleteUpdate.lean
  Subject:   `update_inputs_in_complete_elimination_stage_item` writes back what was loaded.

  The walk that starts with all matches of a round writes these, too, with the inputs they were
  loaded with, and then only matches of later rounds. So after the walks of all rounds every match
  has again the inputs it was loaded with (`Pending.step`, `updateInputsInComplete_same`), and the
  slots follow their sources afterwards just if they did before:
  `updateInputsInComplete_follow_iff`.
-/
import Brackets.Planning.Conflicts
import Brackets.Progress.BracketRuns

namespace Brackets

open Library

/-! ## 1. The walk from a whole round -/

/-- The dictionary at the end of the walk from a round. -/
def affectedByRound (item : StageItemWithRounds) (round : RoundWithMatches) : Dict MatchId Match :=
  (subsequentMatches item round.id).foldl propagateTo (affectedAtStart round none)

/-- The rounds are in order, and their matches are the rows of the table. -/
structure Snapshot (matches_ : Table MatchRow) (item : StageItemWithRounds) : Prop where
  roundOrder : item.rounds.Pairwise fun r s => r.id < s.id
  rows : ∀ r ∈ item.rounds, ∀ m ∈ r.matches_, m.roundId = r.id ∧ m.toMatchRow ∈ matches_.rows
  listed : ∀ r ∈ item.rounds, ∀ row ∈ matches_.rows, row.roundId = r.id →
    ∃ m ∈ r.matches_, m.toMatchRow = row
  distinct : ∀ r ∈ item.rounds, (r.matches_.map (·.id)).Nodup

theorem snapshot_of_load {db : Database} {tid : TournamentId} {k : StageItemId}
    {item : StageItemWithRounds} (h : getStageItem db tid k = .ok item) :
    Snapshot db.matches_ item := by
  obtain ⟨row, -, -, rfl, -⟩ := getStageItem_eq_ok.mp h
  refine ⟨?_, fun r hr m hm => ?_, fun r hr mrow hmrow hround => ?_, fun r hr => ?_⟩
  · exact List.pairwise_map.mpr (db.rounds.sorted_filter _)
  · obtain ⟨rrow, -, -, rfl⟩ := mem_loaded_rounds.mp hr
    obtain ⟨mrow, hmrow, hround, rfl⟩ := mem_roundWithMatches.mp hm
    exact ⟨hround, hmrow⟩
  · obtain ⟨rrow, -, -, rfl⟩ := mem_loaded_rounds.mp hr
    exact ⟨_, mem_roundWithMatches.mpr ⟨mrow, hmrow, hround, rfl⟩, rfl⟩
  · obtain ⟨rrow, -, -, rfl⟩ := mem_loaded_rounds.mp hr
    rw [roundWithMatches, List.map_map]
    exact List.pairwise_map.mpr ((db.matches_.sorted_filter _).imp fun h => ne_of_lt h)

section Walk

variable {matches_ : Table MatchRow} {item : StageItemWithRounds} (hS : Snapshot matches_ item)
  {r : RoundWithMatches}

theorem mem_subsequent {k : RoundId} {m : Match} (hm : m ∈ subsequentMatches item k) :
    ∃ r ∈ item.rounds, k < r.id ∧ m ∈ r.matches_ := by
  obtain ⟨r, hr, hm⟩ := List.mem_flatMap.mp hm
  rw [List.mem_insertionSort, List.mem_filter, decide_eq_true_eq] at hr
  exact ⟨r, hr.1, hr.2, hm⟩

theorem affectedAtStart_none (h : (r.matches_.map (·.id)).Nodup) :
    (affectedAtStart r none).entries = r.matches_.map fun m => (m.id, m) := by
  have hall : r.matches_.filter (fun m => (none : Option (List MatchId)).all (·.contains m.id)) =
      r.matches_ := List.filter_eq_self.mpr fun _ _ => rfl
  rw [affectedAtStart, hall, Dict.ofList_entries]
  rwa [List.map_map]

include hS

theorem Snapshot.find?_round (hr : r ∈ item.rounds) :
    item.rounds.find? (·.id == r.id) = some r := by
  obtain ⟨l1, l2, e⟩ := List.append_of_mem hr
  have hpair := hS.roundOrder
  rw [e, List.pairwise_append] at hpair
  have hno : l1.find? (·.id == r.id) = none := by
    refine List.find?_eq_none.mpr fun r' hr' => ?_
    have hlt := hpair.2.2 r' hr' r List.mem_cons_self
    simpa using hlt.ne
  rw [e, List.find?_append, hno, List.find?_cons_of_pos (by simp)]
  rfl

/-- The program writes all entries. -/
theorem Snapshot.getInputsToUpdate (hr : r ∈ item.rounds) :
    getInputsToUpdateInSubsequentEliminationRounds r.id item none =
      .ok (affectedByRound item r).entries := by
  unfold getInputsToUpdateInSubsequentEliminationRounds
  rw [hS.find?_round hr, orRaise_some, ok_bind]
  exact congrArg _ (List.filter_eq_self.mpr fun _ _ => rfl)

/-- An entry stands under its id, and its round is this one or a later one. -/
theorem Snapshot.entry (hr : r ∈ item.rounds) {j : MatchId} {m : Match}
    (h : (affectedByRound item r).get? j = some m) :
    m.id = j ∧ ∃ r' ∈ item.rounds, r.id ≤ r'.id ∧ m.roundId = r'.id := by
  refine foldl_propagateTo_invariant (Q := fun j m => m.id = j ∧
    ∃ r' ∈ item.rounds, r.id ≤ r'.id ∧ m.roundId = r'.id) _ _ (fun x hx _ _ => ?_)
    (fun j m hj => ?_) j m h
  · obtain ⟨r', hr', hlt, hx⟩ := mem_subsequent hx
    exact ⟨rfl, r', hr', hlt.le, (hS.rows r' hr' x hx).1⟩
  · have hmem := (affectedAtStart r none).get?_eq_some.mp hj
    rw [affectedAtStart_none (hS.distinct r hr)] at hmem
    obtain ⟨m', hm', e⟩ := List.mem_map.mp hmem
    cases e
    exact ⟨rfl, r, hr, le_rfl, (hS.rows r hr m hm').1⟩

/-- The matches of the round are entries as they were loaded. -/
theorem Snapshot.own (hr : r ∈ item.rounds) {m : Match} (hm : m ∈ r.matches_) :
    (affectedByRound item r).get? m.id = some m := by
  rw [affectedByRound, foldl_propagateTo_get?]
  · rw [Dict.get?_eq_some, affectedAtStart_none (hS.distinct r hr)]
    exact List.mem_map_of_mem hm
  · intro hmem
    obtain ⟨x, hx, hid⟩ := List.mem_map.mp hmem
    obtain ⟨r', hr', hlt, hx⟩ := mem_subsequent hx
    obtain ⟨hround, hrow⟩ := hS.rows r hr m hm
    obtain ⟨hround', hrow'⟩ := hS.rows r' hr' x hx
    have hsame : x.toMatchRow = m.toMatchRow := matches_.eq_of_key hrow' hrow hid
    rw [← hround, ← hround', hsame] at hlt
    exact Int.lt_irrefl _ hlt

end Walk

/-! ## 2. The walks of all rounds -/

/-- A match without its inputs. -/
def MatchRow.unslotted (m : MatchRow) : MatchRow := m.withInputIds fun _ => none

theorem MatchRow.key_unslotted (m : MatchRow) : key m.unslotted = key m := rfl

/-- The database without the inputs of the matches. -/
def Database.unslotted (db : Database) : Database :=
  { db with matches_ := db.matches_.map MatchRow.unslotted MatchRow.key_unslotted }

theorem find?_unslotted (db : Database) (x : MatchId) :
    db.unslotted.matches_.find? x = (db.matches_.find? x).map MatchRow.unslotted :=
  db.matches_.find?_map MatchRow.key_unslotted x

theorem setInputIds_unslotted (db : Database) (m : Match) :
    (setInputIds db m).unslotted = db.unslotted := by
  simp only [Database.unslotted, setInputIds, sqlSetInputIdsForMatch]
  congr 1
  exact db.matches_.map_of_update fun _ => rfl

/-- While the walks of some rounds are to come, the matches of the others are as before. -/
structure Pending (rounds : List RoundId) (db db' : Database) : Prop where
  unslotted : db'.unslotted = db.unslotted
  restored : ∀ row ∈ db.matches_.rows, row.roundId ∉ rounds → db'.matches_.find? row.id = some row

/-- A row before and after differs in its inputs. -/
theorem Pending.row {rounds : List RoundId} {db db' : Database} (h : Pending rounds db db')
    {row : MatchRow} (hrow : row ∈ db.matches_.rows) : ∃ row', db'.matches_.find? row.id = some row' ∧
      row'.id = row.id ∧ row'.roundId = row.roundId ∧
      ∀ ids, row'.withInputIds ids = row.withInputIds ids := by
  have hown : db.matches_.find? row.id = some row := db.matches_.find?_key hrow
  have hfind := find?_unslotted db' row.id
  rw [h.unslotted, find?_unslotted, hown, Option.map_some] at hfind
  obtain ⟨row', hrow', e⟩ := Option.map_eq_some_iff.mp hfind.symm
  have hid : row'.unslotted.id = row.unslotted.id := congrArg MatchRow.id e
  have hround : row'.unslotted.roundId = row.unslotted.roundId := congrArg MatchRow.roundId e
  refine ⟨row', hrow', hid, hround, fun ids => ?_⟩
  have hsame : row'.unslotted.withInputIds ids = row.unslotted.withInputIds ids := by rw [e]
  exact hsame

section Step

variable {db db' : Database} {item : StageItemWithRounds} (hS : Snapshot db.matches_ item)
include hS

/-- **The walk of a round restores its matches**, and it leaves those of earlier rounds alone. -/
theorem Pending.step {r : RoundWithMatches} {rest : List RoundId} (hr : r ∈ item.rounds)
    (hrest : ∀ r' ∈ item.rounds, r.id < r'.id → r'.id ∈ rest) (h : Pending (r.id :: rest) db db') :
    Pending rest db
      ((affectedByRound item r).entries.foldl (fun db e => setInputIds db e.2) db') := by
  have hentry : ∀ e ∈ (affectedByRound item r).entries,
      e.2.id = e.1 ∧ ∃ r' ∈ item.rounds, r.id ≤ r'.id ∧ e.2.roundId = r'.id := fun e he =>
    hS.entry hr ((affectedByRound item r).get?_eq_some.mpr he)
  have hnodup : ((affectedByRound item r).entries.map fun e => e.2.id).Nodup := by
    rw [List.map_congr_left fun e he => (hentry e he).1]
    exact (affectedByRound item r).nodup
  refine ⟨?_, fun row hrow hround => ?_⟩
  · exact (foldl_project Database.unslotted (fun db (e : MatchId × Match) => setInputIds db e.2)
      (fun db e => setInputIds_unslotted db e.2) _ _).trans h.unslotted
  · rw [foldl_setInputIds_find? _ hnodup]
    by_cases hown : row.roundId = r.id
    · -- the entry of a match of the round is the match
      obtain ⟨m, hm, rfl⟩ := hS.listed r hr row hrow hown
      obtain ⟨row', hrow', hid, hround', hsame⟩ := h.row hrow
      have hmem : (m.id, m) ∈ (affectedByRound item r).entries :=
        (affectedByRound item r).get?_eq_some.mp (hS.own hr hm)
      have hfound : (affectedByRound item r).entries.find? (fun e => e.2.id == row'.id) =
          some (m.id, m) := by
        cases hf : (affectedByRound item r).entries.find? fun e => e.2.id == row'.id with
        | none => exact absurd (beq_iff_eq.mpr hid.symm) (List.find?_eq_none.mp hf _ hmem)
        | some e =>
          have hkey : e.2.id = row'.id := by simpa using List.find?_some hf
          exact congrArg some (List.inj_on_of_nodup_map hnodup (List.mem_of_find?_eq_some hf) hmem
            (hkey.trans hid))
      rw [hrow', Option.map_some, withUpdate, hfound]
      dsimp only
      rw [hround', beq_self_eq_true, if_pos rfl, hsame]
      rfl
    · -- an entry is a match of this round or a later one
      have hkeep := h.restored row hrow fun hmem => (List.mem_cons.mp hmem).elim hown hround
      rw [hkeep, Option.map_some, withUpdate]
      split
      · next e he =>
        obtain ⟨-, r', hr', hle, hin⟩ := hentry e (List.mem_of_find?_eq_some he)
        have hne : row.roundId ≠ e.2.roundId := by
          intro heq
          rcases eq_or_lt_of_le hle with hle | hlt
          · exact hown (heq.trans (hin.trans hle.symm))
          · exact hround (heq.trans hin ▸ hrest r' hr' hlt)
        rw [if_neg fun hbeq => hne (eq_of_beq hbeq)]
      · rfl

/-- The walks of the last rounds. -/
theorem Pending.run (done rest : List RoundWithMatches) (hrounds : item.rounds = done ++ rest)
    (h : Pending (rest.map (·.id)) db db') : ∃ db'', rest.foldlM (fun db r =>
      updateInputsInSubsequentEliminationRounds db r.id item none) db' = .ok db'' ∧
        Pending [] db db'' := by
  induction rest generalizing done db' with
  | nil => exact ⟨db', rfl, h⟩
  | cons r rest ih =>
    have hr : r ∈ item.rounds := hrounds ▸ List.mem_append_right _ List.mem_cons_self
    have hlater : ∀ r' ∈ item.rounds, r.id < r'.id → r'.id ∈ rest.map (·.id) := by
      intro r' hr' hlt
      have hpair := hS.roundOrder
      rw [hrounds] at hr' hpair
      rcases List.mem_append.mp hr' with hr' | hr'
      · exact absurd ((List.pairwise_append.mp hpair).2.2 r' hr' r List.mem_cons_self) hlt.asymm
      · rcases List.mem_cons.mp hr' with rfl | hr'
        · exact absurd hlt (lt_irrefl _)
        · exact List.mem_map_of_mem hr'
    obtain ⟨db'', hdb'', hP⟩ := ih (done ++ [r]) (by rw [hrounds, List.append_cons])
      (h.step hS hr hlater)
    refine ⟨db'', ?_, hP⟩
    rw [List.foldlM_cons, updateInputsInSubsequentEliminationRounds, hS.getInputsToUpdate hr]
    exact hdb''

end Step

/-- **The complete update changes nothing.** -/
theorem updateInputsInComplete_same {db : Database} {item : StageItemWithRounds}
    (hS : Snapshot db.matches_ item) :
    updateInputsInCompleteEliminationStageItem db item = .ok db := by
  have hstart : Pending (item.rounds.map (·.id)) db db :=
    ⟨rfl, fun row hrow _ => db.matches_.find?_key hrow⟩
  obtain ⟨db', hdb', hP⟩ := Pending.run hS [] item.rounds rfl hstart
  rw [updateInputsInCompleteEliminationStageItem, hdb']
  have hfind : ∀ x, db'.matches_.find? x = db.matches_.find? x := by
    intro x
    cases hx : db.matches_.find? x with
    | some row =>
      obtain rfl := db.matches_.key_of_find? hx
      exact hP.restored row (db.matches_.mem_of_find? hx) List.not_mem_nil
    | none =>
      have hnone := find?_unslotted db' x
      rw [hP.unslotted, find?_unslotted, hx] at hnone
      exact Option.map_eq_none_iff.mp hnone.symm
  have hrows : db'.matches_.rows = db.matches_.rows := by
    have hmap : db'.matches_.rows.map (fun m => m) = db.matches_.rows.map (fun m => m) :=
      Table.map_rows_congr (k := MatchRow.id) (fun _ => rfl) (fun _ => rfl) fun x => by rw [hfind]
    rwa [List.map_id', List.map_id'] at hmap
  have hmatches : db'.matches_ = db.matches_ :=
    have hnext : db'.unslotted.matches_.next = db.unslotted.matches_.next := by rw [hP.unslotted]
    Table.ext hrows hnext
  have hrest : { db' with matches_ := db.matches_ } = db :=
    congrArg (fun d : Database => { d with matches_ := db.matches_ }) hP.unslotted
  rw [← hmatches] at hrest
  exact congrArg Except.ok hrest

/-! ## 3. Slots and their sources -/

/-- Every slot with a source in an earlier round holds the winner of the source. -/
def SlotsFollow (db : Database) (k : StageItemId) : Prop :=
  ∀ m src, db.InItem k m → db.InItem k src → ∀ side, m.winnerFrom side = some src.id →
    src.roundId < m.roundId → m.inputId side = src.winnerId

/-- **The slots follow their sources after the complete update just if they did before.** The
    stage item is loaded before the results are recalculated, which leaves the matches alone. -/
theorem updateInputsInComplete_follow_iff {db db0 : Database} {tid : TournamentId} {k : StageItemId}
    {item : StageItemWithRounds} (hitem : getStageItem db0 tid k = .ok item)
    (hmatches : db.matches_ = db0.matches_) :
    ∃ db', updateInputsInCompleteEliminationStageItem db item = .ok db' ∧ db' = db ∧
      (SlotsFollow db' k ↔ SlotsFollow db k) :=
  ⟨db, updateInputsInComplete_same (hmatches ▸ snapshot_of_load hitem), rfl, Iff.rfl⟩

/-! ### A cup with an old final -/

/-- The first semifinal is over, and its winner is not in the final yet. -/
def staleCup : Database :=
  { cup with
    matches_ := ⟨[
      ⟨1, none, 10, 5, none, none, 1, some 1, some 2, false, false, none, none, 1, 0⟩,
      ⟨2, none, 10, 5, none, none, 1, some 3, some 4, false, false, none, none, 0, 0⟩,
      ⟨3, none, 10, 5, none, none, 2, none, none, false, false, some 1, some 2, 0, 0⟩], 4,
      by decide, by decide⟩ }

theorem staleCup_loads : getStageItem staleCup 1 1 = .ok (loadStageItem staleCup 1 cupItem) :=
  getStageItem_eq_ok.mpr ⟨cupItem, rfl, rfl, rfl, by decide⟩

theorem staleCup_follow_iff : ∃ db',
    updateInputsInCompleteEliminationStageItem staleCup (loadStageItem staleCup 1 cupItem) =
      .ok db' ∧ db' = staleCup ∧ (SlotsFollow db' 1 ↔ SlotsFollow staleCup 1) :=
  updateInputsInComplete_follow_iff staleCup_loads rfl

/-- The complete update leaves the final without the winner of the first semifinal. -/
theorem staleCup_stays : ∃ db',
    updateInputsInCompleteEliminationStageItem staleCup (loadStageItem staleCup 1 cupItem) =
      .ok db' ∧ ¬ SlotsFollow db' 1 := by
  refine ⟨staleCup, updateInputsInComplete_same (snapshot_of_load staleCup_loads), fun h => ?_⟩
  have hslot := h
    ⟨3, none, 10, 5, none, none, 2, none, none, false, false, some 1, some 2, 0, 0⟩
    ⟨1, none, 10, 5, none, none, 1, some 1, some 2, false, false, none, none, 1, 0⟩
    ⟨by decide, by decide⟩ ⟨by decide, by decide⟩ .one rfl (by decide)
  exact absurd hslot (by decide)

end Brackets
