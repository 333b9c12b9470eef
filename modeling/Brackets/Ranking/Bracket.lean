/-
  File:      Brackets/Ranking/Bracket.lean
  Subject:   The walk over a loaded elimination tree.

  `Bracket` says what a loaded elimination stage item looks like: rounds in order, distinct
  matches, sources in earlier rounds, inputs joined. `affected` is the dictionary at the end of
  the walk that follows a new score of the match `m0`, and `slotAfter` the input a slot has then.

  * `slotAfter_settled`: after the walk every slot holds the winner of its source, if before it
    this held of every slot whose source is not `m0`;
  * `slotAfter_leaf`, `slotAfter_early`: slots without a source, and slots of the rounds up to
    that of `m0`, keep their inputs;
  * `getInputsToUpdate_eq`: what the program writes is the dictionary without `m0`.
-/
import Mathlib.Data.List.Flatten
import Brackets.Ranking.Elimination
import Brackets.Loads

namespace Brackets

open Library

/-- The matches of a stage item in round order. -/
def StageItemWithRounds.allMatches (item : StageItemWithRounds) : List Match :=
  item.rounds.flatMap (·.matches_)

/-- A loaded elimination tree. -/
structure Bracket (item : StageItemWithRounds) : Prop where
  roundOrder : item.rounds.Pairwise fun r s => r.id < s.id
  inRound : ∀ r ∈ item.rounds, ∀ m ∈ r.matches_, m.roundId = r.id
  distinct : (item.allMatches.map (·.id)).Nodup
  source : ∀ m ∈ item.allMatches, ∀ side j, m.winnerFrom side = some j →
    ∃ src ∈ item.allMatches, src.id = j ∧ src.roundId < m.roundId
  joined : ∀ m ∈ item.allMatches, ∀ side, m.inputId side = (m.input side).map (·.id)

/-- The dictionary at the end of the walk. -/
def affected (item : StageItemWithRounds) (round : RoundWithMatches) (m0 : Match) :
    Dict MatchId Match :=
  (subsequentMatches item round.id).foldl propagateTo (affectedAtStart round (some [m0.id]))

/-- The input of a slot after the walk. -/
def slotAfter (d : Dict MatchId Match) (m : MatchRow) (side : Side) : Option StageItemInputId :=
  match d.get? m.id with
  | some m' => m'.inputId side
  | none => m.inputId side

/-- What the program writes for the walk. -/
def writtenInputs (item : StageItemWithRounds) (round : RoundWithMatches) (m0 : Match) :
    List (MatchId × Match) := (affected item round m0).entries.filter fun e => e.2.id != m0.id

theorem getWinner_id {m : Match} (h : ∀ side, m.inputId side = (m.input side).map (·.id)) :
    m.getWinner.map (·.id) = m.winnerId := by
  unfold Match.getWinner MatchRow.winnerId MatchRow.winnerOf
  split
  · exact (h .one).symm
  · split
    · exact (h .two).symm
    · rfl

theorem withInputs_joined (m : Match) (i1 i2 : Option StageItemInput) (side : Side) :
    (m.withInputs i1 i2).inputId side = ((m.withInputs i1 i2).input side).map (·.id) := by
  cases side <;> rfl

section Walk

variable {item : StageItemWithRounds} (h : Bracket item) {round : RoundWithMatches}
  (hr : round ∈ item.rounds) {m0 : Match} (hm0 : m0 ∈ round.matches_)

theorem mem_allMatches {m : Match} :
    m ∈ item.allMatches ↔ ∃ r ∈ item.rounds, m ∈ r.matches_ := List.mem_flatMap

include h

theorem eq_of_match_id {a b : Match} (ha : a ∈ item.allMatches) (hb : b ∈ item.allMatches)
    (e : a.id = b.id) : a = b := List.inj_on_of_nodup_map h.distinct ha hb e

theorem subsequentMatches_eq (k : RoundId) :
    subsequentMatches item k = (item.rounds.filter (·.id > k)).flatMap (·.matches_) := by
  unfold subsequentMatches
  have hs : (item.rounds.filter (·.id > k)).Pairwise fun r s => r.id ≤ s.id :=
    (h.roundOrder.imp fun hlt => Int.le_of_lt hlt).filter _
  rw [hs.insertionSort_eq]

/-- The subsequent matches are those of later rounds. -/
theorem mem_subsequentMatches {k : RoundId} {m : Match} :
    m ∈ subsequentMatches item k ↔ m ∈ item.allMatches ∧ k < m.roundId := by
  rw [subsequentMatches_eq h, List.mem_flatMap, mem_allMatches]
  constructor
  · rintro ⟨r, hr, hm⟩
    rw [List.mem_filter, decide_eq_true_eq] at hr
    exact ⟨⟨r, hr.1, hm⟩, h.inRound r hr.1 m hm ▸ hr.2⟩
  · rintro ⟨⟨r, hr, hm⟩, hk⟩
    rw [h.inRound r hr m hm] at hk
    exact ⟨r, List.mem_filter.mpr ⟨hr, decide_eq_true hk⟩, hm⟩

theorem subsequentMatches_sublist (k : RoundId) :
    (subsequentMatches item k).Sublist item.allMatches := by
  rw [subsequentMatches_eq h]
  exact List.filter_sublist.flatMap _

/-- The matches are listed round by round. -/
theorem allMatches_ordered : item.allMatches.Pairwise fun a b => a.roundId ≤ b.roundId := by
  refine List.pairwise_flatMap.mpr ⟨fun r hr => ?_, ?_⟩
  · refine List.pairwise_of_forall_mem_list fun a ha b hb => ?_
    rw [h.inRound r hr a ha, h.inRound r hr b hb]
  · refine h.roundOrder.imp_of_mem fun {r s} hr hs hlt a ha b hb => ?_
    rw [h.inRound r hr a ha, h.inRound s hs b hb]
    exact Int.le_of_lt hlt

theorem winnerFrom_lt {m src : Match} (hm : m ∈ item.allMatches) (hsrc : src ∈ item.allMatches)
    {side : Side} (hw : m.winnerFrom side = some src.id) : src.roundId < m.roundId := by
  obtain ⟨src', hsrc', e, hlt⟩ := h.source m hm side src.id hw
  rwa [eq_of_match_id h hsrc' hsrc e] at hlt

/-- **What the program writes** is the dictionary without the scored match. -/
theorem getInputsToUpdate_eq (hr : round ∈ item.rounds) (m0 : Match) :
    getInputsToUpdateInSubsequentEliminationRounds round.id item (some [m0.id]) =
      .ok (writtenInputs item round m0) := by
  have hfind : item.rounds.find? (·.id == round.id) = some round := by
    obtain ⟨l1, l2, e⟩ := List.append_of_mem hr
    have hpair := h.roundOrder
    rw [e, List.pairwise_append] at hpair
    have hno : l1.find? (·.id == round.id) = none := by
      refine List.find?_eq_none.mpr fun r hr1 => ?_
      have hlt := hpair.2.2 r hr1 round List.mem_cons_self
      simpa using hlt.ne
    rw [e, List.find?_append, hno, List.find?_cons_of_pos (by simp)]
    rfl
  unfold getInputsToUpdateInSubsequentEliminationRounds
  rw [hfind, orRaise_some, ok_bind, ← affected]
  refine congrArg _ (List.filter_congr fun e _ => ?_)
  simp only [Option.all_some, List.contains_cons, List.contains_nil, Bool.or_false]
  rfl

include hr hm0

omit h in
theorem m0_mem : m0 ∈ item.allMatches := mem_allMatches.mpr ⟨round, hr, hm0⟩

theorem round_of_m0 : m0.roundId = round.id := h.inRound round hr m0 hm0

/-- At the start of the walk the dictionary has the one match. -/
theorem affectedAtStart_entries :
    (affectedAtStart round (some [m0.id])).entries = [(m0.id, m0)] := by
  have hfilter : round.matches_.filter (fun m => (some [m0.id]).all (·.contains m.id)) = [m0] := by
    have hnd : (round.matches_.map (·.id)).Nodup := by
      refine h.distinct.sublist (List.Sublist.map _ ?_)
      obtain ⟨l1, l2, e⟩ := List.append_of_mem hr
      rw [StageItemWithRounds.allMatches, e, List.flatMap_append, List.flatMap_cons]
      exact (List.sublist_append_left _ _).trans (List.sublist_append_right _ _)
    obtain ⟨l1, l2, e⟩ := List.append_of_mem hm0
    rw [e, List.map_append, List.map_cons, List.nodup_append] at hnd
    have hother : ∀ m ∈ l1 ++ l2, ¬ ((some [m0.id]).all (·.contains m.id)) := by
      intro m hm
      have hne : m.id ≠ m0.id := by
        rcases List.mem_append.mp hm with hm | hm
        · exact hnd.2.2 _ (List.mem_map_of_mem hm) _ List.mem_cons_self
        · exact fun e => (List.nodup_cons.mp hnd.2.1).1 (e ▸ List.mem_map_of_mem hm)
      simpa using hne
    rw [e, List.filter_append, List.filter_cons_of_pos (by simp),
      List.filter_eq_nil_iff.mpr fun m hm => hother m (List.mem_append_left _ hm),
      List.filter_eq_nil_iff.mpr fun m hm => hother m (List.mem_append_right _ hm)]
    rfl
  unfold affectedAtStart
  rw [hfilter]
  rfl

theorem affectedAtStart_get? (j : MatchId) :
    (affectedAtStart round (some [m0.id])).get? j = if j = m0.id then some m0 else none := by
  rw [Dict.get?, affectedAtStart_entries h hr hm0]
  by_cases hj : j = m0.id
  · simp [hj]
  · have hj' : ¬ m0.id = j := fun e => hj e.symm
    simp [hj, hj']

/-- The entry of the scored match stays: the walk goes over later matches only. -/
theorem affected_start : (affected item round m0).get? m0.id = some m0 := by
  rw [affected, foldl_propagateTo_get?, affectedAtStart_get? h hr hm0, if_pos rfl]
  intro hm
  obtain ⟨x, hx, e⟩ := List.mem_map.mp hm
  obtain ⟨hx, hlt⟩ := (mem_subsequentMatches h).mp hx
  rw [eq_of_match_id h hx (m0_mem hr hm0) e, round_of_m0 h hr hm0] at hlt
  exact Int.lt_irrefl _ hlt

/-- **The walk, on a loaded tree.** -/
theorem affected_later {m : Match} (hm : m ∈ item.allMatches) (hk : round.id < m.roundId) :
    Propagated (affected item round m0) m := by
  have hsub := subsequentMatches_sublist h round.id
  have hmem : ∀ x ∈ subsequentMatches item round.id, x ∈ item.allMatches ∧ round.id < x.roundId :=
    fun x hx => (mem_subsequentMatches h).mp hx
  refine propagate_spec _ _ (h.distinct.sublist (hsub.map _)) ?_ ?_ ?_ m
    ((mem_subsequentMatches h).mpr ⟨hm, hk⟩)
  · intro x hx hkey
    rw [Dict.keys, affectedAtStart_entries h hr hm0, List.map_singleton, List.mem_singleton] at hkey
    have hlt := (hmem x hx).2
    rw [eq_of_match_id h (hmem x hx).1 (m0_mem hr hm0) hkey, round_of_m0 h hr hm0] at hlt
    exact Int.lt_irrefl _ hlt
  · intro x hx side hw
    exact Int.lt_irrefl _ (winnerFrom_lt h (hmem x hx).1 (hmem x hx).1 hw)
  · refine ((allMatches_ordered h).sublist hsub).imp_of_mem fun {x y} hx hy hle side hw => ?_
    exact absurd (winnerFrom_lt h (hmem x hx).1 (hmem y hy).1 hw) (not_lt.mpr hle)

/-- Only later matches join the dictionary. -/
theorem affected_dom {j : MatchId} {m' : Match} (hj : (affected item round m0).get? j = some m') :
    j = m0.id ∨ ∃ x ∈ item.allMatches, round.id < x.roundId ∧ x.id = j := by
  by_cases hs : j ∈ (subsequentMatches item round.id).map (·.id)
  · obtain ⟨x, hx, e⟩ := List.mem_map.mp hs
    obtain ⟨hx, hlt⟩ := (mem_subsequentMatches h).mp hx
    exact Or.inr ⟨x, hx, hlt, e⟩
  · rw [affected, foldl_propagateTo_get? _ _ hs, affectedAtStart_get? h hr hm0] at hj
    split at hj
    · next e => exact Or.inl e
    · cases hj

/-- An entry is its match with other inputs. -/
theorem affected_entry {m m' : Match} (hm : m ∈ item.allMatches)
    (hd : (affected item round m0).get? m.id = some m') :
    m' = m ∧ m.id = m0.id ∨ round.id < m.roundId ∧ m' = m.withInputs
      (updatedInput (affected item round m0) m .one)
      (updatedInput (affected item round m0) m .two) := by
  rcases affected_dom h hr hm0 hd with e | ⟨x, hx, hlt, e⟩
  · have hmm : m = m0 := eq_of_match_id h hm (m0_mem hr hm0) e
    rw [hmm, affected_start h hr hm0] at hd
    exact Or.inl ⟨(Option.some.inj hd).symm.trans hmm.symm, e⟩
  · rw [eq_of_match_id h hx hm e] at hlt
    exact Or.inr ⟨hlt, ((affected_later h hr hm0 hm hlt).written m' hd).1⟩

/-- Entries stand under the id of their match. -/
theorem affected_id {j : MatchId} {m' : Match}
    (hj : (affected item round m0).get? j = some m') : m'.id = j := by
  rcases affected_dom h hr hm0 hj with rfl | ⟨x, hx, -, rfl⟩
  · rw [affected_start h hr hm0] at hj
    rw [← Option.some.inj hj]
  · rcases affected_entry h hr hm0 hx hj with ⟨rfl, -⟩ | ⟨-, rfl⟩ <;> rfl

/-- The ids of an entry are those of its inputs. -/
theorem affected_joined {j : MatchId} {m' : Match}
    (hj : (affected item round m0).get? j = some m') (side : Side) :
    m'.inputId side = (m'.input side).map (·.id) := by
  rcases affected_dom h hr hm0 hj with rfl | ⟨x, hx, -, rfl⟩
  · rw [affected_start h hr hm0] at hj
    rw [← Option.some.inj hj]
    exact h.joined m0 (m0_mem hr hm0) side
  · rcases affected_entry h hr hm0 hx hj with ⟨rfl, -⟩ | ⟨-, rfl⟩
    · exact h.joined _ hx side
    · exact withInputs_joined x _ _ side

/-- The inputs of an entry are inputs of matches. -/
theorem affected_inputs {P : StageItemInput → Prop}
    (hP : ∀ m ∈ item.allMatches, ∀ side, ∀ i ∈ m.input side, P i) {j : MatchId} {m' : Match}
    (hj : (affected item round m0).get? j = some m') : ∀ side, ∀ i ∈ m'.input side, P i := by
  refine foldl_propagateTo_inputs _ _
    (fun m hm => hP m ((subsequentMatches_sublist h round.id).subset hm)) (fun j m hm => ?_) j m' hj
  rw [affectedAtStart_get? h hr hm0] at hm
  split at hm
  · cases hm
    exact hP m0 (m0_mem hr hm0)
  · cases hm

/-- An entry has the scores of its match, and its ids are those of its inputs. -/
theorem affected_entry_winner {m m' : Match} (hm : m ∈ item.allMatches)
    (hd : (affected item round m0).get? m.id = some m') :
    m'.getWinner.map (·.id) = m.winnerOf (slotAfter (affected item round m0) m.toMatchRow) := by
  have hslot : slotAfter (affected item round m0) m.toMatchRow = m'.inputId := by
    funext side
    rw [slotAfter, hd]
  rw [hslot]
  rcases affected_entry h hr hm0 hm hd with ⟨rfl, -⟩ | ⟨-, rfl⟩
  · exact getWinner_id (h.joined _ hm)
  · exact getWinner_id (withInputs_joined m _ _)

/-- The slot of a later match holds what the dictionary gives it. -/
theorem slotAfter_later {m : Match} (hm : m ∈ item.allMatches) (hk : round.id < m.roundId)
    (side : Side) : slotAfter (affected item round m0) m.toMatchRow side =
      (updatedInput (affected item round m0) m side).map (·.id) := by
  have hp := affected_later h hr hm0 hm hk
  unfold slotAfter
  cases hd : (affected item round m0).get? m.id with
  | none => exact (h.joined m hm side).trans (congrArg _ (hp.kept hd side))
  | some m' =>
      obtain ⟨rfl, -⟩ := hp.written m' hd
      cases side <;> rfl

/-- A slot without a source keeps its input. -/
theorem slotAfter_leaf {m : Match} (hm : m ∈ item.allMatches) {side : Side}
    (hw : m.winnerFrom side = none) :
    slotAfter (affected item round m0) m.toMatchRow side = m.inputId side := by
  by_cases hk : round.id < m.roundId
  · rw [slotAfter_later h hr hm0 hm hk, updatedInput, hw]
    exact (h.joined m hm side).symm
  · unfold slotAfter
    cases hd : (affected item round m0).get? m.id with
    | none => rfl
    | some m' =>
        rcases affected_entry h hr hm0 hm hd with ⟨rfl, -⟩ | ⟨hlt, -⟩
        · rfl
        · exact absurd hlt hk

/-- The matches up to the round of the scored match keep their inputs. -/
theorem slotAfter_early {m : Match} (hm : m ∈ item.allMatches) (hk : m.roundId ≤ round.id)
    (side : Side) : slotAfter (affected item round m0) m.toMatchRow side = m.inputId side := by
  unfold slotAfter
  cases hd : (affected item round m0).get? m.id with
  | none => rfl
  | some m' =>
      rcases affected_entry h hr hm0 hm hd with ⟨rfl, -⟩ | ⟨hlt, -⟩
      · rfl
      · exact absurd hlt (not_lt.mpr hk)

/-- **After the walk every slot holds the winner of its source**, if before it this held of every
    slot whose source is not the scored match. -/
theorem slotAfter_settled
    (hold : ∀ m ∈ item.allMatches, ∀ side, ∀ src ∈ item.allMatches,
      m.winnerFrom side = some src.id → src.id ≠ m0.id → m.inputId side = src.winnerId)
    {m src : Match} (hm : m ∈ item.allMatches) (hsrc : src ∈ item.allMatches) {side : Side}
    (hw : m.winnerFrom side = some src.id) :
    slotAfter (affected item round m0) m.toMatchRow side =
      src.winnerOf (slotAfter (affected item round m0) src.toMatchRow) := by
  have hlt := winnerFrom_lt h hm hsrc hw
  cases hd : (affected item round m0).get? src.id with
  | some src' =>
      -- the source is the scored match or a later one, so this match is later
      have hk : round.id < m.roundId := by
        rcases affected_entry h hr hm0 hsrc hd with ⟨-, e⟩ | ⟨hk, -⟩
        · rw [eq_of_match_id h hsrc (m0_mem hr hm0) e, round_of_m0 h hr hm0] at hlt
          exact hlt
        · exact hk.trans hlt
      rw [slotAfter_later h hr hm0 hm hk, updatedInput, hw, Option.bind_some, hd]
      exact affected_entry_winner h hr hm0 hsrc hd
  | none =>
      -- the source keeps its inputs, and its scores are not new
      have hne : src.id ≠ m0.id := by
        intro e
        rw [e, affected_start h hr hm0] at hd
        cases hd
      have hsrcSlot : slotAfter (affected item round m0) src.toMatchRow = src.inputId := by
        funext s
        rw [slotAfter, hd]
      have hkeep : slotAfter (affected item round m0) m.toMatchRow side = m.inputId side := by
        by_cases hk : round.id < m.roundId
        · rw [slotAfter_later h hr hm0 hm hk, updatedInput, hw, Option.bind_some, hd]
          exact (h.joined m hm side).symm
        · exact slotAfter_early h hr hm0 hm (not_lt.mp hk) side
      rw [hkeep, hsrcSlot]
      exact hold m hm side src hsrc hw hne

theorem mem_writtenInputs {e : MatchId × Match} (he : e ∈ writtenInputs item round m0) :
    (affected item round m0).get? e.2.id = some e.2 ∧ e.1 = e.2.id ∧ e.2.id ≠ m0.id := by
  obtain ⟨he, hne⟩ := List.mem_filter.mp he
  have hd := (affected item round m0).get?_eq_some.mpr he
  have hid := affected_id h hr hm0 hd
  exact ⟨hid ▸ hd, hid.symm, by simpa using hne⟩

theorem writtenInputs_nodup : ((writtenInputs item round m0).map fun e => e.2.id).Nodup := by
  have hkeys : ((writtenInputs item round m0).map Prod.fst).Nodup :=
    (affected item round m0).nodup.sublist (List.filter_sublist.map Prod.fst)
  rwa [List.map_congr_left fun e he => (mem_writtenInputs h hr hm0 he).2.1] at hkeys

/-- **The statements of the walk leave every row with the slots of the walk.** -/
theorem withUpdate_written {row : MatchRow}
    (hrow : ∀ m ∈ item.allMatches, m.id = row.id → m.toMatchRow = row) :
    withUpdate (writtenInputs item round m0) row =
      row.withInputIds (slotAfter (affected item round m0) row) := by
  have hnone : (∀ m', (affected item round m0).get? row.id = some m' → row.id = m0.id) →
      (writtenInputs item round m0).find? (fun e => e.2.id == row.id) = none := by
    intro hd
    refine List.find?_eq_none.mpr fun e he hid => ?_
    obtain ⟨hget, -, hne⟩ := mem_writtenInputs h hr hm0 he
    have hid : e.2.id = row.id := eq_of_beq hid
    exact hne (hid.trans (hd e.2 (hid ▸ hget)))
  unfold withUpdate
  cases hd : (affected item round m0).get? row.id with
  | none =>
      have hslot : slotAfter (affected item round m0) row = row.inputId := by
        funext side
        rw [slotAfter, hd]
      have hno := hnone fun m' hm' => nomatch hd.symm.trans hm'
      rw [hno, hslot, MatchRow.withInputIds_inputId]
  | some m' =>
      have hslot : slotAfter (affected item round m0) row = m'.inputId := by
        funext side
        rw [slotAfter, hd]
      by_cases h0 : row.id = m0.id
      · rw [h0, affected_start h hr hm0] at hd
        rw [hnone fun _ _ => h0, hslot, ← Option.some.inj hd, hrow m0 (m0_mem hr hm0) h0.symm,
          MatchRow.withInputIds_inputId]
      · have hm' : m'.id = row.id := affected_id h hr hm0 hd
        have hround : row.roundId = m'.roundId := by
          rcases affected_dom h hr hm0 hd with e | ⟨x, hx, -, e⟩
          · exact absurd e h0
          · have hxrow := hrow x hx e
            rcases affected_entry h hr hm0 hx (e ▸ hd) with ⟨rfl, -⟩ | ⟨-, rfl⟩
            · rw [← hxrow]
            · rw [← hxrow]
              rfl
        have hmem : (row.id, m') ∈ writtenInputs item round m0 :=
          List.mem_filter.mpr ⟨(affected item round m0).get?_eq_some.mp hd,
            by simpa [hm'] using h0⟩
        cases hf : (writtenInputs item round m0).find? (fun e => e.2.id == row.id) with
        | none => exact absurd (by simpa using hm') (List.find?_eq_none.mp hf _ hmem)
        | some e =>
            obtain ⟨hget, -, -⟩ := mem_writtenInputs h hr hm0 (List.mem_of_find?_eq_some hf)
            have hid : e.2.id = row.id := by simpa using List.find?_some hf
            rw [hid, hd] at hget
            have he : e.2 = m' := (Option.some.inj hget).symm
            dsimp only
            rw [he, hround, beq_self_eq_true, if_pos rfl, hslot]

end Walk

end Brackets
