/-
  File:      Brackets/Ranking/Elimination.lean
  Subject:   `logic/ranking/elimination.py`: winners move on to the matches they feed.

  `getInputsToUpdateInSubsequentEliminationRounds` walks the matches of all later rounds with a
  dictionary of affected matches. A match whose inputs change joins the dictionary with its new
  inputs, so the matches after it read its new winner; a match whose inputs stay is not touched,
  and the matches after it keep what they had.

  `propagate_spec` is the specification of the walk: in the final dictionary `D`, every later
  match has the inputs `updatedInput D` gives it, whether it was written or kept. It needs that
  no match names itself or a later match as a source.
-/
import Mathlib.Data.List.Sort
import Brackets.Library.Dict
import Brackets.Details

namespace Brackets

open Library

/-- `model_copy(update=..)` with the two inputs and their ids. -/
def Match.withInputs (m : Match) (i1 i2 : Option StageItemInput) : Match :=
  { m with
    stageItemInput1Id := i1.map (·.id)
    stageItemInput2Id := i2.map (·.id)
    stageItemInput1 := i1
    stageItemInput2 := i2 }

/-- `updated_inputs[0]` / `updated_inputs[1]`: the winner of an affected source, or the input
    that is there. -/
def updatedInput (affectedMatches : Dict MatchId Match) (m : Match) (side : Side) :
    Option StageItemInput :=
  match (m.winnerFrom side).bind affectedMatches.get? with
  | some affectedMatch => affectedMatch.getWinner
  | none => m.input side

/-- The body of the loop over the subsequent matches. -/
def propagateTo (affectedMatches : Dict MatchId Match) (m : Match) : Dict MatchId Match :=
  let input1 := updatedInput affectedMatches m .one
  let input2 := updatedInput affectedMatches m .two
  if m.stageItemInput1 = input1 ∧ m.stageItemInput2 = input2 then affectedMatches
  else affectedMatches.set m.id (m.withInputs input1 input2)

/-- The matches of the rounds after a round, in round order. -/
def subsequentMatches (item : StageItemWithRounds) (roundId : RoundId) : List Match :=
  ((item.rounds.filter (·.id > roundId)).insertionSort (·.id ≤ ·.id)).flatMap (·.matches_)

/-- The affected matches at the start: those of the current round, limited to `match_ids`. -/
def affectedAtStart (currentRound : RoundWithMatches) (matchIds : Option (List MatchId)) :
    Dict MatchId Match :=
  .ofList ((currentRound.matches_.filter fun m => matchIds.all (·.contains m.id)).map
    fun m => (m.id, m))

def getInputsToUpdateInSubsequentEliminationRounds (currentRoundId : RoundId)
    (item : StageItemWithRounds) (matchIds : Option (List MatchId)) :
    Outcome (List (MatchId × Match)) := do
  let currentRound ← orRaise (item.rounds.find? (·.id == currentRoundId)) (.crash .stopIteration)
  let affectedMatches := (subsequentMatches item currentRound.id).foldl propagateTo
    (affectedAtStart currentRound matchIds)
  .ok (affectedMatches.entries.filter fun e => matchIds.all (!·.contains e.2.id))

def sqlSetInputIdsForMatch (db : Database) (roundId : RoundId) (k : MatchId)
    (input1Id input2Id : Option StageItemInputId) : Database :=
  { db with
    matches_ := db.matches_.update (fun m => m.roundId == roundId && m.id == k)
      (fun m => { m with stageItemInput1Id := input1Id, stageItemInput2Id := input2Id })
      fun _ => rfl }

/-- The statement that stores the inputs of an updated match. -/
def setInputIds (db : Database) (m : Match) : Database :=
  sqlSetInputIdsForMatch db m.roundId m.id m.stageItemInput1Id m.stageItemInput2Id

def updateInputsInSubsequentEliminationRounds (db : Database) (currentRoundId : RoundId)
    (item : StageItemWithRounds) (matchIds : Option (List MatchId)) : Outcome Database := do
  let updates ← getInputsToUpdateInSubsequentEliminationRounds currentRoundId item matchIds
  .ok (updates.foldl (fun db e => setInputIds db e.2) db)

def updateInputsInCompleteEliminationStageItem (db : Database) (item : StageItemWithRounds) :
    Outcome Database :=
  item.rounds.foldlM
    (fun db r => updateInputsInSubsequentEliminationRounds db r.id item none) db

/-! ## What the statement leaves -/

theorem setInputIds_find? (db : Database) (m : Match) (x : MatchId) :
    (setInputIds db m).matches_.find? x = (db.matches_.find? x).map fun row =>
      if row.roundId == m.roundId && row.id == m.id then row.withInputIds m.inputId else row := by
  unfold setInputIds sqlSetInputIdsForMatch
  rw [Table.find?_update]
  rfl

/-- The row after the statements for some matches, when its own is among them. -/
def withUpdate (es : List (MatchId × Match)) (row : MatchRow) : MatchRow :=
  match es.find? fun e => e.2.id == row.id with
  | some e => if row.roundId == e.2.roundId then row.withInputIds e.2.inputId else row
  | none => row

theorem withUpdate_withInputIds (es : List (MatchId × Match)) (row : MatchRow) :
    ∃ ids, withUpdate es row = row.withInputIds ids := by
  unfold withUpdate
  split
  · split
    · exact ⟨_, rfl⟩
    · exact ⟨row.inputId, row.withInputIds_inputId.symm⟩
  · exact ⟨row.inputId, row.withInputIds_inputId.symm⟩

/-- The statements treat rows under one id and round alike. -/
theorem withUpdate_alike (es : List (MatchId × Match)) {a b : MatchRow} (hid : a.id = b.id)
    (hround : a.roundId = b.roundId) :
    withUpdate es a = a ∧ withUpdate es b = b ∨
      ∃ e ∈ es, e.2.id = a.id ∧ withUpdate es a = a.withInputIds e.2.inputId ∧
        withUpdate es b = b.withInputIds e.2.inputId := by
  unfold withUpdate
  rw [← hid, ← hround]
  cases hf : es.find? fun e => e.2.id == a.id with
  | none => exact Or.inl ⟨rfl, rfl⟩
  | some e =>
    dsimp only
    split
    · exact Or.inr ⟨e, List.mem_of_find?_eq_some hf, by simpa using List.find?_some hf, rfl, rfl⟩
    · exact Or.inl ⟨rfl, rfl⟩

/-- Statements for different matches do not meet. -/
theorem foldl_setInputIds_find? (es : List (MatchId × Match)) (hnd : (es.map fun e => e.2.id).Nodup)
    (db : Database) (x : MatchId) :
    (es.foldl (fun db e => setInputIds db e.2) db).matches_.find? x =
      (db.matches_.find? x).map (withUpdate es) := by
  induction es generalizing db with
  | nil =>
    rw [List.foldl_nil]
    exact Option.map_id'.symm
  | cons e es ih =>
    rw [List.map_cons, List.nodup_cons] at hnd
    rw [List.foldl_cons, ih hnd.2, setInputIds_find?, Option.map_map]
    refine Option.map_congr fun row _ => ?_
    rw [Function.comp]
    by_cases hid : row.id = e.2.id
    · have hno : ∀ r : MatchRow, r.id = row.id → withUpdate es r = r := by
        intro r hr
        have hnone : es.find? (fun f => f.2.id == r.id) = none := by
          refine List.find?_eq_none.mpr fun f hf hfe => hnd.1 ?_
          exact List.mem_map.mpr ⟨f, hf, (eq_of_beq hfe).trans (hr.trans hid)⟩
        rw [withUpdate, hnone]
      have hcons : (e :: es).find? (fun f => f.2.id == row.id) = some e :=
        List.find?_cons_of_pos (by simp [hid])
      rw [withUpdate.eq_def (e :: es), hcons, hid, beq_self_eq_true, Bool.and_true]
      dsimp only
      split
      · exact hno _ rfl
      · exact hno row rfl
    · have hne : (row.id == e.2.id) = false := beq_eq_false_iff_ne.mpr hid
      have hcons : (e :: es).find? (fun f => f.2.id == row.id) =
          es.find? fun f => f.2.id == row.id :=
        List.find?_cons_of_neg (by simpa using fun h : e.2.id = row.id => hid h.symm)
      rw [hne, Bool.and_false, withUpdate, withUpdate, hcons]
      rfl

/-! ## The walk -/

@[simp] theorem Match.withInputs_id (m : Match) (i1 i2 : Option StageItemInput) :
    (m.withInputs i1 i2).id = m.id := rfl

@[simp] theorem Match.withInputs_input_one (m : Match) (i1 i2 : Option StageItemInput) :
    (m.withInputs i1 i2).input .one = i1 := rfl

@[simp] theorem Match.withInputs_input_two (m : Match) (i1 i2 : Option StageItemInput) :
    (m.withInputs i1 i2).input .two = i2 := rfl

theorem propagateTo_get?_of_ne (d : Dict MatchId Match) {m : Match} {k : MatchId} (h : k ≠ m.id) :
    (propagateTo d m).get? k = d.get? k := by
  unfold propagateTo
  dsimp only
  split
  · rfl
  · exact d.get?_set_of_ne h _

/-- The walk leaves the entries of other matches alone. -/
theorem foldl_propagateTo_get? (xs : List Match) (d : Dict MatchId Match) {k : MatchId}
    (h : k ∉ xs.map (·.id)) : (xs.foldl propagateTo d).get? k = d.get? k := by
  induction xs generalizing d with
  | nil => rfl
  | cons x xs ih =>
    rw [List.map_cons, List.mem_cons, not_or] at h
    rw [List.foldl_cons, ih _ h.2, propagateTo_get?_of_ne d h.1]

theorem updatedInput_congr {d d' : Dict MatchId Match} {m : Match} {side : Side}
    (h : ∀ k, m.winnerFrom side = some k → d'.get? k = d.get? k) :
    updatedInput d' m side = updatedInput d m side := by
  unfold updatedInput
  cases hw : m.winnerFrom side with
  | none => rfl
  | some k => rw [Option.bind_some, Option.bind_some, h k hw]

/-- What the loop gives every match it comes to holds of all entries. -/
theorem foldl_propagateTo_invariant {Q : MatchId → Match → Prop} (xs : List Match)
    (d : Dict MatchId Match)
    (hstep : ∀ x ∈ xs, ∀ d : Dict MatchId Match, (∀ j m, d.get? j = some m → Q j m) →
      Q x.id (x.withInputs (updatedInput d x .one) (updatedInput d x .two)))
    (hd : ∀ j m, d.get? j = some m → Q j m) :
    ∀ j m, (xs.foldl propagateTo d).get? j = some m → Q j m := by
  induction xs generalizing d with
  | nil => exact hd
  | cons x xs ih =>
    refine ih _ (fun y hy => hstep y (List.mem_cons_of_mem _ hy)) fun j m hj => ?_
    unfold propagateTo at hj
    dsimp only at hj
    split at hj
    · exact hd j m hj
    · rw [Dict.get?_set] at hj
      split at hj
      · next hjx =>
        cases hj
        exact hjx ▸ hstep x List.mem_cons_self d hd
      · exact hd j m hj

/-- The walk moves inputs around: what holds of all matches, and of a match with any inputs of
    theirs, holds of the entries. -/
theorem foldl_propagateTo_entries {P : StageItemInput → Prop} {Q : Match → Prop}
    (hQ : ∀ m, Q m → ∀ side, ∀ i ∈ m.input side, P i)
    (hwith : ∀ m i1 i2, Q m → (∀ i ∈ i1, P i) → (∀ i ∈ i2, P i) → Q (m.withInputs i1 i2))
    (xs : List Match) (d : Dict MatchId Match) (hxs : ∀ m ∈ xs, Q m)
    (hd : ∀ j m, d.get? j = some m → Q m) :
    ∀ j m, (xs.foldl propagateTo d).get? j = some m → Q m := by
  refine foldl_propagateTo_invariant xs d (fun x hx d hd => ?_) hd
  have hwinner : ∀ m : Match, Q m → ∀ i ∈ m.getWinner, P i := by
    intro m hm i hi
    unfold Match.getWinner at hi
    split at hi
    · exact hQ m hm .one i hi
    · split at hi
      · exact hQ m hm .two i hi
      · cases hi
  have hup : ∀ side, ∀ i ∈ updatedInput d x side, P i := by
    intro side i hi
    unfold updatedInput at hi
    split at hi
    · next m' hm' =>
      obtain ⟨j, -, hj⟩ := Option.bind_eq_some_iff.mp hm'
      exact hwinner m' (hd j m' hj) i hi
    · exact hQ x (hxs x hx) side i hi
  exact hwith x _ _ (hxs x hx) (hup .one) (hup .two)

/-- A property of the inputs of all matches holds of the entries. -/
theorem foldl_propagateTo_inputs {P : StageItemInput → Prop} (xs : List Match)
    (d : Dict MatchId Match) (hxs : ∀ m ∈ xs, ∀ side, ∀ i ∈ m.input side, P i)
    (hd : ∀ j m, d.get? j = some m → ∀ side, ∀ i ∈ m.input side, P i) :
    ∀ j m, (xs.foldl propagateTo d).get? j = some m → ∀ side, ∀ i ∈ m.input side, P i :=
  foldl_propagateTo_entries (fun _ h => h)
    (fun _ _ _ _ h1 h2 side => by
      cases side with
      | one => exact h1
      | two => exact h2) xs d hxs hd

/-- What the final dictionary of the walk says about a later match. -/
structure Propagated (d : Dict MatchId Match) (m : Match) : Prop where
  kept : d.get? m.id = none → ∀ side, m.input side = updatedInput d m side
  written : ∀ m', d.get? m.id = some m' →
    m' = m.withInputs (updatedInput d m .one) (updatedInput d m .two) ∧
      ∃ side, m.input side ≠ updatedInput d m side

theorem propagateTo_propagated {d : Dict MatchId Match} {m : Match} (hnew : m.id ∉ d.keys)
    (hself : ∀ side, m.winnerFrom side ≠ some m.id) : Propagated (propagateTo d m) m := by
  have hu : ∀ side, updatedInput (propagateTo d m) m side = updatedInput d m side := fun side =>
    updatedInput_congr fun k hk => propagateTo_get?_of_ne d fun e => hself side (e ▸ hk)
  have hn := d.get?_eq_none.mpr hnew
  constructor
  · intro h side
    rw [hu]
    unfold propagateTo at h
    dsimp only at h
    split at h
    · next hsame =>
      cases side with
      | one => exact hsame.1
      | two => exact hsame.2
    · rw [Dict.get?_set_self] at h
      cases h
  · intro m' h
    simp only [hu]
    unfold propagateTo at h
    dsimp only at h
    split at h
    · rw [hn] at h
      cases h
    · next hsame =>
      rw [Dict.get?_set_self] at h
      refine ⟨(Option.some.inj h).symm, ?_⟩
      by_cases h1 : m.input .one = updatedInput d m .one
      · exact ⟨.two, fun h2 => hsame ⟨h1, h2⟩⟩
      · exact ⟨.one, h1⟩

theorem Propagated.congr {d d' : Dict MatchId Match} {m : Match} (h : Propagated d m)
    (hm : d'.get? m.id = d.get? m.id)
    (hs : ∀ side k, m.winnerFrom side = some k → d'.get? k = d.get? k) : Propagated d' m := by
  have hu : ∀ side, updatedInput d' m side = updatedInput d m side := fun side =>
    updatedInput_congr (hs side)
  constructor
  · intro hk side
    rw [hu]
    exact h.kept (hm ▸ hk) side
  · intro m' hk
    rw [hu, hu]
    obtain ⟨e, side, hne⟩ := h.written m' (hm ▸ hk)
    exact ⟨e, side, by rwa [hu]⟩

/-- **The walk**: in the final dictionary every later match has the inputs that the dictionary's
    winners give it. The induction is on the matches still ahead; a match that has been passed is
    settled because its sources are not ahead. -/
theorem propagate_spec (xs : List Match) (d : Dict MatchId Match) (hnd : (xs.map (·.id)).Nodup)
    (hnew : ∀ x ∈ xs, x.id ∉ d.keys) (hself : ∀ x ∈ xs, ∀ side, x.winnerFrom side ≠ some x.id)
    (hord : xs.Pairwise fun x y => ∀ side, x.winnerFrom side ≠ some y.id) :
    ∀ x ∈ xs, Propagated (xs.foldl propagateTo d) x := by
  induction xs generalizing d with
  | nil => exact fun x hx => absurd hx List.not_mem_nil
  | cons x xs ih =>
    rw [List.map_cons, List.nodup_cons] at hnd
    rw [List.pairwise_cons] at hord
    have hxs : ∀ y ∈ xs, y.id ≠ x.id := fun y hy e =>
      hnd.1 (e ▸ List.mem_map_of_mem (f := fun m : Match => m.id) hy)
    intro y hy
    rw [List.foldl_cons]
    rcases List.mem_cons.mp hy with rfl | hy
    · have h := propagateTo_propagated (hnew y List.mem_cons_self) (hself y List.mem_cons_self)
      refine h.congr (foldl_propagateTo_get? xs _ hnd.1) fun side k hk => ?_
      refine foldl_propagateTo_get? xs _ fun hm => ?_
      obtain ⟨z, hz, rfl⟩ := List.mem_map.mp hm
      exact hord.1 z hz side hk
    · refine ih _ hnd.2 (fun z hz hk => ?_) (fun z hz => hself z (List.mem_cons_of_mem _ hz))
        hord.2 y hy
      have hz' := hnew z (List.mem_cons_of_mem _ hz)
      rw [← Dict.get?_isSome, propagateTo_get?_of_ne d (hxs z hz), Dict.get?_isSome] at hk
      exact hz' hk

end Brackets
