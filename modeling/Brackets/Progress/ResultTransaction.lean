/-
  File:      Brackets/Progress/ResultTransaction.lean
  Subject:   A result entered, as a transaction.

  A request that enters a result runs as a READ COMMITTED transaction: its score write, its read of
  the stage item, its writes of the statistics of every input with a team and of the inputs of
  later matches (`resultTransaction`). A replanning writes times only and is left out.

  * `resultTransaction_effect`: what a transaction that saw one state stores in another;
  * `exact_of_effect`: the statistics it stores are exact if the matches read as they did for it;
  * `Tree.result_entry`: a transaction on its own is a score entry.
-/
import Brackets.Progress.Interleaving
import Brackets.Progress.StoredResults

namespace Brackets

open Library

/-! ## 1. The transaction -/

/-- The rows the request locks: matches and inputs. -/
inductive RowKey where
  | match_ (k : MatchId)
  | input (k : StageItemInputId)
  deriving DecidableEq

/-- What the request computes from its read of the stage item. -/
def resultUpdates (E : ExpectedScore) (db : Database) (tid : TournamentId) (k : StageItemId)
    (m : MatchRow) : Outcome ((StageItemWithRounds × StatisticsDict) × List (MatchId × Match)) := do
  let now ← rankingNow E db tid k
  let updates ← inputUpdates db tid k m
  .ok (now, updates)

/-- The writes of the statistics. -/
def statisticsWrites (tid : TournamentId) (item : StageItemWithRounds) (d : StatisticsDict) :
    List (Write Database RowKey) :=
  (teamXStageItemInputLookup item).values.map fun k =>
    ⟨.input k, fun db => updateTeamStats db tid k (d.getD k (initialStatistics item.type))⟩

/-- The writes of the inputs of later matches. -/
def laterInputWrites (updates : List (MatchId × Match)) : List (Write Database RowKey) :=
  updates.map fun e => ⟨.match_ e.2.id, fun db => setInputIds db e.2⟩

/-- `update_match_by_id` on the match `m` of the stage item `k`, as a transaction: the score write,
    the read of the stage item, the writes of the statistics and of the inputs of later matches. -/
def resultTransaction (E : ExpectedScore) (tid : TournamentId) (k : StageItemId) (m : MatchRow)
    (body : MatchBody) : Transaction Database RowKey where
  before := [⟨.match_ m.id, fun db => sqlUpdateMatch db m.id body⟩]
  after db :=
    match resultUpdates E db tid k m with
    | .ok (now, updates) => some (statisticsWrites tid now.1 now.2 ++ laterInputWrites updates)
    | .error _ => none

section Transaction

variable {E : ExpectedScore} {db t : Database} {tid : TournamentId} {k : StageItemId} {m : MatchRow}
  {body : MatchBody} {item : StageItemWithRounds} {d : StatisticsDict}
  {updates : List (MatchId × Match)}

theorem resultTransaction_effect {seen s s' : Database}
    (h : Sessions.Effect (resultTransaction E tid k m body) seen s s') : ∃ item d updates,
      rankingNow E (sqlUpdateMatch seen m.id body) tid k = .ok (item, d) ∧
      inputUpdates (sqlUpdateMatch seen m.id body) tid k m = .ok updates ∧
      s' = updates.foldl (fun db e => setInputIds db e.2)
        (storeStatistics tid item d (sqlUpdateMatch s m.id body)) := by
  obtain ⟨ws, hafter, rfl⟩ := h
  unfold resultTransaction at hafter
  dsimp only at hafter
  split at hafter
  · next now updates hupdates =>
    cases hafter
    obtain ⟨now', hnow, hrest⟩ := bind_eq_ok.mp hupdates
    obtain ⟨updates', hup, hrest⟩ := bind_eq_ok.mp hrest
    cases hrest
    refine ⟨now.1, now.2, updates, hnow, hup, ?_⟩
    rw [Sessions.applyAll_append, Sessions.applyAll_append, Sessions.applyAll, Sessions.applyAll,
      laterInputWrites, statisticsWrites, List.foldl_map, List.foldl_map]
    rfl
  · cases hafter

theorem storeStatistics_matches : (storeStatistics tid item d t).matches_ = t.matches_ :=
  foldl_project Database.matches_ (fun db k => updateTeamStats db tid k _) (fun _ _ => rfl) _ t

theorem storeStatistics_unscored : (storeStatistics tid item d t).unscored = t.unscored :=
  foldl_project _ _ (fun db k => updateTeamStats_unscored db tid k _) _ _

theorem storeStatistics_bare : (storeStatistics tid item d t).bare = t.bare :=
  bare_of_unscored storeStatistics_unscored

theorem frame_of_bare {db db' : Database} (h : db'.bare = db.bare) : db'.frame = db.frame :=
  congrArg (fun d : Database => { d with matches_ := .empty }) h

/-- The inputs after the writes of a transaction. -/
theorem written_inputs (x : StageItemInputId) :
    (updates.foldl (fun db e => setInputIds db e.2) (storeStatistics tid item d t)).stageItemInputs.find?
      x = (t.stageItemInputs.find? x).map (restored tid (teamXStageItemInputLookup item).values
        fun i => d.getD i (initialStatistics item.type)) := by
  rw [foldl_project Database.stageItemInputs (fun d (e : MatchId × Match) => setInputIds d e.2)
    (fun _ _ => rfl) updates, storeStatistics]
  exact foldl_updateTeamStats_find? _ t x

theorem written_frame :
    (updates.foldl (fun db e => setInputIds db e.2) (storeStatistics tid item d t)).frame =
      t.frame := by
  rw [foldl_setInputIds_frame, frame_of_bare storeStatistics_bare]

/-- Outside of single elimination stage items no input of a match is written. -/
theorem inputUpdates_otherwise (h : inputUpdates db tid k m = .ok updates)
    (hnow : rankingNow E db tid k = .ok (item, d)) (htype : item.type ≠ .singleElimination) :
    updates = [] := by
  obtain ⟨row, ranking, hrow, htour, rfl, hv, -, -⟩ := rankingNow_eq_ok.mp hnow
  obtain ⟨item', hitem, h⟩ := bind_eq_ok.mp h
  obtain ⟨row', hrow', -, rfl, -⟩ := getStageItem_eq_ok.mp hitem
  rw [hrow] at hrow'
  cases hrow'
  rw [if_neg htype] at h
  exact (Except.ok.inj h).symm

/-- The transaction depends on the id and the round of the match only. -/
theorem resultTransaction_congr {m' : MatchRow} (hid : m'.id = m.id) (hround : m'.roundId = m.roundId) :
    resultTransaction E tid k m' body = resultTransaction E tid k m body := by
  unfold resultTransaction resultUpdates inputUpdates
  rw [hid, hround]

end Transaction

/-! ## 2. What the ranking reads of a row -/

section Rows

variable {db db' : Database} {k : StageItemId} {a b : MatchRow}

theorem resultWith_congr (hids : a.inputId = b.inputId)
    (h1 : a.stageItemInput1Score = b.stageItemInput1Score)
    (h2 : a.stageItemInput2Score = b.stageItemInput2Score) (known : StageItemInputId → Bool) :
    a.resultWith known = b.resultWith known := by
  have hone : a.stageItemInput1Id = b.stageItemInput1Id := congrFun hids .one
  have htwo : a.stageItemInput2Id = b.stageItemInput2Id := congrFun hids .two
  unfold MatchRow.resultWith
  rw [hone, htwo, h1, h2]

theorem reading_of_result (hid : a.id = b.id) (hround : a.roundId = b.roundId)
    (h : db.published b.roundId = true → a.resultWith (db.knows k) = b.resultWith (db.knows k)) :
    db.reading k a = db.reading k b := by
  unfold Database.reading Database.resultOf
  rw [hid, hround]
  split
  · next hp => rw [h hp]
  · rfl

theorem reading_of_frame (hframe : db'.frame = db.frame) : db'.reading k = db.reading k := by
  have hknows : db'.knows k = db.knows k := funext (knows_of_frame hframe k)
  funext m
  unfold Database.reading Database.resultOf Database.published
  rw [hknows, rounds_of_frame hframe]

/-- The match has no score. -/
def MatchRow.Unscored (m : MatchRow) : Prop :=
  m.stageItemInput1Score = 0 ∧ m.stageItemInput2Score = 0

def MatchBody.Unscored (body : MatchBody) : Prop :=
  body.stageItemInput1Score = 0 ∧ body.stageItemInput2Score = 0

theorem scoredRow_unscored {x : MatchId} {body : MatchBody} (h : a.Unscored)
    (hbody : a.id = x → body.Unscored) : (scoredRow x body a).Unscored := by
  by_cases hx : a.id = x
  · rw [scoredRow, if_pos (by simpa using hx)]
    exact ⟨by simp [(hbody hx).1], by simp [(hbody hx).2]⟩
  · rwa [scoredRow_of_ne body hx]

theorem MatchRow.Unscored.resultWith (h : a.Unscored) (known : StageItemInputId → Bool) :
    a.resultWith known = none := MatchRow.resultWith_of_unscored h.1 h.2 known

theorem resultWith_of_empty {s : Side} (h : a.inputId s = none)
    (known : StageItemInputId → Bool) : a.resultWith known = none := by
  refine MatchRow.resultWith_of_unknown (s := s) ?_
  rw [h]
  rfl

end Rows

/-! ## 3. What a transaction stores -/

section Stored

variable {E : ExpectedScore} {db : Database} {tid : TournamentId} {row : StageItemRow}

/-- What a transaction stores is exact if the matches read as they did for it. -/
theorem exact_of_effect {k : StageItemId} {m : MatchRow} {body : MatchBody} {seen t final : Database}
    (hU : TeamsOnce seen) (h : Sessions.Effect (resultTransaction E tid k m body) seen t final)
    (hframe : t.frame = seen.frame)
    (hreading : ∀ x, (final.matches_.find? x).map (seen.reading k) =
      ((sqlUpdateMatch seen m.id body).matches_.find? x).map (seen.reading k))
    (hids : ∀ x a b, final.InItem k a → final.matches_.find? x = some a →
      (sqlUpdateMatch seen m.id body).matches_.find? x = some b → ∀ side i,
        a.inputId side = some i → KnownInput seen tid k i ∨ b.inputId side = some i) :
    StatisticsExact E final tid k := by
  obtain ⟨item, d, updates, hnow, -, hfinal⟩ := resultTransaction_effect h
  have hsame : final.frame = (sqlUpdateMatch seen m.id body).frame := by
    rw [hfinal, written_frame]
    exact hframe
  have hseen : (sqlUpdateMatch seen m.id body).reading k = seen.reading k := reading_of_frame rfl
  have hread : final.reading k = seen.reading k := (reading_of_frame hsame).trans hseen
  have hU : TeamsOnce (sqlUpdateMatch seen m.id body) := hU
  refine exact_of_stored (t := sqlUpdateMatch t m.id body) hU hnow hsame
    (fun row hrow hv => valid_of_frame hsame hv fun a ha side i hi => ?_)
    (storedResults_of_frame hsame fun x => by rw [hread, hseen, hreading]) fun x => by
      rw [hfinal]
      exact written_inputs x
  have hid : row.id = k := seen.stageItems.key_of_find? hrow
  subst hid
  have hfind : final.matches_.find? a.id = some a := final.matches_.find?_key ha.1
  have hr := hreading a.id
  rw [hfind, Option.map_some] at hr
  obtain ⟨b, hb, e⟩ := Option.map_eq_some_iff.mp hr.symm
  have hround : b.roundId = a.roundId := congrArg (fun r => r.2.1) e
  refine (hids a.id a b ha hfind hb side i hi).imp (fun h => h) fun h => ⟨b, side, ⟨?_, ?_⟩, h⟩
  · exact Table.mem_of_find? _ hb
  · rw [hround, ← ha.2, Database.roundItem, Database.roundItem, rounds_of_frame hsame]

/-- A transaction on its own is a score entry. -/
theorem Tree.result_entry (hT : Tree db tid row) {m : MatchRow} {body : MatchBody}
    (hm : db.InItem row.id m) {db' : Database}
    (h : Sessions.Effect (resultTransaction E tid row.id m body) db db db') :
    Nonempty (Entry db tid m.id body db') := by
  obtain ⟨item, d, updates, -, hup, rfl⟩ := resultTransaction_effect h
  exact hT.entry_of_updates hm storeStatistics_bare hup

/-- The writes of a transaction that read the state `db`, applied to another state. -/
theorem Tree.result_rows (hT : Tree db tid row) {m : MatchRow} {body : MatchBody}
    (hm : db.InItem row.id m) (hround : body.roundId = m.roundId) {db' t t' : Database}
    (e : Entry db tid m.id body db')
    (h : Sessions.Effect (resultTransaction E tid row.id m body) db t t') :
    t'.frame = t.frame ∧ ∀ x, t'.matches_.find? x = (t.matches_.find? x).map fun a =>
      withUpdate (writtenInputs e.loaded e.loadedRound e.loadedMatch) (scoredRow m.id body a) := by
  obtain ⟨item, d, updates, -, hup, rfl⟩ := resultTransaction_effect h
  refine ⟨written_frame, fun x => ?_⟩
  rw [hT.updates_rows hm hround e hup, storeStatistics_matches, sqlUpdateMatch_find?,
    Option.map_map]
  rfl

end Stored

end Brackets
