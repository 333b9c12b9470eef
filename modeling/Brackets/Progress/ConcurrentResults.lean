/-
  File:      Brackets/Progress/ConcurrentResults.lean
  Subject:   Two results of one stage item entered at the same time.

  Each request runs as a transaction of its own. The statistics of the request that commits last are
  the ones that stay stored.

  * `KeepsResult`: the entry leaves the result of its match as it was;
  * `Detached`: in a single elimination stage item, the matches that get other inputs through the
    entries do not count. It is asked of entries that overlap; of one that reads what the other
    has committed only that it is `Undisturbed`;
  * `statisticsExact_of_keepsResult`: in every run that meets these conditions the stored
    statistics are exact at the end;
  * `result_lost`: two results of a group entered at the same time.
-/
import Brackets.Progress.Corrections

namespace Brackets

open Library

/-! ## 1. Entries that lose no result -/

/-- The entry leaves the result of its match as it was: it has that score already, or the match
    does not count. -/
def KeepsResult (db : Database) (k : StageItemId) (m : MatchRow) (body : MatchBody) : Prop :=
  ((body.stageItemInput1Score : Int) = m.stageItemInput1Score ∧
    (body.stageItemInput2Score : Int) = m.stageItemInput2Score) ∨
  db.published m.roundId = false ∨ ∃ side, (m.inputId side).filter (db.knows k) = none

/-- The match does not count, before and after the entries: it has no score and gets none, or it
    has a slot that is empty and that no entry fills. -/
def Uncounted (db : Database) (k : StageItemId) (m : Bool → MatchRow) (body : Bool → MatchBody)
    (x : MatchRow) : Prop :=
  (x.Unscored ∧ ∀ i, x.id = (m i).id → (body i).Unscored) ∨
  (∀ i, x.id ≠ (m i).id) ∧ ∃ side, x.inputId side = none ∧
    ∀ i, ¬ Touched db k (m i) (body i) x.id side

/-- The matches that get other inputs through the entries do not count. -/
def Detached (db : Database) (k : StageItemId) (m : Bool → MatchRow) (body : Bool → MatchBody) :
    Prop :=
  ∀ i x side, db.InItem k x → Touched db k (m i) (body i) x.id side → Uncounted db k m body x

theorem KeepsResult.reading {db : Database} {k : StageItemId} {m : MatchRow} {body : MatchBody}
    (hK : KeepsResult db k m body) (hround : body.roundId = m.roundId) :
    db.reading k (scoredRow m.id body m) = db.reading k m := by
  have hself := scoredRow_roundId body (rfl : m.id = m.id)
  refine reading_of_result (scoredRow_id _ _ _) (hself.trans hround) fun hpublished => ?_
  have hids : (scoredRow m.id body m).inputId = m.inputId := funext (scoredRow_inputId _ _ _)
  rcases hK with ⟨h1, h2⟩ | hdraft | ⟨side, hside⟩
  · refine resultWith_congr hids ?_ ?_ _
    · rw [scoredRow, if_pos (beq_self_eq_true _)]
      exact h1
    · rw [scoredRow, if_pos (beq_self_eq_true _)]
      exact h2
  · rw [hdraft] at hpublished
    cases hpublished
  · rw [MatchRow.resultWith_of_unknown hside,
      MatchRow.resultWith_of_unknown (s := side) (by rw [hids]; exact hside)]

/-- A score that keeps the result of its match is not seen by the other entry. -/
theorem KeepsResult.reading_both {db : Database} {k : StageItemId} {m : MatchRow}
    {body body' : MatchBody} {x : MatchId} (hK : KeepsResult db k m body)
    (hround : body.roundId = m.roundId) (hm : m ∈ db.matches_.rows) (hne : m.id ≠ x) {a : MatchRow}
    (ha : a ∈ db.matches_.rows) :
    db.reading k (scoredRow x body' (scoredRow m.id body a)) = db.reading k (scoredRow x body' a) := by
  by_cases hid : a.id = m.id
  · obtain rfl : a = m := db.matches_.eq_of_key ha hm hid
    rw [scoredRow_of_ne body' hne, scoredRow_of_ne body' ((scoredRow_id _ _ _).trans_ne hne)]
    exact hK.reading hround
  · rw [scoredRow_of_ne body hid]

section Elimination

variable {db d₁ d₂ : Database} {tid : TournamentId} {row : StageItemRow} {m : Bool → MatchRow}
  {body : Bool → MatchBody} {i : Bool} (hT : Tree db tid row) (hm : ∀ i, db.InItem row.id (m i))
  (hround : ∀ i, (body i).roundId = (m i).roundId) (hne : (m i).id ≠ (m (!i)).id)
  (hD : Detached db row.id m body)
  (e₁ : Entry db tid (m i).id (body i) d₁)

theorem Touched.inItem {k : StageItemId} {m : MatchRow} {body : MatchBody} {y : MatchId} {side : Side}
    (h : Touched db k m body y side) : ∃ x, db.InItem k x ∧ x.id = y := by
  have hfed : ∃ j, db.slotSource k y side = some j := by
    cases h with
    | reader fed => exact ⟨_, fed⟩
    | next _ _ _ _ fed => exact ⟨_, fed⟩
  obtain ⟨j, hj⟩ := hfed
  obtain ⟨x, hx, hid, -⟩ := slotSource_eq_some.mp hj
  exact ⟨x, hx, hid⟩

include hT hm hround

include e₁ in
theorem Tree.slots_untouched {a : MatchRow} (ha : a ∈ db.matches_.rows) {side : Side}
    (h : ¬ Touched db row.id (m i) (body i) a.id side) : d₁.slots a.id side = a.inputId side := by
  rw [← slots_of_mem ha]
  by_contra hno
  exact h ((hT.touched_iff (hm i) (hround i) e₁).mp hno)

include hne hD

/-- **Both from the same state**: every match reads as it did for the second. -/
theorem Tree.reading_both (e₂ : Entry db tid (m (!i)).id (body (!i)) d₂)
    (hK : KeepsResult db row.id (m i) (body i)) {a : MatchRow} (ha : a ∈ db.matches_.rows) :
    db.reading row.id (rowAfterBoth e₁ e₂ a) =
      db.reading row.id (scoredRow (m (!i)).id (body (!i)) a) := by
  obtain ⟨ids, hrow⟩ := rowAfterBoth_eq e₁ e₂ a
  have hrounds : ∀ (j : Bool) (b : MatchRow), b.id = a.id → b.roundId = a.roundId →
      (scoredRow (m j).id (body j) b).roundId = a.roundId := by
    intro j b hid hb
    by_cases hj : b.id = (m j).id
    · rw [scoredRow_roundId (body j) hj, hround j,
        ← db.matches_.eq_of_key ha (hm j).1 (hid.symm.trans hj)]
    · rw [scoredRow_of_ne (body j) hj, hb]
  have hkeep : ∀ side, (∀ j, ¬ Touched db row.id (m j) (body j) a.id side) →
      ids side = a.inputId side := by
    intro side hno
    have hids : (rowAfterBoth e₁ e₂ a).inputId side = ids side := by
      rw [hrow, MatchRow.inputId_withInputIds]
    rw [← hids]
    rcases rowAfterBoth_inputId_or hT (hm i) (hm (!i)) (hround i) (hround (!i)) e₁ e₂ ha with
      ⟨h, -⟩ | ⟨h, -⟩
    · rw [h]
      exact hT.slots_untouched hm hround e₁ ha (hno i)
    · rw [h]
      exact hT.slots_untouched hm hround e₂ ha (hno (!i))
  have hid : (scoredRow (m i).id (body i) a).id = a.id := scoredRow_id _ _ _
  rw [hrow]
  by_cases ht : ∃ j side, Touched db row.id (m j) (body j) a.id side
  · obtain ⟨j, side, ht⟩ := ht
    obtain ⟨x, hx, hxid⟩ := ht.inItem
    obtain rfl : x = a := db.matches_.eq_of_key hx.1 ha hxid
    refine reading_of_result ?_ ?_ fun _ => ?_
    · exact (scoredRow_id _ _ _).trans (hid.trans (scoredRow_id _ _ _).symm)
    · exact (hrounds _ _ hid (hrounds _ _ rfl rfl)).trans (hrounds _ _ rfl rfl).symm
    rcases hD j x side hx ht with ⟨hzero, hbody⟩ | ⟨hno, s, hempty, huntouched⟩
    · have h1 := scoredRow_unscored hzero (hbody i)
      have h2 := scoredRow_unscored h1 fun h => hbody (!i) (hid.symm.trans h)
      rw [(show (MatchRow.withInputIds _ ids).Unscored from h2).resultWith,
        (scoredRow_unscored hzero (hbody (!i))).resultWith]
    · rw [resultWith_of_empty (s := s), resultWith_of_empty (s := s)]
      · rw [scoredRow_inputId, hempty]
      · rw [MatchRow.inputId_withInputIds, hkeep s huntouched, hempty]
  · have hsame : ids = a.inputId := funext fun side => hkeep side fun j h => ht ⟨j, side, h⟩
    rw [hsame, ← scoredRow_withInputIds, ← scoredRow_withInputIds, MatchRow.withInputIds_inputId]
    exact hK.reading_both (hround i) (hm i).1 hne ha

end Elimination

/-! ## 2. All interleavings -/

section Claims

variable {E : ExpectedScore} {db : Database} {tid : TournamentId} {row : StageItemRow}
  {m : Bool → MatchRow} {body : Bool → MatchBody} {s : Sessions Database RowKey}

/-- The stage item is no single elimination: the matches are written by the scores only. -/
theorem exact_otherwise (hU : TeamsOnce db) (hm : ∀ i, db.InItem row.id (m i))
    (hround : ∀ i, (body i).roundId = (m i).roundId) (hrow : db.stageItems.find? row.id = some row)
    (htype : row.type ≠ .singleElimination) {i : Bool} (hne : (m i).id ≠ (m (!i)).id)
    {between seen final : Database}
    (h1 : Sessions.Effect (resultTransaction E tid row.id (m i) (body i)) db db between)
    (h2 : Sessions.Effect (resultTransaction E tid row.id (m (!i)) (body (!i))) seen between final)
    (hsaw : seen = between ∨ seen = db ∧ KeepsResult db row.id (m i) (body i)) :
    StatisticsExact E final tid row.id := by
  have hwrites : ∀ {j : Bool} {seen t t' : Database}, seen.frame = db.frame →
      Sessions.Effect (resultTransaction E tid row.id (m j) (body j)) seen t t' →
      t'.matches_ = (sqlUpdateMatch t (m j).id (body j)).matches_ ∧ t'.frame = t.frame := by
    intro j seen t t' hframe h
    obtain ⟨item, d, updates, hnow, hup, rfl⟩ := resultTransaction_effect h
    obtain ⟨row', ranking, hrow', -, hitem, -⟩ := rankingNow_eq_ok.mp hnow
    have hfound : seen.stageItems.find? row.id = some row := by
      rw [stageItems_of_frame hframe]
      exact hrow
    obtain rfl : row = row' := Option.some.inj (hfound.symm.trans hrow')
    obtain rfl := inputUpdates_otherwise hup hnow (by rw [hitem]; exact htype)
    exact ⟨storeStatistics_matches, written_frame⟩
  obtain ⟨hmatches₁, hframe₁⟩ := hwrites rfl h1
  rcases hsaw with rfl | ⟨rfl, hK⟩
  · obtain ⟨hmatches₂, -⟩ := hwrites hframe₁ h2
    refine exact_of_effect (teamsOnce_of_frame hframe₁ hU) h2 rfl (fun x => by rw [hmatches₂])
      fun x a b _ ha hb side i hi => Or.inr ?_
    rw [hmatches₂, hb] at ha
    rw [Option.some.inj ha]
    exact hi
  · obtain ⟨hmatches₂, -⟩ := hwrites rfl h2
    have hfinal : ∀ x, final.matches_.find? x = (seen.matches_.find? x).map fun a =>
        scoredRow (m (!i)).id (body (!i)) (scoredRow (m i).id (body i) a) := by
      intro x
      rw [hmatches₂, sqlUpdateMatch_find?, hmatches₁, sqlUpdateMatch_find?, Option.map_map]
      rfl
    refine exact_of_effect hU h2 hframe₁ (fun x => ?_) fun x a b _ ha hb side j hj => Or.inr ?_
    · rw [hfinal, sqlUpdateMatch_find?, Option.map_map, Option.map_map]
      exact Option.map_congr fun a ha => hK.reading_both (hround i) (hm i).1 hne
        (seen.matches_.mem_of_find? ha)
    · rw [hfinal] at ha
      rw [sqlUpdateMatch_find?] at hb
      obtain ⟨c, hc, rfl⟩ := Option.map_eq_some_iff.mp ha
      rw [hc] at hb
      cases hb
      rw [scoredRow_inputId, scoredRow_inputId] at hj
      rw [scoredRow_inputId]
      exact hj

section Elimination

variable (hU : TeamsOnce db) (hT : Tree db tid row) (hm : ∀ i, db.InItem row.id (m i))
  (hround : ∀ i, (body i).roundId = (m i).roundId) {i : Bool} {between final : Database}
  (h1 : Sessions.Effect (resultTransaction E tid row.id (m i) (body i)) db db between)
include hU hT hm hround h1

/-- A single elimination stage item, one transaction after the other: the second finds the stage
    item undisturbed. -/
theorem Tree.exact_after
    (h2 : Sessions.Effect (resultTransaction E tid row.id (m (!i)) (body (!i))) between between
      final)
    (hun : ∀ m', between.InItem row.id m' → m'.id = (m (!i)).id →
      Undisturbed between row.id m' (body (!i))) : StatisticsExact E final tid row.id := by
  obtain ⟨e₁⟩ := hT.result_entry (hm i) h1
  have hT₁ : Tree between tid row := hT.step (hm i) (hround i) e₁
  obtain ⟨-, -, hround₁, hW₁, htype₁, -⟩ := hT.entry_facts (hm i) (hround i) e₁
  have hrew := e₁.rewrites hround₁ hW₁ htype₁
  obtain ⟨m', hm', hsame⟩ := hrew.of_old (hm (!i))
  obtain ⟨hid, hr, -⟩ := eq_of_untimed hsame
  rw [hrew.id] at hid
  rw [hrew.roundId _ (hm (!i)).1] at hr
  rw [← resultTransaction_congr hid hr] at h2
  have hround' : (body (!i)).roundId = m'.roundId := (hround (!i)).trans hr.symm
  exact (hT₁.result_exact_iff hm' hround' (teamsOnce_of_frame e₁.frame hU) h2).mpr
    (hun m' hm' hid)

/-- A single elimination stage item, both transactions from the same state. -/
theorem Tree.exact_both (hD : Detached db row.id m body) (hne : (m i).id ≠ (m (!i)).id)
    (h2 : Sessions.Effect (resultTransaction E tid row.id (m (!i)) (body (!i))) db between final)
    (hK : KeepsResult db row.id (m i) (body i)) : StatisticsExact E final tid row.id := by
  obtain ⟨e₁⟩ := hT.result_entry (hm i) h1
  have hT₁ : Tree between tid row := hT.step (hm i) (hround i) e₁
  obtain ⟨-, -, hround₁, hW₁, htype₁, -⟩ := hT.entry_facts (hm i) (hround i) e₁
  obtain ⟨item₂, d₂, updates₂, -, hup₂, -⟩ := resultTransaction_effect h2
  obtain ⟨e₂⟩ := hT.entry_of_updates (hm (!i)) rfl hup₂
  have hT₂ := hT.step (hm (!i)) (hround (!i)) e₂
  obtain ⟨-, -, hround₂, hW₂, htype₂, -⟩ := hT.entry_facts (hm (!i)) (hround (!i)) e₂
  obtain ⟨-, hrows₁⟩ := hT.result_rows (hm i) (hround i) e₁ h1
  obtain ⟨hframe₂, hrows₂⟩ := hT.result_rows (hm (!i)) (hround (!i)) e₂ h2
  have hrows : ∀ x, final.matches_.find? x = (db.matches_.find? x).map (rowAfterBoth e₁ e₂) := by
    intro x
    rw [hrows₂, hrows₁, Option.map_map]
    refine Option.map_congr fun a ha => ?_
    rw [Function.comp, e₁.withUpdate_eq hround₁ hW₁ (db.matches_.mem_of_find? ha)]
    rfl
  have hreading : ∀ a ∈ db.matches_.rows, db.reading row.id (rowAfterBoth e₁ e₂ a) =
      db.reading row.id (scoredRow (m (!i)).id (body (!i)) a) := fun a ha =>
    hT.reading_both hm hround hne hD e₁ e₂ hK ha
  refine exact_of_effect hU h2 e₁.frame (fun x => ?_) fun x a b ha hfind _ side j hj => Or.inl ?_
  · rw [hrows, sqlUpdateMatch_find?, Option.map_map, Option.map_map]
    exact Option.map_congr fun a ha => hreading a (db.matches_.mem_of_find? ha)
  rw [hrows] at hfind
  obtain ⟨c, hc, rfl⟩ := Option.map_eq_some_iff.mp hfind
  have hmem := db.matches_.mem_of_find? hc
  have hin : db.InItem row.id c := by
    have hkept : (rowAfterBoth e₁ e₂ c).roundId = (scoredRow (m (!i)).id (body (!i)) c).roundId :=
      congrArg (fun r => r.2.1) (hreading c hmem)
    have := ha.2
    rw [hkept, (e₂.scored_rewrites hround₂).roundId c hmem] at this
    rw [Database.roundItem, rounds_of_frame (hframe₂.trans e₁.frame)] at this
    exact ⟨hmem, this⟩
  -- each entry gives the match inputs of the stage item
  have hknown : ∀ {c' : Database} {f : MatchRow → MatchRow}, Rewrites db c' f → Tree c' tid row →
      c'.frame = db.frame → c'.slots c.id side = some j → KnownInput db tid row.id j := by
    intro c' f hrew hT' hframe hslot
    obtain ⟨n, hn, e⟩ := hrew.of_old hin
    have hnid : n.id = c.id := (eq_of_untimed e).1.trans (hrew.id c)
    rw [← hnid, slots_of_mem hn.1] at hslot
    exact known_of_frame hframe.symm (hT'.wired.known n hn side j hslot)
  rcases rowAfterBoth_inputId_or hT (hm i) (hm (!i)) (hround i) (hround (!i)) e₁ e₂ hmem with
    ⟨h, -⟩ | ⟨h, -⟩
  · exact hknown (e₁.rewrites hround₁ hW₁ htype₁) hT₁ e₁.frame (by rw [← h]; exact hj)
  · exact hknown (e₂.rewrites hround₂ hW₂ htype₂) hT₂ e₂.frame (by rw [← h]; exact hj)

end Elimination

/-- What the entry `i` keeps when it is committed over the other's read. -/
def LosesNothing (db : Database) (row : StageItemRow) (m : Bool → MatchRow) (body : Bool → MatchBody)
    (i : Bool) : Prop :=
  KeepsResult db row.id (m i) (body i) ∧
    (row.type = .singleElimination → Detached db row.id m body)

/-- What the entry `i` finds when it reads what the other has committed. -/
def FindsUndisturbed (row : StageItemRow) (m : Bool → MatchRow) (body : Bool → MatchBody) (i : Bool)
    (db : Database) : Prop :=
  row.type = .singleElimination → ∀ m', db.InItem row.id m' → m'.id = (m i).id →
    Undisturbed db row.id m' (body i)

/-- **Two results at the same time.** In every run in which a transaction commits between the
    other's read and its commit only if that loses nothing, and reads what the other has committed
    only if it finds the stage item undisturbed, the stored statistics of the stage item are exact
    once both have committed. -/
theorem statisticsExact_of_keepsResult (hU : TeamsOnce db) (hm : ∀ i, db.InItem row.id (m i))
    (hround : ∀ i, (body i).roundId = (m i).roundId) (hne : (m true).id ≠ (m false).id)
    (hrow : db.stageItems.find? row.id = some row)
    (htree : row.type = .singleElimination → Tree db tid row)
    (hrun : Relation.ReflTransGen
      (Sessions.StepWhen (fun i => resultTransaction E tid row.id (m i) (body i))
        (LosesNothing db row m body) (FindsUndisturbed row m body))
      (Sessions.start (fun i => resultTransaction E tid row.id (m i) (body i)) db) s)
    (hdone : ∀ i, s.phase i = .committed) : StatisticsExact E s.stored tid row.id := by
  obtain ⟨i, between, seen, h1, h2, hsaw⟩ := Sessions.outcomeWhen hrun hdone
  have hne' : (m i).id ≠ (m (!i)).id := by
    cases i
    · exact hne.symm
    · exact hne
  by_cases htype : row.type = .singleElimination
  · rcases hsaw with ⟨rfl, hun⟩ | ⟨rfl, hK, hD⟩
    · exact (htree htype).exact_after hU hm hround h1 h2 (hun htype)
    · exact (htree htype).exact_both hU hm hround h1 (hD htype) hne' h2 hK
  · exact exact_otherwise hU hm hround hrow htype hne' h1 h2
      (hsaw.imp And.left fun h => ⟨h.1, h.2.1⟩)

end Claims

/-! ### A semifinal and then the final -/

/-- The second semifinal has been played. -/
def halfPlayedCup : Database :=
  { cup with
    matches_ := ⟨[cupMatch 1 1 (some 1) (some 2) none none,
      { cupMatch 2 1 (some 3) (some 4) none none with stageItemInput1Score := 1 },
      cupMatch 3 2 none (some 3) (some 1) (some 2)], 4, by decide, by decide⟩ }

theorem halfPlayedCup_tree : Tree halfPlayedCup 1 cupItem :=
  TreeRows.tree (by decide) rfl rfl rfl (by decide)

def lateMatch (i : Bool) : MatchRow :=
  if i then cupMatch 1 1 (some 1) (some 2) none none else cupMatch 3 2 none (some 3) (some 1) (some 2)

def lateBody (i : Bool) : MatchBody := if i then cupBody 1 2 0 else cupBody 2 1 0

def lateEntries (i : Bool) : Transaction Database RowKey :=
  resultTransaction noExpectation 1 1 (lateMatch i) (lateBody i)

/-- No match waits for the winner of the match. -/
def isLast (db : Database) (x : MatchId) : Bool :=
  db.matches_.rows.all fun a => a.winnerFrom .one != some x && a.winnerFrom .two != some x

/-- Nobody commits over a read, and what is read after a commit is about a last match. -/
def inTurn (s : Sessions Database RowKey) (i : Bool) : Bool :=
  s.calm i && match s.phase (!i) with
    | .committed => isLast s.stored (lateMatch i).id
    | _ => true

theorem inTurn_finds {s : Sessions Database RowKey} {i : Bool} (h : inTurn s i = true) :
    (s.OverRead i → LosesNothing halfPlayedCup cupItem lateMatch lateBody i) ∧
      (s.ReadsAfter i → FindsUndisturbed cupItem lateMatch lateBody i s.stored) := by
  obtain ⟨hcalm, hlast⟩ := Bool.and_eq_true_iff.mp h
  refine ⟨Sessions.calm_overRead s i hcalm, fun hafter _ m' _ hid => ?_⟩
  rw [hafter.2] at hlast
  refine undisturbed_of_last fun a ha side hw => ?_
  have hboth := List.all_eq_true.mp hlast a ha.1
  rw [hid] at hw
  rw [Bool.and_eq_true, bne_iff_ne, bne_iff_ne] at hboth
  cases side with
  | one => exact hboth.1 hw
  | two => exact hboth.2 hw

/-- The semifinal is entered, read and stored, then the final. -/
def semifinalThenFinal : List Bool :=
  [true, true, true, true, true, true, true, true,
    false, false, false, false, false, false, false]

theorem semifinalThenFinal_done :
    (Sessions.runSchedule inTurn lateEntries semifinalThenFinal
      (Sessions.start lateEntries halfPlayedCup)).map (fun s => (s.done, firstWins s.stored)) =
        some (true, .ok (some (true, 2, 2))) := rfl

/-- One after the other, the winner of the semifinal and the final has two wins. -/
theorem late_statisticsExact : ∃ s, Relation.ReflTransGen (Sessions.StepWhen lateEntries
      (LosesNothing halfPlayedCup cupItem lateMatch lateBody)
      (FindsUndisturbed cupItem lateMatch lateBody))
        (Sessions.start lateEntries halfPlayedCup) s ∧
    (∀ i, s.phase i = .committed) ∧ firstWins s.stored = .ok (some (true, 2, 2)) ∧
    StatisticsExact noExpectation s.stored 1 1 := by
  obtain ⟨s, hs, hv⟩ := Option.map_eq_some_iff.mp semifinalThenFinal_done
  obtain ⟨hdone, hwins⟩ := Prod.mk.inj hv
  have hrun := Sessions.runSchedule_runWhen (fun _ _ => inTurn_finds) _ hs
  have hdone := Sessions.done_iff hdone
  have hm : ∀ i, halfPlayedCup.InItem 1 (lateMatch i) := by
    intro i
    cases i
    · exact ⟨by decide, rfl⟩
    · exact ⟨by decide, rfl⟩
  have hround : ∀ i, (lateBody i).roundId = (lateMatch i).roundId := by
    intro i
    cases i <;> rfl
  have hne : (lateMatch true).id ≠ (lateMatch false).id := by decide
  have hexact := @statisticsExact_of_keepsResult noExpectation halfPlayedCup 1 cupItem lateMatch
    lateBody s (by unfold TeamsOnce; decide) hm hround hne rfl (fun _ => halfPlayedCup_tree) hrun
    hdone
  exact ⟨s, hrun, hdone, hwins, hexact⟩

/-! ### Two matches of a group -/

def groupItem : StageItemRow := ⟨1, "Group", 1, 4, 1, .roundRobin⟩

/-- A group of four teams with a round of two matches. -/
def group : Database :=
  { cup with
    stageItems := ⟨[groupItem], 2, by decide, by decide⟩
    rounds := oneRound
    matches_ := ⟨[cupMatch 1 1 (some 1) (some 2) none none, cupMatch 2 1 (some 3) (some 4) none none],
      3, by decide, by decide⟩ }

/-- The two matches. -/
def groupMatch (i : Bool) : MatchRow :=
  if i then cupMatch 1 1 (some 1) (some 2) none none else cupMatch 2 1 (some 3) (some 4) none none

/-- Two to zero, as in the semifinals. -/
def groupBody : Bool → MatchBody := semifinalBody

def groupEntries (i : Bool) : Transaction Database RowKey :=
  resultTransaction noExpectation 1 1 (groupMatch i) (groupBody i)

/-- Both are scored and read before one of them writes its statistics. -/
def groupSchedule : List Bool :=
  [true, false, true, false, true, true, true, true, true, false, false, false, false, false]

theorem groupSchedule_wins :
    (Sessions.runSchedule (fun _ _ => true) groupEntries groupSchedule
      (Sessions.start groupEntries group)).map (fun s => (s.done, firstWins s.stored)) =
        some (true, .ok (some (true, 0, 1))) := rfl

theorem groupMatch_inItem (i : Bool) : group.InItem 1 (groupMatch i) := by
  cases i
  · exact ⟨by decide, rfl⟩
  · exact ⟨by decide, rfl⟩

/-- **Two results entered at the same time**: both requests commit, and the stored standings have
    lost the result of one. -/
theorem result_lost : TeamsOnce group ∧ (∀ i, group.InItem 1 (groupMatch i)) ∧
    ∃ s, Relation.ReflTransGen (Sessions.Step groupEntries True)
        (Sessions.start groupEntries group) s ∧
      (∀ i, s.phase i = .committed) ∧ ¬ StatisticsExact noExpectation s.stored 1 1 := by
  refine ⟨by unfold TeamsOnce; decide, groupMatch_inItem, ?_⟩
  obtain ⟨s, hs, hv⟩ := Option.map_eq_some_iff.mp groupSchedule_wins
  obtain ⟨hdone, hwins⟩ := Prod.mk.inj hv
  exact ⟨s, Sessions.runSchedule_run (fun _ _ _ _ => trivial) _ hs, Sessions.done_iff hdone,
    not_exact_of_wins hwins (by decide)⟩

end Brackets
