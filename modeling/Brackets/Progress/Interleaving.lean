/-
  File:      Brackets/Progress/Interleaving.lean
  Subject:   Two score entries in one elimination stage item at the same time.

  Each entry runs as a READ COMMITTED transaction of its own: its score write, its read of the
  stage item, its writes of the inputs of later matches (`scoreTransaction`). Nothing keeps one
  from committing between the read and the commit of the other.

  * `Touched`: the slots an entry changes, from the results that are stored before it
    (`Entry.touched_iff`);
  * `Compatible`: the two entries do not meet;
  * `winnersMovedOn_of_compatible`: in every run in which a transaction commits between the other's
    read and its commit only if the entries are compatible, all winners have moved on at the end;
  * `semifinals_lose_winner`: two semifinals scored at the same time.
-/
import Brackets.Library.Sessions
import Brackets.Progress.BracketRuns

namespace Brackets

open Library

/-! ## 1. The slots an entry changes -/

/-- The side with the higher score. -/
def pickSide (score1 score2 : Int) : Option Side :=
  if score1 > score2 then some .one else if score1 < score2 then some .two else none

def MatchRow.pick (m : MatchRow) : Option Side :=
  pickSide m.stageItemInput1Score m.stageItemInput2Score

def MatchBody.pick (body : MatchBody) : Option Side :=
  pickSide body.stageItemInput1Score body.stageItemInput2Score

theorem winnerOf_eq_pick (m : MatchRow) (ids : Side → Option StageItemInputId) :
    m.winnerOf ids = m.pick.bind ids := by
  unfold MatchRow.winnerOf MatchRow.pick pickSide
  split
  · rfl
  · split <;> rfl

theorem pick_scoredRow_self {m : MatchRow} {body : MatchBody} :
    (scoredRow m.id body m).pick = body.pick := by
  rw [scoredRow, if_pos (beq_self_eq_true _)]
  rfl

/-- The slots that scoring `m` with `body` changes: those `m` feeds, if its winner is another one,
    and those a match feeds that picks a changed slot. -/
inductive Touched (db : Database) (k : StageItemId) (m : MatchRow) (body : MatchBody) :
    MatchId → Side → Prop
  | reader {y : MatchId} {side : Side} (fed : db.slotSource k y side = some m.id)
      (other : body.pick.bind m.inputId ≠ m.winnerId) : Touched db k m body y side
  | next {x : MatchRow} {y : MatchId} {s side : Side} (ofItem : db.InItem k x) (ne : x.id ≠ m.id)
      (pick : x.pick = some s) (touched : Touched db k m body x.id s)
      (fed : db.slotSource k y side = some x.id) : Touched db k m body y side

/-- The entries do not meet: no match has slots that both change, and where one changes a slot of
    the other's match, that match picks the slot before and after the other entry, or neither. -/
structure Compatible (db : Database) (k : StageItemId) (m : Bool → MatchRow)
    (body : Bool → MatchBody) : Prop where
  apart : ∀ x s s', Touched db k (m true) (body true) x s →
    ¬ Touched db k (m false) (body false) x s'
  blind : ∀ i s, Touched db k (m (!i)) (body (!i)) (m i).id s →
    ((m i).pick = some s ↔ (body i).pick = some s)

section Touched

variable {db db' : Database} {tid : TournamentId} {m : MatchRow} {body : MatchBody}
  (e : Entry db tid m.id body db') (hround : body.roundId = e.row.roundId)
  (hW : Wired db tid e.item.id) (htype : e.item.type = .singleElimination)
  (hS : Settled db e.item.id) (hm : db.InItem e.item.id m)
include hround hW htype hS hm

omit hS in
theorem Entry.winner_self (ids : Side → Option StageItemInputId) :
    db'.winner m.id ids = body.pick.bind ids := by
  have hfind : db.matches_.find? m.id = some m := db.matches_.find?_key hm.1
  rw [(e.rewrites hround hW htype).winner, hfind, Option.bind_some]
  show (scoredRow m.id body m).winnerOf ids = body.pick.bind ids
  rw [winnerOf_eq_pick, pick_scoredRow_self]

/-- **The slots that differ after the entry are the touched ones.** -/
theorem Entry.touched_iff {y : MatchId} {side : Side} :
    db'.slots y side ≠ db.slots y side ↔ Touched db e.item.id m body y side := by
  have h0 := hS.network hW
  have h1 := e.settled_network hround hW htype hS
  have hown := e.own_slots hround hW htype hS
  have hslots := slots_of_mem hm.1
  constructor
  · have run : ∀ n y side, db.depth y < n → db'.slots y side ≠ db.slots y side →
        Touched db e.item.id m body y side := by
      intro n
      induction n with
      | zero => exact fun y side h => absurd h (Nat.not_lt_zero _)
      | succ n ih =>
        intro y side hn hne
        cases hs : db.slotSource e.item.id y side with
        | none => exact absurd (e.sameLeaves hround hW htype y side hs).symm hne
        | some x =>
          have hx0 := h0 y side x hs
          have hx1 := h1 y side x hs
          by_cases hxm : x = m.id
          · subst hxm
            refine .reader hs fun hsame => hne ?_
            rw [hx1, hx0, hown, hslots, e.winner_self hround hW htype hm, hsame,
              winner_of_mem hm.1]
            rfl
          · obtain ⟨yrow, hyrow, rfl, hw⟩ := slotSource_eq_some.mp hs
            obtain ⟨src, hsrc, rfl, hlt⟩ := hW.source yrow hyrow side x hw
            rw [e.winner_of_ne hround hW htype hxm] at hx1
            rw [hx0, hx1, winner_of_mem hsrc.1, winnerOf_eq_pick, winnerOf_eq_pick] at hne
            cases hpick : src.pick with
            | none =>
              rw [hpick] at hne
              exact absurd rfl hne
            | some s =>
              rw [hpick] at hne
              have hdepth := depth_lt hsrc hyrow.1 hlt
              exact .next hsrc hxm hpick (ih src.id s (by omega) hne) hs
    exact run (db.depth y + 1) y side (Nat.lt_succ_self _)
  · intro h
    induction h with
    | reader fed other =>
      rw [h1 _ _ _ fed, h0 _ _ _ fed, hown, hslots, e.winner_self hround hW htype hm,
        winner_of_mem hm.1]
      exact other
    | next ofItem ne pick _ fed ih =>
      rw [h1 _ _ _ fed, h0 _ _ _ fed, e.winner_of_ne hround hW htype ne, winner_of_mem ofItem.1,
        winnerOf_eq_pick, winnerOf_eq_pick, pick]
      exact ih

end Touched

/-! ## 2. Two entries from the same state -/

section SideBySide

variable {db d₁ d₂ final : Database} {tid : TournamentId} {row : StageItemRow}
  {m₁ m₂ : MatchRow} {body₁ body₂ : MatchBody} (hT : Tree db tid row)
  (hm₁ : db.InItem row.id m₁) (hm₂ : db.InItem row.id m₂)
  (hr₁ : body₁.roundId = m₁.roundId) (hr₂ : body₂.roundId = m₂.roundId) (hne : m₁.id ≠ m₂.id)
  (e₁ : Entry db tid m₁.id body₁ d₁) (e₂ : Entry db tid m₂.id body₂ d₂)

/-- The statements of the second entry, applied to a row that the first has written. -/
def rowAfterBoth (m : MatchRow) : MatchRow :=
  withUpdate (writtenInputs e₂.loaded e₂.loadedRound e₂.loadedMatch)
    (scoredRow m₂.id body₂ (e₁.rowAfter m))

include hT hm₁ hr₁

/-- What an entry on a match of the tree brings with it. -/
theorem Tree.entry_facts : e₁.row = m₁ ∧ e₁.item = row ∧ body₁.roundId = e₁.row.roundId ∧
    Wired db tid e₁.item.id ∧ e₁.item.type = .singleElimination ∧ Settled db e₁.item.id := by
  obtain ⟨hrow, rfl⟩ := hT.entry_item hm₁ e₁
  exact ⟨hrow, rfl, by rw [hrow, hr₁], hT.wired, hT.type, hT.settled⟩

theorem Tree.slots_after {x : MatchId} {m : MatchRow} (hx : db.matches_.find? x = some m) :
    d₁.slots x = (e₁.rowAfter m).inputId := by
  obtain ⟨-, -, hround, hW, htype, -⟩ := hT.entry_facts hm₁ hr₁ e₁
  funext side
  rw [(e₁.rewrites hround hW htype).slots, hx, Option.bind_some]

include e₁ in
/-- **The slots that an entry on a match of the tree changes are the touched ones.** -/
theorem Tree.touched_iff {y : MatchId} {side : Side} :
    d₁.slots y side ≠ db.slots y side ↔ Touched db row.id m₁ body₁ y side := by
  obtain ⟨-, hrow, hround, hW, htype, hS⟩ := hT.entry_facts hm₁ hr₁ e₁
  exact hrow ▸ e₁.touched_iff hround hW htype hS (hrow ▸ hm₁)

include hm₂ hr₂

/-- After both, a match has the inputs that one of the entries gives it; those of the first if the
    second does not change it. -/
theorem rowAfterBoth_inputId_or {m : MatchRow} (hm : m ∈ db.matches_.rows) :
    (rowAfterBoth e₁ e₂ m).inputId = d₁.slots m.id ∧ d₂.slots m.id = db.slots m.id ∨
      (rowAfterBoth e₁ e₂ m).inputId = d₂.slots m.id ∧ d₂.slots m.id ≠ db.slots m.id := by
  obtain ⟨-, -, hround₁, hW₁, -, -⟩ := hT.entry_facts hm₁ hr₁ e₁
  obtain ⟨-, -, hround₂, hW₂, -, -⟩ := hT.entry_facts hm₂ hr₂ e₂
  have hfind : db.matches_.find? m.id = some m := db.matches_.find?_key hm
  have hs₁ : d₁.slots m.id = (e₁.rowAfter m).inputId := hT.slots_after hm₁ hr₁ e₁ hfind
  have hs₂ : d₂.slots m.id = (e₂.rowAfter m).inputId := hT.slots_after hm₂ hr₂ e₂ hfind
  have hkeep₁ : ∀ a, (scoredRow m₂.id body₂ a).inputId = a.inputId := fun a =>
    funext (scoredRow_inputId m₂.id body₂ a)
  have hround : ∀ a ∈ db.matches_.rows, (scoredRow m₂.id body₂ (e₁.rowAfter a)).roundId =
      (scoredRow m₂.id body₂ a).roundId := by
    intro a ha
    have h1 := (e₁.scored_rewrites hround₁).roundId a ha
    unfold scoredRow Entry.rowAfter MatchRow.withInputIds
    by_cases hid : a.id = m₂.id
    · simp [hid]
    · simp [hid, h1]
  have hids : (scoredRow m₂.id body₂ (e₁.rowAfter m)).id = (scoredRow m₂.id body₂ m).id := by
    rw [scoredRow_id, scoredRow_id]
    exact scoredRow_id m₁.id body₁ m
  have hafter₂ := e₂.withUpdate_eq hround₂ hW₂ hm
  rcases withUpdate_alike (writtenInputs e₂.loaded e₂.loadedRound e₂.loadedMatch) hids
      (hround m hm) with ⟨hboth, halone⟩ | ⟨w, hw, hwid, hboth, halone⟩
  · -- the second entry does not write the match
    refine Or.inl ⟨?_, ?_⟩
    · rw [rowAfterBoth, hboth, hkeep₁, hs₁]
    · rw [hs₂, ← hafter₂, halone, hkeep₁, slots_of_mem hm]
  · have hmid : m.id = w.2.id := by rw [hwid, hids, scoredRow_id]
    have hrow : (rowAfterBoth e₁ e₂ m).inputId = w.2.inputId := by
      rw [rowAfterBoth, hboth]
      exact funext (MatchRow.inputId_withInputIds _ _)
    have h2 : d₂.slots m.id = w.2.inputId := by
      rw [hs₂, ← hafter₂, halone]
      exact funext (MatchRow.inputId_withInputIds _ _)
    have hchanged := e₂.written_changes hround₂ hW₂ hw hm hmid
    rw [← slots_of_mem hm, ← h2] at hchanged
    exact Or.inr ⟨hrow.trans h2.symm, hchanged⟩

/-- **After both, a match has the inputs of the entry that changes it.** -/
theorem rowAfterBoth_inputId {m : MatchRow} (hm : m ∈ db.matches_.rows)
    (hapart : d₁.slots m.id = db.slots m.id ∨ d₂.slots m.id = db.slots m.id) :
    (rowAfterBoth e₁ e₂ m).inputId = Network.merge db.slots d₁.slots d₂.slots m.id := by
  rcases rowAfterBoth_inputId_or hT hm₁ hm₂ hr₁ hr₂ e₁ e₂ hm with ⟨hrow, h2⟩ | ⟨hrow, h2⟩
  · rw [hrow]
    by_cases h1 : d₁.slots m.id = db.slots m.id
    · rw [Network.merge_of_eq h1, h1, h2]
    · rw [Network.merge_of_ne h1]
  · rw [Network.merge_of_eq (hapart.resolve_right h2), hrow]

omit hT hm₁ hm₂ hr₁ hr₂ in
/-- Only scores and inputs are written. -/
theorem rowAfterBoth_eq (m : MatchRow) : ∃ ids, rowAfterBoth e₁ e₂ m =
    (scoredRow m₂.id body₂ (scoredRow m₁.id body₁ m)).withInputIds ids := by
  obtain ⟨ids, h⟩ := withUpdate_withInputIds
    (writtenInputs e₂.loaded e₂.loadedRound e₂.loadedMatch) (scoredRow m₂.id body₂ (e₁.rowAfter m))
  refine ⟨ids, ?_⟩
  rw [rowAfterBoth, h, Entry.rowAfter, scoredRow_withInputIds]
  rfl

variable (hfinal : ∀ x, final.matches_.find? x = (db.matches_.find? x).map (rowAfterBoth e₁ e₂))
  (hframe : final.frame = db.frame)
include hfinal hframe

theorem Tree.rewrites_both : Rewrites db final (rowAfterBoth e₁ e₂) where
  rounds := by
    have h : final.frame.rounds = db.frame.rounds := by rw [hframe]
    exact h
  found x := by
    rw [hfinal, Option.map_map]
    rfl
  id m := by
    obtain ⟨ids, h⟩ := rowAfterBoth_eq e₁ e₂ m
    rw [h]
    exact (scoredRow_id _ _ _).trans (scoredRow_id _ _ _)
  roundId m hm := by
    obtain ⟨-, -, hround₁, -⟩ := hT.entry_facts hm₁ hr₁ e₁
    obtain ⟨-, -, hround₂, -⟩ := hT.entry_facts hm₂ hr₂ e₂
    have h1 := (e₁.scored_rewrites hround₁).roundId m hm
    have h2 := (e₂.scored_rewrites hround₂).roundId m hm
    obtain ⟨ids, h⟩ := rowAfterBoth_eq e₁ e₂ m
    rw [h, ← h2]
    show (scoredRow m₂.id body₂ (scoredRow m₁.id body₁ m)).roundId = _
    have hid := scoredRow_id m₁.id body₁ m
    by_cases hk : m.id = m₂.id
    · rw [scoredRow_roundId body₂ (hid.trans hk), scoredRow_roundId body₂ hk]
    · rw [scoredRow_of_ne body₂ (hid.trans_ne hk), scoredRow_of_ne body₂ hk, h1]
  winnerFrom m side := by
    obtain ⟨ids, h⟩ := rowAfterBoth_eq e₁ e₂ m
    rw [h]
    have hw : ((scoredRow m₂.id body₂ (scoredRow m₁.id body₁ m)).withInputIds ids).winnerFrom side =
        (scoredRow m₂.id body₂ (scoredRow m₁.id body₁ m)).winnerFrom side := by
      cases side <;> rfl
    rw [hw, scoredRow_winnerFrom, scoredRow_winnerFrom]

/-- The scores of the first entry count at its match, those of the second elsewhere. -/
theorem Tree.winner_both (hne : m₁.id ≠ m₂.id) : final.winner m₁.id = d₁.winner m₁.id ∧
    ∀ y, y ≠ m₁.id → final.winner y = d₂.winner y := by
  have hrew := hT.rewrites_both hm₁ hm₂ hr₁ hr₂ e₁ e₂ hfinal hframe
  obtain ⟨-, -, hround₁, hW₁, htype₁, -⟩ := hT.entry_facts hm₁ hr₁ e₁
  obtain ⟨-, -, hround₂, hW₂, htype₂, -⟩ := hT.entry_facts hm₂ hr₂ e₂
  have hboth : ∀ m ids, (rowAfterBoth e₁ e₂ m).winnerOf ids =
      (scoredRow m₂.id body₂ (scoredRow m₁.id body₁ m)).winnerOf ids := by
    intro m ids
    obtain ⟨ids', h⟩ := rowAfterBoth_eq e₁ e₂ m
    rw [h]
    rfl
  constructor
  · funext ids
    rw [hrew.winner, (e₁.rewrites hround₁ hW₁ htype₁).winner]
    refine Option.bind_congr fun m hm => ?_
    have hid : m.id = m₁.id := db.matches_.key_of_find? hm
    rw [hboth, scoredRow_of_ne body₂ (by rw [scoredRow_id, hid]; exact hne)]
    rfl
  · intro y hy
    funext ids
    rw [hrew.winner, (e₂.rewrites hround₂ hW₂ htype₂).winner]
    refine Option.bind_congr fun m hm => ?_
    have hid : m.id = y := db.matches_.key_of_find? hm
    rw [hboth, scoredRow_of_ne body₁ (hid.trans_ne hy)]
    rfl

omit hT hm₁ hm₂ hr₁ hr₂ hfinal hframe in
/-- A change of slots that no result tells apart. -/
theorem blind_of_pick {p q : Option Side} {a b : Side → Option StageItemInputId}
    (h : ∀ s, b s ≠ a s → (p = some s ↔ q = some s)) :
    Network.Blind (fun ids => p.bind ids) (fun ids => q.bind ids) a b := by
  by_cases hpq : p = q
  · subst hpq
    exact Or.inr ⟨rfl, rfl⟩
  · refine Or.inl ⟨?_, ?_⟩
    · cases p with
      | none => rfl
      | some s =>
        by_contra hne
        exact hpq ((h s (Ne.symm hne)).mp rfl).symm
    · cases q with
      | none => rfl
      | some s =>
        by_contra hne
        exact hpq ((h s (Ne.symm hne)).mpr rfl)

/-- **Compatible entries from the same state can be applied side by side.** -/
theorem Tree.sideBySide (hne : m₁.id ≠ m₂.id)
    (hapart : ∀ x, d₁.slots x = db.slots x ∨ d₂.slots x = db.slots x)
    (hblind₁ : ∀ s, d₂.slots m₁.id s ≠ db.slots m₁.id s → (m₁.pick = some s ↔ body₁.pick = some s))
    (hblind₂ : ∀ s, d₁.slots m₂.id s ≠ db.slots m₂.id s → (m₂.pick = some s ↔ body₂.pick = some s)) :
    Tree final tid row := by
  have hrew := hT.rewrites_both hm₁ hm₂ hr₁ hr₂ e₁ e₂ hfinal hframe
  obtain ⟨hwin₁, hwin₂⟩ := hT.winner_both hm₁ hm₂ hr₁ hr₂ e₁ e₂ hfinal hframe hne
  obtain ⟨-, hrow₁, hround₁, hW₁, htype₁, hS₁⟩ := hT.entry_facts hm₁ hr₁ e₁
  obtain ⟨-, hrow₂, hround₂, hW₂, htype₂, hS₂⟩ := hT.entry_facts hm₂ hr₂ e₂
  have hitem₁ : db.InItem e₁.item.id m₁ := hrow₁ ▸ hm₁
  have hitem₂ : db.InItem e₂.item.id m₂ := hrow₂ ▸ hm₂
  have hids : e₁.item.id = e₂.item.id := by rw [hrow₁, hrow₂]
  have h1 := e₁.settled_network hround₁ hW₁ htype₁ hS₁
  have h2 := e₂.settled_network hround₂ hW₂ htype₂ hS₂
  have hpick : ∀ {m : MatchRow}, m ∈ db.matches_.rows →
      db.winner m.id = fun ids => m.pick.bind ids := fun hm => by
    rw [winner_of_mem hm]
    exact funext (winnerOf_eq_pick _)
  have hself₁ : d₁.winner m₁.id = fun ids => body₁.pick.bind ids :=
    funext (e₁.winner_self hround₁ hW₁ htype₁ hitem₁)
  have hself₂ : d₂.winner m₂.id = fun ids => body₂.pick.bind ids :=
    funext (e₂.winner_self hround₂ hW₂ htype₂ hitem₂)
  have hmerge : ∀ x side y, db.slotSource row.id x side = some y →
      Network.merge db.slots d₁.slots d₂.slots x side =
        final.winner y (Network.merge db.slots d₁.slots d₂.slots y) := by
    refine Network.merge_settled (N := hT.wired.network) (hT.settled.network hT.wired) ?_ ?_
      (fun y hy => e₁.winner_of_ne hround₁ hW₁ htype₁ hy)
      (fun y hy => e₂.winner_of_ne hround₂ hW₂ htype₂ hy) hwin₁ hwin₂ hapart
      (e₁.own_slots hround₁ hW₁ htype₁ hS₁) (e₂.own_slots hround₂ hW₂ htype₂ hS₂) ?_ ?_ hne
    · intro x side y hs
      exact h1 x side y (hrow₁ ▸ hs)
    · intro x side y hs
      exact h2 x side y (hrow₂ ▸ hs)
    · rw [hpick hm₂.1, hself₂]
      exact blind_of_pick hblind₂
    · rw [hpick hm₁.1, hself₁]
      exact blind_of_pick hblind₁
  have hinputs : ∀ m, db.InItem row.id m → (rowAfterBoth e₁ e₂ m).inputId =
      Network.merge db.slots d₁.slots d₂.slots m.id := fun m hm =>
    rowAfterBoth_inputId hT hm₁ hm₂ hr₁ hr₂ e₁ e₂ hm.1 (hapart m.id)
  refine hT.of_frame hframe (hrew.wired hT.wired fun m hm side i hi => ?_)
    (hrew.settled fun m src hm hsrc side hw => ?_)
  · -- an input of either entry is one of the stage item
    rw [hinputs m hm] at hi
    have hfind : db.matches_.find? m.id = some m := db.matches_.find?_key hm.1
    refine known_of_frame hframe ?_
    by_cases hx : d₁.slots m.id = db.slots m.id
    · rw [Network.merge_of_eq hx, hT.slots_after hm₂ hr₂ e₂ hfind] at hi
      exact hrow₂ ▸ e₂.rowAfter_known hround₂ hW₂ (hrow₂ ▸ hm) hi
    · rw [Network.merge_of_ne hx, hT.slots_after hm₁ hr₁ e₁ hfind] at hi
      exact hrow₁ ▸ e₁.rowAfter_known hround₁ hW₁ (hrow₁ ▸ hm) hi
  · have hfind : db.matches_.find? src.id = some src := db.matches_.find?_key hsrc.1
    have hwin : final.winner src.id = (rowAfterBoth e₁ e₂ src).winnerOf := by
      funext ids
      rw [hrew.winner, hfind, Option.bind_some]
    rw [hinputs m hm, MatchRow.winnerId, ← hwin, hinputs src hsrc]
    exact hmerge m.id side src.id (slotSource_eq_some.mpr ⟨m, hm, rfl, hw⟩)

end SideBySide

/-! ## 3. The transactions -/

/-- What the request computes from its read of the stage item. -/
def inputUpdates (db : Database) (tid : TournamentId) (k : StageItemId) (m : MatchRow) :
    Outcome (List (MatchId × Match)) := do
  let item ← getStageItem db tid k
  if item.type = .singleElimination then
    getInputsToUpdateInSubsequentEliminationRounds m.roundId item (some [m.id])
  else .ok []

/-- The writes of the inputs of later matches. -/
def inputWrites (updates : List (MatchId × Match)) : List (Write Database MatchId) :=
  updates.map fun e => ⟨e.2.id, fun db => setInputIds db e.2⟩

/-- `update_match_by_id` on the match `m` of the stage item `k`, as a transaction: the score write,
    the read of the stage item, the writes of the inputs of later matches. -/
def scoreTransaction (tid : TournamentId) (k : StageItemId) (m : MatchRow) (body : MatchBody) :
    Transaction Database MatchId where
  before := [⟨m.id, fun db => sqlUpdateMatch db m.id body⟩]
  after db :=
    match inputUpdates db tid k m with
    | .ok updates => some (inputWrites updates)
    | .error _ => none

section Transactions

variable {db : Database} {tid : TournamentId} {row : StageItemRow} {m : MatchRow}
  {body : MatchBody}

theorem scoreTransaction_effect {k : StageItemId} {seen s s' : Database} :
    Sessions.Effect (scoreTransaction tid k m body) seen s s' ↔
      ∃ updates, inputUpdates (sqlUpdateMatch seen m.id body) tid k m = .ok updates ∧
        s' = updates.foldl (fun db e => setInputIds db e.2) (sqlUpdateMatch s m.id body) := by
  have happly : ∀ updates : List (MatchId × Match),
      Sessions.applyAll ((scoreTransaction tid k m body).before ++ inputWrites updates) s =
      updates.foldl (fun db e => setInputIds db e.2) (sqlUpdateMatch s m.id body) := by
    intro updates
    rw [Sessions.applyAll_append, Sessions.applyAll, inputWrites, List.foldl_map]
    rfl
  constructor
  · rintro ⟨ws, hafter, rfl⟩
    unfold scoreTransaction at hafter
    dsimp only at hafter
    split at hafter
    · next updates hupdates =>
      cases hafter
      exact ⟨updates, hupdates, happly updates⟩
    · cases hafter
  · rintro ⟨updates, hupdates, rfl⟩
    refine ⟨inputWrites updates, ?_, (happly updates).symm⟩
    unfold scoreTransaction
    dsimp only [Sessions.applyAll, List.foldl_cons, List.foldl_nil]
    rw [hupdates]

/-- What the transaction reads after its score write. -/
theorem Tree.inputUpdates_eq (hT : Tree db tid row) {updates : List (MatchId × Match)}
    (h : inputUpdates (sqlUpdateMatch db m.id body) tid row.id m = .ok updates) :
    getInputsToUpdateInSubsequentEliminationRounds m.roundId
      (loadStageItem (sqlUpdateMatch db m.id body) tid row) (some [m.id]) = .ok updates := by
  obtain ⟨item, hitem, h⟩ := bind_eq_ok.mp h
  obtain ⟨row', hrow', -, rfl, -⟩ := getStageItem_eq_ok.mp hitem
  have hfound : (sqlUpdateMatch db m.id body).stageItems.find? row.id = some row := hT.found
  rw [hfound] at hrow'
  cases hrow'
  have htype : (loadStageItem (sqlUpdateMatch db m.id body) tid row).type = .singleElimination :=
    hT.type
  rwa [if_pos htype] at h

/-- The transaction depends on the id and the round of the match only. -/
theorem scoreTransaction_congr {m' : MatchRow} (hid : m'.id = m.id)
    (hround : m'.roundId = m.roundId) (k : StageItemId) :
    scoreTransaction tid k m' body = scoreTransaction tid k m body := by
  unfold scoreTransaction inputUpdates
  rw [hid, hround]

/-- A score, what leaves the matches alone, and the updates that follow from the score are a score
    entry. -/
theorem Tree.entry_of_updates (hT : Tree db tid row) (hm : db.InItem row.id m) {planned : Database}
    (hbare : planned.bare = (sqlUpdateMatch db m.id body).bare) {updates : List (MatchId × Match)}
    (h : inputUpdates (sqlUpdateMatch db m.id body) tid row.id m = .ok updates) :
    Nonempty (Entry db tid m.id body
      (updates.foldl (fun db e => setInputIds db e.2) planned)) := by
  have hwalk := hT.inputUpdates_eq h
  obtain ⟨hmem, hk⟩ := hm
  obtain ⟨round, hround, hk⟩ := Option.map_eq_some_iff.mp hk
  have hid : round.id = m.roundId := db.rounds.key_of_find? hround
  refine ⟨⟨m, round, row, planned, db.matches_.find?_key hmem, hround, hk ▸ hT.found, hbare, ?_⟩⟩
  rw [if_pos hT.type, updateInputsInSubsequentEliminationRounds, hid, hwalk]
  rfl

/-- A transaction on its own is a score entry. -/
theorem Tree.transaction_entry (hT : Tree db tid row) (hm : db.InItem row.id m) {db' : Database}
    (h : Sessions.Effect (scoreTransaction tid row.id m body) db db db') :
    Nonempty (Entry db tid m.id body db') := by
  obtain ⟨updates, hupdates, rfl⟩ := scoreTransaction_effect.mp h
  exact hT.entry_of_updates hm rfl hupdates

/-- The updates that follow from a score in the state `db`, applied to another state. -/
theorem Tree.updates_rows (hT : Tree db tid row) (hm : db.InItem row.id m)
    (hround : body.roundId = m.roundId) {db' : Database} (e : Entry db tid m.id body db')
    {updates : List (MatchId × Match)}
    (h : inputUpdates (sqlUpdateMatch db m.id body) tid row.id m = .ok updates) (t : Database)
    (x : MatchId) : (updates.foldl (fun db e => setInputIds db e.2) t).matches_.find? x =
      (t.matches_.find? x).map (withUpdate (writtenInputs e.loaded e.loadedRound e.loadedMatch)) := by
  have hwalk := hT.inputUpdates_eq h
  obtain ⟨hrow, hitem, hround', hW, -, -⟩ := hT.entry_facts hm hround e
  rw [← hrow, ← e.round_id, hrow, ← hitem] at hwalk
  have hes := e.updates_eq hround' hW hwalk
  have hnodup := writtenInputs_nodup (e.bracket hround' hW) e.loadedRound_mem
    (e.loadedMatch_mem hround')
  rw [foldl_setInputIds_find? updates (hes ▸ hnodup), hes]

theorem foldl_setInputIds_frame (updates : List (MatchId × Match)) (t : Database) :
    (updates.foldl (fun db e => setInputIds db e.2) t).frame = t.frame :=
  foldl_project Database.frame (fun d (e : MatchId × Match) => setInputIds d e.2)
    (fun _ _ => rfl) updates t

/-- The writes of a transaction that read the state `db`, applied to another state. -/
theorem Tree.transaction_rows (hT : Tree db tid row) (hm : db.InItem row.id m)
    (hround : body.roundId = m.roundId) {db' s s' : Database} (e : Entry db tid m.id body db')
    (h : Sessions.Effect (scoreTransaction tid row.id m body) db s s') :
    s'.frame = s.frame ∧ ∀ x, s'.matches_.find? x = (s.matches_.find? x).map fun a =>
      withUpdate (writtenInputs e.loaded e.loadedRound e.loadedMatch) (scoredRow m.id body a) := by
  obtain ⟨updates, hupdates, rfl⟩ := scoreTransaction_effect.mp h
  refine ⟨foldl_setInputIds_frame updates _, fun x => ?_⟩
  rw [hT.updates_rows hm hround e hupdates, sqlUpdateMatch_find?, Option.map_map]
  rfl

end Transactions

/-! ## 4. All interleavings -/

section Claims

variable {db : Database} {tid : TournamentId} {row : StageItemRow} {m : Bool → MatchRow}
  {body : Bool → MatchBody} {s : Sessions Database MatchId}

/-- **Compatible transactions that read the same state.** -/
theorem Tree.bothFromBase (hT : Tree db tid row) (hm : ∀ i, db.InItem row.id (m i))
    (hround : ∀ i, (body i).roundId = (m i).roundId) (hne : (m true).id ≠ (m false).id)
    (hC : Compatible db row.id m body) {i : Bool} {between final : Database}
    (h1 : Sessions.Effect (scoreTransaction tid row.id (m i) (body i)) db db between)
    (h2 : Sessions.Effect (scoreTransaction tid row.id (m (!i)) (body (!i))) db between final) :
    Tree final tid row := by
  -- the second transaction on its own
  obtain ⟨updates, hupdates, -⟩ := scoreTransaction_effect.mp h2
  obtain ⟨e₁⟩ := hT.transaction_entry (hm i) h1
  obtain ⟨e₂⟩ := hT.transaction_entry (hm (!i)) (scoreTransaction_effect.mpr ⟨updates, hupdates, rfl⟩)
  obtain ⟨hframe₁, hrows₁⟩ := hT.transaction_rows (hm i) (hround i) e₁ h1
  obtain ⟨hframe₂, hrows₂⟩ := hT.transaction_rows (hm (!i)) (hround (!i)) e₂ h2
  obtain ⟨-, hrow₁, hround₁, hW₁, htype₁, hS₁⟩ := hT.entry_facts (hm i) (hround i) e₁
  obtain ⟨-, hrow₂, hround₂, hW₂, htype₂, hS₂⟩ := hT.entry_facts (hm (!i)) (hround (!i)) e₂
  have htouched₁ : ∀ y side, between.slots y side ≠ db.slots y side ↔
      Touched db row.id (m i) (body i) y side := fun y side => hT.touched_iff (hm i) (hround i) e₁
  have htouched₂ : ∀ y side, _ ≠ db.slots y side ↔
      Touched db row.id (m (!i)) (body (!i)) y side := fun y side =>
    hT.touched_iff (hm (!i)) (hround (!i)) e₂
  have hne' : (m i).id ≠ (m (!i)).id := by
    cases i
    · exact hne.symm
    · exact hne
  have hfinal : ∀ x, final.matches_.find? x =
      (db.matches_.find? x).map (rowAfterBoth e₁ e₂) := by
    intro x
    rw [hrows₂, hrows₁, Option.map_map]
    refine Option.map_congr fun a ha => ?_
    rw [Function.comp, e₁.withUpdate_eq hround₁ hW₁ (db.matches_.mem_of_find? ha)]
    rfl
  refine hT.sideBySide (hm i) (hm (!i)) (hround i) (hround (!i)) e₁ e₂ hfinal
    (hframe₂.trans hframe₁) hne' (fun x => ?_) (fun s hs => ?_) (fun s hs => ?_)
  · by_contra hno
    rw [not_or] at hno
    obtain ⟨s₁, hs₁⟩ := Function.ne_iff.mp hno.1
    obtain ⟨s₂, hs₂⟩ := Function.ne_iff.mp hno.2
    have ht₁ := (htouched₁ x s₁).mp hs₁
    have ht₂ := (htouched₂ x s₂).mp hs₂
    cases i
    · exact hC.apart x s₂ s₁ ht₂ ht₁
    · exact hC.apart x s₁ s₂ ht₁ ht₂
  · exact hC.blind i s ((htouched₂ _ s).mp hs)
  · have ht := (htouched₁ _ s).mp hs
    have h := hC.blind (!i) s
    rw [Bool.not_not] at h
    exact h ht

/-- **Two score entries at the same time.** In every run in which a transaction commits between the
    other's read and its commit only if the two entries are compatible, all winners have moved on
    once both have committed. -/
theorem winnersMovedOn_of_compatible (hT : Tree db tid row) (hm : ∀ i, db.InItem row.id (m i))
    (hround : ∀ i, (body i).roundId = (m i).roundId) (hne : (m true).id ≠ (m false).id)
    (hrun : Relation.ReflTransGen
      (Sessions.Step (fun i => scoreTransaction tid row.id (m i) (body i))
        (Compatible db row.id m body))
      (Sessions.start (fun i => scoreTransaction tid row.id (m i) (body i)) db) s)
    (hdone : ∀ i, s.phase i = .committed) : WinnersMovedOn s.stored tid row.id := by
  obtain ⟨i, between, seen, h1, h2, hsaw⟩ := Sessions.outcome hrun hdone
  rcases hsaw with rfl | ⟨rfl, hC⟩
  · -- one after the other
    obtain ⟨e₁⟩ := hT.transaction_entry (hm i) h1
    have hT' := hT.step (hm i) (hround i) e₁
    obtain ⟨-, hrow₁, hround₁, hW₁, htype₁, -⟩ := hT.entry_facts (hm i) (hround i) e₁
    have hrew := e₁.rewrites hround₁ hW₁ htype₁
    obtain ⟨m', hm', hsame⟩ := hrew.of_old (hm (!i))
    obtain ⟨hid, hr, -⟩ := eq_of_untimed hsame
    rw [hrew.id] at hid
    rw [hrew.roundId _ (hm (!i)).1] at hr
    rw [← scoreTransaction_congr hid hr] at h2
    obtain ⟨e₂⟩ := hT'.transaction_entry hm' h2
    exact (hT'.step hm' ((hround (!i)).trans hr.symm) e₂).winnersMovedOn
  · exact (hT.bothFromBase hm hround hne hC h1 h2).winnersMovedOn

end Claims

/-! ### Two semifinals -/

theorem cupBuilt_tree : Tree cupBuilt 1 cupItem := by
  obtain ⟨built, hbuilt, hW, hU, hframe⟩ := buildSingleElimination_ok cup_loads rfl cup_fresh
    (by decide)
  obtain rfl : cupBuilt = built := Except.ok.inj (cupBuilt_eq.symm.trans hbuilt)
  exact tree_of_built cup_loads rfl rfl hW hU hframe

/-- The semifinals. -/
def semifinal (i : Bool) : MatchRow :=
  if i then cupMatch 1 1 (some 1) (some 2) none none else cupMatch 2 1 (some 3) (some 4) none none

def semifinalBody (_ : Bool) : MatchBody := cupBody 1 2 0

def semifinalEntries (i : Bool) : Transaction Database MatchId :=
  scoreTransaction 1 1 (semifinal i) (semifinalBody i)

/-- Both semifinals are scored and read before one of them commits. -/
def atTheSameTime : List Bool := [true, false, true, false, true, true, false, false]

/-- The cup after that: the second semifinal has overwritten the winner of the first. -/
def cupLost : Database :=
  { cupBuilt with
    matches_ := ⟨[{ cupMatch 1 1 (some 1) (some 2) none none with stageItemInput1Score := 2 },
      { cupMatch 2 1 (some 3) (some 4) none none with stageItemInput1Score := 2 },
      cupMatch 3 2 none (some 3) (some 1) (some 2)], 4, by decide, by decide⟩ }

theorem atTheSameTime_stored :
    (Sessions.runSchedule (fun _ _ => true) semifinalEntries atTheSameTime
      (Sessions.start semifinalEntries cupBuilt)).map (fun s => (s.done, s.stored)) =
        some (true, cupLost) := rfl

theorem semifinal_inItem (i : Bool) : cupBuilt.InItem 1 (semifinal i) := by
  cases i
  · exact ⟨by decide, rfl⟩
  · exact ⟨by decide, rfl⟩

theorem cupLost_loses : ¬ WinnersMovedOn cupLost 1 1 := by
  rintro ⟨item, hitem, h⟩
  have hloads : getStageItem cupLost 1 1 = .ok (loadStageItem cupLost 1 cupItem) :=
    getStageItem_eq_ok.mpr ⟨cupItem, rfl, rfl, rfl, by decide⟩
  obtain rfl := Except.ok.inj (hloads.symm.trans hitem)
  -- the first slot of the final is empty, the first semifinal has a winner
  have hlost : ∃ m ∈ (loadStageItem cupLost 1 cupItem).allMatches, m.winnerFrom .one = some 1 ∧
      ∀ src ∈ (loadStageItem cupLost 1 cupItem).allMatches, src.id = 1 →
        m.inputId .one ≠ src.getWinner.map (·.id) := by decide
  obtain ⟨m, hm, hw, hno⟩ := hlost
  obtain ⟨src, hsrc, hid, -, hinput⟩ := h m hm .one 1 hw
  exact hno src hsrc hid hinput

/-- **Two semifinals scored at the same time**: both requests commit, and the final has lost the
    winner of one. -/
theorem semifinals_lose_winner : Tree cupBuilt 1 cupItem ∧
    (∀ i, cupBuilt.InItem 1 (semifinal i)) ∧
    ∃ s, Relation.ReflTransGen (Sessions.Step semifinalEntries True)
        (Sessions.start semifinalEntries cupBuilt) s ∧
      (∀ i, s.phase i = .committed) ∧ ¬ WinnersMovedOn s.stored 1 1 := by
  refine ⟨cupBuilt_tree, semifinal_inItem, ?_⟩
  obtain ⟨s, hs, hv⟩ := Option.map_eq_some_iff.mp atTheSameTime_stored
  have hstored : s.stored = cupLost := congrArg Prod.snd hv
  exact ⟨s, Sessions.runSchedule_run (fun _ _ _ _ => trivial) _ hs,
    Sessions.done_iff (congrArg Prod.fst hv), hstored ▸ cupLost_loses⟩

/-- One semifinal after the other. -/
def oneAfterTheOther : List Bool := [true, true, true, true, false, false, false, false]

theorem oneAfterTheOther_done :
    (Sessions.runSchedule Sessions.calm semifinalEntries oneAfterTheOther
      (Sessions.start semifinalEntries cupBuilt)).map Sessions.done = some true := rfl

theorem oneAfterTheOther_run : ∃ s, Relation.ReflTransGen
    (Sessions.Step semifinalEntries (Compatible cupBuilt 1 semifinal semifinalBody))
    (Sessions.start semifinalEntries cupBuilt) s ∧ ∀ i, s.phase i = .committed := by
  obtain ⟨s, hs, hv⟩ := Option.map_eq_some_iff.mp oneAfterTheOther_done
  exact ⟨s, Sessions.runSchedule_run Sessions.calm_overRead _ hs, Sessions.done_iff hv⟩

theorem semifinals_winnersMovedOn :
    ∃ s, Relation.ReflTransGen
        (Sessions.Step semifinalEntries (Compatible cupBuilt 1 semifinal semifinalBody))
        (Sessions.start semifinalEntries cupBuilt) s ∧
      (∀ i, s.phase i = .committed) ∧ WinnersMovedOn s.stored 1 1 := by
  obtain ⟨s, hrun, hdone⟩ := oneAfterTheOther_run
  have hround : ∀ i, (semifinalBody i).roundId = (semifinal i).roundId := by
    intro i
    cases i <;> rfl
  have hne : (semifinal true).id ≠ (semifinal false).id := by decide
  have hmoved := @winnersMovedOn_of_compatible cupBuilt 1 cupItem semifinal semifinalBody s
    cupBuilt_tree semifinal_inItem hround hne hrun hdone
  exact ⟨s, hrun, hdone, hmoved⟩

end Brackets
