/-
  File:      Brackets/Progress/Corrections.lean
  Subject:   Scoring a match of an elimination tree when later matches are scored already.

  The results are recalculated before the winners move on. So a later match whose slots the new
  winner takes over is counted for the old one, or not at all.

  * `Tree.taken_over`: a slot that changes held the old winner of the match and gets the new one;
  * `replaced_length_lt`: what that does to the number of results of an input;
  * `Tree.entry_exact_iff`: the stored results are exact afterwards just if no input with a team
    gains or loses a result in this way; `updateMatch_exact_iff` says it of the request,
    `Tree.result_exact_iff` of its transaction.
-/
import Mathlib.Algebra.Order.BigOperators.Group.List
import Brackets.Progress.KnockoutLevels
import Brackets.Progress.ResultTransaction
import Brackets.Ranking.Totals
import Brackets.Routes.Api

namespace Brackets

open Library

/-! ## 1. Slots that are taken over -/

/-- The winner of the match with the score of the body. -/
def MatchBody.winner (body : MatchBody) (m : MatchRow) : Option StageItemInputId :=
  body.pick.bind m.inputId

section TakenOver

variable {db db' : Database} {tid : TournamentId} {row : StageItemRow} {m : MatchRow}
  {body : MatchBody} (hT : Tree db tid row) (hm : db.InItem row.id m)
  (hround : body.roundId = m.roundId) (e : Entry db tid m.id body db')
include hT hm hround e

/-- **A slot that changes held the old winner and gets the new one.** -/
theorem Tree.taken_over {y : MatchId} {side : Side} (h : Touched db row.id m body y side) :
    db.slots y side = m.winnerId ∧ db'.slots y side = body.winner m := by
  obtain ⟨-, hrow, hround', hW, htype, hS⟩ := hT.entry_facts hm hround e
  have hm' : db.InItem e.item.id m := hrow ▸ hm
  have h0 := hS.network hW
  have h1 := e.settled_network hround' hW htype hS
  have hsource : ∀ x s, hW.network.source x s = db.slotSource row.id x s := fun x s => by
    rw [← hrow]
    rfl
  induction h with
  | reader fed other =>
    rw [h0 _ _ _ ((hsource _ _).trans fed), h1 _ _ _ ((hsource _ _).trans fed),
      e.own_slots hround' hW htype hS, slots_of_mem hm.1, winner_of_mem hm.1,
      e.winner_self hround' hW htype hm']
    exact ⟨rfl, rfl⟩
  | next ofItem ne pick _ fed ih =>
    rw [h0 _ _ _ ((hsource _ _).trans fed), h1 _ _ _ ((hsource _ _).trans fed),
      e.winner_of_ne hround' hW htype ne, winner_of_mem ofItem.1, winnerOf_eq_pick,
      winnerOf_eq_pick, pick]
    exact ih

end TakenOver

/-- The one who leaves is not the one who comes. -/
theorem Touched.winner_ne {db : Database} {k : StageItemId} {m : MatchRow} {body : MatchBody}
    {y : MatchId} {side : Side} (h : Touched db k m body y side) : body.winner m ≠ m.winnerId := by
  induction h with
  | reader _ other => exact other
  | next _ _ _ _ _ ih => exact ih

/-! ## 2. The results of an input in a match -/

/-- The scores that a match with these slots adds for an input. -/
def slotScores (i : StageItemInputId) (p : Side → Option StageItemInputId) (score1 score2 : Int) :
    List (Int × Int) :=
  match p .one, p .two with
  | some a, some b =>
    if score1 != 0 || score2 != 0 then (Result.mk a b score1 score2).scoresOf i else []
  | _, _ => []

theorem slotScores_empty {i : StageItemInputId} {p : Side → Option StageItemInputId} {s : Side}
    (h : p s = none) (score1 score2 : Int) : slotScores i p score1 score2 = [] := by
  unfold slotScores
  cases s with
  | one => rw [h]
  | two =>
    rw [h]
    cases p .one <;> rfl

theorem slotScores_of_not {i : StageItemInputId} {p : Side → Option StageItemInputId}
    (h : ∀ s, p s ≠ some i) (score1 score2 : Int) : slotScores i p score1 score2 = [] := by
  unfold slotScores
  split
  · next a b ha hb =>
    have h1 : a ≠ i := fun e => h .one (ha.trans (congrArg some e))
    have h2 : b ≠ i := fun e => h .two (hb.trans (congrArg some e))
    rw [Result.scoresOf, if_neg h1, if_neg h2]
    exact ite_self _
  · rfl

theorem slotScores_unscored {i : StageItemInputId} {p : Side → Option StageItemInputId} :
    slotScores i p 0 0 = [] := by
  unfold slotScores
  split <;> rfl

/-- Full slots that agree on an input add the same for it. -/
theorem slotScores_agree {i : StageItemInputId} {p q : Side → Option StageItemInputId}
    (hp : ∀ s, p s ≠ none) (hq : ∀ s, q s ≠ none) (h : ∀ s, p s = some i ↔ q s = some i)
    (score1 score2 : Int) : slotScores i p score1 score2 = slotScores i q score1 score2 := by
  obtain ⟨a, ha⟩ := Option.ne_none_iff_exists'.mp (hp .one)
  obtain ⟨b, hb⟩ := Option.ne_none_iff_exists'.mp (hp .two)
  obtain ⟨a', ha'⟩ := Option.ne_none_iff_exists'.mp (hq .one)
  obtain ⟨b', hb'⟩ := Option.ne_none_iff_exists'.mp (hq .two)
  have h1 : a = i ↔ a' = i := by simpa [ha, ha'] using h .one
  have h2 : b = i ↔ b' = i := by simpa [hb, hb'] using h .two
  simp only [slotScores, ha, hb, ha', hb', Result.scoresOf, h1, h2]

/-- The slots of `q` are those of `p`, but some that held `w` hold `w'`. -/
def Replaced (w w' : Option StageItemInputId) (p q : Side → Option StageItemInputId) : Prop :=
  ∀ s, q s = p s ∨ p s = w ∧ q s = w'

theorem Replaced.symm {w w' : Option StageItemInputId} {p q : Side → Option StageItemInputId}
    (h : Replaced w w' p q) : Replaced w' w q p :=
  fun s => (h s).imp Eq.symm And.symm

/-- How often an input stands in full slots. -/
theorem slotScores_length {i : StageItemInputId} {p : Side → Option StageItemInputId}
    (h : ∀ s, p s ≠ none) {score1 score2 : Int} (hs : score1 ≠ 0 ∨ score2 ≠ 0) :
    (slotScores i p score1 score2).length =
      (if p .one = some i then 1 else 0) + if p .two = some i then 1 else 0 := by
  obtain ⟨a, ha⟩ := Option.ne_none_iff_exists'.mp (h .one)
  obtain ⟨b, hb⟩ := Option.ne_none_iff_exists'.mp (h .two)
  have hcond : (score1 != 0 || score2 != 0) = true := by simpa using hs
  rw [slotScores, ha, hb]
  dsimp only
  rw [if_pos hcond, Result.scoresOf, List.length_append]
  simp only [Option.some.injEq]
  congr 1 <;> split <;> rfl

section Replaced

variable {i : StageItemInputId} {w w' : Option StageItemInputId}
  {p q : Side → Option StageItemInputId} (h : Replaced w w' p q) (hw : w = none ∨ w' = some i)
include h hw

/-- Where nobody leaves, or the input comes, it has no result less. -/
theorem replaced_length_le (score1 score2 : Int) :
    (slotScores i p score1 score2).length ≤ (slotScores i q score1 score2).length := by
  by_cases hfull : ∀ s, p s ≠ none
  · by_cases hs : score1 ≠ 0 ∨ score2 ≠ 0
    · have hstep : ∀ s, q s ≠ none ∧ (p s = some i → q s = some i) := by
        intro s
        rcases h s with e | ⟨hp, hq⟩
        · exact ⟨e ▸ hfull s, fun hi => e.trans hi⟩
        · rcases hw with rfl | rfl
          · exact absurd hp (hfull s)
          · exact ⟨by rw [hq]; exact Option.some_ne_none i, fun _ => hq⟩
      rw [slotScores_length hfull hs, slotScores_length (fun s => (hstep s).1) hs]
      have hone := (hstep .one).2
      have htwo := (hstep .two).2
      split_ifs <;> simp_all
    · have hnone : slotScores i p score1 score2 = [] := by
        unfold slotScores
        split
        · exact if_neg (by simpa using hs)
        · rfl
      rw [hnone]
      exact Nat.zero_le _
  · obtain ⟨s, hs⟩ := not_forall.mp hfull
    rw [slotScores_empty (not_not.mp hs)]
    exact Nat.zero_le _

/-- It has one more in a match with a score that is full now, if it came, or if the match was not
    full before. -/
theorem replaced_length_lt {score1 score2 : Int} (hs : score1 ≠ 0 ∨ score2 ≠ 0)
    (hfull : ∀ s, q s ≠ none) {r s : Side} (hr : p r ≠ q r) (hi : q s = some i)
    (hnew : w = none ∨ p s ≠ some i) :
    (slotScores i p score1 score2).length < (slotScores i q score1 score2).length := by
  have hpr : p r = w ∧ q r = w' := (h r).resolve_left fun e => hr e.symm
  have hpos : 0 < (slotScores i q score1 score2).length := by
    rw [slotScores_length hfull hs]
    cases s <;> rw [if_pos hi] <;> omega
  by_cases hp : ∀ s, p s ≠ none
  · have hws : w' = some i := hw.resolve_left fun e => hp r (hpr.1.trans e)
    have hps : p s ≠ some i := hnew.resolve_left fun e => hp r (hpr.1.trans e)
    have hkeep : ∀ s, p s = some i → q s = some i := by
      intro s hs'
      rcases h s with e | ⟨-, hq⟩
      · exact e.trans hs'
      · exact hq.trans hws
    rw [slotScores_length hp hs, slotScores_length hfull hs]
    have hone := hkeep .one
    have htwo := hkeep .two
    cases s <;> split_ifs <;> simp_all
  · obtain ⟨s', hs'⟩ := not_forall.mp hp
    rwa [slotScores_empty (not_not.mp hs')]

end Replaced

/-! ## 3. The results of an input in the stage item -/

/-- The scores of an input in the stored results of a stage item. -/
def storedScores (db : Database) (k : StageItemId) (i : StageItemInputId) : List (Int × Int) :=
  (storedResults db k).flatMap (·.scoresOf i)

/-- What a match adds to them. -/
def Database.scoresIn (db : Database) (k : StageItemId) (i : StageItemInputId) (m : MatchRow) :
    List (Int × Int) := (db.resultOf k m).elim [] (·.scoresOf i)

theorem flatMap_filterMap_elim {α β γ : Type} (f : α → Option β) (g : β → List γ) (l : List α) :
    (l.filterMap f).flatMap g = (l.map f).flatMap fun o => o.elim [] g := by
  induction l with
  | nil => rfl
  | cons a l ih =>
    rw [List.map_cons, List.flatMap_cons, ← ih]
    cases h : f a with
    | none => rw [List.filterMap_cons_none h]; rfl
    | some b => rw [List.filterMap_cons_some h, List.flatMap_cons]; rfl

/-- What the matches of a stage item add up to. -/
def Database.overMatches {γ : Type} (db : Database) (k : StageItemId) (f : MatchRow → List γ) :
    List γ :=
  (db.rounds.rows.filter (·.stageItemId == k)).flatMap fun r => (db.roundRows r.id).flatMap f

theorem inItem_of_roundRows {db : Database} {k : StageItemId} {r : RoundRow}
    (hr : r ∈ db.rounds.rows.filter (·.stageItemId == k)) {m : MatchRow}
    (hm : m ∈ db.roundRows r.id) : db.InItem k m := by
  obtain ⟨hr, hk⟩ := List.mem_filter.mp hr
  obtain ⟨hm, hround⟩ := List.mem_filter.mp hm
  exact inItem_iff.mpr ⟨hm, r, hr, eq_of_beq hk, (eq_of_beq hround).symm⟩

theorem overMatches_congr {γ : Type} {db : Database} {k : StageItemId} {f g : MatchRow → List γ}
    (h : ∀ m, db.InItem k m → f m = g m) : db.overMatches k f = db.overMatches k g :=
  List.flatMap_congr fun _ hr => List.flatMap_congr fun m hm => h m (inItem_of_roundRows hr hm)

/-- If no match adds less, and one adds more, it is more. -/
theorem overMatches_length_lt {γ : Type} {db : Database} {k : StageItemId} {f g : MatchRow → List γ}
    (hle : ∀ m, db.InItem k m → (f m).length ≤ (g m).length) {m : MatchRow} (hm : db.InItem k m)
    (hlt : (f m).length < (g m).length) :
    (db.overMatches k f).length < (db.overMatches k g).length := by
  have hrow : ∀ r ∈ db.rounds.rows.filter (·.stageItemId == k), ∀ a ∈ db.roundRows r.id,
      (f a).length ≤ (g a).length := fun r hr a ha => hle a (inItem_of_roundRows hr ha)
  have hround : ∀ r ∈ db.rounds.rows.filter (·.stageItemId == k),
      ((db.roundRows r.id).flatMap f).length ≤ ((db.roundRows r.id).flatMap g).length := by
    intro r hr
    rw [List.length_flatMap, List.length_flatMap]
    exact List.sum_le_sum (hrow r hr)
  obtain ⟨hmem, r, hr, hk, hid⟩ := inItem_iff.mp hm
  have hr : r ∈ db.rounds.rows.filter (·.stageItemId == k) :=
    List.mem_filter.mpr ⟨hr, beq_iff_eq.mpr hk⟩
  have hm : m ∈ db.roundRows r.id := List.mem_filter.mpr ⟨hmem, beq_iff_eq.mpr hid.symm⟩
  unfold Database.overMatches
  rw [List.length_flatMap, List.length_flatMap]
  refine List.sum_lt_sum _ _ hround ⟨r, hr, ?_⟩
  rw [List.length_flatMap, List.length_flatMap]
  exact List.sum_lt_sum _ _ (hrow r hr) ⟨m, hm, hlt⟩

/-- The scores of an input after its matches were rewritten, match by match. -/
theorem Rewrites.storedScores {db db' : Database} {f : MatchRow → MatchRow} (h : Rewrites db db' f)
    (hframe : db'.frame = db.frame) (k : StageItemId) (i : StageItemInputId) :
    storedScores db' k i = db.overMatches k fun m => db.scoresIn k i (f m) := by
  have hresult : db'.resultOf k = db.resultOf k := by
    funext m
    have hread := congrFun (reading_of_frame (k := k) hframe) m
    exact congrArg (fun x => x.2.2) hread
  unfold Brackets.storedScores storedResults
  rw [List.flatMap_assoc, h.rounds]
  refine List.flatMap_congr fun r _ => ?_
  have hread : ∀ a b : MatchRow, b.untimed = a.untimed → db.resultOf k b = db.resultOf k a := by
    intro a b e
    have hsame : db.resultOf k b.untimed = db.resultOf k a.untimed := by rw [e]
    exact hsame
  have hrows := h.roundRows hread r.id
  rw [Database.roundRows] at hrows
  rw [hresult, flatMap_filterMap_elim, hrows, List.flatMap_map]
  rfl

/-- What a match of the stage item adds, slot by slot. -/
theorem scoresIn_eq {db : Database} {k : StageItemId} {m : MatchRow}
    (hknown : ∀ s i, m.inputId s = some i → db.knows k i = true) (i : StageItemInputId) :
    db.scoresIn k i m = if db.published m.roundId then
      slotScores i m.inputId m.stageItemInput1Score m.stageItemInput2Score else [] := by
  unfold Database.scoresIn Database.resultOf
  split
  · have hself : ∀ s, (m.inputId s).filter (db.knows k) = m.inputId s := by
      intro s
      cases hs : m.inputId s with
      | none => rfl
      | some a => exact Option.filter_some_pos (hknown s a hs)
    have hone : m.stageItemInput1Id.filter (db.knows k) = m.inputId .one := hself .one
    have htwo : m.stageItemInput2Id.filter (db.knows k) = m.inputId .two := hself .two
    unfold MatchRow.resultWith slotScores
    rw [hone, htwo]
    cases m.inputId .one with
    | none => rfl
    | some a =>
      cases m.inputId .two with
      | none => rfl
      | some b =>
        dsimp only
        split <;> rfl
  · rfl

/-- The statistics of an input with some scores. -/
theorem TeamStatistics.Sums.played {ranking : RankingRow} {s : TeamStatistics}
    {scores : List (Int × Int)} (h : s.Sums ranking scores) :
    s.wins + s.draws + s.losses = scores.length := by
  rw [h.wins, h.draws, h.losses]
  clear h
  induction scores with
  | nil => rfl
  | cons a scores ih =>
    rw [List.length_cons, Nat.cast_succ, ← ih]
    simp only [List.countP_cons, decide_eq_true_eq]
    rcases lt_trichotomy a.1 a.2 with hlt | heq | hgt
    · rw [if_neg (by omega), if_neg (by omega), if_pos hlt]
      push_cast
      omega
    · rw [if_neg (by omega), if_pos heq, if_neg (by omega)]
      push_cast
      omega
    · rw [if_pos hgt, if_neg (by omega), if_neg (by omega)]
      push_cast
      omega

theorem TeamStatistics.Sums.cached_eq {ranking : RankingRow} {s s' : TeamStatistics}
    {scores : List (Int × Int)} (h : s.Sums ranking scores) (h' : s'.Sums ranking scores) :
    s.cached = s'.cached := by
  have hw : s.wins = s'.wins := h.wins.trans h'.wins.symm
  have hd : s.draws = s'.draws := h.draws.trans h'.draws.symm
  have hl : s.losses = s'.losses := h.losses.trans h'.losses.symm
  have hf : s.scoreFor = s'.scoreFor := h.scoreFor.trans h'.scoreFor.symm
  have hp : s.points = s'.points := by rw [h.points, h'.points, hw, hd, hl, hf]
  rw [TeamStatistics.cached, TeamStatistics.cached, hw, hd, hl, hp]

/-! ## 4. The request -/

/-- The slot holds an input that has a team. -/
def HasTeam (db : Database) (slot : Option StageItemInputId) : Prop :=
  ∃ i input, slot = some i ∧ db.stageItemInputs.find? i = some input ∧ input.teamId.isSome

/-- The match has a score and is in a published round. -/
def Database.Recorded (db : Database) (x : MatchRow) : Prop :=
  db.published x.roundId = true ∧ ¬ x.Unscored

/-- Where the new score reaches a recorded match whose slots are full before or after, neither
    winner has a team, and the match does not become or cease to be a result of an opponent with
    a team. -/
def Undisturbed (db : Database) (k : StageItemId) (m : MatchRow) (body : MatchBody) : Prop :=
  ∀ x side, db.InItem k x → Touched db k m body x.id side → db.Recorded x →
    (∀ s, x.inputId s = none → Touched db k m body x.id s) →
      ¬ HasTeam db m.winnerId ∧ ¬ HasTeam db (body.winner m) ∧
        (m.winnerId ≠ none ∧ body.winner m ≠ none ∨
          ∀ s, ¬ Touched db k m body x.id s → ¬ HasTeam db (x.inputId s))

/-- Where a slot changes, some match waits for the winner. -/
theorem Touched.waits {db : Database} {k : StageItemId} {m : MatchRow} {body : MatchBody}
    {y : MatchId} {side : Side} (h : Touched db k m body y side) :
    ∃ a side', db.InItem k a ∧ a.winnerFrom side' = some m.id := by
  induction h with
  | @reader y side fed _ =>
    obtain ⟨a, ha, -, hw⟩ := slotSource_eq_some.mp fed
    exact ⟨a, side, ha, hw⟩
  | next _ _ _ _ _ ih => exact ih

/-- A match that no other waits for disturbs nothing. -/
theorem undisturbed_of_last {db : Database} {k : StageItemId} {m : MatchRow} {body : MatchBody}
    (h : ∀ a, db.InItem k a → ∀ side, a.winnerFrom side ≠ some m.id) : Undisturbed db k m body := by
  intro x side _ ht
  obtain ⟨a, side', ha, hw⟩ := ht.waits
  exact absurd hw (h a ha side')

section Request

variable {E : ExpectedScore} {db db' : Database} {tid : TournamentId} {row : StageItemRow}
  {m : MatchRow} {body : MatchBody}

/-- After the recalculation the inputs stay. -/
theorem ScoreEntry.inputs {k : MatchId} (se : ScoreEntry E db tid k body db') :
    db'.stageItemInputs = se.recalculated.stageItemInputs := by
  have hplanned : se.planned.untimed.stageItemInputs = se.recalculated.untimed.stageItemInputs := by
    rw [se.planning]
  have hprop := se.propagation
  split at hprop
  · obtain ⟨updates, -, hdb⟩ := bind_eq_ok.mp hprop
    have hfold := foldl_project Database.stageItemInputs
      (fun d (e : MatchId × Match) => setInputIds d e.2) (fun _ _ => rfl) updates se.planned
    have hlast := congrArg Database.stageItemInputs (Except.ok.inj hdb)
    exact hlast.symm.trans (hfold.trans hplanned)
  · exact (congrArg Database.stageItemInputs (Except.ok.inj hprop)).symm.trans hplanned

/-- The statistics of an elimination tree are the sums of the stored scores. -/
theorem statistics_sums {ranking : RankingRow} {d : StatisticsDict} (htype : row.type ≠ .swiss)
    (hd : determineRankingForStageItem E (loadStageItem db tid row) ranking = .ok d)
    (i : StageItemInputId) :
    (d.getD i (initialStatistics row.type)).Sums ranking (storedScores db row.id i) := by
  rw [determineRanking_eq_replay] at hd
  have hsums := replay_sums htype hd i
  rwa [loaded_results] at hsums

/-- An input with a team is loaded in every state of the frame. -/
theorem loaded_of_hasTeam (hframe : db'.frame = db.frame) {i : StageItemInputId}
    (hknown : KnownInput db tid row.id i) (hteam : HasTeam db (some i)) :
    ∃ input ∈ (loadStageItem db' tid row).inputs, input.id = i ∧ input.teamId.isSome := by
  obtain ⟨irow, hirow, hk, ht⟩ := hknown
  obtain ⟨j, irow', hj, hirow', hteam⟩ := hteam
  cases hj
  obtain rfl : irow = irow' := Option.some.inj (hirow.symm.trans hirow')
  have hf := input_of_frame hframe i
  rw [hirow, Option.map_some] at hf
  obtain ⟨new, hnew, e⟩ := Option.map_eq_some_iff.mp hf
  have h1 : new.unscored.stageItemId = irow.unscored.stageItemId := by rw [e]
  have h2 : new.unscored.tournamentId = irow.unscored.tournamentId := by rw [e]
  have h3 : new.unscored.teamId = irow.unscored.teamId := by rw [e]
  have h3 : new.teamId = irow.teamId := h3
  refine ⟨withTeam db' new, mem_loaded_inputs.mpr ⟨new, db'.stageItemInputs.mem_of_find? hnew,
    h1.trans hk, h2.trans ht, rfl⟩, db'.stageItemInputs.key_of_find? hnew, ?_⟩
  have hsome : new.teamId.isSome := h3 ▸ hteam
  exact hsome

theorem hasTeam_of_loaded (hframe : db'.frame = db.frame) {input : StageItemInput}
    (hi : input ∈ (loadStageItem db' tid row).inputs) (hteam : input.teamId.isSome) :
    HasTeam db (some input.id) := by
  obtain ⟨new, hnew, -, -, rfl⟩ := mem_loaded_inputs.mp hi
  have hf := input_of_frame hframe new.id
  have hself : db'.stageItemInputs.find? new.id = some new := db'.stageItemInputs.find?_key hnew
  rw [hself, Option.map_some] at hf
  obtain ⟨irow, hirow, e⟩ := Option.map_eq_some_iff.mp hf.symm
  have h3 : irow.unscored.teamId = new.unscored.teamId := by rw [e]
  have h3 : irow.teamId = new.teamId := h3
  have hteam : new.teamId.isSome := hteam
  exact ⟨new.id, irow, rfl, hirow, h3 ▸ hteam⟩

/-- The entry stores the statistics of the results before the winners move on. -/
structure StoresStatistics (E : ExpectedScore) (db db' : Database) (tid : TournamentId)
    (row : StageItemRow) (m : MatchId) (body : MatchBody) (ranking : RankingRow)
    (d : StatisticsDict) : Prop where
  ranked : getRankingForStageItem (sqlUpdateMatch db m body) tid row.id = some ranking
  determined : determineRankingForStageItem E (loadStageItem (sqlUpdateMatch db m body) tid row)
    ranking = .ok d
  inputs : db'.stageItemInputs = (storeStatistics tid (loadStageItem (sqlUpdateMatch db m body) tid
    row) d (sqlUpdateMatch db m body)).stageItemInputs

variable (hT : Tree db tid row) (hm : db.InItem row.id m) (hround : body.roundId = m.roundId)
include hT

include hm hround in
theorem Tree.request_stores (se : ScoreEntry E db tid m.id body db') :
    ∃ ranking d, StoresStatistics E db db' tid row m.id body ranking d := by
  obtain ⟨-, hitem, -⟩ := hT.entry_facts hm hround se.entry
  have hitem : se.item = row := hitem
  have hrec := se.recalculation
  rw [hitem] at hrec
  obtain ⟨ranking, d, hranking, hd, hstored⟩ := recalculateRanking_eq_ok.mp hrec
  exact ⟨ranking, d, hranking, hd, se.inputs.trans (congrArg Database.stageItemInputs hstored)⟩

theorem Tree.result_stores
    (h : Sessions.Effect (resultTransaction E tid row.id m body) db db db') :
    ∃ ranking d, StoresStatistics E db db' tid row m.id body ranking d := by
  obtain ⟨item, d, updates, hnow, -, rfl⟩ := resultTransaction_effect h
  obtain ⟨row', ranking, hrow, -, rfl, -, hranking, hd⟩ := rankingNow_eq_ok.mp hnow
  have hfound : (sqlUpdateMatch db m.id body).stageItems.find? row.id = some row := hT.found
  obtain rfl : row = row' := Option.some.inj (hfound.symm.trans hrow)
  exact ⟨ranking, d, hranking, hd, foldl_project Database.stageItemInputs
    (fun d (e : MatchId × Match) => setInputIds d e.2) (fun _ _ => rfl) updates _⟩

include hm hround

/-- **What an entry stores**: the statistics of the results before the winners move on. They are
    exact afterwards if they are those of the results after it. -/
theorem Tree.exact_iff_cached (hU : TeamsOnce db) (e : Entry db tid m.id body db')
    {ranking : RankingRow} {d : StatisticsDict}
    (hs : StoresStatistics E db db' tid row m.id body ranking d) :
    (∀ i, (d.getD i (initialStatistics row.type)).Sums ranking
      (storedScores (sqlUpdateMatch db m.id body) row.id i)) ∧
    ∃ d' : StatisticsDict,
      (∀ i, (d'.getD i (initialStatistics row.type)).Sums ranking (storedScores db' row.id i)) ∧
      (StatisticsExact E db' tid row.id ↔ ∀ input ∈ (loadStageItem db' tid row).inputs,
        input.teamId.isSome → (d.getD input.id (initialStatistics row.type)).cached =
          (d'.getD input.id (initialStatistics row.type)).cached) := by
  have htype : row.type ≠ .swiss := by
    rw [hT.type]
    exact nofun
  obtain ⟨d', hd'⟩ : ∃ d', determineRankingForStageItem E (loadStageItem db' tid row) ranking =
      .ok d' := determineRanking_total htype
  have hframe : db'.frame = (sqlUpdateMatch db m.id body).frame := e.frame
  have hT' : Tree db' tid row := hT.step hm hround e
  have hnow : rankingNow E db' tid row.id = .ok (loadStageItem db' tid row, d') := by
    refine rankingNow_eq_ok.mpr ⟨row, ranking, hT'.found, hT'.ofTournament, rfl, ?_, ?_, hd'⟩
    · obtain ⟨row', hrow', -, he, hvalid⟩ := getStageItem_eq_ok.mp hT'.loads
      exact hvalid
    · rw [ranking_of_frame hframe]
      exact hs.ranked
  have hcached : ∀ input ∈ (loadStageItem db' tid row).inputs, input.teamId.isSome →
      input.cached = (d.getD input.id (initialStatistics row.type)).cached := by
    intro input hi hteam
    refine stored_of_frame (t := sqlUpdateMatch db m.id body)
      (f := fun i => d.getD i (initialStatistics row.type)) hU hframe (fun x => ?_) hi hteam
    rw [hs.inputs]
    exact foldl_updateTeamStats_find? _ _ x
  refine ⟨statistics_sums htype hs.determined, d', statistics_sums htype hd', ?_⟩
  constructor
  · rintro ⟨item, d0, hnow', hexact⟩ input hi hteam
    obtain ⟨rfl, rfl⟩ := Prod.mk.inj (Except.ok.inj (hnow.symm.trans hnow'))
    exact (hcached input hi hteam).symm.trans (hexact input hi hteam)
  · intro hall
    exact ⟨_, d', hnow, fun input hi hteam => (hcached input hi hteam).trans (hall input hi hteam)⟩

section Walk

variable (e : Entry db tid m.id body db')
include e

theorem Tree.slot_kept {x : MatchRow} (hx : x ∈ db.matches_.rows) {s : Side}
    (hs : ¬ Touched db row.id m body x.id s) : db'.slots x.id s = x.inputId s := by
  rw [← slots_of_mem hx]
  exact not_not.mp (mt (hT.touched_iff hm hround e).mp hs)

theorem Tree.slot_taken {x : MatchRow} (hx : x ∈ db.matches_.rows) {s : Side}
    (hs : Touched db row.id m body x.id s) :
    x.inputId s = m.winnerId ∧ db'.slots x.id s = body.winner m := by
  rw [← slots_of_mem hx]
  exact hT.taken_over hm hround e hs

theorem Tree.replaced_slots {x : MatchRow} (hx : x ∈ db.matches_.rows) :
    Replaced m.winnerId (body.winner m) x.inputId (db'.slots x.id) := by
  intro s
  by_cases ht : Touched db row.id m body x.id s
  · exact Or.inr (hT.slot_taken hm hround e hx ht)
  · exact Or.inl (hT.slot_kept hm hround e hx ht)

/-- The scores that a match adds before the winners move on. -/
theorem Tree.scores_before {x : MatchRow} (hx : db.InItem row.id x) (i : StageItemInputId) :
    db.scoresIn row.id i (scoredRow m.id body x) = if db.published x.roundId then
      slotScores i x.inputId (scoredRow m.id body x).stageItemInput1Score
        (scoredRow m.id body x).stageItemInput2Score else [] := by
  obtain ⟨-, -, hround', -⟩ := hT.entry_facts hm hround e
  have hids : (scoredRow m.id body x).inputId = x.inputId := funext (scoredRow_inputId m.id body x)
  rw [scoresIn_eq, hids, (e.scored_rewrites hround').roundId x hx.1]
  intro s j hj
  rw [hids] at hj
  obtain ⟨input, hinput, hk, -⟩ := hT.wired.known x hx s j hj
  simpa [Database.knows, hinput] using hk

/-- The scores that it adds afterwards. -/
theorem Tree.scores_after {x : MatchRow} (hx : db.InItem row.id x) (i : StageItemInputId) :
    db.scoresIn row.id i (e.rowAfter x) = if db.published x.roundId then
      slotScores i (db'.slots x.id) (scoredRow m.id body x).stageItemInput1Score
        (scoredRow m.id body x).stageItemInput2Score else [] := by
  obtain ⟨-, hrow, hround', hW, -⟩ := hT.entry_facts hm hround e
  have hslots : db'.slots x.id = (e.rowAfter x).inputId :=
    hT.slots_after hm hround e (db.matches_.find?_key hx.1)
  have hroundId : (e.rowAfter x).roundId = x.roundId := (e.scored_rewrites hround').roundId x hx.1
  rw [scoresIn_eq, ← hslots, hroundId]
  · rfl
  · intro s j hj
    obtain ⟨input, hinput, hk, -⟩ := e.rowAfter_known hround' hW (hrow ▸ hx) hj
    rw [hrow] at hk
    simpa [Database.knows, hinput] using hk

theorem Tree.storedScores_before (i : StageItemInputId) :
    storedScores (sqlUpdateMatch db m.id body) row.id i =
      db.overMatches row.id fun x => db.scoresIn row.id i (scoredRow m.id body x) := by
  obtain ⟨-, -, hround', -⟩ := hT.entry_facts hm hround e
  exact (e.scored_rewrites hround').storedScores rfl row.id i

theorem Tree.storedScores_after (i : StageItemInputId) :
    storedScores db' row.id i =
      db.overMatches row.id fun x => db.scoresIn row.id i (e.rowAfter x) := by
  obtain ⟨-, -, hround', hW, htype, -⟩ := hT.entry_facts hm hround e
  exact (e.rewrites hround' hW htype).storedScores e.frame row.id i

/-- The match of the entry keeps its slots. -/
theorem Tree.touched_ne {y : MatchId} {side : Side} (h : Touched db row.id m body y side) :
    y ≠ m.id := by
  obtain ⟨-, -, hround', hW, htype, hS⟩ := hT.entry_facts hm hround e
  rintro rfl
  have hne := (hT.touched_iff hm hround e).mpr h
  exact hne (congrFun (e.own_slots hround' hW htype hS) side)

section Lengths

variable {i : StageItemInputId} {x : MatchRow} {side s : Side} (hx : db.InItem row.id x)
  (ht : Touched db row.id m body x.id side) (hrec : db.Recorded x)
include hx ht hrec

/-- **An input that comes to a full recorded match has more results afterwards**, and so has its
    opponent if nobody left. -/
theorem Tree.stored_more (hw : m.winnerId = none ∨ body.winner m = some i)
    (hfull : ∀ s, db'.slots x.id s ≠ none) (hi : db'.slots x.id s = some i)
    (hnew : m.winnerId = none ∨ x.inputId s ≠ some i) :
    (storedScores (sqlUpdateMatch db m.id body) row.id i).length <
      (storedScores db' row.id i).length := by
  rw [hT.storedScores_before hm hround e, hT.storedScores_after hm hround e]
  refine overMatches_length_lt (fun a ha => ?_) hx ?_
  · rw [hT.scores_before hm hround e ha, hT.scores_after hm hround e ha]
    split
    · exact replaced_length_le (hT.replaced_slots hm hround e ha.1) hw _ _
    · exact le_rfl
  · have hself := scoredRow_of_ne body (hT.touched_ne hm hround e ht)
    rw [hT.scores_before hm hround e hx, hT.scores_after hm hround e hx, if_pos hrec.1,
      if_pos hrec.1, hself]
    have hchange : x.inputId side ≠ db'.slots x.id side := by
      rw [← slots_of_mem hx.1]
      exact Ne.symm ((hT.touched_iff hm hround e).mpr ht)
    exact replaced_length_lt (hT.replaced_slots hm hround e hx.1) hw
      (not_and_or.mp hrec.2) hfull hchange hi hnew

/-- **An input that leaves a full recorded match had more results before**, and so had its opponent
    if nobody came. -/
theorem Tree.stored_less (hw : body.winner m = none ∨ m.winnerId = some i)
    (hfull : ∀ s, x.inputId s ≠ none) (hi : x.inputId s = some i)
    (hnew : body.winner m = none ∨ db'.slots x.id s ≠ some i) :
    (storedScores db' row.id i).length <
      (storedScores (sqlUpdateMatch db m.id body) row.id i).length := by
  rw [hT.storedScores_before hm hround e, hT.storedScores_after hm hround e]
  refine overMatches_length_lt (fun a ha => ?_) hx ?_
  · rw [hT.scores_before hm hround e ha, hT.scores_after hm hround e ha]
    split
    · exact replaced_length_le (hT.replaced_slots hm hround e ha.1).symm hw _ _
    · exact le_rfl
  · have hself := scoredRow_of_ne body (hT.touched_ne hm hround e ht)
    rw [hT.scores_before hm hround e hx, hT.scores_after hm hround e hx, if_pos hrec.1,
      if_pos hrec.1, hself]
    have hchange : db'.slots x.id side ≠ x.inputId side := by
      rw [← slots_of_mem hx.1]
      exact (hT.touched_iff hm hround e).mpr ht
    exact replaced_length_lt (hT.replaced_slots hm hround e hx.1).symm hw
      (not_and_or.mp hrec.2) hfull hchange hi hnew

end Lengths

/-- **Undisturbed results**: no match adds anything else for an input with a team. -/
theorem Tree.scores_undisturbed (h : Undisturbed db row.id m body) {i : StageItemInputId}
    (hteam : HasTeam db (some i)) {x : MatchRow} (hx : db.InItem row.id x) :
    db.scoresIn row.id i (scoredRow m.id body x) = db.scoresIn row.id i (e.rowAfter x) := by
  have hkeep : ∀ s, ¬ Touched db row.id m body x.id s → db'.slots x.id s = x.inputId s :=
    fun s hs => hT.slot_kept hm hround e hx.1 hs
  have htake : ∀ s, Touched db row.id m body x.id s →
      x.inputId s = m.winnerId ∧ db'.slots x.id s = body.winner m :=
    fun s hs => hT.slot_taken hm hround e hx.1 hs
  rw [hT.scores_before hm hround e hx, hT.scores_after hm hround e hx]
  split
  · next hpublished =>
    by_cases ht : ∃ side, Touched db row.id m body x.id side
    · obtain ⟨side, ht⟩ := ht
      rw [scoredRow_of_ne body (hT.touched_ne hm hround e ht)]
      by_cases hscore : x.Unscored
      · rw [hscore.1, hscore.2, slotScores_unscored, slotScores_unscored]
      · by_cases hfull : ∀ s, x.inputId s = none → Touched db row.id m body x.id s
        · obtain ⟨hold, hnew, hrest⟩ := h x side hx ht ⟨hpublished, hscore⟩ hfull
          have hnot : ∀ s, Touched db row.id m body x.id s →
              x.inputId s ≠ some i ∧ db'.slots x.id s ≠ some i := by
            intro s hs
            obtain ⟨h1, h2⟩ := htake s hs
            rw [h1, h2]
            exact ⟨fun e => hold (e ▸ hteam), fun e => hnew (e ▸ hteam)⟩
          rcases hrest with ⟨hsome, hsome'⟩ | hrest
          · refine slotScores_agree (fun s hs => ?_) (fun s hs => ?_) (fun s => ?_) _ _
            · exact hsome ((htake s (hfull s hs)).1.symm.trans hs)
            · by_cases hts : Touched db row.id m body x.id s
              · exact hsome' ((htake s hts).2.symm.trans hs)
              · exact hts (hfull s ((hkeep s hts).symm.trans hs))
            · by_cases hts : Touched db row.id m body x.id s
              · exact iff_of_false (hnot s hts).1 (hnot s hts).2
              · rw [hkeep s hts]
          · have hother : ∀ s, ¬ Touched db row.id m body x.id s → x.inputId s ≠ some i :=
              fun s hts e => hrest s hts (e ▸ hteam)
            rw [slotScores_of_not, slotScores_of_not]
            · intro s
              by_cases hts : Touched db row.id m body x.id s
              · exact (hnot s hts).2
              · rw [hkeep s hts]
                exact hother s hts
            · intro s
              by_cases hts : Touched db row.id m body x.id s
              · exact (hnot s hts).1
              · exact hother s hts
        · -- a slot is empty before and after
          simp only [not_forall] at hfull
          obtain ⟨s, hs, hts⟩ := hfull
          rw [slotScores_empty hs, slotScores_empty ((hkeep s hts).trans hs)]
    · have hsame : db'.slots x.id = x.inputId :=
        funext fun s => hkeep s fun hs => ht ⟨s, hs⟩
      rw [hsame]
  · rfl

/-- **Nobody with a team has a result more or less**, if every input with a team has as many before
    as after. -/
theorem Tree.undisturbed_of_lengths (h : ∀ i, KnownInput db tid row.id i → HasTeam db (some i) →
    (storedScores (sqlUpdateMatch db m.id body) row.id i).length =
      (storedScores db' row.id i).length) : Undisturbed db row.id m body := by
  intro x side hx ht hrec hfull
  obtain ⟨-, hrow, hround', hW, -⟩ := hT.entry_facts hm hround e
  have hkeep : ∀ s, ¬ Touched db row.id m body x.id s → db'.slots x.id s = x.inputId s :=
    fun s hs => hT.slot_kept hm hround e hx.1 hs
  have htake : ∀ s, Touched db row.id m body x.id s →
      x.inputId s = m.winnerId ∧ db'.slots x.id s = body.winner m :=
    fun s hs => hT.slot_taken hm hround e hx.1 hs
  have hne := ht.winner_ne
  have hbefore : m.winnerId ≠ none → ∀ s, x.inputId s ≠ none := fun hsome s hs =>
    hsome ((htake s (hfull s hs)).1.symm.trans hs)
  have hafter : body.winner m ≠ none → ∀ s, db'.slots x.id s ≠ none := by
    intro hsome s hs
    by_cases hts : Touched db row.id m body x.id s
    · exact hsome ((htake s hts).2.symm.trans hs)
    · exact hts (hfull s ((hkeep s hts).symm.trans hs))
  have hknown : ∀ s i, x.inputId s = some i → KnownInput db tid row.id i := hT.wired.known x hx
  have hknown' : ∀ s i, db'.slots x.id s = some i → KnownInput db tid row.id i := by
    intro s i hi
    have hslots : db'.slots x.id = (e.rowAfter x).inputId :=
      hT.slots_after hm hround e (db.matches_.find?_key hx.1)
    rw [hslots] at hi
    exact hrow ▸ e.rowAfter_known hround' hW (hrow ▸ hx) hi
  refine ⟨fun hteam => ?_, fun hteam => ?_, ?_⟩
  · obtain ⟨i, input, hi, hteam⟩ := hteam
    have hin : x.inputId side = some i := (htake side ht).1.trans hi
    have hless := hT.stored_less hm hround e hx ht hrec (Or.inr hi)
      (hbefore (by rw [hi]; exact Option.some_ne_none i)) hin
      (Or.inr (by rw [(htake side ht).2, ← hi]; exact hne))
    exact absurd (h i (hknown side i hin) ⟨i, input, rfl, hteam⟩) hless.ne'
  · obtain ⟨i, input, hi, hteam⟩ := hteam
    have hin : db'.slots x.id side = some i := (htake side ht).2.trans hi
    have hmore := hT.stored_more hm hround e hx ht hrec (Or.inr hi)
      (hafter (by rw [hi]; exact Option.some_ne_none i)) hin
      (Or.inr (by rw [(htake side ht).1, ← hi]; exact hne.symm))
    exact absurd (h i (hknown' side i hin) ⟨i, input, rfl, hteam⟩) hmore.ne
  · by_cases hold : m.winnerId = none
    · refine Or.inr fun s hts hteam => ?_
      obtain ⟨i, input, hi, hteam⟩ := hteam
      have hmore := hT.stored_more hm hround e hx ht hrec (Or.inl hold)
        (hafter fun hnew => hne (hnew.trans hold.symm)) ((hkeep s hts).trans hi) (Or.inl hold)
      exact absurd (h i (hknown s i hi) ⟨i, input, rfl, hteam⟩) hmore.ne
    · by_cases hnew : body.winner m = none
      · refine Or.inr fun s hts hteam => ?_
        obtain ⟨i, input, hi, hteam⟩ := hteam
        have hless := hT.stored_less hm hround e hx ht hrec (Or.inl hnew) (hbefore hold) hi
          (Or.inl hnew)
        exact absurd (h i (hknown s i hi) ⟨i, input, rfl, hteam⟩) hless.ne'
      · exact Or.inl ⟨hold, hnew⟩

/-- **When a score entry leaves exact results**: just if the new winner takes nobody's place in a
    match that counts already, as far as inputs with a team are concerned. -/
theorem Tree.entry_exact_iff (hU : TeamsOnce db) {ranking : RankingRow} {d : StatisticsDict}
    (hs : StoresStatistics E db db' tid row m.id body ranking d) :
    StatisticsExact E db' tid row.id ↔ Undisturbed db row.id m body := by
  obtain ⟨hd, d', hd', hiff⟩ := hT.exact_iff_cached hm hround hU e hs
  rw [hiff]
  constructor
  · intro hall
    refine hT.undisturbed_of_lengths hm hround e fun i hknown hteam => ?_
    obtain ⟨input, hi, rfl, hsome⟩ := loaded_of_hasTeam e.frame hknown hteam
    have hcached := hall input hi hsome
    have hw := congrArg CachedStatistics.wins hcached
    have hdraws := congrArg CachedStatistics.draws hcached
    have hl := congrArg CachedStatistics.losses hcached
    have hplayed := (hd input.id).played
    have hplayed' := (hd' input.id).played
    simp only [TeamStatistics.cached] at hw hdraws hl
    omega
  · intro hun input hi hsome
    have hteam := hasTeam_of_loaded e.frame hi hsome
    have hsame : storedScores (sqlUpdateMatch db m.id body) row.id input.id =
        storedScores db' row.id input.id := by
      rw [hT.storedScores_before hm hround e, hT.storedScores_after hm hround e]
      exact overMatches_congr fun x hx => hT.scores_undisturbed hm hround e hun hteam hx
    exact (hd input.id).cached_eq (hsame ▸ hd' input.id)

end Walk

/-- The score entry as a request. -/
theorem updateMatch_exact_iff (hU : TeamsOnce db)
    (h : updateMatchById E db tid m.id body = .ok db') :
    StatisticsExact E db' tid row.id ↔ Undisturbed db row.id m body := by
  obtain ⟨se⟩ := updateMatchById_ok h
  obtain ⟨ranking, d, hs⟩ := hT.request_stores hm hround se
  exact hT.entry_exact_iff hm hround se.entry hU hs

/-- The score entry as a transaction on its own. -/
theorem Tree.result_exact_iff (hU : TeamsOnce db)
    (h : Sessions.Effect (resultTransaction E tid row.id m body) db db db') :
    StatisticsExact E db' tid row.id ↔ Undisturbed db row.id m body := by
  obtain ⟨e⟩ := hT.result_entry hm h
  obtain ⟨ranking, d, hs⟩ := hT.result_stores h
  exact hT.entry_exact_iff hm hround e hU hs

end Request

/-! ### A semifinal that is corrected after the final -/

/-- The rows of a tree, in a database with one stage item. -/
def TreeRows (db : Database) (tid : TournamentId) (k : StageItemId) : Prop :=
  ∀ m ∈ db.matches_.rows, db.roundItem m.roundId = some k ∧ ∀ side ∈ [Side.one, Side.two],
    (∀ i ∈ m.inputId side, ∃ input ∈ db.stageItemInputs.rows, input.id = i ∧
      input.stageItemId = k ∧ input.tournamentId = tid) ∧
    ∀ j ∈ m.winnerFrom side, (∃ src ∈ db.matches_.rows, src.id = j ∧ src.roundId < m.roundId ∧
      m.inputId side = src.winnerId) ∧
      ∀ m' ∈ db.matches_.rows, ∀ side' ∈ [Side.one, Side.two], m'.winnerFrom side' = some j → m = m'

instance (db : Database) (tid : TournamentId) (k : StageItemId) : Decidable (TreeRows db tid k) := by
  unfold TreeRows
  infer_instance

theorem mem_sides (side : Side) : side ∈ [Side.one, Side.two] := by
  cases side <;> decide

theorem TreeRows.tree {db : Database} {tid : TournamentId} {row : StageItemRow}
    (h : TreeRows db tid row.id) (found : db.stageItems.find? row.id = some row)
    (ofTournament : db.stageItemTournament row.id = some tid) (type : row.type = .singleElimination)
    (inputs : ∀ i ∈ (loadStageItem db tid row).inputs, i.valid) : Tree db tid row where
  wired :=
    { source := by
        intro m hm side j hw
        obtain ⟨⟨src, hsrc, hid, hlt, -⟩, -⟩ := ((h m hm.1).2 side (mem_sides side)).2 j hw
        exact ⟨src, ⟨hsrc, (h src hsrc).1⟩, hid, hlt⟩
      reader := by
        intro m m' hm hm' side side' j hw hw'
        exact (((h m hm.1).2 side (mem_sides side)).2 j hw).2 m' hm'.1 side' (mem_sides side') hw'
      known := by
        intro m hm side i hi
        obtain ⟨input, hinput, rfl, hknown⟩ := ((h m hm.1).2 side (mem_sides side)).1 i hi
        exact ⟨input, db.stageItemInputs.find?_key hinput, hknown⟩ }
  settled := by
    intro m src hm hsrc side hw
    obtain ⟨⟨src', hsrc', hid, -, hwinner⟩, -⟩ := ((h m hm.1).2 side (mem_sides side)).2 src.id hw
    rwa [db.matches_.eq_of_key hsrc' hsrc.1 hid] at hwinner
  found := found
  ofTournament := ofTournament
  type := type
  inputs := inputs

def noExpectation : ExpectedScore := fun _ => none

/-- The stored and the computed wins of the first input. -/
def firstWins (db : Database) : Outcome (Option (Bool × Int × Int)) :=
  (rankingNow noExpectation db 1 1).map fun now =>
    (now.1.inputs.find? (·.id == 1)).map fun i =>
      (i.teamId.isSome, i.wins, (now.2.getD i.id (initialStatistics now.1.type)).wins)

theorem not_exact_of_wins {db : Database} {stored computed : Int}
    (h : firstWins db = .ok (some (true, stored, computed))) (hne : stored ≠ computed) :
    ¬ StatisticsExact noExpectation db 1 1 := by
  rintro ⟨item, d, hnow, hexact⟩
  rw [firstWins, hnow] at h
  obtain ⟨i, hi, hv⟩ := Option.map_eq_some_iff.mp (Except.ok.inj h)
  obtain ⟨hteam, hv⟩ := Prod.mk.inj hv
  obtain ⟨hstored, hcomputed⟩ := Prod.mk.inj hv
  have hcached := congrArg CachedStatistics.wins (hexact i (List.mem_of_find?_eq_some hi) hteam)
  exact hne (hstored.symm.trans (hcached.trans hcomputed))

def cupSeed (k : Int) (wins losses : Int) : StageItemInputRow :=
  ⟨k, k, 1, 1, some k, none, none, 3 * wins, wins, 0, losses⟩

/-- A cup of four that is over; the first team won. -/
def playedCup : Database :=
  { cup with
    stageItemInputs := ⟨[cupSeed 1 2 0, cupSeed 2 0 1, cupSeed 3 1 1, cupSeed 4 0 1], 5,
      by decide, by decide⟩
    matches_ := ⟨[{ cupMatch 1 1 (some 1) (some 2) none none with stageItemInput1Score := 1 },
      { cupMatch 2 1 (some 3) (some 4) none none with stageItemInput1Score := 1 },
      { cupMatch 3 2 (some 1) (some 3) (some 1) (some 2) with stageItemInput1Score := 1 }], 4,
      by decide, by decide⟩ }

theorem playedCup_tree : Tree playedCup 1 cupItem :=
  TreeRows.tree (by decide) rfl rfl rfl (by decide)

/-- The first semifinal with the other winner. -/
def correction : MatchBody := cupBody 1 0 1

/-- The first semifinal as it is stored. -/
def playedSemifinal : MatchRow :=
  { cupMatch 1 1 (some 1) (some 2) none none with stageItemInput1Score := 1 }

theorem correction_wins : ((updateMatchById noExpectation playedCup 1 1 correction).bind firstWins) =
    .ok (some (true, 1, 0)) := rfl

theorem playedCup_exact_iff : ∃ db', updateMatchById noExpectation playedCup 1 1 correction = .ok db' ∧
    (StatisticsExact noExpectation db' 1 1 ↔ Undisturbed playedCup 1 playedSemifinal correction) := by
  obtain ⟨db', hdb', -⟩ := bind_eq_ok.mp correction_wins
  have hm : playedCup.InItem cupItem.id playedSemifinal := ⟨by decide, rfl⟩
  have hround : correction.roundId = playedSemifinal.roundId := by decide
  have hteams : TeamsOnce playedCup := by
    unfold TeamsOnce
    decide
  have hiff := @updateMatch_exact_iff noExpectation playedCup db' 1 cupItem playedSemifinal correction
    playedCup_tree hm hround hteams hdb'
  exact ⟨db', hdb', hiff⟩

/-- **A correction after the final**: the winner of the corrected semifinal takes its place in the
    final, and the one who lost it keeps the win. -/
theorem correction_stale : TeamsOnce playedCup ∧ Tree playedCup 1 cupItem ∧
    StatisticsExact noExpectation playedCup 1 1 ∧ playedCup.InItem 1 playedSemifinal ∧
    ∃ db', updateMatchById noExpectation playedCup 1 playedSemifinal.id correction = .ok db' ∧
      ¬ StatisticsExact noExpectation db' 1 1 := by
  refine ⟨by unfold TeamsOnce; decide, playedCup_tree, ?_, ⟨by decide, rfl⟩, ?_⟩
  · obtain ⟨now, hnow, hexact⟩ := exists_ok_of_any (x := rankingNow noExpectation playedCup 1 1)
      (P := fun now => ∀ i ∈ now.1.inputs, i.teamId.isSome →
        i.cached = (now.2.getD i.id (initialStatistics now.1.type)).cached) (by decide +kernel)
    exact ⟨now.1, now.2, hnow, hexact⟩
  · obtain ⟨db', hdb', hwins⟩ := bind_eq_ok.mp correction_wins
    exact ⟨db', hdb', not_exact_of_wins hwins (by decide)⟩

end Brackets
