/-
  File:      Brackets/Ranking/Monotone.lean
  Subject:   More score costs no place in the standings.

  Raising one score of an input moves the match from unplayed to won, from lost to drawn or won,
  or just raises the score. Outside of Swiss stage items all of these change the sums of two inputs
  only: the input has no fewer points than before (`raise_points`), nobody else has more
  (`raise_points_other`), and its score difference grows by more (`raise_gain`). Points and
  difference are the first two parts of the order of the standings, so nobody who was behind comes
  in front: `raisedScore_staysAhead`.

  There is one exception. Who loses a match that counts for the first time may get points for it,
  fewer than the winner. If they are rounded they can bring more: `roundedPoints_overtake`.
-/
import Mathlib.Tactic.Linarith
import Mathlib.Data.List.Induction
import Mathlib.Data.List.Flatten
import Brackets.Ranking.Decimals
import Brackets.Ranking.Turns

namespace Brackets

open Library

/-! ## 1. Pairs of a sorted list -/

theorem pair_sublist_or {α : Type} {l : List α} {a b : α} (ha : a ∈ l) (hb : b ∈ l)
    (hne : a ≠ b) : [a, b].Sublist l ∨ [b, a].Sublist l := by
  induction l with
  | nil => cases ha
  | cons c l ih =>
    rcases List.mem_cons.1 ha with rfl | hal
    · have hbl := (List.mem_cons.1 hb).resolve_left hne.symm
      exact Or.inl ((List.singleton_sublist.2 hbl).cons_cons a)
    · rcases List.mem_cons.1 hb with rfl | hbl
      · exact Or.inr ((List.singleton_sublist.2 hal).cons_cons b)
      · exact (ih hal hbl).imp (List.Sublist.cons c) (List.Sublist.cons c)

theorem rel_of_pair_sublist {α : Type} {r : α → α → Prop} {l : List α} (h : l.Pairwise r) {a b : α}
    (hab : [a, b].Sublist l) : r a b :=
  (List.pairwise_cons.1 (h.sublist hab)).1 b List.mem_cons_self

theorem pair_sublist_of_not_rel {α : Type} {r : α → α → Prop} {l : List α} (h : l.Pairwise r)
    {a b : α} (ha : a ∈ l) (hb : b ∈ l) (hne : a ≠ b) (hba : ¬ r b a) : [a, b].Sublist l :=
  (pair_sublist_or ha hb hne).resolve_right fun hsub => hba (rel_of_pair_sublist h hsub)

/-! ## 2. One match -/

def Match.score (m : Match) : Side → Int
  | .one => m.stageItemInput1Score
  | .two => m.stageItemInput2Score

/-- The match with another score of one side. -/
def Match.withScore (side : Side) (score : Int) (m : Match) : Match :=
  match side with
  | .one => { m with stageItemInput1Score := score }
  | .two => { m with stageItemInput2Score := score }

namespace Match

variable (side : Side) (score : Int) (m : Match)

theorem withScore_id : (m.withScore side score).id = m.id := by cases side <;> rfl

theorem withScore_input (s : Side) : (m.withScore side score).input s = m.input s := by
  cases side <;> rfl

@[simp] theorem withScore_score : (m.withScore side score).score side = score := by
  cases side <;> rfl

@[simp] theorem withScore_other :
    (m.withScore side score).score side.other = m.score side.other := by
  cases side <;> rfl

end Match

/-- The scores of an input in the match, if it counts. -/
def Match.countedScores (m : Match) (k : StageItemInputId) : List (Int × Int) :=
  m.result?.toList.flatMap (·.scoresOf k)

/-- The scores of a result between two inputs. -/
theorem Result.scoresOf_eq {r : Result} (side : Side) (hne : r.input side.other ≠ r.input side)
    (k : StageItemInputId) : r.scoresOf k =
      if k = r.input side then [(r.score side, r.score side.other)]
      else if k = r.input side.other then [(r.score side.other, r.score side)] else [] := by
  unfold scoresOf
  cases side with
  | one =>
    show _ = if k = r.input1 then [(r.score1, r.score2)]
      else if k = r.input2 then [(r.score2, r.score1)] else []
    by_cases h1 : k = r.input1
    · have h2 : r.input2 ≠ k := fun h2 => hne (h2.trans h1)
      rw [if_pos h1.symm, if_neg h2, if_pos h1, List.append_nil]
    · rw [if_neg (Ne.symm h1), if_neg h1, List.nil_append]
      exact if_congr eq_comm rfl rfl
  | two =>
    show _ = if k = r.input2 then [(r.score2, r.score1)]
      else if k = r.input1 then [(r.score1, r.score2)] else []
    by_cases h2 : k = r.input2
    · have h1 : r.input1 ≠ k := fun h1 => hne (h1.trans h2)
      rw [if_neg h1, if_pos h2.symm, if_pos h2, List.nil_append]
    · rw [if_neg (Ne.symm h2), if_neg h2, List.append_nil]
      exact if_congr eq_comm rfl rfl

theorem Match.result?_eq {m : Match} {side : Side} {i j : StageItemInput}
    (hi : m.input side = some i) (hj : m.input side.other = some j) :
    ∃ r : Result, r.input side = i.id ∧ r.input side.other = j.id ∧ r.score side = m.score side ∧
      r.score side.other = m.score side.other ∧
      m.result? = if m.score side = 0 ∧ m.score side.other = 0 then none else some r := by
  cases side with
  | one =>
    have h1 : m.stageItemInput1 = some i := hi
    have h2 : m.stageItemInput2 = some j := hj
    refine ⟨⟨i.id, j.id, m.stageItemInput1Score, m.stageItemInput2Score⟩, rfl, rfl, rfl, rfl, ?_⟩
    unfold result?
    rw [h1, h2]
    by_cases hs : m.stageItemInput1Score = 0 <;> simp [score, Side.other, hs]
  | two =>
    have h1 : m.stageItemInput1 = some j := hj
    have h2 : m.stageItemInput2 = some i := hi
    refine ⟨⟨j.id, i.id, m.stageItemInput1Score, m.stageItemInput2Score⟩, rfl, rfl, rfl, rfl, ?_⟩
    unfold result?
    rw [h1, h2]
    by_cases hs : m.stageItemInput2Score = 0 <;> simp [score, Side.other, hs]

theorem Match.countedScores_eq {m : Match} {side : Side} {i j : StageItemInput}
    (hi : m.input side = some i) (hj : m.input side.other = some j) (hne : j.id ≠ i.id)
    (k : StageItemInputId) : m.countedScores k =
      if m.score side = 0 ∧ m.score side.other = 0 then []
      else if k = i.id then [(m.score side, m.score side.other)]
      else if k = j.id then [(m.score side.other, m.score side)] else [] := by
  obtain ⟨r, h1, h2, h3, h4, hresult⟩ := Match.result?_eq hi hj
  have hscores := r.scoresOf_eq side (h1.symm ▸ h2.symm ▸ hne) k
  rw [h1, h2, h3, h4] at hscores
  unfold countedScores
  rw [hresult, ← hscores]
  split
  · rfl
  · exact List.append_nil _

/-- The points of a verdict. -/
def verdictPoints (ranking : RankingRow) : Verdict → Rat
  | .win => ranking.winPoints
  | .draw => ranking.drawPoints
  | .loss => ranking.lossPoints

theorem gainOf_eq (ranking : RankingRow) (a b : Int) : gainOf ranking a b =
    if ranking.addScorePoints then verdictPoints ranking (verdictOf a b) + a
    else verdictPoints ranking (verdictOf a b) := by
  unfold gainOf verdictPoints
  cases verdictOf a b <;> rfl

section Gain

variable {ranking : RankingRow} (hloss : 0 ≤ ranking.lossPoints)
  (hdraw : ranking.lossPoints ≤ ranking.drawPoints) (hwin : ranking.drawPoints ≤ ranking.winPoints)
include hdraw hwin

/-- A better verdict is worth no fewer points. -/
theorem verdictPoints_le {a b a' b' : Int} (h : a ≤ a') (h' : b' ≤ b) :
    verdictPoints ranking (verdictOf a b) ≤ verdictPoints ranking (verdictOf a' b') := by
  rcases verdictOf_cases a b with ⟨hv, hlt⟩ | ⟨hv, heq⟩ | ⟨hv, hlt⟩ <;>
    rcases verdictOf_cases a' b' with ⟨hv', hlt'⟩ | ⟨hv', heq'⟩ | ⟨hv', hlt'⟩ <;>
    rw [hv, hv'] <;> unfold verdictPoints <;> dsimp only <;> first | omega | linarith

theorem gainOf_raise {a a' : Int} (h : a < a') (b : Int) :
    gainOf ranking a b ≤ gainOf ranking a' b := by
  have hpoints := verdictPoints_le hdraw hwin h.le (le_refl b)
  have hscore : (a : Rat) < a' := Int.cast_lt.2 h
  rw [gainOf_eq, gainOf_eq]
  split
  · linarith
  · exact hpoints

theorem gainOf_raise_opponent {a a' : Int} (h : a < a') (b : Int) :
    gainOf ranking b a' ≤ gainOf ranking b a := by
  have hpoints := verdictPoints_le hdraw hwin (le_refl b) h.le
  rw [gainOf_eq, gainOf_eq]
  split
  · linarith
  · exact hpoints

/-- In a match that did not count before, the raised score wins. -/
theorem gainOf_first {a : Int} (h : 0 < a) : gainOf ranking 0 a ≤ gainOf ranking a 0 := by
  have hpoints := verdictPoints_le hdraw hwin h.le h.le
  have hscore : ((0 : Int) : Rat) < a := Int.cast_lt.2 h
  rw [gainOf_eq, gainOf_eq]
  split
  · linarith
  · exact hpoints

include hloss in
theorem gainOf_nonneg {a : Int} (h : 0 ≤ a) (b : Int) : 0 ≤ gainOf ranking a b := by
  have hscore : ((0 : Int) : Rat) ≤ a := Int.cast_le.2 h
  have hpoints : 0 ≤ verdictPoints ranking (verdictOf a b) := by
    rcases verdictOf_cases a b with ⟨hv, -⟩ | ⟨hv, -⟩ | ⟨hv, -⟩ <;>
      rw [hv] <;> unfold verdictPoints <;> dsimp only <;> linarith
  rw [gainOf_eq]
  split
  · push_cast at hscore
    linarith
  · linarith

end Gain

section Rounded

variable {A : Rounding} {ranking : RankingRow}

theorem roundedGain_le {a b a' b' : Int} (h : gainOf ranking a b ≤ gainOf ranking a' b') :
    roundedGain A ranking a b ≤ roundedGain A ranking a' b' := by
  unfold roundedGain
  split
  · exact A.mono h
  · exact h

theorem roundedGain_nonneg {a b : Int} (h : 0 ≤ gainOf ranking a b) :
    0 ≤ roundedGain A ranking a b := by
  unfold roundedGain
  split
  · rw [← A.zero]
    exact A.mono h
  · exact h

theorem roundedGain_zero {a b : Int} (h : gainOf ranking a b = 0) :
    roundedGain A ranking a b = 0 := by
  unfold roundedGain
  rw [h, A.zero, ite_self]

end Rounded

/-! ## 3. What a raised score changes -/

/-- The match has not been played, and its other input, which is this one, gets points even for
    losing it. -/
def Match.FirstLoss (m : Match) (ranking : RankingRow) (side : Side) (k : StageItemInputId) : Prop :=
  m.score side = 0 ∧ m.score side.other = 0 ∧ (∃ j, m.input side.other = some j ∧ j.id = k) ∧
    ranking.lossPoints ≠ 0

section Change

variable {A : Rounding} {ranking : RankingRow} (hloss : 0 ≤ ranking.lossPoints)
  (hdraw : ranking.lossPoints ≤ ranking.drawPoints) (hwin : ranking.drawPoints ≤ ranking.winPoints)
  {m : Match} {side : Side} {i j : StageItemInput} (hi : m.input side = some i)
  (hj : m.input side.other = some j) (hne : j.id ≠ i.id) (hscore : 0 ≤ m.score side) {score : Int}
  (hraise : m.score side < score)

include hi hj hne hscore hraise in
/-- The scores in the match with the raised score. -/
theorem countedScores_withScore (k : StageItemInputId) :
    (m.withScore side score).countedScores k =
      if k = i.id then [(score, m.score side.other)]
      else if k = j.id then [(m.score side.other, score)] else [] := by
  have hi' := (m.withScore_input side score side).trans hi
  have hj' := (m.withScore_input side score side.other).trans hj
  have hpos : ¬ (score = 0 ∧ m.score side.other = 0) := fun h => by omega
  rw [Match.countedScores_eq hi' hj' hne k, Match.withScore_score, Match.withScore_other,
    if_neg hpos]

include hdraw hwin hi hj hne hscore hraise

include hloss in
/-- **The raised score gains at least as many points and a greater difference than it brings
    anybody else**, before any rounding. -/
theorem raise_gain {k : StageItemInputId} (hk : k ≠ i.id) :
    worth ranking ((m.withScore side score).countedScores k) - worth ranking (m.countedScores k) ≤
        worth ranking ((m.withScore side score).countedScores i.id) -
          worth ranking (m.countedScores i.id) ∧
      margin ((m.withScore side score).countedScores k) - margin (m.countedScores k) <
        margin ((m.withScore side score).countedScores i.id) - margin (m.countedScores i.id) := by
  rw [countedScores_withScore hi hj hne hscore hraise,
    countedScores_withScore hi hj hne hscore hraise, Match.countedScores_eq hi hj hne k,
    Match.countedScores_eq hi hj hne i.id, if_neg hk, if_pos rfl]
  by_cases hcounts : m.score side = 0 ∧ m.score side.other = 0
  · rw [if_pos hcounts, if_pos hcounts, hcounts.2]
    rw [hcounts.1] at hraise
    have hown := gainOf_nonneg hloss hdraw hwin hraise.le 0
    have hfirst := gainOf_first hdraw hwin hraise
    by_cases hkj : k = j.id
    · rw [if_pos hkj]
      simp only [worth_singleton, margin_singleton, worth_nil, margin_nil]
      exact ⟨by linarith, by omega⟩
    · rw [if_neg hkj]
      simp only [worth_singleton, margin_singleton, worth_nil, margin_nil]
      exact ⟨by linarith, by omega⟩
  · rw [if_neg hcounts, if_neg hcounts, if_neg hk, if_pos rfl]
    have hown := gainOf_raise hdraw hwin hraise (m.score side.other)
    have hopponent := gainOf_raise_opponent hdraw hwin hraise (m.score side.other)
    by_cases hkj : k = j.id
    · rw [if_pos hkj, if_pos hkj]
      simp only [worth_singleton, margin_singleton]
      exact ⟨by linarith, by omega⟩
    · rw [if_neg hkj, if_neg hkj]
      simp only [worth_singleton, margin_singleton, worth_nil, margin_nil]
      exact ⟨by linarith, by omega⟩

include hloss in
/-- **The input has no fewer points than before.** -/
theorem raise_points {points : Rat} (hpoints : A.round points = points) :
    Rounded.pointsAfter A ranking points (m.countedScores i.id) ≤
      Rounded.pointsAfter A ranking points ((m.withScore side score).countedScores i.id) := by
  rw [countedScores_withScore hi hj hne hscore hraise, Match.countedScores_eq hi hj hne i.id,
    if_pos rfl, if_pos rfl]
  by_cases hcounts : m.score side = 0 ∧ m.score side.other = 0
  · have hgain : 0 ≤ roundedGain A ranking score (m.score side.other) :=
      roundedGain_nonneg (gainOf_nonneg hloss hdraw hwin (hscore.trans hraise.le) _)
    rw [if_pos hcounts, Rounded.pointsAfter_nil, Rounded.pointsAfter_singleton]
    calc points = A.round points := hpoints.symm
      _ ≤ A.round (points + roundedGain A ranking score (m.score side.other)) :=
          A.mono (le_add_of_nonneg_right hgain)
  · have hgain : roundedGain A ranking (m.score side) (m.score side.other) ≤
        roundedGain A ranking score (m.score side.other) :=
      roundedGain_le (gainOf_raise hdraw hwin hraise (m.score side.other))
    rw [if_neg hcounts, Rounded.pointsAfter_singleton, Rounded.pointsAfter_singleton]
    exact A.mono (add_le_add_right hgain points)

/-- **Nobody else has more points**, but who loses a match that counts for the first time. -/
theorem raise_points_other {k : StageItemInputId} (hk : k ≠ i.id)
    (hfirst : ¬ m.FirstLoss ranking side k) {points : Rat} (hpoints : A.round points = points) :
    Rounded.pointsAfter A ranking points ((m.withScore side score).countedScores k) ≤
      Rounded.pointsAfter A ranking points (m.countedScores k) := by
  rw [countedScores_withScore hi hj hne hscore hraise, Match.countedScores_eq hi hj hne k,
    if_neg hk, if_neg hk]
  by_cases hkj : k = j.id
  · rw [if_pos hkj, if_pos hkj]
    by_cases hcounts : m.score side = 0 ∧ m.score side.other = 0
    · -- losing brings no points
      have hzero : ranking.lossPoints = 0 := by
        by_contra hpositive
        exact hfirst ⟨hcounts.1, hcounts.2, ⟨j, hj, hkj.symm⟩, hpositive⟩
      have hverdict : verdictOf (m.score side.other) score = .loss :=
        verdictOf_eq_loss.mpr (by omega)
      have hgain : gainOf ranking (m.score side.other) score = 0 := by
        rw [gainOf_eq, hverdict, hcounts.2]
        simp [verdictPoints, hzero]
      rw [if_pos hcounts, Rounded.pointsAfter_nil, Rounded.pointsAfter_singleton,
        roundedGain_zero hgain, add_zero, hpoints]
    · have hgain : roundedGain A ranking (m.score side.other) score ≤
          roundedGain A ranking (m.score side.other) (m.score side) :=
        roundedGain_le (gainOf_raise_opponent hdraw hwin hraise (m.score side.other))
      rw [if_neg hcounts, Rounded.pointsAfter_singleton, Rounded.pointsAfter_singleton]
      exact A.mono (add_le_add_right hgain points)
  · rw [if_neg hkj, if_neg hkj, ite_self]

end Change

/-! ## 4. The standings -/

theorem of_mem_keyedEntries {item : StageItemWithRounds} {d : StatisticsDict}
    {a : RankingEntry × Int} (ha : a ∈ keyedEntries item d) :
    a.1.1 ∈ d.keys ∧ ∀ s, a.1.2 = d.getD a.1.1 s := by
  obtain ⟨e, he, rfl⟩ := List.mem_map.mp ha
  refine ⟨List.mem_map_of_mem he, fun s => ?_⟩
  show e.2 = (d.get? e.1).getD s
  rw [d.get?_eq_some.mpr he]
  rfl

theorem exists_keyedEntries {item : StageItemWithRounds} {d : StatisticsDict} {k : StageItemInputId}
    (hk : k ∈ d.keys) : ∃ a ∈ keyedEntries item d, a.1.1 = k := by
  obtain ⟨e, he, rfl⟩ := List.mem_map.mp hk
  exact ⟨_, List.mem_map_of_mem he, rfl⟩

/-- One input is listed behind another. -/
theorem pair_keyedEntries {item : StageItemWithRounds} {d : StatisticsDict}
    {j k : StageItemInputId} :
    [j, k].Sublist ((((keyedEntries item d).insertionSort standsBefore).map (·.1)).map Prod.fst) ↔
      ∃ a b, [a, b].Sublist ((keyedEntries item d).insertionSort standsBefore) ∧
        a.1.1 = j ∧ b.1.1 = k := by
  rw [List.map_map, List.sublist_map_iff]
  constructor
  · rintro ⟨pair, hsub, hpair⟩
    match pair, hpair with
    | [a, b], hpair =>
      obtain ⟨hj, htail⟩ := List.cons.inj hpair
      obtain ⟨hk, -⟩ := List.cons.inj htail
      exact ⟨a, b, hsub, hj.symm, hk.symm⟩
  · rintro ⟨a, b, hsub, rfl, rfl⟩
    exact ⟨[a, b], hsub, rfl⟩

/-- Gaining more than the one behind keeps the other behind. -/
theorem not_standsBefore {a b a' b' : RankingEntry × Int} (h : standsBefore a b)
    (hpoints : b'.1.2.points - b.1.2.points ≤ a'.1.2.points - a.1.2.points)
    (hdifference : b'.1.2.scoreDifference - b.1.2.scoreDifference <
      a'.1.2.scoreDifference - a.1.2.scoreDifference) : ¬ standsBefore b' a' := by
  have hbefore : b.1.2.points < a.1.2.points ∨ b.1.2.points = a.1.2.points ∧
      b.1.2.scoreDifference ≤ a.1.2.scoreDifference := by
    refine h.imp id fun ⟨hp, hrest⟩ => ⟨hp, ?_⟩
    rcases hrest with hd | ⟨hd, -⟩
    · exact hd.le
    · exact hd.le
  rintro (hlt | ⟨heq, hrest⟩)
  · rcases hbefore with hp | ⟨hp, -⟩ <;> linarith
  · rcases hbefore with hp | ⟨-, hd⟩
    · linarith
    · omega

/-! ## 5. Raising a score -/

/-- The stage item with another score of one side of a match. -/
def StageItemWithRounds.withScore (item : StageItemWithRounds) (k : MatchId) (side : Side)
    (score : Int) : StageItemWithRounds :=
  item.mapMatches fun m => if m.id = k then m.withScore side score else m

section Raise

variable {item : StageItemWithRounds} {m : Match} {side : Side} {score : Int}

theorem mem_publishedMatches {r : RoundWithMatches} (hr : r ∈ item.rounds)
    (hpublished : r.isDraft = false) (hm : m ∈ r.matches_) : m ∈ item.publishedMatches := by
  refine List.mem_flatMap.mpr ⟨r, List.mem_filter.mpr ⟨List.mem_insertionSort _ |>.mpr hr, ?_⟩,
    List.mem_insertionSort _ |>.mpr hm⟩
  rw [hpublished]
  rfl

theorem publishedMatches_nodup
    (hids : ((item.rounds.flatMap (·.matches_)).map (·.id)).Nodup) :
    (item.publishedMatches.map (·.id)).Nodup := by
  have hsub : ((item.rounds.filter fun r => !r.isDraft).flatMap (·.matches_)).Sublist
      (item.rounds.flatMap (·.matches_)) := List.filter_sublist.flatMap _
  exact (((publishedMatches_perm item).map _).nodup_iff).mpr (hids.sublist (hsub.map _))

/-- The results before and after, apart from the match. -/
theorem results_withScore (hids : ((item.rounds.flatMap (·.matches_)).map (·.id)).Nodup)
    (hm : m ∈ item.publishedMatches) : ∃ before after : List Result,
      item.results = before ++ m.result?.toList ++ after ∧
      (item.withScore m.id side score).results =
        before ++ (m.withScore side score).result?.toList ++ after := by
  obtain ⟨before, after, hsplit⟩ := List.append_of_mem hm
  have hnodup := publishedMatches_nodup hids
  rw [hsplit, List.map_append, List.map_cons] at hnodup
  have hcopy : ∀ ms : List Match, m.id ∉ ms.map (·.id) →
      ms.map (fun m' => if m'.id = m.id then m'.withScore side score else m') = ms := by
    intro ms hnot
    refine (List.map_congr_left fun m' hm' => if_neg fun e => hnot ?_).trans (List.map_id ms)
    exact List.mem_map.mpr ⟨m', hm', e⟩
  have hafter : m.id ∉ after.map (·.id) := (List.nodup_cons.mp hnodup.of_append_right).1
  have hbefore : m.id ∉ before.map (·.id) := fun hmem =>
    (List.disjoint_of_nodup_append hnodup) hmem List.mem_cons_self
  have hsame : ∀ m' : Match,
      (if m'.id = m.id then m'.withScore side score else m').id = m'.id := by
    intro m'
    split
    · exact m'.withScore_id side score
    · rfl
  refine ⟨before.filterMap (·.result?), after.filterMap (·.result?), ?_, ?_⟩
  · rw [StageItemWithRounds.results, hsplit, List.filterMap_append, List.filterMap_cons]
    cases m.result? <;> simp
  · rw [StageItemWithRounds.results, StageItemWithRounds.withScore,
      publishedMatches_mapMatches hsame, hsplit, List.map_append, List.map_cons,
      hcopy before hbefore, hcopy after hafter, if_pos rfl, List.filterMap_append,
      List.filterMap_cons]
    cases (m.withScore side score).result? <;> simp

section Replays

variable {A : Rounding} {E : ExpectedScore} {ranking : RankingRow} {d d' : StatisticsDict}
  (hids : ((item.rounds.flatMap (·.matches_)).map (·.id)).Nodup) (hm : m ∈ item.publishedMatches)
  (hd : Rounded.determineRankingForStageItem A E item ranking = .ok d)
  (hd' : Rounded.determineRankingForStageItem A E (item.withScore m.id side score) ranking = .ok d')
include hids hm hd hd'

/-- Every input has the same scores before and after, apart from those in the match. -/
theorem scored_withScore (htype : item.type ≠ .swiss) :
    ∃ before after : StageItemInputId → List (Int × Int), ∀ k,
      item.results.flatMap (·.scoresOf k) = before k ++ m.countedScores k ++ after k ∧
      (item.withScore m.id side score).results.flatMap (·.scoresOf k) =
        before k ++ (m.withScore side score).countedScores k ++ after k ∧
      Rounded.Scored A ranking (d.getD k (initialStatistics item.type))
        (before k ++ m.countedScores k ++ after k) ∧
      Rounded.Scored A ranking (d'.getD k (initialStatistics item.type))
        (before k ++ (m.withScore side score).countedScores k ++ after k) := by
  obtain ⟨before, after, hold, hnew⟩ := @results_withScore item m side score hids hm
  rw [Rounded.determineRanking_eq_replay] at hd hd'
  refine ⟨fun k => before.flatMap (·.scoresOf k), fun k => after.flatMap (·.scoresOf k),
    fun k => ?_⟩
  have hscores : item.results.flatMap (·.scoresOf k) = before.flatMap (·.scoresOf k) ++
      m.countedScores k ++ after.flatMap (·.scoresOf k) := by
    rw [hold, List.flatMap_append, List.flatMap_append]
    rfl
  have hscores' : (item.withScore m.id side score).results.flatMap (·.scoresOf k) =
      before.flatMap (·.scoresOf k) ++ (m.withScore side score).countedScores k ++
        after.flatMap (·.scoresOf k) := by
    rw [hnew, List.flatMap_append, List.flatMap_append]
    rfl
  refine ⟨hscores, hscores', ?_, ?_⟩
  · rw [← hscores]
    exact Rounded.replay_scored htype hd k
  · rw [← hscores']
    exact Rounded.replay_scored htype hd' k

/-- Nobody leaves the replay, and only the inputs of the match can enter it. -/
theorem keys_withScore (hcounts : (m.withScore side score).result?.isSome = true)
    (k : StageItemInputId) : k ∈ d'.keys ↔
      k ∈ d.keys ∨ ∃ s i, m.input s = some i ∧ i.id = k := by
  obtain ⟨before, after, hold, hnew⟩ := @results_withScore item m side score hids hm
  rw [Rounded.determineRanking_eq_replay, hold] at hd
  rw [Rounded.determineRanking_eq_replay, hnew] at hd'
  obtain ⟨r', hr'⟩ := Option.isSome_iff_exists.1 hcounts
  have hseated : (item.withScore m.id side score).seated = item.seated := rfl
  have hmatch : (∃ s, r'.input s = k) ↔ ∃ s i, m.input s = some i ∧ i.id = k := by
    constructor
    · rintro ⟨s, hs⟩
      obtain ⟨i, hi, hid⟩ := Match.input_result hr' s
      exact ⟨s, i, (m.withScore_input side score s).symm.trans hi, hid.trans hs⟩
    · rintro ⟨s, i, hi, hid⟩
      obtain ⟨i', hi', hid'⟩ := Match.input_result hr' s
      rw [m.withScore_input, hi] at hi'
      cases hi'
      exact ⟨s, hid'.symm.trans hid⟩
  have hmatchOld : (∃ r ∈ m.result?.toList, ∃ s, r.input s = k) →
      ∃ s i, m.input s = some i ∧ i.id = k := by
    rintro ⟨r, hr, s, hs⟩
    obtain ⟨i, hi, hid⟩ := Match.input_result (Option.mem_toList.1 hr) s
    exact ⟨s, i, hi, hid.trans hs⟩
  rw [Rounded.replay_keys hd, Rounded.replay_keys hd', hseated, hr']
  simp only [List.mem_append, or_and_right, exists_or, Option.toList_some, List.mem_singleton,
    exists_eq_left, hmatch]
  by_cases hk : ∃ s i, m.input s = some i ∧ i.id = k
  · simp only [hk, or_true, true_or]
  · have hold := mt hmatchOld hk
    simp only [hk, hold, or_false]

section Behind

variable (htype : item.type ≠ .swiss) (hloss : 0 ≤ ranking.lossPoints)
  (hdraw : ranking.lossPoints ≤ ranking.drawPoints) (hwin : ranking.drawPoints ≤ ranking.winPoints)
  {i j : StageItemInput} (hi : m.input side = some i) (hj : m.input side.other = some j)
  (hne : j.id ≠ i.id) (hscore : 0 ≤ m.score side) (hraise : m.score side < score)
  {k : StageItemInputId} (hk : k ≠ i.id)
include htype hloss hdraw hwin hi hj hne hscore hraise hk

/-- Whoever gains anything gains less than the input. -/
theorem gains_withScore
    (hfit : m.FirstLoss ranking side k → ∀ k' ∈ [i.id, k],
      PointsFit A ranking (item.results.flatMap (·.scoresOf k')) ∧
      PointsFit A ranking ((item.withScore m.id side score).results.flatMap (·.scoresOf k'))) :
    (d'.getD k (initialStatistics item.type)).points -
        (d.getD k (initialStatistics item.type)).points ≤
      (d'.getD i.id (initialStatistics item.type)).points -
        (d.getD i.id (initialStatistics item.type)).points ∧
    (d'.getD k (initialStatistics item.type)).scoreDifference -
        (d.getD k (initialStatistics item.type)).scoreDifference <
      (d'.getD i.id (initialStatistics item.type)).scoreDifference -
        (d.getD i.id (initialStatistics item.type)).scoreDifference := by
  obtain ⟨before, after, hscored⟩ := scored_withScore hids hm hd hd' htype
  obtain ⟨hold, hnew, hs, hs'⟩ := hscored k
  obtain ⟨holdI, hnewI, hsI, hsI'⟩ := hscored i.id
  obtain ⟨hgain, hmargin⟩ := raise_gain hloss hdraw hwin hi hj hne hscore hraise hk
  constructor
  · by_cases hfirst : m.FirstLoss ranking side k
    · -- the gains are exact
      obtain ⟨hfitI, hfitI'⟩ := hfit hfirst i.id List.mem_cons_self
      obtain ⟨hfitK, hfitK'⟩ := hfit hfirst k (List.mem_cons_of_mem _ List.mem_cons_self)
      rw [holdI] at hfitI
      rw [hnewI] at hfitI'
      rw [hold] at hfitK
      rw [hnew] at hfitK'
      rw [hs.points, hs'.points, hsI.points, hsI'.points, hfitK.pointsAfter_eq,
        hfitK'.pointsAfter_eq, hfitI.pointsAfter_eq, hfitI'.pointsAfter_eq]
      simp only [worth_append]
      linarith
    · have hround : ∀ k', A.round (Rounded.pointsAfter A ranking 0 (before k')) =
          Rounded.pointsAfter A ranking 0 (before k') := fun _ => Rounding.round_sum A.zero
      have hmore := Rounded.pointsAfter_mono A ranking (after i.id)
        (raise_points hloss hdraw hwin hi hj hne hscore hraise (hround i.id))
      have hless := Rounded.pointsAfter_mono A ranking (after k)
        (raise_points_other hdraw hwin hi hj hne hscore hraise hk hfirst (hround k))
      rw [hs.points, hs'.points, hsI.points, hsI'.points]
      simp only [Rounded.pointsAfter_append]
      unfold Rounded.pointsAfter at hmore hless ⊢
      linarith
  · rw [hs.difference, hs'.difference, hsI.difference, hsI'.difference]
    simp only [margin_append]
    omega

/-- Whoever stood behind the input does not come in front. -/
theorem not_standsBefore_withScore
    (hfit : m.FirstLoss ranking side k → ∀ k' ∈ [i.id, k],
      PointsFit A ranking (item.results.flatMap (·.scoresOf k')) ∧
      PointsFit A ranking ((item.withScore m.id side score).results.flatMap (·.scoresOf k')))
    {a b a' b' : RankingEntry × Int} (ha : a ∈ keyedEntries item d) (hb : b ∈ keyedEntries item d)
    (ha' : a' ∈ keyedEntries (item.withScore m.id side score) d')
    (hb' : b' ∈ keyedEntries (item.withScore m.id side score) d') (hai : a.1.1 = i.id)
    (hai' : a'.1.1 = i.id) (hbk : b.1.1 = k) (hbk' : b'.1.1 = k) (h : standsBefore a b) :
    ¬ standsBefore b' a' := by
  obtain ⟨hpoints, hdifference⟩ := gains_withScore hids hm hd hd' htype hloss hdraw hwin hi hj hne
    hscore hraise hk hfit
  rw [← hai', ← (of_mem_keyedEntries ha').2 (initialStatistics item.type), hai', ← hai,
    ← (of_mem_keyedEntries ha).2 (initialStatistics item.type), ← hbk',
    ← (of_mem_keyedEntries hb').2 (initialStatistics item.type), hbk', ← hbk,
    ← (of_mem_keyedEntries hb).2 (initialStatistics item.type)] at hpoints hdifference
  exact not_standsBefore h hpoints hdifference

end Behind

end Replays

theorem withScore_counts {i j : StageItemInput} (hi : m.input side = some i)
    (hj : m.input side.other = some j) (hscore : score ≠ 0) :
    (m.withScore side score).result?.isSome = true := by
  obtain ⟨r, -, -, -, -, hresult⟩ := Match.result?_eq
    ((m.withScore_input side score _).trans hi) ((m.withScore_input side score _).trans hj)
  rw [hresult, Match.withScore_score, if_neg fun h => hscore h.1]
  rfl

theorem result?_eq_none {s : Side} (h : m.input s = none) : m.result? = none := by
  cases hresult : m.result? with
  | none => rfl
  | some r =>
    obtain ⟨i, hi, -⟩ := Match.input_result hresult s
    rw [h] at hi
    cases hi

/-- **Scoring more hurts nobody's place by itself**: whoever was behind an input stays behind it when
    the input gets a higher score in a match of a published round, however points are rounded. Only
    who thereby loses a match that had not been played, and gets points for it, needs points that
    fit. -/
theorem raisedScore_staysAhead {A : Rounding} {E : ExpectedScore} {ranking : RankingRow}
    {l : List RankingEntry} (htype : item.type ≠ .swiss) (hloss : 0 ≤ ranking.lossPoints)
    (hdraw : ranking.lossPoints ≤ ranking.drawPoints)
    (hwin : ranking.drawPoints ≤ ranking.winPoints)
    (hids : ((item.rounds.flatMap (·.matches_)).map (·.id)).Nodup) {r : RoundWithMatches}
    (hr : r ∈ item.rounds) (hpublished : r.isDraft = false) (hm : m ∈ r.matches_)
    (hown : ∀ s i, m.input s = some i → ∃ j ∈ item.inputs, j.id = i.id) {i : StageItemInput}
    (hi : m.input side = some i) (hne : ∀ j, m.input side.other = some j → j.id ≠ i.id)
    (hscore : 0 ≤ m.score side) (hraise : m.score side < score)
    (hl : Rounded.determineTeamRankingForStageItem A E item ranking = .ok l) :
    ∃ l', Rounded.determineTeamRankingForStageItem A E (item.withScore m.id side score) ranking =
        .ok l' ∧
      ∀ k, [i.id, k].Sublist (l.map Prod.fst) →
        (m.FirstLoss ranking side k → ∀ k' ∈ [i.id, k],
          PointsFit A ranking (item.results.flatMap (·.scoresOf k')) ∧
          PointsFit A ranking
            ((item.withScore m.id side score).results.flatMap (·.scoresOf k'))) →
        [i.id, k].Sublist (l'.map Prod.fst) := by
  obtain ⟨d, hd, hslots, rfl⟩ := Rounded.determineTeamRanking_eq_ok.1 hl
  have hm := mem_publishedMatches hr hpublished hm
  cases hj : m.input side.other with
  | none =>
    -- Without an opponent the match does not count, before and after.
    have hsame : (item.withScore m.id side score).results = item.results := by
      obtain ⟨before, after, hold, hnew⟩ := @results_withScore item m side score hids hm
      rw [hold, hnew, result?_eq_none hj,
        result?_eq_none ((m.withScore_input side score _).trans hj)]
    have hd' := (@Rounded.determineRanking_congr A E item (item.withScore m.id side score) rfl rfl
      hsame ranking).trans hd
    exact ⟨_, Rounded.determineTeamRanking_eq_ok.2 ⟨d, hd', hslots, rfl⟩, fun k hk _ => hk⟩
  | some j =>
    obtain ⟨d', hd'⟩ : ∃ d', Rounded.determineRankingForStageItem A E
        (item.withScore m.id side score) ranking = .ok d' := Rounded.determineRanking_total htype
    have hkeys := keys_withScore hids hm hd hd'
      (withScore_counts hi hj (ne_of_gt (lt_of_le_of_lt hscore hraise)))
    have hslots' : ∀ k ∈ d'.keys, ∃ i' ∈ item.inputs, i'.id = k := by
      intro k hk
      rcases (hkeys k).1 hk with hk | ⟨s, i', hi', rfl⟩
      · exact hslots k hk
      · exact hown s i' hi'
    refine ⟨_, Rounded.determineTeamRanking_eq_ok.2 ⟨d', hd', hslots', rfl⟩, fun k hk hfit => ?_⟩
    obtain ⟨a, b, hab, hai, rfl⟩ := pair_keyedEntries.1 hk
    have ha := (List.mem_insertionSort _).1 (hab.subset List.mem_cons_self)
    have hb := (List.mem_insertionSort _).1
      (hab.subset (List.mem_cons_of_mem _ List.mem_cons_self))
    have hbi : b.1.1 ≠ i.id := by
      have hnodup : ((((keyedEntries item d).insertionSort standsBefore).map (·.1)).map
        Prod.fst).Nodup := ((keyedEntries_perm.map Prod.fst).nodup_iff).mpr d.nodup
      exact fun e => (List.nodup_cons.1 (hnodup.sublist hk)).1 (e ▸ List.mem_cons_self)
    obtain ⟨a', ha', hai'⟩ := @exists_keyedEntries (item.withScore m.id side score) d' i.id
      ((hkeys i.id).2 (Or.inl (hai ▸ (of_mem_keyedEntries ha).1)))
    obtain ⟨b', hb', hbb'⟩ := @exists_keyedEntries (item.withScore m.id side score) d' b.1.1
      ((hkeys b.1.1).2 (Or.inl (of_mem_keyedEntries hb).1))
    have hbefore := rel_of_pair_sublist (List.pairwise_insertionSort standsBefore _) hab
    have hnot := not_standsBefore_withScore hids hm hd hd' htype hloss hdraw hwin hi hj (hne j hj)
      hscore hraise hbi hfit ha hb ha' hb' hai hai' rfl hbb' hbefore
    refine pair_keyedEntries.2 ⟨a', b', ?_, hai', hbb'⟩
    refine pair_sublist_of_not_rel (List.pairwise_insertionSort standsBefore _)
      ((List.mem_insertionSort _).2 ha') ((List.mem_insertionSort _).2 hb') ?_ hnot
    exact fun e => hbi (hbb'.symm.trans ((congrArg (·.1.1) e.symm).trans hai'))

end Raise

/-! ### The duel, and a group with huge points -/

/-- The duel before it is played. -/
def openDuel : StageItemWithRounds := (duel.withScore 1 .one 0).withScore 1 .two 0

theorem duel_ranked : ∃ l, Rounded.determineTeamRankingForStageItem decimalContext (fun _ => none)
    duel ⟨1, 1, 0, 1, 1 / 2, 1 / 4, true⟩ = .ok l ∧ [1, 2].Sublist (l.map Prod.fst) :=
  exists_ok_of_any (by decide +kernel)

theorem openDuel_ranked : ∃ l, Rounded.determineTeamRankingForStageItem decimalContext
    (fun _ => none) openDuel ⟨1, 1, 0, 1, 1 / 2, 1 / 4, true⟩ = .ok l ∧
    [1, 2].Sublist (l.map Prod.fst) :=
  exists_ok_of_any (by decide +kernel)

/-- The first input stays ahead when it wins 5-1 instead of 3-1, and also when it scores twice
    before the duel has been played, although a loss brings points. -/
theorem duel_staysAhead :
    (∃ l', Rounded.determineTeamRankingForStageItem decimalContext (fun _ => none)
        (duel.withScore 1 .one 5) ⟨1, 1, 0, 1, 1 / 2, 1 / 4, true⟩ = .ok l' ∧
      [1, 2].Sublist (l'.map Prod.fst)) ∧
    ∃ l', Rounded.determineTeamRankingForStageItem decimalContext (fun _ => none)
        (openDuel.withScore 1 .one 2) ⟨1, 1, 0, 1, 1 / 2, 1 / 4, true⟩ = .ok l' ∧
      [1, 2].Sublist (l'.map Prod.fst) := by
  constructor
  · obtain ⟨l, hl, hahead⟩ := duel_ranked
    obtain ⟨l', hl', hstays⟩ := @raisedScore_staysAhead duel _ .one 5 decimalContext (fun _ => none)
      _ l (by decide) (by norm_num) (by norm_num) (by norm_num) (by decide) _ List.mem_cons_self rfl
      List.mem_cons_self (fun s i hi => by cases s <;> cases hi <;> decide) (duel.seat 1) rfl
      (fun j hj => by cases hj; decide) (by decide) (by decide) hl
    exact ⟨l', hl', hstays 2 hahead fun hfirst => absurd hfirst.1 (by decide)⟩
  · obtain ⟨l, hl, hahead⟩ := openDuel_ranked
    obtain ⟨l', hl', hstays⟩ := @raisedScore_staysAhead openDuel _ .one 2 decimalContext
      (fun _ => none) _ l (by decide) (by norm_num) (by norm_num) (by norm_num) (by decide) _
      List.mem_cons_self rfl List.mem_cons_self (fun s i hi => by cases s <;> cases hi <;> decide)
      (duel.seat 1) rfl (fun j hj => by cases hj; decide) (by decide) (by decide) hl
    exact ⟨l', hl', hstays 2 hahead fun _ => by decide +kernel⟩

/-- A group of three. The first input has lost 6-10 to the third one, the second input has won 4-0
    against it, and the first two have not played each other. -/
def hugeGroup : StageItemWithRounds :=
  { duel with
    teamCount := 3
    inputs := [duel.seat 1, duel.seat 2, duel.seat 3]
    rounds := duel.rounds.map fun r => { r with
      matches_ := r.matches_.flatMap fun m => [
        { m with
          stageItemInput2Id := some 3, stageItemInput2 := some (duel.seat 3)
          stageItemInput1Score := 6, stageItemInput2Score := 10 },
        { m with
          id := 2, stageItemInput1Id := some 2, stageItemInput1 := some (duel.seat 2)
          stageItemInput2Id := some 3, stageItemInput2 := some (duel.seat 3)
          stageItemInput1Score := 4, stageItemInput2Score := 0 },
        { m with id := 3, stageItemInput1Score := 0, stageItemInput2Score := 0 }] } }

/-- With 5E+28 points for every match, however it ends, the first input scores against the second
    one and falls behind it. -/
theorem roundedPoints_overtake : hugeGroup.type = .roundRobin ∧ hugeGroup.Listed ∧
    (∃ r ∈ hugeGroup.rounds, r.isDraft = false ∧ ∃ m ∈ r.matches_, m.id = 3 ∧
      m.input .one = some (duel.seat 1) ∧ m.input .two = some (duel.seat 2) ∧ m.score .one = 0) ∧
    (Rounded.determineTeamRankingForStageItem decimalContext (fun _ => none) hugeGroup
      ⟨1, 1, 0, 5 * 10 ^ 28, 5 * 10 ^ 28, 5 * 10 ^ 28, true⟩).map (·.map Prod.fst) =
        .ok [3, 1, 2] ∧
    (Rounded.determineTeamRankingForStageItem decimalContext (fun _ => none)
      (hugeGroup.withScore 3 .one 1)
      ⟨1, 1, 0, 5 * 10 ^ 28, 5 * 10 ^ 28, 5 * 10 ^ 28, true⟩).map (·.map Prod.fst) =
        .ok [2, 3, 1] :=
  ⟨rfl, ⟨by decide, by decide, by decide, by decide, own_of_ownInputs (by decide)⟩,
    ⟨_, List.mem_cons_self, rfl, _,
      List.mem_cons_of_mem _ (List.mem_cons_of_mem _ List.mem_cons_self), rfl, rfl, rfl, rfl⟩,
    by decide +kernel, by decide +kernel⟩

end Brackets
