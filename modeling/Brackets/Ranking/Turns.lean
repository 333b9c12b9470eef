/-
  File:      Brackets/Ranking/Turns.lean
  Subject:   A turn of the replay, on the statistics as a function of the input.

  Both sides of a match are rated from the ratings before it. So a turn works out what the two
  sides get and then credits them, and it reads and writes the two inputs of the match only.

  * `determineRanking_turns`: the ranking is the run of the turns;
  * `determineRanking_swapSides`: on which side of a match an input plays does not matter;
  * `determineRanking_renumbered`: in which order the matches of a round are replayed does not
    matter if no input plays two of them.

  Both are about the contents of the dictionary (what every input gets) or the failure.
-/
import Mathlib.Data.List.Forall2
import Brackets.Library.Footprints
import Brackets.Ranking.Standings

namespace Brackets

open Library

/-! ## 1. A turn -/

/-- The statistics of every input that has any. -/
abbrev StatisticsOf := StageItemInputId → Option TeamStatistics

section Turn

variable (E : ExpectedScore) (type : StageType) (ranking : RankingRow)

def ratingIn (s : StatisticsOf) (k : StageItemInputId) : Rat :=
  ((s k).getD (initialStatistics type)).points

/-- One side gets its result. -/
def credit (side : Side) (r : Result) (points : Rat) (s : StatisticsOf) : StatisticsOf := fun k =>
  if k = r.input side then some (((s k).getD (initialStatistics type)).add (r.verdict side)
    (r.score side) (r.score side.other) points) else s k

def resultTurn (s : StatisticsOf) (r : Result) : Outcome StatisticsOf := do
  let ratingsBefore := (ratingIn type s r.input1, ratingIn type s r.input2)
  let p1 ← pointsChange E type .one ratingsBefore (r.gain ranking .one)
  let p2 ← pointsChange E type .two ratingsBefore (r.gain ranking .two)
  .ok (credit type .two r p2 (credit type .one r p1 s))

end Turn

section Turns

variable {E : ExpectedScore} {type : StageType} {ranking : RankingRow}

variable (E type) in
theorem pointsChange_cases (side : Side) (q : Rat × Rat) (gain : Rat) :
    (∃ p, pointsChange E type side q gain = .ok p) ∨
      pointsChange E type side q gain = .error (.crash .overflowError) := by
  cases type with
  | roundRobin => exact Or.inl ⟨_, rfl⟩
  | singleElimination => exact Or.inl ⟨_, rfl⟩
  | swiss =>
    unfold pointsChange
    dsimp only
    generalize E ((q.2 - q.1) * (if side = Side.one then 1 else -1) / D) = e
    cases e with
    | none => exact Or.inr rfl
    | some e => exact Or.inl ⟨_, rfl⟩

theorem turn_ok {s t : StatisticsOf} {r : Result} (h : resultTurn E type ranking s r = .ok t) :
    ∃ p1 p2, t = credit type .two r p2 (credit type .one r p1 s) := by
  obtain ⟨p1, -, h⟩ := bind_eq_ok.mp h
  obtain ⟨p2, -, h⟩ := bind_eq_ok.mp h
  exact ⟨p1, p2, (Except.ok.inj h).symm⟩

variable (type) in
theorem set_credit (side : Side) (d : StatisticsDict) (r : Result) (points : Rat) :
    (d.set (r.input side) ((d.getD (r.input side) (initialStatistics type)).add (r.verdict side)
      (r.score side) (r.score side.other) points)).get? = credit type side r points d.get? := by
  funext k
  rw [Dict.get?_set, credit]
  split
  · next hk =>
    subst hk
    rfl
  · rfl

/-- A turn of the loop is a turn. -/
theorem replayResult_turn (d : StatisticsDict) (r : Result) :
    contents (replayResult E type ranking d r) = resultTurn E type ranking d.get? r := by
  have hside : ∀ side d q, setStatisticsForStageItemInput E type ranking side d r q = (do
      let s ← statisticsAfter E type ranking side r q
        (d.getD (r.input side) (initialStatistics type))
      .ok (d.set (r.input side) s)) := fun _ _ _ => rfl
  have hresult : replayResult E type ranking d r = (do
      let d1 ← setStatisticsForStageItemInput E type ranking .one d r
        ((d.getD r.input1 (initialStatistics type)).points,
          (d.getD r.input2 (initialStatistics type)).points)
      setStatisticsForStageItemInput E type ranking .two d1 r
        ((d.getD r.input1 (initialStatistics type)).points,
          (d.getD r.input2 (initialStatistics type)).points)) := rfl
  rw [hresult]
  simp only [hside, statisticsAfter_eq]
  show contents _ = (do
    let p1 ← pointsChange E type .one ((d.getD r.input1 (initialStatistics type)).points,
      (d.getD r.input2 (initialStatistics type)).points) (r.gain ranking .one)
    let p2 ← pointsChange E type .two ((d.getD r.input1 (initialStatistics type)).points,
      (d.getD r.input2 (initialStatistics type)).points) (r.gain ranking .two)
    .ok (credit type .two r p2 (credit type .one r p1 d.get?)))
  generalize ((d.getD r.input1 (initialStatistics type)).points,
      (d.getD r.input2 (initialStatistics type)).points) = q
  cases pointsChange E type .one q (r.gain ranking .one) with
  | error e => rfl
  | ok p1 =>
    cases pointsChange E type .two q (r.gain ranking .two) with
    | error e => rfl
    | ok p2 =>
      have htwo := set_credit type .two (d.set r.input1
        ((d.getD r.input1 (initialStatistics type)).add (r.verdict .one) r.score1 r.score2 p1)) r p2
      have hone := set_credit type .one d r p1
      exact congrArg Except.ok (htwo.trans (congrArg (credit type .two r p2) hone))

theorem foldlM_turn (rs : List Result) (d : StatisticsDict) :
    contents (rs.foldlM (replayResult E type ranking) d) =
      rs.foldlM (resultTurn E type ranking) d.get? := by
  induction rs generalizing d with
  | nil => rfl
  | cons r rs ih =>
    rw [List.foldlM_cons, List.foldlM_cons, ← replayResult_turn]
    cases replayResult E type ranking d r with
    | error e => rfl
    | ok d1 => exact ih d1

/-- The statistics before the first match. -/
def startOf (item : StageItemWithRounds) : StatisticsOf := fun k =>
  if k ∈ item.seated then some (initialStatistics item.type) else none

/-- **The ranking is the run of the turns.** -/
theorem determineRanking_turns (item : StageItemWithRounds) (ranking : RankingRow) :
    contents (determineRankingForStageItem E item ranking) =
      item.results.foldlM (resultTurn E item.type ranking) (startOf item) := by
  rw [determineRanking_eq_replay, replay, foldlM_turn]
  congr 1
  funext k
  exact seatedStatistics_get? item.seated k

/-! ## 2. Sides -/

def Result.swap (r : Result) : Result := ⟨r.input2, r.input1, r.score2, r.score1⟩

theorem credit_comm (r : Result) (side side' : Side) (p p' : Rat) (s : StatisticsOf) :
    credit type side r p (credit type side' r p' s) =
      credit type side' r p' (credit type side r p s) := by
  funext k
  unfold credit
  by_cases h : k = r.input side
  · by_cases h' : k = r.input side'
    · rw [if_pos h, if_pos h', if_pos h', if_pos h]
      simp only [Option.getD_some, Option.some.injEq, TeamStatistics.add,
        TeamStatistics.mk.injEq]
      refine ⟨?_, ?_, ?_, ?_, ?_, ?_⟩
      · exact Int.add_right_comm _ _ _
      · exact Int.add_right_comm _ _ _
      · exact Int.add_right_comm _ _ _
      · exact add_right_comm _ _ _
      · exact Int.add_right_comm _ _ _
      · exact Int.add_right_comm _ _ _
    · rw [if_pos h, if_neg h', if_neg h', if_pos h]
  · by_cases h' : k = r.input side'
    · rw [if_neg h, if_pos h', if_pos h', if_neg h]
    · rw [if_neg h, if_neg h', if_neg h', if_neg h]

theorem pointsChange_swap (side : Side) (a b gain : Rat) :
    pointsChange E type side.other (b, a) gain = pointsChange E type side (a, b) gain := by
  cases type with
  | roundRobin => rfl
  | singleElimination => rfl
  | swiss =>
    have hdiff : (a - b) * (if side.other = Side.one then (1 : Rat) else -1) =
        (b - a) * (if side = Side.one then 1 else -1) := by
      cases side with
      | one =>
        show (a - b) * -1 = (b - a) * 1
        ring
      | two =>
        show (a - b) * 1 = (b - a) * -1
        ring
    unfold pointsChange
    dsimp only
    rw [hdiff]

/-- **A turn does not depend on which side an input plays on.** -/
theorem turn_swap (s : StatisticsOf) (r : Result) :
    resultTurn E type ranking s r.swap = resultTurn E type ranking s r := by
  have hone : pointsChange E type .one (ratingIn type s r.input2, ratingIn type s r.input1)
      (r.gain ranking .two) = pointsChange E type .two
        (ratingIn type s r.input1, ratingIn type s r.input2) (r.gain ranking .two) :=
    pointsChange_swap .two _ _ _
  have htwo : pointsChange E type .two (ratingIn type s r.input2, ratingIn type s r.input1)
      (r.gain ranking .one) = pointsChange E type .one
        (ratingIn type s r.input1, ratingIn type s r.input2) (r.gain ranking .one) :=
    pointsChange_swap .one _ _ _
  show (do
    let p1 ← pointsChange E type .one (ratingIn type s r.input2, ratingIn type s r.input1)
      (r.gain ranking .two)
    let p2 ← pointsChange E type .two (ratingIn type s r.input2, ratingIn type s r.input1)
      (r.gain ranking .one)
    .ok (credit type .one r p2 (credit type .two r p1 s))) = resultTurn E type ranking s r
  rw [hone, htwo, resultTurn]
  generalize (ratingIn type s r.input1, ratingIn type s r.input2) = q
  rcases pointsChange_cases E type .one q (r.gain ranking .one) with ⟨p1, h1⟩ | h1
  · rcases pointsChange_cases E type .two q (r.gain ranking .two) with ⟨p2, h2⟩ | h2
    · rw [h1, h2]
      exact congrArg Except.ok (credit_comm r .one .two p1 p2 s)
    · rw [h1, h2]
      rfl
  · rcases pointsChange_cases E type .two q (r.gain ranking .two) with ⟨p2, h2⟩ | h2
    · rw [h1, h2]
      rfl
    · rw [h1, h2]
      rfl

end Turns

/-- The stage item with its matches changed. -/
def StageItemWithRounds.mapMatches (f : Match → Match) (item : StageItemWithRounds) :
    StageItemWithRounds :=
  { item with rounds := item.rounds.map fun r => { r with matches_ := r.matches_.map f } }

/-- Matches that keep their ids are replayed in the same order. -/
theorem publishedMatches_mapMatches {f : Match → Match} (hf : ∀ m, (f m).id = m.id)
    (item : StageItemWithRounds) :
    (item.mapMatches f).publishedMatches = item.publishedMatches.map f := by
  let g : RoundWithMatches → RoundWithMatches := fun r => { r with matches_ := r.matches_.map f }
  have hrounds : (item.rounds.map g).insertionSort (·.id ≤ ·.id) =
      (item.rounds.insertionSort (·.id ≤ ·.id)).map g :=
    (List.map_insertionSort _ _ g _ fun _ _ _ _ => Iff.rfl).symm
  have hmatches : ∀ ms : List Match, (ms.map f).insertionSort (·.id ≤ ·.id) =
      (ms.insertionSort (·.id ≤ ·.id)).map f := fun ms =>
    (List.map_insertionSort _ _ _ _ fun a _ b _ => by rw [hf a, hf b]).symm
  unfold StageItemWithRounds.publishedMatches
  show ((item.rounds.map g).insertionSort (·.id ≤ ·.id) |>.filter fun r => !r.isDraft).flatMap _ = _
  rw [hrounds, List.filter_map, List.flatMap_map, List.map_flatMap]
  exact congrArg (List.flatMap · _) (funext fun r => hmatches r.matches_)

/-- The match with its two inputs and all that goes with them exchanged. -/
def Match.swapSides (m : Match) : Match :=
  { m with
    stageItemInput1Id := m.stageItemInput2Id
    stageItemInput2Id := m.stageItemInput1Id
    stageItemInput1Conflict := m.stageItemInput2Conflict
    stageItemInput2Conflict := m.stageItemInput1Conflict
    stageItemInput1WinnerFromMatchId := m.stageItemInput2WinnerFromMatchId
    stageItemInput2WinnerFromMatchId := m.stageItemInput1WinnerFromMatchId
    stageItemInput1Score := m.stageItemInput2Score
    stageItemInput2Score := m.stageItemInput1Score
    stageItemInput1 := m.stageItemInput2
    stageItemInput2 := m.stageItemInput1 }

/-- The sides of some matches are exchanged. -/
def swapIf (p : Match → Bool) (m : Match) : Match := if p m then m.swapSides else m

theorem swapIf_id (p : Match → Bool) (m : Match) : (swapIf p m).id = m.id := by
  unfold swapIf
  split <;> rfl

theorem Match.result?_swapSides (m : Match) : m.swapSides.result? = m.result?.map (·.swap) := by
  unfold result? swapSides
  dsimp only
  cases m.stageItemInput1 with
  | none => cases m.stageItemInput2 <;> rfl
  | some i =>
    cases m.stageItemInput2 with
    | none => rfl
    | some j =>
      dsimp only
      rw [Bool.or_comm]
      split <;> rfl

/-- **Which side an input is entered on does not matter**: exchanging the sides of any of the
    matches leaves the statistics of every input unchanged. -/
theorem determineRanking_swapSides (E : ExpectedScore) (item : StageItemWithRounds)
    (ranking : RankingRow) (p : Match → Bool) :
    contents (determineRankingForStageItem E (item.mapMatches (swapIf p)) ranking) =
      contents (determineRankingForStageItem E item ranking) := by
  rw [determineRanking_turns, determineRanking_turns]
  unfold StageItemWithRounds.results
  rw [publishedMatches_mapMatches (swapIf_id p), List.foldlM_filterMap, List.foldlM_filterMap,
    List.foldlM_map]
  show item.publishedMatches.foldlM _ (startOf item) = _
  congr 1
  funext s m
  by_cases hp : p m = true
  · rw [swapIf, if_pos hp, m.result?_swapSides]
    cases m.result? with
    | none => rfl
    | some r => exact turn_swap s r
  · rw [swapIf, if_neg hp]
    rfl

/-! ## 3. The order within a round -/

section Footprint

variable {E : ExpectedScore} {type : StageType} {ranking : RankingRow}

/-- The input takes part in the result. -/
def Result.Takes (r : Result) (k : StageItemInputId) : Prop := ∃ side, r.input side = k

theorem credit_other {side : Side} {r : Result} {p : Rat} {s : StatisticsOf}
    {k : StageItemInputId} (hk : ¬ r.Takes k) : credit type side r p s k = s k :=
  if_neg fun e => hk ⟨side, e.symm⟩

theorem credit_same {side : Side} {r : Result} {p : Rat} {s s' : StatisticsOf}
    {k : StageItemInputId} (hk : s' k = s k) :
    credit type side r p s' k = credit type side r p s k := by
  unfold credit
  rw [hk]

/-- **A turn is local to the two inputs of the match.** -/
theorem turn_local (r : Result) :
    LocalTo (.crash .overflowError) r.Takes (resultTurn E type ranking · r) := by
  refine ⟨fun s t h k hk => ?_, fun s s' h => ?_⟩
  · obtain ⟨p1, p2, rfl⟩ := turn_ok h
    rw [credit_other hk, credit_other hk]
  · have hone : ratingIn type s' r.input1 = ratingIn type s r.input1 := by
      unfold ratingIn
      rw [h r.input1 ⟨.one, rfl⟩]
    have htwo : ratingIn type s' r.input2 = ratingIn type s r.input2 := by
      unfold ratingIn
      rw [h r.input2 ⟨.two, rfl⟩]
    unfold resultTurn
    dsimp only
    rw [hone, htwo]
    generalize (ratingIn type s r.input1, ratingIn type s r.input2) = q
    rcases pointsChange_cases E type .one q (r.gain ranking .one) with ⟨p1, h1⟩ | h1
    · rcases pointsChange_cases E type .two q (r.gain ranking .two) with ⟨p2, h2⟩ | h2
      · rw [h1, h2]
        exact Or.inr ⟨_, _, rfl, rfl, fun k hk => credit_same (credit_same (h k hk))⟩
      · rw [h1, h2]
        exact Or.inl ⟨rfl, rfl⟩
    · rw [h1]
      exact Or.inl ⟨rfl, rfl⟩

end Footprint

/-- The match without its number. -/
def Match.unnumbered (m : Match) : Match := { m with id := 0 }

/-- The same round with its matches numbered, and listed, in another way. -/
def RoundRenumbered (r r' : RoundWithMatches) : Prop :=
  r'.toRoundRow = r.toRoundRow ∧
    (r'.matches_.map (·.unnumbered)).Perm (r.matches_.map (·.unnumbered))

/-- The same stage item, with the matches of its rounds numbered in another way. -/
structure Renumbered (item item' : StageItemWithRounds) : Prop where
  row : item'.toStageItemRow = item.toStageItemRow
  inputs : item'.inputs = item.inputs
  rounds : List.Forall₂ RoundRenumbered item.rounds item'.rounds

/-- No input plays two matches of a published round that count. -/
def StageItemWithRounds.PlaysOnce (item : StageItemWithRounds) : Prop :=
  ∀ r ∈ item.rounds, r.isDraft = false →
    (r.matches_.filterMap (·.result?)).Pairwise fun a b => ∀ side side', a.input side ≠ b.input side'

theorem forall₂_orderedInsert {α β : Type} {R : α → β → Prop} {le : α → α → Prop}
    {le' : β → β → Prop} [DecidableRel le] [DecidableRel le']
    (hle : ∀ a b a' b', R a b → R a' b' → (le a a' ↔ le' b b')) {a : α} {b : β} (hab : R a b)
    {l : List α} {l' : List β} (h : List.Forall₂ R l l') :
    List.Forall₂ R (l.orderedInsert le a) (l'.orderedInsert le' b) := by
  induction h with
  | nil => exact .cons hab .nil
  | @cons c d l l' hcd hl ih =>
    rw [List.orderedInsert, List.orderedInsert]
    by_cases h : le a c
    · rw [if_pos h, if_pos ((hle a b c d hab hcd).mp h)]
      exact .cons hab (.cons hcd hl)
    · rw [if_neg h, if_neg fun h' => h ((hle a b c d hab hcd).mpr h')]
      exact .cons hcd ih

/-- Sorting keeps lists in step that are sorted by the same key. -/
theorem forall₂_insertionSort {α β : Type} {R : α → β → Prop} {le : α → α → Prop}
    {le' : β → β → Prop} [DecidableRel le] [DecidableRel le']
    (hle : ∀ a b a' b', R a b → R a' b' → (le a a' ↔ le' b b')) {l : List α} {l' : List β}
    (h : List.Forall₂ R l l') : List.Forall₂ R (l.insertionSort le) (l'.insertionSort le') := by
  induction h with
  | nil => exact .nil
  | cons hab _ ih => exact forall₂_orderedInsert hle hab ih

/-- The results of a round in the order of the replay. -/
def RoundWithMatches.results (r : RoundWithMatches) : List Result :=
  (r.matches_.insertionSort (·.id ≤ ·.id)).filterMap (·.result?)

theorem results_eq_rounds (item : StageItemWithRounds) : item.results =
    ((item.rounds.insertionSort (·.id ≤ ·.id)).filter fun r => !r.isDraft).flatMap (·.results) := by
  unfold StageItemWithRounds.results StageItemWithRounds.publishedMatches
  rw [List.filterMap_flatMap]
  rfl

theorem RoundWithMatches.results_perm (r : RoundWithMatches) :
    r.results.Perm (r.matches_.filterMap (·.result?)) :=
  (List.perm_insertionSort _ _).filterMap _

theorem RoundRenumbered.results {r r' : RoundWithMatches} (h : RoundRenumbered r r') :
    r.results.Perm r'.results := by
  have hunnumbered : ∀ ms : List Match,
      (ms.map (·.unnumbered)).filterMap (·.result?) = ms.filterMap (·.result?) := fun ms =>
    List.filterMap_map
  have hperm := h.2.filterMap (·.result?)
  rw [hunnumbered, hunnumbered] at hperm
  exact r.results_perm.trans (hperm.symm.trans r'.results_perm.symm)

/-- Rounds that are numbered in another way are run to the same end. -/
theorem foldlM_renumbered {E : ExpectedScore} {type : StageType} {ranking : RankingRow}
    {rounds rounds' : List RoundWithMatches} (h : List.Forall₂ RoundRenumbered rounds rounds')
    (hapart : ∀ r ∈ rounds, r.results.Pairwise fun a b => Apart a.Takes b.Takes)
    (s : StatisticsOf) : (rounds'.flatMap (·.results)).foldlM (resultTurn E type ranking) s =
      (rounds.flatMap (·.results)).foldlM (resultTurn E type ranking) s := by
  induction h generalizing s with
  | nil => rfl
  | cons hr _ ih =>
    rw [List.flatMap_cons, List.flatMap_cons, List.foldlM_append, List.foldlM_append,
      foldlM_perm turn_local hr.results (hapart _ List.mem_cons_self)]
    exact congrArg _ (funext fun t => ih (fun r hr => hapart r (List.mem_cons_of_mem _ hr)) t)

/-- **The order within a round does not matter**: if no input plays twice in a round, numbering
    the matches of the rounds in any other way leaves the statistics of every input unchanged. -/
theorem determineRanking_renumbered (E : ExpectedScore) {item item' : StageItemWithRounds}
    (hitem : item.PlaysOnce) (h : Renumbered item item') (ranking : RankingRow) :
    contents (determineRankingForStageItem E item' ranking) =
      contents (determineRankingForStageItem E item ranking) := by
  have hstart : startOf item' = startOf item := by
    unfold startOf StageItemWithRounds.seated
    rw [h.inputs, h.row]
  have hpublished : List.Forall₂ RoundRenumbered
      ((item.rounds.insertionSort (·.id ≤ ·.id)).filter fun r => !r.isDraft)
      ((item'.rounds.insertionSort (·.id ≤ ·.id)).filter fun r => !r.isDraft) := by
    refine List.rel_filter (fun r r' hr => ?_)
      (forall₂_insertionSort (fun a b a' b' hab hab' => ?_) h.rounds)
    · show (!r.isDraft) = true ↔ (!r'.isDraft) = true
      rw [hr.1]
    · rw [hab.1, hab'.1]
  rw [determineRanking_turns, determineRanking_turns, hstart, h.row, results_eq_rounds,
    results_eq_rounds]
  refine foldlM_renumbered hpublished (fun r hr => ?_) _
  obtain ⟨hr, hdraft⟩ := List.mem_filter.mp hr
  have honce := hitem r ((List.mem_insertionSort _).mp hr) (by simpa using hdraft)
  refine (List.Pairwise.perm honce r.results_perm.symm fun h side side' e => ?_).imp
    fun h k hk hk' => ?_
  · exact h side' side e.symm
  · obtain ⟨side, rfl⟩ := hk
    obtain ⟨side', hk'⟩ := hk'
    exact h side side' hk'.symm

end Brackets
