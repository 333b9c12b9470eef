/-
  File:      Brackets/Frontend/BracketAdapter.lean
  Subject:   `bracket-adapter.ts`: the order in which the viewer gets the matches of a bracket.

  The viewer draws its connectors from positions alone, so `orderRounds` sorts every round by the
  positions that the sources of its matches have in the round before. A bracket as it was built is
  put back into the order of construction, whatever order the rounds come in.

  * `orderMatches_of_perm`: matches that are in order already come out in this order;
  * `fed_sorted`: a round in order puts the round it feeds in order;
  * `orderRounds_connectors`: the match at index `i` plays the winners of `2 i` and `2 i + 1`.
-/
import Brackets.Progress.CompleteTree
import Brackets.Progress.Interleaving
import Mathlib.Data.Prod.Lex

namespace Brackets

open Library

/-! ## 1. The order of the matches -/

/-- `Number.MAX_SAFE_INTEGER` -/
def maxSafeInteger : Nat := 9007199254740991

def originPosition (m : Match) (positionByMatchId : Dict MatchId Nat) : Nat :=
  let origins := [m.stageItemInput1WinnerFromMatchId, m.stageItemInput2WinnerFromMatchId].filterMap
    fun k => k.bind positionByMatchId.get?
  origins.min?.getD maxSafeInteger

/-- The comparator of `orderRounds`. -/
def compareOrigins (positionByMatchId : Dict MatchId Nat) (left right : Match) : Int :=
  let leftOrigin := originPosition left positionByMatchId
  let rightOrigin := originPosition right positionByMatchId
  if leftOrigin ≠ rightOrigin then (leftOrigin : Int) - rightOrigin else left.id - right.id

def orderMatches (positionByMatchId : Dict MatchId Nat) (matches_ : List Match) : List Match :=
  matches_.insertionSort fun left right => compareOrigins positionByMatchId left right ≤ 0

def setPositions (positionByMatchId : Dict MatchId Nat) (ordered : List Match) :
    Dict MatchId Nat :=
  ordered.zipIdx.foldl (fun d e => d.set e.1.id e.2) positionByMatchId

structure OrderedRound where
  matches_ : List Match
  round : RoundWithMatches

def orderRoundsFrom (positionByMatchId : Dict MatchId Nat) :
    List RoundWithMatches → List OrderedRound
  | [] => []
  | round :: rounds =>
    let ordered := orderMatches positionByMatchId round.matches_
    ⟨ordered, round⟩ :: orderRoundsFrom (setPositions positionByMatchId ordered) rounds

def orderRounds (rounds : List RoundWithMatches) : List OrderedRound :=
  orderRoundsFrom .empty rounds

/-! ## 2. Sorting a round -/

section Sorting

variable {positions : Dict MatchId Nat}

/-- By origin, then by id. -/
def originKey (positions : Dict MatchId Nat) (m : Match) : Nat ×ₗ Int :=
  toLex (originPosition m positions, m.id)

theorem compareOrigins_le_zero (left right : Match) :
    compareOrigins positions left right ≤ 0 ↔ originKey positions left ≤ originKey positions right := by
  unfold compareOrigins originKey
  rw [Prod.Lex.toLex_le_toLex]
  dsimp only
  by_cases horigin : originPosition left positions = originPosition right positions
  · rw [if_neg (not_not.2 horigin)]
    constructor
    · exact fun h => Or.inr ⟨horigin, Int.le_of_sub_nonpos h⟩
    · rintro (hlt | ⟨-, hid⟩)
      · exact absurd hlt (horigin ▸ lt_irrefl _)
      · exact Int.sub_nonpos_of_le hid
  · rw [if_pos horigin]
    omega

/-- **Matches that are in order already come out in this order.** -/
theorem orderMatches_of_perm {delivered tier : List Match} (h : delivered.Perm tier)
    (hids : (tier.map (·.id)).Nodup)
    (hsorted : tier.Pairwise fun left right => originKey positions left ≤ originKey positions right) :
    orderMatches positions delivered = tier := by
  let r : Match → Match → Prop := fun left right => compareOrigins positions left right ≤ 0
  have hr : ∀ a b, r a b ↔ originKey positions a ≤ originKey positions b := compareOrigins_le_zero
  have htotal : Std.Total r :=
    ⟨fun a b => (le_total (originKey positions a) (originKey positions b)).imp (hr a b).2 (hr b a).2⟩
  have htrans : IsTrans Match r :=
    ⟨fun a b c hab hbc => (hr a c).2 (((hr a b).1 hab).trans ((hr b c).1 hbc))⟩
  have hperm : (orderMatches positions delivered).Perm tier :=
    (List.perm_insertionSort r delivered).trans h
  have hanti : ∀ a b, a ∈ orderMatches positions delivered → b ∈ tier → r a b → r b a → a = b := by
    intro a b ha hb hab hba
    have hkey : originKey positions a = originKey positions b :=
      ((hr a b).1 hab).antisymm ((hr b a).1 hba)
    have hid : a.id = b.id := congrArg (fun k => (ofLex k).2) hkey
    exact List.inj_on_of_nodup_map hids (hperm.mem_iff.1 ha) hb hid
  exact hperm.eq_of_pairwise hanti (List.pairwise_insertionSort r delivered)
    (hsorted.imp (hr _ _).2)

end Sorting

/-! ## 3. Positions -/

theorem get?_foldl_set_of_not_mem (es : List (Match × Nat)) (d : Dict MatchId Nat) {k : MatchId}
    (h : k ∉ es.map (·.1.id)) : (es.foldl (fun d e => d.set e.1.id e.2) d).get? k = d.get? k := by
  induction es generalizing d with
  | nil => rfl
  | cons e es ih =>
    rw [List.map_cons, List.mem_cons, not_or] at h
    rw [List.foldl_cons, ih _ h.2, Dict.get?_set_of_ne _ h.1]

/-- After a round every match of it is at its index. -/
theorem get?_setPositions (positions : Dict MatchId Nat) {ordered : List Match}
    (hids : (ordered.map (·.id)).Nodup) {i : Nat} {m : Match} (hm : ordered[i]? = some m) :
    (setPositions positions ordered).get? m.id = some i := by
  suffices run : ∀ n, ((ordered.zipIdx n).foldl (fun d e => d.set e.1.id e.2) positions).get? m.id =
      some (n + i) by
    have hstart := run 0
    rwa [Nat.zero_add] at hstart
  intro n
  induction ordered generalizing i n positions with
  | nil => cases hm
  | cons m0 ordered ih =>
    rw [List.map_cons, List.nodup_cons] at hids
    rw [List.zipIdx_cons, List.foldl_cons]
    cases i with
    | zero =>
      cases hm
      have hnot : m.id ∉ (ordered.zipIdx (n + 1)).map (·.1.id) := by
        have hmap : (ordered.zipIdx (n + 1)).map (·.1.id) = ordered.map (·.id) := by
          have hcomp := congrArg (List.map fun m : Match => m.id)
            (List.zipIdx_map_fst (n + 1) ordered)
          rwa [List.map_map] at hcomp
        rw [hmap]
        exact hids.1
      rw [get?_foldl_set_of_not_mem _ _ hnot, Dict.get?_set_self]
      rfl
    | succ i =>
      rw [ih _ hids.2 hm, Nat.add_right_comm, Nat.add_assoc]

/-! ## 4. A round that feeds the next -/

/-- Read in order, the sources of the next round are the matches of the round in order. -/
def Fed (tier next : List Match) : Prop :=
  next.flatMap (·.sources) = tier.map fun m => some m.id

/-- The match at index `i` plays the winners of the matches at `2 i` and `2 i + 1`. -/
def Connected (tier next : List Match) : Prop :=
  ∀ i m, next[i]? = some m → ∃ a b, tier[2 * i]? = some a ∧ tier[2 * i + 1]? = some b ∧
    m.winnerFrom .one = some a.id ∧ m.winnerFrom .two = some b.id

theorem Fed.connected {tier next : List Match} (h : Fed tier next) :
    Connected tier next ∧ tier.length = 2 * next.length := by
  unfold Fed at h
  induction next generalizing tier with
  | nil =>
    rw [List.flatMap_nil] at h
    rw [List.map_eq_nil_iff.1 h.symm]
    exact ⟨fun i m hm => (by cases hm), rfl⟩
  | cons m0 next ih =>
    match tier, h with
    | [], h => simp [MatchRow.sources] at h
    | [_], h => simp [MatchRow.sources] at h
    | a :: b :: tier, h =>
      rw [List.flatMap_cons, List.map_cons, List.map_cons] at h
      obtain ⟨hone, htail⟩ := List.cons.inj h
      obtain ⟨htwo, hnext⟩ := List.cons.inj htail
      obtain ⟨hrest, hlen⟩ := ih hnext
      refine ⟨fun i m hm => ?_, ?_⟩
      · cases i with
        | zero =>
          cases hm
          exact ⟨a, b, rfl, rfl, hone, htwo⟩
        | succ i => exact hrest i m hm
      · rw [List.length_cons, List.length_cons, List.length_cons, hlen]
        omega

/-- **A round in order puts the round it feeds in order.** -/
theorem fed_sorted {tier next : List Match} (h : Fed tier next) {positions : Dict MatchId Nat}
    (hpositions : ∀ i m, tier[i]? = some m → positions.get? m.id = some i) :
    next.Pairwise fun left right => originKey positions left ≤ originKey positions right := by
  have horigin : ∀ i m, next[i]? = some m → originPosition m positions = 2 * i := by
    intro i m hm
    obtain ⟨a, b, ha, hb, hone, htwo⟩ := h.connected.1 i m hm
    have horigins : [m.stageItemInput1WinnerFromMatchId,
        m.stageItemInput2WinnerFromMatchId].filterMap (fun k => k.bind positions.get?) =
          [2 * i, 2 * i + 1] := by
      have h1 : m.stageItemInput1WinnerFromMatchId = some a.id := hone
      have h2 : m.stageItemInput2WinnerFromMatchId = some b.id := htwo
      simp [h1, h2, hpositions _ _ ha, hpositions _ _ hb]
    unfold originPosition
    rw [horigins]
    simp
  refine List.pairwise_iff_getElem.2 fun i j hi hj hij => Prod.Lex.toLex_le_toLex.2 (Or.inl ?_)
  dsimp only
  rw [horigin i _ (List.getElem?_eq_getElem hi), horigin j _ (List.getElem?_eq_getElem hj)]
  omega

/-! ## 5. All rounds -/

/-- Before the first round no match has an origin. -/
theorem originPosition_empty (m : Match) : originPosition m .empty = maxSafeInteger := by
  have hnone : ∀ k : Option MatchId, k.bind (Dict.empty : Dict MatchId Nat).get? = none := by
    intro k
    cases k with
    | none => rfl
    | some k => rfl
  unfold originPosition
  simp [hnone]

/-- **Every round comes out as its tier**, whatever order its matches are delivered in. -/
theorem orderRoundsFrom_eq {tiers : List (List Match)} {delivered : List RoundWithMatches}
    (h : List.Forall₂ (fun tier round => round.matches_.Perm tier) tiers delivered)
    (hids : ∀ tier ∈ tiers, (tier.map (·.id)).Nodup) (hfed : tiers.IsChain Fed)
    {positions : Dict MatchId Nat}
    (hfirst : ∀ tier ∈ tiers.head?, tier.Pairwise fun left right =>
      originKey positions left ≤ originKey positions right) :
    (orderRoundsFrom positions delivered).map (·.matches_) = tiers ∧
      (orderRoundsFrom positions delivered).map (·.round) = delivered ∧
      ∀ d ∈ orderRoundsFrom positions delivered, d.matches_.Perm d.round.matches_ := by
  induction h generalizing positions with
  | nil => exact ⟨rfl, rfl, fun d hd => absurd hd List.not_mem_nil⟩
  | @cons tier round tiers delivered hperm hrest ih =>
    have hordered := orderMatches_of_perm hperm (hids tier List.mem_cons_self) (hfirst tier rfl)
    have hnext : ∀ next ∈ tiers.head?, next.Pairwise fun left right =>
        originKey (setPositions positions tier) left ≤
          originKey (setPositions positions tier) right := by
      intro next hnext
      have hfeeds : Fed tier next := (List.isChain_cons.1 hfed).1 next hnext
      exact fed_sorted hfeeds fun i m hm =>
        get?_setPositions positions (hids tier List.mem_cons_self) hm
    obtain ⟨hmatches, hrounds, hplaced⟩ :=
      ih (fun t ht => hids t (List.mem_cons_of_mem _ ht)) hfed.tail hnext
    rw [orderRoundsFrom, hordered]
    refine ⟨congrArg (tier :: ·) hmatches, congrArg (round :: ·) hrounds, fun d hd => ?_⟩
    rcases List.mem_cons.1 hd with rfl | hd
    · exact hperm.symm
    · exact hplaced d hd

/-- What the viewer is to get of a bracket: all rounds, the matches of each, every match once, and
    the pairs of every round in the positions of the next. -/
structure Connectors (delivered : List RoundWithMatches) (drawn : List OrderedRound) : Prop where
  rounds : drawn.map (·.round) = delivered
  placed : ∀ d ∈ drawn, d.matches_.Perm d.round.matches_
  once : ((drawn.flatMap (·.matches_)).map (·.id)).Nodup
  connected : ∀ j tier next, drawn[j]? = some tier → drawn[j + 1]? = some next →
    Connected tier.matches_ next.matches_ ∧ tier.matches_.length = 2 * next.matches_.length

theorem connectors_of_tiers {tiers : List (List Match)} {delivered : List RoundWithMatches}
    (h : List.Forall₂ (fun tier round => round.matches_.Perm tier) tiers delivered)
    (hids : (tiers.flatten.map (·.id)).Nodup) (hfed : tiers.IsChain Fed)
    (hsorted : ∀ tier ∈ tiers.head?, tier.Pairwise fun left right => left.id ≤ right.id) :
    Connectors delivered (orderRounds delivered) := by
  have hfirst : ∀ tier ∈ tiers.head?, tier.Pairwise fun left right =>
      originKey .empty left ≤ originKey .empty right := by
    intro tier htier
    refine (hsorted tier htier).imp fun hid => Prod.Lex.toLex_le_toLex.2 (Or.inr ⟨?_, hid⟩)
    exact (originPosition_empty _).trans (originPosition_empty _).symm
  obtain ⟨hmatches, hrounds, hplaced⟩ := orderRoundsFrom_eq h
    (fun tier htier => hids.sublist ((List.sublist_flatten_of_mem htier).map _)) hfed hfirst
  refine ⟨hrounds, hplaced, ?_, fun j tier next htier hnext => ?_⟩
  · have hflat : (orderRounds delivered).flatMap (·.matches_) = tiers.flatten := by
      rw [List.flatMap_def]
      exact congrArg List.flatten hmatches
    rw [hflat]
    exact hids
  · have hget : ∀ {j : Nat} {d : OrderedRound}, (orderRounds delivered)[j]? = some d →
        tiers[j]? = some d.matches_ := by
      intro j d hd
      rw [← hmatches, List.getElem?_map]
      exact congrArg (Option.map _) hd
    obtain ⟨hj, hnextTier⟩ := List.getElem?_eq_some_iff.1 (hget hnext)
    obtain ⟨_, hthisTier⟩ := List.getElem?_eq_some_iff.1 (hget htier)
    have hstep := List.isChain_iff_getElem.1 hfed j hj
    rw [hthisTier, hnextTier] at hstep
    exact hstep.connected

/-! ## 6. A bracket as it was built -/

/-- The rounds with their matches in any order. -/
def DeliveredAs (rounds delivered : List RoundWithMatches) : Prop :=
  List.Forall₂ (fun r d => d.toRoundRow = r.toRoundRow ∧ d.matches_.Perm r.matches_) rounds
    delivered

theorem connectors_of_levels {db : Database} {tid : TournamentId} {row : StageItemRow}
    {seeds : List StageItemInputId}
    (h : Levels db ((loadStageItem db tid row).rounds.map (·.id)) seeds)
    {delivered : List RoundWithMatches}
    (hdelivered : DeliveredAs (loadStageItem db tid row).rounds delivered) :
    Connectors delivered (orderRounds delivered) := by
  refine @connectors_of_tiers ((loadStageItem db tid row).rounds.map (·.matches_)) delivered
    ?_ ?_ ?_ ?_
  · exact List.forall₂_map_left_iff.2 (hdelivered.imp fun _ _ hd => hd.2)
  · have hdistinct := @loaded_matches_distinct db tid row
    exact hdistinct
  · have hfed := h.fed
    rw [loadStageItem, List.map_map, List.isChain_map] at hfed
    rw [loadStageItem, List.map_map, List.isChain_map]
    refine hfed.imp fun r r' hrows => ?_
    have hsources : ((roundWithMatches db (itemInputs db row.id) r').matches_.flatMap (·.sources)) =
        (db.roundRows r'.id).flatMap (·.sources) := List.flatMap_map ..
    have hids : ((roundWithMatches db (itemInputs db row.id) r).matches_.map fun m => some m.id) =
        (db.roundRows r.id).map fun m => some m.id := List.map_map ..
    exact hsources.trans (hrows.trans hids.symm)
  · intro tier htier
    obtain ⟨r, hr, rfl⟩ := List.mem_map.1 (List.mem_of_mem_head? htier)
    obtain ⟨rrow, -, -, rfl⟩ := mem_loaded_rounds.mp hr
    exact List.pairwise_map.2 ((db.matches_.sorted_filter _).imp fun hlt => le_of_lt hlt)

/-- **The drawn connectors match the bracket**: of a bracket that was built from empty rounds,
    with the matches of every round delivered in any order. -/
theorem orderRounds_connectors {db built : Database} {tid : TournamentId} {k : StageItemId}
    {item loaded : StageItemWithRounds} (hitem : getStageItem db tid k = .ok item)
    (hempty : ∀ r ∈ item.rounds, r.matches_ = [])
    (hbuilt : buildSingleEliminationStageItem db tid item = .ok built)
    (hloaded : getStageItem built tid k = .ok loaded) {delivered : List RoundWithMatches}
    (hdelivered : DeliveredAs loaded.rounds delivered) :
    Connectors delivered (orderRounds delivered) := by
  have hlevels := buildSingleElimination_levels hitem hempty hbuilt
  have hframe := buildSingleElimination_frame hbuilt
  obtain ⟨row, hrow, -, rfl, -⟩ := getStageItem_eq_ok.mp hitem
  obtain ⟨row', hrow', -, rfl, -⟩ := getStageItem_eq_ok.mp hloaded
  have hitems : built.stageItems = db.stageItems := by
    have htables := congrArg Database.stageItems hframe
    exact htables
  have hrounds : built.rounds = db.rounds := by
    have htables := congrArg Database.rounds hframe
    exact htables
  rw [hitems, hrow] at hrow'
  obtain rfl : row = row' := Option.some.inj hrow'
  have hids : (loadStageItem db tid row).rounds.map (·.id) =
      (loadStageItem built tid row).rounds.map (·.id) := by
    rw [loadStageItem, loadStageItem, List.map_map, List.map_map, hrounds]
    rfl
  rw [hids] at hlevels
  exact connectors_of_levels hlevels hdelivered

theorem deliveredAs_reverse (rounds : List RoundWithMatches) :
    DeliveredAs rounds (rounds.map fun r => { r with matches_ := r.matches_.reverse }) := by
  refine List.forall₂_map_right_iff.2 (List.forall₂_same.2 fun r _ => ⟨rfl, ?_⟩)
  exact List.reverse_perm _

theorem cup_connectors :
    Connectors ((loadStageItem cupBuilt 1 cupItem).rounds.map fun r =>
        { r with matches_ := r.matches_.reverse })
      (orderRounds ((loadStageItem cupBuilt 1 cupItem).rounds.map fun r =>
        { r with matches_ := r.matches_.reverse })) :=
  orderRounds_connectors cup_loads (by decide) cupBuilt_eq
    (getStageItem_eq_ok.mpr ⟨cupItem, rfl, rfl, rfl, by decide⟩) (deliveredAs_reverse _)

end Brackets
