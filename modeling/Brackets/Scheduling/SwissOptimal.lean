/-
  File:      Brackets/Scheduling/SwissOptimal.lean
  Subject:   Which pairing a maximum weight matching of the Swiss graph is.

  A pairing (`IsPairing`) is a set of disjoint pairs of active teams that have not met. The
  pairings are the matchings of the graph without the placeholder (`matching_of_pairing`,
  `pairing_of_matching`), and the weight of a matching is a constant for each pair less the
  squared gaps (`weight_of_pairing`). With an odd number of teams the placeholder is a phantom
  node (`swissGraph_phantom`), and its weights are multiples above every total of the pairs, so
  the choice of the team that sits out comes before the gaps.

  * `solution_largest`: the pairs of the matching are as many as in any pairing;
  * `solution_sitsOut`: the team left to the placeholder has the greatest key of all teams that a
    largest pairing leaves over, and the gaps are least among those that leave it over;
  * `solution_even`: with an even number of teams the gaps are least among all largest pairings.
-/
import Mathlib.Data.List.Pairwise
import Mathlib.Data.Prod.Lex
import Brackets.Scheduling.Swiss

namespace Brackets

open Library

/-! ## 1. Gaps -/

theorem truncate_of_nonneg {q : Rat} (h : 0 ≤ q) : truncate q = ⌊q⌋ := by
  rw [truncate, Rat.floor_def', Int.tdiv_eq_ediv_of_nonneg (Rat.num_nonneg.mpr h)]

theorem gap_comm (a b : StageItemInput) : gap b a = gap a b := by
  rw [gap, gap, abs_sub_comm]

theorem gap_eq (a b : StageItemInput) : gap a b = ⌊|a.points - b.points|⌋ ^ 2 := by
  rw [gap, truncate_of_nonneg (abs_nonneg _)]

theorem gap_nonneg (a b : StageItemInput) : 0 ≤ gap a b := sq_nonneg _

theorem gap_le {a b c d : StageItemInput} (h : |a.points - b.points| ≤ |c.points - d.points|) :
    gap a b ≤ gap c d := by
  rw [gap_eq, gap_eq]
  exact pow_le_pow_left₀ (Int.floor_nonneg.mpr (abs_nonneg _)) (Int.floor_mono h) 2

/-- In the order of the standings no gap exceeds that of the first and the last. -/
theorem gap_le_maxGap {teams : List StageItemInput}
    (hs : teams.Pairwise fun a b => b.points ≤ a.points) {a b : StageItemInput} (ha : a ∈ teams)
    (hb : b ∈ teams) : gap a b ≤ maxGap teams := by
  have hne := List.ne_nil_of_mem ha
  have hfirst : ∀ c ∈ teams, c.points ≤ (teams.head hne).points := fun c hc =>
    hs.rel_head_of_rel_head_head hc le_rfl
  have hlast : ∀ c ∈ teams, (teams.getLast hne).points ≤ c.points := fun c hc =>
    hs.rel_getLast_of_rel_getLast_getLast hc le_rfl
  rw [maxGap, List.head?_eq_some_head hne, List.getLast?_eq_some_getLast hne]
  refine gap_le (le_trans ?_ (le_abs_self _))
  rw [abs_sub_le_iff]
  have := hfirst a ha
  have := hfirst b hb
  have := hlast a ha
  have := hlast b hb
  constructor <;> linarith

theorem maxGap_nonneg (teams : List StageItemInput) : 0 ≤ maxGap teams := by
  unfold maxGap
  split
  · exact gap_nonneg _ _
  · exact le_rfl

/-! ## 2. The order of the teams -/

/-- The active teams in an order of the standings. -/
structure Standings (item : StageItemWithRounds) (teams : List StageItemInput) : Prop where
  sound : item.Sound
  perm : teams.Perm (getActiveTeams item)
  sorted : teams.Pairwise fun a b => b.points ≤ a.points

theorem swissOrder_sorted (shuffle : Shuffle) (item : StageItemWithRounds) :
    (swissOrder shuffle item).Pairwise fun a b => b.points ≤ a.points := by
  have : Std.Total fun a b : StageItemInput => b.points ≤ a.points := ⟨fun a b => le_total _ _⟩
  have : IsTrans StageItemInput fun a b => b.points ≤ a.points :=
    ⟨fun a b c hab hbc => le_trans hbc hab⟩
  exact List.pairwise_insertionSort _ _

theorem swissOrder_standings {item : StageItemWithRounds} (h : item.Sound) (shuffle : Shuffle) :
    Standings item (swissOrder shuffle item) where
  sound := h
  perm := (List.perm_insertionSort _ _).trans (shuffle.perm _)
  sorted := swissOrder_sorted shuffle item

namespace Standings

variable {item : StageItemWithRounds} {teams : List StageItemInput} (h : Standings item teams)
include h

theorem mem_inputs {t : StageItemInput} (ht : t ∈ teams) : t ∈ item.inputs :=
  (List.mem_filter.mp (h.perm.mem_iff.mp ht)).1

theorem nodup_ids : (teams.map (·.id)).Nodup := by
  refine ((h.perm.map _).nodup_iff).mpr ?_
  exact h.sound.distinct.sublist (List.filter_sublist.map _)

theorem nodup : teams.Nodup := h.nodup_ids.of_map

theorem eq_of_id {a b : StageItemInput} (ha : a ∈ teams) (hb : b ∈ teams) (e : a.id = b.id) :
    a = b := List.inj_on_of_nodup_map h.nodup_ids ha hb e

theorem id_ne_bye {t : StageItemInput} (ht : t ∈ teams) : t.id ≠ BYE := by
  have hpos := h.sound.positive t (h.mem_inputs ht)
  exact fun e => absurd (e ▸ hpos) (by decide)

end Standings

/-! ## 3. The graph of the pairs -/

/-- The graph without the placeholder. -/
def pairGraph (teams : List StageItemInput)
    (meetings : List (StageItemInputId × StageItemInputId)) : WeightedGraph StageItemInputId where
  nodes := teams.map (·.id)
  edges := pairEdges teams meetings

theorem mem_pairEdges {teams : List StageItemInput}
    {meetings : List (StageItemInputId × StageItemInputId)} {u v : StageItemInputId} {w : Int} :
    (u, v, w) ∈ pairEdges teams meetings ↔ ∃ p ∈ pairsInOrder teams,
      ¬ hasPlayed meetings p.1.id p.2.id ∧ (p.1.id, p.2.id, pairWeight teams p.1 p.2) = (u, v, w) := by
  rw [pairEdges, List.mem_filterMap]
  refine exists_congr fun p => and_congr_right fun _ => ?_
  split
  · next hp => simp [hp]
  · next hp => simp [hp]

theorem pairWeight_comm (teams : List StageItemInput) (a b : StageItemInput) :
    pairWeight teams b a = pairWeight teams a b := by
  rw [pairWeight, pairWeight, gap_comm]

/-- Disjoint pairs of active teams that have not met. -/
structure IsPairing (item : StageItemWithRounds) (ps : List (StageItemInput × StageItemInput)) :
    Prop where
  active : ∀ t ∈ endpoints ps, t ∈ getActiveTeams item
  unplayed : ∀ p ∈ ps, ¬ item.HavePlayed p.1 p.2
  disjoint : (endpoints ps).Nodup

/-- A pairing with as many pairs as any. -/
structure IsLargestPairing (item : StageItemWithRounds)
    (ps : List (StageItemInput × StageItemInput)) : Prop where
  pairing : IsPairing item ps
  largest : ∀ qs, IsPairing item qs → qs.length ≤ ps.length

/-- The sum of the squared gaps of the pairs. -/
def gapSum (ps : List (StageItemInput × StageItemInput)) : Int := (ps.map fun p => gap p.1 p.2).sum

theorem gapSum_nonneg (ps : List (StageItemInput × StageItemInput)) : 0 ≤ gapSum ps := by
  induction ps with
  | nil => exact le_rfl
  | cons p ps ih =>
    rw [gapSum, List.map_cons, List.sum_cons]
    exact add_nonneg (gap_nonneg _ _) ih

/-- The pairs as the graph has them. -/
def pairIdsOf (ps : List (StageItemInput × StageItemInput)) :
    List (StageItemInputId × StageItemInputId) := ps.map fun p => (p.1.id, p.2.id)

theorem endpoints_pairIdsOf (ps : List (StageItemInput × StageItemInput)) :
    endpoints (pairIdsOf ps) = (endpoints ps).map (·.id) :=
  endpoints_map (fun t : StageItemInput => t.id) ps

theorem mem_pairIdsOf {ps : List (StageItemInput × StageItemInput)} {t : StageItemInput}
    (ht : t ∈ endpoints ps) : t.id ∈ endpoints (pairIdsOf ps) := by
  rw [endpoints_pairIdsOf]
  exact List.mem_map_of_mem ht

section Graph

variable {item : StageItemWithRounds} {teams : List StageItemInput} (h : Standings item teams)
include h

/-- An edge of the graph is a pair of two teams that have not met. -/
theorem pairEdge_cases {u v : StageItemInputId} {w : Int}
    (he : (u, v, w) ∈ pairEdges teams item.meetings) :
    ∃ a ∈ teams, ∃ b ∈ teams, a ≠ b ∧ ¬ item.HavePlayed a b ∧ u = a.id ∧ v = b.id ∧
      w = pairWeight teams a b := by
  obtain ⟨⟨a, b⟩, hp, hnot, e⟩ := mem_pairEdges.mp he
  obtain ⟨ha, hb⟩ := mem_of_mem_pairsInOrder hp
  cases e
  exact ⟨a, ha, b, hb, ne_of_mem_pairsInOrder h.nodup hp, fun hP => hnot (hasPlayed_iff.mpr hP),
    rfl, rfl, rfl⟩

theorem pairGraph_consistent : (pairGraph teams item.meetings).Consistent := by
  intro u v w w' he he'
  obtain ⟨a, ha, b, hb, -, -, rfl, rfl, rfl⟩ := pairEdge_cases h he
  rcases he' with he' | he' <;>
    obtain ⟨c, hc, d, hd, -, -, e1, e2, rfl⟩ := pairEdge_cases h he'
  · rw [h.eq_of_id ha hc e1, h.eq_of_id hb hd e2]
  · rw [h.eq_of_id ha hd e2, h.eq_of_id hb hc e1, pairWeight_comm]

/-- The edge between two teams that have not met. -/
theorem pairGraph_weight? {a b : StageItemInput} (ha : a ∈ teams) (hb : b ∈ teams) (hab : a ≠ b)
    (hnot : ¬ item.HavePlayed a b) :
    (pairGraph teams item.meetings).weight? a.id b.id = some (pairWeight teams a b) := by
  rw [WeightedGraph.weight?_eq_some (pairGraph_consistent h)]
  have hnot' : ¬ hasPlayed item.meetings a.id b.id := fun hP => hnot (hasPlayed_iff.mp hP)
  rcases mem_pairsInOrder_or ha hb hab with hp | hp
  · exact Or.inl (mem_pairEdges.mpr ⟨(a, b), hp, hnot', rfl⟩)
  · refine Or.inr (mem_pairEdges.mpr ⟨(b, a), hp, ?_, ?_⟩)
    · rwa [hasPlayed_symm]
    · rw [pairWeight_comm]

theorem pairGraph_cases {u v : StageItemInputId}
    (hw : ((pairGraph teams item.meetings).weight? u v).isSome) :
    ∃ a ∈ teams, ∃ b ∈ teams, a ≠ b ∧ ¬ item.HavePlayed a b ∧ u = a.id ∧ v = b.id := by
  obtain ⟨w, hw⟩ := Option.isSome_iff_exists.mp hw
  rcases (WeightedGraph.weight?_eq_some (pairGraph_consistent h)).mp hw with he | he
  · obtain ⟨a, ha, b, hb, hab, hnot, e1, e2, -⟩ := pairEdge_cases h he
    exact ⟨a, ha, b, hb, hab, hnot, e1, e2⟩
  · obtain ⟨a, ha, b, hb, hab, hnot, e1, e2, -⟩ := pairEdge_cases h he
    refine ⟨b, hb, a, ha, hab.symm, fun hP => hnot ?_, e2, e1⟩
    rwa [← hasPlayed_iff, hasPlayed_symm, hasPlayed_iff] at hP

/-- A pairing is a matching of the graph. -/
theorem matching_of_pairing {ps : List (StageItemInput × StageItemInput)} (hp : IsPairing item ps) :
    (pairGraph teams item.meetings).IsMatching (pairIdsOf ps) := by
  have hin : ∀ t ∈ endpoints ps, t ∈ teams := fun t ht => h.perm.mem_iff.mpr (hp.active t ht)
  constructor
  · intro q hq
    obtain ⟨p, hpm, rfl⟩ := List.mem_map.mp hq
    rw [pairGraph_weight? h (hin _ (mem_endpoints.mpr ⟨p, hpm, Or.inl rfl⟩))
      (hin _ (mem_endpoints.mpr ⟨p, hpm, Or.inr rfl⟩)) (ne_of_mem_of_nodup hp.disjoint hpm)
      (hp.unplayed p hpm)]
    rfl
  · rw [endpoints_pairIdsOf]
    exact hp.disjoint.map_on fun a ha b hb => h.eq_of_id (hin a ha) (hin b hb)

/-- A matching of the graph is a pairing. -/
theorem pairing_of_matching {M : List (StageItemInputId × StageItemInputId)}
    (hM : (pairGraph teams item.meetings).IsMatching M) :
    ∃ ps, IsPairing item ps ∧ pairIdsOf ps = M := by
  have pairs : ∀ N : List (StageItemInputId × StageItemInputId),
      (∀ p ∈ N, ((pairGraph teams item.meetings).weight? p.1 p.2).isSome) →
      ∃ ps, pairIdsOf ps = N ∧ (∀ t ∈ endpoints ps, t ∈ teams) ∧
        ∀ p ∈ ps, ¬ item.HavePlayed p.1 p.2 := by
    intro N
    induction N with
    | nil => exact fun _ => ⟨[], rfl, fun t ht => absurd ht List.not_mem_nil,
        fun p hp => absurd hp List.not_mem_nil⟩
    | cons q N ih =>
      intro hN
      obtain ⟨a, ha, b, hb, -, hnot, e1, e2⟩ := pairGraph_cases h (hN q List.mem_cons_self)
      obtain ⟨ps, rfl, hin, hun⟩ := ih fun p hp => hN p (List.mem_cons_of_mem _ hp)
      refine ⟨(a, b) :: ps, ?_, fun t ht => ?_, fun p hp => ?_⟩
      · rw [pairIdsOf, List.map_cons, ← e1, ← e2, pairIdsOf]
      · rcases List.mem_cons.mp ht with rfl | ht
        · exact ha
        · rcases List.mem_cons.mp ht with rfl | ht
          · exact hb
          · exact hin t ht
      · rcases List.mem_cons.mp hp with rfl | hp
        · exact hnot
        · exact hun p hp
  obtain ⟨ps, rfl, hin, hun⟩ := pairs M hM.joined
  have hd := hM.disjoint
  rw [endpoints_pairIdsOf] at hd
  exact ⟨ps, ⟨fun t ht => h.perm.mem_iff.mp (hin t ht), hun, hd.of_map⟩, rfl⟩

/-- The weight of a pairing: a constant for each pair, less the squared gaps. -/
theorem weight_of_pairing {ps : List (StageItemInput × StageItemInput)} (hp : IsPairing item ps) :
    (pairGraph teams item.meetings).weight (pairIdsOf ps) =
      ps.length * (maxGap teams + 1) - gapSum ps := by
  have hw : ∀ p ∈ ps, (pairGraph teams item.meetings).weight? p.1.id p.2.id =
      some (pairWeight teams p.1 p.2) := fun p hpm =>
    pairGraph_weight? h (h.perm.mem_iff.mpr (hp.active _ (mem_endpoints.mpr ⟨p, hpm, Or.inl rfl⟩)))
      (h.perm.mem_iff.mpr (hp.active _ (mem_endpoints.mpr ⟨p, hpm, Or.inr rfl⟩)))
      (ne_of_mem_of_nodup hp.disjoint hpm) (hp.unplayed p hpm)
  clear hp
  induction ps with
  | nil => simp [pairIdsOf, WeightedGraph.weight, gapSum]
  | cons p ps ih =>
    have ih := ih fun q hq => hw q (List.mem_cons_of_mem _ hq)
    rw [pairIdsOf, List.map_cons, WeightedGraph.weight_cons, hw p List.mem_cons_self,
      Option.getD_some, ← pairIdsOf, ih, gapSum, gapSum, List.map_cons, List.sum_cons,
      List.length_cons, pairWeight]
    push_cast
    ring

theorem gapSum_le {ps : List (StageItemInput × StageItemInput)} (hp : IsPairing item ps) :
    gapSum ps ≤ ps.length * maxGap teams := by
  have hle : ∀ p ∈ ps, gap p.1 p.2 ≤ maxGap teams := fun p hpm =>
    gap_le_maxGap h.sorted
      (h.perm.mem_iff.mpr (hp.active _ (mem_endpoints.mpr ⟨p, hpm, Or.inl rfl⟩)))
      (h.perm.mem_iff.mpr (hp.active _ (mem_endpoints.mpr ⟨p, hpm, Or.inr rfl⟩)))
  clear hp
  induction ps with
  | nil => simp [gapSum]
  | cons p ps ih =>
    have hrest := ih fun q hq => hle q (List.mem_cons_of_mem _ hq)
    have hfirst := hle p List.mem_cons_self
    rw [gapSum, List.map_cons, List.sum_cons, ← gapSum, List.length_cons]
    push_cast
    linarith

theorem length_of_pairing {ps : List (StageItemInput × StageItemInput)} (hp : IsPairing item ps) :
    ps.length ≤ teams.length / 2 :=
  length_le_half hp.disjoint fun t ht => h.perm.mem_iff.mpr (hp.active t ht)

/-- **The total of a pairing stays below the multiples that choose who sits out.** -/
theorem weight_bounds {ps : List (StageItemInput × StageItemInput)} (hp : IsPairing item ps) :
    0 ≤ (pairGraph teams item.meetings).weight (pairIdsOf ps) ∧
      (pairGraph teams item.meetings).weight (pairIdsOf ps) ≤ maxTotalPairWeight teams := by
  rw [weight_of_pairing h hp]
  have h1 := gapSum_le h hp
  have h2 := gapSum_nonneg ps
  have h3 : (ps.length : Int) ≤ (teams.length / 2 : Nat) := by
    exact_mod_cast length_of_pairing h hp
  have h4 := maxGap_nonneg teams
  have h5 : (ps.length : Int) * (maxGap teams + 1) ≤ (teams.length / 2 : Nat) * (maxGap teams + 1) :=
    mul_le_mul_of_nonneg_right h3 (by omega)
  constructor
  · rw [mul_add, mul_one]
    omega
  · rw [maxTotalPairWeight]
    omega

end Graph

/-! ## 4. The placeholder -/

/-- The order in which teams sit out: first a team that has played as many matches as any, then
    the lowest place in the standings. -/
def sitOutKey (teams : List StageItemInput)
    (meetings : List (StageItemInputId × StageItemInputId)) (t : StageItemInput) : Nat ×ₗ Nat :=
  toLex (if hasntSatOut teams meetings t then 1 else 0, teams.idxOf t)

/-- The key as one number. -/
def sitOutRank (teams : List StageItemInput)
    (meetings : List (StageItemInputId × StageItemInputId)) (t : StageItemInput) : Int :=
  teams.length * (if hasntSatOut teams meetings t then 1 else 0) + teams.idxOf t + 1

theorem sitOutRank_le {teams : List StageItemInput}
    {meetings : List (StageItemInputId × StageItemInputId)} {s t : StageItemInput} (hs : s ∈ teams)
    (ht : t ∈ teams) : sitOutRank teams meetings s ≤ sitOutRank teams meetings t ↔
      sitOutKey teams meetings s ≤ sitOutKey teams meetings t := by
  have h1 := List.idxOf_lt_length_iff.mpr hs
  have h2 := List.idxOf_lt_length_iff.mpr ht
  unfold sitOutRank sitOutKey
  rw [Prod.Lex.toLex_le_toLex]
  by_cases hs' : hasntSatOut teams meetings s <;> by_cases ht' : hasntSatOut teams meetings t <;>
    simp only [hs', ht', if_true, if_false, Bool.false_eq_true, mul_one, mul_zero, lt_irrefl, true_and, false_or] <;> omega

section Bye

variable {item : StageItemWithRounds} {teams : List StageItemInput}

theorem mem_byeEdges (hodd : teams.length % 2 = 1) {t : StageItemInput} (ht : t ∈ teams) :
    (t.id, BYE, (maxTotalPairWeight teams + 1) * sitOutRank teams item.meetings t) ∈
      byeEdges teams item.meetings := by
  have hlt := List.idxOf_lt_length_iff.mpr ht
  rw [byeEdges, if_pos hodd]
  refine List.mem_map.mpr ⟨(t, teams.idxOf t), List.mem_zipIdx_iff_getElem?.mpr ?_, rfl⟩
  rw [List.getElem?_eq_getElem hlt, List.getElem_idxOf]

/-- With an even number of teams there is no placeholder. -/
theorem swissGraph_even (heven : teams.length % 2 = 0) :
    swissGraph teams item.meetings = pairGraph teams item.meetings := by
  rw [swissGraph, byeEdges, if_neg (by omega), List.append_nil, pairGraph]

variable (h : Standings item teams)
include h

theorem byeEdge_cases {u v : StageItemInputId} {w : Int}
    (he : (u, v, w) ∈ byeEdges teams item.meetings) : ∃ t ∈ teams, u = t.id ∧ v = BYE ∧
      w = (maxTotalPairWeight teams + 1) * sitOutRank teams item.meetings t := by
  unfold byeEdges at he
  split at he
  · obtain ⟨⟨t, rank⟩, ht, e⟩ := List.mem_map.mp he
    obtain ⟨hlt, hrank⟩ := List.getElem?_eq_some_iff.mp (List.mem_zipIdx_iff_getElem?.mp ht)
    dsimp only at hlt hrank
    have hmem : t ∈ teams := hrank ▸ List.getElem_mem hlt
    have hidx : teams.idxOf t = rank := by rw [← hrank, h.nodup.idxOf_getElem]
    cases e
    exact ⟨t, hmem, rfl, rfl, by rw [byeWeight, sitOutRank, hidx]⟩
  · exact absurd he List.not_mem_nil

theorem pairEdge_ne_bye {u v : StageItemInputId} {w : Int}
    (he : (u, v, w) ∈ pairEdges teams item.meetings) : u ≠ BYE ∧ v ≠ BYE := by
  obtain ⟨a, ha, b, hb, -, -, rfl, rfl, -⟩ := pairEdge_cases h he
  exact ⟨h.id_ne_bye ha, h.id_ne_bye hb⟩

theorem byeEdge_ne_bye {u v : StageItemInputId} {w : Int}
    (he : (u, v, w) ∈ byeEdges teams item.meetings) : u ≠ BYE ∧ v = BYE := by
  obtain ⟨t, ht, rfl, rfl, -⟩ := byeEdge_cases h he
  exact ⟨h.id_ne_bye ht, rfl⟩

theorem swissGraph_consistent : (swissGraph teams item.meetings).Consistent := by
  intro u v w w' he he'
  rcases List.mem_append.mp he with he | he
  · have hne := pairEdge_ne_bye h he
    refine pairGraph_consistent h he (he'.imp (fun h1 => ?_) fun h1 => ?_)
    · exact (List.mem_append.mp h1).resolve_right fun h2 => hne.2 (byeEdge_ne_bye h h2).2
    · exact (List.mem_append.mp h1).resolve_right fun h2 => hne.1 (byeEdge_ne_bye h h2).2
  · obtain ⟨t, ht, rfl, rfl, rfl⟩ := byeEdge_cases h he
    rcases he' with h1 | h1 <;> rcases List.mem_append.mp h1 with h1 | h1
    · exact absurd rfl (pairEdge_ne_bye h h1).2
    · obtain ⟨t', ht', e, -, rfl⟩ := byeEdge_cases h h1
      rw [h.eq_of_id ht ht' e]
    · exact absurd rfl (pairEdge_ne_bye h h1).1
    · exact absurd rfl (byeEdge_ne_bye h h1).1

/-- **The placeholder is a phantom node** of the graph of the pairs. -/
theorem swissGraph_phantom (hodd : teams.length % 2 = 1) :
    WeightedGraph.Phantom (pairGraph teams item.meetings) (swissGraph teams item.meetings)
      (teams.map (·.id)) BYE fun k => ((swissGraph teams item.meetings).weight? k BYE).getD 0 where
  nodup := h.nodup_ids
  odd := by rwa [List.length_map]
  new := by
    rintro hm
    obtain ⟨t, ht, e⟩ := List.mem_map.mp hm
    exact h.id_ne_bye ht e
  inside := by
    intro u v hw
    obtain ⟨a, ha, -, -, -, -, rfl, -⟩ := pairGraph_cases h hw
    exact List.mem_map_of_mem ha
  same := by
    intro u v hu hv
    refine Option.ext fun w => ?_
    rw [WeightedGraph.weight?_eq_some (swissGraph_consistent h),
      WeightedGraph.weight?_eq_some (pairGraph_consistent h)]
    refine or_congr ⟨fun he => ?_, List.mem_append_left _⟩ ⟨fun he => ?_, List.mem_append_left _⟩
    · exact (List.mem_append.mp he).resolve_right fun h2 => hv (byeEdge_ne_bye h h2).2
    · exact (List.mem_append.mp he).resolve_right fun h2 => hu (byeEdge_ne_bye h h2).2
  toPhantom := by
    intro k hk
    obtain ⟨t, ht, rfl⟩ := List.mem_map.mp hk
    have hw := (WeightedGraph.weight?_eq_some (swissGraph_consistent h)).mpr
      (Or.inl (List.mem_append_right _ (mem_byeEdges hodd ht)))
    rw [hw, Option.getD_some]
  only := by
    intro k hw
    obtain ⟨w, hw⟩ := Option.isSome_iff_exists.mp hw
    rcases (WeightedGraph.weight?_eq_some (swissGraph_consistent h)).mp hw with he | he <;>
      rcases List.mem_append.mp he with he | he
    · exact absurd rfl (pairEdge_ne_bye h he).2
    · obtain ⟨t, ht, rfl, -⟩ := byeEdge_cases h he
      exact List.mem_map_of_mem ht
    · exact absurd rfl (pairEdge_ne_bye h he).1
    · exact absurd rfl (byeEdge_ne_bye h he).1

theorem bye_bonus (hodd : teams.length % 2 = 1) {t : StageItemInput} (ht : t ∈ teams) :
    ((swissGraph teams item.meetings).weight? t.id BYE).getD 0 =
      (maxTotalPairWeight teams + 1) * sitOutRank teams item.meetings t := by
  rw [(WeightedGraph.weight?_eq_some (swissGraph_consistent h)).mpr
    (Or.inl (List.mem_append_right _ (mem_byeEdges hodd ht))), Option.getD_some]

theorem bye_not_matched {M : List (StageItemInputId × StageItemInputId)}
    (hM : (pairGraph teams item.meetings).IsMatching M) : BYE ∉ endpoints M := by
  intro hb
  obtain ⟨p, hp, e⟩ := mem_endpoints.mp hb
  obtain ⟨a, ha, b, hb, -, -, e1, e2⟩ := pairGraph_cases h (hM.joined p hp)
  rcases e with e | e
  · exact h.id_ne_bye ha (e1.symm.trans e.symm)
  · exact h.id_ne_bye hb (e2.symm.trans e.symm)

end Bye

/-! ## 5. The solution -/

section Solution

variable {item : StageItemWithRounds} {teams : List StageItemInput} (h : Standings item teams)
  {M : List (StageItemInputId × StageItemInputId)}
  (hM : (swissGraph teams item.meetings).IsMaxWeightMatching M)
include h hM

/-- Without the placeholder the solution is a matching of the pairs, as large as any. -/
theorem solution_matching : (pairGraph teams item.meetings).IsMatching (WeightedGraph.without BYE M) ∧
    ∀ N, (pairGraph teams item.meetings).IsMatching N →
      N.length ≤ (WeightedGraph.without BYE M).length := by
  rcases Nat.mod_two_eq_zero_or_one teams.length with heven | hodd
  · rw [swissGraph_even heven] at hM
    rw [WeightedGraph.without_eq_self (bye_not_matched h hM.matching)]
    exact ⟨hM.matching, hM.size⟩
  · exact ⟨(swissGraph_phantom h hodd).matching_without hM,
      fun N hN => (swissGraph_phantom h hodd).phantom_size hM hN⟩

variable {ps : List (StageItemInput × StageItemInput)} (hp : IsPairing item ps)
  (hps : pairIdsOf ps = WeightedGraph.without BYE M)
include hp hps

theorem solution_largest : IsLargestPairing item ps := by
  refine ⟨hp, fun qs hq => ?_⟩
  have hle := (solution_matching h hM).2 _ (matching_of_pairing h hq)
  rw [← hps] at hle
  simpa [pairIdsOf] using hle

theorem solution_sitsOut (hodd : teams.length % 2 = 1) : ∃ t ∈ teams, t ∉ endpoints ps ∧
    ∀ qs, IsLargestPairing item qs → ∀ s ∈ teams, s ∉ endpoints qs →
      sitOutKey teams item.meetings s ≤ sitOutKey teams item.meetings t ∧
      (sitOutKey teams item.meetings s = sitOutKey teams item.meetings t →
        gapSum ps ≤ gapSum qs) := by
  have hphantom := swissGraph_phantom h hodd
  obtain ⟨k, hk, hfree, hbest⟩ := hphantom.phantom_heaviest hM
  obtain ⟨t, ht, rfl⟩ := List.mem_map.mp hk
  rw [← hps] at hfree hbest
  refine ⟨t, ht, fun hm => hfree (mem_pairIdsOf hm), fun qs hq s hs hsq => ?_⟩
  have hlen : qs.length = ps.length :=
    Nat.le_antisymm ((solution_largest h hM hp hps).largest qs hq.pairing) (hq.largest ps hp)
  have hsq' : s.id ∉ endpoints (pairIdsOf qs) := by
    rw [endpoints_pairIdsOf]
    intro hm
    obtain ⟨s', hs', e⟩ := List.mem_map.mp hm
    rw [← h.eq_of_id (h.perm.mem_iff.mpr (hq.pairing.active s' hs')) hs e] at hsq
    exact hsq hs'
  have hle := hbest _ (matching_of_pairing h hq.pairing) (by simpa [pairIdsOf] using hlen) s.id
    (List.mem_map_of_mem hs) hsq'
  rw [bye_bonus h hodd hs, bye_bonus h hodd ht] at hle
  have hq0 := (weight_bounds h hq.pairing).1
  have hp1 := (weight_bounds h hp).2
  have hP : 0 ≤ maxTotalPairWeight teams := le_trans (weight_bounds h hp).1 hp1
  obtain ⟨hkey, hgap⟩ := WeightedGraph.priority hq0 hp1 hle hP
  refine ⟨(sitOutRank_le hs ht).mp hkey, fun e => ?_⟩
  have hrank : sitOutRank teams item.meetings s = sitOutRank teams item.meetings t :=
    le_antisymm hkey ((sitOutRank_le ht hs).mpr e.ge)
  have hw := hgap hrank
  rw [weight_of_pairing h hq.pairing, weight_of_pairing h hp, hlen] at hw
  omega

theorem solution_even (heven : teams.length % 2 = 0) {qs : List (StageItemInput × StageItemInput)}
    (hq : IsLargestPairing item qs) : gapSum ps ≤ gapSum qs := by
  have hlen : qs.length = ps.length :=
    Nat.le_antisymm ((solution_largest h hM hp hps).largest qs hq.pairing) (hq.largest ps hp)
  rw [swissGraph_even heven] at hM
  have hMps : pairIdsOf ps = M := by
    rw [hps]
    exact WeightedGraph.without_eq_self (bye_not_matched h hM.matching)
  have hw := hM.heaviest _ (matching_of_pairing h hq.pairing) (by
    rw [← hMps]
    simpa [pairIdsOf] using hlen)
  rw [← hMps, weight_of_pairing h hq.pairing, weight_of_pairing h hp, hlen] at hw
  omega

end Solution

/-! ## 6. The returned pairs -/

/-- The same pairs in another order, some of them turned. -/
structure Reordered (ps qs : List (StageItemInput × StageItemInput)) : Prop where
  exists_turn : ∃ f : StageItemInput × StageItemInput → StageItemInput × StageItemInput,
    (∀ p, f p = p ∨ f p = p.swap) ∧ qs.Perm (ps.map f)

namespace Reordered

variable {item : StageItemWithRounds} {ps qs : List (StageItemInput × StageItemInput)}
  (h : Reordered ps qs)
include h

theorem endpoints : (endpoints qs).Perm (endpoints ps) := by
  obtain ⟨f, hf, hperm⟩ := h.exists_turn
  refine (endpoints_perm hperm).trans ?_
  clear hperm h
  induction ps with
  | nil => exact .refl _
  | cons p ps ih =>
    rw [List.map_cons, endpoints_cons, endpoints_cons]
    rcases hf p with e | e <;> rw [e]
    · exact (ih.cons _).cons _
    · exact (List.Perm.swap _ _ _).trans ((ih.cons _).cons _)

theorem length_eq : qs.length = ps.length := by
  obtain ⟨f, -, hperm⟩ := h.exists_turn
  rw [hperm.length_eq, List.length_map]

theorem gapSum_eq : gapSum qs = gapSum ps := by
  obtain ⟨f, hf, hperm⟩ := h.exists_turn
  rw [gapSum, (hperm.map _).sum_eq, List.map_map, gapSum]
  refine congrArg List.sum (List.map_congr_left fun p _ => ?_)
  rcases hf p with e | e <;> simp only [Function.comp, e]
  exact gap_comm _ _

theorem pairing (hp : IsPairing item ps) : IsPairing item qs where
  active t ht := hp.active t (h.endpoints.mem_iff.mp ht)
  disjoint := h.endpoints.nodup_iff.mpr hp.disjoint
  unplayed := by
    obtain ⟨f, hf, hperm⟩ := h.exists_turn
    intro q hq
    obtain ⟨p, hpm, rfl⟩ := List.mem_map.mp (hperm.mem_iff.mp hq)
    have hnot := hp.unplayed p hpm
    rcases hf p with e | e <;> rw [e]
    · exact hnot
    · rwa [← hasPlayed_iff, Prod.fst_swap, Prod.snd_swap, hasPlayed_symm, hasPlayed_iff]

theorem largest (hp : IsLargestPairing item ps) : IsLargestPairing item qs :=
  ⟨h.pairing hp.pairing, fun rs hr => h.length_eq ▸ hp.largest rs hr⟩

end Reordered

/-- The higher ranked team first. -/
def turn (teams : List StageItemInput) (p : StageItemInput × StageItemInput) :
    StageItemInput × StageItemInput :=
  if (rankById teams).getD p.1.id 0 < (rankById teams).getD p.2.id 0 then p else p.swap

theorem turn_or (teams : List StageItemInput) (p : StageItemInput × StageItemInput) :
    turn teams p = p ∨ turn teams p = p.swap := by
  unfold turn
  split
  · exact Or.inl rfl
  · exact Or.inr rfl

section Lookup

variable {item : StageItemWithRounds} {teams : List StageItemInput} (h : Standings item teams)
include h

/-- The place of a team, as `rank_by_id` has it. -/
theorem rankById_get? {t : StageItemInput} (ht : t ∈ teams) :
    (rankById teams).get? t.id = some ((rankById teams).getD t.id 0) := by
  have hkeys : ((teams.zipIdx.map fun t => (t.1.id, t.2)).map Prod.fst).Nodup := by
    have e : (teams.zipIdx.map fun t => (t.1.id, t.2)).map Prod.fst = teams.map (·.id) := by
      conv_rhs => rw [← List.zipIdx_map_fst 0 teams, List.map_map]
      rw [List.map_map]
      rfl
    rw [e]
    exact h.nodup_ids
  have hsome : ((rankById teams).get? t.id).isSome := by
    obtain ⟨i, hi⟩ := List.getElem?_of_mem ht
    rw [Dict.get?_isSome, Dict.keys, rankById, Dict.ofList_entries hkeys]
    exact List.mem_map.mpr ⟨(t.id, i), List.mem_map.mpr
      ⟨(t, i), List.mem_zipIdx_iff_getElem?.mpr hi, rfl⟩, rfl⟩
  obtain ⟨i, hi⟩ := Option.isSome_iff_exists.mp hsome
  rw [Dict.getD, hi, Option.getD_some]

theorem teamsById_get? {t : StageItemInput} (ht : t ∈ teams) :
    (teamsById teams).get? t.id = some t := by
  have hkeys : ((teams.map fun t => (t.id, t)).map Prod.fst).Nodup := by
    rw [List.map_map]
    exact h.nodup_ids
  rw [Dict.get?_eq_some, teamsById, Dict.ofList_entries hkeys]
  exact List.mem_map_of_mem ht

theorem orderPair_eq {p : StageItemInput × StageItemInput} (h1 : p.1 ∈ teams) (h2 : p.2 ∈ teams) :
    orderPair teams (p.1.id, p.2.id) = .ok ((rankById teams).getD (turn teams p).1.id 0,
      (turn teams p).1.id, (turn teams p).2.id) := by
  unfold orderPair turn
  rw [rankById_get? h h1, rankById_get? h h2]
  by_cases hlt : (rankById teams).getD p.1.id 0 < (rankById teams).getD p.2.id 0
  · simp [hlt, rankById_get? h h1]
  · simp [hlt, rankById_get? h h2]

theorem teamsOfPair_eq {p : StageItemInput × StageItemInput} (h1 : p.1 ∈ teams)
    (h2 : p.2 ∈ teams) : teamsOfPair teams (p.1.id, p.2.id) = .ok p := by
  unfold teamsOfPair
  rw [teamsById_get? h h1, teamsById_get? h h2]
  rfl

end Lookup

/-- **Every lookup succeeds, and the pairs are those of the solution.** -/
theorem getSwissPairing_eq {item : StageItemWithRounds} (hs : item.Sound)
    {maxWeightMatching : MatchingSolver} (shuffle : Shuffle)
    (hM : ∀ G : WeightedGraph StageItemInputId, G.IsMaxWeightMatching (maxWeightMatching G)) :
    ∃ ps qs, IsPairing item ps ∧ pairIdsOf ps = WeightedGraph.without BYE
        (maxWeightMatching (swissGraph (swissOrder shuffle item) item.meetings)) ∧
      Reordered ps qs ∧
      getSwissPairing maxWeightMatching shuffle item = .ok ⟨qs,
        (swissOrder shuffle item).filter fun t => !(endpoints (pairIdsOf qs)).contains t.id⟩ := by
  have h := swissOrder_standings hs shuffle
  obtain ⟨ps, hp, hps⟩ := pairing_of_matching h (solution_matching h (hM _)).1
  have hin : ∀ p ∈ ps, p.1 ∈ swissOrder shuffle item ∧ p.2 ∈ swissOrder shuffle item :=
    fun p hpm => ⟨h.perm.mem_iff.mpr (hp.active _ (mem_endpoints.mpr ⟨p, hpm, Or.inl rfl⟩)),
      h.perm.mem_iff.mpr (hp.active _ (mem_endpoints.mpr ⟨p, hpm, Or.inr rfl⟩))⟩
  generalize hteams : swissOrder shuffle item = teams at h hin hps ⊢
  let rank : StageItemInput × StageItemInput → Nat := fun p => (rankById teams).getD p.1.id 0
  let qs := (ps.map (turn teams)).insertionSort fun p q => rank p ≤ rank q
  have hqs : qs.Perm (ps.map (turn teams)) := List.perm_insertionSort _ _
  have hreord : Reordered ps qs := ⟨turn teams, turn_or teams, hqs⟩
  refine ⟨ps, qs, hp, hps, hreord, ?_⟩
  have hordered : (pairIdsOf ps).mapM (orderPair teams) =
      .ok ((ps.map (turn teams)).map fun q => (rank q, q.1.id, q.2.id)) := by
    rw [pairIdsOf, List.mapM_map, List.map_map]
    exact mapM_eq_ok fun p hpm => orderPair_eq h (hin p hpm).1 (hin p hpm).2
  have hsorted : (((ps.map (turn teams)).map fun q => (rank q, q.1.id, q.2.id)).insertionSort
      fun p q => p.1 ≤ q.1).map (·.2) = pairIdsOf qs := by
    let keyed : StageItemInput × StageItemInput → Nat × StageItemInputId × StageItemInputId :=
      fun q => (rank q, q.1.id, q.2.id)
    have hmap := List.map_insertionSort (fun p q => rank p ≤ rank q) (fun p q => p.1 ≤ q.1) keyed
      (ps.map (turn teams)) fun _ _ _ _ => Iff.rfl
    rw [← hmap, List.map_map]
    rfl
  have hpairs : (pairIdsOf qs).mapM (teamsOfPair teams) = .ok qs := by
    have hteam : ∀ q ∈ qs, teamsOfPair teams (q.1.id, q.2.id) = .ok (id q) := by
      intro q hq
      obtain ⟨p, hpm, rfl⟩ := List.mem_map.mp (hqs.mem_iff.mp hq)
      rcases turn_or teams p with e | e <;> rw [e]
      · exact teamsOfPair_eq h (hin p hpm).1 (hin p hpm).2
      · exact teamsOfPair_eq h (hin p hpm).2 (hin p hpm).1
    rw [pairIdsOf, List.mapM_map]
    exact (mapM_eq_ok hteam).trans (congrArg _ (List.map_id qs))
  have hfilter : ((maxWeightMatching (swissGraph teams item.meetings)).filter fun p =>
      p.1 != BYE && p.2 != BYE) = pairIdsOf ps := hps.symm
  unfold getSwissPairing
  rw [readMeetings_eq hs, ok_bind, hteams]
  dsimp only
  rw [hfilter, hordered, ok_bind, hsorted, hpairs, ok_bind]

end Brackets
