/-
  File:      Brackets/Library/Matching.lean
  Subject:   Matchings of a weighted graph, and a phantom node that takes the odd one out.

  A graph is the list of its edges in the order they were added. `IsMaxWeightMatching` is what a
  solver with maximum cardinality promises: as many edges as possible, and among those the
  greatest total weight.

  * `Phantom`: a graph over an odd number of nodes, and the same graph with one more node that is
    joined to all of them. `phantom_size` and `phantom_heaviest`: a maximum weight matching of the
    larger graph uses the phantom, and without it is as large as any matching of the smaller one;
    it weighs the edges against the bonus of the node that is left to the phantom.
  * `priority`: a bonus in multiples above any edge total decides before the edges do.
  * `searchMatching`: the search through all matchings, which keeps the promise on every graph.
-/
import Mathlib.Data.List.Dedup
import Mathlib.Algebra.BigOperators.Group.List.Basic
import Mathlib.Algebra.Order.Group.Int
import Mathlib.Tactic.Linarith
import Brackets.Library.Pairs

namespace Library

/-- An undirected graph with weights on its edges, in the order they were added. -/
structure WeightedGraph (α : Type) where
  nodes : List α
  edges : List (α × α × Int)

namespace WeightedGraph

variable {α : Type} [DecidableEq α]

/-- The edge has the two ends, in either order. -/
def joins (u v : α) (e : α × α × Int) : Bool :=
  (e.1 == u && e.2.1 == v) || (e.1 == v && e.2.1 == u)

/-- The weight of the edge between two nodes; an edge added again overrides. -/
def weight? (G : WeightedGraph α) (u v : α) : Option Int :=
  (G.edges.reverse.find? (joins u v)).map (·.2.2)

/-- The nodes of the graph; the ends of an edge are added with it. -/
def vertices (G : WeightedGraph α) : List α :=
  (G.nodes ++ G.edges.flatMap fun e => [e.1, e.2.1]).dedup

variable {G : WeightedGraph α}

theorem joins_symm (u v : α) (e : α × α × Int) : joins v u e = joins u v e := Bool.or_comm _ _

theorem weight?_symm (G : WeightedGraph α) (u v : α) : G.weight? v u = G.weight? u v := by
  rw [weight?, weight?, funext (joins_symm u v)]

theorem joins_iff {u v : α} {e : α × α × Int} :
    joins u v e ↔ e = (u, v, e.2.2) ∨ e = (v, u, e.2.2) := by
  obtain ⟨a, b, w⟩ := e
  simp [joins]

/-- No two edges between the same nodes differ in weight. -/
def Consistent (G : WeightedGraph α) : Prop :=
  ∀ {u v w w'}, (u, v, w) ∈ G.edges → (u, v, w') ∈ G.edges ∨ (v, u, w') ∈ G.edges → w = w'

theorem weight?_eq_some (h : G.Consistent) {u v : α} {w : Int} :
    G.weight? u v = some w ↔ (u, v, w) ∈ G.edges ∨ (v, u, w) ∈ G.edges := by
  constructor
  · intro hw
    obtain ⟨e, he, rfl⟩ := Option.map_eq_some_iff.mp hw
    have hm : e ∈ G.edges := List.mem_reverse.mp (List.mem_of_find?_eq_some he)
    rcases joins_iff.mp (List.find?_some he) with e' | e' <;> rw [e'] at hm
    · exact Or.inl hm
    · exact Or.inr hm
  · intro hw
    have key : ∀ e ∈ G.edges, joins u v e → e.2.2 = w := by
      intro e he hj
      rcases joins_iff.mp hj with e' | e' <;> rw [e'] at he
      · exact h he hw
      · exact h he hw.symm
    cases hf : G.edges.reverse.find? (joins u v) with
    | none =>
        have hno := List.find?_eq_none.mp hf
        rcases hw with hw | hw
        · exact absurd (joins_iff.mpr (Or.inl rfl)) (hno _ (List.mem_reverse.mpr hw))
        · exact absurd (joins_iff.mpr (Or.inr rfl)) (hno _ (List.mem_reverse.mpr hw))
    | some e =>
        rw [weight?, hf, Option.map_some,
          key e (List.mem_reverse.mp (List.mem_of_find?_eq_some hf)) (List.find?_some hf)]

/-- Only nodes are joined. -/
theorem mem_vertices {u v : α} (h : (G.weight? u v).isSome) : u ∈ G.vertices := by
  obtain ⟨w, hw⟩ := Option.isSome_iff_exists.mp h
  obtain ⟨e, he, -⟩ := Option.map_eq_some_iff.mp hw
  have hm : e ∈ G.edges := List.mem_reverse.mp (List.mem_of_find?_eq_some he)
  refine List.mem_dedup.mpr (List.mem_append_right _ (List.mem_flatMap.mpr ⟨e, hm, ?_⟩))
  rcases joins_iff.mp (List.find?_some he) with e' | e' <;> rw [e'] <;> simp

/-! ## 1. Matchings -/

/-- Edges of the graph without a common end. -/
structure IsMatching (G : WeightedGraph α) (M : List (α × α)) : Prop where
  joined : ∀ p ∈ M, (G.weight? p.1 p.2).isSome
  disjoint : (endpoints M).Nodup

/-- The total weight of a matching. -/
def weight (G : WeightedGraph α) (M : List (α × α)) : Int :=
  (M.map fun p => (G.weight? p.1 p.2).getD 0).sum

/-- The promise of a solver with maximum cardinality. -/
structure IsMaxWeightMatching (G : WeightedGraph α) (M : List (α × α)) : Prop where
  matching : G.IsMatching M
  size : ∀ M', G.IsMatching M' → M'.length ≤ M.length
  heaviest : ∀ M', G.IsMatching M' → M'.length = M.length → G.weight M' ≤ G.weight M

theorem weight_cons (G : WeightedGraph α) (p : α × α) (M : List (α × α)) :
    G.weight (p :: M) = (G.weight? p.1 p.2).getD 0 + G.weight M := by
  rw [weight, List.map_cons, List.sum_cons, weight]

theorem weight_perm (G : WeightedGraph α) {M N : List (α × α)} (h : M.Perm N) :
    G.weight M = G.weight N := (h.map _).sum_eq

theorem IsMatching.perm {M N : List (α × α)} (hM : G.IsMatching M) (h : M.Perm N) :
    G.IsMatching N :=
  ⟨fun p hp => hM.joined p (h.mem_iff.mpr hp), (endpoints_perm h).nodup_iff.mp hM.disjoint⟩

theorem IsMatching.tail {p : α × α} {M : List (α × α)} (h : G.IsMatching (p :: M)) :
    G.IsMatching M :=
  ⟨fun q hq => h.joined q (List.mem_cons_of_mem _ hq), h.disjoint.of_cons.of_cons⟩

theorem IsMatching.not_mem {p : α × α} {M : List (α × α)} (h : G.IsMatching (p :: M)) :
    p.1 ≠ p.2 ∧ p.1 ∉ endpoints M ∧ p.2 ∉ endpoints M := by
  have hd := h.disjoint
  rw [endpoints_cons, List.nodup_cons, List.nodup_cons, List.mem_cons, not_or] at hd
  exact ⟨hd.1.1, hd.1.2, hd.2.1⟩

theorem isMatching_cons {u v : α} {M : List (α × α)} (hj : (G.weight? u v).isSome) (huv : u ≠ v)
    (hM : G.IsMatching M) (hu : u ∉ endpoints M) (hv : v ∉ endpoints M) :
    G.IsMatching ((u, v) :: M) := by
  constructor
  · intro p hp
    rcases List.mem_cons.mp hp with rfl | hp
    · exact hj
    · exact hM.joined p hp
  · rw [endpoints_cons, List.nodup_cons, List.nodup_cons, List.mem_cons, not_or]
    exact ⟨⟨huv, hu⟩, hv, hM.disjoint⟩

theorem IsMatching.mem_vertices {M : List (α × α)} (h : G.IsMatching M) {a : α}
    (ha : a ∈ endpoints M) : a ∈ G.vertices := by
  obtain ⟨p, hp, rfl | rfl⟩ := mem_endpoints.mp ha
  · exact WeightedGraph.mem_vertices (h.joined p hp)
  · exact WeightedGraph.mem_vertices (G.weight?_symm _ _ ▸ h.joined p hp)

/-! ## 2. Leaving one node out -/

/-- The edges that do not end in a node. -/
def without (b : α) (M : List (α × α)) : List (α × α) := M.filter fun p => p.1 != b && p.2 != b

theorem without_sublist (b : α) (M : List (α × α)) : (without b M).Sublist M :=
  List.filter_sublist

theorem without_eq_self {b : α} {M : List (α × α)} (h : b ∉ endpoints M) : without b M = M := by
  refine List.filter_eq_self.mpr fun p hp => ?_
  have h1 : p.1 ≠ b := fun e => h (mem_endpoints.mpr ⟨p, hp, Or.inl e.symm⟩)
  have h2 : p.2 ≠ b := fun e => h (mem_endpoints.mpr ⟨p, hp, Or.inr e.symm⟩)
  simp [h1, h2]

theorem not_mem_endpoints_without (b : α) (M : List (α × α)) : b ∉ endpoints (without b M) := by
  intro h
  obtain ⟨p, hp, e⟩ := mem_endpoints.mp h
  have := (List.mem_filter.mp hp).2
  rcases e with rfl | rfl <;> simp at this

theorem IsMatching.without {M : List (α × α)} (h : G.IsMatching M) (b : α) :
    G.IsMatching (without b M) :=
  ⟨fun p hp => h.joined p ((without_sublist b M).subset hp),
    h.disjoint.sublist (endpoints_sublist (without_sublist b M))⟩

/-- **A matched node has one partner**, and the other edges are the ones that do not end in it. -/
theorem IsMatching.partner {M : List (α × α)} (h : G.IsMatching M) {b : α}
    (hb : b ∈ endpoints M) :
    ∃ t ∈ endpoints M, (G.weight? t b).isSome ∧ t ≠ b ∧
      t ∉ endpoints (WeightedGraph.without b M) ∧
      M.length = (WeightedGraph.without b M).length + 1 ∧
      G.weight M = (G.weight? t b).getD 0 + G.weight (WeightedGraph.without b M) := by
  obtain ⟨p, hp, hpb⟩ := mem_endpoints.mp hb
  have hperm := List.perm_cons_erase hp
  have hcons := h.perm hperm
  obtain ⟨hne, h1, h2⟩ := hcons.not_mem
  have hrest : b ∉ endpoints (M.erase p) := by
    rcases hpb with rfl | rfl
    · exact h1
    · exact h2
  have hw : (WeightedGraph.without b M).Perm (M.erase p) := by
    have hf := hperm.filter fun q => q.1 != b && q.2 != b
    rw [List.filter_cons_of_neg (by rcases hpb with rfl | rfl <;> simp)] at hf
    have hs := without_eq_self hrest
    rw [WeightedGraph.without] at hs
    rwa [hs] at hf
  have hlen : M.length = (WeightedGraph.without b M).length + 1 := by
    rw [hperm.length_eq, List.length_cons, hw.length_eq]
  have hweight : G.weight M = (G.weight? p.1 p.2).getD 0 +
      G.weight (WeightedGraph.without b M) := by
    rw [G.weight_perm hperm, weight_cons, G.weight_perm hw]
  have hends := endpoints_perm hw
  rcases hpb with rfl | rfl
  · refine ⟨p.2, mem_endpoints.mpr ⟨p, hp, Or.inr rfl⟩, ?_, hne.symm, fun hm => h2 (hends.mem_iff.mp hm), hlen, ?_⟩
    · exact G.weight?_symm _ _ ▸ h.joined p hp
    · rw [hweight, G.weight?_symm]
  · exact ⟨p.1, mem_endpoints.mpr ⟨p, hp, Or.inl rfl⟩, h.joined p hp, hne, fun hm => h1 (hends.mem_iff.mp hm), hlen, hweight⟩

/-! ## 3. The phantom node -/

/-- `G'` is `G` over the nodes `V` with one more node `b`, joined to all of them. -/
structure Phantom (G G' : WeightedGraph α) (V : List α) (b : α) (bonus : α → Int) : Prop where
  nodup : V.Nodup
  odd : V.length % 2 = 1
  new : b ∉ V
  inside : ∀ {u v}, (G.weight? u v).isSome → u ∈ V
  same : ∀ {u v}, u ≠ b → v ≠ b → G'.weight? u v = G.weight? u v
  toPhantom : ∀ {t}, t ∈ V → G'.weight? t b = some (bonus t)
  only : ∀ {t}, (G'.weight? t b).isSome → t ∈ V

namespace Phantom

variable {G' : WeightedGraph α} {V : List α} {b : α} {bonus : α → Int} {M : List (α × α)}

theorem mem_of_matching (h : Phantom G G' V b bonus) (hM : G.IsMatching M) {a : α}
    (ha : a ∈ endpoints M) : a ∈ V := by
  obtain ⟨p, hp, rfl | rfl⟩ := mem_endpoints.mp ha
  · exact h.inside (hM.joined p hp)
  · exact h.inside (G.weight?_symm _ _ ▸ hM.joined p hp)

theorem not_mem_of_matching (h : Phantom G G' V b bonus) (hM : G.IsMatching M) :
    b ∉ endpoints M := fun hb => h.new (h.mem_of_matching hM hb)

theorem weight?_of_not_mem (h : Phantom G G' V b bonus) (hb : b ∉ endpoints M) {p : α × α}
    (hp : p ∈ M) : G'.weight? p.1 p.2 = G.weight? p.1 p.2 :=
  h.same (fun e => hb (mem_endpoints.mpr ⟨p, hp, Or.inl e.symm⟩))
    fun e => hb (mem_endpoints.mpr ⟨p, hp, Or.inr e.symm⟩)

/-- Away from the phantom, both graphs have the same matchings. -/
theorem matching_iff (h : Phantom G G' V b bonus) (hb : b ∉ endpoints M) :
    G'.IsMatching M ↔ G.IsMatching M := by
  constructor
  · exact fun hM => ⟨fun p hp => h.weight?_of_not_mem hb hp ▸ hM.joined p hp, hM.disjoint⟩
  · exact fun hM => ⟨fun p hp => (h.weight?_of_not_mem hb hp).symm ▸ hM.joined p hp, hM.disjoint⟩

theorem weight_eq (h : Phantom G G' V b bonus) (hb : b ∉ endpoints M) :
    G'.weight M = G.weight M := by
  rw [weight, weight]
  refine congrArg List.sum (List.map_congr_left fun p hp => ?_)
  rw [h.weight?_of_not_mem hb hp]

theorem exists_unmatched (h : Phantom G G' V b bonus) (hM : G.IsMatching M) :
    ∃ t ∈ V, t ∉ endpoints M :=
  exists_not_endpoint h.nodup h.odd hM.disjoint fun _ ha => h.mem_of_matching hM ha

/-- The node a matching leaves over can be given to the phantom. -/
theorem add (h : Phantom G G' V b bonus) (hM : G.IsMatching M) {t : α} (ht : t ∈ V)
    (hfree : t ∉ endpoints M) :
    G'.IsMatching ((t, b) :: M) ∧ G'.weight ((t, b) :: M) = bonus t + G.weight M := by
  have hb := h.not_mem_of_matching hM
  have htb : t ≠ b := fun e => h.new (e ▸ ht)
  constructor
  · refine isMatching_cons ?_ htb ((h.matching_iff hb).mpr hM) hfree hb
    rw [h.toPhantom ht]
    rfl
  · rw [weight_cons, h.toPhantom ht, h.weight_eq hb]
    rfl

section Maximum

variable {M' : List (α × α)} (h : Phantom G G' V b bonus) (hM' : G'.IsMaxWeightMatching M')
include h hM'

/-- **A maximum matching uses the phantom.** If it did not, a node would be left over, because
    their number is odd, and could be given to the phantom. -/
theorem phantom_matched : b ∈ endpoints M' := by
  by_contra hb
  have hM := (h.matching_iff hb).mp hM'.matching
  obtain ⟨t, ht, hfree⟩ := h.exists_unmatched hM
  have hle := hM'.size _ (h.add hM ht hfree).1
  rw [List.length_cons] at hle
  omega

theorem matching_without : G.IsMatching (without b M') :=
  (h.matching_iff (not_mem_endpoints_without b M')).mp (hM'.matching.without b)

/-- **Without the phantom the matching is as large as any.** -/
theorem phantom_size {N : List (α × α)} (hN : G.IsMatching N) :
    N.length ≤ (without b M').length := by
  obtain ⟨t, ht, hfree⟩ := h.exists_unmatched hN
  have hle := hM'.size _ (h.add hN ht hfree).1
  obtain ⟨-, -, -, -, -, hlen, -⟩ := hM'.matching.partner (h.phantom_matched hM')
  rw [List.length_cons] at hle
  omega

/-- **The phantom's partner and the edges together are the best**, against every matching of the
    same size and every node it leaves over. -/
theorem phantom_heaviest : ∃ t ∈ V, t ∉ endpoints (without b M') ∧
    ∀ N, G.IsMatching N → N.length = (without b M').length → ∀ s ∈ V, s ∉ endpoints N →
      bonus s + G.weight N ≤ bonus t + G.weight (without b M') := by
  obtain ⟨t, -, hj, -, hfree, hlen, hweight⟩ := hM'.matching.partner (h.phantom_matched hM')
  have ht := h.only hj
  refine ⟨t, ht, hfree, fun N hN hNlen s hs hsN => ?_⟩
  have hle := hM'.heaviest _ (h.add hN hs hsN).1 (by rw [List.length_cons]; omega)
  rw [(h.add hN hs hsN).2, hweight, h.toPhantom ht, Option.getD_some,
    h.weight_eq (not_mem_endpoints_without b M')] at hle
  exact hle

end Maximum

end Phantom

/-- **Priorities in one number**: multiples above every total of the lower priority decide first,
    and where they are level the lower priority decides. -/
theorem priority {P k k' x x' : Int} (hx : 0 ≤ x) (hx' : x' ≤ P)
    (h : (P + 1) * k + x ≤ (P + 1) * k' + x') (hP : 0 ≤ P) : k ≤ k' ∧ (k = k' → x ≤ x') := by
  refine ⟨?_, fun e => by subst e; omega⟩
  by_contra hlt
  have hstep : (P + 1) * (k' + 1) ≤ (P + 1) * k :=
    Int.mul_le_mul_of_nonneg_left (by omega) (by omega)
  rw [Int.mul_add, Int.mul_one] at hstep
  omega

/-! ## 4. The search -/

/-- All matchings of the nodes of a list, up to the order of the edges and of their ends. -/
def matchings (G : WeightedGraph α) : Nat → List α → List (List (α × α))
  | 0, _ => [[]]
  | _ + 1, [] => [[]]
  | n + 1, v :: vs => matchings G n vs ++ vs.flatMap fun u =>
      if (G.weight? v u).isSome then (matchings G n (vs.erase u)).map ((v, u) :: ·) else []

/-- More edges, or as many and more weight. -/
def Better (G : WeightedGraph α) (M N : List (α × α)) : Prop :=
  N.length < M.length ∨ N.length = M.length ∧ G.weight N < G.weight M

instance (G : WeightedGraph α) (M N : List (α × α)) : Decidable (G.Better M N) :=
  inferInstanceAs (Decidable (_ ∨ _))

def keepBetter (G : WeightedGraph α) (M N : List (α × α)) : List (α × α) :=
  if G.Better N M then N else M

/-- A best matching, found by search. -/
def searchMatching (G : WeightedGraph α) : List (α × α) :=
  (matchings G G.vertices.length G.vertices).foldl G.keepBetter []

/-- The matching without edges. -/
theorem of_mem_nil {M : List (α × α)} {vs : List α} (h : M ∈ [[]]) :
    G.IsMatching M ∧ ∀ a ∈ endpoints M, a ∈ vs := by
  rw [List.mem_singleton.mp h]
  exact ⟨⟨fun _ hp => absurd hp List.not_mem_nil, List.nodup_nil⟩,
    fun _ ha => absurd ha List.not_mem_nil⟩

theorem matchings_sound {n : Nat} {vs : List α} (hvs : vs.Nodup) {M : List (α × α)}
    (h : M ∈ matchings G n vs) : G.IsMatching M ∧ ∀ a ∈ endpoints M, a ∈ vs := by
  induction n generalizing vs M with
  | zero => exact of_mem_nil h
  | succ n ih =>
    cases vs with
    | nil => exact of_mem_nil h
    | cons v vs =>
      rw [List.nodup_cons] at hvs
      rcases List.mem_append.mp h with h | h
      · have hM := ih hvs.2 h
        exact ⟨hM.1, fun a ha => List.mem_cons_of_mem _ (hM.2 a ha)⟩
      · obtain ⟨u, hu, h⟩ := List.mem_flatMap.mp h
        split at h
        · next hj =>
          obtain ⟨N, hN, rfl⟩ := List.mem_map.mp h
          have hN := ih (hvs.2.erase u) hN
          have hends : ∀ a ∈ endpoints N, a ≠ u ∧ a ∈ vs := fun a ha =>
            hvs.2.mem_erase_iff.mp (hN.2 a ha)
          refine ⟨isMatching_cons hj (fun e => hvs.1 (e ▸ hu)) hN.1
            (fun hm => hvs.1 (hends v hm).2) fun hm => (hends u hm).1 rfl, fun a ha => ?_⟩
          rw [endpoints_cons, List.mem_cons, List.mem_cons] at ha
          rcases ha with rfl | rfl | ha
          · exact List.mem_cons_self
          · exact List.mem_cons_of_mem _ hu
          · exact List.mem_cons_of_mem _ (hends a ha).2
        · exact absurd h List.not_mem_nil

theorem matchings_complete {n : Nat} {vs : List α} (hn : vs.length ≤ n) (hvs : vs.Nodup)
    {M : List (α × α)} (hM : G.IsMatching M) (hs : ∀ a ∈ endpoints M, a ∈ vs) :
    ∃ N ∈ matchings G n vs, N.length = M.length ∧ G.weight N = G.weight M := by
  induction n generalizing vs M with
  | zero =>
    rw [List.length_eq_zero_iff.mp (Nat.le_zero.mp hn)] at hs
    rw [eq_nil_of_endpoints hs]
    exact ⟨[], List.mem_singleton_self _, rfl, rfl⟩
  | succ n ih =>
    cases vs with
    | nil =>
      rw [eq_nil_of_endpoints hs]
      exact ⟨[], List.mem_singleton_self _, rfl, rfl⟩
    | cons v vs =>
      rw [List.nodup_cons] at hvs
      rw [List.length_cons] at hn
      have htail : ∀ {a : α}, a ∈ endpoints M → a ≠ v → a ∈ vs := fun ha hav =>
        (List.mem_cons.mp (hs _ ha)).resolve_left hav
      by_cases hv : v ∈ endpoints M
      · obtain ⟨u, hu, hj, huv, hfree, hlen, hw⟩ := hM.partner hv
        have hu' : u ∈ vs := htail hu huv
        have hrest : ∀ a ∈ endpoints (without v M), a ∈ vs.erase u := fun a ha => by
          have ha' := (endpoints_sublist (without_sublist v M)).subset ha
          have hav : a ≠ v := fun e => not_mem_endpoints_without v M (e ▸ ha)
          have hau : a ≠ u := fun e => hfree (e ▸ ha)
          exact hvs.2.mem_erase_iff.mpr ⟨hau, htail ha' hav⟩
        obtain ⟨N, hN, hNl, hNw⟩ := ih (by rw [List.length_erase_of_mem hu']; omega)
          (hvs.2.erase u) (hM.without v) hrest
        refine ⟨(v, u) :: N, List.mem_append_right _ (List.mem_flatMap.mpr ⟨u, hu', ?_⟩), ?_, ?_⟩
        · rw [if_pos (G.weight?_symm _ _ ▸ hj)]
          exact List.mem_map.mpr ⟨N, hN, rfl⟩
        · rw [List.length_cons, hNl, hlen]
        · rw [weight_cons, hNw, hw, G.weight?_symm]
      · obtain ⟨N, hN, h⟩ := ih (by omega) hvs.2 hM fun a ha => htail ha fun e => hv (e ▸ ha)
        exact ⟨N, List.mem_append_left _ hN, h⟩

theorem not_better_keepBetter (M N L : List (α × α)) (h : ¬ G.Better L M ∨ L = N) :
    ¬ G.Better L (G.keepBetter M N) := by
  unfold keepBetter
  split
  · next hN =>
    rcases h with h | rfl
    · unfold Better at *
      omega
    · unfold Better
      omega
  · next hN =>
    rcases h with h | rfl
    · exact h
    · exact hN

theorem foldl_keepBetter (Ms : List (List (α × α))) (M : List (α × α)) :
    Ms.foldl G.keepBetter M ∈ M :: Ms ∧
      ∀ N ∈ M :: Ms, ¬ G.Better N (Ms.foldl G.keepBetter M) := by
  induction Ms generalizing M with
  | nil =>
    refine ⟨List.mem_singleton_self M, fun N hN => ?_⟩
    obtain rfl := List.mem_singleton.mp hN
    unfold Better
    simp
  | cons N Ms ih =>
    obtain ⟨hmem, hbest⟩ := ih (G.keepBetter M N)
    rw [List.foldl_cons]
    refine ⟨?_, fun L hL => ?_⟩
    · rcases List.mem_cons.mp hmem with h | h
      · rw [h, keepBetter]
        split <;> simp
      · exact List.mem_cons_of_mem _ (List.mem_cons_of_mem _ h)
    · have hkept : ¬ G.Better (G.keepBetter M N) (Ms.foldl G.keepBetter (G.keepBetter M N)) :=
        hbest _ List.mem_cons_self
      rcases List.mem_cons.mp hL with rfl | hL
      · have hself : ¬ G.Better L (G.keepBetter L N) :=
          not_better_keepBetter L N L (Or.inl (by unfold Better; simp))
        unfold Better at *
        omega
      · rcases List.mem_cons.mp hL with rfl | hL
        · have hnew : ¬ G.Better L (G.keepBetter M L) := not_better_keepBetter M L L (Or.inr rfl)
          unfold Better at *
          omega
        · exact hbest L (List.mem_cons_of_mem _ hL)

/-- **The search keeps the promise on every graph.** -/
theorem searchMatching_spec (G : WeightedGraph α) : G.IsMaxWeightMatching (searchMatching G) := by
  have hvs : G.vertices.Nodup := List.nodup_dedup _
  obtain ⟨hmem, hbest⟩ := foldl_keepBetter (G := G) (matchings G G.vertices.length G.vertices) []
  have hsound : G.IsMatching (searchMatching G) := by
    rcases List.mem_cons.mp hmem with h | h
    · rw [searchMatching, h]
      exact ⟨fun _ hp => absurd hp List.not_mem_nil, List.nodup_nil⟩
    · exact (matchings_sound hvs h).1
  have best : ∀ N, G.IsMatching N → N.length < (searchMatching G).length ∨
      N.length = (searchMatching G).length ∧ G.weight N ≤ G.weight (searchMatching G) := by
    intro N hN
    obtain ⟨N', hN', hl, hw⟩ := matchings_complete le_rfl hvs hN fun _ => hN.mem_vertices
    have hno := hbest N' (List.mem_cons_of_mem _ hN')
    unfold Better at hno
    rw [hl, hw] at hno
    unfold searchMatching
    omega
  refine ⟨hsound, fun N hN => ?_, fun N hN hl => ?_⟩
  · rcases best N hN with h | h
    · exact Nat.le_of_lt h
    · exact Nat.le_of_eq h.1
  · rcases best N hN with h | h
    · omega
    · exact h.2

end WeightedGraph

end Library
