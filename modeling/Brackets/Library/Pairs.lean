/-
  File:      Brackets/Library/Pairs.lean
  Subject:   Pairs of the elements of a list.

  * `pairsInOrder`: every element with every later one, as two nested loops meet them;
  * `endpoints`: the elements a list of pairs touches. Pairs are disjoint when their endpoints
    have no duplicates; `exists_not_endpoint` is the parity fact: disjoint pairs never cover an
    odd number of elements.
-/
import Mathlib.Data.List.Flatten
import Mathlib.Data.List.Nodup
import Mathlib.Data.List.Perm.Subperm
import Mathlib.Algebra.Group.Nat.Even

namespace Library

variable {α : Type}

/-! ## 1. Every two elements -/

/-- Every element with every later one, as the two nested loops meet them. -/
def pairsInOrder : List α → List (α × α)
  | [] => []
  | a :: l => l.map (a, ·) ++ pairsInOrder l

theorem pairsInOrder_map {β : Type} (f : α → β) (l : List α) :
    pairsInOrder (l.map f) = (pairsInOrder l).map (Prod.map f f) := by
  induction l with
  | nil => rfl
  | cons a l ih =>
    rw [List.map_cons, pairsInOrder, pairsInOrder, ih, List.map_append, List.map_map, List.map_map]
    rfl

theorem mem_of_mem_pairsInOrder {l : List α} {p : α × α} (h : p ∈ pairsInOrder l) :
    p.1 ∈ l ∧ p.2 ∈ l := by
  induction l with
  | nil => exact absurd h List.not_mem_nil
  | cons a l ih =>
    rcases List.mem_append.mp h with h | h
    · obtain ⟨b, hb, rfl⟩ := List.mem_map.mp h
      exact ⟨List.mem_cons_self, List.mem_cons_of_mem _ hb⟩
    · exact ⟨List.mem_cons_of_mem _ (ih h).1, List.mem_cons_of_mem _ (ih h).2⟩

/-- Two different elements meet in one order or the other. -/
theorem mem_pairsInOrder_or {l : List α} {a b : α} (ha : a ∈ l) (hb : b ∈ l) (hab : a ≠ b) :
    (a, b) ∈ pairsInOrder l ∨ (b, a) ∈ pairsInOrder l := by
  induction l with
  | nil => exact absurd ha List.not_mem_nil
  | cons c l ih =>
    rw [pairsInOrder]
    rcases List.mem_cons.mp ha with rfl | ha'
    · have hb' : b ∈ l := (List.mem_cons.mp hb).resolve_left (Ne.symm hab)
      exact Or.inl (List.mem_append_left _ (List.mem_map.mpr ⟨b, hb', rfl⟩))
    · rcases List.mem_cons.mp hb with rfl | hb'
      · exact Or.inr (List.mem_append_left _ (List.mem_map.mpr ⟨a, ha', rfl⟩))
      · exact (ih ha' hb').imp (List.mem_append_right _) (List.mem_append_right _)

theorem ne_of_mem_pairsInOrder {l : List α} (hl : l.Nodup) {p : α × α}
    (h : p ∈ pairsInOrder l) : p.1 ≠ p.2 := by
  induction l with
  | nil => exact absurd h List.not_mem_nil
  | cons a l ih =>
    rw [List.nodup_cons] at hl
    rcases List.mem_append.mp h with h | h
    · obtain ⟨b, hb, rfl⟩ := List.mem_map.mp h
      exact fun e : a = b => hl.1 (e ▸ hb)
    · exact ih hl.2 h

/-- The pairs follow the order of the list. -/
theorem pairwise_of_mem_pairsInOrder {r : α → α → Prop} {l : List α} (hl : l.Pairwise r)
    {p : α × α} (h : p ∈ pairsInOrder l) : r p.1 p.2 := by
  induction l with
  | nil => exact absurd h List.not_mem_nil
  | cons a l ih =>
    rw [List.pairwise_cons] at hl
    rcases List.mem_append.mp h with h | h
    · obtain ⟨b, hb, rfl⟩ := List.mem_map.mp h
      exact hl.1 b hb
    · exact ih hl.2 h

/-! ## 2. Endpoints -/

/-- The elements that pairs touch, pair by pair. -/
def endpoints (ps : List (α × α)) : List α := ps.flatMap fun p => [p.1, p.2]

@[simp] theorem endpoints_nil : endpoints ([] : List (α × α)) = [] := rfl

@[simp] theorem endpoints_cons (p : α × α) (ps : List (α × α)) :
    endpoints (p :: ps) = p.1 :: p.2 :: endpoints ps := rfl

theorem mem_endpoints {ps : List (α × α)} {a : α} :
    a ∈ endpoints ps ↔ ∃ p ∈ ps, a = p.1 ∨ a = p.2 := by
  simp [endpoints, List.mem_flatMap]

theorem ne_of_mem_of_nodup {ps : List (α × α)} (hd : (endpoints ps).Nodup) {p : α × α}
    (hp : p ∈ ps) : p.1 ≠ p.2 := by
  induction ps with
  | nil => exact absurd hp List.not_mem_nil
  | cons q ps ih =>
    rw [endpoints_cons, List.nodup_cons, List.nodup_cons] at hd
    rcases List.mem_cons.mp hp with rfl | hp
    · exact fun e => hd.1 (e ▸ List.mem_cons_self)
    · exact ih hd.2.2 hp

/-- Pairs without common endpoints are disjoint. -/
theorem pairwise_of_endpoints {ps : List (α × α)} (hd : (endpoints ps).Nodup) :
    ps.Pairwise fun p q => ∀ a, a = p.1 ∨ a = p.2 → ¬ (a = q.1 ∨ a = q.2) := by
  induction ps with
  | nil => exact List.Pairwise.nil
  | cons p ps ih =>
    rw [endpoints_cons, List.nodup_cons, List.nodup_cons] at hd
    refine List.Pairwise.cons (fun q hq a ha haq => ?_) (ih hd.2.2)
    have hmem : a ∈ endpoints ps := mem_endpoints.mpr ⟨q, hq, haq⟩
    rcases ha with rfl | rfl
    · exact hd.1 (List.mem_cons_of_mem _ hmem)
    · exact hd.2.1 hmem

theorem length_endpoints (ps : List (α × α)) : (endpoints ps).length = 2 * ps.length := by
  induction ps with
  | nil => rfl
  | cons p ps ih =>
    rw [endpoints_cons, List.length_cons, List.length_cons, ih, List.length_cons]
    omega

theorem endpoints_perm {ps qs : List (α × α)} (h : ps.Perm qs) :
    (endpoints ps).Perm (endpoints qs) := h.flatMap_right _

theorem endpoints_map {β : Type} (f : α → β) (ps : List (α × α)) :
    endpoints (ps.map fun p => (f p.1, f p.2)) = (endpoints ps).map f := by
  induction ps with
  | nil => rfl
  | cons p ps ih =>
    rw [List.map_cons, endpoints_cons, ih, endpoints_cons, List.map_cons, List.map_cons]

theorem endpoints_sublist {ps qs : List (α × α)} (h : ps.Sublist qs) :
    (endpoints ps).Sublist (endpoints qs) := List.Sublist.flatMap h _

theorem eq_nil_of_endpoints {ps : List (α × α)} (h : ∀ a ∈ endpoints ps, a ∈ ([] : List α)) :
    ps = [] := by
  cases ps with
  | nil => rfl
  | cons p ps => exact absurd (h p.1 List.mem_cons_self) List.not_mem_nil

variable {l : List α} {ps : List (α × α)}

/-- Disjoint pairs within a list are at most half as many as its elements. -/
theorem length_le_half (hd : (endpoints ps).Nodup) (hs : ∀ a ∈ endpoints ps, a ∈ l) :
    ps.length ≤ l.length / 2 := by
  have h := (hd.subperm hs).length_le
  rw [length_endpoints] at h
  omega

/-- **Disjoint pairs never cover an odd number of elements.** -/
theorem exists_not_endpoint (hl : l.Nodup) (hodd : l.length % 2 = 1)
    (hd : (endpoints ps).Nodup) (hs : ∀ a ∈ endpoints ps, a ∈ l) : ∃ a ∈ l, a ∉ endpoints ps := by
  by_contra hno
  have hcover : ∀ a ∈ l, a ∈ endpoints ps := fun a ha => by
    by_contra h
    exact hno ⟨a, ha, h⟩
  have hperm := (hl.subperm hcover).antisymm (hd.subperm hs)
  have hlen := hperm.length_eq
  rw [length_endpoints] at hlen
  omega

/-- A part of a list and what the part leaves of it. -/
theorem perm_append_rest {part rest : List α} (hl : l.Nodup) (hp : part.Nodup)
    (hs : ∀ a ∈ part, a ∈ l) (hr : rest.Nodup) (hrest : ∀ a, a ∈ rest ↔ a ∈ l ∧ a ∉ part) :
    (part ++ rest).Perm l := by
  have hd : (part ++ rest).Nodup := List.nodup_append.mpr
    ⟨hp, hr, fun a ha b hb e => ((hrest b).mp hb).2 (e ▸ ha)⟩
  refine (List.perm_ext_iff_of_nodup hd hl).mpr fun a => ?_
  rw [List.mem_append, hrest]
  constructor
  · rintro (ha | ha)
    · exact hs a ha
    · exact ha.1
  · intro ha
    by_cases hpart : a ∈ part
    · exact Or.inl hpart
    · exact Or.inr ⟨ha, hpart⟩

end Library
