/-
  File:      Brackets/Library/Cursor.lean
  Subject:   A cursor that moves along a sorted list.

  * `Cursor`: items in strict order, one of them current. Its neighbours are found by comparing, not
    by counting: `neighbour`.
  * `Cursor.Step`: items are added at the end, or the cursor moves to a neighbour.
  * `Cursor.Steps.position`: over any run the position changes by the moves forward less the moves
    back.
-/
import Mathlib.Algebra.BigOperators.Group.List.Basic
import Mathlib.Algebra.Ring.Int.Defs
import Mathlib.Data.List.Basic
import Mathlib.Order.Lattice

namespace Library

/-- Items in strict order, and one of them. -/
structure Cursor (α : Type) [LinearOrder α] where
  items : List α
  sorted : items.Pairwise (· < ·)
  current : α
  mem : current ∈ items

namespace Cursor

variable {α : Type} [LinearOrder α]

inductive Move where
  | forward
  | back
  deriving DecidableEq, Repr

def Move.shift : Move → Int
  | .forward => 1
  | .back => -1

/-! ## 1. Neighbours -/

/-- The first item above `a`, or the last one below it. -/
def neighbour (l : List α) (a : α) : Move → Option α
  | .forward => l.find? fun x => a < x
  | .back => (l.filter fun x => x < a).getLast?

def position (c : Cursor α) : Nat := c.items.idxOf c.current

section Split

variable {before after : List α} {a b : α}

theorem idxOf_split (h : (before ++ a :: after).Pairwise (· < ·)) :
    (before ++ a :: after).idxOf a = before.length := by
  have hnot : a ∉ before := fun ha =>
    absurd ((List.pairwise_append.mp h).2.2 a ha a List.mem_cons_self) (lt_irrefl a)
  rw [List.idxOf_append_of_notMem hnot, List.idxOf_cons_self, Nat.add_zero]

theorem neighbour_forward (h : (before ++ a :: after).Pairwise (· < ·)) :
    neighbour (before ++ a :: after) a .forward = after.head? := by
  obtain ⟨-, hafter, hcross⟩ := List.pairwise_append.mp h
  have hbefore : before.find? (fun x => decide (a < x)) = none := by
    refine List.find?_eq_none.mpr fun x hx => ?_
    have hlt : x < a := hcross x hx a List.mem_cons_self
    simpa using hlt.le
  show (before ++ a :: after).find? (fun x => decide (a < x)) = after.head?
  rw [List.find?_append, hbefore, Option.none_or, List.find?_cons_of_neg (by simp)]
  cases after with
  | nil => rfl
  | cons b rest =>
    have hlt : a < b := (List.pairwise_cons.mp hafter).1 b List.mem_cons_self
    rw [List.find?_cons_of_pos (by simpa using hlt), List.head?_cons]

theorem neighbour_back (h : (before ++ a :: after).Pairwise (· < ·)) :
    neighbour (before ++ a :: after) a .back = before.getLast? := by
  obtain ⟨-, hafter, hcross⟩ := List.pairwise_append.mp h
  have hbefore : before.filter (fun x => decide (x < a)) = before := by
    refine List.filter_eq_self.mpr fun x hx => ?_
    simpa using hcross x hx a List.mem_cons_self
  have hrest : (a :: after).filter (fun x => decide (x < a)) = [] := by
    refine List.filter_eq_nil_iff.mpr fun x hx => ?_
    have hle : a ≤ x := (List.mem_cons.mp hx).elim (fun e => e.symm.le) fun hx =>
      ((List.pairwise_cons.mp hafter).1 x hx).le
    simpa using hle
  show ((before ++ a :: after).filter fun x => decide (x < a)).getLast? = before.getLast?
  rw [List.filter_append, hbefore, hrest, List.append_nil]

end Split

/-- **A neighbour stands one position further.** -/
theorem idxOf_neighbour {l : List α} (hl : l.Pairwise (· < ·)) {a b : α} (ha : a ∈ l) {m : Move}
    (h : neighbour l a m = some b) : (l.idxOf b : Int) = l.idxOf a + m.shift := by
  obtain ⟨before, after, rfl⟩ := List.append_of_mem ha
  cases m with
  | forward =>
    rw [neighbour_forward hl] at h
    obtain ⟨rest, rfl⟩ := List.head?_eq_some_iff.mp h
    rw [idxOf_split hl]
    have hb : (before ++ a :: b :: rest).idxOf b = (before ++ [a]).length := by
      rw [List.append_cons before a (b :: rest)] at hl ⊢
      exact idxOf_split hl
    rw [hb, List.length_append, Move.shift]
    simp
  | back =>
    rw [neighbour_back hl] at h
    obtain ⟨front, rfl⟩ := List.getLast?_eq_some_iff.mp h
    rw [idxOf_split hl]
    have hb : (front ++ [b] ++ a :: after).idxOf b = front.length := by
      rw [← List.append_cons front b (a :: after)] at hl ⊢
      exact idxOf_split hl
    rw [hb, List.length_append, Move.shift]
    simp

theorem neighbour_mem {l : List α} {a b : α} {m : Move} (h : neighbour l a m = some b) : b ∈ l := by
  cases m with
  | forward => exact List.mem_of_find?_eq_some h
  | back => exact (List.mem_filter.mp (List.mem_of_getLast? h)).1

/-! ## 2. Runs -/

/-- Items are added at the end, or the cursor moves; with the change of the position. -/
inductive Step : Int → Cursor α → Cursor α → Prop
  | append {c d : Cursor α} (more : List α) (items : d.items = c.items ++ more)
      (current : d.current = c.current) : Step 0 c d
  | move {c d : Cursor α} (m : Move) (items : d.items = c.items)
      (current : neighbour c.items c.current m = some d.current) : Step m.shift c d

/-- Any number of steps, with their changes. -/
inductive Steps : List Int → Cursor α → Cursor α → Prop
  | refl (c : Cursor α) : Steps [] c c
  | cons {n : Int} {ns : List Int} {c d e : Cursor α} (first : Step n c d) (rest : Steps ns d e) :
      Steps (n :: ns) c e

theorem Step.position {n : Int} {c d : Cursor α} (h : Step n c d) :
    (d.position : Int) = c.position + n := by
  cases h with
  | append more items current =>
    unfold Cursor.position
    rw [items, current, List.idxOf_append_of_mem c.mem, Int.add_zero]
  | move m items current =>
    unfold Cursor.position
    rw [items]
    exact idxOf_neighbour c.sorted c.mem current

/-- **Over a run the position changes by the sum of the changes.** -/
theorem Steps.position {ns : List Int} {c d : Cursor α} (h : Steps ns c d) :
    (d.position : Int) = c.position + ns.sum := by
  induction h with
  | refl c => simp
  | cons first rest ih =>
    rw [ih, first.position, List.sum_cons]
    omega

/-- The current item stands at the position. -/
theorem getElem?_position (c : Cursor α) : c.items[c.position]? = some c.current := by
  unfold Cursor.position
  rw [List.getElem?_eq_getElem (List.idxOf_lt_length_of_mem c.mem), List.getElem_idxOf]

theorem Steps.items_prefix {ns : List Int} {c d : Cursor α} (h : Steps ns c d) :
    c.items <+: d.items := by
  induction h with
  | refl c => exact List.prefix_refl _
  | cons first rest ih =>
    refine List.IsPrefix.trans ?_ ih
    cases first with
    | append more items current => exact ⟨more, items.symm⟩
    | move m items current => exact ⟨[], by rw [List.append_nil, items]⟩

/-- **As many moves back as forward end where they began.** -/
theorem Steps.current_eq {ns : List Int} {c d : Cursor α} (h : Steps ns c d) (hsum : ns.sum = 0) :
    d.current = c.current := by
  have hposition := h.position
  have hsame : d.position = c.position := by omega
  have hc : d.items[c.position]? = some c.current := by
    obtain ⟨more, hmore⟩ := h.items_prefix
    have hc := c.getElem?_position
    rw [← hmore, List.getElem?_append_left (List.getElem?_eq_some_iff.mp hc).1, hc]
  exact Option.some.inj (d.getElem?_position.symm.trans (hsame ▸ hc))

end Cursor

end Library
