/-
  File:      Brackets/Library/Tally.lean
  Subject:   Counting by keys.

  * `countP_key`: in a list of distinct keys, a test of one key counts at most one element;
  * `sum_countP`: counts of several tests, summed, count every element as often as tests select it;
  * `Dict.sum_set`: what setting a key does to a sum over a dictionary.
-/
import Mathlib.Algebra.BigOperators.Group.List.Basic
import Mathlib.Algebra.Order.Ring.Int
import Mathlib.Data.List.Nodup
import Mathlib.Tactic.Abel
import Brackets.Library.Dict

namespace Library

theorem sum_map_ite {α : Type} (l : List α) (p : α → Bool) :
    (l.map fun a => if p a then (1 : Int) else 0).sum = l.countP p := by
  induction l with
  | nil => rfl
  | cons a l ih =>
    rw [List.map_cons, List.sum_cons, ih, List.countP_cons]
    split
    · rw [Int.natCast_add, Int.add_comm]
      rfl
    · rw [Int.zero_add, Nat.add_zero]

/-- A test of one key counts the one element under it, if that passes the rest of the test. -/
theorem countP_key {α κ : Type} [DecidableEq κ] {key : α → κ} {l : List α} (hl : (l.map key).Nodup)
    {a : α} (ha : a ∈ l) (p : α → Bool) :
    l.countP (fun b => decide (key b = key a) && p b) = if p a then 1 else 0 := by
  induction l with
  | nil => cases ha
  | cons b l ih =>
    rw [List.map_cons, List.nodup_cons] at hl
    rw [List.countP_cons]
    rcases List.mem_cons.mp ha with rfl | ha
    · have hnone : l.countP (fun b => decide (key b = key a) && p b) = 0 := by
        refine List.countP_eq_zero.mpr fun b hb h => hl.1 ?_
        rw [Bool.and_eq_true, decide_eq_true_eq] at h
        exact h.1 ▸ List.mem_map_of_mem hb
      simp [hnone]
    · have hne : key b ≠ key a := fun e => hl.1 (e ▸ List.mem_map_of_mem ha)
      simp [hne, ih hl.2 ha]

/-- Lists in each of which a test finds one element or none. -/
theorem countP_flatMap_unit {α β : Type} {l : List α} {f : α → List β} {p : β → Bool}
    {q : α → Bool} (h : ∀ a ∈ l, (f a).countP p = if q a then 1 else 0) :
    (l.flatMap f).countP p = l.countP q := by
  induction l with
  | nil => rfl
  | cons a l ih =>
    rw [List.flatMap_cons, List.countP_append, h a List.mem_cons_self,
      ih fun b hb => h b (List.mem_cons_of_mem a hb), List.countP_cons, Nat.add_comm]

theorem sum_swap {α β : Type} (l : List α) (k : List β) (f : α → β → Int) :
    (l.map fun a => (k.map (f a)).sum).sum = (k.map fun b => (l.map fun a => f a b).sum).sum := by
  induction l with
  | nil => simp
  | cons a l ih =>
    rw [List.map_cons, List.sum_cons, ih, ← List.sum_map_add]
    congr 1

/-- Counts of several tests, summed. -/
theorem sum_countP {α β : Type} (l : List α) (tests : List β) (p : β → α → Bool) :
    (tests.map fun b => (l.countP (p b) : Int)).sum =
      (l.map fun a => (tests.countP fun b => p b a : Int)).sum := by
  simp only [← sum_map_ite]
  exact sum_swap tests l fun b a => if p b a then 1 else 0

/-- Setting a key replaces its share of a sum; a new key had the share of the default, nothing. -/
theorem Dict.sum_set {κ β M : Type} [DecidableEq κ] [AddCommGroup M] (d : Dict κ β) (k : κ) (v : β)
    {f : β → M} {default : β} (hf : f default = 0) :
    ((d.set k v).entries.map fun e => f e.2).sum =
      (d.entries.map fun e => f e.2).sum - f (d.getD k default) + f v := by
  unfold Dict.getD Dict.get? Dict.set
  dsimp only
  induction d.entries with
  | nil => simp [Dict.setEntries, hf]
  | cons e es ih =>
    by_cases he : e.1 = k
    · simp [Dict.setEntries, he]
      abel
    · rw [Dict.setEntries, if_neg he, List.find?_cons_of_neg (by simpa using he), List.map_cons,
        List.sum_cons, ih, List.map_cons, List.sum_cons]
      abel

end Library
