/-
  File:      Brackets/Library/Table.lean
  Subject:   Tables of rows under an integer primary key.

  A table is the list of its rows in key order, together with the next value of its key
  sequence. Both facts a database promises about the key (no two rows share one, a new row
  gets a key above all others) are fields, so no later proof assumes them.

  * `Table.find?` -- the row under a key;
  * `Table.update` -- UPDATE .. SET .. WHERE ..: rewrites the rows a test selects;
  * `Table.delete` -- DELETE .. WHERE ..;
  * `Table.insert` -- INSERT with the key taken from the sequence.

  An ORDER BY on the key is the identity on `Table.rows`, and every operation commutes with
  a selection it does not disturb (`filter_update`, `filter_insert`).
-/
import Mathlib.Data.List.Sort

namespace Library

/-- A row type with an integer primary key. -/
class Keyed (α : Type) where
  key : α → Int

export Keyed (key)

/-- The rows of a table in key order, and the next value of its key sequence. -/
structure Table (α : Type) [Keyed α] where
  rows : List α
  next : Int
  sorted : rows.Pairwise fun a b => key a < key b
  below : ∀ r ∈ rows, key r < next

namespace Table

variable {α : Type} [Keyed α]

@[ext] theorem ext {t u : Table α} (hr : t.rows = u.rows) (hn : t.next = u.next) : t = u := by
  cases t
  cases u
  cases hr
  cases hn
  rfl

/-- A table without rows. -/
def empty : Table α := ⟨[], 1, .nil, fun _ h => absurd h List.not_mem_nil⟩

/-- The row under key `k`. -/
def find? (t : Table α) (k : Int) : Option α := t.rows.find? fun r => key r == k

/-- UPDATE: the rows `p` selects become `f` of them. -/
def update (t : Table α) (p : α → Bool) (f : α → α) (hf : ∀ r, key (f r) = key r) : Table α where
  rows := t.rows.map fun r => if p r then f r else r
  next := t.next
  sorted := by
    refine List.pairwise_map.mpr (t.sorted.imp fun {a b} hab => ?_)
    split <;> split <;> simp only [hf, hab]
  below := by
    intro r hr
    obtain ⟨a, ha, rfl⟩ := List.mem_map.mp hr
    have := t.below a ha
    split <;> simp only [hf, this]

/-- DELETE: the rows `p` selects leave the table. -/
def delete (t : Table α) (p : α → Bool) : Table α where
  rows := t.rows.filter fun r => !p r
  next := t.next
  sorted := t.sorted.filter _
  below r hr := t.below r (List.mem_filter.mp hr).1

/-- INSERT: the new row is built from the next value of the key sequence. -/
def insert (t : Table α) (mk : Int → α) (hk : ∀ k, key (mk k) = k) : Table α where
  rows := t.rows ++ [mk t.next]
  next := t.next + 1
  sorted := by
    refine List.pairwise_append.mpr ⟨t.sorted, List.pairwise_singleton _ _, fun a ha b hb => ?_⟩
    rw [List.mem_singleton.mp hb, hk]
    exact t.below a ha
  below := by
    intro r hr
    rcases List.mem_append.mp hr with h | h
    · exact (t.below r h).trans (by omega)
    · rw [List.mem_singleton.mp h, hk]
      omega

/-! ## Keys -/

theorem nodup_keys (t : Table α) : (t.rows.map key).Nodup :=
  List.pairwise_map.mpr (t.sorted.imp fun h => by omega)

/-- The primary key: two rows under one key are one row. -/
theorem eq_of_key (t : Table α) {a b : α} (ha : a ∈ t.rows) (hb : b ∈ t.rows)
    (h : key a = key b) : a = b := List.inj_on_of_nodup_map t.nodup_keys ha hb h

theorem find?_eq_some (t : Table α) {k : Int} {r : α} :
    t.find? k = some r ↔ r ∈ t.rows ∧ key r = k := by
  constructor
  · intro h
    exact ⟨List.mem_of_find?_eq_some h, by simpa using List.find?_some h⟩
  · rintro ⟨hr, rfl⟩
    cases h : t.find? (key r) with
    | none => exact absurd (List.find?_eq_none.mp h r hr) (by simp)
    | some s =>
        have hs : key s = key r := by simpa using List.find?_some h
        rw [t.eq_of_key (List.mem_of_find?_eq_some h) hr hs]

theorem find?_key (t : Table α) {r : α} (hr : r ∈ t.rows) : t.find? (key r) = some r :=
  t.find?_eq_some.mpr ⟨hr, rfl⟩

theorem find?_eq_none (t : Table α) {k : Int} :
    t.find? k = none ↔ ∀ r ∈ t.rows, key r ≠ k := by
  simp [find?, List.find?_eq_none]

theorem key_of_find? (t : Table α) {k : Int} {r : α} (h : t.find? k = some r) : key r = k :=
  (t.find?_eq_some.mp h).2

theorem mem_of_find? (t : Table α) {k : Int} {r : α} (h : t.find? k = some r) : r ∈ t.rows :=
  (t.find?_eq_some.mp h).1

/-- At most one row stands under a key. -/
theorem filter_key (t : Table α) (k : Int) :
    t.rows.filter (fun r => key r == k) = (t.find? k).toList := by
  have run : ∀ l : List α, (l.map key).Nodup →
      l.filter (fun r => key r == k) = (l.find? fun r => key r == k).toList := by
    intro l
    induction l with
    | nil => exact fun _ => rfl
    | cons a l ih =>
      intro hl
      rw [List.map_cons, List.nodup_cons] at hl
      let q : α → Bool := fun r => key r == k
      by_cases ha : q a
      · have hno : ∀ b ∈ l, ¬ q b := fun b hb hbk => hl.1 (List.mem_map.mpr
          ⟨b, hb, (eq_of_beq hbk).trans (eq_of_beq ha).symm⟩)
        show (a :: l).filter q = ((a :: l).find? q).toList
        rw [List.filter_cons_of_pos ha, List.find?_cons_of_pos ha,
          List.filter_eq_nil_iff.mpr hno]
        rfl
      · show (a :: l).filter q = ((a :: l).find? q).toList
        rw [List.filter_cons_of_neg ha, List.find?_cons_of_neg ha]
        exact ih hl.2
  exact run t.rows t.nodup_keys

/-- A selection that picks the one row under a key. -/
theorem filter_eq_singleton (t : Table α) {k : Int} {r : α} (h : t.find? k = some r)
    {p : α → Bool} (hp : ∀ a ∈ t.rows, p a = (key a == k)) : t.rows.filter p = [r] := by
  rw [List.filter_congr hp, filter_key, h]
  rfl

/-- A selection of rows in key order is again in key order. -/
theorem sorted_filter (t : Table α) (p : α → Bool) :
    (t.rows.filter p).Pairwise fun a b => key a < key b := t.sorted.filter p

/-- The number of rows before a key. -/
def before (t : Table α) (k : Int) : Nat := (t.rows.filter fun r => key r < k).length

/-- The rows are numbered in key order. -/
theorem before_lt (t : Table α) {r : α} (hr : r ∈ t.rows) {k : Int} (h : key r < k) :
    t.before (key r) < t.before k := by
  have hsub : (t.rows.filter fun s => key s < key r).Sublist (t.rows.filter fun s => key s < k) :=
    List.monotone_filter_right _ fun s hs => decide_eq_true ((of_decide_eq_true hs).trans h)
  refine lt_of_le_of_ne hsub.length_le fun e => ?_
  have hmem : r ∈ t.rows.filter fun s => key s < k := List.mem_filter.mpr ⟨hr, decide_eq_true h⟩
  rw [← hsub.eq_of_length e] at hmem
  exact lt_irrefl _ (of_decide_eq_true (List.mem_filter.mp hmem).2)

/-! ## What the operations leave -/

section Update

variable {p : α → Bool} {f : α → α} {hf : ∀ r, key (f r) = key r}

theorem rows_update (t : Table α) :
    (t.update p f hf).rows = t.rows.map fun r => if p r then f r else r := rfl

theorem find?_update (t : Table α) (k : Int) :
    (t.update p f hf).find? k = (t.find? k).map fun r => if p r then f r else r := by
  simp only [find?, rows_update, List.find?_map]
  congr 2
  funext r
  simp only [Function.comp]
  split <;> simp only [hf]

/-- An update commutes with a selection that reads columns it does not write. -/
theorem filter_update (t : Table α) (q : α → Bool) (hq : ∀ r, q (f r) = q r) :
    (t.update p f hf).rows.filter q = (t.rows.filter q).map fun r => if p r then f r else r := by
  rw [rows_update, List.filter_map]
  congr 2
  funext r
  simp only [Function.comp]
  split <;> simp only [hq]

/-- An update that selects no row changes nothing. -/
theorem update_eq_self (t : Table α) (h : ∀ r ∈ t.rows, p r = false) : t.update p f hf = t := by
  refine ext ?_ rfl
  rw [rows_update]
  conv_rhs => rw [← List.map_id t.rows]
  refine List.map_congr_left fun r hr => ?_
  rw [h r hr]
  rfl

end Update

/-- A projection of every row. -/
def map (t : Table α) (f : α → α) (hf : ∀ r, key (f r) = key r) : Table α :=
  t.update (fun _ => true) f hf

section Map

variable {g : α → α} {hg : ∀ r, key (g r) = key r}

theorem rows_map (t : Table α) : (t.map g hg).rows = t.rows.map g := rfl

theorem map_eq_self (t : Table α) (h : ∀ r, g r = r) : t.map g hg = t :=
  ext ((List.map_congr_left fun r _ => h r).trans (List.map_id _)) rfl

theorem find?_map (t : Table α) (hg : ∀ r, key (g r) = key r) (k : Int) :
    (t.map g hg).find? k = (t.find? k).map g := t.find?_update k

/-- A projection that ignores the columns an update writes does not see the update. -/
theorem map_of_update (t : Table α) {p : α → Bool} {f : α → α} {hf : ∀ r, key (f r) = key r}
    (h : ∀ r, g (f r) = g r) : (t.update p f hf).map g hg = t.map g hg := by
  refine ext ?_ rfl
  rw [rows_map, rows_map, rows_update, List.map_map]
  refine List.map_congr_left fun r _ => ?_
  simp only [Function.comp]
  split <;> simp only [h]

/-- The same for the rows that the update selects. -/
theorem map_of_update_of_mem (t : Table α) {p : α → Bool} {f : α → α}
    {hf : ∀ r, key (f r) = key r} (h : ∀ r ∈ t.rows, p r = true → g (f r) = g r) :
    (t.update p f hf).map g hg = t.map g hg := by
  refine ext ?_ rfl
  rw [rows_map, rows_map, rows_update, List.map_map]
  refine List.map_congr_left fun r hr => ?_
  simp only [Function.comp]
  split
  · next hp => rw [h r hr hp]
  · rfl

/-- What is read of the selected rows, when both the selection and the reading ignore the
    columns the projection drops. -/
theorem map_filter_map {β : Type} (t : Table α) {q : α → Bool} {r : α → β}
    (hq : ∀ a, q (g a) = q a) (hr : ∀ a, r (g a) = r a) :
    ((t.map g hg).rows.filter q).map r = (t.rows.filter q).map r := by
  rw [rows_map, List.filter_map, List.map_map]
  congr 1
  · funext a
    exact hr a
  · congr 1
    funext a
    exact hq a

end Map

/-- Tables that read alike under every key read alike row by row. -/
theorem map_rows_congr {β : Type} {t u : Table α} {g g' : α → β} {k : β → Int}
    (hg : ∀ a, k (g a) = key a) (hg' : ∀ a, k (g' a) = key a)
    (h : ∀ x, (t.find? x).map g = (u.find? x).map g') : t.rows.map g = u.rows.map g' := by
  have hsorted : ∀ (v : Table α) {f : α → β}, (∀ a, k (f a) = key a) →
      (v.rows.map f).Pairwise fun a b => k a < k b := fun v f hf =>
    List.pairwise_map.mpr (v.sorted.imp fun hab => by rwa [hf, hf])
  have hmem : ∀ (v : Table α) {f : α → β}, (∀ a, k (f a) = key a) → ∀ b,
      b ∈ v.rows.map f ↔ (v.find? (k b)).map f = some b := by
    intro v f hf b
    rw [List.mem_map, Option.map_eq_some_iff]
    constructor
    · rintro ⟨a, ha, rfl⟩
      exact ⟨a, by rw [hf, v.find?_key ha], rfl⟩
    · rintro ⟨a, ha, rfl⟩
      exact ⟨a, v.mem_of_find? ha, rfl⟩
  have : Std.Irrefl fun a b : β => k a < k b := ⟨fun a => lt_irrefl (k a)⟩
  have : Std.Asymm fun a b : β => k a < k b := ⟨fun a b hab => not_lt.mpr (le_of_lt hab)⟩
  refine List.Pairwise.eq_of_mem_iff (hsorted t hg) (hsorted u hg') fun b => ?_
  rw [hmem t hg, hmem u hg', h]

theorem mem_delete (t : Table α) {p : α → Bool} {r : α} :
    r ∈ (t.delete p).rows ↔ r ∈ t.rows ∧ p r = false := by
  simp [delete, List.mem_filter]

/-- A deletion that selects no row changes nothing. -/
theorem delete_eq_self (t : Table α) {p : α → Bool} (h : ∀ r ∈ t.rows, p r = false) :
    t.delete p = t := by
  refine ext (List.filter_eq_self.mpr fun r hr => ?_) rfl
  rw [h r hr]
  rfl

theorem find?_delete (t : Table α) (p : α → Bool) (k : Int) :
    (t.delete p).find? k = (t.find? k).filter fun r => !p r := by
  cases h : t.find? k with
  | none =>
      rw [Option.filter_none, find?_eq_none]
      exact fun r hr => t.find?_eq_none.mp h r (t.mem_delete.mp hr).1
  | some r =>
      obtain ⟨hr, hk⟩ := t.find?_eq_some.mp h
      cases hp : p r with
      | false =>
          rw [Option.filter_some_pos (by simp [hp])]
          exact (find?_eq_some _).mpr ⟨t.mem_delete.mpr ⟨hr, hp⟩, hk⟩
      | true =>
          rw [Option.filter_some_neg (by simp [hp]), find?_eq_none]
          intro s hs hsk
          obtain ⟨hs', hps⟩ := t.mem_delete.mp hs
          rw [t.eq_of_key hs' hr (hsk.trans hk.symm), hp] at hps
          cases hps

/-- A row among those a test selects. -/
theorem find?_filter (t : Table α) (p : α → Bool) (k : Int) :
    (t.rows.filter p).find? (fun r => key r == k) = (t.find? k).filter p := by
  have h := t.find?_delete (fun r => !p r) k
  simpa only [find?, delete, Bool.not_not] using h

section Insert

variable {mk : Int → α} {hk : ∀ k, key (mk k) = k}

theorem rows_insert (t : Table α) : (t.insert mk hk).rows = t.rows ++ [mk t.next] := rfl

theorem mem_insert (t : Table α) {r : α} :
    r ∈ (t.insert mk hk).rows ↔ r ∈ t.rows ∨ r = mk t.next := by
  rw [rows_insert, List.mem_append, List.mem_singleton]

theorem find?_insert_of_ne (t : Table α) {k : Int} (h : k ≠ t.next) :
    (t.insert mk hk).find? k = t.find? k := by
  rw [find?, rows_insert, List.find?_append, find?]
  cases t.rows.find? fun r => key r == k with
  | some r => rfl
  | none => simp [hk, h.symm]

theorem find?_insert_self (t : Table α) : (t.insert mk hk).find? t.next = some (mk t.next) :=
  (find?_eq_some _).mpr ⟨t.mem_insert.mpr (Or.inr rfl), hk _⟩

theorem find?_next (t : Table α) : t.find? t.next = none :=
  t.find?_eq_none.mpr fun r hr e => absurd (t.below r hr) (by omega)

theorem filter_insert (t : Table α) (q : α → Bool) :
    (t.insert mk hk).rows.filter q =
      t.rows.filter q ++ if q (mk t.next) then [mk t.next] else [] := by
  rw [rows_insert, List.filter_append, List.filter_singleton, Bool.cond_eq_ite]

end Insert

end Table

/-! ## ORDER BY after WHERE -/

section Sorting

variable {α : Type} {r : α → α → Prop} [DecidableRel r] (p : α → Bool)

theorem filter_orderedInsert [IsTrans α r] (a : α) {l : List α} (hl : l.Pairwise r) :
    (l.orderedInsert r a).filter p =
      if p a then (l.filter p).orderedInsert r a else l.filter p := by
  induction l with
  | nil => cases hp : p a <;> simp [hp]
  | cons b l ih =>
    obtain ⟨hb, hl⟩ := List.pairwise_cons.mp hl
    by_cases hab : r a b
    · rw [List.orderedInsert_cons_of_le r l hab]
      have hall : ∀ c ∈ (b :: l).filter p, r a c := by
        intro c hc
        rcases List.mem_cons.mp (List.mem_filter.mp hc).1 with rfl | hc
        · exact hab
        · exact IsTrans.trans a b c hab (hb c hc)
      cases hp : p a with
      | false => rw [List.filter_cons_of_neg (by simp [hp]), if_neg Bool.false_ne_true]
      | true =>
        rw [List.filter_cons_of_pos hp, if_pos rfl]
        cases hl : (b :: l).filter p with
        | nil => rfl
        | cons c l' =>
          rw [hl] at hall
          exact (List.orderedInsert_cons_of_le r l' (hall c List.mem_cons_self)).symm
    · rw [List.orderedInsert_of_not_le r l hab]
      by_cases hp : p b = true
      · rw [List.filter_cons_of_pos hp, List.filter_cons_of_pos hp, ih hl,
          List.orderedInsert_of_not_le r _ hab]
        split <;> rfl
      · rw [List.filter_cons_of_neg hp, List.filter_cons_of_neg hp, ih hl]

/-- Selecting and sorting commute. -/
theorem insertionSort_filter [Std.Total r] [IsTrans α r] (l : List α) :
    (l.filter p).insertionSort r = (l.insertionSort r).filter p := by
  induction l with
  | nil => rfl
  | cons a l ih =>
    rw [List.insertionSort_cons, filter_orderedInsert p a (List.pairwise_insertionSort r l), ← ih]
    cases hp : p a with
    | true => rw [List.filter_cons_of_pos hp, List.insertionSort_cons, if_pos rfl]
    | false => rw [List.filter_cons_of_neg (by simp [hp]), if_neg Bool.false_ne_true]

/-- Where the order decides between all elements, the order they come in plays no part. -/
theorem insertionSort_perm [Std.Total r] [IsTrans α r] {l l' : List α}
    (hanti : ∀ a ∈ l, ∀ b ∈ l, r a b → r b a → a = b) (h : l'.Perm l) :
    l'.insertionSort r = l.insertionSort r := by
  have hperm : (l'.insertionSort r).Perm (l.insertionSort r) :=
    ((List.perm_insertionSort r l').trans h).trans (List.perm_insertionSort r l).symm
  refine hperm.eq_of_pairwise (fun a b ha hb => ?_) (List.pairwise_insertionSort r l')
    (List.pairwise_insertionSort r l)
  rw [List.mem_insertionSort] at ha hb
  exact hanti a (h.mem_iff.mp ha) b hb

end Sorting

end Library
