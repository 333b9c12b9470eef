/-
  File:      Brackets/Library/Clock.lean
  Subject:   A clock that runs through phases, and tracks that run in parallel.

  A phase puts out entries that depend on the time it starts, and takes a length. `clock` runs
  through phases one after the other; `entriesBefore`-like questions are answered by
  `lengthBefore`: with phases in key order a phase starts after the lengths of those with a
  smaller key (`mem_clock_sorted`). What parallel tracks take is `longest`.

  Neither depends on the order in which phases or tracks are listed: `lengthBefore_perm`,
  `longest_perm`. A loop that may refuse a phase goes through all of them or fails
  (`foldlM_clock`).
-/
import Mathlib.Data.List.Sort
import Mathlib.Algebra.BigOperators.Group.List.Basic
import Mathlib.Algebra.Order.Ring.Int

namespace Library

/-! ## 1. Parallel tracks -/

/-- The length of the longest track; 0 without tracks. -/
def longest (lengths : List Int) : Int := lengths.foldl max 0

theorem foldl_max_eq (lengths : List Int) (a b : Int) :
    lengths.foldl max (max a b) = max a (lengths.foldl max b) := by
  induction lengths generalizing b with
  | nil => rfl
  | cons x l ih => rw [List.foldl_cons, List.foldl_cons, max_assoc, ih]

theorem longest_cons (x : Int) (l : List Int) : longest (x :: l) = max x (longest l) := by
  rw [longest, List.foldl_cons, max_comm, foldl_max_eq, longest]

theorem longest_nonneg (l : List Int) : 0 ≤ longest l := by
  induction l with
  | nil => exact le_refl _
  | cons x l ih =>
    rw [longest_cons]
    exact ih.trans (le_max_right _ _)

theorem le_longest {x : Int} {l : List Int} (h : x ∈ l) : x ≤ longest l := by
  induction l with
  | nil => cases h
  | cons y l ih =>
    rw [longest_cons]
    rcases List.mem_cons.mp h with rfl | h
    · exact le_max_left _ _
    · exact (ih h).trans (le_max_right _ _)

/-- The longest track is one of the tracks, unless there is none. -/
theorem longest_mem {l : List Int} (hn : ∀ x ∈ l, 0 ≤ x) :
    l = [] ∧ longest l = 0 ∨ longest l ∈ l := by
  induction l with
  | nil => exact Or.inl ⟨rfl, rfl⟩
  | cons x l ih =>
    have hx := hn x List.mem_cons_self
    rw [longest_cons]
    rcases max_choice x (longest l) with h | h
    · rw [h]
      exact Or.inr List.mem_cons_self
    · rw [h]
      rcases ih fun y hy => hn y (List.mem_cons_of_mem x hy) with ⟨-, h0⟩ | hmem
      · have hx0 : longest l = x := le_antisymm (h0 ▸ hx) (max_eq_right_iff.mp h)
        rw [hx0]
        exact Or.inr List.mem_cons_self
      · exact Or.inr (List.mem_cons_of_mem x hmem)

theorem longest_perm {l l' : List Int} (h : l.Perm l') : longest l = longest l' :=
  h.foldl_eq 0

/-! ## 2. One phase after the other -/

section Clock

variable {α β : Type} (entries : Int → α → List β) (length : α → Int)

/-- What the phases put out from the time `t` on. -/
def clock (t : Int) : List α → List β
  | [] => []
  | a :: l => entries t a ++ clock (t + length a) l

/-- When each phase starts. -/
def starts (t : Int) (l : List α) : List (Int × α) := clock (fun t a => [(t, a)]) length t l

theorem starts_cons (t : Int) (a : α) (l : List α) :
    starts length t (a :: l) = (t, a) :: starts length (t + length a) l := rfl

variable {entries length} in
/-- A loop that collects entries and moves a clock on, where a phase may be refused. -/
theorem foldlM_clock {ε : Type} {allowed : Int → α → Prop} {e : ε}
    {step : List β × Int → α → Except ε (List β × Int)}
    (hok : ∀ p a, allowed p.2 a → step p a = .ok (p.1 ++ entries p.2 a, p.2 + length a))
    (herror : ∀ p a, ¬ allowed p.2 a → step p a = .error e) (l : List α) (out : List β) (t : Int) :
    ((∀ x ∈ starts length t l, allowed x.1 x.2) →
      l.foldlM step (out, t) = .ok (out ++ clock entries length t l, t + (l.map length).sum)) ∧
    (¬ (∀ x ∈ starts length t l, allowed x.1 x.2) → l.foldlM step (out, t) = .error e) := by
  induction l generalizing out t with
  | nil =>
    refine ⟨fun _ => ?_, fun h => absurd (fun x hx => nomatch hx) h⟩
    rw [clock, List.append_nil, List.map_nil, List.sum_nil, add_zero]
    rfl
  | cons a l ih =>
    rw [starts_cons, List.forall_mem_cons, List.foldlM_cons]
    by_cases ha : allowed t a
    · obtain ⟨hrest, hfails⟩ := ih (out ++ entries t a) (t + length a)
      rw [hok (out, t) a ha, and_iff_right ha, clock, ← List.append_assoc, List.map_cons,
        List.sum_cons, ← add_assoc]
      exact ⟨hrest, hfails⟩
    · rw [herror (out, t) a ha]
      exact ⟨fun h => absurd h.1 ha, fun _ => rfl⟩

end Clock

/-! ## 3. Phases in the order of their keys -/

section Keys

variable {α : Type} (key length : α → Int)

/-- What the phases with a smaller key take together. -/
def lengthBefore (l : List α) (k : Int) : Int := ((l.filter fun a => key a < k).map length).sum

theorem lengthBefore_perm {l l' : List α} (h : l.Perm l') (k : Int) :
    lengthBefore key length l k = lengthBefore key length l' k :=
  ((h.filter _).map _).sum_eq

/-- In a sorted list the phases with a smaller key are those listed before. -/
theorem lengthBefore_sorted {l₁ l₂ : List α} {a : α}
    (h : (l₁ ++ a :: l₂).Pairwise fun x y => key x < key y) :
    lengthBefore key length (l₁ ++ a :: l₂) (key a) = (l₁.map length).sum := by
  obtain ⟨-, h₂, h₁⟩ := List.pairwise_append.mp h
  have hfirst : l₁.filter (fun x => key x < key a) = l₁ :=
    List.filter_eq_self.mpr fun x hx => decide_eq_true (h₁ x hx a List.mem_cons_self)
  have hrest : (a :: l₂).filter (fun x => key x < key a) = [] := by
    refine List.filter_eq_nil_iff.mpr fun x hx => ?_
    rw [decide_eq_true_eq]
    rcases List.mem_cons.mp hx with rfl | hx
    · exact lt_irrefl _
    · exact ((List.pairwise_cons.mp h₂).1 x hx).not_gt
  rw [lengthBefore, List.filter_append, hfirst, hrest, List.append_nil]

theorem insertionSort_sorted {l : List α} (h : (l.map key).Nodup) :
    (l.insertionSort (key · ≤ key ·)).Pairwise fun x y => key x < key y := by
  have : Std.Total fun x y : α => key x ≤ key y := ⟨fun x y => le_total _ _⟩
  have : IsTrans α fun x y => key x ≤ key y := ⟨fun _ _ _ => le_trans⟩
  have hle := List.pairwise_insertionSort (fun x y => key x ≤ key y) l
  have hne : (l.insertionSort (key · ≤ key ·)).Pairwise fun x y => key x ≠ key y :=
    List.pairwise_map.mp (((List.perm_insertionSort _ l).map key).nodup_iff.mpr h)
  exact hle.imp₂ (fun _ _ h h' => lt_of_le_of_ne h h') hne

theorem clock_of_pairwise {β : Type} {entries : Int → α → List β} {l : List α}
    (h : l.Pairwise fun x y => key x < key y) (t : Int) : clock entries length t l =
      l.flatMap fun a => entries (t + lengthBefore key length l (key a)) a := by
  have run : ∀ l₂ l₁ : List α, (l₁ ++ l₂).Pairwise (fun x y => key x < key y) →
      clock entries length (t + (l₁.map length).sum) l₂ =
        l₂.flatMap fun a => entries (t + lengthBefore key length (l₁ ++ l₂) (key a)) a := by
    intro l₂
    induction l₂ with
    | nil => exact fun _ _ => rfl
    | cons a l₂ ih =>
      intro l₁ hl
      have hrest := ih (l₁ ++ [a]) (by rwa [List.append_assoc])
      rw [List.map_append, List.sum_append, List.map_singleton, List.sum_singleton, ← add_assoc,
        List.append_assoc, List.singleton_append] at hrest
      rw [clock, hrest, List.flatMap_cons, lengthBefore_sorted key length hl]
  have hall := run l [] h
  rwa [List.map_nil, List.sum_nil, add_zero, List.nil_append] at hall

/-- **A phase starts after the lengths of those with a smaller key.** -/
theorem clock_sorted {β : Type} {entries : Int → α → List β} {l : List α} (h : (l.map key).Nodup)
    (t : Int) : (clock entries length t (l.insertionSort (key · ≤ key ·))).Perm
      (l.flatMap fun a => entries (t + lengthBefore key length l (key a)) a) := by
  have hperm := List.perm_insertionSort (key · ≤ key ·) l
  rw [clock_of_pairwise key length (insertionSort_sorted key h)]
  simp only [lengthBefore_perm key length hperm]
  exact hperm.flatMap_right _

/-- Whether all phases may start, in the order of their keys. -/
theorem forall_starts_sorted {l : List α} (h : (l.map key).Nodup) (t : Int)
    {allowed : Int → α → Prop} :
    (∀ x ∈ starts length t (l.insertionSort (key · ≤ key ·)), allowed x.1 x.2) ↔
      ∀ a ∈ l, allowed (t + lengthBefore key length l (key a)) a := by
  have hperm := @clock_sorted α key length _ (fun t a => [(t, a)]) l h t
  constructor
  · intro hall a ha
    refine hall (t + lengthBefore key length l (key a), a) (hperm.mem_iff.mpr ?_)
    exact List.mem_flatMap.mpr ⟨a, ha, List.mem_singleton_self _⟩
  · intro hall x hx
    obtain ⟨a, ha, hxa⟩ := List.mem_flatMap.mp (hperm.mem_iff.mp hx)
    rw [List.mem_singleton.mp hxa]
    exact hall a ha

theorem lengthBefore_cons (c : α) (l : List α) (k : Int) :
    lengthBefore key length (c :: l) k =
      (if key c < k then length c else 0) + lengthBefore key length l k := by
  unfold lengthBefore
  by_cases h : key c < k
  · rw [List.filter_cons_of_pos (by simpa using h), List.map_cons, List.sum_cons, if_pos h]
  · rw [List.filter_cons_of_neg (by simpa using h), if_neg h, zero_add]

/-- Phases that take no time play no part. -/
theorem lengthBefore_filter {l : List α} {q : α → Bool}
    (h : ∀ a ∈ l, q a = false → length a = 0) (k : Int) :
    lengthBefore key length (l.filter q) k = lengthBefore key length l k := by
  induction l with
  | nil => rfl
  | cons c l ih =>
    have hl := ih fun a ha => h a (List.mem_cons_of_mem c ha)
    cases hq : q c with
    | true => rw [List.filter_cons_of_pos hq, lengthBefore_cons, lengthBefore_cons, hl]
    | false =>
      rw [List.filter_cons_of_neg (Bool.eq_false_iff.mp hq), hl, lengthBefore_cons,
        h c List.mem_cons_self hq, ite_self, zero_add]

theorem lengthBefore_nonneg {l : List α} (hn : ∀ a ∈ l, 0 ≤ length a) (k : Int) :
    0 ≤ lengthBefore key length l k := by
  induction l with
  | nil => exact le_refl _
  | cons c l ih =>
    have hc := hn c List.mem_cons_self
    have hl := ih fun a ha => hn a (List.mem_cons_of_mem c ha)
    rw [lengthBefore_cons]
    split <;> omega

theorem lengthBefore_mono {l : List α} (hn : ∀ a ∈ l, 0 ≤ length a) {k k' : Int} (h : k ≤ k') :
    lengthBefore key length l k ≤ lengthBefore key length l k' := by
  induction l with
  | nil => exact le_refl _
  | cons c l ih =>
    have hc := hn c List.mem_cons_self
    have hl := ih fun a ha => hn a (List.mem_cons_of_mem c ha)
    rw [lengthBefore_cons, lengthBefore_cons]
    split <;> split <;> omega

/-- A phase is over before one with a larger key starts. -/
theorem lengthBefore_add_le {l : List α} (hn : ∀ a ∈ l, 0 ≤ length a) {a : α} (ha : a ∈ l)
    {k : Int} (hk : key a < k) :
    lengthBefore key length l (key a) + length a ≤ lengthBefore key length l k := by
  induction l with
  | nil => cases ha
  | cons c l ih =>
    have hc := hn c List.mem_cons_self
    have hl : ∀ a ∈ l, 0 ≤ length a := fun a ha => hn a (List.mem_cons_of_mem c ha)
    rw [lengthBefore_cons, lengthBefore_cons]
    rcases List.mem_cons.mp ha with rfl | ha
    · have hmono := lengthBefore_mono key length hl (le_of_lt hk)
      rw [if_neg (lt_irrefl _), if_pos hk]
      omega
    · have hrest := ih hl ha
      split <;> split <;> omega

/-- A phase is over before all are. -/
theorem lengthBefore_add_le_sum {l : List α} (hn : ∀ a ∈ l, 0 ≤ length a) {a : α} (ha : a ∈ l) :
    lengthBefore key length l (key a) + length a ≤ (l.map length).sum := by
  have hall : ∀ l : List α, (∀ a ∈ l, 0 ≤ length a) → ∀ k,
      lengthBefore key length l k ≤ (l.map length).sum := by
    intro l
    induction l with
    | nil => exact fun _ _ => le_refl _
    | cons c l ih =>
      intro hn k
      have hc := hn c List.mem_cons_self
      have hl := ih (fun a ha => hn a (List.mem_cons_of_mem c ha)) k
      rw [lengthBefore_cons, List.map_cons, List.sum_cons]
      split <;> omega
  induction l with
  | nil => cases ha
  | cons c l ih =>
    have hc := hn c List.mem_cons_self
    have hl : ∀ a ∈ l, 0 ≤ length a := fun a ha => hn a (List.mem_cons_of_mem c ha)
    rw [lengthBefore_cons, List.map_cons, List.sum_cons]
    rcases List.mem_cons.mp ha with rfl | ha
    · have hrest := hall l hl (key a)
      rw [if_neg (lt_irrefl _)]
      omega
    · have hrest := ih hl ha
      split <;> omega

/-- A phase starts when the one before it is over. -/
theorem lengthBefore_next {l : List α} (hl : (l.map key).Nodup) {a : α} (ha : a ∈ l) {k : Int}
    (hk : key a < k) (hnext : ∀ c ∈ l, key a < key c → k ≤ key c) :
    lengthBefore key length l k = lengthBefore key length l (key a) + length a := by
  induction l with
  | nil => cases ha
  | cons c l ih =>
    rw [List.map_cons, List.nodup_cons] at hl
    have hc := hnext c List.mem_cons_self
    have hnext' : ∀ c ∈ l, key a < key c → k ≤ key c := fun d hd =>
      hnext d (List.mem_cons_of_mem c hd)
    rw [lengthBefore_cons, lengthBefore_cons]
    rcases List.mem_cons.mp ha with rfl | ha
    · have hsame : lengthBefore key length l k = lengthBefore key length l (key a) := by
        unfold lengthBefore
        congr 2
        refine List.filter_congr fun d hd => ?_
        have hd' := hnext' d hd
        have hne : key d ≠ key a := fun e => hl.1 (e ▸ List.mem_map_of_mem hd)
        rw [decide_eq_decide]
        omega
      rw [hsame, if_pos hk, if_neg (lt_irrefl _)]
      omega
    · have hrest := ih hl.2 ha hnext'
      have hne : key c ≠ key a := fun e => hl.1 (e ▸ List.mem_map_of_mem ha)
      split <;> split <;> omega

/-- Nothing takes time before the first phase. -/
theorem lengthBefore_first {l : List α} {k : Int} (h : ∀ a ∈ l, k ≤ key a) :
    lengthBefore key length l k = 0 := by
  have hnil : l.filter (fun a => key a < k) = [] :=
    List.filter_eq_nil_iff.mpr fun a ha => by simpa using h a ha
  rw [lengthBefore, hnil, List.map_nil, List.sum_nil]

end Keys

/-! ## 4. Lists in another order -/

section PermUpTo

variable {α : Type}

/-- The same elements up to a relation, in another order. -/
def PermUpTo (R : α → α → Prop) (l l' : List α) : Prop := ∃ k, List.Forall₂ R l k ∧ k.Perm l'

variable {R : α → α → Prop} {l l' : List α}

theorem PermUpTo.refl (h : ∀ a, R a a) (l : List α) : PermUpTo R l l :=
  ⟨l, List.forall₂_same.mpr fun a _ => h a, .refl l⟩

theorem PermUpTo.map {β : Type} (h : PermUpTo R l l') {f : α → β} (hf : ∀ a b, R a b → f a = f b) :
    (l.map f).Perm (l'.map f) := by
  obtain ⟨k, hk, hperm⟩ := h
  have hmap : l.map f = k.map f := by
    clear hperm
    induction hk with
    | nil => rfl
    | cons hab _ ih => rw [List.map_cons, List.map_cons, hf _ _ hab, ih]
  rw [hmap]
  exact hperm.map f

theorem PermUpTo.flatMap {β : Type} (h : PermUpTo R l l') {f g : α → List β}
    (hf : ∀ a b, R a b → (f a).Perm (g b)) : (l.flatMap f).Perm (l'.flatMap g) := by
  obtain ⟨k, hk, hperm⟩ := h
  refine List.Perm.trans ?_ (hperm.flatMap_right g)
  clear hperm
  induction hk with
  | nil => exact .refl _
  | cons hab _ ih =>
    rw [List.flatMap_cons, List.flatMap_cons]
    exact (hf _ _ hab).append ih

theorem PermUpTo.exists_of_mem (h : PermUpTo R l l') {b : α} (hb : b ∈ l') : ∃ a ∈ l, R a b := by
  obtain ⟨k, hk, hperm⟩ := h
  have hb' := hperm.mem_iff.mpr hb
  clear hperm hb
  induction hk with
  | nil => cases hb'
  | cons hab _ ih =>
    rcases List.mem_cons.mp hb' with rfl | hb'
    · exact ⟨_, List.mem_cons_self, hab⟩
    · obtain ⟨a, ha, h⟩ := ih hb'
      exact ⟨a, List.mem_cons_of_mem _ ha, h⟩

theorem PermUpTo.forall_iff (h : PermUpTo R l l') {P Q : α → Prop} (hf : ∀ a b, R a b → (P a ↔ Q b)) :
    (∀ a ∈ l, P a) ↔ ∀ b ∈ l', Q b := by
  obtain ⟨k, hk, hperm⟩ := h
  refine Iff.trans ?_ (forall_congr' fun b => imp_congr_left hperm.mem_iff)
  clear hperm
  induction hk with
  | nil => exact iff_of_true (fun a ha => nomatch ha) fun b hb => nomatch hb
  | cons hab _ ih => rw [List.forall_mem_cons, List.forall_mem_cons, hf _ _ hab, ih]

theorem PermUpTo.lengthBefore {key length : α → Int} (h : PermUpTo R l l')
    (hf : ∀ a b, R a b → key a = key b ∧ length a = length b) (k : Int) :
    lengthBefore key length l k = lengthBefore key length l' k := by
  obtain ⟨m, hm, hperm⟩ := h
  refine Eq.trans ?_ (lengthBefore_perm key length hperm k)
  clear hperm
  induction hm with
  | nil => rfl
  | cons hab _ ih =>
    obtain ⟨hkey, hlength⟩ := hf _ _ hab
    rw [lengthBefore_cons, lengthBefore_cons, hkey, hlength, ih]

end PermUpTo

end Library
