/-
  File:      Brackets/Library/Dict.lean
  Subject:   Dictionaries in insertion order.

  A dictionary is the list of its entries in the order their keys were first set; that no key
  stands twice is a field. Setting a key that is present rewrites its entry in place, setting
  a new key appends. `get?_set_self` and `get?_set_of_ne` are all a client needs about the
  contents, `keys_set` and `mem_keys` about the order and the domain.
-/
import Mathlib.Data.List.Nodup

namespace Library

/-- Entries with distinct keys, in insertion order. -/
structure Dict (κ β : Type) where
  entries : List (κ × β)
  nodup : (entries.map Prod.fst).Nodup
  deriving DecidableEq

namespace Dict

variable {κ β : Type}

def empty : Dict κ β := ⟨[], List.nodup_nil⟩

def keys (d : Dict κ β) : List κ := d.entries.map Prod.fst

def values (d : Dict κ β) : List β := d.entries.map Prod.snd

variable [DecidableEq κ]

def get? (d : Dict κ β) (k : κ) : Option β := (d.entries.find? fun e => e.1 = k).map Prod.snd

/-- `d.get(k, default)`, and the reading of a `defaultdict`. -/
def getD (d : Dict κ β) (k : κ) (default : β) : β := (d.get? k).getD default

/-- The entries after `d[k] = v`. -/
def setEntries (k : κ) (v : β) : List (κ × β) → List (κ × β)
  | [] => [(k, v)]
  | e :: es => if e.1 = k then (k, v) :: es else e :: setEntries k v es

theorem keys_setEntries (k : κ) (v : β) (es : List (κ × β)) :
    (setEntries k v es).map Prod.fst =
      if k ∈ es.map Prod.fst then es.map Prod.fst else es.map Prod.fst ++ [k] := by
  induction es with
  | nil => rfl
  | cons e es ih =>
    by_cases he : e.1 = k
    · simp [setEntries, he]
    · have hk : ¬ k = e.1 := fun h => he h.symm
      rw [setEntries, if_neg he, List.map_cons, ih]
      simp only [List.map_cons, List.mem_cons, hk, false_or]
      split <;> rfl

/-- `d[k] = v`. -/
def set (d : Dict κ β) (k : κ) (v : β) : Dict κ β where
  entries := setEntries k v d.entries
  nodup := by
    rw [keys_setEntries]
    split
    · exact d.nodup
    · next h => exact List.nodup_append.mpr ⟨d.nodup, List.nodup_singleton k,
        fun a ha b hb e => h (List.mem_singleton.mp hb ▸ e ▸ ha)⟩

theorem keys_set (d : Dict κ β) (k : κ) (v : β) :
    (d.set k v).keys = if k ∈ d.keys then d.keys else d.keys ++ [k] :=
  keys_setEntries k v d.entries

theorem mem_keys_set (d : Dict κ β) (k j : κ) (v : β) :
    j ∈ (d.set k v).keys ↔ j ∈ d.keys ∨ j = k := by
  rw [keys_set]
  split
  · next h =>
    refine ⟨Or.inl, fun h' => ?_⟩
    rcases h' with h' | rfl
    · exact h'
    · exact h
  · simp

@[simp] theorem get?_empty (k : κ) : (empty : Dict κ β).get? k = none := rfl

theorem find?_setEntries_self (k : κ) (v : β) (es : List (κ × β)) :
    (setEntries k v es).find? (fun e => e.1 = k) = some (k, v) := by
  induction es with
  | nil => simp [setEntries]
  | cons e es ih =>
    by_cases he : e.1 = k
    · simp [setEntries, he]
    · rw [setEntries, if_neg he, List.find?_cons_of_neg (by simpa using he), ih]

theorem find?_setEntries_of_ne {k j : κ} (h : j ≠ k) (v : β) (es : List (κ × β)) :
    (setEntries k v es).find? (fun e => e.1 = j) = es.find? fun e => e.1 = j := by
  induction es with
  | nil => simp [setEntries, h.symm]
  | cons e es ih =>
    by_cases he : e.1 = k
    · have hj : ¬ e.1 = j := fun hj => h (hj.symm.trans he)
      rw [setEntries, if_pos he, List.find?_cons_of_neg (by simpa using h.symm),
        List.find?_cons_of_neg (by simpa using hj)]
    · rw [setEntries, if_neg he, List.find?_cons, List.find?_cons, ih]

@[simp] theorem get?_set_self (d : Dict κ β) (k : κ) (v : β) : (d.set k v).get? k = some v := by
  rw [get?, set, find?_setEntries_self]
  rfl

theorem get?_set_of_ne (d : Dict κ β) {k j : κ} (h : j ≠ k) (v : β) :
    (d.set k v).get? j = d.get? j := by
  rw [get?, set, find?_setEntries_of_ne h, get?]

theorem get?_set (d : Dict κ β) (k j : κ) (v : β) :
    (d.set k v).get? j = if j = k then some v else d.get? j := by
  split
  · next h => rw [h, get?_set_self]
  · next h => exact d.get?_set_of_ne h v

theorem getD_set (d : Dict κ β) (k j : κ) (v default : β) :
    (d.set k v).getD j default = if j = k then v else d.getD j default := by
  rw [getD, get?_set]
  split <;> rfl

theorem get?_eq_some (d : Dict κ β) {k : κ} {v : β} : d.get? k = some v ↔ (k, v) ∈ d.entries := by
  constructor
  · intro h
    obtain ⟨e, he, rfl⟩ := Option.map_eq_some_iff.mp h
    have hk : e.1 = k := by simpa using List.find?_some he
    exact hk ▸ List.mem_of_find?_eq_some he
  · intro h
    cases hf : d.get? k with
    | none =>
        have := List.find?_eq_none.mp (Option.map_eq_none_iff.mp hf) _ h
        simp at this
    | some w =>
        obtain ⟨e, he, rfl⟩ := Option.map_eq_some_iff.mp hf
        have hk : e.1 = k := by simpa using List.find?_some he
        rw [List.inj_on_of_nodup_map d.nodup (List.mem_of_find?_eq_some he) h hk]

theorem get?_isSome (d : Dict κ β) {k : κ} : (d.get? k).isSome ↔ k ∈ d.keys := by
  rw [Option.isSome_iff_exists, keys, List.mem_map]
  constructor
  · rintro ⟨v, h⟩
    exact ⟨_, d.get?_eq_some.mp h, rfl⟩
  · rintro ⟨e, he, rfl⟩
    exact ⟨e.2, d.get?_eq_some.mpr he⟩

theorem get?_eq_none (d : Dict κ β) {k : κ} : d.get? k = none ↔ k ∉ d.keys := by
  rw [← d.get?_isSome, Option.not_isSome_iff_eq_none]

/-- Dictionaries with the same contents have the same entries, in some order. -/
theorem entries_perm {d d' : Dict κ β} (h : ∀ k, d'.get? k = d.get? k) :
    d'.entries.Perm d.entries := by
  rw [List.perm_ext_iff_of_nodup d'.nodup.of_map d.nodup.of_map]
  intro e
  rw [← d'.get?_eq_some, ← d.get?_eq_some, h]

/-- The dictionary with every value rewritten in place. -/
def mapValues {γ : Type} (d : Dict κ β) (f : κ → β → γ) : Dict κ γ where
  entries := d.entries.map fun e => (e.1, f e.1 e.2)
  nodup := by
    rw [List.map_map]
    exact d.nodup

theorem get?_mapValues {γ : Type} (d : Dict κ β) (f : κ → β → γ) (k : κ) :
    (d.mapValues f).get? k = (d.get? k).map (f k) := by
  rw [get?, mapValues, List.find?_map, get?, Option.map_map, Option.map_map]
  cases h : d.entries.find? ((fun e => decide (e.1 = k)) ∘ fun e => (e.1, f e.1 e.2)) with
  | none =>
    have h' : d.entries.find? (fun e => e.1 = k) = none := h
    rw [h']
    rfl
  | some e =>
    have h' : d.entries.find? (fun e => e.1 = k) = some e := h
    have hk : e.1 = k := by simpa using List.find?_some h'
    rw [h', ← hk]
    rfl

/-- The dictionary a comprehension builds: a later entry wins, at the place of the first. -/
def ofList (es : List (κ × β)) : Dict κ β := es.foldl (fun d e => d.set e.1 e.2) empty

/-- Distinct new keys are appended in order. -/
theorem foldl_set_entries (es : List (κ × β)) (d : Dict κ β)
    (h : (d.keys ++ es.map Prod.fst).Nodup) :
    (es.foldl (fun d e => d.set e.1 e.2) d).entries = d.entries ++ es := by
  induction es generalizing d with
  | nil => rw [List.foldl_nil, List.append_nil]
  | cons e es ih =>
    have hk : e.1 ∉ d.keys := fun hm =>
      (List.nodup_append.mp h).2.2 _ hm _ List.mem_cons_self rfl
    have hset : (d.set e.1 e.2).entries = d.entries ++ [e] := by
      have hne : ∀ f ∈ d.entries, f.1 ≠ e.1 := fun f hf he => hk (List.mem_map.mpr ⟨f, hf, he⟩)
      exact setEntries_of_new hne
    have hkeys : (d.set e.1 e.2).keys = d.keys ++ [e.1] := by rw [keys_set, if_neg hk]
    rw [List.foldl_cons, ih, hset, List.append_assoc, List.singleton_append]
    rw [hkeys, List.append_assoc, List.singleton_append]
    exact h
where
  setEntries_of_new {es : List (κ × β)} {e : κ × β} (h : ∀ f ∈ es, f.1 ≠ e.1) :
      setEntries e.1 e.2 es = es ++ [e] := by
    induction es with
    | nil => rfl
    | cons f es ih =>
      rw [setEntries, if_neg (h f List.mem_cons_self),
        ih fun g hg => h g (List.mem_cons_of_mem _ hg), List.cons_append]

/-- Rewriting what a dictionary is built from rewrites its values in place. -/
theorem ofList_map {γ : Type} (es : List (κ × β)) (f : κ → β → γ) :
    (ofList (es.map fun e => (e.1, f e.1 e.2))).entries =
      (ofList es).entries.map fun e => (e.1, f e.1 e.2) := by
  suffices h : ∀ (d : Dict κ β) (d' : Dict κ γ),
      d'.entries = d.entries.map (fun e => (e.1, f e.1 e.2)) →
      ((es.map fun e => (e.1, f e.1 e.2)).foldl (fun d e => d.set e.1 e.2) d').entries =
        (es.foldl (fun d e => d.set e.1 e.2) d).entries.map fun e => (e.1, f e.1 e.2) from
    h empty empty rfl
  induction es with
  | nil => exact fun _ _ h => h
  | cons e es ih =>
    intro d d' h
    refine ih (d.set e.1 e.2) (d'.set e.1 (f e.1 e.2)) ?_
    show setEntries e.1 (f e.1 e.2) d'.entries = (setEntries e.1 e.2 d.entries).map _
    rw [h]
    exact setEntries_map e.1 e.2 d.entries
where
  setEntries_map (k : κ) (v : β) (es : List (κ × β)) :
      setEntries k (f k v) (es.map fun e => (e.1, f e.1 e.2)) =
        (setEntries k v es).map fun e => (e.1, f e.1 e.2) := by
    induction es with
    | nil => rfl
    | cons e es ih =>
      by_cases he : e.1 = k
      · simp [setEntries, he]
      · simp [setEntries, he, ih]

/-- Every value of the dictionary is one it was built from. -/
theorem mem_of_ofList {es : List (κ × β)} {k : κ} {v : β} (h : (ofList es).get? k = some v) :
    (k, v) ∈ es := by
  suffices run : ∀ d : Dict κ β, (es.foldl (fun d e => d.set e.1 e.2) d).get? k = some v →
      d.get? k = some v ∨ (k, v) ∈ es by
    rcases run empty h with h | h
    · cases h
    · exact h
  clear h
  induction es with
  | nil => exact fun d h => Or.inl h
  | cons e es ih =>
    intro d h
    rcases ih _ h with h | h
    · rw [get?_set] at h
      split at h
      · next he =>
        cases h
        exact Or.inr (he ▸ List.mem_cons_self)
      · exact Or.inl h
    · exact Or.inr (List.mem_cons_of_mem _ h)

/-- A dictionary has the keys that it is built from. -/
theorem mem_keys_ofList {es : List (κ × β)} {k : κ} :
    k ∈ (ofList es).keys ↔ k ∈ es.map Prod.fst := by
  suffices run : ∀ d : Dict κ β, k ∈ (es.foldl (fun d e => d.set e.1 e.2) d).keys ↔
      k ∈ d.keys ∨ k ∈ es.map Prod.fst by
    rw [ofList, run empty]
    exact or_iff_right List.not_mem_nil
  induction es with
  | nil => exact fun d => (or_iff_left List.not_mem_nil).symm
  | cons e es ih =>
    intro d
    rw [List.foldl_cons, ih, mem_keys_set, List.map_cons, List.mem_cons, or_assoc]

/-- A loop that sets the entries of another dictionary whose keys pass a test. -/
theorem get?_foldl_set_if (p : κ → Prop) [DecidablePred p] (d' d : Dict κ β) (k : κ) :
    (d'.entries.foldl (fun d e => if p e.1 then d.set e.1 e.2 else d) d).get? k =
      if p k then (d'.get? k).or (d.get? k) else d.get? k := by
  suffices run : ∀ es : List (κ × β), (es.map Prod.fst).Nodup → ∀ d : Dict κ β,
      (es.foldl (fun d e => if p e.1 then d.set e.1 e.2 else d) d).get? k =
        if p k then ((es.find? fun e => e.1 = k).map Prod.snd).or (d.get? k) else d.get? k from
    run d'.entries d'.nodup d
  intro es
  induction es with
  | nil =>
    intro _ d
    split <;> rfl
  | cons e es ih =>
    intro hes d
    obtain ⟨hnew, hes⟩ := List.nodup_cons.mp hes
    rw [List.foldl_cons, ih hes, List.find?_cons]
    by_cases hk : e.1 = k
    · have hnone : es.find? (fun e => e.1 = k) = none := List.find?_eq_none.mpr fun f hf hfk =>
        hnew (List.mem_map.mpr ⟨f, hf, (of_decide_eq_true hfk).trans hk.symm⟩)
      subst hk
      rw [hnone, decide_eq_true rfl]
      split
      · exact d.get?_set_self e.1 e.2
      · rfl
    · have hrest : (if p e.1 then d.set e.1 e.2 else d).get? k = d.get? k := by
        split
        · exact d.get?_set_of_ne (Ne.symm hk) e.2
        · rfl
      rw [hrest, decide_eq_false hk]

/-- The elements of a dictionary of lists. -/
theorem mem_flatten_values {d : Dict κ (List β)} {b : β} :
    b ∈ d.values.flatten ↔ ∃ k l, d.get? k = some l ∧ b ∈ l := by
  rw [List.mem_flatten, values]
  constructor
  · rintro ⟨l, hl, hb⟩
    obtain ⟨e, he, rfl⟩ := List.mem_map.mp hl
    exact ⟨e.1, e.2, d.get?_eq_some.mpr he, hb⟩
  · rintro ⟨k, l, hl, hb⟩
    exact ⟨l, List.mem_map.mpr ⟨_, d.get?_eq_some.mp hl, rfl⟩, hb⟩

/-- `d[k].append(v)` on a `defaultdict(list)`. -/
theorem mem_flatten_set_append (d : Dict κ (List β)) (k : κ) (v b : β) :
    b ∈ (d.set k (d.getD k [] ++ [v])).values.flatten ↔ b ∈ d.values.flatten ∨ b = v := by
  rw [mem_flatten_values, mem_flatten_values]
  constructor
  · rintro ⟨j, l, hl, hb⟩
    rw [get?_set] at hl
    split at hl
    · cases hl
      rcases List.mem_append.mp hb with hb | hb
      · rw [getD] at hb
        cases hk : d.get? k with
        | none =>
          rw [hk] at hb
          exact absurd hb List.not_mem_nil
        | some l =>
          rw [hk] at hb
          exact Or.inl ⟨k, l, hk, hb⟩
      · exact Or.inr (List.mem_singleton.mp hb)
    · exact Or.inl ⟨j, l, hl, hb⟩
  · rintro (⟨j, l, hl, hb⟩ | rfl)
    · by_cases hj : j = k
      · subst hj
        refine ⟨j, _, d.get?_set_self j _, List.mem_append_left _ ?_⟩
        rw [getD, hl]
        exact hb
      · exact ⟨j, l, (d.get?_set_of_ne hj _).trans hl, hb⟩
    · exact ⟨k, _, d.get?_set_self k _, List.mem_append_right _ (List.mem_singleton_self _)⟩

theorem ofList_entries {es : List (κ × β)} (h : (es.map Prod.fst).Nodup) :
    (ofList es).entries = es := by
  rw [ofList, foldl_set_entries es empty (by simpa [keys, empty] using h)]
  rfl

end Dict

end Library
