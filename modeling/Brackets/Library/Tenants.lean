/-
  File:      Brackets/Library/Tenants.lean
  Subject:   Tables whose rows belong to tenants.

  A row has an owner, told by a function of the row (which may look into other tables), or none.
  `Table.owned` are the rows of one tenant, `Table.ownerAt` is the owner of the row under a key.
  `Table.ChangedBy` is what a tenant may do to a table without deleting: rewrite own rows and add
  own rows. `owned_congr` and `ownerAt_iff` carry what is known of one table to the tables whose
  rows are owned through it.
-/
import Brackets.Library.Table

namespace Library

namespace Table

variable {α τ : Type} [Keyed α]

/-- The owner of the row under a key. -/
def ownerAt (t : Table α) (owner : α → Option τ) (k : Int) : Option τ := (t.find? k).bind owner

theorem ownerAt_eq_some {t : Table α} {owner : α → Option τ} {k : Int} {b : τ} :
    t.ownerAt owner k = some b ↔ ∃ r ∈ t.rows, key r = k ∧ owner r = some b := by
  rw [ownerAt, Option.bind_eq_some_iff]
  constructor
  · rintro ⟨r, hr, hb⟩
    exact ⟨r, t.mem_of_find? hr, t.key_of_find? hr, hb⟩
  · rintro ⟨r, hr, rfl, hb⟩
    exact ⟨r, t.find?_key hr, hb⟩

theorem ownerAt_key {t : Table α} {owner : α → Option τ} {r : α} (hr : r ∈ t.rows) :
    t.ownerAt owner (key r) = owner r := by
  rw [ownerAt, t.find?_key hr, Option.bind_some]

/-- A row that stays keeps its owner. -/
theorem ownerAt_delete {t : Table α} {owner owner' : α → Option τ} {b : τ} {p : α → Bool} {k : Int}
    (h : t.ownerAt owner k = some b)
    (hstay : ∀ r ∈ t.rows, key r = k → p r = false ∧ owner' r = owner r) :
    (t.delete p).ownerAt owner' k = some b := by
  obtain ⟨r, hr, hk, hb⟩ := ownerAt_eq_some.mp h
  obtain ⟨hp, ho⟩ := hstay r hr hk
  exact ownerAt_eq_some.mpr ⟨r, t.mem_delete.mpr ⟨hr, hp⟩, hk, ho.trans hb⟩

/-- A projection that keeps the owners. -/
theorem ownerAt_map {t : Table α} {owner owner' : α → Option τ} {f : α → α}
    (hf : ∀ r, key (f r) = key r) (h : ∀ r, owner' (f r) = owner r) (k : Int) :
    (t.map f hf).ownerAt owner' k = t.ownerAt owner k := by
  rw [ownerAt, ownerAt, t.find?_map hf]
  cases t.find? k with
  | none => rfl
  | some r => exact h r

theorem ownerAt_of_delete {t : Table α} {owner : α → Option τ} {b : τ} {p : α → Bool} {k : Int}
    (h : (t.delete p).ownerAt owner k = some b) : t.ownerAt owner k = some b := by
  obtain ⟨r, hr, hk, hb⟩ := ownerAt_eq_some.mp h
  exact ownerAt_eq_some.mpr ⟨r, (t.mem_delete.mp hr).1, hk, hb⟩

theorem ownerAt_insert {t : Table α} {owner : α → Option τ} {b : τ} {mk : Int → α}
    {hk : ∀ k, key (mk k) = k} {k : Int} (h : t.ownerAt owner k = some b) :
    (t.insert mk hk).ownerAt owner k = some b := by
  obtain ⟨r, hr, hkey, hb⟩ := ownerAt_eq_some.mp h
  exact ownerAt_eq_some.mpr ⟨r, t.mem_insert.mpr (Or.inl hr), hkey, hb⟩

variable [DecidableEq τ]

/-- The rows of a tenant. -/
def owned (t : Table α) (owner : α → Option τ) (b : τ) : List α :=
  t.rows.filter fun r => owner r == some b

theorem mem_owned {t : Table α} {owner : α → Option τ} {b : τ} {r : α} :
    r ∈ t.owned owner b ↔ r ∈ t.rows ∧ owner r = some b := by
  rw [owned, List.mem_filter, beq_iff_eq]

/-- Tables with the same rows of a tenant agree on the keys of its rows. -/
theorem ownerAt_iff {t t' : Table α} {owner owner' : α → Option τ} {b : τ}
    (h : t'.owned owner' b = t.owned owner b) (k : Int) :
    t'.ownerAt owner' k = some b ↔ t.ownerAt owner k = some b := by
  have hrow : ∀ r, r ∈ t'.rows ∧ owner' r = some b ↔ r ∈ t.rows ∧ owner r = some b := by
    intro r
    rw [← mem_owned, ← mem_owned, h]
  rw [ownerAt_eq_some, ownerAt_eq_some]
  constructor
  · rintro ⟨r, hr, hk, hb⟩
    obtain ⟨hr, hb⟩ := (hrow r).mp ⟨hr, hb⟩
    exact ⟨r, hr, hk, hb⟩
  · rintro ⟨r, hr, hk, hb⟩
    obtain ⟨hr, hb⟩ := (hrow r).mpr ⟨hr, hb⟩
    exact ⟨r, hr, hk, hb⟩

theorem owned_congr {t : Table α} {owner owner' : α → Option τ} {b : τ}
    (h : ∀ r, owner' r = some b ↔ owner r = some b) : t.owned owner' b = t.owned owner b := by
  refine List.filter_congr fun r _ => ?_
  rw [Bool.eq_iff_iff, beq_iff_eq, beq_iff_eq]
  exact h r

theorem owned_update {t : Table α} {owner : α → Option τ} {b : τ} {p : α → Bool} {f : α → α}
    (hf : ∀ r, key (f r) = key r)
    (h : ∀ r ∈ t.rows, p r = true → owner r ≠ some b ∧ owner (f r) ≠ some b) :
    (t.update p f hf).owned owner b = t.owned owner b := by
  have run : ∀ l : List α, (∀ r ∈ l, p r = true → owner r ≠ some b ∧ owner (f r) ≠ some b) →
      (l.map fun r => if p r then f r else r).filter (fun r => owner r == some b) =
        l.filter fun r => owner r == some b := by
    intro l
    induction l with
    | nil => exact fun _ => rfl
    | cons r l ih =>
      intro hl
      have ih := ih fun r hr => hl r (List.mem_cons_of_mem _ hr)
      rw [List.map_cons, List.filter_cons, List.filter_cons, ih]
      by_cases hp : p r = true
      · obtain ⟨h1, h2⟩ := hl r List.mem_cons_self hp
        rw [if_pos hp, beq_eq_false_iff_ne.mpr h1, beq_eq_false_iff_ne.mpr h2,
          if_neg Bool.false_ne_true, if_neg Bool.false_ne_true]
      · rw [if_neg hp]
  exact run t.rows h

theorem owned_delete {t : Table α} {owner : α → Option τ} {b : τ} {p : α → Bool}
    (h : ∀ r ∈ t.rows, p r = true → owner r ≠ some b) :
    (t.delete p).owned owner b = t.owned owner b := by
  unfold owned delete
  rw [List.filter_filter]
  refine List.filter_congr fun r hr => ?_
  cases hp : p r with
  | false => rw [Bool.not_false, Bool.and_true]
  | true => rw [beq_eq_false_iff_ne.mpr (h r hr hp), Bool.false_and]

/-- A projection that leaves the rows of a tenant alone and changes no owner. -/
theorem owned_map {t : Table α} {owner : α → Option τ} {b : τ} {f : α → α}
    (hf : ∀ r, key (f r) = key r) (howner : ∀ r, owner (f r) = owner r)
    (h : ∀ r ∈ t.rows, owner r = some b → f r = r) :
    (t.map f hf).owned owner b = t.owned owner b := by
  unfold owned
  rw [rows_map, List.filter_map]
  have hq : ((fun r => owner r == some b) ∘ f) = fun r => owner r == some b := by
    funext r
    rw [Function.comp, howner]
  rw [hq]
  conv_rhs => rw [← List.map_id (t.rows.filter _)]
  refine List.map_congr_left fun r hr => ?_
  rw [List.mem_filter, beq_iff_eq] at hr
  exact h r hr.1 hr.2

theorem owned_insert {t : Table α} {owner : α → Option τ} {b : τ} {mk : Int → α}
    {hk : ∀ k, key (mk k) = k} (h : owner (mk t.next) ≠ some b) :
    (t.insert mk hk).owned owner b = t.owned owner b := by
  rw [owned, filter_insert, beq_eq_false_iff_ne.mpr h]
  exact List.append_nil _

theorem mem_of_owned {t t' : Table α} {owner owner' : α → Option τ} {b : τ} {r : α}
    (h : t'.owned owner' b = t.owned owner b) (hr : r ∈ t'.rows) (hb : owner' r = some b) :
    r ∈ t.rows := by
  have hmem := mem_owned.mpr ⟨hr, hb⟩
  rw [h] at hmem
  exact (mem_owned.mp hmem).1

theorem length_owned_map {t : Table α} {owner owner' : α → Option τ} {b : τ} {f : α → α}
    (hf : ∀ r, key (f r) = key r) (h : ∀ r, owner' (f r) = owner r) :
    ((t.map f hf).owned owner' b).length = (t.owned owner b).length := by
  unfold owned
  rw [rows_map, List.filter_map, List.length_map]
  congr 2
  funext r
  exact congrArg (· == some b) (h r)

theorem length_owned_insert {t : Table α} {owner : α → Option τ} {b : τ} {mk : Int → α}
    {hk : ∀ k, key (mk k) = k} :
    ((t.insert mk hk).owned owner b).length ≤ (t.owned owner b).length + 1 := by
  unfold owned
  rw [filter_insert, List.length_append]
  split
  · exact Nat.le_refl _
  · exact Nat.le_succ _

/-- A list that names every row of a tenant is no shorter than its rows. -/
theorem length_owned_le {β : Type} {t : Table α} {owner : α → Option τ} {b : τ} {l : List β}
    (name : β → Int) (h : ∀ r ∈ t.rows, owner r = some b → ∃ x ∈ l, name x = key r) :
    (t.owned owner b).length ≤ l.length := by
  have hnodup : ((t.owned owner b).map key).Nodup :=
    List.pairwise_map.mpr ((t.sorted_filter _).imp fun h => ne_of_lt h)
  have hsubset : (t.owned owner b).map key ⊆ l.map name := by
    intro k hk
    obtain ⟨r, hr, rfl⟩ := List.mem_map.mp hk
    obtain ⟨hr, hb⟩ := mem_owned.mp hr
    obtain ⟨x, hx, e⟩ := h r hr hb
    exact List.mem_map.mpr ⟨x, hx, e⟩
  have hle := (List.subperm_of_subset hnodup hsubset).length_le
  rwa [List.length_map, List.length_map] at hle

/-- A table whose rows of a tenant were the tenant's before has no more of them. -/
theorem length_owned_mono {t t' : Table α} {owner owner' : α → Option τ} {b : τ}
    (h : ∀ r ∈ t'.rows, owner' r = some b → r ∈ t.rows ∧ owner r = some b) :
    (t'.owned owner' b).length ≤ (t.owned owner b).length :=
  length_owned_le key fun r hr hb => ⟨r, mem_owned.mpr (h r hr hb), rfl⟩

theorem length_owned_delete {t : Table α} {owner : α → Option τ} {b : τ} {p : α → Bool} :
    ((t.delete p).owned owner b).length ≤ (t.owned owner b).length :=
  length_owned_mono fun _ hr hb => ⟨(t.mem_delete.mp hr).1, hb⟩

/-- A selection of rows of a tenant is the same in tables with the same rows of the tenant. -/
theorem filter_owned {t t' : Table α} {owner owner' : α → Option τ} {b : τ}
    (h : t'.owned owner' b = t.owned owner b) {p : α → Bool}
    (hp : ∀ r ∈ t.rows, p r = true → owner r = some b)
    (hp' : ∀ r ∈ t'.rows, p r = true → owner' r = some b) :
    t'.rows.filter p = t.rows.filter p := by
  have hsel : ∀ (u : Table α) (o : α → Option τ), (∀ r ∈ u.rows, p r = true → o r = some b) →
      u.rows.filter p = (u.owned o b).filter p := by
    intro u o ho
    rw [owned, List.filter_filter]
    refine List.filter_congr fun r hr => ?_
    cases hpr : p r with
    | false => rfl
    | true => rw [ho r hr hpr, beq_self_eq_true, Bool.and_true]
  rw [hsel t owner hp, hsel t' owner' hp', h]

/-- A row of a tenant is found in every table with the same rows of the tenant. -/
theorem find?_owned {t t' : Table α} {owner owner' : α → Option τ} {b : τ}
    (h : t'.owned owner' b = t.owned owner b) {k : Int} (hk : t.ownerAt owner k = some b) :
    t'.find? k = t.find? k := by
  obtain ⟨r, hr, rfl, hb⟩ := ownerAt_eq_some.mp hk
  have hmem := mem_owned.mpr ⟨hr, hb⟩
  rw [← h] at hmem
  rw [t.find?_key hr, t'.find?_key (mem_owned.mp hmem).1]

/-! ## Changes by a tenant -/

/-- The rows of other tenants stay, no row is lost or changes hands, and what is new or rewritten
    belongs to the tenant and satisfies `P`. -/
structure ChangedBy (owner : α → Option τ) (a : τ) (P : α → Prop) (t t' : Table α) : Prop where
  others : ∀ b, b ≠ a → t'.owned owner b = t.owned owner b
  kept : ∀ r ∈ t.rows, ∃ r' ∈ t'.rows, key r' = key r ∧ owner r' = owner r
  rows : ∀ r ∈ t'.rows, r ∈ t.rows ∨ owner r = some a ∧ P r

variable {owner : α → Option τ} {a : τ} {P : α → Prop} {t : Table α}

theorem ChangedBy.refl : t.ChangedBy owner a P t where
  others _ _ := rfl
  kept r hr := ⟨r, hr, rfl, rfl⟩
  rows _ hr := Or.inl hr

theorem ChangedBy.update {p : α → Bool} {f : α → α} {hf : ∀ r, key (f r) = key r}
    (h : ∀ r ∈ t.rows, p r = true → owner r = some a ∧ owner (f r) = some a ∧ P (f r)) :
    t.ChangedBy owner a P (t.update p f hf) where
  others b hb := owned_update hf fun r hr hp => by
    obtain ⟨h1, h2, -⟩ := h r hr hp
    rw [h1, h2]
    exact ⟨fun e => hb (Option.some.inj e).symm, fun e => hb (Option.some.inj e).symm⟩
  kept r hr := by
    refine ⟨if p r then f r else r, List.mem_map_of_mem hr, ?_, ?_⟩
    · split
      · exact hf r
      · rfl
    · split
      · next hp =>
        obtain ⟨h1, h2, -⟩ := h r hr hp
        rw [h1, h2]
      · rfl
  rows r hr := by
    obtain ⟨s, hs, rfl⟩ := List.mem_map.mp hr
    split
    · next hp => exact Or.inr (h s hs hp).2
    · exact Or.inl hs

theorem ChangedBy.insert {mk : Int → α} {hk : ∀ k, key (mk k) = k}
    (h : owner (mk t.next) = some a ∧ P (mk t.next)) :
    t.ChangedBy owner a P (t.insert mk hk) where
  others b hb := owned_insert fun e => hb (Option.some.inj (e.symm.trans h.1))
  kept r hr := ⟨r, t.mem_insert.mpr (Or.inl hr), rfl, rfl⟩
  rows r hr := by
    rcases t.mem_insert.mp hr with hr | rfl
    · exact Or.inl hr
    · exact Or.inr h

/-- A key keeps its owner. -/
theorem ChangedBy.ownerAt {t' : Table α} (h : t.ChangedBy owner a P t') {owner' : α → Option τ}
    {k : Int} {b : τ} (howner : ∀ r, owner r = some b → owner' r = some b)
    (hk : t.ownerAt owner k = some b) : t'.ownerAt owner' k = some b := by
  obtain ⟨r, hr, rfl, hb⟩ := ownerAt_eq_some.mp hk
  obtain ⟨r', hr', hkey, ho⟩ := h.kept r hr
  exact ownerAt_eq_some.mpr ⟨r', hr', hkey, howner r' (ho.trans hb)⟩

end Table

end Library
