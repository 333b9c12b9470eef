/-
  File:      Brackets/Library/Network.lean
  Subject:   Networks of nodes whose slots are fed by other nodes.

  A node has slots. A slot may name a source, another node of lower rank; every other slot is a
  leaf. What a node sends on is a function of its own slots. A filling of all slots is SETTLED
  when every fed slot holds what its source sends.

  * `changed_feeds`: when one node `m` sends by a new function, the settled filling changes only
    at nodes `m` feeds, directly or through others;
  * `feeds_same_rank`: where no node is named by two nodes, these are one per rank;
  * `merge_settled`: two changes at different nodes whose effects do not meet may be applied side
    by side: the merged filling is settled for both changes at once.
-/
import Mathlib.Logic.Relation

namespace Library

/-- Slots `σ` of nodes `ν`, and the node that feeds a slot. -/
structure Network (ν σ : Type) where
  source : ν → σ → Option ν
  rank : ν → Nat
  descends : ∀ {x i y}, source x i = some y → rank y < rank x

namespace Network

variable {ν σ ι : Type} (N : Network ν σ)

/-- Every fed slot holds what its source sends. -/
def Settled (out : ν → (σ → ι) → ι) (F : ν → σ → ι) : Prop :=
  ∀ x i y, N.source x i = some y → F x i = out y (F y)

/-- The fillings agree on the slots nothing feeds. -/
def SameLeaves (F G : ν → σ → ι) : Prop := ∀ x i, N.source x i = none → F x i = G x i

/-- `x` names `y` as the source of one of its slots. -/
def Reads (y x : ν) : Prop := ∃ i, N.source x i = some y

/-- `m` feeds `x`, directly or through other nodes. -/
def Feeds (m x : ν) : Prop := Relation.TransGen N.Reads m x

variable {N}

/-- **A change at `m` is seen only where `m` feeds.** -/
theorem changed_feeds {out out' : ν → (σ → ι) → ι} {F G : ν → σ → ι} {m : ν}
    (hF : N.Settled out F) (hG : N.Settled out' G) (hl : N.SameLeaves F G)
    (hout : ∀ y, y ≠ m → out' y = out y) (x : ν) (hx : ¬ N.Feeds m x) : G x = F x := by
  have step : ∀ n x, N.rank x < n → ¬ N.Feeds m x → G x = F x := by
    intro n
    induction n with
    | zero => exact fun x h => absurd h (Nat.not_lt_zero _)
    | succ n ih =>
      intro x hr hx
      funext i
      cases hs : N.source x i with
      | none => exact (hl x i hs).symm
      | some y =>
        have hym : y ≠ m := fun e => hx (.single ⟨i, e ▸ hs⟩)
        have hy : ¬ N.Feeds m y := fun h => hx (.tail h ⟨i, hs⟩)
        rw [hG x i y hs, hF x i y hs, hout y hym, ih y (by have := N.descends hs; omega) hy]
  exact step (N.rank x + 1) x (Nat.lt_succ_self _) hx

/-! ## Chains -/

theorem feeds_rank {m x : ν} (h : N.Feeds m x) : N.rank m < N.rank x := by
  induction h with
  | single h => exact N.descends h.choose_spec
  | tail _ h ih => exact Nat.lt_trans ih (N.descends h.choose_spec)

/-- No node is named by two nodes. -/
def OneReader (N : Network ν σ) : Prop := Relator.RightUnique N.Reads

/-- **Where every node has one reader, a node feeds at most one node of each rank.** -/
theorem feeds_same_rank (h1 : N.OneReader) {m x y : ν} (hx : N.Feeds m x) (hy : N.Feeds m y)
    (hr : N.rank x = N.rank y) : x = y := by
  have later : ∀ {a b : ν}, Relation.ReflTransGen N.Reads a b → N.rank a = N.rank b → a = b := by
    intro a b h hab
    rcases Relation.reflTransGen_iff_eq_or_transGen.mp h with rfl | h
    · rfl
    · exact absurd (feeds_rank h) (by omega)
  rcases Relation.ReflTransGen.total_of_right_unique h1 hx.to_reflTransGen hy.to_reflTransGen with
    h | h
  · exact later h hr
  · exact (later h hr.symm).symm

/-! ## Two changes side by side -/

section Merge

variable {out₀ out₁ out₂ out : ν → (σ → ι) → ι} {F₀ F₁ F₂ : ν → σ → ι} {m₁ m₂ : ν}

open Classical in
/-- The first filling where it differs from the base, the second elsewhere. -/
noncomputable def merge (F₀ F₁ F₂ : ν → σ → ι) (x : ν) : σ → ι :=
  if F₁ x = F₀ x then F₂ x else F₁ x

theorem merge_of_eq {x : ν} (h : F₁ x = F₀ x) : merge F₀ F₁ F₂ x = F₂ x := if_pos h

theorem merge_of_ne {x : ν} (h : F₁ x ≠ F₀ x) : merge F₀ F₁ F₂ x = F₁ x := if_neg h

/-- Neither of two functions tells `a` from `b`, or the two agree on both. -/
def Blind (f g : (σ → ι) → ι) (a b : σ → ι) : Prop := f a = f b ∧ g a = g b ∨ f a = g a ∧ f b = g b

/-- **Two changes whose effects do not meet can be applied side by side.** No node is changed by
    both, neither changes its own node, and where one changes the slots of the node at which the
    other acts, this makes no difference there. -/
theorem merge_settled (h0 : N.Settled out₀ F₀) (h1 : N.Settled out₁ F₁) (h2 : N.Settled out₂ F₂)
    (ho1 : ∀ y, y ≠ m₁ → out₁ y = out₀ y) (ho2 : ∀ y, y ≠ m₂ → out₂ y = out₀ y)
    (hm1 : out m₁ = out₁ m₁) (hm2 : ∀ y, y ≠ m₁ → out y = out₂ y)
    (hdis : ∀ x, F₁ x = F₀ x ∨ F₂ x = F₀ x) (h11 : F₁ m₁ = F₀ m₁) (h22 : F₂ m₂ = F₀ m₂)
    (h12 : Blind (out₀ m₂) (out₂ m₂) (F₀ m₂) (F₁ m₂))
    (h21 : Blind (out₀ m₁) (out₁ m₁) (F₀ m₁) (F₂ m₁)) (hne : m₁ ≠ m₂) :
    N.Settled out (merge F₀ F₁ F₂) := by
  intro x i y hs
  have e0 := h0 x i y hs
  have e1 := h1 x i y hs
  have e2 := h2 x i y hs
  by_cases hym1 : y = m₁
  · -- the scores of `m₁` count, with the slots the second change gives it
    subst hym1
    rw [merge_of_eq h11, hm1]
    rw [h11] at e1
    rw [ho2 y hne] at e2
    rcases h21 with ⟨hold, hnew⟩ | ⟨hbase, hmoved⟩
    · by_cases hx : F₁ x = F₀ x
      · rw [merge_of_eq hx, e2, ← hold, ← e0, ← hx, e1, hnew]
      · rw [merge_of_ne hx, e1, hnew]
    · by_cases hx : F₁ x = F₀ x
      · rw [merge_of_eq hx, e2, hmoved]
      · have h2x := (hdis x).resolve_left hx
        rw [merge_of_ne hx, e1, ← hbase, ← e0, ← h2x, e2, hmoved]
  · by_cases hym2 : y = m₂
    · -- the scores of `m₂` count, with the slots the first change gives it
      subst hym2
      have hslots : merge F₀ F₁ F₂ y = F₁ y := by
        by_cases hy : F₁ y = F₀ y
        · rw [merge_of_eq hy, h22, hy]
        · rw [merge_of_ne hy]
      rw [hslots, hm2 y hym1]
      rw [h22] at e2
      rw [ho1 y hym1] at e1
      rcases h12 with ⟨hold, hnew⟩ | ⟨hbase, hmoved⟩
      · by_cases hx : F₁ x = F₀ x
        · rw [merge_of_eq hx, e2, hnew]
        · have h2x := (hdis x).resolve_left hx
          rw [merge_of_ne hx, e1, ← hold, ← e0, ← h2x, e2, hnew]
      · by_cases hx : F₁ x = F₀ x
        · rw [merge_of_eq hx, e2, ← hbase, ← e0, ← hx, e1, hmoved]
        · rw [merge_of_ne hx, e1, hmoved]
    · -- at all other nodes the one change or the other
      rw [hm2 y hym1, ho2 y hym2]
      rw [ho1 y hym1] at e1
      rw [ho2 y hym2] at e2
      by_cases hy : F₁ y = F₀ y
      · rw [merge_of_eq hy, ← e2]
        by_cases hx : F₁ x = F₀ x
        · rw [merge_of_eq hx]
        · have h2x := (hdis x).resolve_left hx
          rw [merge_of_ne hx, e1, hy, ← e0, h2x]
      · have h2y := (hdis y).resolve_left hy
        rw [merge_of_ne hy, ← e1]
        by_cases hx : F₁ x = F₀ x
        · rw [merge_of_eq hx, e2, h2y, ← e0, hx]
        · rw [merge_of_ne hx]

end Merge

end Network

end Library
