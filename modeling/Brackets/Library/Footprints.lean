/-
  File:      Brackets/Library/Footprints.lean
  Subject:   Steps that read and write a few keys of a state.

  A state assigns values to keys, and a step may fail. A step is local to a set of keys if it
  changes no other key and if neither its outcome nor what it writes depends on another key.

  * `LocalTo.comm`: steps without a common key commute, also where one of them fails;
  * `foldlM_perm`: such steps can be taken in any order;
  * `foldlM_perm_middle`: the same inside a longer run.
-/
import Mathlib.Data.List.Basic

namespace Library

variable {κ σ ε : Type}

/-! ## 1. Local steps -/

/-- A step that fails only with `e` and is local to the keys. -/
structure LocalTo (e : ε) (keys : κ → Prop) (step : (κ → σ) → Except ε (κ → σ)) : Prop where
  frame : ∀ s t, step s = .ok t → ∀ k, ¬ keys k → t k = s k
  reads : ∀ s s', (∀ k, keys k → s' k = s k) →
    (step s = .error e ∧ step s' = .error e) ∨
      ∃ t t', step s = .ok t ∧ step s' = .ok t' ∧ ∀ k, keys k → t' k = t k

/-- No key in common. -/
def Apart (keys keys' : κ → Prop) : Prop := ∀ k, keys k → ¬ keys' k

theorem Apart.symm {keys keys' : κ → Prop} (h : Apart keys keys') : Apart keys' keys :=
  fun k hk' hk => h k hk hk'

section Commute

variable {e : ε} {keys keys' : κ → Prop} {step step' : (κ → σ) → Except ε (κ → σ)}

/-- A step runs the same before and after one that shares no key with it. -/
theorem LocalTo.after (h : LocalTo e keys step) (h' : LocalTo e keys' step')
    (hapart : Apart keys keys') {s t' : κ → σ} (ht' : step' s = .ok t') :
    (step s = .error e ∧ step t' = .error e) ∨
      ∃ t u, step s = .ok t ∧ step t' = .ok u ∧ (∀ k, keys k → u k = t k) ∧
        ∀ k, ¬ keys k → u k = t' k := by
  rcases h.reads s t' fun k hk => h'.frame s t' ht' k (hapart k hk) with herror | ⟨t, u, ht, hu, hk⟩
  · exact Or.inl herror
  · exact Or.inr ⟨t, u, ht, hu, hk, h.frame t' u hu⟩

/-- **Steps without a common key commute.** -/
theorem LocalTo.comm (h : LocalTo e keys step) (h' : LocalTo e keys' step')
    (hapart : Apart keys keys') (s : κ → σ) : (step s >>= step') = (step' s >>= step) := by
  rcases h.reads s s fun _ _ => rfl with ⟨hs, -⟩ | ⟨t, -, ht, -, -⟩
  · rcases h'.reads s s fun _ _ => rfl with ⟨hs', -⟩ | ⟨t', -, ht', -, -⟩
    · rw [hs, hs']
      rfl
    · rcases h.after h' hapart ht' with ⟨-, hu⟩ | ⟨t, -, ht, -, -⟩
      · rw [hs, ht']
        exact hu.symm
      · rw [ht] at hs
        cases hs
  · rcases h'.reads s s fun _ _ => rfl with ⟨hs', -⟩ | ⟨t', -, ht', -, -⟩
    · rcases h'.after h hapart.symm ht with ⟨-, hu⟩ | ⟨t', -, ht', -, -⟩
      · rw [hs', ht]
        exact hu
      · rw [ht'] at hs'
        cases hs'
    · rcases h.after h' hapart ht' with ⟨hs, -⟩ | ⟨t1, u, ht1, hu, hin, hout⟩
      · rw [ht] at hs
        cases hs
      rcases h'.after h hapart.symm ht with ⟨hs', -⟩ | ⟨t1', u', ht1', hu', hin', hout'⟩
      · rw [ht'] at hs'
        cases hs'
      obtain rfl : t = t1 := Except.ok.inj (ht.symm.trans ht1)
      obtain rfl : t' = t1' := Except.ok.inj (ht'.symm.trans ht1')
      have hsame : u' = u := by
        funext k
        by_cases hk : keys k
        · rw [hin k hk, hout' k (hapart k hk)]
        · by_cases hk' : keys' k
          · rw [hin' k hk', hout k hk]
          · rw [hout k hk, hout' k hk', h.frame s t ht k hk, h'.frame s t' ht' k hk']
      rw [ht, ht']
      exact hu'.trans (hsame ▸ hu.symm)

end Commute

/-! ## 2. Runs -/

section Runs

variable {α : Type} {e : ε} {step : (κ → σ) → α → Except ε (κ → σ)} {keys : α → κ → Prop}
  (hlocal : ∀ a, LocalTo e (keys a) (step · a))

include hlocal

/-- **Steps of which no two have a common key can be taken in any order.** -/
theorem foldlM_perm {l l' : List α} (h : l.Perm l')
    (hapart : l.Pairwise fun a b => Apart (keys a) (keys b)) (s : κ → σ) :
    l.foldlM step s = l'.foldlM step s := by
  induction h generalizing s with
  | nil => rfl
  | cons a _ ih =>
    rw [List.foldlM_cons, List.foldlM_cons]
    exact congrArg _ (funext fun t => ih hapart.of_cons t)
  | swap a b l =>
    have hab := (List.pairwise_cons.mp hapart).1 a List.mem_cons_self
    rw [List.foldlM_cons, List.foldlM_cons]
    simp only [List.foldlM_cons]
    rw [← bind_assoc, ← bind_assoc, (hlocal b).comm (hlocal a) hab s]
  | trans hp _ ih ih' =>
    exact (ih hapart s).trans (ih' (hapart.perm hp fun h => h.symm) s)

/-- The same inside a longer run. -/
theorem foldlM_perm_middle {pre l l' post : List α} (h : l.Perm l')
    (hapart : l.Pairwise fun a b => Apart (keys a) (keys b)) (s : κ → σ) :
    (pre ++ (l ++ post)).foldlM step s = (pre ++ (l' ++ post)).foldlM step s := by
  simp only [List.foldlM_append]
  exact congrArg _ (funext fun t => by rw [foldlM_perm hlocal h hapart t])

end Runs

end Library
