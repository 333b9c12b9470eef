/-
  File:      Brackets/Library/Windows.lean
  Subject:   Counters with fixed windows, and a gate that is shut by failures.

  The first hit of a key opens its window, which counts hits until its end; then the key has none
  (`Windows`). A gate admits attempts while the window of their key has fewer than `limit` hits, and
  a failed attempt hits it when it ends (`Gate.Step`). Attempts may overlap, so the hits of a window
  can exceed the limit, by no more than the attempts that were inside: `Gate.bounded`. A period as
  long as a window meets two windows at most: `Gate.failures_le`.
-/
import Mathlib.Logic.Relation
import Mathlib.Logic.Function.Basic
import Mathlib.Data.List.Count
import Mathlib.Algebra.Order.Ring.Int

namespace Library

/-! ## 1. Windows -/

structure Window where
  hits : Nat
  resetAt : Int
  deriving DecidableEq, Repr

namespace Window

/-- The window, as long as it has not ended. -/
def current (w : Option Window) (t : Int) : Option Window := w.filter fun x => t < x.resetAt

def hitsAt (w : Option Window) (t : Int) : Nat := ((current w t).map (·.hits)).getD 0

/-- One more hit, in a new window if there is none. -/
def hit (length : Int) (w : Option Window) (t : Int) : Window :=
  ⟨hitsAt w t + 1, ((current w t).map (·.resetAt)).getD (t + length)⟩

theorem hitsAt_some (x : Window) (t : Int) :
    hitsAt (some x) t = if t < x.resetAt then x.hits else 0 := by
  unfold hitsAt current
  rw [Option.filter_some]
  by_cases h : t < x.resetAt <;> simp [h]

theorem hit_some (length : Int) (x : Window) (t : Int) :
    hit length (some x) t =
      if t < x.resetAt then ⟨x.hits + 1, x.resetAt⟩ else ⟨1, t + length⟩ := by
  unfold hit
  rw [hitsAt_some]
  unfold current
  rw [Option.filter_some]
  by_cases h : t < x.resetAt <;> simp [h]

end Window

/-- The windows of all keys. -/
abbrev Windows (κ : Type) : Type := κ → Option Window

namespace Windows

variable {κ : Type} [DecidableEq κ]

def hit (length : Int) (w : Windows κ) (t : Int) (k : κ) : Windows κ :=
  Function.update w k (some (Window.hit length (w k) t))

def clear (w : Windows κ) (k : κ) : Windows κ := Function.update w k none

variable (length : Int) (w : Windows κ) (t : Int) {k j : κ}

@[simp] theorem hit_self : w.hit length t k k = some (Window.hit length (w k) t) :=
  Function.update_self ..

theorem hit_of_ne (h : j ≠ k) : w.hit length t k j = w j := Function.update_of_ne h ..

@[simp] theorem clear_self : w.clear k k = none := Function.update_self ..

theorem clear_of_ne (h : j ≠ k) : w.clear k j = w j := Function.update_of_ne h ..

end Windows

/-! ## 2. A gate -/

/-- The window of one key, how many attempts are inside, the time, and when attempts have failed
    since the window was last cleared. -/
structure Gate where
  window : Option Window
  inside : Nat
  now : Int
  failures : List Int

namespace Gate

/-- No more than `most` attempts are inside at a time. -/
inductive Step (limit most : Nat) (length : Int) : Gate → Gate → Prop
  | wait {g : Gate} {t : Int} (later : g.now ≤ t) : Step limit most length g { g with now := t }
  | enter {g : Gate} (free : Window.hitsAt g.window g.now < limit) (room : g.inside < most) :
      Step limit most length g { g with inside := g.inside + 1 }
  | fail {g : Gate} {n : Nat} (from_ : g.inside = n + 1) :
      Step limit most length g
        ⟨some (Window.hit length g.window g.now), n, g.now, g.now :: g.failures⟩
  | leave {g : Gate} {n : Nat} (from_ : g.inside = n + 1) :
      Step limit most length g { g with inside := n }
  | clear {g : Gate} : Step limit most length g { g with window := none, failures := [] }

/-- The failures in a period as long as a window. -/
def failedFrom (length : Int) (failures : List Int) (t : Int) : Nat :=
  failures.countP fun s => t ≤ s ∧ s < t + length

theorem failedFrom_cons (length s : Int) (failures : List Int) (t : Int) :
    failedFrom length (s :: failures) t =
      failedFrom length failures t + if t ≤ s ∧ s < t + length then 1 else 0 := by
  simp [failedFrom, List.countP_cons]

theorem failedFrom_eq_zero {length : Int} {failures : List Int} {t : Int}
    (h : ∀ s ∈ failures, s < t) : failedFrom length failures t = 0 := by
  refine List.countP_eq_zero.mpr fun s hs => ?_
  have := h s hs
  simp only [decide_eq_true_eq]
  omega

/-- What the failures are to a window that has been opened: those from its start on are its hits,
    and those of a period that begins before are its hits and the ones of the window before. -/
structure Opened (most : Nat) (length now : Int) (failures : List Int) (x : Window) : Prop where
  hits_le : x.hits ≤ most
  opened : x.resetAt - length ≤ now
  before : ∀ s ∈ failures, s < x.resetAt
  own : ∀ t, x.resetAt - length ≤ t → failedFrom length failures t ≤ x.hits
  both : ∀ t, x.resetAt - length < t + length → failedFrom length failures t ≤ most + x.hits
  all : ∀ t, failedFrom length failures t ≤ 2 * most

/-- The hits of the window and the attempts inside are no more than `most`, and so are the failures
    of any window. -/
structure Counted (most : Nat) (length : Int) (g : Gate) : Prop where
  room : Window.hitsAt g.window g.now + g.inside ≤ most
  closed : g.window = none → g.failures = []
  opened : ∀ x, g.window = some x → Opened most length g.now g.failures x

section Opened

variable {most : Nat} {length now : Int} {failures : List Int} {x : Window}

theorem Opened.later (h : Opened most length now failures x) {t : Int} (ht : now ≤ t) :
    Opened most length t failures x :=
  ⟨h.hits_le, h.opened.trans ht, h.before, h.own, h.both, h.all⟩

/-- A failure while the window is open. -/
theorem Opened.hit (h : Opened most length now failures x) (hopen : now < x.resetAt)
    (hroom : x.hits + 1 ≤ most) :
    Opened most length now (now :: failures) ⟨x.hits + 1, x.resetAt⟩ := by
  have hopened := h.opened
  refine ⟨hroom, hopened, ?_, fun t ht => ?_, fun t ht => ?_, fun t => ?_⟩
  · intro s hs
    rcases List.mem_cons.mp hs with rfl | hs
    · exact hopen
    · exact h.before s hs
  · have := h.own t ht
    rw [failedFrom_cons]
    dsimp only
    split <;> omega
  · have := h.both t ht
    rw [failedFrom_cons]
    dsimp only
    split <;> omega
  · rw [failedFrom_cons]
    by_cases hstart : x.resetAt - length < t + length
    · have := h.both t hstart
      split <;> omega
    · -- the period is over before the window is opened
      have := h.all t
      rw [if_neg (by omega)]
      omega

/-- A failure that opens a window, after another one has ended. -/
theorem Opened.reopen (h : Opened most length now failures x) (hended : x.resetAt ≤ now)
    (hlength : 0 < length) (hmost : 1 ≤ most) :
    Opened most length now (now :: failures) ⟨1, now + length⟩ := by
  have hnone : ∀ t, now ≤ t → failedFrom length failures t = 0 := fun t ht =>
    failedFrom_eq_zero fun s hs => by
      have := h.before s hs
      omega
  have hhits := h.hits_le
  refine ⟨hmost, by dsimp only; omega, ?_, fun t ht => ?_, fun t ht => ?_, fun t => ?_⟩
  · intro s hs
    rcases List.mem_cons.mp hs with rfl | hs
    · dsimp only
      omega
    · have := h.before s hs
      dsimp only
      omega
  · dsimp only at ht
    rw [failedFrom_cons, hnone t (by omega)]
    dsimp only
    split <;> omega
  · rw [failedFrom_cons]
    dsimp only at ht ⊢
    have hown : failedFrom length failures t ≤ most := by
      by_cases hstart : x.resetAt - length ≤ t
      · exact (h.own t hstart).trans hhits
      · omega
    split <;> omega
  · rw [failedFrom_cons]
    by_cases hstart : x.resetAt - length ≤ t
    · have := h.own t hstart
      split <;> omega
    · -- the period is over before the new window is opened
      have := h.all t
      rw [if_neg (by omega)]
      omega

/-- The first failure. -/
theorem Opened.first (hlength : 0 < length) (hmost : 1 ≤ most) :
    Opened most length now [now] ⟨1, now + length⟩ := by
  have hone : ∀ t, failedFrom length [now] t ≤ 1 := fun t => by
    rw [failedFrom_cons]
    split <;> simp [failedFrom]
  refine ⟨hmost, by dsimp only; omega, ?_, fun t _ => hone t, fun t _ => ?_, fun t => ?_⟩
  · intro s hs
    rw [List.mem_singleton.mp hs]
    dsimp only
    omega
  · have := hone t
    dsimp only
    omega
  · have := hone t
    omega

end Opened

variable {limit most : Nat} {length : Int} {g g' : Gate}

theorem Counted.fail (hlength : 0 < length) (hg : Counted most length g) {n : Nat}
    (hinside : g.inside = n + 1) : Counted most length
      ⟨some (Window.hit length g.window g.now), n, g.now, g.now :: g.failures⟩ := by
  have hroom := hg.room
  have hhits : (Window.hit length g.window g.now).hits = Window.hitsAt g.window g.now + 1 := rfl
  have hnow : Window.hitsAt (some (Window.hit length g.window g.now)) g.now ≤
      (Window.hit length g.window g.now).hits := by
    rw [Window.hitsAt_some]
    split <;> omega
  refine ⟨by dsimp only; omega, nofun, ?_⟩
  rintro x ⟨⟩
  cases hwindow : g.window with
  | none =>
    rw [hg.closed hwindow]
    exact .first hlength (by omega)
  | some x =>
    have hx := hg.opened x hwindow
    rw [hwindow, Window.hitsAt_some] at hroom
    dsimp only
    rw [Window.hit_some]
    by_cases hopen : g.now < x.resetAt
    · rw [if_pos hopen] at hroom ⊢
      exact hx.hit hopen (by omega)
    · rw [if_neg hopen]
      exact hx.reopen (by omega) hlength (by omega)

theorem Counted.step (hlength : 0 < length)
    (hg : Counted (limit - 1 + most) length g) (h : Step limit most length g g') :
    Counted (limit - 1 + most) length g' := by
  have hroom := hg.room
  cases h with
  | @wait t later =>
    refine ⟨?_, hg.closed, fun x hx => (hg.opened x hx).later later⟩
    have hle : Window.hitsAt g.window t ≤ Window.hitsAt g.window g.now := by
      cases g.window with
      | none => exact Nat.le_refl _
      | some x =>
        rw [Window.hitsAt_some, Window.hitsAt_some]
        split <;> split <;> omega
    exact (Nat.add_le_add_right hle _).trans hroom
  | enter free room =>
    refine ⟨?_, hg.closed, hg.opened⟩
    dsimp only
    omega
  | fail from_ => exact hg.fail hlength from_
  | leave from_ =>
    refine ⟨?_, hg.closed, hg.opened⟩
    dsimp only
    omega
  | clear =>
    refine ⟨?_, fun _ => rfl, nofun⟩
    have hnone : Window.hitsAt none g.now = 0 := rfl
    dsimp only
    omega

/-- A gate nobody has come to. -/
def fresh (now : Int) : Gate := ⟨none, 0, now, []⟩

theorem counted_fresh (now : Int) : Counted most length (fresh now) :=
  ⟨Nat.zero_le _, fun _ => rfl, nofun⟩

/-- **With at most `most` attempts inside at a time, a window gets at most `limit - 1 + most`
    failures**, and a period as long as a window at most twice as many. -/
theorem counted (hlength : 0 < length) {now : Int}
    (h : Relation.ReflTransGen (Step limit most length) (fresh now) g) :
    Counted (limit - 1 + most) length g := by
  induction h with
  | refl => exact counted_fresh now
  | tail _ hstep ih => exact ih.step hlength hstep

theorem Counted.failures_le (h : Counted most length g) (t : Int) :
    failedFrom length g.failures t ≤ 2 * most := by
  cases hwindow : g.window with
  | none =>
    rw [h.closed hwindow]
    exact Nat.zero_le _
  | some x => exact (h.opened x hwindow).all t

end Gate

end Library
