/-
  File:      Brackets/Library/Sessions.lean
  Subject:   Two READ COMMITTED transactions side by side.

  A transaction writes rows, reads once, and writes what follows from what it saw. Its read sees
  what is stored, that is what other transactions have committed, together with its own writes. A
  written row stays locked until the transaction ends, so the other session cannot write it in
  between and the writes may be applied to the store at the commit.

  `outcome`: when both have committed, the store is that of the two transactions one after the
  other, or both have read the store of the start. The first happens only in a run where a
  transaction reads after the other has committed (`ReadsAfter`), the second only where one
  commits between the other's read and its commit (`OverRead`).
-/
import Mathlib.Logic.Relation
import Mathlib.Logic.Function.Basic

namespace Library

/-- A write of one row. -/
structure Write (σ κ : Type) where
  row : κ
  apply : σ → σ

/-- The writes before the read, and those that follow from what it sees; `none` if the transaction
    fails. -/
structure Transaction (σ κ : Type) where
  before : List (Write σ κ)
  after : σ → Option (List (Write σ κ))

/-- How far a session is: the writes it has made and those still ahead of it. -/
inductive Phase (σ κ : Type) where
  | early (done left : List (Write σ κ))
  | late (done left : List (Write σ κ))
  | failed
  | committed

/-- What is stored, and the two sessions. -/
structure Sessions (σ κ : Type) where
  stored : σ
  phase : Bool → Phase σ κ

namespace Sessions

variable {σ κ : Type}

def applyAll (ws : List (Write σ κ)) (s : σ) : σ := ws.foldl (fun s w => w.apply s) s

theorem applyAll_append (vs ws : List (Write σ κ)) (s : σ) :
    applyAll (vs ++ ws) s = applyAll ws (applyAll vs s) := List.foldl_append

/-- The rows a session has written and not committed. -/
def locks : Phase σ κ → List κ
  | .early done _ => done.map (·.row)
  | .late done _ => done.map (·.row)
  | _ => []

def setPhase (s : Sessions σ κ) (i : Bool) (p : Phase σ κ) : Sessions σ κ :=
  { s with phase := Function.update s.phase i p }

@[simp] theorem setPhase_self (s : Sessions σ κ) (i : Bool) (p : Phase σ κ) :
    (s.setPhase i p).phase i = p := by
  simp [setPhase]

@[simp] theorem setPhase_other (s : Sessions σ κ) (i : Bool) (p : Phase σ κ) :
    (s.setPhase i p).phase (!i) = s.phase (!i) := by
  have hne : (!i) ≠ i := by cases i <;> decide
  simp [setPhase, hne]

@[simp] theorem setPhase_stored (s : Sessions σ κ) (i : Bool) (p : Phase σ κ) :
    (s.setPhase i p).stored = s.stored := rfl

/-- Both sessions before their first write. -/
def start (txs : Bool → Transaction σ κ) (base : σ) : Sessions σ κ where
  stored := base
  phase i := .early [] (txs i).before

/-! ## 1. A session on its way -/

/-- The whole of a transaction that read `seen`, applied to `s`. -/
def Effect (tx : Transaction σ κ) (seen s s' : σ) : Prop :=
  ∃ ws, tx.after (applyAll tx.before seen) = some ws ∧ s' = applyAll (tx.before ++ ws) s

/-- A session on its way: its writes are those of a transaction that read one of `seen`. -/
def OnWay (tx : Transaction σ κ) (seen : σ → Prop) : Phase σ κ → Prop
  | .early done left => done ++ left = tx.before
  | .late done left => ∃ c, seen c ∧ ∃ ws, tx.after (applyAll tx.before c) = some ws ∧
      done ++ left = tx.before ++ ws
  | .failed => True
  | .committed => False

theorem OnWay.not_committed {tx : Transaction σ κ} {seen : σ → Prop}
    (h : OnWay tx seen (.committed : Phase σ κ)) : False := h

/-- A session that commits has made all its writes. -/
theorem OnWay.effect {tx : Transaction σ κ} {seen : σ → Prop} {done : List (Write σ κ)}
    (h : OnWay tx seen (.late done [])) (s : σ) : ∃ c, seen c ∧ Effect tx c s (applyAll done s) := by
  obtain ⟨c, hc, ws, hafter, hws⟩ := h
  exact ⟨c, hc, ws, hafter, by rw [← hws, List.append_nil]⟩

theorem not_late_nil_or (p : Phase σ κ) :
    (∃ done, p = .late done []) ∨ ∀ done, p ≠ .late done [] := by
  cases p with
  | late done left =>
    cases left with
    | nil => exact Or.inl ⟨done, rfl⟩
    | cons w left => exact Or.inr fun _ h => nomatch h
  | early _ _ => exact Or.inr fun _ h => nomatch h
  | failed => exact Or.inr fun _ h => nomatch h
  | committed => exact Or.inr fun _ h => nomatch h

theorem forall_bool {P : Bool → Prop} (i : Bool) (h : P i) (h' : P (!i)) : ∀ j, P j := by
  intro j
  cases i <;> cases j <;> assumption

/-! ## 2. Moves -/

variable [DecidableEq κ]

/-- The next move of a session; `none` while it waits for a row, and after its end. -/
def move (txs : Bool → Transaction σ κ) (s : Sessions σ κ) (i : Bool) : Option (Sessions σ κ) :=
  match s.phase i with
  | .early done (w :: left) =>
    if w.row ∈ locks (s.phase (!i)) then none
    else some (s.setPhase i (.early (done ++ [w]) left))
  | .early done [] =>
    match (txs i).after (applyAll done s.stored) with
    | some left => some (s.setPhase i (.late done left))
    | none => some (s.setPhase i .failed)
  | .late done (w :: left) =>
    if w.row ∈ locks (s.phase (!i)) then none
    else some (s.setPhase i (.late (done ++ [w]) left))
  | .late done [] => some { s.setPhase i .committed with stored := applyAll done s.stored }
  | .failed => none
  | .committed => none

/-- A session is about to commit while the other stands between its read and its commit. -/
def OverRead (s : Sessions σ κ) (i : Bool) : Prop :=
  (∃ done, s.phase i = .late done []) ∧ ∃ done left, s.phase (!i) = .late done left

/-- A session is about to read what the other has committed. -/
def ReadsAfter (s : Sessions σ κ) (i : Bool) : Prop :=
  (∃ done, s.phase i = .early done []) ∧ s.phase (!i) = .committed

/-- A step of a run in which a session commits over the other's read only if its `C` holds, and
    reads what the other has committed only if its `R` holds of that. -/
def StepWhen (txs : Bool → Transaction σ κ) (C : Bool → Prop) (R : Bool → σ → Prop)
    (s s' : Sessions σ κ) : Prop :=
  ∃ i, move txs s i = some s' ∧ (s.OverRead i → C i) ∧ (s.ReadsAfter i → R i s.stored)

/-- A step of a run in which commits over a read satisfy `C`. -/
def Step (txs : Bool → Transaction σ κ) (C : Prop) (s s' : Sessions σ κ) : Prop :=
  ∃ i, move txs s i = some s' ∧ (s.OverRead i → C)

variable {txs : Bool → Transaction σ κ} {s s' : Sessions σ κ} {i : Bool}

/-- **A move writes, reads, fails or commits.** -/
theorem move_cases (h : move txs s i = some s') :
    (∃ done w left, s.phase i = .early done (w :: left) ∧
      s' = s.setPhase i (.early (done ++ [w]) left)) ∨
    (∃ done left, s.phase i = .early done [] ∧
      (txs i).after (applyAll done s.stored) = some left ∧ s' = s.setPhase i (.late done left)) ∨
    (s' = s.setPhase i .failed) ∨
    (∃ done w left, s.phase i = .late done (w :: left) ∧
      s' = s.setPhase i (.late (done ++ [w]) left)) ∨
    (∃ done, s.phase i = .late done [] ∧
      s' = { s.setPhase i .committed with stored := applyAll done s.stored }) := by
  unfold move at h
  split at h
  · next done w left hp =>
    split at h
    · cases h
    · exact Or.inl ⟨done, w, left, hp, (Option.some.inj h).symm⟩
  · next done hp =>
    split at h
    · next left hafter =>
      exact Or.inr (Or.inl ⟨done, left, hp, hafter, (Option.some.inj h).symm⟩)
    · exact Or.inr (Or.inr (Or.inl (Option.some.inj h).symm))
  · next done w left hp =>
    split at h
    · cases h
    · exact Or.inr (Or.inr (Or.inr (Or.inl ⟨done, w, left, hp, (Option.some.inj h).symm⟩)))
  · next done hp =>
    exact Or.inr (Or.inr (Or.inr (Or.inr ⟨done, hp, (Option.some.inj h).symm⟩)))
  · cases h
  · cases h

/-! ## 3. What a run leads to -/

/-- The runs, told from what is stored. -/
inductive Story (txs : Bool → Transaction σ κ) (C : Bool → Prop) (R : Bool → σ → Prop) (base : σ) :
    Sessions σ κ → Prop
  | none {s : Sessions σ κ} (stored : s.stored = base)
      (onWay : ∀ i, OnWay (txs i) (· = base) (s.phase i)) : Story txs C R base s
  | one {s : Sessions σ κ} (i : Bool) (first : s.phase i = .committed)
      (stored : Effect (txs i) base base s.stored)
      (onWay : OnWay (txs (!i)) (fun c => c = s.stored ∧ R (!i) s.stored ∨ c = base ∧ C i)
        (s.phase (!i))) : Story txs C R base s
  | both {s : Sessions σ κ} (i : Bool) (between seen : σ) (first : Effect (txs i) base base between)
      (second : Effect (txs (!i)) seen between s.stored)
      (saw : seen = between ∧ R (!i) between ∨ seen = base ∧ C i)
      (all : ∀ i, s.phase i = .committed) : Story txs C R base s

/-- A move short of the commit keeps a session on its way. -/
theorem OnWay.move {seen : σ → Prop} (hseen : (∃ done, s.phase i = .early done []) → seen s.stored)
    (h : move txs s i = some s') (hp : OnWay (txs i) seen (s.phase i))
    (hno : ∀ done, s.phase i ≠ .late done []) :
    s'.stored = s.stored ∧ s'.phase (!i) = s.phase (!i) ∧ OnWay (txs i) seen (s'.phase i) := by
  rcases move_cases h with ⟨done, w, left, e, rfl⟩ | ⟨done, left, e, hafter, rfl⟩ | rfl |
    ⟨done, w, left, e, rfl⟩ | ⟨done, e, -⟩
  · rw [e] at hp
    refine ⟨rfl, setPhase_other s i _, ?_⟩
    rw [setPhase_self]
    exact (List.append_cons done w left).symm.trans hp
  · rw [e] at hp
    have hdone : done = (txs i).before := (List.append_nil done).symm.trans hp
    refine ⟨rfl, setPhase_other s i _, ?_⟩
    rw [setPhase_self]
    exact ⟨s.stored, hseen ⟨done, e⟩, left, hdone ▸ hafter, by rw [hdone]⟩
  · refine ⟨rfl, setPhase_other s i _, ?_⟩
    rw [setPhase_self]
    trivial
  · rw [e] at hp
    obtain ⟨c, hc, ws, hafter, hws⟩ := hp
    refine ⟨rfl, setPhase_other s i _, ?_⟩
    rw [setPhase_self]
    exact ⟨c, hc, ws, hafter, (List.append_cons done w left).symm.trans hws⟩
  · exact absurd e (hno done)

/-- A commit stores the writes and leaves the other session alone. -/
theorem move_commit {done : List (Write σ κ)} (e : s.phase i = .late done [])
    (h : move txs s i = some s') : s'.stored = applyAll done s.stored ∧
      s'.phase i = .committed ∧ s'.phase (!i) = s.phase (!i) := by
  unfold move at h
  rw [e] at h
  rw [← Option.some.inj h]
  exact ⟨rfl, setPhase_self s i _, setPhase_other s i _⟩

/-- **One step goes on with the story.** -/
theorem Story.step {C : Bool → Prop} {R : Bool → σ → Prop} {base : σ} (hS : Story txs C R base s)
    (h : StepWhen txs C R s s') : Story txs C R base s' := by
  obtain ⟨i, hm, hC, hR⟩ := h
  cases hS with
  | none stored onWay =>
    rcases not_late_nil_or (s.phase i) with ⟨done, e⟩ | hno
    · -- the first commit: what the other session has read by now is the base
      obtain ⟨hstored, hi, hother⟩ := move_commit e hm
      obtain ⟨c, rfl, heffect⟩ := (e ▸ onWay i).effect s.stored
      refine .one i hi (by rw [hstored, ← stored]; exact stored ▸ heffect) ?_
      rw [hother]
      have hway := onWay (!i)
      cases hp : s.phase (!i) with
      | early done' left =>
        rw [hp] at hway
        exact hway
      | late done' left =>
        rw [hp] at hway
        obtain ⟨c', rfl, hws⟩ := hway
        exact ⟨c', Or.inr ⟨rfl, hC ⟨⟨done, e⟩, done', left, hp⟩⟩, hws⟩
      | failed => trivial
      | committed => exact absurd (hp ▸ hway) OnWay.not_committed
    · obtain ⟨hstored, hother, hway⟩ := OnWay.move (fun _ => stored) hm (onWay i) hno
      exact .none (hstored.trans stored) (forall_bool i hway (by rw [hother]; exact onWay (!i)))
  | one j first stored onWay =>
    have hij : i = !j := by
      by_contra hne
      have : i = j := by cases i <;> cases j <;> first | rfl | exact absurd rfl hne
      rw [this] at hm
      unfold Sessions.move at hm
      rw [first] at hm
      cases hm
    subst hij
    rcases not_late_nil_or (s.phase (!j)) with ⟨done, e⟩ | hno
    · obtain ⟨hstored, hi, hother⟩ := move_commit e hm
      obtain ⟨c, hc, heffect⟩ := (e ▸ onWay).effect s.stored
      rw [Bool.not_not] at hother
      refine .both j s.stored c stored ?_ hc (forall_bool j (hother.trans first) hi)
      rw [hstored]
      exact heffect
    · -- a read by now sees the first commit
      have hseen (hread : ∃ done, s.phase (!j) = .early done []) :
          (fun c => c = s.stored ∧ R (!j) s.stored ∨ c = base ∧ C j) s.stored :=
        Or.inl ⟨rfl, hR ⟨hread, (congrArg s.phase (Bool.not_not j)).trans first⟩⟩
      obtain ⟨hstored, hother, hway⟩ := OnWay.move hseen hm onWay hno
      rw [Bool.not_not] at hother
      refine .one j (hother.trans first) (hstored ▸ stored) ?_
      rw [hstored]
      exact hway
  | both j between seen first second saw all =>
    unfold Sessions.move at hm
    rw [all i] at hm
    cases hm

theorem Story.run {C : Bool → Prop} {R : Bool → σ → Prop} {base : σ}
    (h : Relation.ReflTransGen (StepWhen txs C R) (start txs base) s) : Story txs C R base s := by
  induction h with
  | refl => exact .none rfl fun i => List.nil_append _
  | tail _ hstep ih => exact ih.step hstep

/-- **Both committed**: one transaction after the other, or both from what was stored at the
    start. In the first case the other's `R` holds of what it has read, in the second the `C` of
    the first to commit. -/
theorem outcomeWhen {C : Bool → Prop} {R : Bool → σ → Prop} {base : σ}
    (h : Relation.ReflTransGen (StepWhen txs C R) (start txs base) s)
    (hall : ∀ i, s.phase i = .committed) : ∃ i between seen, Effect (txs i) base base between ∧
      Effect (txs (!i)) seen between s.stored ∧
      (seen = between ∧ R (!i) between ∨ seen = base ∧ C i) := by
  cases Story.run h with
  | none _ onWay => exact absurd (hall true ▸ onWay true) OnWay.not_committed
  | one i _ _ onWay => exact absurd (hall (!i) ▸ onWay) OnWay.not_committed
  | both i between seen first second saw _ => exact ⟨i, between, seen, first, second, saw⟩

theorem outcome {C : Prop} {base : σ}
    (h : Relation.ReflTransGen (Step txs C) (start txs base) s)
    (hall : ∀ i, s.phase i = .committed) : ∃ i between seen, Effect (txs i) base base between ∧
      Effect (txs (!i)) seen between s.stored ∧ (seen = between ∨ seen = base ∧ C) := by
  have hrun : Relation.ReflTransGen (StepWhen txs (fun _ => C) fun _ _ => True) (start txs base) s :=
    h.lift id fun _ _ ⟨i, hm, hC⟩ => ⟨i, hm, hC, fun _ => trivial⟩
  obtain ⟨i, between, seen, h1, h2, hsaw⟩ := outcomeWhen hrun hall
  exact ⟨i, between, seen, h1, h2, hsaw.imp_left And.left⟩

/-! ## 4. Runs from a schedule -/

/-- The sessions that move one after the other, as long as each move is possible and passes the
    test. -/
def runSchedule (test : Sessions σ κ → Bool → Bool) (txs : Bool → Transaction σ κ) :
    List Bool → Sessions σ κ → Option (Sessions σ κ)
  | [], s => some s
  | i :: is, s => if test s i then (move txs s i).bind (runSchedule test txs is) else none

/-- The other session does not stand between its read and its commit. -/
def calm (s : Sessions σ κ) (i : Bool) : Bool :=
  match s.phase (!i) with
  | .late _ _ => false
  | _ => true

omit [DecidableEq κ] in
theorem calm_overRead {C : Prop} (s : Sessions σ κ) (i : Bool) (h : calm s i)
    (hover : s.OverRead i) : C := by
  obtain ⟨-, done, left, hp⟩ := hover
  unfold calm at h
  rw [hp] at h
  cases h

theorem runSchedule_runWhen {C : Bool → Prop} {R : Bool → σ → Prop}
    {test : Sessions σ κ → Bool → Bool} (htest : ∀ s i, test s i →
      (s.OverRead i → C i) ∧ (s.ReadsAfter i → R i s.stored)) (is : List Bool)
    (h : runSchedule test txs is s = some s') :
    Relation.ReflTransGen (StepWhen txs C R) s s' := by
  induction is generalizing s with
  | nil =>
    cases h
    exact .refl
  | cons i is ih =>
    unfold runSchedule at h
    split at h
    · next ht =>
      obtain ⟨t, hmove, hrest⟩ := Option.bind_eq_some_iff.mp h
      exact (Relation.ReflTransGen.single ⟨i, hmove, htest s i ht⟩).trans (ih hrest)
    · cases h

theorem runSchedule_run {C : Prop} {test : Sessions σ κ → Bool → Bool}
    (htest : ∀ s i, test s i → s.OverRead i → C) (is : List Bool)
    (h : runSchedule test txs is s = some s') : Relation.ReflTransGen (Step txs C) s s' := by
  have hrun : Relation.ReflTransGen (StepWhen txs (fun _ => C) fun _ _ => True) s s' :=
    runSchedule_runWhen (fun s i ht => ⟨htest s i ht, fun _ => trivial⟩) is h
  exact hrun.lift id fun _ _ ⟨i, hm, hC, _⟩ => ⟨i, hm, hC⟩

/-- Both sessions have committed. -/
def done (s : Sessions σ κ) : Bool :=
  match s.phase true, s.phase false with
  | .committed, .committed => true
  | _, _ => false

omit [DecidableEq κ] in
theorem done_iff {s : Sessions σ κ} (h : s.done) : ∀ i, s.phase i = .committed := by
  unfold done at h
  split at h
  · next h1 h2 => exact forall_bool true h1 h2
  · cases h

end Sessions

end Library
