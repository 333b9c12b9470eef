/-
  File:      Brackets/Accounts/Lockout.lean
  Subject:   How many wrong passwords are checked for an account: `utils/rate_limit.py`.

  A login asks whether the account is locked, waits for the database, and records a failure at its
  end. Logins overlap, so several may be let in before the failure that locks the account is
  recorded (`Desk.Step`). With at most `most` logins for an account inside at a time, fifteen
  minutes see at most twice `accountLockoutLimit - 1 + most` wrong passwords for it, as long as no
  login succeeds and no one clears the lock: `wrong_passwords_le`.
-/
import Brackets.Accounts.Plain

namespace Brackets

open Library

/-! ## 1. Logins side by side -/

/-- The site, the counted failures, and the logins that have been let in. `wrong` is when wrong
    passwords have been checked for an account since its lock was last cleared. -/
structure Desk (F : Type) where
  site : Site
  failures : F
  now : DateTime
  waiting : List (String × String)
  wrong : String → List DateTime

section Desk

variable (L : Libraries) (cfg : Config) {F : Type} (lim : LockoutLimiter F)

/-- A login for the account. -/
def isFor (k : String) (login : String × String) : Bool := loginIdentifier L login.1 == k

/-- The second half of a login; `rest` are the others that are inside. -/
def Desk.finish (d : Desk F) (salt : Nat) (login : String × String)
    (rest : List (String × String)) : Desk F :=
  let k := loginIdentifier L login.1
  let answer := attemptLogin L cfg lim d.site d.failures d.now salt login.1 login.2
  match authenticateUser L d.site salt login.1 login.2 with
  | .error _ => { d with waiting := rest }
  | .ok none => ⟨d.site, answer.2, d.now, rest, Function.update d.wrong k (d.now :: d.wrong k)⟩
  | .ok (some (_, site)) => ⟨site, answer.2, d.now, rest, Function.update d.wrong k []⟩

/-- A step of a run with at most `most` logins for the account `k` inside at a time. Other requests
    may change the site between the steps. -/
inductive Desk.Step (k : String) (most : Nat) : Desk F → Desk F → Prop
  | wait {d : Desk F} {t : DateTime} (later : d.now ≤ t) : Step k most d { d with now := t }
  | arrive {d : Desk F} {login : String × String}
      (unlocked : checkLockout L lim d.failures d.now login.1 = .ok ())
      (room : isFor L k login = true → d.waiting.countP (isFor L k) < most) :
      Step k most d { d with waiting := login :: d.waiting }
  | finish {d : Desk F} (salt : Nat) {login : String × String} {ps qs : List (String × String)}
      (inside : d.waiting = ps ++ login :: qs) :
      Step k most d (d.finish L cfg lim salt login (ps ++ qs))
  | quit {d : Desk F} {login : String × String} {ps qs : List (String × String)}
      (inside : d.waiting = ps ++ login :: qs) : Step k most d { d with waiting := ps ++ qs }
  | meanwhile {d : Desk F} (site : Site) : Step k most d { d with site := site }
  | clearUserLock {d : Desk F} {email address : String}
      (normal : L.normalizeEmail email = .ok address) :
      Step k most d { d with
        failures := lim.clear d.failures address
        wrong := Function.update d.wrong address [] }

/-- What the desk is to one account. -/
def Desk.gate (windows : F → Windows String) (k : String) (d : Desk F) : Gate :=
  ⟨windows d.failures k, d.waiting.countP (isFor L k), d.now, d.wrong k⟩

end Desk

/-! ## 2. A desk is a gate -/

section Gate

variable {L : Libraries} {cfg : Config} {F : Type} {lim : LockoutLimiter F}
  {windows : F → Windows String} {k : String} {most : Nat} {d d' : Desk F}

theorem checkLockout_ok (hlim : lim.Lawful windows) {failures : F} {now : DateTime}
    {username : String} (h : checkLockout L lim failures now username = .ok ()) :
    Window.hitsAt (windows failures (loginIdentifier L username)) now < accountLockoutLimit := by
  have hstats := hlim.getWindowStats failures now (loginIdentifier L username)
  unfold checkLockout at h
  split at h
  · cases h
  · next hnone =>
    unfold getAccountLockoutRetryAfter at hnone
    dsimp only at hnone
    split at hnone
    · omega
    · cases hnone

theorem countP_inside {ps qs : List (String × String)} {login : String × String}
    (h : d.waiting = ps ++ login :: qs) : d.waiting.countP (isFor L k) =
      (ps ++ qs).countP (isFor L k) + if isFor L k login then 1 else 0 := by
  rw [h, List.countP_append, List.countP_append, List.countP_cons]
  omega

theorem recordAccountFailure_windows (hlim : lim.Lawful windows) (failures : F) (now : DateTime)
    (k : String) : windows (recordAccountFailure lim failures now k).2 =
      (windows failures).hit accountLockoutWindow now k := (hlim.hit failures now k).2

abbrev GateSteps (most : Nat) : Gate → Gate → Prop :=
  Relation.ReflTransGen (Gate.Step accountLockoutLimit most accountLockoutWindow)

theorem attemptLogin_wrong {site : Site} {failures : F} {now : DateTime} {salt : Nat}
    {username password : String}
    (h : authenticateUser L site salt username password = .ok none) :
    (attemptLogin L cfg lim site failures now salt username password).2 =
      (recordAccountFailure lim failures now (loginIdentifier L username)).2 := by
  unfold attemptLogin
  rw [h]
  dsimp only
  split <;> rfl

theorem attemptLogin_right {site : Site} {failures : F} {now : DateTime} {salt : Nat}
    {username password : String} {x : UserRow × Site}
    (h : authenticateUser L site salt username password = .ok (some x)) :
    (attemptLogin L cfg lim site failures now salt username password).2 =
      lim.clear failures (loginIdentifier L username) := by
  unfold attemptLogin
  rw [h]

/-- A login that is gone without an answer. -/
theorem gate_leave {ps qs : List (String × String)} {login : String × String}
    (hinside : d.waiting = ps ++ login :: qs) :
    GateSteps most (d.gate L windows k) ({ d with waiting := ps ++ qs }.gate L windows k) := by
  have hcount := countP_inside (L := L) (k := k) hinside
  unfold Desk.gate
  rw [hcount]
  by_cases hk : isFor L k login = true
  · rw [if_pos hk]
    exact .single (.leave rfl)
  · rw [if_neg hk]
    exact .refl

/-- A cleared lock. -/
theorem gate_clear (hlim : lim.Lawful windows) (address : String) :
    GateSteps most (d.gate L windows k) ({ d with
      failures := lim.clear d.failures address
      wrong := Function.update d.wrong address [] }.gate L windows k) := by
  unfold Desk.gate
  dsimp only
  rw [hlim.clear]
  by_cases hk : k = address
  · subst hk
    rw [Windows.clear_self, Function.update_self]
    exact .single .clear
  · rw [Windows.clear_of_ne _ hk, Function.update_of_ne hk]

/-- A wrong password. -/
theorem gate_fail (hlim : lim.Lawful windows) {login : String × String}
    {ps qs : List (String × String)} (hinside : d.waiting = ps ++ login :: qs) :
    GateSteps most (d.gate L windows k) (Desk.gate L windows k ⟨d.site,
      (recordAccountFailure lim d.failures d.now (loginIdentifier L login.1)).2, d.now, ps ++ qs,
      Function.update d.wrong (loginIdentifier L login.1)
        (d.now :: d.wrong (loginIdentifier L login.1))⟩) := by
  have hcount := countP_inside (L := L) (k := k) hinside
  unfold Desk.gate
  dsimp only
  rw [recordAccountFailure_windows hlim, hcount]
  by_cases hk : isFor L k login = true
  · obtain rfl := eq_of_beq hk
    rw [if_pos hk, Windows.hit_self, Function.update_self]
    exact .single (.fail rfl)
  · have hne : k ≠ loginIdentifier L login.1 := fun e => hk (beq_iff_eq.mpr e.symm)
    rw [if_neg hk, Windows.hit_of_ne _ _ _ hne, Function.update_of_ne hne]
    exact .refl

/-- The end of a login. -/
theorem Desk.finish_gate (hlim : lim.Lawful windows) {salt : Nat} {login : String × String}
    {ps qs : List (String × String)} (hinside : d.waiting = ps ++ login :: qs) :
    GateSteps most (d.gate L windows k)
      ((d.finish L cfg lim salt login (ps ++ qs)).gate L windows k) := by
  unfold Desk.finish
  dsimp only
  split
  · exact gate_leave hinside
  · next hwrong =>
    rw [attemptLogin_wrong hwrong]
    exact gate_fail hlim hinside
  · next user site hright =>
    rw [attemptLogin_right hright]
    exact (gate_leave hinside).trans (gate_clear hlim _)

theorem Desk.Step.gate (hlim : lim.Lawful windows) (h : Desk.Step L cfg lim k most d d') :
    GateSteps most (d.gate L windows k) (d'.gate L windows k) := by
  cases h with
  | wait later => exact .single (.wait later)
  | @arrive login unlocked room =>
    have hhits := checkLockout_ok hlim unlocked
    unfold Desk.gate
    rw [List.countP_cons]
    by_cases hk : isFor L k login = true
    · rw [if_pos hk]
      obtain rfl := eq_of_beq hk
      exact .single (.enter hhits (room hk))
    · rw [if_neg hk]
      exact .refl
  | finish salt inside => exact Desk.finish_gate hlim inside
  | quit inside => exact gate_leave inside
  | meanwhile => exact .refl
  | clearUserLock => exact gate_clear hlim _

end Gate

/-- A desk nobody has come to, and no failure counted. -/
def Desk.fresh {F : Type} (site : Site) (failures : F) (now : DateTime) : Desk F :=
  ⟨site, failures, now, [], fun _ => []⟩

/-- **However logins overlap, an account sees few wrong passwords**: with at most `most` logins for
    it inside at a time, any fifteen minutes see at most twice `accountLockoutLimit - 1 + most` of
    them since the lock was last cleared, by a right password or by hand. -/
theorem wrong_passwords_le {L : Libraries} {cfg : Config} {F : Type} {lim : LockoutLimiter F}
    {windows : F → Windows String} (hlim : lim.Lawful windows) {site : Site} {failures : F}
    {now : DateTime} (hfresh : ∀ k, windows failures k = none) {k : String} {most : Nat}
    {d : Desk F}
    (h : Relation.ReflTransGen (Desk.Step L cfg lim k most) (Desk.fresh site failures now) d)
    (t : DateTime) :
    ((d.wrong k).countP fun s => t ≤ s ∧ s < t + accountLockoutWindow) ≤
      2 * (accountLockoutLimit - 1 + most) := by
  have hgate : GateSteps most (Gate.fresh now) (d.gate L windows k) := by
    induction h with
    | refl =>
      have hstart : (Desk.fresh site failures now).gate L windows k = Gate.fresh now := by
        unfold Desk.gate Desk.fresh
        rw [hfresh]
        rfl
      rw [hstart]
    | tail _ hstep ih => exact ih.trans (hstep.gate hlim)
  exact (Gate.counted (by decide) hgate).failures_le t

/-! ### Guesses at Ann's password -/

section Guesses

/-- A site where Ann is registered. -/
def annsSite : Site :=
  match createUser plainLibraries .empty 0 "ann@example.org" "Ann"
    (Plain.hash 1 "correct-horse-battery") with
  | .ok x => x.2
  | .error _ => .empty

def guess : String × String := ("ann@example.org", "wrong-horse-battery")

/-- The same account under another spelling. -/
def otherGuess : String × String := (" ann@example.org", "stale-horse-battery")

/-- Both guesses are let in before the first one is answered. -/
def twoGuesses (d : Desk (Windows String)) : Desk (Windows String) :=
  Desk.finish plainLibraries plainConfig memoryLimiter
    (Desk.finish plainLibraries plainConfig memoryLimiter
      { d with waiting := [otherGuess, guess] } 2 guess [otherGuess]) 3 otherGuess []

abbrev DeskSteps : Desk (Windows String) → Desk (Windows String) → Prop :=
  Relation.ReflTransGen (Desk.Step plainLibraries plainConfig memoryLimiter "ann@example.org" 2)

theorem finish_waiting (d : Desk (Windows String)) (salt : Nat) (login : String × String)
    (rest : List (String × String)) : (Desk.finish plainLibraries plainConfig memoryLimiter d salt
      login rest).waiting = rest := by
  unfold Desk.finish
  dsimp only
  split <;> rfl

theorem twoGuesses_steps {d : Desk (Windows String)} (hempty : d.waiting = [])
    (hone : checkLockout plainLibraries memoryLimiter d.failures d.now guess.1 = .ok ())
    (htwo : checkLockout plainLibraries memoryLimiter d.failures d.now otherGuess.1 = .ok ()) :
    DeskSteps d (twoGuesses d) := by
  obtain ⟨site, failures, now, waiting, wrong⟩ := d
  obtain rfl : waiting = [] := hempty
  have hone' : [].countP (isFor plainLibraries "ann@example.org") < 2 := by decide
  have htwo' : [guess].countP (isFor plainLibraries "ann@example.org") < 2 := by decide +kernel
  have hfirst : DeskSteps ⟨site, failures, now, [], wrong⟩ ⟨site, failures, now, [guess], wrong⟩ :=
    .single (.arrive hone fun _ => hone')
  have hsecond : Desk.Step plainLibraries plainConfig memoryLimiter "ann@example.org" 2
      ⟨site, failures, now, [guess], wrong⟩ ⟨site, failures, now, [otherGuess, guess], wrong⟩ :=
    .arrive htwo fun _ => htwo'
  -- the one who came first is answered first
  have hinside : [otherGuess, guess] = [otherGuess] ++ guess :: [] := rfl
  have hlast {qs : List (String × String)} (h : qs = [otherGuess]) :
      qs = [] ++ otherGuess :: [] := h
  exact ((hfirst.tail hsecond).tail (.finish 2 hinside)).tail
    (.finish 3 (hlast (finish_waiting _ _ _ _)))

/-- Three times two guesses at Ann's password overlap. When the last two come four failures are
    recorded, so both are let in, and six passwords are checked before the account is locked. -/
theorem guess_counts : ∃ d, DeskSteps (Desk.fresh annsSite (fun _ => none) 0) d ∧
    d.wrong "ann@example.org" = [0, 0, 0, 0, 0, 0] ∧
    (checkLockout plainLibraries memoryLimiter d.failures d.now "ann@example.org").isOk = false ∧
    ((d.wrong "ann@example.org").countP fun s => 0 ≤ s ∧ s < 0 + accountLockoutWindow) ≤
      2 * (accountLockoutLimit - 1 + 2) := by
  have hrun : DeskSteps (Desk.fresh annsSite (fun _ => none) 0)
      (twoGuesses (twoGuesses (twoGuesses (Desk.fresh annsSite (fun _ => none) 0)))) :=
    ((twoGuesses_steps rfl (by decide +kernel) (by decide +kernel)).trans
      (twoGuesses_steps (finish_waiting _ _ _ _) (by decide +kernel) (by decide +kernel))).trans
      (twoGuesses_steps (finish_waiting _ _ _ _) (by decide +kernel) (by decide +kernel))
  exact ⟨_, hrun, by decide +kernel, by decide +kernel,
    wrong_passwords_le memoryLimiter_lawful (fun _ => rfl) hrun 0⟩

end Guesses

end Brackets
