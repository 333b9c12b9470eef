/-
  File:      Brackets/Accounts/Plain.lean
  Subject:   Plain packages, with which the model of the accounts can be run.

  They keep what is asked of the real ones and hide nothing: a hash is its salt and the password, a
  token is its secret and its claims, written one after the other with their lengths in front
  (`writeField`, `readField`). Two addresses are valid. The failures are kept in memory.
-/
import Brackets.Accounts.Requests
import Brackets.Progress.IsolatedRequests

namespace Brackets

open Library

namespace Plain

/-! ## 1. Fields -/

/-- The length in front, as strokes. -/
def writeField (field : List Char) : List Char :=
  List.replicate field.length '1' ++ '0' :: field

def strokes (text : List Char) : Nat := (text.takeWhile (· == '1')).length

/-- The first field and the rest. -/
def readField (text : List Char) : List Char × List Char :=
  let rest := text.drop (strokes text + 1)
  (rest.take (strokes text), rest.drop (strokes text))

theorem strokes_replicate (n : Nat) (rest : List Char) :
    strokes (List.replicate n '1' ++ '0' :: rest) = n := by
  unfold strokes
  induction n with
  | zero => rfl
  | succ n ih =>
    rw [List.replicate_succ, List.cons_append, List.takeWhile_cons_of_pos (by rfl),
      List.length_cons, ih]

theorem readField_writeField (field rest : List Char) :
    readField (writeField field ++ rest) = (field, rest) := by
  have hstrokes : strokes (writeField field ++ rest) = field.length := by
    unfold writeField
    rw [List.append_assoc, List.cons_append, strokes_replicate]
  have hdrop : (writeField field ++ rest).drop (field.length + 1) = field ++ rest := by
    unfold writeField
    rw [List.append_assoc, ← List.drop_drop, List.drop_left' List.length_replicate]
    rfl
  unfold readField
  rw [hstrokes, hdrop]
  dsimp only
  rw [List.take_left, List.drop_left]

/-- A number as two fields of strokes, one of them empty. -/
def writeInt (n : Int) : List Char :=
  writeField (List.replicate n.toNat 'x') ++ writeField (List.replicate (-n).toNat 'x')

def readInt (text : List Char) : Int × List Char :=
  let (above, rest) := readField text
  let (below, rest) := readField rest
  ((above.length : Int) - below.length, rest)

theorem readInt_writeInt (n : Int) (rest : List Char) : readInt (writeInt n ++ rest) = (n, rest) := by
  unfold readInt writeInt
  rw [List.append_assoc, readField_writeField]
  dsimp only
  rw [readField_writeField, List.length_replicate, List.length_replicate]
  exact Prod.ext (by dsimp only; omega) rfl

/-! ## 2. Tokens and hashes -/

def sign (secret : String) (c : Claims) : String :=
  String.ofList (writeField secret.toList ++ (writeField c.sub.toList ++ (writeField c.aud.toList ++
    (writeInt c.exp ++ (writeInt c.iat ++ (writeField c.iss.toList ++ (writeInt c.nbf ++
      (writeField c.type.toList ++ (writeField c.authHash.toList ++ [])))))))))

def signed (secret token : String) : Option Claims :=
  let (signature, text) := readField token.toList
  let (sub, text) := readField text
  let (aud, text) := readField text
  let (exp, text) := readInt text
  let (iat, text) := readInt text
  let (iss, text) := readField text
  let (nbf, text) := readInt text
  let (type, text) := readField text
  let (authHash, _) := readField text
  if signature = secret.toList then
    some ⟨.ofList sub, .ofList aud, exp, iat, .ofList iss, nbf, .ofList type, .ofList authHash⟩
  else none

theorem signed_sign (secret : String) (c : Claims) : signed secret (sign secret c) = some c := by
  unfold signed sign
  simp only [String.toList_ofList, readField_writeField, readInt_writeInt, if_true,
    String.ofList_toList]

def hash (salt : Nat) (password : String) : String :=
  String.ofList (List.replicate salt '1' ++ '0' :: password.toList)

def verifies (password hash : String) : Bool :=
  hash.toList.drop (strokes hash.toList + 1) == password.toList

theorem strokes_hash (salt : Nat) (password : String) : strokes (hash salt password).toList = salt := by
  rw [hash, String.toList_ofList, strokes_replicate]

theorem verifies_hash (salt : Nat) (password : String) : verifies password (hash salt password) = true := by
  unfold verifies
  rw [strokes_hash, hash, String.toList_ofList, ← List.drop_drop,
    List.drop_left' List.length_replicate]
  exact beq_self_eq_true _

def addresses : List String := ["ann@example.org", "bob@example.org"]

end Plain

def plainLibraries : Libraries where
  validateEmail address := if address ∈ Plain.addresses then some address else none
  lower text := text
  sqlLower text := text
  zxcvbn _ _ := ⟨4, "", []⟩
  hash := Plain.hash
  verifyAndUpdate _ password hash := (Plain.verifies password hash, none)
  hmac key message := key ++ message
  sign := Plain.sign
  signed := Plain.signed

theorem Plain.strip_address : ∀ a ∈ Plain.addresses, String.ofList (Text.strip a.toList) = a := by
  decide +kernel

theorem Plain.normalizeEmail_address {a : String} (h : a ∈ Plain.addresses) :
    plainLibraries.normalizeEmail a = .ok a := by
  have hvalid : plainLibraries.validateEmail a = some a := if_pos h
  unfold Libraries.normalizeEmail
  rw [Plain.strip_address a h, hvalid]
  rfl

theorem Plain.mem_of_normalizeEmail {email address : String}
    (h : plainLibraries.normalizeEmail email = .ok address) : address ∈ Plain.addresses := by
  unfold Libraries.normalizeEmail at h
  cases hvalid : plainLibraries.validateEmail (String.ofList (Text.strip email.toList)) with
  | none =>
    rw [hvalid] at h
    cases h
  | some found =>
    rw [hvalid] at h
    obtain rfl : found = address := Except.ok.inj h
    by_contra hmem
    have hsame : String.ofList (Text.strip email.toList) = found := by
      unfold plainLibraries at hvalid
      dsimp only at hvalid
      split at hvalid
      · exact Option.some.inj hvalid
      · cases hvalid
    have hnone : plainLibraries.validateEmail found = none := if_neg hmem
    rw [hsame, hnone] at hvalid
    cases hvalid

theorem plainLibraries_lawful : plainLibraries.Lawful where
  normal _ _ h := ⟨Plain.normalizeEmail_address (Plain.mem_of_normalizeEmail h), rfl⟩
  verified salt password hash h salt' := by
    rcases h with h | ⟨old, h⟩
    · have hsame : Plain.hash salt password = hash := h
      rw [← hsame]
      exact Prod.ext (Plain.verifies_hash salt password) rfl
    · exact absurd (congrArg Prod.snd h) (Option.some_ne_none hash).symm
  salted salt salt' hash h h' := by
    have salt_of : ∀ s, plainLibraries.Salted s hash → Plain.strokes hash.toList = s := by
      rintro s (⟨password, h⟩ | ⟨password, old, h⟩)
      · have hsame : Plain.hash s password = hash := h
        rw [← hsame]
        exact Plain.strokes_hash s password
      · exact absurd (congrArg Prod.snd h) (Option.some_ne_none hash).symm
    exact (salt_of salt h).symm.trans (salt_of salt' h')
  hmac key message message' h := String.append_right_inj key |>.mp h
  signed secret c := by
    have hsigned : plainLibraries.signed = Plain.signed := rfl
    have hsign : plainLibraries.sign = Plain.sign := rfl
    rw [hsigned, hsign, Plain.signed_sign]

/-- The limiter on a storage in memory. -/
def memoryLimiter : LockoutLimiter (Windows String) where
  getWindowStats windows now k :=
    (accountLockoutLimit - Window.hitsAt (windows k) now,
      ((Window.current (windows k) now).map (·.resetAt)).getD now)
  hit windows now k :=
    (decide (Window.hitsAt (windows k) now + 1 ≤ accountLockoutLimit),
      windows.hit accountLockoutWindow now k)
  clear windows k := windows.clear k

theorem memoryLimiter_lawful : memoryLimiter.Lawful fun windows => windows where
  getWindowStats _ _ _ := rfl
  hit _ _ _ := ⟨rfl, rfl⟩
  clear _ _ := rfl

/-- The counters of both limiters in memory. -/
abbrev MemoryCounts := Windows String × Windows (RouteLimit × String)

/-- Both limiters on storages in memory. -/
def memoryLimits : SiteLimiter MemoryCounts where
  getWindowStats counts now k := memoryLimiter.getWindowStats counts.1 now k
  hit counts now k :=
    let (allowed, failures) := memoryLimiter.hit counts.1 now k
    (allowed, (failures, counts.2))
  clear counts k := (memoryLimiter.clear counts.1 k, counts.2)
  visit counts now limit address :=
    (decide (Window.hitsAt (counts.2 (limit, address)) now + 1 ≤ limit.amount),
      (counts.1, counts.2.hit (timedelta limit.minutes) now (limit, address)))
  visit_apart _ _ _ _ _ _ := rfl

def noCounts : MemoryCounts := (fun _ => none, fun _ => none)

def annsAddress : String := "192.0.2.1"

def bobsAddress : String := "192.0.2.2"

def plainConfig : Config where
  jwtSecret := "secret"
  jwtAudience := "bracket-api"
  jwtIssuer := "http://localhost:8400"
  accessTokenExpireMinutes := 30
  allowUserRegistration := true
  expire_ge := by decide

theorem Plain.strong_password (values : List String) :
    validatePasswordStrength plainLibraries "correct-horse-battery" values =
      .ok "correct-horse-battery" := by
  have hstrip : String.ofList (Text.strip "correct-horse-battery".toList) =
      "correct-horse-battery" := by decide +kernel
  unfold validatePasswordStrength
  rw [hstrip]
  rfl

def plainRegistration : UserToRegister plainLibraries where
  email := "ann@example.org"
  name := "Ann"
  password := "correct-horse-battery"
  email_normal := ⟨"ann@example.org", Plain.normalizeEmail_address List.mem_cons_self⟩
  password_strong := Plain.strong_password _

end Brackets
