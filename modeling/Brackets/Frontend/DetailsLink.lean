/-
  File:      Brackets/Frontend/DetailsLink.lean
  Subject:   The Details link of a tournament: `validate_dashboard_endpoint` of the backend,
             `publicTournamentPath` and `fetchTournament` of the frontend.

  A link is a segment of a path, and the frontend tells it from a tournament id by its letters.

  * `validateDashboardEndpoint_link`: a link that the backend takes has a letter and no character
    that means something in a path;
  * `LinksKept`: this holds of every stored link, whatever requests are sent;
  * `details_link_opens`: the link of a tournament opens this tournament, to those who may read it.
-/
import Brackets.Accounts.Archive
import Brackets.Accounts.Listing
import Brackets.Frontend.BracketAdapter

namespace Brackets

open Library

/-! ## 1. Links as they are typed -/

def dashboardEndpointMaxLength : Nat := 64

/-- `[A-Za-z0-9_-]` -/
def isLinkCharacter (c : Char) : Bool := c.isAlphanum || c == '_' || c == '-'

/-- `re.fullmatch(r"[A-Za-z0-9_-]*[A-Za-z][A-Za-z0-9_-]*", value)` -/
def isDetailsLink (value : List Char) : Bool := value.all isLinkCharacter && value.any Char.isAlpha

/-- The links are those of the pattern. -/
theorem isDetailsLink_iff {value : List Char} : isDetailsLink value = true ↔
    ∃ before letter after, value = before ++ letter :: after ∧ letter.isAlpha = true ∧
      (∀ c ∈ before, isLinkCharacter c = true) ∧ ∀ c ∈ after, isLinkCharacter c = true := by
  unfold isDetailsLink
  rw [Bool.and_eq_true, List.all_eq_true, List.any_eq_true]
  constructor
  · rintro ⟨hall, letter, hmem, hletter⟩
    obtain ⟨before, after, rfl⟩ := List.append_of_mem hmem
    exact ⟨before, letter, after, rfl, hletter, fun c hc => hall c (List.mem_append_left _ hc),
      fun c hc => hall c (List.mem_append_right _ (List.mem_cons_of_mem _ hc))⟩
  · rintro ⟨before, letter, after, rfl, hletter, hbefore, hafter⟩
    refine ⟨fun c hc => ?_, letter, List.mem_append_right _ List.mem_cons_self, hletter⟩
    rcases List.mem_append.1 hc with hc | hc
    · exact hbefore c hc
    rcases List.mem_cons.1 hc with rfl | hc
    · unfold isLinkCharacter Char.isAlphanum
      rw [hletter]
      rfl
    · exact hafter c hc

/-- The text of the error, or the link to store. -/
def validateDashboardEndpoint (value : Option String) : Except String (Option String) :=
  match value.map fun v => Text.strip v.toList with
  | none => .ok none
  | some [] => .ok none
  | some v =>
    if v.length > dashboardEndpointMaxLength then
      .error s!"The Details link can be at most {dashboardEndpointMaxLength} characters long"
    else if !isDetailsLink v then
      .error ("Use only letters, numbers, \"-\" and \"_\" in the Details link, with at least one " ++
        "letter")
    else .ok (some (String.ofList v))

/-- **What is stored is a link.** -/
theorem validateDashboardEndpoint_link {value : Option String} {e : String}
    (h : validateDashboardEndpoint value = .ok (some e)) : isDetailsLink e.toList = true := by
  unfold validateDashboardEndpoint at h
  split at h
  · cases h
  · cases h
  · split at h
    · cases h
    · split at h
      · cases h
      · next hlink =>
        cases h
        rw [String.toList_ofList]
        simpa using hlink

/-! ## 2. Links as they are shown -/

/-- What `String.prototype.trim` drops. -/
def isJsSpace (c : Char) : Bool :=
  (0x09 ≤ c.toNat && c.toNat ≤ 0x0D) || (0x2000 ≤ c.toNat && c.toNat ≤ 0x200A) ||
    [0x20, 0xA0, 0x1680, 0x2028, 0x2029, 0x202F, 0x205F, 0x3000, 0xFEFF].contains c.toNat

/-- `String.prototype.trim` -/
def trim (text : String) : String :=
  String.ofList ((text.toList.dropWhile isJsSpace).rdropWhile isJsSpace)

def normalizeDashboardEndpoint (value : Option String) : Option String :=
  value.bind fun v => if trim v ≠ "" then some (trim v) else none

/-- The segment of the path that stands for the tournament. -/
def TournamentRow.pathKey (t : TournamentRow) : String :=
  let endpoint := if t.dashboardPublic then normalizeDashboardEndpoint t.dashboardEndpoint else none
  endpoint.getD (toString t.id)

def detailsPath (tournamentKey : String) : String := "/tournaments/" ++ tournamentKey ++ "/dashboard"

def publicTournamentPath (t : TournamentRow) : String := detailsPath t.pathKey

/-- `/^\d+$/.test(value)` -/
def isNumericIdentifier (value : String) : Bool :=
  !value.toList.isEmpty && value.toList.all Char.isDigit

theorem not_isJsSpace {c : Char} (h : isLinkCharacter c = true) : isJsSpace c = false := by
  have hrange : (65 ≤ c.toNat ∧ c.toNat ≤ 90 ∨ 97 ≤ c.toNat ∧ c.toNat ≤ 122 ∨
      48 ≤ c.toNat ∧ c.toNat ≤ 57) ∨ c.toNat = 95 ∨ c.toNat = 45 := by
    simp only [isLinkCharacter, Char.isAlphanum, Char.isAlpha, Char.isUpper, Char.isLower,
      Char.isDigit, Bool.or_eq_true, Bool.and_eq_true, decide_eq_true_eq, beq_iff_eq,
      UInt32.le_iff_toNat_le, ge_iff_le] at h
    rcases h with (((h | h) | h) | rfl) | rfl
    · exact .inl (.inl h)
    · exact .inl (.inr (.inl h))
    · exact .inl (.inr (.inr h))
    · exact .inr (.inl rfl)
    · exact .inr (.inr rfl)
  unfold isJsSpace
  simp only [List.contains_eq_mem, List.mem_cons, List.not_mem_nil, or_false, Bool.or_eq_false_iff,
    Bool.and_eq_false_iff, decide_eq_false_iff_not]
  omega

theorem ne_nil_of_link {value : List Char} (h : isDetailsLink value = true) : value ≠ [] := by
  rintro rfl
  cases h

/-- A link is shown as it is stored. -/
theorem normalizeDashboardEndpoint_link {e : String} (h : isDetailsLink e.toList = true) :
    normalizeDashboardEndpoint (some e) = some e := by
  have hspace : ∀ c ∈ e.toList, isJsSpace c = false := fun c hc =>
    not_isJsSpace (List.all_eq_true.1 (Bool.and_eq_true_iff.1 h).1 c hc)
  have htrim : trim e = e := by
    have hleft : e.toList.dropWhile isJsSpace = e.toList := by
      rw [List.dropWhile_eq_self_iff]
      exact fun hlen => by simp [hspace _ (List.getElem_mem hlen)]
    have hright : e.toList.rdropWhile isJsSpace = e.toList := by
      rw [List.rdropWhile_eq_self_iff]
      exact fun hne => by simp [hspace _ (List.getLast_mem hne)]
    unfold trim
    rw [hleft, hright, String.ofList_toList]
  have hne : e ≠ "" := by
    rintro rfl
    exact ne_nil_of_link h rfl
  unfold normalizeDashboardEndpoint
  rw [Option.bind_some, htrim, if_pos hne]

/-- A link is no tournament id. -/
theorem not_isNumericIdentifier {e : String} (h : isDetailsLink e.toList = true) :
    isNumericIdentifier e = false := by
  obtain ⟨c, hc, hletter⟩ := List.any_eq_true.1 (Bool.and_eq_true_iff.1 h).2
  have hdigit : c.isDigit = false := by
    simp only [Char.isAlpha, Char.isUpper, Char.isLower, Bool.or_eq_true, Bool.and_eq_true,
      decide_eq_true_eq, UInt32.le_iff_toNat_le, ge_iff_le] at hletter
    simp only [Char.isDigit, Bool.and_eq_false_iff, decide_eq_false_iff_not,
      UInt32.le_iff_toNat_le, ge_iff_le]
    have hA : 'A'.val.toNat = 65 := rfl
    have ha : 'a'.val.toNat = 97 := rfl
    have h9 : '9'.val.toNat = 57 := rfl
    omega
  unfold isNumericIdentifier
  rw [Bool.and_eq_false_iff, List.all_eq_false]
  exact .inr ⟨c, hc, by rw [hdigit]; exact Bool.false_ne_true⟩

theorem isDigit_toString (n : Nat) : ∀ c ∈ (toString n).toList, c.isDigit = true := by
  intro c hc
  rw [Nat.toString_eq_repr, Nat.toList_repr] at hc
  exact Nat.isDigit_of_mem_toDigits (by decide) (by decide) hc

theorem toString_ne_nil (n : Nat) : (toString n).toList ≠ [] := by
  rw [Nat.toString_eq_repr, Nat.toList_repr]
  exact Nat.toDigits_ne_nil

theorem isNumericIdentifier_toString (n : Nat) : isNumericIdentifier (toString n) = true := by
  unfold isNumericIdentifier
  rw [Bool.and_eq_true]
  exact ⟨by simp, List.all_eq_true.2 (isDigit_toString n)⟩

theorem isLinkCharacter_toString (n : Nat) : ∀ c ∈ (toString n).toList, isLinkCharacter c = true := by
  intro c hc
  unfold isLinkCharacter Char.isAlphanum
  rw [isDigit_toString n c hc, Bool.or_true]
  rfl

/-! ## 3. The Details page -/

/-- The browser with the router. -/
structure Browser where
  /-- `useParams().tournamentKey` at a path, if `/tournaments/:tournamentKey/dashboard` matches it -/
  tournamentKey : String → Option String
  /-- `Number` -/
  number : String → Int

/-- The browser as it is documented: a segment of URL-safe characters is a parameter as it stands,
    and the digits of a safe integer are this integer. -/
structure Browser.Lawful (W : Browser) : Prop where
  tournamentKey : ∀ k : String, k.toList ≠ [] → (∀ c ∈ k.toList, isLinkCharacter c = true) →
    W.tournamentKey (detailsPath k) = some k
  number : ∀ n : Nat, n ≤ maxSafeInteger → W.number (toString n) = n

/-- What a page shows in place of a tournament. -/
inductive PageError where
  | message (text : String)
  | response (failure : Failure)
  | notFound

section Page

variable (W : Browser) (L : Libraries) (cfg : Config) (site : Site) (now : DateTime)
  (headers : Headers)

def fetchTournament (tournamentKey : String) (dashboardMode : Bool) :
    Except PageError TournamentRow :=
  if !isNumericIdentifier tournamentKey then
    if !dashboardMode then
      .error (.message "Tournament management routes require a numeric tournament id.")
    else
      match getTournaments L cfg site now headers .opened (some tournamentKey) with
      | .error failure => .error (.response failure)
      | .ok [] => .error (.message ("No tournament has the Details link \"" ++ tournamentKey ++ "\"."))
      | .ok (tournament :: _) => .ok tournament
  else (getTournament L cfg site now headers (W.number tournamentKey)).mapError .response

/-- The tournament of the Details page at a path. -/
def openDetails (path : String) : Except PageError TournamentRow :=
  match W.tournamentKey path with
  | some tournamentKey => fetchTournament W L cfg site now headers tournamentKey true
  | none => .error .notFound

end Page

/-! ## 4. Stored links -/

/-- The `dashboard_endpoint` of a body. -/
def Call.dashboardEndpoint : Call → Option String
  | .createTournament body => body.dashboardEndpoint
  | .request _ (.updateTournamentById body) => body.dashboardEndpoint
  | _ => none

/-- A request whose body was validated. -/
def Arrival.Validated {L : Libraries} (a : Arrival L) : Prop :=
  ∀ call, a.request = .call call →
    ∃ value, validateDashboardEndpoint value = .ok call.dashboardEndpoint

structure LinksKept (db : Database) : Prop where
  isolated : Isolated db
  apart : EndpointsApart db
  next : 0 ≤ db.tournaments.next
  ids : ∀ t ∈ db.tournaments.rows, 0 ≤ t.id
  links : ∀ t ∈ db.tournaments.rows, ∀ e, t.dashboardEndpoint = some e →
    isDetailsLink e.toList = true

section Stored

variable {db db' : Database}

theorem LinksKept.empty : LinksKept .empty :=
  ⟨isolated_empty, fun _ ht => absurd ht List.not_mem_nil, by decide,
    fun _ ht => absurd ht List.not_mem_nil, fun _ ht => absurd ht List.not_mem_nil⟩

/-- What holds of the rows and what the written ones keep. -/
theorem rows_of_update {P : TournamentRow → Prop} {p : TournamentRow → Bool}
    {f : TournamentRow → TournamentRow} {hf : ∀ t, key (f t) = key t}
    (hold : ∀ t ∈ db.tournaments.rows, P t) (hwrite : ∀ t, P t → P (f t)) :
    ∀ t ∈ (db.tournaments.update p f hf).rows, P t := by
  intro t ht
  obtain ⟨old, hmem, rfl⟩ := mem_update_tournaments ht
  split
  · exact hwrite old (hold old hmem)
  · exact hold old hmem

/-- A tournament after a call has its id and its link from before, or the link of the call. -/
theorem LinksKept.call (hdb : LinksKept db) {env : Environment} {call : Call}
    (h : call.handle env db = .ok db')
    (hlink : ∀ e, call.dashboardEndpoint = some e → isDetailsLink e.toList = true) :
    LinksKept db' := by
  have hrows : 0 ≤ db'.tournaments.next ∧ ∀ t ∈ db'.tournaments.rows, 0 ≤ t.id ∧
      ∀ e, t.dashboardEndpoint = some e → isDetailsLink e.toList = true := by
    have hold : ∀ t ∈ db.tournaments.rows, 0 ≤ t.id ∧
        ∀ e, t.dashboardEndpoint = some e → isDetailsLink e.toList = true :=
      fun t ht => ⟨hdb.ids t ht, hdb.links t ht⟩
    cases Call.tournamentEffect hdb.isolated h with
    | kept hsame =>
      rw [hsame]
      exact ⟨hdb.next, hold⟩
    | created hsame =>
      rw [hsame]
      refine ⟨hdb.next.trans (Int.le_add_one (Int.le_refl _)), fun t ht => ?_⟩
      rcases (Table.mem_insert _).mp ht with ht | rfl
      · exact hold t ht
      · exact ⟨hdb.next, hlink⟩
    | settings hsame =>
      rw [hsame]
      exact ⟨hdb.next, rows_of_update hold fun t ht => ⟨ht.1, hlink⟩⟩
    | status hsame =>
      rw [hsame]
      exact ⟨hdb.next, rows_of_update hold fun t ht => ht⟩
    | logo hsame =>
      rw [hsame]
      exact ⟨hdb.next, rows_of_update hold fun t ht => ht⟩
    | deleted hsame =>
      rw [hsame]
      exact ⟨hdb.next, fun t ht => hold t (db.tournaments.mem_delete.mp ht).1⟩
  exact ⟨(Confined.call hdb.isolated h).isolated, hdb.apart.call hdb.isolated h, hrows.1,
    fun t ht => (hrows.2 t ht).1, fun t ht => (hrows.2 t ht).2⟩

end Stored

/-! ## 5. Opening a link -/

section Opening

variable {W : Browser} {L : Libraries} {cfg : Config} {site : Site} {now : DateTime}
  {headers : Headers} {t : TournamentRow}

/-- A public endpoint leads to its tournament. -/
theorem sqlGetTournamentByEndpointName_eq (hapart : EndpointsApart site.db)
    (ht : t ∈ site.db.tournaments.rows) {e : String} (he : t.dashboardEndpoint = some e)
    (hpublic : t.dashboardPublic = true) :
    sqlGetTournamentByEndpointName site.db e = some t := by
  unfold sqlGetTournamentByEndpointName
  cases hfind : site.db.tournaments.rows.find? fun t =>
      t.dashboardEndpoint == some e && t.dashboardPublic with
  | none =>
    have hnone := List.find?_eq_none.1 hfind t ht
    simp [he, hpublic] at hnone
  | some found =>
    have hfacts := List.find?_some hfind
    rw [Bool.and_eq_true, beq_iff_eq] at hfacts
    rw [hapart t ht found (List.mem_of_find?_eq_some hfind) e he hfacts.1]

/-- The list of an endpoint is its tournament. -/
theorem getTournaments_endpoint {filter : TournamentFilter} {e : String}
    {listed : List TournamentRow} :
    getTournaments L cfg site now headers filter (some e) = .ok listed ↔
      ∃ t, sqlGetTournamentByEndpointName site.db e = some t ∧ listed = [t] := by
  have huser : userAuthenticatedOrPublicDashboardByEndpointName L cfg site now headers (some e) =
      orRaise (sqlGetTournamentByEndpointName site.db e) couldNotValidate >>= fun _ => .ok none := rfl
  unfold getTournaments
  rw [huser]
  cases hfind : sqlGetTournamentByEndpointName site.db e with
  | none =>
    have hnone : orRaise (none : Option TournamentRow) couldNotValidate = .error couldNotValidate :=
      rfl
    rw [hnone, error_bind, error_bind]
    simp
  | some found =>
    rw [orRaise_some, ok_bind, ok_bind]
    show (orRaise (sqlGetTournamentByEndpointName site.db e) _ >>= fun _ => _) = _ ↔ _
    rw [hfind, orRaise_some, ok_bind]
    simp [eq_comm]

/-- Which tournament a key stands for. -/
theorem fetchTournament_eq_ok {tournamentKey : String} {dashboardMode : Bool} :
    fetchTournament W L cfg site now headers tournamentKey dashboardMode = .ok t ↔
      if isNumericIdentifier tournamentKey then
        getTournament L cfg site now headers (W.number tournamentKey) = .ok t
      else dashboardMode = true ∧ sqlGetTournamentByEndpointName site.db tournamentKey = some t := by
  unfold fetchTournament
  cases isNumericIdentifier tournamentKey with
  | true =>
    cases getTournament L cfg site now headers (W.number tournamentKey) with
    | error failure => simp [Except.mapError]
    | ok found => simp [Except.mapError]
  | false =>
    cases dashboardMode with
    | false => simp
    | true =>
      cases hlist : getTournaments L cfg site now headers .opened (some tournamentKey) with
      | error failure =>
        have hnone : ∀ t, sqlGetTournamentByEndpointName site.db tournamentKey ≠ some t := by
          intro t ht
          cases hlist.symm.trans (getTournaments_endpoint.mpr ⟨t, ht, rfl⟩)
        simp [hnone]
      | ok listed =>
        obtain ⟨found, hfound, rfl⟩ := getTournaments_endpoint.mp hlist
        simp [hfound]

theorem fetchTournament_link {e : String} (hlink : isDetailsLink e.toList = true)
    (hfind : sqlGetTournamentByEndpointName site.db e = some t) :
    fetchTournament W L cfg site now headers e true = .ok t := by
  rw [fetchTournament_eq_ok, not_isNumericIdentifier hlink, if_neg Bool.false_ne_true]
  exact ⟨rfl, hfind⟩

theorem fetchTournament_number (hW : W.Lawful) {n : Nat} (hsafe : n ≤ maxSafeInteger)
    {t' : TournamentRow} :
    fetchTournament W L cfg site now headers (toString n) true = .ok t' ↔
      getTournament L cfg site now headers n = .ok t' := by
  rw [fetchTournament_eq_ok, isNumericIdentifier_toString, if_pos rfl, hW.number n hsafe]

theorem openDetails_path (hW : W.Lawful) {k : String} (hne : k.toList ≠ [])
    (hk : ∀ c ∈ k.toList, isLinkCharacter c = true) :
    openDetails W L cfg site now headers (detailsPath k) =
      fetchTournament W L cfg site now headers k true := by
  unfold openDetails
  rw [hW.tournamentKey k hne hk]

theorem getTournament_self {t' : TournamentRow} (ht : t ∈ site.db.tournaments.rows) :
    getTournament L cfg site now headers t.id = .ok t' ↔
      t' = t ∧ getTournament L cfg site now headers t.id = .ok t := by
  constructor
  · intro h
    have hfind : site.db.tournaments.find? t.id = some t := Table.find?_key _ ht
    obtain rfl : t = t' := Option.some.inj (hfind.symm.trans (getTournament_eq_ok.mp h).1)
    exact ⟨rfl, h⟩
  · rintro ⟨rfl, h⟩
    exact h

/-- In one site. -/
theorem openDetails_iff (hW : W.Lawful) (hdb : LinksKept site.db)
    (ht : t ∈ site.db.tournaments.rows) (hsafe : t.id ≤ maxSafeInteger) (t' : TournamentRow) :
    openDetails W L cfg site now headers (publicTournamentPath t) = .ok t' ↔
      t' = t ∧ getTournament L cfg site now headers t.id = .ok t := by
  have hnumber : openDetails W L cfg site now headers (detailsPath (toString t.id)) = .ok t' ↔
      t' = t ∧ getTournament L cfg site now headers t.id = .ok t := by
    rw [← getTournament_self ht]
    have hid := hdb.ids t ht
    generalize t.id = k at hid hsafe
    obtain ⟨n, rfl⟩ := Int.eq_ofNat_of_zero_le hid
    show openDetails W L cfg site now headers (detailsPath (toString n)) = .ok t' ↔ _
    rw [openDetails_path hW (toString_ne_nil n) (isLinkCharacter_toString n)]
    exact fetchTournament_number hW (Int.ofNat_le.mp hsafe)
  unfold publicTournamentPath TournamentRow.pathKey
  cases hpublic : t.dashboardPublic with
  | false => exact hnumber
  | true =>
    cases he : t.dashboardEndpoint with
    | none => exact hnumber
    | some e =>
      have hlink := hdb.links t ht e he
      rw [if_pos rfl, normalizeDashboardEndpoint_link hlink, Option.getD_some,
        openDetails_path hW (ne_nil_of_link hlink)
          fun c hc => List.all_eq_true.1 (Bool.and_eq_true_iff.1 hlink).1 c hc,
        fetchTournament_link hlink (sqlGetTournamentByEndpointName_eq hdb.apart ht he hpublic)]
      have hreads : getTournament L cfg site now headers t.id = .ok t :=
        getTournament_eq_ok.mpr ⟨Table.find?_key _ ht, .inr (.inl hpublic)⟩
      constructor
      · intro h
        cases h
        exact ⟨rfl, hreads⟩
      · rintro ⟨rfl, -⟩
        rfl

end Opening

/-! ## 6. Runs -/

section Runs

variable (W : Browser) (L : Libraries) (cfg : Config) {F : Type} (lim : SiteLimiter F)

/-- **The Details link of a tournament opens this tournament to everyone who may read it**, and
    opens nothing else, in every site that requests with validated bodies lead to. -/
theorem details_link_opens (hW : W.Lawful) (hL : L.Lawful) (counters : F)
    (arrivals : List (Arrival L)) (hvalid : ∀ a ∈ arrivals, a.Validated) {now : DateTime}
    {headers : Headers} {t : TournamentRow}
    (ht : t ∈ (reached L cfg lim counters arrivals).site.db.tournaments.rows)
    (hsafe : t.id ≤ maxSafeInteger) (t' : TournamentRow) :
    openDetails W L cfg (reached L cfg lim counters arrivals).site now headers
        (publicTournamentPath t) = .ok t' ↔
      t' = t ∧
        getTournament L cfg (reached L cfg lim counters arrivals).site now headers t.id = .ok t := by
  have hkept : LinksKept (reached L cfg lim counters arrivals).site.db := by
    refine Backend.run_invariant (P := fun site => LinksKept site.db) hL
      (fun a ha site site' _ hP heffect => ?_) .empty
    rcases heffect.db with hkept | ⟨call, hrequest, hcall⟩
    · rw [hkept]
      exact hP
    · obtain ⟨value, hvalue⟩ := hvalid a ha call hrequest
      exact hP.call hcall fun e he => validateDashboardEndpoint_link (he ▸ hvalue)
  exact openDetails_iff hW hkept ht hsafe t'

end Runs

/-! ### Ann's link -/

section Cup

/-- A browser that takes the segment out of the path. -/
def plainBrowser : Browser where
  tournamentKey path :=
    some (String.ofList ((path.toList.drop 13).take (path.toList.length - 23)))
  number text := (Nat.ofDigitChars 10 text.toList 0 : Nat)

theorem plainBrowser_lawful : plainBrowser.Lawful where
  tournamentKey k _ _ := by
    have hpath : (detailsPath k).toList = "/tournaments/".toList ++ (k.toList ++ "/dashboard".toList) := by
      unfold detailsPath
      rw [String.toList_append, String.toList_append, List.append_assoc]
    have hbefore : "/tournaments/".toList.length = 13 := by decide
    have hafter : "/dashboard".toList.length = 10 := by decide
    show some _ = some k
    rw [hpath, List.drop_left' hbefore, List.length_append, List.length_append, hbefore, hafter,
      show 13 + (k.toList.length + 10) - 23 = k.toList.length by omega, List.take_left,
      String.ofList_toList]
  number n _ := by
    show ((Nat.ofDigitChars 10 (toString n).toList 0 : Nat) : Int) = n
    rw [Nat.toString_eq_repr, Nat.toList_repr, Nat.ofDigitChars_ten_toDigits]

def chessCupLink : TournamentUpdateBody :=
  ⟨0, true, some "chess-cup", 45, 19, by decide, by decide⟩

theorem cup_linked : ∃ site db, cupSite = .ok site ∧
    askAll site site.db [.updateTournamentById chessCupLink] = .ok db ∧
    ∃ t ∈ db.tournaments.rows, t.id = 1 ∧ t.dashboardPublic = true ∧
      publicTournamentPath t = "/tournaments/chess-cup/dashboard" := by
  obtain ⟨site, hsite, hany⟩ := exists_ok_of_any (x := cupSite) (P := fun site =>
    ((askAll site site.db [.updateTournamentById chessCupLink]).toOption.any
      fun db => decide (∃ t ∈ db.tournaments.rows, t.id = 1 ∧ t.dashboardPublic = true ∧
        publicTournamentPath t = "/tournaments/chess-cup/dashboard")) = true)
    (by decide +kernel)
  obtain ⟨db, hdb, ht⟩ := exists_ok_of_any hany
  exact ⟨site, db, hsite, hdb, ht⟩

theorem annsRun_validated :
    ∀ a ∈ annsRun ++ [annAsks (.updateTournamentById chessCupLink)], a.Validated := by
  intro a ha call hcall
  simp only [annsRun, List.cons_append, List.nil_append, List.mem_cons, List.not_mem_nil,
    or_false] at ha
  rcases ha with rfl | rfl | rfl | rfl
  · cases hcall
  · cases hcall
  · cases hcall
    exact ⟨none, rfl⟩
  · cases hcall
    exact ⟨some " chess-cup", by decide +kernel⟩

/-- Everyone who follows Ann's link reads the cup. -/
theorem annsLink_opens : ∃ t, openDetails plainBrowser plainLibraries plainConfig
    (reached plainLibraries plainConfig memoryLimits noCounts
      (annsRun ++ [annAsks (.updateTournamentById chessCupLink)])).site 4 {}
    "/tournaments/chess-cup/dashboard" = .ok t := by
  obtain ⟨site, db, hcup, hdb, t, ht, hid, hpublic, hpath⟩ := cup_linked
  have hlast := congrArg Backend.site (reached_annAsks hcup hdb)
  rw [List.map_singleton] at hlast
  refine ⟨t, ?_⟩
  have hmem : t ∈ (reached plainLibraries plainConfig memoryLimits noCounts
      (annsRun ++ [annAsks (.updateTournamentById chessCupLink)])).site.db.tournaments.rows := by
    rw [hlast]
    exact ht
  rw [← hpath]
  refine (details_link_opens plainBrowser plainLibraries plainConfig memoryLimits
    plainBrowser_lawful plainLibraries_lawful noCounts
    (annsRun ++ [annAsks (.updateTournamentById chessCupLink)]) annsRun_validated hmem
    (hid ▸ by decide) t).mpr ⟨rfl, getTournament_eq_ok.mpr
      ⟨Table.find?_key _ hmem, .inr (.inl hpublic)⟩⟩

end Cup

end Brackets
