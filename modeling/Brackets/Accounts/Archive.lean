/-
  File:      Brackets/Accounts/Archive.lean
  Subject:   Archived tournaments are read-only.

  Every request for a tournament asks whether it is archived (`disallow_archived_tournament`), but
  the one that changes its status and the one that deletes it. So until one of these two comes, an
  archived tournament stays as it is, whatever else is sent by anyone: `archived_stays`.
-/
import Brackets.Accounts.Ownership
import Brackets.Progress.Limits

namespace Brackets

open Library

variable {db db' : Database} {tid : TournamentId}

/-! ## 1. Requests -/

/-- A call for something else leaves an archived tournament alone. -/
theorem Call.archived_same (hdb : Isolated db) {t : TournamentRow}
    (ht : db.tournaments.find? tid = some t) (harchived : t.status = .archived)
    {env : Environment} {call : Call} (h : call.handle env db = .ok db')
    (hcall : ∀ r, call = .request tid r → r.forArchived = false) : SameFor tid db db' := by
  refine (Confined.call hdb h).same tid ?_
  rintro rfl
  cases call with
  | createTournament body =>
    rw [Call.tournament, Table.find?_next] at ht
    cases ht
  | request tid r =>
    obtain ⟨t', ht', hopen⟩ := Request.tournament_open h (hcall r rfl)
    exact hopen (Option.some.inj (ht'.symm.trans ht) ▸ harchived)

/-! ## 2. Runs -/

section Runs

variable (L : Libraries) (cfg : Config) {F : Type} (lim : SiteLimiter F)

/-- **An archived tournament is read-only**: whatever is sent, as long as it is not a change of its
    status or its deletion, every row and all details of the tournament stay. -/
theorem archived_stays (hL : L.Lawful) (counters : F) (before after : List (Arrival L))
    {t : TournamentRow} (ht : t ∈ (reached L cfg lim counters before).site.db.tournaments.rows)
    (harchived : t.status = .archived)
    (hafter : ∀ a ∈ after, ∀ r, a.request = .call (.request t.id r) → r.forArchived = false) :
    SameFor t.id (reached L cfg lim counters before).site.db
        (reached L cfg lim counters (before ++ after)).site.db ∧
      ∀ f, fullTournamentDetails (reached L cfg lim counters (before ++ after)).site.db t.id f =
        fullTournamentDetails (reached L cfg lim counters before).site.db t.id f := by
  have hs : Owned (reached L cfg lim counters before).site := reached_owned hL counters before
  have hs' : Owned (reached L cfg lim counters (before ++ after)).site := reached_owned hL counters _
  have hfind := Table.find?_key _ ht
  have hrun : Isolated (reached L cfg lim counters (before ++ after)).site.db ∧
      SameFor t.id (reached L cfg lim counters before).site.db
        (reached L cfg lim counters (before ++ after)).site.db := by
    rw [reached_append]
    refine Backend.run_invariant (P := fun site => Isolated site.db ∧
      SameFor t.id (reached L cfg lim counters before).site.db site.db) hL
      (fun a ha site site' token hP h => ?_) ⟨hs.isolated, .refl _ _⟩
    obtain ⟨hdb, hsame⟩ := hP
    rcases h.db with hkept | ⟨call, hrequest, hcall⟩
    · rw [hkept]
      exact ⟨hdb, hsame⟩
    · refine ⟨(Confined.call hdb hcall).isolated, hsame.trans ?_⟩
      refine Call.archived_same hdb (hsame.tournament.trans hfind) harchived hcall fun r hr => ?_
      exact hafter a ha r (hrequest.trans (congrArg _ hr))
  exact ⟨hrun.2, hrun.2.details hs.isolated hs'.isolated⟩

end Runs

/-! ### Ann's cup is over -/

section Cup

/-- The cup with its new status. -/
theorem cup_archived : ∃ site db, cupSite = .ok site ∧
    askAll site site.db [.changeStatus .archived] = .ok db ∧
    ∃ t ∈ db.tournaments.rows, t.id = 1 ∧ t.status = .archived := by
  obtain ⟨site, hsite, hany⟩ := exists_ok_of_any (x := cupSite) (P := fun site =>
    ((askAll site site.db [.changeStatus .archived]).toOption.any fun db =>
      decide (∃ t ∈ db.tournaments.rows, t.id = 1 ∧ t.status = .archived)) = true)
    (by decide +kernel)
  obtain ⟨db, hdb, ht⟩ := exists_ok_of_any hany
  exact ⟨site, db, hsite, hdb, ht⟩

theorem annsCup_stays : SameFor 1
    (reached plainLibraries plainConfig memoryLimits noCounts
      (annsRun ++ [annAsks (.changeStatus .archived)])).site.db
    (reached plainLibraries plainConfig memoryLimits noCounts
      ((annsRun ++ [annAsks (.changeStatus .archived)]) ++ [annAsks .createStage])).site.db := by
  obtain ⟨site, db, hcup, hdb, t, ht, hid1, hstatus⟩ := cup_archived
  have hlast := congrArg (·.site.db) (reached_annAsks hcup hdb)
  rw [← hid1]
  refine (archived_stays plainLibraries plainConfig memoryLimits plainLibraries_lawful
    noCounts (annsRun ++ [annAsks (.changeStatus .archived)]) [annAsks .createStage] (t := t)
    (hlast ▸ ht) hstatus fun a ha r hr => ?_).1
  obtain rfl := List.mem_singleton.mp ha
  injection SiteRequest.call.inj hr with _ hr
  rw [← hr]
  rfl

end Cup

end Brackets
