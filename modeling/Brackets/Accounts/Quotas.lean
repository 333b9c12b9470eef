/-
  File:      Brackets/Accounts/Quotas.lean
  Subject:   How many clubs a user may have, and how many tournaments a club.

  The limits are checked when a club or a tournament is created. Nothing else gives a user a club or
  a club a tournament, so they hold after any requests: `quotas_hold`.
-/
import Brackets.Accounts.Ownership

namespace Brackets

open Library

/-! ## 1. Counting -/

/-- The clubs of a user and the tournaments of a club are within their limits. -/
structure WithinQuotas (site : Site) : Prop where
  clubs : ∀ u, (getClubsForUserId site u).length ≤ maxClubs
  tournaments : ∀ c, (site.db.tournaments.rows.filter (·.clubId == c)).length ≤
    regularSubscription.maxTournaments

/-- The rows of access of a user. -/
def Site.accessCount (site : Site) (u : UserId) : Nat :=
  site.usersXClubs.rows.countP (·.userId == u)

/-- Every row of access is to a club that is there. -/
theorem Owned.length_clubs {site : Site} (hs : Owned site) (u : UserId) :
    (getClubsForUserId site u).length = site.accessCount u := by
  unfold getClubsForUserId Site.accessCount
  rw [List.length_filterMap_eq_countP, List.countP_filter]
  refine List.countP_congr fun x hx => ?_
  simp [hs.clubs x hx]

section Tournaments

variable {db db' : Database}

/-- Different tournaments have different ids. -/
theorem nodup_clubIds (db : Database) (c : ClubId) :
    ((db.tournaments.rows.filter (·.clubId == c)).map (·.id)).Nodup := by
  rw [List.Nodup, List.pairwise_map]
  exact (db.tournaments.sorted.filter _).imp fun h => ne_of_lt h

/-- Only a creation gives a club a tournament. -/
theorem Call.clubTournaments_le (hdb : Isolated db) {env : Environment} {call : Call}
    (h : call.handle env db = .ok db') {c : ClubId}
    (hc : ∀ body, call = .createTournament body → body.clubId ≠ c) :
    (db'.tournaments.rows.filter (·.clubId == c)).length ≤
      (db.tournaments.rows.filter (·.clubId == c)).length := by
  have hsub : (db'.tournaments.rows.filter (·.clubId == c)).map (·.id) ⊆
      (db.tournaments.rows.filter (·.clubId == c)).map (·.id) := by
    intro k hk
    obtain ⟨t, ht, rfl⟩ := List.mem_map.mp hk
    obtain ⟨ht, hclub⟩ := List.mem_filter.mp ht
    rcases Call.club_of hdb h ht with ⟨old, hold, hid, hsame⟩ | ⟨body, hcall, hsame⟩
    · exact List.mem_map.mpr ⟨old, List.mem_filter.mpr ⟨hold, by rw [hsame, hclub]⟩, hid⟩
    · exact absurd (hsame.symm.trans (eq_of_beq hclub)) (hc body hcall)
  have hle := ((nodup_clubIds db' c).subperm hsub).length_le
  rwa [List.length_map, List.length_map] at hle

/-- A creation leaves room in its club. -/
theorem createTournament_room {body : TournamentBody} (h : createTournament db body = .ok db') :
    (db'.tournaments.rows.filter (·.clubId == body.clubId)).length ≤
      regularSubscription.maxTournaments := by
  obtain ⟨hroom, -, rfl⟩ := createTournament_ok h
  show ((db.tournaments.rows ++ [_]).filter _).length ≤ _
  rw [List.filter_append, List.length_append]
  exact (Nat.add_le_add_left (List.length_filter_le _ _) _).trans hroom

end Tournaments

/-! ## 2. One request -/

section Step

variable {L : Libraries} {cfg : Config} {site site' : Site} {a : Arrival L} {token : Option Token}

theorem WithinQuotas.access (hs : Owned site) (hq : WithinQuotas site) (u : UserId) :
    site.accessCount u ≤ maxClubs := hs.length_clubs u ▸ hq.clubs u

/-- **Every request keeps the access of a user within the limit.** -/
theorem Arrival.Effect.access_le (hs : Owned site) (hq : WithinQuotas site)
    (h : a.Effect cfg site site' token) (u : UserId) : site'.accessCount u ≤ maxClubs := by
  have hkept := hq.access hs u
  cases h with
  | nothing => exact hkept
  | login => exact hkept
  | rehash => exact hkept
  | register _ stored =>
    obtain ⟨users, rfl⟩ := createUser_site stored
    exact hkept
  | details _ _ stored =>
    obtain ⟨users, rfl⟩ := updateUser_site stored
    exact hkept
  | password => exact hkept
  | @newClub user name _ _ _ few stored =>
    rw [hs.length_clubs] at few
    rw [createClub_ok stored]
    show (site.usersXClubs.rows ++ [_]).countP _ ≤ _
    rw [List.countP_append, List.countP_singleton]
    unfold Site.accessCount at few hkept
    by_cases hu : user.id = u
    · subst hu
      simp only [beq_self_eq_true, if_true]
      omega
    · have hne : (user.id == u) = false := beq_false_of_ne hu
      simp only [hne, Bool.false_eq_true, if_false]
      exact hkept
  | noClub _ _ _ stored =>
    rw [sqlDeleteClub_ok stored]
    exact (List.filter_sublist.countP_le).trans hkept
  | renameClub _ _ _ stored =>
    rw [writeClubs_ok stored]
    exact hkept
  | newTournament => exact hkept
  | tournament => exact hkept

/-- **Every request keeps the limits.** -/
theorem WithinQuotas.effect (hs : Owned site) (hq : WithinQuotas site)
    (h : a.Effect cfg site site' token) : WithinQuotas site' where
  clubs u := (hs.effect h).length_clubs u ▸ h.access_le hs hq u
  tournaments c := by
    rcases h.db with hkept | ⟨call, -, hcall⟩
    · exact hkept ▸ hq.tournaments c
    · by_cases hc : ∃ body, call = .createTournament body ∧ body.clubId = c
      · obtain ⟨body, rfl, rfl⟩ := hc
        exact createTournament_room hcall
      · exact (Call.clubTournaments_le hs.isolated hcall fun body hbody hof =>
          hc ⟨body, hbody, hof⟩).trans (hq.tournaments c)

end Step

/-! ## 3. Runs -/

section Runs

variable (L : Libraries) (cfg : Config) {F : Type} (lim : SiteLimiter F)

/-- **The limits hold after any requests**: no user has more than 32 clubs, and no club more than 64
    tournaments. -/
theorem quotas_hold (hL : L.Lawful) (counters : F) (arrivals : List (Arrival L)) :
    (∀ u, (getClubsForUserId (reached L cfg lim counters arrivals).site u).length ≤ 32) ∧
      ∀ c, ((reached L cfg lim counters arrivals).site.db.tournaments.rows.filter
        (·.clubId == c)).length ≤ 64 := by
  have hboth : Owned (reached L cfg lim counters arrivals).site ∧
      WithinQuotas (reached L cfg lim counters arrivals).site :=
    Backend.run_invariant (P := fun site => Owned site ∧ WithinQuotas site) hL
      (fun _ _ _ _ _ hP h => ⟨hP.1.effect h, hP.2.effect hP.1 h⟩)
      ⟨owned_empty, fun _ => Nat.zero_le _, fun _ => Nat.zero_le _⟩
  exact ⟨hboth.2.clubs, hboth.2.tournaments⟩

end Runs

theorem annsRun_within : (getClubsForUserId (reached plainLibraries plainConfig memoryLimits
    noCounts annsRun).site 1).length ≤ 32 :=
  (quotas_hold plainLibraries plainConfig memoryLimits plainLibraries_lawful noCounts
    annsRun).1 1

end Brackets
