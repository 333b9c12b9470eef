/-
  File:      Brackets/Progress/BracketBuild.lean
  Subject:   Building a single elimination stage item.

  * `CanAdd`: a match that may be added to a tree: its sources are matches of earlier rounds that
    nothing reads yet;
  * `createMatches_wired`: adding the matches of a round keeps the tree wired;
  * `Frontier`: between two rounds, the matches of the last round are still unread;
  * `buildSingleElimination_ok`: from `2 ^ n` inputs and `n` empty rounds the whole tree is
    built, wired and unplayed.
-/
import Brackets.Progress.Wiring
import Brackets.Scheduling.Elimination

namespace Brackets

open Library

/-! ## 1. Adding a match -/

structure CanAdd (db : Database) (tid : TournamentId) (k : StageItemId) (m : MatchRow) : Prop where
  ofItem : db.roundItem m.roundId = some k
  known : ∀ side i, m.inputId side = some i → KnownInput db tid k i
  source : ∀ side j, m.winnerFrom side = some j →
    ∃ src, db.InItem k src ∧ src.id = j ∧ src.roundId < m.roundId
  unread : ∀ side j, m.winnerFrom side = some j → ∀ a, db.InItem k a → ∀ s, a.winnerFrom s ≠ some j

/-- No match has a score, and the slots with a source are empty. -/
structure Unplayed (db : Database) (k : StageItemId) : Prop where
  unscored : ∀ m, db.InItem k m → m.stageItemInput1Score = 0 ∧ m.stageItemInput2Score = 0
  empty : ∀ m, db.InItem k m → ∀ side j, m.winnerFrom side = some j → m.inputId side = none

theorem winnerId_of_level {m : MatchRow}
    (h : m.stageItemInput1Score = 0 ∧ m.stageItemInput2Score = 0) : m.winnerId = none := by
  rw [MatchRow.winnerId, MatchRow.winnerOf, h.1, h.2]
  rfl

theorem Unplayed.settled {db : Database} {k : StageItemId} (h : Unplayed db k) : Settled db k :=
  fun m src hm hsrc side hw => by
    rw [h.empty m hm side src.id hw, winnerId_of_level (h.unscored src hsrc)]

section Add

variable {db : Database} {tid : TournamentId} {k : StageItemId} {body : MatchCreateBody}

theorem inItem_create (hr : db.roundItem body.roundId = some k) {m : MatchRow} :
    (sqlCreateMatch db body).2.InItem k m ↔
      db.InItem k m ∨ m = newMatch body db.matches_.next := by
  have hround : ∀ r, (sqlCreateMatch db body).2.roundItem r = db.roundItem r := fun _ => rfl
  have hmem : m ∈ (sqlCreateMatch db body).2.matches_.rows ↔
      m ∈ db.matches_.rows ∨ m = newMatch body db.matches_.next :=
    @Table.mem_insert _ _ (newMatch body) (fun _ => rfl) db.matches_ m
  unfold Database.InItem
  rw [hround, hmem]
  constructor
  · rintro ⟨hm, hk⟩
    exact hm.imp (fun h => ⟨h, hk⟩) fun h => h
  · rintro (⟨hm, hk⟩ | rfl)
    · exact ⟨Or.inl hm, hk⟩
    · exact ⟨Or.inr rfl, hr⟩

theorem wired_create (hW : Wired db tid k) (h : CanAdd db tid k (newMatch body db.matches_.next)) :
    Wired (sqlCreateMatch db body).2 tid k where
  source := by
    intro m hm side j hw
    rcases (inItem_create h.ofItem).mp hm with hm | rfl
    · obtain ⟨src, hsrc, hid, hlt⟩ := hW.source m hm side j hw
      exact ⟨src, (inItem_create h.ofItem).mpr (Or.inl hsrc), hid, hlt⟩
    · obtain ⟨src, hsrc, hid, hlt⟩ := h.source side j hw
      exact ⟨src, (inItem_create h.ofItem).mpr (Or.inl hsrc), hid, hlt⟩
  reader := by
    intro m m' hm hm' side side' j hw hw'
    rcases (inItem_create h.ofItem).mp hm with hm | rfl <;>
      rcases (inItem_create h.ofItem).mp hm' with hm' | rfl
    · exact hW.reader m m' hm hm' side side' j hw hw'
    · exact absurd hw (h.unread side' j hw' m hm side)
    · exact absurd hw' (h.unread side j hw m' hm' side')
    · rfl
  known := by
    intro m hm side i hi
    rcases (inItem_create h.ofItem).mp hm with hm | rfl
    · exact hW.known m hm side i hi
    · exact h.known side i hi

theorem unplayed_create (hU : Unplayed db k) (hr : db.roundItem body.roundId = some k)
    (hempty : ∀ side j, (newMatch body db.matches_.next).winnerFrom side = some j →
      (newMatch body db.matches_.next).inputId side = none) :
    Unplayed (sqlCreateMatch db body).2 k where
  unscored := by
    intro m hm
    rcases (inItem_create hr).mp hm with hm | rfl
    · exact hU.unscored m hm
    · exact ⟨rfl, rfl⟩
  empty := by
    intro m hm
    rcases (inItem_create hr).mp hm with hm | rfl
    · exact hU.empty m hm
    · exact hempty

/-- Another match can still be added if it has no source in common with the new one. -/
theorem canAdd_create (hr : db.roundItem body.roundId = some k) {m : MatchRow}
    (h : CanAdd db tid k m)
    (hne : ∀ s s' j, (newMatch body db.matches_.next).winnerFrom s = some j →
      m.winnerFrom s' ≠ some j) : CanAdd (sqlCreateMatch db body).2 tid k m where
  ofItem := h.ofItem
  known := h.known
  source := by
    intro side j hw
    obtain ⟨src, hsrc, hid, hlt⟩ := h.source side j hw
    exact ⟨src, (inItem_create hr).mpr (Or.inl hsrc), hid, hlt⟩
  unread := by
    intro side j hw a ha s haw
    rcases (inItem_create hr).mp ha with ha | rfl
    · exact h.unread side j hw a ha s haw
    · exact hne s side j haw hw

end Add

/-! ## 2. The matches of a round -/

/-- The sources of a body. -/
def MatchCreateBody.winnerFrom (body : MatchCreateBody) (side : Side) : Option MatchId :=
  (newMatch body 0).winnerFrom side

theorem newMatch_winnerFrom (body : MatchCreateBody) (x : MatchId) (side : Side) :
    (newMatch body x).winnerFrom side = body.winnerFrom side := by
  cases side <;> rfl

/-- What the creation of the matches of a round leaves. -/
structure Created (db : Database) (tid : TournamentId) (k : StageItemId)
    (bodies : List MatchCreateBody) (out : List MatchRow × Database) : Prop where
  wired : Wired out.2 tid k
  unplayed : Unplayed out.2 k
  frame : { out.2 with matches_ := db.matches_ } = db
  inItem : ∀ m, out.2.InItem k m ↔ db.InItem k m ∨ m ∈ out.1
  fromBody : ∀ m ∈ out.1, ∃ b ∈ bodies, m.roundId = b.roundId
  fresh : ∀ m ∈ out.1, db.matches_.next ≤ m.id
  distinct : (out.1.map (·.id)).Nodup
  length : out.1.length = bodies.length

/-- **Adding the matches of a round keeps the tree wired.** -/
theorem createMatches_wired {tid : TournamentId} {k : StageItemId} (bodies : List MatchCreateBody)
    {db : Database} (hW : Wired db tid k) (hU : Unplayed db k)
    (hadd : ∀ b ∈ bodies, ∀ x, CanAdd db tid k (newMatch b x))
    (hempty : ∀ b ∈ bodies, ∀ x side j, (newMatch b x).winnerFrom side = some j →
      (newMatch b x).inputId side = none)
    (hpair : bodies.Pairwise fun b b' => ∀ s s' j, b.winnerFrom s = some j →
      b'.winnerFrom s' ≠ some j) : Created db tid k bodies (createMatches db bodies) := by
  induction bodies generalizing db with
  | nil =>
    exact ⟨hW, hU, rfl, fun m => by simp [createMatches], fun m hm => absurd hm List.not_mem_nil,
      fun m hm => absurd hm List.not_mem_nil, List.nodup_nil, rfl⟩
  | cons body bodies ih =>
    rw [List.pairwise_cons] at hpair
    have hb := hadd body List.mem_cons_self
    have hr := (hb 0).ofItem
    have hrest := ih (wired_create hW (hb _))
      (unplayed_create hU hr (hempty body List.mem_cons_self _))
      (fun b hmem x => canAdd_create hr (hadd b (List.mem_cons_of_mem _ hmem) x)
        fun s s' j h1 h2 => by
          rw [newMatch_winnerFrom] at h1 h2
          exact hpair.1 b hmem s s' j h1 h2)
      (fun b hmem => hempty b (List.mem_cons_of_mem _ hmem)) hpair.2
    have hin : ∀ m, (createMatches (sqlCreateMatch db body).2 bodies).2.InItem k m ↔
        db.InItem k m ∨ m = newMatch body db.matches_.next ∨
          m ∈ (createMatches (sqlCreateMatch db body).2 bodies).1 := fun m => by
      rw [hrest.inItem, inItem_create hr, or_assoc]
    have hnext : (sqlCreateMatch db body).2.matches_.next = db.matches_.next + 1 := rfl
    have hfresh : ∀ m ∈ (createMatches (sqlCreateMatch db body).2 bodies).1,
        db.matches_.next < m.id := fun m hm => by
      have := hrest.fresh m hm
      rw [hnext] at this
      exact Int.lt_of_add_one_le this
    refine ⟨hrest.wired, hrest.unplayed, ?_, fun m => ?_, fun m hm => ?_, fun m hm => ?_, ?_, ?_⟩
    · exact congrArg (fun d : Database => { d with matches_ := db.matches_ }) hrest.frame
    · rw [createMatches, hin, List.mem_cons]
      rfl
    · rcases List.mem_cons.mp hm with rfl | hm
      · exact ⟨body, List.mem_cons_self, rfl⟩
      · obtain ⟨b, hb', e⟩ := hrest.fromBody m hm
        exact ⟨b, List.mem_cons_of_mem _ hb', e⟩
    · rcases List.mem_cons.mp hm with rfl | hm
      · exact le_refl _
      · exact le_of_lt (hfresh m hm)
    · refine List.nodup_cons.mpr ⟨fun hmem => ?_, hrest.distinct⟩
      obtain ⟨m, hm, e⟩ := List.mem_map.mp hmem
      exact absurd (hfresh m hm) (by rw [e]; exact lt_irrefl _)
    · exact congrArg (· + 1) hrest.length

/-! ## 3. Round after round -/

/-- Between two rounds: `prev` are the matches of the last round `r`. -/
structure Frontier (db : Database) (tid : TournamentId) (k : StageItemId) (r : RoundId)
    (prev : List MatchRow) : Prop where
  wired : Wired db tid k
  unplayed : Unplayed db k
  upTo : ∀ m, db.InItem k m → m.roundId ≤ r
  last : ∀ m ∈ prev, db.InItem k m ∧ m.roundId = r
  distinct : (prev.map (·.id)).Nodup

theorem Created.frontier {db : Database} {tid : TournamentId} {k : StageItemId} {r : RoundId}
    {bodies : List MatchCreateBody} {out : List MatchRow × Database}
    (h : Created db tid k bodies out) (hround : ∀ b ∈ bodies, b.roundId = r)
    (hup : ∀ m, db.InItem k m → m.roundId ≤ r) : Frontier out.2 tid k r out.1 := by
  have hlast : ∀ m ∈ out.1, m.roundId = r := fun m hm => by
    obtain ⟨b, hb, e⟩ := h.fromBody m hm
    rw [e, hround b hb]
  refine ⟨h.wired, h.unplayed, fun m hm => ?_, fun m hm => ?_, h.distinct⟩
  · rcases (h.inItem m).mp hm with hm | hm
    · exact hup m hm
    · exact le_of_eq (hlast m hm)
  · exact ⟨(h.inItem m).mpr (Or.inr hm), hlast m hm⟩

section Rounds

variable {db : Database} {tid : TournamentId} {k : StageItemId} {r : RoundId}
  {prev : List MatchRow}

/-- The matches of the last round are unread: whatever reads a match is in a later round. -/
theorem Frontier.unread (h : Frontier db tid k r prev) {m a : MatchRow} (hm : m ∈ prev)
    (ha : db.InItem k a) (s : Side) : a.winnerFrom s ≠ some m.id := by
  intro hw
  obtain ⟨src, hsrc, hid, hlt⟩ := h.wired.source a ha s m.id hw
  obtain ⟨hmi, hmr⟩ := h.last m hm
  have hsm : src = m := db.matches_.eq_of_key hsrc.1 hmi.1 hid
  rw [hsm, hmr] at hlt
  exact absurd hlt (not_lt.mpr (h.upTo a ha))

/-- The match that two neighbours of the last round feed. -/
def feedBody (round : RoundWithMatches) (tournament : TournamentRow) (p : MatchRow × MatchRow) :
    MatchCreateBody where
  roundId := round.id
  stageItemInput1WinnerFromMatchId := some p.1.id
  stageItemInput2WinnerFromMatchId := some p.2.id
  durationMinutes := tournament.durationMinutes
  marginMinutes := tournament.marginMinutes

theorem feedBody_winnerFrom {round : RoundWithMatches} {tournament : TournamentRow}
    {p : MatchRow × MatchRow} {side : Side} {j : MatchId}
    (h : (feedBody round tournament p).winnerFrom side = some j) :
    ∃ m, (m = p.1 ∨ m = p.2) ∧ m.id = j := by
  cases side with
  | one => exact ⟨p.1, Or.inl rfl, Option.some.inj h⟩
  | two => exact ⟨p.2, Or.inr rfl, Option.some.inj h⟩

/-- **A further round**: an even number of unread matches is paired into matches that are unread
    themselves. -/
theorem Frontier.step (h : Frontier db tid k r prev) (tournament : TournamentRow)
    {round : RoundWithMatches} (hlt : r < round.id) (hk : db.roundItem round.id = some k) {n : Nat}
    (hlen : prev.length = 2 * n) :
    ∃ bodies, determineMatchesSubsequentRound prev round tournament = .ok bodies ∧
      bodies.length = n ∧ Created db tid k bodies (createMatches db bodies) ∧
      Frontier (createMatches db bodies).2 tid k round.id (createMatches db bodies).1 := by
  obtain ⟨ps, hps, hends, hn⟩ := adjacentPairs_eq_ok n prev hlen
  have hmem : ∀ p ∈ ps, ∀ m, m = p.1 ∨ m = p.2 → m ∈ prev := fun p hp m hm =>
    hends ▸ mem_endpoints.mpr ⟨p, hp, hm⟩
  have hids : (endpoints (ps.map fun p => (p.1.id, p.2.id))).Nodup := by
    rw [endpoints_map MatchRow.id, hends]
    exact h.distinct
  have hcreated : Created db tid k (ps.map (feedBody round tournament))
      (createMatches db (ps.map (feedBody round tournament))) := by
    refine createMatches_wired _ h.wired h.unplayed (fun b hb x => ?_) (fun b hb x side j _ => ?_) ?_
    · obtain ⟨p, hp, rfl⟩ := List.mem_map.mp hb
      refine ⟨hk, fun side i hi => ?_, fun side j hw => ?_, fun side j hw a ha s => ?_⟩
      · cases side <;> cases hi
      · rw [newMatch_winnerFrom] at hw
        obtain ⟨m, hm, rfl⟩ := feedBody_winnerFrom hw
        obtain ⟨hin, hr⟩ := h.last m (hmem p hp m hm)
        exact ⟨m, hin, rfl, hr ▸ hlt⟩
      · rw [newMatch_winnerFrom] at hw
        obtain ⟨m, hm, rfl⟩ := feedBody_winnerFrom hw
        exact h.unread (hmem p hp m hm) ha s
    · obtain ⟨p, -, rfl⟩ := List.mem_map.mp hb
      cases side <;> rfl
    · have hdisjoint := List.pairwise_map.mp (pairwise_of_endpoints hids)
      refine List.pairwise_map.mpr (hdisjoint.imp ?_)
      intro p q hpq s s' j hs hs'
      obtain ⟨m, hm, rfl⟩ := feedBody_winnerFrom hs
      obtain ⟨m', hm', e⟩ := feedBody_winnerFrom hs'
      exact hpq m.id (hm.imp (congrArg _) (congrArg _))
        (e ▸ hm'.imp (congrArg MatchRow.id) (congrArg MatchRow.id))
  refine ⟨ps.map (feedBody round tournament), ?_, ?_, hcreated, hcreated.frontier ?_ ?_⟩
  · rw [determineMatchesSubsequentRound, hps]
    rfl
  · rw [List.length_map, hn]
  · intro b hb
    obtain ⟨p, -, rfl⟩ := List.mem_map.mp hb
    rfl
  · exact fun m hm => (h.upTo m hm).trans (le_of_lt hlt)

theorem Created.rounds {bodies : List MatchCreateBody} {out : List MatchRow × Database}
    (h : Created db tid k bodies out) : out.2.rounds = db.rounds := by
  have e : ({ out.2 with matches_ := db.matches_ } : Database).rounds = db.rounds := by rw [h.frame]
  exact e

/-- **The rounds after the first.** -/
theorem Frontier.run {rounds : List RoundWithMatches} (h : Frontier db tid k r prev)
    (tournament : TournamentRow)
    (hsorted : rounds.Pairwise fun a b => a.id < b.id) (hlt : ∀ round ∈ rounds, r < round.id)
    (hk : ∀ round ∈ rounds, db.roundItem round.id = some k)
    (hlen : prev.length = 2 ^ rounds.length) :
    ∃ db', buildSubsequentRounds tournament rounds (prev, db) = .ok db' ∧ Wired db' tid k ∧
      Unplayed db' k ∧ { db' with matches_ := db.matches_ } = db := by
  induction rounds generalizing db r prev with
  | nil => exact ⟨db, rfl, h.wired, h.unplayed, rfl⟩
  | cons round rounds ih =>
    rw [List.pairwise_cons] at hsorted
    rw [List.length_cons, Nat.pow_succ'] at hlen
    obtain ⟨bodies, hbodies, hn, hcreated, hnext⟩ := h.step tournament
      (hlt round List.mem_cons_self) (hk round List.mem_cons_self) hlen
    obtain ⟨db', hdb, hW, hU, hframe⟩ := ih hnext hsorted.2 hsorted.1
      (fun r' hr' => by
        rw [Database.roundItem, hcreated.rounds]
        exact hk r' (List.mem_cons_of_mem _ hr'))
      (hcreated.length.trans hn)
    refine ⟨db', ?_, hW, hU, ?_⟩
    · rw [buildSubsequentRounds, hbodies]
      exact hdb
    · have e := congrArg (fun d : Database => { d with matches_ := db.matches_ }) hframe
      exact e.trans hcreated.frame

/-- The match of two neighbouring inputs. -/
def firstBody (round : RoundWithMatches) (tournament : TournamentRow)
    (p : StageItemInput × StageItemInput) : MatchCreateBody where
  roundId := round.id
  stageItemInput1Id := some p.1.id
  stageItemInput2Id := some p.2.id
  durationMinutes := tournament.durationMinutes
  marginMinutes := tournament.marginMinutes

/-- **The first round**: the inputs in slot order are paired. -/
theorem firstRound_frontier (tournament : TournamentRow) {round : RoundWithMatches}
    {item : StageItemWithRounds}
    (hempty : ∀ m, ¬ db.InItem k m) (hk : db.roundItem round.id = some k)
    (hknown : ∀ i ∈ item.inputs, KnownInput db tid k i.id) {n : Nat}
    (hlen : item.inputs.length = 2 * n) :
    ∃ bodies, determineMatchesFirstRound round item tournament = .ok bodies ∧
      bodies.length = n ∧ Created db tid k bodies (createMatches db bodies) ∧
      Frontier (createMatches db bodies).2 tid k round.id (createMatches db bodies).1 := by
  obtain ⟨ps, hps, hends, hn⟩ := adjacentPairs_eq_ok n item.inputs hlen
  have hsource : ∀ p side, (firstBody round tournament p).winnerFrom side = none := fun p side => by
    cases side <;> rfl
  have hcreated : Created db tid k (ps.map (firstBody round tournament))
      (createMatches db (ps.map (firstBody round tournament))) := by
    refine createMatches_wired _ ⟨?_, ?_, ?_⟩ ⟨?_, ?_⟩ (fun b hb x => ?_) (fun b hb x side j hw => ?_)
      ?_
    · exact fun m hm => absurd hm (hempty m)
    · exact fun m _ hm => absurd hm (hempty m)
    · exact fun m hm => absurd hm (hempty m)
    · exact fun m hm => absurd hm (hempty m)
    · exact fun m hm => absurd hm (hempty m)
    · obtain ⟨p, hp, rfl⟩ := List.mem_map.mp hb
      refine ⟨hk, fun side i hi => ?_, fun side j hw => ?_, fun side j hw => ?_⟩
      · have hin : ∀ q, q = p.1 ∨ q = p.2 → q ∈ item.inputs := fun q hq =>
          hends ▸ mem_endpoints.mpr ⟨p, hp, hq⟩
        cases side with
        | one => exact Option.some.inj hi ▸ hknown p.1 (hin p.1 (Or.inl rfl))
        | two => exact Option.some.inj hi ▸ hknown p.2 (hin p.2 (Or.inr rfl))
      · rw [newMatch_winnerFrom, hsource] at hw
        cases hw
      · rw [newMatch_winnerFrom, hsource] at hw
        cases hw
    · obtain ⟨p, -, rfl⟩ := List.mem_map.mp hb
      rw [newMatch_winnerFrom, hsource] at hw
      cases hw
    · refine List.pairwise_map.mpr (List.pairwise_of_forall fun p q s s' j hs => ?_)
      rw [hsource] at hs
      cases hs
  refine ⟨ps.map (firstBody round tournament), ?_, ?_, hcreated, hcreated.frontier ?_ ?_⟩
  · rw [determineMatchesFirstRound, hps]
    rfl
  · rw [List.length_map, hn]
  · intro b hb
    obtain ⟨p, -, rfl⟩ := List.mem_map.mp hb
    rfl
  · exact fun m hm => absurd hm (hempty m)

end Rounds

/-! ## 4. The whole tree -/

/-- A stage item as `create_rounds_for_new_stage_item` leaves it for an elimination of `2 ^ n`
    inputs: `n` rounds without matches. -/
structure Fresh (item : StageItemWithRounds) (n : Nat) : Prop where
  inputs : item.inputs.length = 2 ^ n
  rounds : item.rounds.length = n
  noMatches : ∀ r ∈ item.rounds, r.matches_ = []

/-- **The tree is built**, wired and unplayed; only matches are added. -/
theorem buildSingleElimination_ok {db : Database} {tid : TournamentId} {k : StageItemId}
    {item : StageItemWithRounds} {tournament : TournamentRow} {n : Nat}
    (hitem : getStageItem db tid k = .ok item) (ht : db.tournaments.find? tid = some tournament)
    (hfresh : Fresh item n) (hn : 1 ≤ n) :
    ∃ db', buildSingleEliminationStageItem db tid item = .ok db' ∧ Wired db' tid k ∧
      Unplayed db' k ∧ { db' with matches_ := db.matches_ } = db := by
  obtain ⟨row, hrow, -, rfl, -⟩ := getStageItem_eq_ok.mp hitem
  obtain rfl : row.id = k := db.stageItems.key_of_find? hrow
  have hround : ∀ r ∈ (loadStageItem db tid row).rounds, db.roundItem r.id = some row.id := by
    intro r hr
    obtain ⟨rrow, hrrow, hk, rfl⟩ := mem_loaded_rounds.mp hr
    exact (congrArg (Option.map _) (db.rounds.find?_key hrrow)).trans (congrArg some hk)
  have hempty : ∀ m, ¬ db.InItem row.id m := by
    intro m hm
    have hmem : matchWithInputs (itemInputs db row.id) m ∈ (loadStageItem db tid row).allMatches :=
      mem_loaded_matches.mpr ⟨m, hm, rfl⟩
    obtain ⟨r, hr, hmr⟩ := mem_allMatches.mp hmem
    rw [hfresh.noMatches r hr] at hmr
    exact absurd hmr List.not_mem_nil
  have hknown : ∀ i ∈ (loadStageItem db tid row).inputs, KnownInput db tid row.id i.id := by
    intro i hi
    obtain ⟨irow, hirow, hk, htid, rfl⟩ := mem_loaded_inputs.mp hi
    exact ⟨irow, db.stageItemInputs.find?_key hirow, hk, htid⟩
  have hsorted : (loadStageItem db tid row).rounds.Pairwise fun a b => a.id < b.id :=
    List.pairwise_map.mpr ((db.rounds.sorted_filter _).imp fun h => h)
  have hload : getStageItem db tid (loadStageItem db tid row).id = .ok (loadStageItem db tid row) :=
    hitem
  have htour : sqlGetTournament db tid = .ok tournament := orRaise_eq_ok.mpr ht
  cases hrounds : (loadStageItem db tid row).rounds with
  | nil =>
    have hlen := hfresh.rounds
    rw [hrounds, List.length_nil] at hlen
    omega
  | cons first rounds =>
    have hlen := hfresh.rounds
    rw [hrounds, List.length_cons] at hlen
    rw [hrounds, List.pairwise_cons] at hsorted
    rw [hrounds] at hround
    obtain ⟨bodies, hbodies, hnb, hcreated, hF⟩ := firstRound_frontier tournament
      hempty (hround first List.mem_cons_self) hknown
      (by rw [hfresh.inputs, ← hlen, Nat.pow_succ'])
    obtain ⟨db', hdb, hW, hU, hframe⟩ := hF.run tournament hsorted.2 hsorted.1
      (fun r hr => by
        rw [Database.roundItem, hcreated.rounds]
        exact hround r (List.mem_cons_of_mem _ hr))
      (hcreated.length.trans hnb)
    refine ⟨db', ?_, hW, hU, ?_⟩
    · rw [buildSingleEliminationStageItem, hload, ok_bind, htour, ok_bind, hrounds]
      dsimp only
      rw [hbodies]
      exact hdb
    · have e := congrArg (fun d : Database => { d with matches_ := db.matches_ }) hframe
      exact e.trans hcreated.frame

end Brackets
