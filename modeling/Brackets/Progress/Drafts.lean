/-
  File:      Brackets/Progress/Drafts.lean
  Subject:   Draft rounds while several requests run.

  Each request on rounds and their matches is split where it stops reading and starts to write
  (`RoundRequest.read`; `RoundRequest.alone` puts the parts together again). Only `create_round`
  looks for a draft, in what it has read, and `update_round_by_id` sets the flag unchecked.

  * `RoundRequest.commit_rounds`: what each request does to the rounds;
  * `oneDraft_of_admits`: in every run in which no draft is committed between the read and the
    commit of a `create_round`, and no update makes a second draft, a stage item has one draft;
  * `two_drafts`: two drafts created at the same time, and a published round turned back into one.
-/
import Brackets.Library.Server
import Brackets.Progress.SwissRounds
import Brackets.Routes.Matches

namespace Brackets

open Library

/-! ## 1. Requests that read and then write -/

/-- The part of a request that writes, on what is stored then. -/
abbrev Rest := Database → Outcome Database

def readCreateRound (maxWeightMatching : MatchingSolver) (shuffle : Shuffle) (db : Database)
    (tid : TournamentId) (body : RoundCreateBody) : Outcome Rest := do
  let (tournament, item) ← createRoundChecks db tid body
  let pairing ← getSwissPairing maxWeightMatching shuffle item
  if pairing.pairs.length < 1 then .error (noPairs pairing)
  else .ok fun db => draftRound db tid tournament body item pairing

def readUpdateRoundById (db : Database) (tid : TournamentId) (k : RoundId) (body : RoundUpdateBody) :
    Outcome Rest := do
  let _ ← roundDependency db tid k
  let _ ← disallowArchivedTournament db tid
  .ok fun db => .ok (sqlUpdateRound db tid k body.name body.isDraft)

def readDeleteRound (E : ExpectedScore) (db : Database) (tid : TournamentId) (k : RoundId) :
    Outcome Rest := do
  let _ ← disallowArchivedTournament db tid
  let round ← getRoundById db tid k
  .ok fun db => do
    let db := round.matches_.foldl (fun db m => sqlDeleteMatch db m.id) db
    let db := sqlDeleteRound db k
    let item ← getStageItem db tid round.stageItemId
    let db ← recalculateRankingForStageItem E db tid item
    scheduleAllMatches db tid

/-- The insert fails if the round is gone by then: the foreign key of `matches.round_id`. -/
def readCreateMatch (db : Database) (tid : TournamentId) (body : MatchCreateBodyFrontend) :
    Outcome Rest := do
  let _ ← disallowArchivedTournament db tid
  checkForeignKeysBelongToTournament db tid body.foreignKeys
  let round ← getRoundById db tid body.roundId
  let item ← getStageItem db tid round.stageItemId
  require (round.isDraft && item.type == .swiss)
    (badRequest "Can only create matches in draft rounds of Swiss stage items")
  require (body.stageItemInput1Id.isNone || body.stageItemInput1Id != body.stageItemInput2Id)
    (badRequest "A team can't play against itself")
  require (!(body.stageItemInput1Id.toList ++ body.stageItemInput2Id.toList).any
      (inputIdsInRound round).contains)
    (badRequest "One of these teams already has a match in this round")
  let tournament ← sqlGetTournament db tid
  .ok fun db => do
    require (db.rounds.find? body.roundId).isSome (.crash .integrityError)
    let (_, db) := sqlCreateMatch db
      { body with
        durationMinutes := tournament.durationMinutes
        marginMinutes := tournament.marginMinutes }
    scheduleAllMatches db tid

def readDeleteMatch (E : ExpectedScore) (db : Database) (tid : TournamentId) (k : MatchId) :
    Outcome Rest := do
  let _ ← disallowArchivedTournament db tid
  let m ← matchDependency db tid k
  let round ← getRoundById db tid m.roundId
  let item ← getStageItem db tid round.stageItemId
  require (round.isDraft && item.type == .swiss)
    (badRequest "Can only delete matches from draft rounds in Swiss stage items")
  .ok fun db => do
    let db := sqlDeleteMatch db m.id
    let item ← getStageItem db tid round.stageItemId
    let db ← recalculateRankingForStageItem E db tid item
    scheduleAllMatches db tid

/-- A request on rounds or their matches, for a tournament. -/
inductive RoundRequest where
  | createRound (maxWeightMatching : MatchingSolver) (shuffle : Shuffle) (tid : TournamentId)
      (body : RoundCreateBody)
  | updateRoundById (tid : TournamentId) (k : RoundId) (body : RoundUpdateBody)
  | deleteRound (tid : TournamentId) (k : RoundId)
  | createMatch (tid : TournamentId) (body : MatchCreateBodyFrontend)
  | deleteMatch (tid : TournamentId) (k : MatchId)

namespace RoundRequest

variable (E : ExpectedScore)

/-- The request, when nothing else runs. -/
def handle (db : Database) : RoundRequest → Outcome Database
  | .createRound maxWeightMatching shuffle tid body =>
      Brackets.createRound maxWeightMatching shuffle db tid body
  | .updateRoundById tid k body => Brackets.updateRoundById db tid k body
  | .deleteRound tid k => Brackets.deleteRound E db tid k
  | .createMatch tid body => Brackets.createMatch db tid body
  | .deleteMatch tid k => Brackets.deleteMatch E db tid k

/-- The part that reads. -/
def read (db : Database) : RoundRequest → Outcome Rest
  | .createRound maxWeightMatching shuffle tid body =>
      readCreateRound maxWeightMatching shuffle db tid body
  | .updateRoundById tid k body => readUpdateRoundById db tid k body
  | .deleteRound tid k => readDeleteRound E db tid k
  | .createMatch tid body => readCreateMatch db tid body
  | .deleteMatch tid k => readDeleteMatch E db tid k

/-- **A request that is alone reads and writes one state.** -/
theorem alone (r : RoundRequest) (db : Database) :
    r.handle E db = r.read E db >>= fun rest => rest db := by
  cases r with
  | createRound maxWeightMatching shuffle tid body =>
    simp only [handle, read, Brackets.createRound, readCreateRound, bind_assoc]
    refine bind_congr fun checked => bind_congr fun pairing => ?_
    split
    · rfl
    · rfl
  | updateRoundById tid k body => simp only [handle, read, Brackets.updateRoundById,
      readUpdateRoundById, bind_assoc, ok_bind]
  | deleteRound tid k => simp only [handle, read, Brackets.deleteRound, readDeleteRound, bind_assoc,
      ok_bind]
  | createMatch tid body =>
    simp only [handle, read, Brackets.createMatch, readCreateMatch, bind_assoc, ok_bind]
    refine bind_congr fun _ => bind_congr fun _ => bind_congr_ok fun round hround => ?_
    obtain ⟨row, inputs, hrow, -, -⟩ := getRoundById_ok hround
    rw [hrow]
    rfl
  | deleteMatch tid k => simp only [handle, read, Brackets.deleteMatch, readDeleteMatch, bind_assoc,
      ok_bind]

/-- What the commit makes of the stored state, after a read of `seen`. -/
def commit (r : RoundRequest) (seen db : Database) : Option Database :=
  (r.read E seen >>= fun rest => rest db).toOption

/-! ## 2. What a commit does to the rounds -/

/-- The rounds after the commit; the draft of a `create_round` is the first in what it has read. -/
def ChangesRounds (seen db db' : Database) : RoundRequest → Prop
  | .createRound _ _ _ body =>
      (∀ round ∈ seen.rounds.rows, round.stageItemId = body.stageItemId → round.isDraft = false) ∧
        ∃ name, db'.rounds =
          db.rounds.insert (fun id => ⟨id, name, true, body.stageItemId⟩) fun _ => rfl
  | .updateRoundById tid k body =>
      db'.rounds = (sqlUpdateRound db tid k body.name body.isDraft).rounds
  | .deleteRound _ k => db'.rounds = db.rounds.delete fun r => r.id == k
  | .createMatch _ _ => db'.rounds = db.rounds
  | .deleteMatch _ _ => db'.rounds = db.rounds

end RoundRequest

theorem scheduleAllMatches_rounds {db db' : Database} {tid : TournamentId}
    (h : scheduleAllMatches db tid = .ok db') : db'.rounds = db.rounds := by
  have hrounds : db'.untimed.rounds = db.untimed.rounds := by rw [scheduleAllMatches_untimed h]
  exact hrounds

theorem recalculateRanking_rounds {E : ExpectedScore} {db db' : Database} {tid : TournamentId}
    {item : StageItemWithRounds} (h : recalculateRankingForStageItem E db tid item = .ok db') :
    db'.rounds = db.rounds := by
  have hrounds : db'.unscored.rounds = db.unscored.rounds := by rw [recalculateRanking_unscored h]
  exact hrounds

theorem createMatches_rounds {α : Type} (f : α → MatchCreateBody) (l : List α) (db : Database) :
    (l.foldl (fun db a => (sqlCreateMatch db (f a)).2) db).rounds = db.rounds :=
  foldl_project Database.rounds (fun db a => (sqlCreateMatch db (f a)).2) (fun _ _ => rfl) l db

/-- A stage item without a draft has published rounds only. -/
theorem getDraftRound_none {db : Database} {tid : TournamentId} {row : StageItemRow}
    (h : getDraftRound (loadStageItem db tid row) = none) {round : RoundRow}
    (hround : round ∈ db.rounds.rows) (hk : round.stageItemId = row.id) : round.isDraft = false := by
  have hloaded : roundWithMatches db (itemInputs db row.id) round ∈ (loadStageItem db tid row).rounds :=
    mem_loaded_rounds.mpr ⟨round, hround, hk, rfl⟩
  have hdraft := List.find?_eq_none.mp h _ ((List.mem_insertionSort _).mpr hloaded)
  simpa [roundWithMatches] using hdraft

section Commit

variable {E : ExpectedScore} {seen db db' : Database}

theorem createRound_rounds {maxWeightMatching : MatchingSolver} {shuffle : Shuffle}
    {tid : TournamentId} {body : RoundCreateBody} {rest : Rest}
    (hread : readCreateRound maxWeightMatching shuffle seen tid body = .ok rest)
    (h : rest db = .ok db') :
    (RoundRequest.createRound maxWeightMatching shuffle tid body).ChangesRounds seen db db' := by
  obtain ⟨⟨tournament, item⟩, hchecks, hread⟩ := bind_eq_ok.mp hread
  obtain ⟨pairing, -, hread⟩ := bind_eq_ok.mp hread
  split at hread
  · cases hread
  cases hread
  -- the checks: the stage item that was read has no draft
  have hchecks := createRoundChecks_ok hchecks
  obtain ⟨row, hrow, -, rfl, -⟩ := getStageItem_eq_ok.mp hchecks.found
  have hid : row.id = body.stageItemId := seen.stageItems.key_of_find? hrow
  refine ⟨fun round hround hk =>
    getDraftRound_none hchecks.noDraft hround (hk.trans hid.symm), ?_⟩
  refine ⟨(body.name.filter (· ≠ "")).getD (getNextRoundName db tid row.id), ?_⟩
  unfold draftRound at h
  dsimp only at h
  rw [scheduleAllMatches_rounds h, createMatches_rounds, ← hid]
  rfl

theorem deleteRound_rounds {tid : TournamentId} {k : RoundId} {rest : Rest}
    (hread : readDeleteRound E seen tid k = .ok rest) (h : rest db = .ok db') :
    db'.rounds = db.rounds.delete fun r => r.id == k := by
  obtain ⟨_, -, hread⟩ := bind_eq_ok.mp hread
  obtain ⟨round, -, hread⟩ := bind_eq_ok.mp hread
  cases hread
  obtain ⟨item, -, h⟩ := bind_eq_ok.mp h
  obtain ⟨recalculated, hrecalc, h⟩ := bind_eq_ok.mp h
  rw [scheduleAllMatches_rounds h, recalculateRanking_rounds hrecalc]
  have hmatches := foldl_project Database.rounds (fun d (m : Match) => sqlDeleteMatch d m.id)
    (fun _ _ => rfl) round.matches_ db
  rw [← hmatches]
  rfl

theorem createMatch_rounds {tid : TournamentId} {body : MatchCreateBodyFrontend} {rest : Rest}
    (hread : readCreateMatch seen tid body = .ok rest) (h : rest db = .ok db') :
    db'.rounds = db.rounds := by
  obtain ⟨_, -, hread⟩ := bind_eq_ok.mp hread
  obtain ⟨_, -, hread⟩ := bind_eq_ok.mp hread
  obtain ⟨_, -, hread⟩ := bind_eq_ok.mp hread
  obtain ⟨_, -, hread⟩ := bind_eq_ok.mp hread
  obtain ⟨_, -, hread⟩ := bind_eq_ok.mp hread
  obtain ⟨_, -, hread⟩ := bind_eq_ok.mp hread
  obtain ⟨_, -, hread⟩ := bind_eq_ok.mp hread
  obtain ⟨_, -, hread⟩ := bind_eq_ok.mp hread
  cases hread
  obtain ⟨_, -, h⟩ := bind_eq_ok.mp h
  have hrounds := scheduleAllMatches_rounds h
  exact hrounds

theorem deleteMatch_rounds {tid : TournamentId} {k : MatchId} {rest : Rest}
    (hread : readDeleteMatch E seen tid k = .ok rest) (h : rest db = .ok db') :
    db'.rounds = db.rounds := by
  obtain ⟨_, -, hread⟩ := bind_eq_ok.mp hread
  obtain ⟨_, -, hread⟩ := bind_eq_ok.mp hread
  obtain ⟨_, -, hread⟩ := bind_eq_ok.mp hread
  obtain ⟨_, -, hread⟩ := bind_eq_ok.mp hread
  obtain ⟨_, -, hread⟩ := bind_eq_ok.mp hread
  cases hread
  obtain ⟨_, -, h⟩ := bind_eq_ok.mp h
  obtain ⟨recalculated, hrecalc, h⟩ := bind_eq_ok.mp h
  have hrounds := recalculateRanking_rounds hrecalc
  exact (scheduleAllMatches_rounds h).trans hrounds

theorem toOption_eq_some {α : Type} {x : Outcome α} {a : α} : x.toOption = some a ↔ x = .ok a := by
  cases x with
  | error e => exact ⟨(nomatch ·), (nomatch ·)⟩
  | ok b => exact ⟨fun h => congrArg Except.ok (Option.some.inj h),
      fun h => congrArg some (Except.ok.inj h)⟩

/-- **What the commit of a request does to the rounds.** -/
theorem RoundRequest.commit_rounds {r : RoundRequest} (h : r.commit E seen db = some db') :
    r.ChangesRounds seen db db' := by
  obtain ⟨rest, hread, hrest⟩ := bind_eq_ok.mp (toOption_eq_some.mp h)
  cases r with
  | createRound maxWeightMatching shuffle tid body => exact createRound_rounds hread hrest
  | updateRoundById tid k body =>
    obtain ⟨_, -, hread⟩ := bind_eq_ok.mp hread
    obtain ⟨_, -, hread⟩ := bind_eq_ok.mp hread
    cases hread
    cases hrest
    rfl
  | deleteRound tid k => exact deleteRound_rounds hread hrest
  | createMatch tid body => exact createMatch_rounds hread hrest
  | deleteMatch tid k => exact deleteMatch_rounds hread hrest

end Commit

/-! ## 3. One draft at a time -/

/-- No stage item has two draft rounds. -/
def OneDraft (db : Database) : Prop :=
  ∀ r ∈ db.rounds.rows, ∀ r' ∈ db.rounds.rows, r.isDraft → r'.isDraft →
    r.stageItemId = r'.stageItemId → r = r'

/-- A stage item that `create_round` has seen without a draft is still without one at the commit;
    an update makes a round a draft only if its stage item has no other. -/
def Admits (r : RoundRequest) (seen db : Database) : Prop :=
  match r with
  | .createRound _ _ _ body => ∀ round ∈ db.rounds.rows, round.stageItemId = body.stageItemId →
      round.isDraft → ∃ draft ∈ seen.rounds.rows, draft.stageItemId = body.stageItemId ∧ draft.isDraft
  | .updateRoundById _ k body => body.isDraft → ∀ round, db.rounds.find? k = some round →
      ∀ draft ∈ db.rounds.rows, draft.isDraft → draft.stageItemId = round.stageItemId → draft.id = k
  | _ => True

theorem OneDraft.of_rounds {db db' : Database} (h : OneDraft db) (hrounds : db'.rounds = db.rounds) :
    OneDraft db' := by
  unfold OneDraft
  rw [hrounds]
  exact h

/-- A round after an update is the round before, renamed and with the flag of the body if it is the
    one. -/
theorem mem_updatedRounds {db : Database} {tid : TournamentId} {k : RoundId} {name : String}
    {isDraft : Bool} {r : RoundRow} (h : r ∈ (sqlUpdateRound db tid k name isDraft).rounds.rows) :
    ∃ x ∈ db.rounds.rows, r.id = x.id ∧ r.stageItemId = x.stageItemId ∧
      (x.id = k ∧ r.isDraft = isDraft ∨ r.isDraft = x.isDraft) := by
  obtain ⟨x, hx, rfl⟩ := List.mem_map.mp h
  refine ⟨x, hx, ?_⟩
  split
  · next htest =>
    exact ⟨rfl, rfl, Or.inl ⟨by simpa using (Bool.and_eq_true_iff.mp htest).2, rfl⟩⟩
  · exact ⟨rfl, rfl, Or.inr rfl⟩

/-- **One step**: the commit of an admitted request keeps the drafts apart. -/
theorem OneDraft.commit {E : ExpectedScore} {r : RoundRequest} {seen db db' : Database}
    (h : OneDraft db) (hadmits : Admits r seen db) (hcommit : r.commit E seen db = some db') :
    OneDraft db' := by
  have hrounds := RoundRequest.commit_rounds hcommit
  cases r with
  | createRound maxWeightMatching shuffle tid body =>
    obtain ⟨hnone, name, hrounds⟩ := hrounds
    have hno : ∀ round ∈ db.rounds.rows, round.isDraft →
        round.stageItemId ≠ body.stageItemId := by
      intro round hround hdraft hk
      obtain ⟨draft, hdraft', hk', hd⟩ := hadmits round hround hk hdraft
      rw [hnone draft hdraft' hk'] at hd
      cases hd
    intro a ha b hb hda hdb hk
    rw [hrounds, Table.mem_insert] at ha hb
    rcases ha with ha | rfl
    · rcases hb with hb | rfl
      · exact h a ha b hb hda hdb hk
      · exact absurd hk (hno a ha hda)
    · rcases hb with hb | rfl
      · exact absurd hk.symm (hno b hb hdb)
      · rfl
  | updateRoundById tid k body =>
    intro a ha b hb hda hdb hk
    rw [hrounds] at ha hb
    refine Table.eq_of_key _ ha hb ?_
    obtain ⟨x, hx, hax, hkx, hcx⟩ := mem_updatedRounds ha
    obtain ⟨y, hy, hby, hky, hcy⟩ := mem_updatedRounds hb
    rw [key_round, key_round, hax, hby]
    rw [hkx, hky] at hk
    rcases hcx with ⟨hxk, hda'⟩ | hsame
    · rcases hcy with ⟨hyk, -⟩ | hsame'
      · exact hxk.trans hyk.symm
      · have hfind : db.rounds.find? k = some x := hxk ▸ db.rounds.find?_key hx
        exact hxk.trans (hadmits (hda' ▸ hda) x hfind y hy (hsame' ▸ hdb) hk.symm).symm
    · rcases hcy with ⟨hyk, hdb'⟩ | hsame'
      · have hfind : db.rounds.find? k = some y := hyk ▸ db.rounds.find?_key hy
        exact (hadmits (hdb' ▸ hdb) y hfind x hx (hsame ▸ hda) hk).trans hyk.symm
      · rw [h x hx y hy (hsame ▸ hda) (hsame' ▸ hdb) hk]
  | deleteRound tid k =>
    intro a ha b hb hda hdb hk
    rw [hrounds, Table.mem_delete] at ha hb
    exact h a ha.1 b hb.1 hda hdb hk
  | createMatch tid body => exact h.of_rounds hrounds
  | deleteMatch tid k => exact h.of_rounds hrounds

/-- **Drafts while requests interleave.** In every run of requests in which every commit is admitted,
    no stage item ever has two draft rounds. -/
theorem oneDraft_of_admits {E : ExpectedScore} {db : Database} (hdb : OneDraft db)
    {s : Server Database RoundRequest}
    (hrun : Relation.ReflTransGen (Server.Step (RoundRequest.commit E) Admits) ⟨db, []⟩ s) :
    OneDraft s.stored :=
  Server.invariant (P := OneDraft) (fun _ _ _ _ _ h hadmits hcommit => h.commit hadmits hcommit)
    hdb hrun

/-! ### The next round of a club -/

/-- Pairs the next round of the club. -/
def nextRound : RoundRequest :=
  .createRound WeightedGraph.searchMatching keepOrder 1 ⟨none, 1⟩

/-- Turns the published round of the club back into a draft. -/
def reopenRound : RoundRequest := .updateRoundById 1 1 ⟨"Round 01", true⟩

/-- Publishes the draft. -/
def publishRound : RoundRequest := .updateRoundById 1 2 ⟨"Round 02", false⟩

def draftsOf (db : Database) : List (RoundId × StageItemId) :=
  (db.rounds.rows.filter (·.isDraft)).map fun r => (r.id, r.stageItemId)

theorem not_oneDraft {db : Database} {a b : RoundId} {k : StageItemId}
    (h : draftsOf db = [(a, k), (b, k)]) (hne : a ≠ b) : ¬ OneDraft db := by
  intro hone
  have hmem : ∀ p ∈ draftsOf db, ∃ r ∈ db.rounds.rows, r.isDraft ∧ r.id = p.1 ∧
      r.stageItemId = p.2 := by
    intro p hp
    obtain ⟨r, hr, rfl⟩ := List.mem_map.mp hp
    exact ⟨r, (List.mem_filter.mp hr).1, (List.mem_filter.mp hr).2, rfl, rfl⟩
  rw [h] at hmem
  obtain ⟨r, hr, hd, hid, hk⟩ := hmem (a, k) List.mem_cons_self
  obtain ⟨r', hr', hd', hid', hk'⟩ := hmem (b, k) (List.mem_cons_of_mem _ List.mem_cons_self)
  have hsame := hone r hr r' hr' hd hd' (hk.trans hk'.symm)
  exact hne (hid.symm.trans ((congrArg RoundRow.id hsame).trans hid'))

theorem createdTwice_drafts : (((nextRound.commit (fun _ => none) club club).bind fun db =>
    nextRound.commit (fun _ => none) club db).map draftsOf) = some [(2, 1), (3, 1)] := by
  decide +kernel

theorem reopened_drafts : (((nextRound.commit (fun _ => none) club club).bind fun db =>
    reopenRound.commit (fun _ => none) db db).map draftsOf) = some [(1, 1), (2, 1)] := by
  decide +kernel

/-- **Two drafts of one stage item**: two requests that create the next round and read before one
    of them commits; and, one request after the other, a published round that is turned back into
    a draft while there is one. -/
theorem two_drafts : OneDraft club ∧
    (∃ db, Relation.ReflTransGen
      (Server.Step (RoundRequest.commit fun _ => none) fun _ _ _ => True)
      ⟨club, []⟩ ⟨db, []⟩ ∧ ¬ OneDraft db) ∧
    ∃ db, Relation.ReflTransGen
      (Server.Step (RoundRequest.commit fun _ => none) fun _ seen s => seen = s)
      ⟨club, []⟩ ⟨db, []⟩ ∧ ¬ OneDraft db := by
  refine ⟨by unfold OneDraft; decide, ?_, ?_⟩
  · obtain ⟨db, h, hdrafts⟩ := Option.map_eq_some_iff.mp createdTwice_drafts
    obtain ⟨db1, h1, h2⟩ := Option.bind_eq_some_iff.mp h
    refine ⟨db, ?_, not_oneDraft hdrafts (by decide)⟩
    refine .head (.read nextRound club []) (.head (.read nextRound club _) ?_)
    refine .head (.commit [] [(nextRound, club)] h1 trivial) ?_
    exact .single (.commit [] [] h2 trivial)
  · obtain ⟨db, h, hdrafts⟩ := Option.map_eq_some_iff.mp reopened_drafts
    obtain ⟨db1, h1, h2⟩ := Option.bind_eq_some_iff.mp h
    exact ⟨db, (Server.alone h1 rfl).trans (Server.alone h2 rfl),
      not_oneDraft hdrafts (by decide)⟩

theorem published_isSome : ((nextRound.commit (fun _ => none) club club).bind fun db =>
    publishRound.commit (fun _ => none) db db).isSome = true := by
  decide +kernel

theorem club_oneDraft : ∃ db, Relation.ReflTransGen
    (Server.Step (RoundRequest.commit fun _ => none) Admits) ⟨club, []⟩ ⟨db, []⟩ ∧ OneDraft db := by
  obtain ⟨db, h⟩ := Option.isSome_iff_exists.mp published_isSome
  obtain ⟨db1, h1, h2⟩ := Option.bind_eq_some_iff.mp h
  have hfirst : Admits nextRound club club := fun round hround _ hdraft => by
    have hno : ∀ r ∈ club.rounds.rows, r.isDraft = false := by decide
    rw [hno round hround] at hdraft
    cases hdraft
  have hsecond : Admits publishRound db1 db1 := nofun
  have hrun := (Server.alone h1 hfirst).trans (Server.alone h2 hsecond)
  exact ⟨db, hrun, @oneDraft_of_admits (fun _ => none) club (by unfold OneDraft; decide) ⟨db, []⟩ hrun⟩

end Brackets
