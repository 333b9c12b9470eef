/-
  File:      Brackets/Progress/ActiveStage.lean
  Subject:   The active stage of a tournament as a cursor over its stages.

  * `StageEffect`: what an accepted call does to the stages of a tournament, activity included.
  * `OneActive`: in every state that calls lead to, a tournament has at most one active stage.
  * `Shows`: the stages are those of a cursor, and exactly its current one is active. A call that
    deletes no stage of the tournament is a step of the cursor (`Shows.call`).
  * `active_stage_moves`: so after any calls the active stage stands as many places further as the
    tournament has gone forward more often than back.
-/
import Brackets.Library.Cursor
import Brackets.Progress.Heads
import Mathlib.Data.List.Find

namespace Brackets

open Library

variable {db db' : Database} {tid : TournamentId}

/-! ## 1. What a call does to the stages -/

/-- The stages of a tournament in the order of their ids, and which are active. -/
def Database.stageFlags (db : Database) (tid : TournamentId) : List (StageId × Bool) :=
  (db.stages.rows.filter fun s => s.tournamentId == tid).map fun s => (s.id, s.isActive)

theorem mem_stageFlags {x : StageId × Bool} : x ∈ db.stageFlags tid ↔
    ∃ s ∈ db.stages.rows, s.tournamentId = tid ∧ s.id = x.1 ∧ s.isActive = x.2 := by
  unfold Database.stageFlags
  rw [List.mem_map]
  constructor
  · rintro ⟨s, hs, rfl⟩
    obtain ⟨hs, ht⟩ := List.mem_filter.mp hs
    exact ⟨s, hs, eq_of_beq ht, rfl, rfl⟩
  · rintro ⟨s, hs, rfl, hid, hactive⟩
    exact ⟨s, List.mem_filter.mpr ⟨hs, beq_self_eq_true _⟩, Prod.ext hid hactive⟩

theorem stageFlags_sorted (db : Database) (tid : TournamentId) :
    ((db.stageFlags tid).map Prod.fst).Pairwise (· < ·) := by
  unfold Database.stageFlags
  rw [List.map_map, List.pairwise_map]
  exact db.stages.sorted.filter _

theorem stageFlags_of_stages (h : db'.stages = db.stages) :
    db'.stageFlags tid = db.stageFlags tid := by
  unfold Database.stageFlags
  rw [h]

theorem SameFor.stageFlags (h : SameFor tid db db') : db'.stageFlags tid = db.stageFlags tid :=
  congrArg (List.map fun s : StageRow => (s.id, s.isActive)) h.stages

def Direction.move : Direction → Cursor.Move
  | .next => .forward
  | .previous => .back

/-- By how many places a call moves the active stage of a tournament. -/
def Call.shift (tid : TournamentId) : Call → Int
  | .request tid' (.activateNextStage direction) =>
    if tid' = tid then direction.move.shift else 0
  | _ => 0

/-- The calls that delete stages of a tournament. -/
def Call.dropsStages (tid : TournamentId) : Call → Bool
  | .request tid' (.deleteStage _) | .request tid' .deleteTournament => tid' == tid
  | _ => false

/-- The stages of a tournament after an accepted call. -/
inductive StageEffect (db : Database) (tid : TournamentId) : Call → Database → Prop
  | kept {call : Call} {db' : Database} (still : call.shift tid = 0)
      (h : db'.stageFlags tid = db.stageFlags tid) : StageEffect db tid call db'
  | created {db' : Database} (h : db'.stageFlags tid = db.stageFlags tid ++ [(db.stages.next, false)]) :
      StageEffect db tid (.request tid .createStage) db'
  | deleted {k : StageId} {db' : Database}
      (h : db'.stageFlags tid = (db.stageFlags tid).filter fun x => x.1 != k) :
      StageEffect db tid (.request tid (.deleteStage k)) db'
  | activated {direction : Direction} {k : StageId} {db' : Database}
      (next : getNextStageInTournament db tid (direction == .next) = some k)
      (h : db'.stageFlags tid = (db.stageFlags tid).map fun x => (x.1, x.1 == k)) :
      StageEffect db tid (.request tid (.activateNextStage direction)) db'
  | cleared {db' : Database} (h : db'.stageFlags tid = []) :
      StageEffect db tid (.request tid .deleteTournament) db'

theorem createStage_flags : (sqlCreateStage db tid).stageFlags tid =
    db.stageFlags tid ++ [(db.stages.next, false)] := by
  unfold Database.stageFlags sqlCreateStage
  dsimp only
  rw [Table.rows_insert, List.filter_append, List.map_append]
  simp

theorem updateStage_flags (k : StageId) (body : StageUpdateBody) :
    (sqlUpdateStage db tid k body).stageFlags tid = db.stageFlags tid := by
  unfold Database.stageFlags sqlUpdateStage
  dsimp only
  rw [Table.rows_update, List.filter_map, List.map_map]
  have hsame : ∀ s : StageRow, (if (s.id == k && s.tournamentId == tid) = true then
      { s with name := body.name, customDurationMinutes := body.customDurationMinutes } else s).id =
        s.id ∧ (if (s.id == k && s.tournamentId == tid) = true then
      { s with name := body.name, customDurationMinutes := body.customDurationMinutes } else
        s).tournamentId = s.tournamentId ∧ (if (s.id == k && s.tournamentId == tid) = true then
      { s with name := body.name, customDurationMinutes := body.customDurationMinutes } else
        s).isActive = s.isActive := by
    intro s
    split <;> exact ⟨rfl, rfl, rfl⟩
  simp only [Function.comp_def, hsame]

theorem deleteStage_flags (k : StageId) : { db with
    stages := db.stages.delete fun s => s.id == k && s.tournamentId == tid }.stageFlags tid =
      (db.stageFlags tid).filter fun x => x.1 != k := by
  show ((db.stages.rows.filter fun s => !(s.id == k && s.tournamentId == tid)).filter _).map _ = _
  unfold Database.stageFlags
  rw [List.filter_map, List.filter_filter, List.filter_filter]
  congr 1
  refine List.filter_congr fun s _ => ?_
  simp only [Function.comp_def]
  cases s.tournamentId == tid <;> cases h : s.id == k <;> simp [bne, h]

theorem activate_flags (k : StageId) : (sqlActivateNextStage db k tid).stageFlags tid =
    (db.stageFlags tid).map fun x => (x.1, x.1 == k) := by
  unfold Database.stageFlags sqlActivateNextStage
  dsimp only
  rw [Table.rows_update, List.filter_map, List.map_map, List.map_map]
  have hsame : ∀ s : StageRow, (if (s.tournamentId == tid) = true then
      { s with isActive := s.id == k } else s).tournamentId = s.tournamentId := by
    intro s
    split <;> rfl
  simp only [Function.comp_def, hsame]
  refine List.map_congr_left fun s hs => ?_
  rw [if_pos (List.mem_filter.mp hs).2]

/-- **Which calls change the stages of a tournament, and how.** -/
theorem Call.stageEffect (hdb : Isolated db) {env : Environment} {call : Call}
    (h : call.handle env db = .ok db') (tid : TournamentId) : StageEffect db tid call db' := by
  cases call with
  | createTournament body =>
    obtain ⟨-, -, rfl⟩ := createTournament_ok h
    exact .kept rfl rfl
  | request tid' r =>
    have hr : r.handle env db tid' = .ok db' := h
    by_cases hne : tid = tid'
    · subst hne
      cases r with
      | createStage =>
        obtain ⟨-, -, rfl⟩ := createStage_ok hr
        exact .created createStage_flags
      | updateStage k body =>
        exact .kept rfl ((stageFlags_of_stages (congrArg Prod.snd (updateStage_heads hr))).trans
          (updateStage_flags k body))
      | deleteStage k =>
        obtain ⟨-, rfl⟩ := deleteStage_eq hr
        exact .deleted (deleteStage_flags k)
      | activateNextStage direction =>
        obtain ⟨k, db1, hk, hheads, rfl⟩ := activateNextStage_heads hr
        refine .activated hk ((activate_flags k).trans ?_)
        rw [stageFlags_of_stages (congrArg Prod.snd hheads)]
      | deleteTournament =>
        refine .cleared (List.eq_nil_iff_forall_not_mem.mpr fun x hx => ?_)
        obtain ⟨s, hs, ht, -⟩ := mem_stageFlags.mp hx
        exact (deleteTournament_cleared hr).stages s hs ht
      | updateTournamentById body =>
        obtain ⟨-, -, hr⟩ := updateTournamentById_ok hr
        have hstages : db'.stages = db.stages := congrArg Prod.snd (scheduleAllMatches_heads hr)
        exact .kept rfl (stageFlags_of_stages hstages)
      | changeStatus status =>
        obtain ⟨-, rfl⟩ := changeStatus_ok hr
        exact .kept rfl rfl
      | uploadLogo filename =>
        obtain ⟨-, rfl⟩ := uploadLogo_ok hr
        exact .kept rfl rfl
      | _ => exact .kept rfl (stageFlags_of_stages (congrArg Prod.snd (Request.heads hdb hr trivial)))
    · have hshift : (Call.request tid' r).shift tid = 0 := by
        cases r <;> first | rfl | exact if_neg (Ne.symm hne)
      exact .kept hshift ((Confined.call hdb h).same tid hne).stageFlags

/-! ## 2. At most one -/

/-- Two active stages of a tournament are one. -/
def OneActive (db : Database) (tid : TournamentId) : Prop :=
  ∀ x ∈ db.stageFlags tid, ∀ y ∈ db.stageFlags tid, x.2 = true → y.2 = true → x = y

theorem OneActive.effect {call : Call} (h : OneActive db tid)
    (heffect : StageEffect db tid call db') : OneActive db' tid := by
  intro x hx y hy hxa hya
  cases heffect with
  | kept still hflags =>
    rw [hflags] at hx hy
    exact h x hx y hy hxa hya
  | created hflags =>
    have hold : ∀ z ∈ db'.stageFlags tid, z.2 = true → z ∈ db.stageFlags tid := by
      intro z hz hza
      rw [hflags, List.mem_append, List.mem_singleton] at hz
      exact hz.resolve_right fun e => by simp [e] at hza
    exact h x (hold x hx hxa) y (hold y hy hya) hxa hya
  | deleted hflags =>
    rw [hflags] at hx hy
    exact h x (List.mem_filter.mp hx).1 y (List.mem_filter.mp hy).1 hxa hya
  | activated next hflags =>
    rw [hflags] at hx hy
    obtain ⟨a, -, rfl⟩ := List.mem_map.mp hx
    obtain ⟨b, -, rfl⟩ := List.mem_map.mp hy
    simp only [beq_iff_eq] at hxa hya
    rw [hxa, hya]
  | cleared hflags =>
    rw [hflags] at hx
    exact absurd hx List.not_mem_nil

theorem Runs.oneActive {C : Environment → Database → Call → Prop} (h : Runs C .empty db)
    (tid : TournamentId) : OneActive db tid := by
  have hboth : Isolated db ∧ OneActive db tid :=
    h.invariant (P := fun d => Isolated d ∧ OneActive d tid)
      (fun _ _ _ _ hd _ hcall => ⟨(Confined.call hd.1 hcall).isolated,
        hd.2.effect (Call.stageEffect hd.1 hcall tid)⟩)
      ⟨isolated_empty, fun _ hx => absurd hx List.not_mem_nil⟩
  exact hboth.2

/-! ## 3. The cursor -/

/-- The stages are the items of the cursor, and the current one is active. -/
def Shows (db : Database) (tid : TournamentId) (c : Cursor StageId) : Prop :=
  db.stageFlags tid = c.items.map fun k => (k, k == c.current)

/-- **The next stage by the statement is the neighbour of the active one.** -/
theorem Shows.next {c : Cursor StageId} (h : Shows db tid c) (direction : Direction) :
    getNextStageInTournament db tid (direction == .next) =
      Cursor.neighbour c.items c.current direction.move := by
  let stages := db.stages.rows.filter fun s => s.tournamentId == tid
  have hflags : stages.map (fun s => (s.id, s.isActive)) = c.items.map fun k => (k, k == c.current) := h
  have hids : stages.map (·.id) = c.items := by
    have hfst := congrArg (List.map Prod.fst) hflags
    simpa [Function.comp_def] using hfst
  have hactive : ∀ s ∈ stages, s.isActive = (s.id == c.current) := by
    intro s hs
    have hmem := List.mem_map_of_mem (f := fun s : StageRow => (s.id, s.isActive)) hs
    rw [hflags] at hmem
    obtain ⟨k, -, hk⟩ := List.mem_map.mp hmem
    obtain ⟨rfl, hk⟩ := Prod.mk.inj hk
    exact hk.symm
  have hone : ∀ s ∈ stages.filter (·.isActive), s.id = c.current := by
    intro s hs
    obtain ⟨hs, hsa⟩ := List.mem_filter.mp hs
    exact eq_of_beq ((hactive s hs).symm.trans hsa)
  have hsome : stages.filter (·.isActive) ≠ [] := by
    obtain ⟨s, hs, hid⟩ := List.mem_map.mp (hids ▸ c.mem)
    refine List.ne_nil_of_mem (List.mem_filter.mpr ⟨hs, ?_⟩)
    rw [hactive s hs, hid, beq_self_eq_true]
  cases direction with
  | next =>
    have hbound : (((stages.filter (·.isActive)).head?).map (·.id)).getD (-1) = c.current := by
      rw [List.head?_eq_some_head hsome]
      exact hone _ (List.head_mem hsome)
    show ((stages.filter fun s => !s.isActive).find? fun s =>
      s.id > (((stages.filter (·.isActive)).head?).map (·.id)).getD (-1)).map (·.id) =
        c.items.find? fun x => c.current < x
    rw [hbound, ← hids, List.find?_map, List.find?_filter]
    refine congrArg _ (List.find?_congr fun s hs => ?_)
    rw [hactive s hs]
    by_cases hk : s.id = c.current <;> simp [hk]
  | previous =>
    have hbound : (((stages.filter (·.isActive)).getLast?).map (·.id)).getD 10000000000 =
        c.current := by
      rw [List.getLast?_eq_some_getLast hsome]
      exact hone _ (List.getLast_mem hsome)
    show (((stages.filter fun s => !s.isActive).filter fun s =>
      s.id < (((stages.filter (·.isActive)).getLast?).map (·.id)).getD 10000000000).getLast?).map
        (·.id) = (c.items.filter fun x => x < c.current).getLast?
    rw [hbound, ← hids, List.filter_map, List.getLast?_map, List.filter_filter]
    refine congrArg (fun l : List StageRow => l.getLast?.map (·.id)) (List.filter_congr fun s hs => ?_)
    rw [hactive s hs]
    by_cases hk : s.id = c.current <;> simp [hk]

theorem Shows.call {c : Cursor StageId} (h : Shows db tid c) {call : Call}
    (heffect : StageEffect db tid call db') (hkept : call.dropsStages tid = false) :
    ∃ d, Shows db' tid d ∧ Cursor.Step (call.shift tid) c d := by
  cases heffect with
  | kept still hflags =>
    refine ⟨c, hflags.trans h, ?_⟩
    rw [still]
    exact .append [] (by rw [List.append_nil]) rfl
  | created hflags =>
    have hids : (db'.stageFlags tid).map Prod.fst = c.items ++ [db.stages.next] := by
      rw [hflags, h, List.map_append, List.map_map]
      simp [Function.comp_def]
    have hsorted : (c.items ++ [db.stages.next]).Pairwise (· < ·) := hids ▸ stageFlags_sorted db' tid
    have hlt : c.current < db.stages.next :=
      (List.pairwise_append.mp hsorted).2.2 _ c.mem _ (List.mem_singleton_self _)
    refine ⟨⟨c.items ++ [db.stages.next], hsorted, c.current, List.mem_append_left _ c.mem⟩, ?_,
      .append [db.stages.next] rfl rfl⟩
    unfold Shows
    rw [hflags, h, List.map_append, List.map_singleton, beq_false_of_ne hlt.ne']
  | deleted hflags => simp [Call.dropsStages] at hkept
  | @activated direction k _ next hflags =>
    have hk : Cursor.neighbour c.items c.current direction.move = some k :=
      (h.next direction).symm.trans next
    refine ⟨⟨c.items, c.sorted, k, Cursor.neighbour_mem hk⟩, ?_, ?_⟩
    · unfold Shows
      rw [hflags, h, List.map_map]
      rfl
    · rw [show (Call.request tid (.activateNextStage direction)).shift tid = direction.move.shift from
        if_pos rfl]
      exact .move direction.move rfl hk
  | cleared hflags => simp [Call.dropsStages] at hkept

theorem Shows.calls {start : Database} (hstart : Isolated start) {c : Cursor StageId}
    (h : Shows start tid c) {calls : List (Environment × Call)}
    (hrun : calls.foldlM (fun db x => x.2.handle x.1 db) start = .ok db)
    (hkept : ∀ x ∈ calls, x.2.dropsStages tid = false) :
    ∃ d, Shows db tid d ∧ Cursor.Steps (calls.map fun x => x.2.shift tid) c d := by
  induction calls generalizing start c with
  | nil =>
    cases hrun
    exact ⟨c, h, .refl c⟩
  | cons x calls ih =>
    rw [List.foldlM_cons] at hrun
    obtain ⟨db1, h1, hrun⟩ := bind_eq_ok.mp hrun
    obtain ⟨d, hd, hstep⟩ := h.call (Call.stageEffect hstart h1 tid) (hkept x List.mem_cons_self)
    obtain ⟨e, he, hsteps⟩ := ih (Confined.call hstart h1).isolated hd hrun fun y hy =>
      hkept y (List.mem_cons_of_mem _ hy)
    exact ⟨e, he, .cons hstep hsteps⟩

/-! ## 4. Where the active stage stands -/

/-- How many stages of its tournament come before a stage. -/
def Database.stagePlace (db : Database) (s : StageRow) : Nat :=
  ((db.stageFlags s.tournamentId).map Prod.fst).idxOf s.id

/-- The cursor of the one active stage. -/
theorem OneActive.shows (h : OneActive db tid) {s : StageRow} (hs : s ∈ db.stages.rows)
    (ht : s.tournamentId = tid) (hactive : s.isActive = true) :
    ∃ c : Cursor StageId, Shows db tid c ∧ c.current = s.id := by
  have hmem : (s.id, true) ∈ db.stageFlags tid := mem_stageFlags.mpr ⟨s, hs, ht, rfl, hactive⟩
  refine ⟨⟨(db.stageFlags tid).map Prod.fst, stageFlags_sorted db tid, s.id,
    List.mem_map_of_mem (f := Prod.fst) hmem⟩, ?_, rfl⟩
  unfold Shows
  rw [List.map_map]
  have hflag : ∀ x ∈ db.stageFlags tid, (x.1, x.1 == s.id) = x := by
    rintro ⟨k, active⟩ hx
    cases active with
    | true =>
      cases h _ hx _ hmem rfl rfl
      simp
    | false =>
      have hne : k ≠ s.id := by
        rintro rfl
        obtain ⟨s', hs', -, hid, hinactive⟩ := mem_stageFlags.mp hx
        rw [db.stages.eq_of_key hs' hs hid, hactive] at hinactive
        cases hinactive
      simpa using hne
  exact ((List.map_congr_left hflag).trans (List.map_id _)).symm

/-- **The active stage moves one place for each activation**: from a state with an active stage,
    whatever calls are accepted that delete no stage of the tournament, exactly one stage of it is
    active, as many places further as it was sent forward more often than back. -/
theorem active_stage_moves {start : Database} (hstart : Runs (fun _ _ _ => True) .empty start)
    {s : StageRow} (hs : s ∈ start.stages.rows) (hactive : s.isActive = true)
    {calls : List (Environment × Call)}
    (hrun : calls.foldlM (fun db x => x.2.handle x.1 db) start = .ok db)
    (hkept : ∀ x ∈ calls, x.2.dropsStages s.tournamentId = false) :
    ∃ t ∈ db.stages.rows, t.tournamentId = s.tournamentId ∧
      (∀ t' ∈ db.stages.rows, t'.tournamentId = s.tournamentId → (t'.isActive = true ↔ t' = t)) ∧
      (db.stagePlace t : Int) =
        start.stagePlace s + (calls.map fun x => x.2.shift s.tournamentId).sum ∧
      ((calls.map fun x => x.2.shift s.tournamentId).sum = 0 → t.id = s.id) := by
  obtain ⟨c, hc, hcurrent⟩ := (hstart.oneActive s.tournamentId).shows hs rfl hactive
  obtain ⟨d, hd, hsteps⟩ := hc.calls (hstart.isolated isolated_empty) hrun hkept
  have hids : ∀ {db : Database} {c : Cursor StageId}, Shows db s.tournamentId c →
      (db.stageFlags s.tournamentId).map Prod.fst = c.items := by
    intro db c h
    rw [h, List.map_map]
    simp [Function.comp_def]
  have hmem : (d.current, true) ∈ db.stageFlags s.tournamentId := by
    rw [hd]
    exact List.mem_map.mpr ⟨d.current, d.mem, by rw [beq_self_eq_true]⟩
  obtain ⟨t, ht, htid, hid, -⟩ := mem_stageFlags.mp hmem
  refine ⟨t, ht, htid, fun t' ht' htid' => ?_, ?_, fun hsum => ?_⟩
  · have hflag : (t'.id, t'.isActive) ∈ db.stageFlags s.tournamentId :=
      mem_stageFlags.mpr ⟨t', ht', htid', rfl, rfl⟩
    rw [hd] at hflag
    obtain ⟨k, -, hk⟩ := List.mem_map.mp hflag
    obtain ⟨rfl, hk⟩ := Prod.mk.inj hk
    rw [← hk, beq_iff_eq]
    exact ⟨fun e => db.stages.eq_of_key ht' ht (e.trans hid.symm), fun e => e ▸ hid⟩
  · have hposition := hsteps.position
    unfold Cursor.position at hposition
    rw [Database.stagePlace, Database.stagePlace, htid, hids hd, hids hc, hid, ← hcurrent]
    exact hposition
  · rw [hid, hsteps.current_eq hsum, hcurrent]

/-! ### Forward and back -/

/-- Three stages, the first one active. -/
def threeStages : List Call :=
  [.createTournament ⟨⟨0, true, none, 17, 13, by decide, by decide⟩, 1⟩, .request 1 .createStage,
    .request 1 .createStage, .request 1 .createStage, .request 1 (.activateNextStage .next)]

/-- Forward twice and back once. -/
def forthAndBack : List (Environment × Call) :=
  [.next, .next, .previous].map fun d => (quietEnvironment, .request 1 (.activateNextStage d))

theorem forthAndBack_second : ∃ start db, runCalls quietEnvironment threeStages = .ok start ∧
    forthAndBack.foldlM (fun db x => x.2.handle x.1 db) start = .ok db ∧
    ∃ t ∈ db.stages.rows, t.isActive = true ∧ db.stagePlace t = 1 := by
  obtain ⟨start, hstart, hfirst, hrun⟩ := exists_ok_of_any (x := runCalls quietEnvironment threeStages)
    (P := fun start => (start.stages.rows.any fun s => s.isActive && start.stagePlace s == 0 &&
        s.tournamentId == 1) = true ∧
      (forthAndBack.foldlM (fun db (x : Environment × Call) => x.2.handle x.1 db)
        start).toOption.isSome = true)
    (by decide +kernel)
  obtain ⟨s, hs, hfacts⟩ := List.any_eq_true.mp hfirst
  simp only [Bool.and_eq_true, beq_iff_eq] at hfacts
  obtain ⟨⟨hactive, hplace⟩, htid⟩ := hfacts
  obtain ⟨db, hdb⟩ := exists_ok hrun
  have hkept : ∀ x ∈ forthAndBack, x.2.dropsStages s.tournamentId = false := by
    rw [htid]
    exact List.forall_mem_map.mpr fun d _ => rfl
  obtain ⟨t, ht, htid', hone, hmoved, -⟩ := active_stage_moves
    (runs_of_calls (fun _ _ => trivial) hstart) hs hactive hdb hkept
  refine ⟨start, db, hstart, hdb, t, ht, (hone t ht htid').mpr rfl, ?_⟩
  have hsum : (forthAndBack.map fun x => x.2.shift s.tournamentId).sum = 1 := by
    rw [htid]
    rfl
  omega

end Brackets
