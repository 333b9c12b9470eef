/-
  File:      Brackets/Routes/BulkNames.lean
  Subject:   Teams and players typed as one text: `models/db/team.py` and `models/db/player.py`.

  * `parsePlayerNames` reads line by line, whatever the lines are;
  * `parseTeamsWithPlayers` hands the lines to a `csv.reader`, which keeps an open quote from one
    line to the next: `parseTeamsWithPlayers_lines` says for which texts it reads line by line.
-/
import Brackets.Library.Csv
import Brackets.Library.Text

namespace Brackets

open Library

/-! ## 1. The parsers -/

/-- `name.strip()` is no empty string. -/
def isNamed (cell : List Char) : Bool := !(Text.strip cell).isEmpty

def stripped (cell : List Char) : String := String.ofList (Text.strip cell)

def parsePlayerNames (names : String) : List String :=
  ((Text.splitlines names.toList).filter isNamed).map stripped

def teamOfRow : List (List Char) → Option (String × List String)
  | [] => none
  | name :: players =>
    if (name :: players).any isNamed then
      some (stripped name, (players.filter isNamed).map stripped)
    else none

/-- The teams on the lines of a text. -/
def teamsOnLines (lines : List (List Char)) : List (String × List String) :=
  (Csv.rows ',' '"' lines).filterMap teamOfRow

/-- "Every line is a team's name, optionally followed by its players, separated by commas." -/
def parseTeamsWithPlayers (names : String) : List (String × List String) :=
  teamsOnLines (Text.splitlines names.toList)

/-! ## 2. What the bodies accept -/

def participantNameMaxLength : Nat := 30

def checkParticipantNames (names : List String) : Except String Unit :=
  match names.find? fun name => participantNameMaxLength < name.length with
  | some name => .error ("\"" ++ name ++ "\" is longer than the " ++
      toString participantNameMaxLength ++ " characters a name can have")
  | none => .ok ()

/-- `TeamMultiBody.validate_names` -/
def validateTeamNames (value : String) : Except String Unit :=
  let teams := parseTeamsWithPlayers value
  if teams.isEmpty then .error "Enter at least one team"
  else if teams.any fun team => team.1.isEmpty then
    .error "Every line needs a team name before its players"
  else checkParticipantNames (teams.flatMap fun team => team.1 :: team.2)

/-- `PlayerMultiBody.validate_names` -/
def validatePlayerNames (value : String) : Except String Unit :=
  let names := parsePlayerNames value
  if names.isEmpty then .error "Enter at least one player" else checkParticipantNames names

structure TeamMultiBody where
  names : String
  active : Bool
  names_valid : validateTeamNames names = .ok ()

def TeamMultiBody.teamsWithPlayers (body : TeamMultiBody) : List (String × List String) :=
  parseTeamsWithPlayers body.names

structure PlayerMultiBody where
  names : String
  active : Bool
  names_valid : validatePlayerNames names = .ok ()

def PlayerMultiBody.playerNames (body : PlayerMultiBody) : List String :=
  parsePlayerNames body.names

theorem checkParticipantNames_ok {names : List String}
    (h : checkParticipantNames names = .ok ()) :
    ∀ name ∈ names, name.length ≤ participantNameMaxLength := by
  unfold checkParticipantNames at h
  cases hfind : names.find? fun name => decide (participantNameMaxLength < name.length) with
  | some name =>
    rw [hfind] at h
    cases h
  | none =>
    intro name hname
    have hlen := List.find?_eq_none.1 hfind name hname
    rw [decide_eq_true_eq] at hlen
    exact Nat.not_lt.1 hlen

theorem stripped_ne_empty {cell : List Char} (h : isNamed cell = true) : stripped cell ≠ "" := by
  intro hempty
  have hnil : Text.strip cell = [] := by
    have hlist := congrArg String.toList hempty
    rw [stripped, String.toList_ofList] at hlist
    exact hlist
  rw [isNamed, hnil] at h
  cases h

theorem teamOfRow_eq_some {name : List Char} {players : List (List Char)}
    {team : String × List String} (h : teamOfRow (name :: players) = some team) :
    team = (stripped name, (players.filter isNamed).map stripped) := by
  by_cases hany : (name :: players).any isNamed = true
  · rw [teamOfRow, if_pos hany] at h
    exact (Option.some.inj h).symm
  · rw [teamOfRow, if_neg hany] at h
    cases h

/-- The names that come out of a text are no empty strings, save for a team's. -/
theorem players_ne_empty {row : List (List Char)} {team : String × List String}
    (h : teamOfRow row = some team) : ∀ name ∈ team.2, name ≠ "" := by
  cases row with
  | nil => cases h
  | cons name players =>
    rw [teamOfRow_eq_some h]
    intro player hplayer
    obtain ⟨cell, hcell, rfl⟩ := List.mem_map.1 hplayer
    exact stripped_ne_empty (List.mem_filter.1 hcell).2

/-- **An accepted text gives teams, each with names that the forms accept as well.** -/
theorem TeamMultiBody.teams_named (body : TeamMultiBody) : body.teamsWithPlayers ≠ [] ∧
    ∀ team ∈ body.teamsWithPlayers, ∀ name ∈ team.1 :: team.2,
      name ≠ "" ∧ name.length ≤ participantNameMaxLength := by
  have hvalid := body.names_valid
  unfold validateTeamNames at hvalid
  dsimp only at hvalid
  split at hvalid
  · cases hvalid
  next hsome =>
    split at hvalid
    · cases hvalid
    next hnamed =>
      refine ⟨fun hnil => hsome (List.isEmpty_iff.2 hnil), fun team hteam name hname => ⟨?_, ?_⟩⟩
      · rcases List.mem_cons.1 hname with rfl | hplayer
        · intro hempty
          exact hnamed (List.any_eq_true.2 ⟨team, hteam, by rw [hempty]; rfl⟩)
        · obtain ⟨row, -, hrow⟩ := List.mem_filterMap.1 hteam
          exact players_ne_empty hrow name hplayer
      · exact checkParticipantNames_ok hvalid name (List.mem_flatMap.2 ⟨team, hteam, hname⟩)

/-- **So does an accepted text of players.** -/
theorem PlayerMultiBody.players_named (body : PlayerMultiBody) : body.playerNames ≠ [] ∧
    ∀ name ∈ body.playerNames, name ≠ "" ∧ name.length ≤ participantNameMaxLength := by
  have hvalid := body.names_valid
  unfold validatePlayerNames at hvalid
  dsimp only at hvalid
  split at hvalid
  · cases hvalid
  next hsome =>
    refine ⟨fun hnil => hsome (List.isEmpty_iff.2 hnil), fun name hname => ⟨?_, ?_⟩⟩
    · obtain ⟨cell, hcell, rfl⟩ := List.mem_map.1 hname
      exact stripped_ne_empty (List.mem_filter.1 hcell).2
    · exact checkParticipantNames_ok hvalid name hname

/-! ## 3. Players line by line -/

theorem toList_lines (before after : String) :
    (before ++ "\n" ++ after).toList = before.toList ++ '\n' :: after.toList := by
  rw [String.toList_append, String.toList_append, List.append_assoc]
  rfl

/-- **Players are read line by line.** -/
theorem parsePlayerNames_append (before after : String) :
    parsePlayerNames (before ++ "\n" ++ after) =
      parsePlayerNames before ++ parsePlayerNames after := by
  obtain ⟨blank, hblank, hlines⟩ := Text.splitlines_append before.toList after.toList
  have hnone : blank.filter isNamed = [] := by
    rcases hblank with rfl | rfl
    · rfl
    · rfl
  unfold parsePlayerNames
  rw [toList_lines, hlines, List.filter_append, List.filter_append, hnone, List.append_nil,
    List.map_append]

/-! ## 4. Teams line by line -/

/-- A text leaves a quote open. -/
def QuoteOpen (names : String) : Prop := Csv.QuoteOpen ',' '"' (Text.splitlines names.toList)

instance (names : String) : Decidable (QuoteOpen names) :=
  inferInstanceAs (Decidable (Csv.QuoteOpen ',' '"' (Text.splitlines names.toList)))

/-- A blank line neither gives a team nor closes a quote. -/
theorem teamsOnLines_blank (lines : List (List Char)) {blank : List (List Char)}
    (hblank : blank = [] ∨ blank = [[]]) :
    teamsOnLines (lines ++ blank) = teamsOnLines lines ∧
      (Csv.QuoteOpen ',' '"' (lines ++ blank) ↔ Csv.QuoteOpen ',' '"' lines) := by
  rcases hblank with rfl | rfl
  · rw [List.append_nil]
    exact ⟨rfl, Iff.rfl⟩
  · by_cases hopen : Csv.QuoteOpen ',' '"' lines
    · obtain ⟨closed, fields, field, hrows, hnext⟩ := Csv.rows_append_of_open hopen
      have hsame := hnext [] List.not_mem_nil
      rw [List.append_nil, ← hrows] at hsame
      unfold teamsOnLines
      rw [hsame]
      exact ⟨rfl, Csv.quoteOpen_blank lines⟩
    · unfold teamsOnLines
      rw [Csv.rows_append hopen, List.filterMap_append]
      exact ⟨List.append_nil _, Csv.quoteOpen_blank lines⟩

/-- The lines of two texts, read one after the other. -/
theorem parseTeamsWithPlayers_append (before after : String) : ∃ lines : List (List Char),
    teamsOnLines lines = parseTeamsWithPlayers before ∧
      (Csv.QuoteOpen ',' '"' lines ↔ QuoteOpen before) ∧
      parseTeamsWithPlayers (before ++ "\n" ++ after) =
        teamsOnLines (lines ++ Text.splitlines after.toList) := by
  obtain ⟨blank, hblank, hlines⟩ := Text.splitlines_append before.toList after.toList
  obtain ⟨hteams, hopen⟩ := teamsOnLines_blank (Text.splitlines before.toList) hblank
  refine ⟨Text.splitlines before.toList ++ blank, hteams, hopen, ?_⟩
  unfold parseTeamsWithPlayers
  rw [toList_lines, hlines]

theorem append_of_closed {before : String} (h : ¬ QuoteOpen before) (after : String) :
    parseTeamsWithPlayers (before ++ "\n" ++ after) =
      parseTeamsWithPlayers before ++ parseTeamsWithPlayers after := by
  obtain ⟨lines, hteams, hopen, happend⟩ := parseTeamsWithPlayers_append before after
  rw [happend, ← hteams]
  unfold parseTeamsWithPlayers teamsOnLines
  rw [Csv.rows_append (mt hopen.1 h), List.filterMap_append]

/-- A row without a team starts with a blank cell. -/
theorem teamOfRow_eq_none {name : List Char} {players : List (List Char)}
    (h : teamOfRow (name :: players) = none) : stripped name = "" := by
  by_cases hname : isNamed name = true
  · rw [teamOfRow, if_pos (List.any_eq_true.2 ⟨name, List.mem_cons_self, hname⟩)] at h
    cases h
  · unfold isNamed at hname
    rw [Bool.not_eq_true, Bool.not_eq_false', List.isEmpty_iff] at hname
    unfold stripped
    rw [hname]

theorem filterMap_row (row : List (List Char)) :
    [row].filterMap teamOfRow = (teamOfRow row).toList := by
  cases h : teamOfRow row <;> simp [h]

/-- The next line after an open quote goes on with the open field, and its team is lost. -/
theorem append_of_open {before : String} (h : QuoteOpen before) :
    parseTeamsWithPlayers (before ++ "\n" ++ "x,y") ≠
      parseTeamsWithPlayers before ++ parseTeamsWithPlayers "x,y" := by
  obtain ⟨lines, hteams, hopen, happend⟩ := parseTeamsWithPlayers_append before "x,y"
  obtain ⟨closed, fields, field, hrows, hnext⟩ := Csv.rows_append_of_open (hopen.2 h)
  have hsplit : Text.splitlines "x,y".toList = ["x,y".toList] := by decide
  have hteam : parseTeamsWithPlayers "x,y" = [("x", ["y"])] := by decide
  have hquote : '"' ∉ "x,y".toList := by decide
  rw [happend, ← hteams, hsplit, hteam]
  unfold teamsOnLines
  rw [hnext _ hquote, hrows, List.filterMap_append, List.filterMap_append, List.append_assoc]
  intro heq
  have hlast := List.append_cancel_left heq
  rw [filterMap_row, filterMap_row] at hlast
  cases hnew : teamOfRow (fields ++ [field ++ "x,y".toList]) with
  | none =>
    rw [hnew] at hlast
    exact absurd hlast.symm (List.append_ne_nil_of_right_ne_nil _ (List.cons_ne_nil _ _))
  | some team =>
    cases hpending : teamOfRow (fields ++ [field]) with
    | some team' =>
      rw [hnew, hpending] at hlast
      cases hlast
    | none =>
      rw [hnew, hpending] at hlast
      cases hlast
      cases fields with
      | nil =>
        have hplayers : ["y"] = [] := congrArg Prod.snd (teamOfRow_eq_some hnew)
        cases hplayers
      | cons name fields =>
        have hname : "x" = stripped name := congrArg Prod.fst (teamOfRow_eq_some hnew)
        rw [teamOfRow_eq_none hpending] at hname
        exact absurd hname (by decide)

/-! ## 5. One team a line -/

/-- A character that no reader drops: it is on the screen and separates nothing. -/
def isVisible (c : Char) : Bool := !Text.isSpace c && c != ',' && c != '"'

theorem isNamed_of_mem {cell : List Char} {c : Char} (hmem : c ∈ cell)
    (hc : Text.isSpace c = false) : isNamed cell = true := by
  unfold isNamed
  rw [Bool.not_eq_true', List.isEmpty_eq_false_iff]
  intro hnil
  have hspace := (Text.strip_eq_nil cell).1 hnil c hmem
  rw [hc] at hspace
  cases hspace

theorem isNamed_of_space {cell : List Char} (h : ∀ c ∈ cell, Text.isSpace c = true) :
    isNamed cell = false := by
  unfold isNamed
  rw [(Text.strip_eq_nil cell).2 h]
  rfl

/-- **A line that leaves no quote open and shows something gives one team, a line of spaces and
    commas none.** -/
theorem teamsOnLines_line {line : List Char} (h : ¬ Csv.QuoteOpen ',' '"' [line]) :
    ((∃ c ∈ line, isVisible c = true) → ∃ team, teamsOnLines [line] = [team]) ∧
      ((∀ c ∈ line, Text.isSpace c = true ∨ c = ',') → teamsOnLines [line] = []) := by
  obtain ⟨row, hrow, hkept, hread⟩ := Csv.mem_row h
  unfold teamsOnLines
  rw [hrow, filterMap_row]
  constructor
  · rintro ⟨c, hc, hvisible⟩
    unfold isVisible at hvisible
    rw [Bool.and_eq_true, Bool.and_eq_true, Bool.not_eq_true', bne_iff_ne, bne_iff_ne] at hvisible
    obtain ⟨⟨hspace, hcomma⟩, hquote⟩ := hvisible
    obtain ⟨field, hfield, hmem⟩ := hkept c hc hcomma hquote
    cases row with
    | nil => cases hfield
    | cons name players =>
      rw [teamOfRow, if_pos (List.any_eq_true.2 ⟨field, hfield, isNamed_of_mem hmem hspace⟩)]
      exact ⟨_, rfl⟩
  · intro hblank
    have hquote : '"' ∉ line := by
      intro hmem
      rcases hblank '"' hmem with hspace | hcomma
      · exact absurd hspace (by decide)
      · exact absurd hcomma (by decide)
    cases row with
    | nil => rfl
    | cons name players =>
      have hnone : ¬ (name :: players).any isNamed = true := by
        intro hany
        obtain ⟨field, hfield, hnamed⟩ := List.any_eq_true.1 hany
        have hspace : ∀ c ∈ field, Text.isSpace c = true := by
          intro c hc
          obtain ⟨hmem, hcomma⟩ := hread hquote field hfield c hc
          exact (hblank c hmem).resolve_right hcomma
        rw [isNamed_of_space hspace] at hnamed
        cases hnamed
      rw [teamOfRow, if_neg hnone]
      rfl

/-! ## 6. Written and read again -/

structure PlainName (name : String) : Prop where
  nonempty : name ≠ ""
  unpadded : Text.strip name.toList = name.toList
  no_comma : ',' ∉ name.toList
  no_quote : '"' ∉ name.toList
  one_line : ∀ c ∈ name.toList, Text.isLineBreak c = false

instance (name : String) : Decidable (PlainName name) :=
  decidable_of_iff (name ≠ "" ∧ Text.strip name.toList = name.toList ∧ ',' ∉ name.toList ∧
      '"' ∉ name.toList ∧ name.toList.all (!Text.isLineBreak ·) = true)
    ⟨fun ⟨h1, h2, h3, h4, h5⟩ => ⟨h1, h2, h3, h4, fun c hc =>
        Bool.not_eq_true' _ ▸ List.all_eq_true.1 h5 c hc⟩,
      fun ⟨h1, h2, h3, h4, h5⟩ => ⟨h1, h2, h3, h4, List.all_eq_true.2 fun c hc =>
        Bool.not_eq_true' _ ▸ h5 c hc⟩⟩

/-- A team with its players, separated by commas. -/
def teamLine (team : String × List String) : List Char :=
  [','].intercalate ((team.1 :: team.2).map String.toList)

/-- Each team on a line of its own. -/
def writeTeams (teams : List (String × List String)) : String :=
  String.ofList (['\n'].intercalate (teams.map teamLine))

theorem PlainName.stripped {name : String} (h : PlainName name) :
    stripped name.toList = name := by
  rw [Brackets.stripped, h.unpadded, String.ofList_toList]

theorem PlainName.toList_ne_nil {name : String} (h : PlainName name) : name.toList ≠ [] :=
  fun hnil => h.nonempty (String.toList_eq_nil_iff.1 hnil)

theorem PlainName.isNamed {name : String} (h : PlainName name) :
    isNamed name.toList = true := by
  rw [Brackets.isNamed, h.unpadded, Bool.not_eq_true', List.isEmpty_eq_false_iff]
  exact h.toList_ne_nil

theorem teamOfRow_plain {team : String × List String}
    (h : ∀ name ∈ team.1 :: team.2, PlainName name) :
    teamOfRow ((team.1 :: team.2).map String.toList) = some team := by
  have hnamed : (team.2.map String.toList).filter Brackets.isNamed = team.2.map String.toList := by
    refine List.filter_eq_self.2 fun cell hcell => ?_
    obtain ⟨name, hname, rfl⟩ := List.mem_map.1 hcell
    exact (h name (List.mem_cons_of_mem _ hname)).isNamed
  have hplayers : (team.2.map String.toList).map stripped = team.2 := by
    rw [List.map_map]
    exact (List.map_congr_left fun name hname =>
      (h name (List.mem_cons_of_mem _ hname)).stripped).trans (List.map_id _)
  have hname := h team.1 List.mem_cons_self
  rw [List.map_cons, teamOfRow,
    if_pos (List.any_eq_true.2 ⟨_, List.mem_cons_self, hname.isNamed⟩), hnamed, hplayers,
    hname.stripped]

/-- The line of a team with plain names is read as its names. -/
theorem rows_teamLine {team : String × List String}
    (h : ∀ name ∈ team.1 :: team.2, PlainName name) :
    Csv.rows ',' '"' [teamLine team] = [(team.1 :: team.2).map String.toList] ∧
      ¬ Csv.QuoteOpen ',' '"' [teamLine team] := by
  refine Csv.row_of_fields (by decide) (fun cell hcell => ?_) (fun cell hcell => ?_)
    (Text.intercalate_ne_nil (h team.1 List.mem_cons_self).toList_ne_nil _)
  · obtain ⟨name, hname, rfl⟩ := List.mem_map.1 hcell
    exact (h name hname).no_comma
  · obtain ⟨name, hname, rfl⟩ := List.mem_map.1 hcell
    exact (h name hname).no_quote

theorem parse_writeTeams {teams : List (String × List String)}
    (h : ∀ team ∈ teams, ∀ name ∈ team.1 :: team.2, PlainName name) :
    parseTeamsWithPlayers (writeTeams teams) = teams := by
  have hlines : Text.splitlines (writeTeams teams).toList = teams.map teamLine := by
    unfold writeTeams
    rw [String.toList_ofList]
    refine Text.splitlines_intercalate (fun line hline => ?_) (fun line hline c hc => ?_)
    · obtain ⟨team, hteam, rfl⟩ := List.mem_map.1 hline
      exact Text.intercalate_ne_nil (h team hteam team.1 List.mem_cons_self).toList_ne_nil _
    · obtain ⟨team, hteam, rfl⟩ := List.mem_map.1 hline
      rcases Text.of_mem_intercalate hc with rfl | ⟨cell, hcell, hmem⟩
      · decide
      · obtain ⟨name, hname, rfl⟩ := List.mem_map.1 hcell
        exact (h team hteam name hname).one_line c hmem
  have hclosed : ∀ line ∈ teams.map teamLine, ¬ Csv.QuoteOpen ',' '"' [line] := by
    intro line hline
    obtain ⟨team, hteam, rfl⟩ := List.mem_map.1 hline
    exact (rows_teamLine (h team hteam)).2
  unfold parseTeamsWithPlayers teamsOnLines
  rw [hlines, Csv.rows_of_closed hclosed, List.flatMap_map, List.filterMap_flatMap]
  calc teams.flatMap (fun team => (Csv.rows ',' '"' [teamLine team]).filterMap teamOfRow)
      = teams.flatMap fun team => [team] := by
        refine List.flatMap_congr fun team hteam => ?_
        rw [(rows_teamLine (h team hteam)).1, filterMap_row, teamOfRow_plain (h team hteam)]
        rfl
    _ = teams := List.flatMap_singleton' teams

/-! ## 7. Which texts are read line by line -/

/-- **Bulk import reads a text apart from what follows exactly if it leaves no quote open.** Then
    every line that shows something gives one team, and plain teams are read as they were
    written. -/
theorem parseTeamsWithPlayers_lines (names : String) (teams : List (String × List String)) :
    ((∀ after, parseTeamsWithPlayers (names ++ "\n" ++ after) =
        parseTeamsWithPlayers names ++ parseTeamsWithPlayers after) ↔ ¬ QuoteOpen names) ∧
      ((∀ line ∈ Text.splitlines names.toList, ¬ Csv.QuoteOpen ',' '"' [line]) →
        parseTeamsWithPlayers names =
            (Text.splitlines names.toList).flatMap (fun line => teamsOnLines [line]) ∧
          ∀ line ∈ Text.splitlines names.toList,
            ((∃ c ∈ line, isVisible c = true) → ∃ team, teamsOnLines [line] = [team]) ∧
            ((∀ c ∈ line, Text.isSpace c = true ∨ c = ',') → teamsOnLines [line] = [])) ∧
      ((∀ team ∈ teams, ∀ name ∈ team.1 :: team.2, PlainName name) →
        parseTeamsWithPlayers (writeTeams teams) = teams) := by
  refine ⟨⟨fun h hopen => append_of_open hopen (h "x,y"), append_of_closed⟩, fun h => ⟨?_, ?_⟩,
    parse_writeTeams⟩
  · unfold parseTeamsWithPlayers teamsOnLines
    rw [Csv.rows_of_closed h, List.filterMap_flatMap]
  · exact fun line hline => teamsOnLines_line (h line hline)

theorem redAndBlue_lines :
    (∀ after, parseTeamsWithPlayers ("Red, Ann,Bob\n ,\nBlue," ++ "\n" ++ after) =
        parseTeamsWithPlayers "Red, Ann,Bob\n ,\nBlue," ++ parseTeamsWithPlayers after) ∧
      parseTeamsWithPlayers "Red, Ann,Bob\n ,\nBlue," = [("Red", ["Ann", "Bob"]), ("Blue", [])] ∧
      parseTeamsWithPlayers (writeTeams [("Red", ["Ann", "Bob"]), ("Blue", [])]) =
        [("Red", ["Ann", "Bob"]), ("Blue", [])] := by
  obtain ⟨happend, hlines, hwritten⟩ := parseTeamsWithPlayers_lines "Red, Ann,Bob\n ,\nBlue,"
    [("Red", ["Ann", "Bob"]), ("Blue", [])]
  exact ⟨happend.2 (by decide), (hlines (by decide)).1.trans (by decide +kernel),
    hwritten (by decide)⟩

/-- A quote at the start of a team's name takes the next team into the name. -/
theorem openQuote_swallows : parseTeamsWithPlayers ("\"Red" ++ "\n" ++ "Blue") ≠
    parseTeamsWithPlayers "\"Red" ++ parseTeamsWithPlayers "Blue" := by
  decide +kernel

end Brackets
