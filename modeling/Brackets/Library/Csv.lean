/-
  File:      Brackets/Library/Csv.lean
  Subject:   A reader of comma-separated rows.

  The reader of CPython's `csv` module in its default dialect, over any alphabet: fields end at
  the delimiter, a field that starts with the quote goes on to the closing one, also over the end
  of a line, a doubled quote stands for one, and after a closing quote the rest of the field is
  read as it is (not strict). The reader gets the lines without their ends, so a line break inside
  of quotes adds nothing. Its limit on the size of a field is left out.

  * `rows_append`: after lines that leave no quote open the reader starts afresh;
  * `rows_append_of_open`: after others the next lines go on with the open field;
  * `row_of_fields`: a line of fields without delimiters and quotes is read as these fields;
  * `mem_row`: whatever is no delimiter and no quote is in a field of the row.
-/
import Mathlib.Data.List.Basic

namespace Library

namespace Csv

/-! ## 1. The reader -/

inductive Mode where
  | startRecord
  | startField
  | inField
  | inQuotedField
  | quoteInQuotedField
  deriving DecidableEq, Repr

/-- Inside of a quoted field, or after a quote that may end it. -/
def Mode.quoted : Mode → Bool
  | .startRecord | .startField | .inField => false
  | .inQuotedField | .quoteInQuotedField => true

structure Reader (α : Type) where
  mode : Mode := .startRecord
  fields : List (List α) := []
  field : List α := []

namespace Reader

variable {α : Type}

/-- `parse_save_field` -/
def save (s : Reader α) (mode : Mode) : Reader α := ⟨mode, s.fields ++ [s.field], []⟩

/-- `parse_add_char` -/
def push (s : Reader α) (mode : Mode) (c : α) : Reader α := ⟨mode, s.fields, s.field ++ [c]⟩

/-- Everything read so far of the row. -/
def chars (s : Reader α) : List α := s.fields.flatten ++ s.field

@[simp] theorem chars_save (s : Reader α) (mode : Mode) : (s.save mode).chars = s.chars := by
  unfold save chars
  rw [List.flatten_append, List.append_nil, List.flatten_singleton]

@[simp] theorem chars_push (s : Reader α) (mode : Mode) (c : α) :
    (s.push mode c).chars = s.chars ++ [c] := (List.append_assoc ..).symm

@[simp] theorem chars_mode (s : Reader α) (mode : Mode) :
    ({ s with mode := mode } : Reader α).chars = s.chars := rfl

section Dialect

variable [DecidableEq α] (delimiter quote : α)

/-- `parse_process_char` -/
def step (s : Reader α) (c : α) : Reader α :=
  match s.mode with
  | .startRecord | .startField =>
    if c = quote then { s with mode := .inQuotedField }
    else if c = delimiter then s.save .startField
    else s.push .inField c
  | .inField => if c = delimiter then s.save .startField else s.push .inField c
  | .inQuotedField =>
    if c = quote then { s with mode := .quoteInQuotedField } else s.push .inQuotedField c
  | .quoteInQuotedField =>
    if c = quote then s.push .inQuotedField c
    else if c = delimiter then s.save .startField
    else s.push .inField c

/-- `parse_process_char` at the end of a line. -/
def endOfLine (s : Reader α) : Reader α :=
  match s.mode with
  | .startRecord | .inQuotedField => s
  | .startField | .inField | .quoteInQuotedField => s.save .startRecord

def readLine (s : Reader α) (line : List α) : Reader α :=
  (line.foldl (step delimiter quote) s).endOfLine

/-- The rows so far and the reader inside of the next one, after one more line. -/
def feed (acc : List (List (List α)) × Reader α) (line : List α) :
    List (List (List α)) × Reader α :=
  let s := readLine delimiter quote acc.2 line
  if s.mode = .startRecord then (acc.1 ++ [s.fields], {}) else (acc.1, s)

/-- The row of which the input ends inside of quotes. -/
def flush (s : Reader α) : List (List (List α)) :=
  if s.mode = .inQuotedField then [s.fields ++ [s.field]] else []

end Dialect

end Reader

section Rows

variable {α : Type} [DecidableEq α] (delimiter quote : α)

def readRows (lines : List (List α)) : List (List (List α)) × Reader α :=
  lines.foldl (Reader.feed delimiter quote) ([], {})

/-- `list(csv.reader(lines))` -/
def rows (lines : List (List α)) : List (List (List α)) :=
  (readRows delimiter quote lines).1 ++ (readRows delimiter quote lines).2.flush

/-! ## 2. Open quotes -/

namespace Mode

def next (m : Mode) (c : α) : Mode :=
  match m with
  | .startRecord | .startField =>
    if c = quote then .inQuotedField else if c = delimiter then .startField else .inField
  | .inField => if c = delimiter then .startField else .inField
  | .inQuotedField => if c = quote then .quoteInQuotedField else .inQuotedField
  | .quoteInQuotedField =>
    if c = quote then .inQuotedField else if c = delimiter then .startField else .inField

def endOfLine : Mode → Mode
  | .startRecord | .startField | .inField | .quoteInQuotedField => .startRecord
  | .inQuotedField => .inQuotedField

/-- What is left open after a line. -/
def afterLine (m : Mode) (line : List α) : Mode := (line.foldl (next delimiter quote) m).endOfLine

end Mode

/-- The lines leave a quoted field open. -/
def QuoteOpen (lines : List (List α)) : Prop :=
  lines.foldl (Mode.afterLine delimiter quote) .startRecord = .inQuotedField

instance (lines : List (List α)) : Decidable (QuoteOpen delimiter quote lines) :=
  inferInstanceAs (Decidable (_ = _))

end Rows

section Reading

variable {α : Type} [DecidableEq α] {delimiter quote : α}

theorem mode_step (s : Reader α) (c : α) :
    (s.step delimiter quote c).mode = s.mode.next delimiter quote c := by
  unfold Reader.step Mode.next
  cases s.mode <;> dsimp only <;> repeat' split
  all_goals rfl

theorem mode_steps (delimiter quote : α) (line : List α) (s : Reader α) :
    (line.foldl (Reader.step delimiter quote) s).mode =
      line.foldl (Mode.next delimiter quote) s.mode := by
  induction line generalizing s with
  | nil => rfl
  | cons c line ih => rw [List.foldl_cons, List.foldl_cons, ih, mode_step]

theorem mode_readLine (delimiter quote : α) (s : Reader α) (line : List α) :
    (s.readLine delimiter quote line).mode = s.mode.afterLine delimiter quote line := by
  unfold Reader.readLine Mode.afterLine
  rw [← mode_steps]
  unfold Reader.endOfLine Mode.endOfLine
  cases h : (line.foldl (Reader.step delimiter quote) s).mode <;> dsimp only
  · exact h
  · rfl
  · rfl
  · exact h
  · rfl

/-- Between two lines the reader is fresh or inside of quotes. -/
theorem afterLine_cases (m : Mode) (line : List α) :
    m.afterLine delimiter quote line = .startRecord ∨
      m.afterLine delimiter quote line = .inQuotedField := by
  unfold Mode.afterLine Mode.endOfLine
  cases line.foldl (Mode.next delimiter quote) m
  · exact Or.inl rfl
  · exact Or.inl rfl
  · exact Or.inl rfl
  · exact Or.inr rfl
  · exact Or.inl rfl

/-- The reader after some lines: fresh, or inside of a quoted field. -/
theorem feed_cases (delimiter quote : α) (acc : List (List (List α)) × Reader α) (line : List α) :
    (acc.2.mode.afterLine delimiter quote line = .startRecord ∧
      Reader.feed delimiter quote acc line =
        (acc.1 ++ [(acc.2.readLine delimiter quote line).fields], {})) ∨
    (acc.2.mode.afterLine delimiter quote line = .inQuotedField ∧
      Reader.feed delimiter quote acc line = (acc.1, acc.2.readLine delimiter quote line)) := by
  unfold Reader.feed
  dsimp only
  rw [mode_readLine]
  rcases afterLine_cases acc.2.mode line with h | h
  · exact Or.inl ⟨h, if_pos h⟩
  · exact Or.inr ⟨h, if_neg (by rw [h]; decide)⟩

theorem mode_feed (acc : List (List (List α)) × Reader α) (line : List α) :
    (Reader.feed delimiter quote acc line).2.mode = acc.2.mode.afterLine delimiter quote line := by
  rcases feed_cases delimiter quote acc line with ⟨h, hfeed⟩ | ⟨h, hfeed⟩
  · rw [hfeed, h]
  · rw [hfeed]
    exact mode_readLine delimiter quote acc.2 line

theorem mode_readRows (lines : List (List α)) : (readRows delimiter quote lines).2.mode =
    lines.foldl (Mode.afterLine delimiter quote) .startRecord := by
  suffices run : ∀ acc : List (List (List α)) × Reader α,
      (lines.foldl (Reader.feed delimiter quote) acc).2.mode =
        lines.foldl (Mode.afterLine delimiter quote) acc.2.mode from run ([], {})
  induction lines with
  | nil => exact fun acc => rfl
  | cons line lines ih =>
    intro acc
    rw [List.foldl_cons, List.foldl_cons, ih, mode_feed]

/-- A reader that is not inside of quotes is fresh. -/
theorem readRows_fresh {lines : List (List α)} (h : ¬ QuoteOpen delimiter quote lines) :
    (readRows delimiter quote lines).2 = {} := by
  unfold QuoteOpen at h
  rw [← mode_readRows] at h
  rcases List.eq_nil_or_concat lines with rfl | ⟨before, line, rfl⟩
  · rfl
  · unfold readRows at h ⊢
    rw [List.concat_eq_append, List.foldl_append, List.foldl_cons, List.foldl_nil] at h ⊢
    rcases feed_cases delimiter quote
      (before.foldl (Reader.feed delimiter quote) ([], {})) line with ⟨-, hfeed⟩ | ⟨hopen, -⟩
    · rw [hfeed]
    · exact absurd ((mode_feed _ line).trans hopen) h

/-! ## 3. Lines after lines -/

theorem feed_rows (lines : List (List α)) (before : List (List (List α))) (s : Reader α) :
    lines.foldl (Reader.feed delimiter quote) (before, s) =
      (before ++ (lines.foldl (Reader.feed delimiter quote) ([], s)).1,
        (lines.foldl (Reader.feed delimiter quote) ([], s)).2) := by
  induction lines generalizing before s with
  | nil => rw [List.foldl_nil, List.foldl_nil, List.append_nil]
  | cons line lines ih =>
    rw [List.foldl_cons, List.foldl_cons]
    rcases feed_cases delimiter quote (before, s) line with
      ⟨h, hfeed⟩ | ⟨h, hfeed⟩
    · rcases feed_cases delimiter quote ([], s) line with
        ⟨-, hfeed'⟩ | ⟨h', -⟩
      · rw [hfeed, hfeed', ih, ih ([] ++ _)]
        exact Prod.ext (List.append_assoc ..) rfl
      · cases h.symm.trans h'
    · rcases feed_cases delimiter quote ([], s) line with
        ⟨h', -⟩ | ⟨-, hfeed'⟩
      · cases h.symm.trans h'
      · rw [hfeed, hfeed', ih]

/-- **After lines that leave no quote open the reader starts afresh.** -/
theorem rows_append {lines : List (List α)} (h : ¬ QuoteOpen delimiter quote lines)
    (lines' : List (List α)) : rows delimiter quote (lines ++ lines') =
      rows delimiter quote lines ++ rows delimiter quote lines' := by
  have hfresh := readRows_fresh h
  have hread : readRows delimiter quote (lines ++ lines') =
      ((readRows delimiter quote lines).1 ++ (readRows delimiter quote lines').1,
        (readRows delimiter quote lines').2) := by
    unfold readRows
    rw [List.foldl_append, ← feed_rows]
    congr 1
    exact Prod.ext rfl hfresh
  have hflush : (readRows delimiter quote lines).2.flush = [] := by
    rw [hfresh]
    rfl
  unfold rows
  rw [hread, hflush, List.append_nil, List.append_assoc]

/-- A blank line neither opens nor closes a quote. -/
theorem quoteOpen_blank (lines : List (List α)) :
    QuoteOpen delimiter quote (lines ++ [[]]) ↔ QuoteOpen delimiter quote lines := by
  unfold QuoteOpen
  rw [List.foldl_append, List.foldl_cons, List.foldl_nil]
  cases lines.foldl (Mode.afterLine delimiter quote) .startRecord <;>
    simp [Mode.afterLine, Mode.endOfLine]

/-- Lines that each leave no quote open are read one by one. -/
theorem rows_of_closed {lines : List (List α)}
    (h : ∀ line ∈ lines, ¬ QuoteOpen delimiter quote [line]) :
    rows delimiter quote lines = lines.flatMap fun line => rows delimiter quote [line] := by
  induction lines with
  | nil => rfl
  | cons line lines ih =>
    have hfirst := rows_append (h line List.mem_cons_self) lines
    rw [List.flatMap_cons, ← ih fun l hl => h l (List.mem_cons_of_mem _ hl), ← hfirst,
      List.singleton_append]

/-! ## 4. Lines inside of quotes -/

/-- Inside of quotes everything but a quote goes to the field. -/
theorem steps_inQuotedField {line : List α} (h : quote ∉ line) (fields : List (List α))
    (field : List α) : line.foldl (Reader.step delimiter quote) ⟨.inQuotedField, fields, field⟩ =
      ⟨.inQuotedField, fields, field ++ line⟩ := by
  induction line generalizing field with
  | nil => rw [List.foldl_nil, List.append_nil]
  | cons c line ih =>
    have hc : c ≠ quote := fun hc => h (List.mem_cons.2 (Or.inl hc.symm))
    have hstep : Reader.step delimiter quote ⟨.inQuotedField, fields, field⟩ c =
        ⟨.inQuotedField, fields, field ++ [c]⟩ := if_neg hc
    rw [List.foldl_cons, hstep, ih fun hmem => h (List.mem_cons_of_mem _ hmem), List.append_assoc,
      List.singleton_append]

/-- **After lines that leave a quote open the next line goes on with the open field.** -/
theorem rows_append_of_open {lines : List (List α)} (h : QuoteOpen delimiter quote lines) :
    ∃ closed fields field, rows delimiter quote lines = closed ++ [fields ++ [field]] ∧
      ∀ line : List α, quote ∉ line →
        rows delimiter quote (lines ++ [line]) = closed ++ [fields ++ [field ++ line]] := by
  have hmode : (readRows delimiter quote lines).2.mode = .inQuotedField := mode_readRows lines ▸ h
  rcases hread : readRows delimiter quote lines with ⟨closed, mode, fields, field⟩
  rw [hread] at hmode
  dsimp only at hmode
  subst hmode
  refine ⟨closed, fields, field, ?_, fun line hline => ?_⟩
  · unfold rows
    rw [hread]
    rfl
  · have hfeed : readRows delimiter quote (lines ++ [line]) =
        (closed, ⟨.inQuotedField, fields, field ++ line⟩) := by
      unfold readRows at hread ⊢
      rw [List.foldl_append, hread]
      unfold Reader.feed Reader.readLine
      dsimp only [List.foldl_cons, List.foldl_nil]
      rw [steps_inQuotedField hline]
      rfl
    unfold rows
    rw [hfeed]
    rfl

/-- A line without quotes leaves an open quote open. -/
theorem QuoteOpen.append {lines : List (List α)} (h : QuoteOpen delimiter quote lines)
    {line : List α} (hline : quote ∉ line) : QuoteOpen delimiter quote (lines ++ [line]) := by
  unfold QuoteOpen at h ⊢
  rw [List.foldl_append, h, List.foldl_cons, List.foldl_nil]
  unfold Mode.afterLine
  have hsteps := mode_steps delimiter quote line ⟨.inQuotedField, [], []⟩
  rw [steps_inQuotedField hline] at hsteps
  rw [← hsteps]
  rfl

/-! ## 5. A line of fields -/

/-- A field without delimiters and quotes is read as it is. -/
theorem steps_field {cell : List α} (hd : delimiter ∉ cell) (hq : quote ∉ cell) {m : Mode}
    (hm : m = .startRecord ∨ m = .startField) (fields : List (List α)) :
    cell.foldl (Reader.step delimiter quote) ⟨m, fields, []⟩ =
      ⟨if cell = [] then m else .inField, fields, cell⟩ := by
  have inField : ∀ (rest field : List α), delimiter ∉ rest →
      rest.foldl (Reader.step delimiter quote) ⟨.inField, fields, field⟩ =
        ⟨.inField, fields, field ++ rest⟩ := by
    intro rest
    induction rest with
    | nil => exact fun field _ => by rw [List.foldl_nil, List.append_nil]
    | cons c rest ih =>
      intro field h
      have hstep : Reader.step delimiter quote ⟨.inField, fields, field⟩ c =
          ⟨.inField, fields, field ++ [c]⟩ :=
        if_neg fun hc => h (List.mem_cons.2 (Or.inl hc.symm))
      rw [List.foldl_cons, hstep, ih _ fun hmem => h (List.mem_cons_of_mem _ hmem),
        List.append_assoc, List.singleton_append]
  cases cell with
  | nil => rfl
  | cons c rest =>
    have hcq : c ≠ quote := fun hc => hq (List.mem_cons.2 (Or.inl hc.symm))
    have hcd : c ≠ delimiter := fun hc => hd (List.mem_cons.2 (Or.inl hc.symm))
    have hstep : Reader.step delimiter quote ⟨m, fields, []⟩ c = ⟨.inField, fields, [c]⟩ := by
      rcases hm with rfl | rfl
      · exact (if_neg hcq).trans (if_neg hcd)
      · exact (if_neg hcq).trans (if_neg hcd)
    rw [List.foldl_cons, hstep, inField rest [c] fun hmem => hd (List.mem_cons_of_mem _ hmem)]
    rfl

section Fields

variable (hne : delimiter ≠ quote)
include hne

theorem step_delimiter {m : Mode} (hm : m = .startRecord ∨ m = .startField) (cell : List α)
    (fields : List (List α)) :
    Reader.step delimiter quote ⟨if cell = [] then m else .inField, fields, cell⟩ delimiter =
      ⟨.startField, fields ++ [cell], []⟩ := by
  by_cases hcell : cell = []
  · rw [if_pos hcell]
    rcases hm with rfl | rfl
    · exact (if_neg hne).trans (if_pos rfl)
    · exact (if_neg hne).trans (if_pos rfl)
  · rw [if_neg hcell]
    exact if_pos rfl

theorem readLine_fields {cells : List (List α)} (hd : ∀ cell ∈ cells, delimiter ∉ cell)
    (hq : ∀ cell ∈ cells, quote ∉ cell) (hcells : cells ≠ []) {m : Mode}
    (hm : (m = .startRecord ∧ [delimiter].intercalate cells ≠ []) ∨ m = .startField)
    (fields : List (List α)) :
    Reader.readLine delimiter quote ⟨m, fields, []⟩ ([delimiter].intercalate cells) =
      ⟨.startRecord, fields ++ cells, []⟩ := by
  induction cells generalizing m fields with
  | nil => exact absurd rfl hcells
  | cons cell cells ih =>
    have hsteps := steps_field (hd cell List.mem_cons_self) (hq cell List.mem_cons_self)
      (hm.imp And.left id) fields
    cases cells with
    | nil =>
      rw [List.intercalate_singleton] at hm ⊢
      unfold Reader.readLine
      rw [hsteps]
      by_cases hcell : cell = []
      · rw [if_pos hcell]
        rcases hm with ⟨-, hline⟩ | rfl
        · exact absurd hcell hline
        · rfl
      · rw [if_neg hcell]
        rfl
    | cons cell' cells =>
      have hrest := ih (fun c hc => hd c (List.mem_cons_of_mem _ hc))
        (fun c hc => hq c (List.mem_cons_of_mem _ hc)) (List.cons_ne_nil _ _) (Or.inr rfl)
        (fields ++ [cell])
      unfold Reader.readLine at hrest ⊢
      rw [List.intercalate_cons_cons, List.foldl_append, List.foldl_append, hsteps,
        List.foldl_cons, List.foldl_nil, step_delimiter hne (hm.imp And.left id) cell fields, hrest,
        List.append_assoc, List.singleton_append]

/-- **A line of fields without delimiters and quotes is read as these fields.** -/
theorem row_of_fields {cells : List (List α)} (hd : ∀ cell ∈ cells, delimiter ∉ cell)
    (hq : ∀ cell ∈ cells, quote ∉ cell) (hline : [delimiter].intercalate cells ≠ []) :
    rows delimiter quote [[delimiter].intercalate cells] = [cells] ∧
      ¬ QuoteOpen delimiter quote [[delimiter].intercalate cells] := by
  have hcells : cells ≠ [] := fun h => hline (h ▸ List.intercalate_nil)
  have hread := readLine_fields hne hd hq hcells (Or.inl ⟨rfl, hline⟩) []
  have hopen : ¬ QuoteOpen delimiter quote [[delimiter].intercalate cells] := by
    intro h
    have hmode := (mode_readLine delimiter quote {}
      ([delimiter].intercalate cells)).trans h
    rw [hread] at hmode
    cases hmode
  refine ⟨?_, hopen⟩
  rcases feed_cases delimiter quote ([], {}) ([delimiter].intercalate cells) with
    ⟨-, hfeed⟩ | ⟨h, -⟩
  · have hrows : readRows delimiter quote [[delimiter].intercalate cells] = ([cells], {}) := by
      refine hfeed.trans ?_
      rw [hread]
      rfl
    unfold rows
    rw [hrows]
    rfl
  · exact absurd h hopen

end Fields

/-! ## 6. What ends up in the row -/

/-- Nothing but delimiters and quotes is lost. -/
theorem chars_step (delimiter quote : α) (s : Reader α) (c : α) :
    (s.step delimiter quote c).chars = s.chars ++ [c] ∨
      ((c = delimiter ∨ c = quote) ∧ (s.step delimiter quote c).chars = s.chars) := by
  unfold Reader.step
  cases s.mode <;> dsimp only <;> repeat' split
  all_goals simp [*]

theorem mem_chars_of_mem {s : Reader α} {line : List α} {x : α} (h : x ∈ s.chars) :
    x ∈ (line.foldl (Reader.step delimiter quote) s).chars := by
  induction line generalizing s with
  | nil => exact h
  | cons c line ih =>
    refine ih ?_
    rcases chars_step delimiter quote s c with hs | ⟨-, hs⟩
    · rw [hs]
      exact List.mem_append_left _ h
    · rw [hs]
      exact h

theorem mem_chars {line : List α} {x : α} (hmem : x ∈ line) (hd : x ≠ delimiter) (hq : x ≠ quote)
    (s : Reader α) : x ∈ (line.foldl (Reader.step delimiter quote) s).chars := by
  induction line generalizing s with
  | nil => cases hmem
  | cons c line ih =>
    rcases List.mem_cons.1 hmem with rfl | hmem
    · have hx : x ∈ (s.step delimiter quote x).chars := by
        rcases chars_step delimiter quote s x with hs | ⟨hc, -⟩
        · rw [hs]
          exact List.mem_append_right _ List.mem_cons_self
        · exact absurd hc (not_or.2 ⟨hd, hq⟩)
      exact mem_chars_of_mem (s := s.step delimiter quote x) hx
    · exact ih hmem _

/-- Outside of quotes a delimiter ends the field and everything else goes to it. -/
theorem step_unquoted {s : Reader α} (hm : s.mode.quoted = false)
    {c : α} (hc : c ≠ quote) : s.step delimiter quote c =
      if c = delimiter then s.save .startField else s.push .inField c := by
  unfold Reader.step
  cases hmode : s.mode with
  | startRecord => exact if_neg hc
  | startField => exact if_neg hc
  | inField => rfl
  | inQuotedField => rw [hmode] at hm; cases hm
  | quoteInQuotedField => rw [hmode] at hm; cases hm

theorem of_mem_chars {line : List α} (hq : quote ∉ line) {s : Reader α}
    (hm : s.mode.quoted = false) {x : α}
    (h : x ∈ (line.foldl (Reader.step delimiter quote) s).chars) :
    x ∈ s.chars ∨ (x ∈ line ∧ x ≠ delimiter) := by
  induction line generalizing s with
  | nil => exact Or.inl h
  | cons c line ih =>
    have hc : c ≠ quote := fun hc => hq (List.mem_cons.2 (Or.inl hc.symm))
    have hline : quote ∉ line := fun hmem => hq (List.mem_cons_of_mem _ hmem)
    rw [List.foldl_cons, step_unquoted hm hc] at h
    by_cases hd : c = delimiter
    · rw [if_pos hd] at h
      rcases ih hline rfl h with hx | ⟨hx, hxd⟩
      · rw [Reader.chars_save] at hx
        exact Or.inl hx
      · exact Or.inr ⟨List.mem_cons_of_mem _ hx, hxd⟩
    · rw [if_neg hd] at h
      rcases ih hline rfl h with hx | ⟨hx, hxd⟩
      · rw [Reader.chars_push] at hx
        rcases List.mem_append.1 hx with hx | hx
        · exact Or.inl hx
        · rw [List.mem_singleton.1 hx]
          exact Or.inr ⟨List.mem_cons_self, hd⟩
      · exact Or.inr ⟨List.mem_cons_of_mem _ hx, hxd⟩

/-- A reader at the start of a row has read nothing of a field. -/
theorem field_of_startRecord (line : List α) {s : Reader α}
    (h : s.mode = .startRecord → s.field = [])
    (hmode : (line.foldl (Reader.step delimiter quote) s).mode = .startRecord) :
    (line.foldl (Reader.step delimiter quote) s).field = [] := by
  induction line generalizing s with
  | nil => exact h hmode
  | cons c line ih =>
    refine ih (fun hstep => ?_) hmode
    rw [mode_step] at hstep
    unfold Mode.next at hstep
    cases hs : s.mode <;> rw [hs] at hstep <;> dsimp only at hstep <;> repeat' split at hstep
    all_goals cases hstep

/-- **A line that leaves no quote open gives one row, with whatever is no delimiter and no
    quote.** -/
theorem mem_row {line : List α} (h : ¬ QuoteOpen delimiter quote [line]) :
    ∃ row, rows delimiter quote [line] = [row] ∧
      (∀ x ∈ line, x ≠ delimiter → x ≠ quote → ∃ field ∈ row, x ∈ field) ∧
      (quote ∉ line → ∀ field ∈ row, ∀ x ∈ field, x ∈ line ∧ x ≠ delimiter) := by
  let s : Reader α := line.foldl (Reader.step delimiter quote) {}
  rcases feed_cases delimiter quote ([], {}) line with ⟨hmode, hfeed⟩ | ⟨hopen, -⟩
  · have hflat : (Reader.readLine delimiter quote {} line).fields.flatten = s.chars := by
      have hend : s.endOfLine.mode = .startRecord :=
        (mode_readLine delimiter quote {} line).trans hmode
      show s.endOfLine.fields.flatten = s.chars
      unfold Reader.endOfLine at hend ⊢
      cases hs : s.mode with
      | startRecord =>
        have hfield : s.field = [] := field_of_startRecord line (fun _ => rfl) hs
        unfold Reader.chars
        rw [hfield, List.append_nil]
      | inQuotedField =>
        rw [hs] at hend
        exact absurd (hs.symm.trans hend) nofun
      | startField => exact (List.append_nil _).symm.trans (Reader.chars_save s .startRecord)
      | inField => exact (List.append_nil _).symm.trans (Reader.chars_save s .startRecord)
      | quoteInQuotedField =>
        exact (List.append_nil _).symm.trans (Reader.chars_save s .startRecord)
    refine ⟨(Reader.readLine delimiter quote {} line).fields, ?_, fun x hx hd hq => ?_,
      fun hq field hfield x hx => ?_⟩
    · have hrows : readRows delimiter quote [line] =
          ([(Reader.readLine delimiter quote {} line).fields], {}) := hfeed
      unfold rows
      rw [hrows]
      rfl
    · exact List.mem_flatten.1 (hflat ▸ mem_chars hx hd hq {})
    · have hchars : x ∈ s.chars := hflat ▸ List.mem_flatten.2 ⟨field, hfield, hx⟩
      rcases of_mem_chars hq rfl hchars with hx | hx
      · cases hx
      · exact hx
  · exact absurd hopen h

end Reading

end Csv

end Library
