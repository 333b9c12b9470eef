/-
  File:      Brackets/Library/Text.lean
  Subject:   Python's `str.splitlines` and `str.strip`.

  A text is the list of its characters. A carriage return before a line feed is one line break,
  and nothing follows the last line break of a text.

  * `splitlines_append`: the lines of two texts with a line feed between them;
  * `splitlines_intercalate`: lines joined by line feeds are split again;
  * `strip_eq_nil`: what is stripped to nothing.
-/
import Mathlib.Data.List.DropRight

namespace Library

namespace Text

/-! ## 1. Characters -/

/-- `str.isspace` -/
def isSpace (c : Char) : Bool :=
  (0x09 ≤ c.toNat && c.toNat ≤ 0x0D) || (0x1C ≤ c.toNat && c.toNat ≤ 0x20) ||
    (0x2000 ≤ c.toNat && c.toNat ≤ 0x200A) ||
    [0x85, 0xA0, 0x1680, 0x2028, 0x2029, 0x202F, 0x205F, 0x3000].contains c.toNat

/-- Where `str.splitlines` ends a line. -/
def isLineBreak (c : Char) : Bool :=
  (0x0A ≤ c.toNat && c.toNat ≤ 0x0D) || (0x1C ≤ c.toNat && c.toNat ≤ 0x1E) ||
    [0x85, 0x2028, 0x2029].contains c.toNat

/-! ## 2. Lines -/

/-- `str.splitlines` inside of a line; `afterReturn` right after a carriage return. -/
def splitlinesFrom (afterReturn : Bool) (line : List Char) : List Char → List (List Char)
  | [] => if line = [] then [] else [line]
  | c :: text =>
    if afterReturn && c == '\n' then splitlinesFrom false line text
    else if isLineBreak c then line :: splitlinesFrom (c == '\r') [] text
    else splitlinesFrom false (line ++ [c]) text

def splitlines (text : List Char) : List (List Char) := splitlinesFrom false [] text

theorem splitlinesFrom_append (before after : List Char) {afterReturn : Bool} {line : List Char}
    (h : afterReturn = true → line = []) : ∃ blank : List (List Char), (blank = [] ∨ blank = [[]]) ∧
      splitlinesFrom afterReturn line (before ++ '\n' :: after) =
        splitlinesFrom afterReturn line before ++ blank ++ splitlines after := by
  induction before generalizing afterReturn line with
  | nil =>
    unfold splitlines
    rw [List.nil_append, splitlinesFrom, splitlinesFrom]
    cases afterReturn with
    | true =>
      rw [h rfl]
      exact ⟨[], Or.inl rfl, rfl⟩
    | false =>
      by_cases hline : line = []
      · rw [hline]
        exact ⟨[[]], Or.inr rfl, rfl⟩
      · rw [if_neg hline]
        exact ⟨[], Or.inl rfl, rfl⟩
  | cons c before ih =>
    rw [List.cons_append, splitlinesFrom, splitlinesFrom]
    by_cases hreturn : (afterReturn && c == '\n') = true
    · rw [if_pos hreturn, if_pos hreturn]
      exact ih nofun
    · rw [if_neg hreturn, if_neg hreturn]
      by_cases hbreak : isLineBreak c = true
      · rw [if_pos hbreak, if_pos hbreak]
        obtain ⟨blank, hblank, hlines⟩ := @ih (c == '\r') [] fun _ => rfl
        exact ⟨blank, hblank, by rw [hlines]; rfl⟩
      · rw [if_neg hbreak, if_neg hbreak]
        exact ih nofun

/-- **The lines of two texts with a line feed between them**: those of the first, a blank one if
    the first ended with a line break, and those of the second. -/
theorem splitlines_append (before after : List Char) :
    ∃ blank : List (List Char), (blank = [] ∨ blank = [[]]) ∧
      splitlines (before ++ '\n' :: after) = splitlines before ++ blank ++ splitlines after :=
  splitlinesFrom_append before after nofun

theorem splitlinesFrom_line {rest : List Char} (h : ∀ c ∈ rest, isLineBreak c = false)
    (line text : List Char) :
    splitlinesFrom false line (rest ++ text) = splitlinesFrom false (line ++ rest) text := by
  induction rest generalizing line with
  | nil => rw [List.nil_append, List.append_nil]
  | cons c rest ih =>
    have hc : ¬ isLineBreak c = true := by
      rw [h c List.mem_cons_self]
      exact Bool.false_ne_true
    rw [List.cons_append, splitlinesFrom, Bool.false_and, if_neg Bool.false_ne_true, if_neg hc,
      ih fun c hc => h c (List.mem_cons_of_mem _ hc), List.append_assoc, List.singleton_append]

/-- A line on its own. -/
theorem splitlines_line {line : List Char} (hne : line ≠ [])
    (h : ∀ c ∈ line, isLineBreak c = false) : splitlines line = [line] := by
  have hline := splitlinesFrom_line h [] []
  rw [List.append_nil, List.nil_append] at hline
  exact hline.trans (if_neg hne)

theorem of_mem_intercalate {separator : Char} {parts : List (List Char)} {c : Char}
    (h : c ∈ [separator].intercalate parts) : c = separator ∨ ∃ part ∈ parts, c ∈ part := by
  induction parts with
  | nil => cases h
  | cons part parts ih =>
    cases parts with
    | nil =>
      rw [List.intercalate_singleton] at h
      exact Or.inr ⟨part, List.mem_cons_self, h⟩
    | cons part' parts =>
      rw [List.intercalate_cons_cons, List.append_assoc] at h
      rcases List.mem_append.1 h with hc | hc
      · exact Or.inr ⟨part, List.mem_cons_self, hc⟩
      · rcases List.mem_cons.1 hc with hc | hc
        · exact Or.inl hc
        · exact (ih hc).imp id fun ⟨p, hp, hmem⟩ => ⟨p, List.mem_cons_of_mem _ hp, hmem⟩

theorem intercalate_ne_nil {separator part : List Char} (h : part ≠ [])
    (parts : List (List Char)) : separator.intercalate (part :: parts) ≠ [] := by
  cases parts with
  | nil => rwa [List.intercalate_singleton]
  | cons part' parts =>
    rw [List.intercalate_cons_cons, List.append_assoc]
    exact List.append_ne_nil_of_left_ne_nil h _

/-- **Lines joined by line feeds are split again.** -/
theorem splitlines_intercalate {lines : List (List Char)} (hne : ∀ line ∈ lines, line ≠ [])
    (h : ∀ line ∈ lines, ∀ c ∈ line, isLineBreak c = false) :
    splitlines (['\n'].intercalate lines) = lines := by
  induction lines with
  | nil => rfl
  | cons line lines ih =>
    have hfirst := h line List.mem_cons_self
    have hrest := ih (fun l hl => hne l (List.mem_cons_of_mem _ hl))
      fun l hl => h l (List.mem_cons_of_mem _ hl)
    cases lines with
    | nil =>
      rw [List.intercalate_singleton]
      exact splitlines_line (hne line List.mem_cons_self) hfirst
    | cons line' lines =>
      have hsplit : splitlines (line ++ '\n' :: ['\n'].intercalate (line' :: lines)) =
          line :: splitlines (['\n'].intercalate (line' :: lines)) :=
        splitlinesFrom_line hfirst [] _
      rw [List.intercalate_cons_cons, List.append_assoc, List.singleton_append, hsplit, hrest]

/-! ## 3. Whitespace at the ends -/

/-- `str.strip` -/
def strip (text : List Char) : List Char := (text.dropWhile isSpace).rdropWhile isSpace

theorem strip_eq_nil (text : List Char) : strip text = [] ↔ ∀ c ∈ text, isSpace c = true := by
  unfold strip
  rw [List.rdropWhile_eq_nil_iff]
  constructor
  · intro h c hc
    by_cases hdrop : text.dropWhile isSpace = []
    · exact List.dropWhile_eq_nil_iff.1 hdrop c hc
    · have hhead := List.head_dropWhile_not isSpace hdrop
      rw [h _ (List.head_mem hdrop)] at hhead
      cases hhead
  · exact fun h c hc => h c ((List.dropWhile_sublist _).mem hc)

end Text

end Library
