import BenchScope.Proofs.PanelContents
import BenchScope.Report.Summary

/-!
# Markdown tables

The text of a table is cut into lines at its line feeds, and the line of a record into fields at the bars
that are not escaped; a bar is escaped if an odd number of backslashes stands before it. Both are cuts of
a text at marked characters, and where every part is followed by such a character, the pieces of the whole
are the pieces of its parts.

Of all cells only names can break a table, since number texts hold neither bars nor line feeds. A bar gets
one more backslash in front of it, which leaves it escaped if and only if it was not before. So the tables
of results are well formed if and only if no name holds a line feed or an escaped bar.
-/

namespace BenchScope.Report.Summary

/-! ## Cutting texts -/

/-- The pieces of a text that is cut at every character that `cuts` marks, looking at the piece so far. -/
def pieces (cuts : List Char → Char → Bool) (piece : List Char) : List Char → List (List Char)
  | [] => [piece]
  | c :: rest => if cuts piece c then piece :: pieces cuts [] rest else pieces cuts (piece ++ [c]) rest

/-- A text that continues a piece without being cut. -/
def Uncut (cuts : List Char → Char → Bool) (piece text : List Char) : Prop :=
  ∀ before c after, text = before ++ c :: after → cuts (piece ++ before) c = false

section Cuts

variable {cuts : List Char → Char → Bool}

/-- A text in front of a cut is cut as it is alone, if the cut is made whatever piece it ends. -/
theorem pieces_append {piece text rest : List Char} {c : Char}
    (h : ∀ last, last <:+ piece ++ text → cuts last c = true) :
    pieces cuts piece (text ++ c :: rest) = pieces cuts piece text ++ pieces cuts [] rest := by
  -- the last piece of the text is a suffix of it, and is cut off by the character
  induction text generalizing piece with
  | nil =>
    have hcut : cuts piece c = true := h piece (by rw [List.append_nil])
    simp only [List.nil_append, pieces, if_pos hcut, List.singleton_append]
  | cons d text ih =>
    rw [List.cons_append, pieces, pieces]
    by_cases hcut : cuts piece d = true
    · rw [if_pos hcut, if_pos hcut, List.cons_append, ih]
      intro last hlast
      exact h last (hlast.trans ((List.suffix_cons d text).trans (List.suffix_append piece _)))
    · rw [if_neg hcut, if_neg hcut, ih]
      intro last hlast
      exact h last (by rwa [List.append_assoc] at hlast)

/-- Parts that are all followed by a cut are cut one by one. -/
theorem pieces_flatMap {parts : List (List Char)} {c : Char}
    (h : ∀ part ∈ parts, ∀ last, last <:+ part → cuts last c = true) :
    pieces cuts [] (parts.flatMap fun part => part ++ [c]) = parts.flatMap (pieces cuts []) ++ [[]] := by
  induction parts with
  | nil => rfl
  | cons part parts ih =>
    have hpart : ∀ last, last <:+ [] ++ part → cuts last c = true := h part List.mem_cons_self
    have hparts := ih fun other hother => h other (List.mem_cons_of_mem _ hother)
    rw [List.flatMap_cons, List.flatMap_cons, List.append_assoc, List.singleton_append, pieces_append hpart,
      hparts, List.append_assoc]

theorem uncut_nil {piece : List Char} : Uncut cuts piece [] := by
  intro before c after h
  cases before <;> cases h

/-- A text is not cut if it is neither at its first character nor behind it. -/
theorem uncut_cons {piece rest : List Char} {c : Char} :
    Uncut cuts piece (c :: rest) ↔ cuts piece c = false ∧ Uncut cuts (piece ++ [c]) rest := by
  constructor
  · intro h
    refine ⟨?_, ?_⟩
    · have hcut := h [] c rest rfl
      rwa [List.append_nil] at hcut
    · intro before d after heq
      rw [List.append_assoc]
      exact h (c :: before) d after (by rw [heq]; rfl)
  · rintro ⟨hc, hrest⟩ before d after heq
    cases before with
    | nil =>
      obtain ⟨rfl, rfl⟩ := List.cons.inj heq
      rwa [List.append_nil]
    | cons e before =>
      obtain ⟨rfl, rfl⟩ := List.cons.inj heq
      have hcut := hrest before d after rfl
      rwa [List.append_assoc] at hcut

/-- A text is not cut if its parts are not, the second one as a continuation of the first. -/
theorem uncut_append {piece first second : List Char} :
    Uncut cuts piece (first ++ second) ↔ Uncut cuts piece first ∧ Uncut cuts (piece ++ first) second := by
  induction first generalizing piece with
  | nil => simp only [List.nil_append, List.append_nil, uncut_nil, true_and]
  | cons c first ih =>
    rw [List.cons_append, uncut_cons, uncut_cons, ih, and_assoc, List.append_assoc, List.singleton_append]

theorem length_pieces_pos (cuts : List Char → Char → Bool) (piece text : List Char) :
    0 < (pieces cuts piece text).length := by
  induction text generalizing piece with
  | nil => exact Nat.one_pos
  | cons c text ih =>
    rw [pieces]
    split
    · exact Nat.succ_pos _
    · exact ih _

/-- A text that is not cut is one piece. -/
theorem Uncut.pieces_eq {piece text : List Char} (h : Uncut cuts piece text) :
    pieces cuts piece text = [piece ++ text] := by
  induction text generalizing piece with
  | nil => rw [pieces, List.append_nil]
  | cons c text ih =>
    obtain ⟨hc, htext⟩ := uncut_cons.1 h
    rw [pieces, hc, if_neg Bool.false_ne_true, ih htext, List.append_assoc]
    rfl

/-- There is one piece only if the text is not cut. -/
theorem length_pieces_eq_one_iff {piece text : List Char} :
    (pieces cuts piece text).length = 1 ↔ Uncut cuts piece text := by
  refine ⟨?_, fun h => by rw [h.pieces_eq, List.length_singleton]⟩
  induction text generalizing piece with
  | nil => exact fun _ => uncut_nil
  | cons c text ih =>
    intro h
    rw [pieces] at h
    by_cases hcut : cuts piece c = true
    · rw [if_pos hcut, List.length_cons] at h
      have hpos := length_pieces_pos cuts [] text
      omega
    · rw [if_neg hcut] at h
      exact uncut_cons.2 ⟨Bool.eq_false_iff.2 hcut, ih h⟩

instance (piece text : List Char) : Decidable (Uncut cuts piece text) :=
  decidable_of_iff _ length_pieces_eq_one_iff

/-- Parts are cut into as many pieces as there are parts if and only if none of them is cut. -/
theorem length_flatMap_pieces_eq_iff {parts : List (List Char)} :
    (parts.flatMap (pieces cuts [])).length = parts.length ↔ ∀ part ∈ parts, Uncut cuts [] part := by
  -- every part has a piece at least, so one piece too many anywhere is one too many in all
  have hle : ∀ parts : List (List Char), parts.length ≤ (parts.flatMap (pieces cuts [])).length := by
    intro parts
    induction parts with
    | nil => exact Nat.le_refl 0
    | cons part parts ih =>
      have hpos := length_pieces_pos cuts [] part
      rw [List.flatMap_cons, List.length_append, List.length_cons]
      omega
  induction parts with
  | nil => simp
  | cons part parts ih =>
    have hpos := length_pieces_pos cuts [] part
    have hrest := hle parts
    rw [List.flatMap_cons, List.length_append, List.length_cons, List.forall_mem_cons]
    constructor
    · intro h
      exact ⟨length_pieces_eq_one_iff.1 (by omega), ih.1 (by omega)⟩
    · rintro ⟨hpart, hparts⟩
      rw [hpart.pieces_eq, ih.2 hparts, List.length_singleton, Nat.add_comm]

/-- Parts that are not cut are the pieces. -/
theorem flatMap_pieces_eq {parts : List (List Char)} (h : ∀ part ∈ parts, Uncut cuts [] part) :
    parts.flatMap (pieces cuts []) = parts := by
  induction parts with
  | nil => rfl
  | cons part parts ih =>
    rw [List.flatMap_cons, (h part List.mem_cons_self).pieces_eq,
      ih fun other hother => h other (List.mem_cons_of_mem _ hother)]
    rfl

end Cuts

/-! ## Lines -/

/-- The lines of a text; after the last line feed there is one more, which may be empty. -/
def lines (text : List Char) : List (List Char) := pieces (fun _ c => c = '\n') [] text

/-- A text is one line if it holds no line feed. -/
theorem uncut_line_iff {piece text : List Char} :
    Uncut (fun _ c => c = '\n') piece text ↔ '\n' ∉ text := by
  constructor
  · intro h hmem
    obtain ⟨before, after, rfl⟩ := List.append_of_mem hmem
    have hcut := h before '\n' after rfl
    cases hcut
  · intro h before c after heq
    refine decide_eq_false ?_
    rintro rfl
    exact h (heq ▸ List.mem_append_right before List.mem_cons_self)

/-- Escaping bars changes bars and backslashes only. -/
theorem mem_escapeBars {text : String} {c : Char} (hbar : c ≠ '|') (hslash : c ≠ '\\') :
    c ∈ (escapeBars text).toList ↔ c ∈ text.toList := by
  rw [escapeBars, String.toList_ofList, List.mem_flatMap]
  constructor
  · rintro ⟨d, hd, hc⟩
    split at hc
    · simp [hbar, hslash] at hc
    · rwa [List.mem_singleton.1 hc]
  · intro hc
    exact ⟨c, hc, by rw [if_neg hbar, List.mem_singleton]⟩

/-! ## Fields -/

/-- Whether what follows a text is escaped: an odd number of backslashes is at its end. -/
def escaped (before : List Char) : Bool := (before.rtakeWhile (· = '\\')).length % 2 = 1

/-- One more character is followed by something escaped if it is a backslash that is not escaped itself.
-/
theorem escaped_concat (before : List Char) (c : Char) :
    escaped (before ++ [c]) = (decide (c = '\\') && !escaped before) := by
  unfold escaped
  rw [List.rtakeWhile_concat]
  by_cases hc : c = '\\'
  · rw [decide_eq_true hc, if_pos rfl, List.length_append, List.length_singleton, Bool.true_and,
      ← decide_not, decide_eq_decide]
    omega
  · rw [decide_eq_false hc, if_neg Bool.false_ne_true, Bool.false_and]
    rfl

theorem escaped_concat_congr {before before' : List Char} (h : escaped before = escaped before') (c : Char) :
    escaped (before ++ [c]) = escaped (before' ++ [c]) := by
  rw [escaped_concat, escaped_concat, h]

/-- The bars that are escaped, or those that are not. -/
def bar (sense : Bool) (before : List Char) (c : Char) : Bool := c = '|' && escaped before == sense

theorem bar_eq_false {c : Char} (h : c ≠ '|') (sense : Bool) (before : List Char) :
    bar sense before c = false := by
  rw [bar, decide_eq_false h, Bool.false_and]

/-- The fields of a line: it is cut at every bar that is not escaped. -/
def fields (line : List Char) : List (List Char) := pieces (bar false) [] line

theorem uncut_bar_of_not_mem {sense : Bool} {piece text : List Char} (h : '|' ∉ text) :
    Uncut (bar sense) piece text := by
  intro before c after heq
  refine bar_eq_false ?_ sense (piece ++ before)
  rintro rfl
  exact h (heq ▸ List.mem_append_right before List.mem_cons_self)

/-- Whether a bar of a text has an odd number of backslashes before it. -/
def HoldsEscapedBar (text : String) : Prop :=
  ∃ before after, text.toList = before ++ '|' :: after ∧ escaped before = true

/-- No escaped bar cuts a text if it holds none. -/
theorem uncut_bar_iff {text : String} : Uncut (bar true) [] text.toList ↔ ¬ HoldsEscapedBar text := by
  constructor
  · rintro h ⟨before, after, heq, hescaped⟩
    have hbar := h before '|' after heq
    rw [List.nil_append, bar, hescaped] at hbar
    cases hbar
  · intro h before c after heq
    rw [List.nil_append, bar, Bool.and_eq_false_imp]
    intro hc
    rw [of_decide_eq_true hc] at heq
    rw [beq_true]
    exact Bool.eq_false_iff.2 fun hescaped => h ⟨before, after, heq, hescaped⟩

instance (text : String) : Decidable (HoldsEscapedBar text) :=
  decidable_of_iff (¬ Uncut (bar true) [] text.toList) (not_congr uncut_bar_iff |>.trans not_not)

/-- A text that breaks no table: it holds neither a line feed nor an escaped bar. -/
def Harmless (text : String) : Prop := '\n' ∉ text.toList ∧ ¬ HoldsEscapedBar text

instance (text : String) : Decidable (Harmless text) :=
  inferInstanceAs (Decidable ('\n' ∉ text.toList ∧ ¬ HoldsEscapedBar text))

/-- A bar with one more backslash before it is escaped if and only if it was not. -/
theorem uncut_escapeBars {piece piece' : List Char} (text : List Char)
    (h : escaped piece = escaped piece') :
    Uncut (bar false) piece (text.flatMap fun c => if c = '|' then ['\\', '|'] else [c]) ↔
      Uncut (bar true) piece' text := by
  -- what has been written and what has been read end with backslashes of the same parity
  induction text generalizing piece piece' with
  | nil => exact iff_of_true uncut_nil uncut_nil
  | cons c text ih =>
    rw [List.flatMap_cons, uncut_cons]
    by_cases hc : c = '|'
    · subst hc
      have hnext : escaped (piece ++ ['\\'] ++ ['|']) = escaped (piece' ++ ['|']) := by
        rw [escaped_concat, escaped_concat piece']
        rfl
      have hslash : bar false piece '\\' = false := rfl
      have hbar : bar false (piece ++ ['\\']) '|' = bar true piece' '|' := by
        rw [bar, bar, escaped_concat, h]
        cases escaped piece' <;> rfl
      rw [if_pos rfl, List.cons_append, List.singleton_append, uncut_cons, uncut_cons, ih hnext, hbar]
      simp only [hslash, true_and]
    · rw [if_neg hc, List.singleton_append, uncut_cons, ih (escaped_concat_congr h c), bar_eq_false hc,
        bar_eq_false hc]

/-- A character either stays when text is escaped for markup, or it is neither a bar nor a backslash and
becomes a reference, which holds no bar and no line feed and ends with a semicolon. -/
theorem escapeChar_cases (c : Char) :
    Markup.escapeChar c = [c] ∨
      c ≠ '|' ∧ c ≠ '\\' ∧
        ∃ body, Markup.escapeChar c = body ++ [';'] ∧ '|' ∉ body ∧ '\n' ∉ body := by
  by_cases hreserved : c ∈ Markup.reserved
  · right
    simp only [Markup.reserved, List.mem_cons, List.not_mem_nil, or_false] at hreserved
    rcases hreserved with rfl | rfl | rfl | rfl | rfl
    · exact ⟨by decide, by decide, ['&', 'l', 't'], rfl, by decide, by decide⟩
    · exact ⟨by decide, by decide, ['&', 'g', 't'], rfl, by decide, by decide⟩
    · exact ⟨by decide, by decide, ['&', 'q', 'u', 'o', 't'], rfl, by decide, by decide⟩
    · exact ⟨by decide, by decide, ['&', '#', '0', '3', '9'], rfl, by decide, by decide⟩
    · exact ⟨by decide, by decide, ['&', 'a', 'm', 'p'], rfl, by decide, by decide⟩
  · left
    have hplain : Markup.Plain [c] := by
      intro d hd
      rwa [List.mem_singleton.1 hd]
    have hescape := hplain.escapeChars_eq
    rwa [Markup.escapeChars, List.flatMap_singleton] at hescape

/-- Escaping for markup leaves bars and backslashes as they are, so a text is cut at the same bars. -/
theorem uncut_escapeChars {sense : Bool} {piece piece' : List Char} (text : List Char)
    (h : escaped piece = escaped piece') :
    Uncut (bar sense) piece (Markup.escapeChars text) ↔ Uncut (bar sense) piece' text := by
  unfold Markup.escapeChars
  induction text generalizing piece piece' with
  | nil => exact iff_of_true uncut_nil uncut_nil
  | cons c text ih =>
    rw [List.flatMap_cons, uncut_cons]
    rcases escapeChar_cases c with hkept | ⟨hbar, hslash, body, hbody, hfree, -⟩
    · rw [hkept, List.singleton_append, uncut_cons, ih (escaped_concat_congr h c), bar, bar, h]
    · have hnext : escaped (piece ++ (body ++ [';'])) = escaped (piece' ++ [c]) := by
        rw [← List.append_assoc, escaped_concat, escaped_concat, decide_eq_false hslash]
        rfl
      have hreference : Uncut (bar sense) piece (body ++ [';']) :=
        uncut_bar_of_not_mem (by simp [hfree])
      rw [hbody, uncut_append, ih hnext, bar_eq_false hbar]
      simp only [hreference, true_and]

theorem mem_escapeChars_newline {text : List Char} : '\n' ∈ Markup.escapeChars text ↔ '\n' ∈ text := by
  rw [Markup.escapeChars, List.mem_flatMap]
  constructor
  · rintro ⟨c, hc, hmem⟩
    rcases escapeChar_cases c with hkept | ⟨-, -, body, hbody, -, hfree⟩
    · rw [hkept, List.mem_singleton] at hmem
      rwa [hmem]
    · rw [hbody] at hmem
      simp [hfree] at hmem
  · intro hmem
    exact ⟨'\n', hmem, by decide⟩

/-- Escaping for markup makes a text neither harmless nor harmful. -/
theorem harmless_escape_iff {text : String} : Harmless (Markup.escape text) ↔ Harmless text := by
  unfold Harmless
  rw [← uncut_bar_iff, ← uncut_bar_iff, Markup.escape, String.toList_ofList, mem_escapeChars_newline,
    uncut_escapeChars text.toList rfl]

/-! ## Rows -/

/-- A cell with its bars escaped, between two blanks. -/
def padded (cell : Cell) : List Char := ' ' :: (escapeBars cell.display).toList ++ [' ']

/-- The line of a row: a bar, and the cells, each with a bar behind it. -/
def rowLine (row : Row) : List Char := ([] :: row.cells.map padded).flatMap fun part => part ++ ['|']

/-- Cells joined by bars, with a bar behind them, are cells that are followed by a bar each. -/
theorem intercalate_bars {parts : List (List Char)} (h : parts ≠ []) :
    ' ' :: [' ', '|', ' '].intercalate parts ++ [' ', '|'] =
      parts.flatMap fun part => ' ' :: part ++ [' '] ++ ['|'] := by
  induction parts with
  | nil => exact absurd rfl h
  | cons first rest ih =>
    cases rest with
    | nil => simp
    | cons second rest =>
      rw [List.intercalate_cons_cons, List.flatMap_cons, ← ih (List.cons_ne_nil second rest)]
      simp

/-- A row of a table is written as its line. -/
theorem toList_tableRow {row : Row} (h : row.cells ≠ []) :
    (tableRow (row.cells.map fun c => escapeBars c.display)).toList = rowLine row ++ ['\n'] := by
  have hparts : (row.cells.map fun c => (escapeBars c.display).toList) ≠ [] := by
    rwa [Ne, List.map_eq_nil_iff]
  calc (tableRow (row.cells.map fun c => escapeBars c.display)).toList
      = '|' :: (' ' :: [' ', '|', ' '].intercalate
            (row.cells.map fun c => (escapeBars c.display).toList) ++ [' ', '|']) ++ ['\n'] := by
        simp [tableRow, line, String.toList_intercalate, Function.comp_def]
    _ = rowLine row ++ ['\n'] := by
        rw [intercalate_bars hparts, rowLine, List.flatMap_cons, List.flatMap_map, List.flatMap_map]
        rfl

/-- The line of a row holds a line feed only if one of its cells does. -/
theorem newline_not_mem_rowLine_iff {row : Row} :
    '\n' ∉ rowLine row ↔ ∀ cell ∈ row.cells, '\n' ∉ cell.display.toList := by
  have hpadded : ∀ cell : Cell, '\n' ∈ padded cell ↔ '\n' ∈ cell.display.toList := by
    intro cell
    rw [padded, List.mem_append, List.mem_cons, mem_escapeBars (by decide) (by decide)]
    simp
  simp [rowLine, hpadded]

/-- A cell is not cut if no bar of its text was escaped before it got its backslash. -/
theorem uncut_padded_iff {cell : Cell} :
    Uncut (bar false) [] (padded cell) ↔ ¬ HoldsEscapedBar cell.display := by
  have hblank : escaped ([] ++ [' ']) = escaped [] := by decide
  have hfirst : bar false [] ' ' = false := rfl
  have hlast : ∀ piece, Uncut (bar false) piece [' '] := fun _ => uncut_bar_of_not_mem (by decide)
  rw [padded, List.cons_append, uncut_cons, uncut_append, escapeBars, String.toList_ofList,
    uncut_escapeBars _ hblank, uncut_bar_iff]
  simp only [hfirst, hlast, true_and, and_true]

/-- A row is cut at its own bars, and its cells are cut as they are alone. -/
theorem fields_rowLine (row : Row) :
    fields (rowLine row) = ([] :: row.cells.map padded).flatMap (pieces (bar false) []) ++ [[]] := by
  refine pieces_flatMap ?_
  -- what stands before a bar of the row is nothing or ends with a blank
  have hcut : ∀ last : List Char, (last = [] ∨ ∃ front, last = front ++ [' ']) →
      bar false last '|' = true := by
    rintro last (rfl | ⟨front, rfl⟩)
    · decide
    · rw [bar, escaped_concat]
      rfl
  intro part hpart last hlast
  apply hcut
  rcases List.mem_cons.1 hpart with rfl | hpart
  · exact .inl (List.suffix_nil.1 hlast)
  · obtain ⟨cell, -, rfl⟩ := List.mem_map.1 hpart
    rcases List.suffix_concat_iff.1 hlast with hnil | ⟨front, hfront, -⟩
    · exact .inl hnil
    · exact .inr ⟨front, hfront⟩

/-- A row has its cells as fields if no cell holds a bar that was escaped before. -/
theorem fields_rowLine_iff {row : Row} :
    fields (rowLine row) = [] :: row.cells.map padded ++ [[]] ↔
      ∀ cell ∈ row.cells, ¬ HoldsEscapedBar cell.display := by
  have huncut : (∀ part ∈ [] :: row.cells.map padded, Uncut (bar false) [] part) ↔
      ∀ cell ∈ row.cells, ¬ HoldsEscapedBar cell.display := by
    simp only [List.forall_mem_cons, uncut_nil, true_and, List.forall_mem_map, uncut_padded_iff]
  rw [fields_rowLine, List.append_left_inj, ← huncut]
  constructor
  · intro h
    exact length_flatMap_pieces_eq_iff.1 (congrArg List.length h)
  · exact flatMap_pieces_eq

/-! ## Tables -/

/-- The lines above the rows of a table: its heading, a blank line, the titles and the rule. -/
def headLines (heading : String) (columns : List Column) : List (List Char) :=
  ["### " ++ heading, "", "| " ++ " | ".intercalate (columns.map Column.title) ++ " |",
    "|" ++ "|".intercalate (columns.map fun c => if c.className?.isSome then "---:" else "---") ++ "|"].map
      String.toList

/-- The text of a table has the lines it should have, one for each row, and a row has its cells as fields
between the bars at both ends, one for each column. After the last line, which is blank, nothing
follows. -/
def WellFormed (t : Table) : Prop :=
  ∃ rowLines, lines (table t).toList = headLines t.heading t.columns ++ rowLines ++ [[], []] ∧
    List.Forall₂ (fun line row => row.cells.length = t.columns.length ∧
      fields line = [] :: row.cells.map padded ++ [[]]) rowLines t.rows

/-- A table is written line by line: what stands above the rows, the rows, and a blank line. -/
theorem toList_table {t : Table} (h : ∀ row ∈ t.rows, row.cells ≠ []) :
    (table t).toList =
      (headLines t.heading t.columns ++ t.rows.map rowLine ++ [[]]).flatMap fun line => line ++ ['\n'] := by
  have hrows : (t.rows.map fun row => tableRow (row.cells.map fun c => escapeBars c.display)).flatMap
      String.toList = (t.rows.map rowLine).flatMap fun line => line ++ ['\n'] := by
    rw [List.flatMap_map, List.flatMap_map]
    exact List.flatMap_congr fun row hrow => toList_tableRow (h row hrow)
  rw [table, String.toList_append, String.toList_append, String.toList_join, hrows]
  simp [headLines, line, tableRow, rule]

/-- The lines of a table are those above the rows, the pieces of the rows, and two empty ones at the
end. -/
theorem lines_table {t : Table} (hhead : ∀ line ∈ headLines t.heading t.columns, '\n' ∉ line)
    (h : ∀ row ∈ t.rows, row.cells ≠ []) :
    lines (table t).toList = headLines t.heading t.columns ++
      (t.rows.map rowLine).flatMap (pieces (fun _ c => c = '\n') []) ++ [[], []] := by
  have huncut := flatMap_pieces_eq fun line hline => uncut_line_iff.2 (hhead line hline)
  rw [toList_table h, lines, pieces_flatMap fun _ _ _ _ => rfl, List.flatMap_append, List.flatMap_append,
    huncut]
  simp [pieces]

/-- A table is well formed if and only if all its cells are harmless. -/
theorem wellFormed_iff {t : Table} (hhead : ∀ line ∈ headLines t.heading t.columns, '\n' ∉ line)
    (hcells : ∀ row ∈ t.rows, row.cells ≠ [] ∧ row.cells.length = t.columns.length) :
    WellFormed t ↔ ∀ row ∈ t.rows, ∀ cell ∈ row.cells, Harmless cell.display := by
  have hlines := lines_table hhead fun row hrow => (hcells row hrow).1
  constructor
  · rintro ⟨rowLines, htext, hrows⟩
    rw [hlines] at htext
    obtain rfl := List.append_cancel_left (List.append_cancel_right htext)
    -- with as many lines as rows, no row is cut
    have huncut : ∀ part ∈ t.rows.map rowLine, Uncut (fun _ c => c = '\n') [] part := by
      rw [← length_flatMap_pieces_eq_iff, hrows.length_eq, List.length_map]
    rw [flatMap_pieces_eq huncut, List.forall₂_map_left_iff, List.forall₂_same] at hrows
    intro row hrow cell hcell
    exact ⟨newline_not_mem_rowLine_iff.1 (uncut_line_iff.1 (huncut _ (List.mem_map_of_mem hrow))) cell hcell,
      fields_rowLine_iff.1 (hrows row hrow).2 cell hcell⟩
  · intro h
    have huncut : ∀ part ∈ t.rows.map rowLine, Uncut (fun _ c => c = '\n') [] part := by
      intro part hpart
      obtain ⟨row, hrow, rfl⟩ := List.mem_map.1 hpart
      exact uncut_line_iff.2 (newline_not_mem_rowLine_iff.2 fun cell hcell => (h row hrow cell hcell).1)
    rw [flatMap_pieces_eq huncut] at hlines
    refine ⟨t.rows.map rowLine, hlines, ?_⟩
    rw [List.forall₂_map_left_iff, List.forall₂_same]
    intro row hrow
    exact ⟨(hcells row hrow).2, fields_rowLine_iff.2 fun cell hcell => (h row hrow cell hcell).2⟩

/-! ## Tables of results -/

/-- No number holds a bar or a line feed. -/
theorem harmless_number (renderer : Renderer) (value : Option Float) : Harmless (renderer.number value) := by
  obtain ⟨x, -, -, hnumber⟩ | ⟨-, hnumber⟩ := renderer.number_cases value
  · have htext := renderer.numberText_finite x
    rw [hnumber, Harmless, ← uncut_bar_iff]
    exact ⟨htext.not_mem (by decide), uncut_bar_of_not_mem (htext.not_mem (by decide))⟩
  · rw [hnumber]
    decide +kernel

/-- Of the cells of a record only the name can do harm. -/
theorem harmless_cells_iff {layout : Layout} (hlayout : layout = prettyLayout ∨ layout = normalizedLayout)
    (record : Record) (ratios : PerMetric Float) :
    (∀ column ∈ layout.columns, Harmless (cell column record ratios).display) ↔ Harmless record.name := by
  constructor
  · intro h
    have hname : (⟨"Name", .name, .escaped⟩ : Column) ∈ layout.columns :=
      List.mem_cons_of_mem _ List.mem_cons_self
    have hdisplay := h _ hname
    rw [cell_name hlayout hname rfl] at hdisplay
    exact harmless_escape_iff.1 hdisplay
  · intro h column hcolumn
    by_cases hname : column.source = .name
    · rw [cell_name hlayout hcolumn hname]
      exact harmless_escape_iff.2 h
    · rw [(showsNumber_cell hname record ratios).display]
      exact harmless_number column.renderer _

/-- The tables of results are well formed if and only if all names are harmless. -/
theorem wellFormed_table_iff {layout : Layout}
    (hlayout : layout = prettyLayout ∨ layout = normalizedLayout) {normalized : Normalized}
    (h : normalized.ratios.length = normalized.results.records.length) :
    WellFormed (layout.table normalized) ↔
      ∀ record ∈ normalized.results.records, Harmless record.name := by
  have hhead : ∀ line ∈ headLines layout.heading layout.columns, '\n' ∉ line := by
    rcases hlayout with rfl | rfl <;> decide +kernel
  have hcells : ∀ row ∈ (layout.table normalized).rows, row.cells ≠ [] ∧
      row.cells.length = (layout.table normalized).columns.length := by
    intro row hrow
    obtain ⟨entry, -, rfl⟩ := List.mem_map.1 hrow
    exact ⟨nofun, List.length_map _⟩
  rw [wellFormed_iff (t := layout.table normalized) hhead hcells, ← map_fst_rows h]
  simp only [Layout.table, List.forall_mem_map, harmless_cells_iff hlayout]

/-- The Markdown tables of a panel have one row for each record, and they are well formed if and only if no
record name holds a line feed or a bar that is already escaped. -/
theorem tables_wellFormed_iff (aggregator : Aggregator) (results : Results) (code : Option Code)
    (t : Table) (h : t ∈ (Loaded.ofResults (Normalized.relativeTo aggregator results) code).tables) :
    t.rows.map Row.id = results.records.map Record.id ∧
    (WellFormed t ↔
      ∀ record ∈ results.records, '\n' ∉ record.name.toList ∧ ¬ HoldsEscapedBar record.name) := by
  have hratios : (Normalized.relativeTo aggregator results).ratios.length = results.records.length :=
    List.length_map _
  obtain ⟨layout, hlayout, rfl⟩ := exists_layout h
  refine ⟨?_, wellFormed_table_iff hlayout hratios⟩
  have hrecords : (Normalized.relativeTo aggregator results).rows.map Prod.fst = results.records :=
    map_fst_rows hratios
  rw [Layout.table, List.map_map, ← hrecords, List.map_map]
  rfl

theorem tables_wellFormed_iff_bars :
    WellFormed (prettyTable (Normalized.ofResults ⟨[], [Record.named "a|b", Record.named "c\\\\|d"]⟩)) := by
  refine (tables_wellFormed_iff .min _ none _ List.mem_cons_self).2.2 ?_
  intro record hrecord
  rcases List.mem_pair.1 hrecord with rfl | rfl <;> decide +kernel

/-- A document whose one record is named `a\|b`. -/
def escapedBar : String := "\x7b\"benchmarks\":[\x7b\"name\":\"a\\\\|b\"\x7d]\x7d"

/-- The name is written as `a\\|b`: the bar is not escaped, and the row has one field too many. -/
theorem escaped_bar_breaks_row : ∃ results, Results.parse escapedBar = .ok results ∧
    ((lines (table (prettyTable (Normalized.ofResults results))).toList)[4]?).map
        (fun line => (fields line).map String.ofList) =
      some ["", " 0 ", " a\\\\", "b ", " — ", " — ", " — ", " — ", " — ", ""] ∧
    ¬ WellFormed (prettyTable (Normalized.ofResults results)) := by
  have hread : (Results.parse escapedBar).toOption.map (fun results =>
      (results.records.map Record.name,
        ((lines (table (prettyTable (Normalized.ofResults results))).toList)[4]?).map
          fun line => (fields line).map String.ofList)) =
      some (["a\\|b"], some ["", " 0 ", " a\\\\", "b ", " — ", " — ", " — ", " — ", " — ", ""]) := by
    decide +kernel
  cases hresult : Results.parse escapedBar with
  | error e =>
    rw [hresult] at hread
    cases hread
  | ok results =>
    rw [hresult] at hread
    obtain ⟨hnames, hfields⟩ := Prod.mk.inj (Option.some.inj hread)
    refine ⟨results, rfl, hfields, ?_⟩
    have hratios : (Normalized.ofResults results).ratios.length = results.records.length := List.length_map _
    intro hwell
    have hfree := (wellFormed_table_iff (.inl rfl) hratios).1 hwell
    have hmem : "a\\|b" ∈ results.records.map Record.name := hnames ▸ List.mem_singleton_self _
    obtain ⟨record, hrecord, hname⟩ := List.mem_map.1 hmem
    have hbar : ¬ HoldsEscapedBar "a\\|b" := hname ▸ (hfree record hrecord).2
    exact hbar (by decide +kernel)

end BenchScope.Report.Summary
