import BenchScope.Proofs.Markup
import BenchScope.Report.Chart

/-!
# Tooltips that data cannot break

A tooltip is put into a page as live markup. Reading its markup gives the same tags in the same order for
every record, whatever its name and its numbers are: a heading and a table of six rows with three cells each.
The heading is the escaped name, and a cell for a number is plain text. The cell shows the placeholder just
when there is no finite number to show.
-/

namespace BenchScope.Markup

/-! ## Reading tags -/

/-- A tag, and the text in front of it. -/
structure Span where
  text : List Char
  tag : List Char
  deriving DecidableEq, Repr

/-- The markup of a span. -/
def Span.write (span : Span) : List Char := span.text ++ '<' :: (span.tag ++ ['>'])

/-- The spans of the rest of a markup, where `text` has been read since the last tag, and in a tag also its
characters so far. A text ends at the next `<` and a tag at the next `>`. There is no answer for markup that
does not end with a tag. -/
def readSpans (text : List Char) : Option (List Char) → List Char → Option (List Span)
  | none, [] => if text = [] then some [] else none
  | some _, [] => none
  | none, c :: rest =>
    if c = '<' then readSpans text (some []) rest else readSpans (text ++ [c]) none rest
  | some tag, c :: rest =>
    if c = '>' then (readSpans [] none rest).map (⟨text, tag⟩ :: ·)
    else readSpans text (some (tag ++ [c])) rest

/-- The spans of a markup. -/
def spans? (markup : List Char) : Option (List Span) := readSpans [] none markup

/-- Text without `<` is taken as text, up to where the next tag may begin. -/
theorem readSpans_text (text : List Char) {more : List Char} (h : '<' ∉ more) (rest : List Char) :
    readSpans text none (more ++ rest) = readSpans (text ++ more) none rest := by
  induction more generalizing text with
  | nil => rw [List.nil_append, List.append_nil]
  | cons c more ih =>
    obtain ⟨hc, hmore⟩ := List.ne_and_not_mem_of_not_mem_cons h
    rw [List.cons_append, readSpans, if_neg (Ne.symm hc), ih _ hmore, List.append_assoc, List.singleton_append]

/-- In a tag, everything up to `>` belongs to the tag. -/
theorem readSpans_tag (text tag : List Char) {more : List Char} (h : '>' ∉ more) (rest : List Char) :
    readSpans text (some tag) (more ++ rest) = readSpans text (some (tag ++ more)) rest := by
  induction more generalizing tag with
  | nil => rw [List.nil_append, List.append_nil]
  | cons c more ih =>
    obtain ⟨hc, hmore⟩ := List.ne_and_not_mem_of_not_mem_cons h
    rw [List.cons_append, readSpans, if_neg (Ne.symm hc), ih _ hmore, List.append_assoc, List.singleton_append]

/-- A span that can be told from what follows it: its text opens no tag, and its tag ends only where it is
closed. -/
def Span.Readable (span : Span) : Prop := '<' ∉ span.text ∧ '>' ∉ span.tag

/-- A readable span in front is read back, and then the rest. -/
theorem spans?_write {span : Span} (h : span.Readable) (rest : List Char) :
    spans? (span.write ++ rest) = (spans? rest).map (span :: ·) := by
  rw [spans?, Span.write, List.append_assoc, readSpans_text [] h.1, List.nil_append, List.cons_append, readSpans,
    if_pos rfl, List.append_assoc, readSpans_tag span.text [] h.2, List.nil_append, List.singleton_append,
    readSpans, if_pos rfl]
  rfl

/-- Readable spans are read back from their markup. -/
theorem spans?_flatMap_write {spans : List Span} (h : ∀ span ∈ spans, span.Readable) :
    spans? (spans.flatMap Span.write) = some spans := by
  induction spans with
  | nil => rfl
  | cons span rest ih =>
    obtain ⟨hspan, hrest⟩ := List.forall_mem_cons.1 h
    rw [List.flatMap_cons, spans?_write hspan, ih hrest, Option.map_some]

theorem Plain.not_mem_lt {text : List Char} (h : Plain text) : '<' ∉ text :=
  fun hmem => h '<' hmem (by decide)

end BenchScope.Markup

namespace BenchScope.Report

open Markup

/-! ## Cells -/

/-- A text for finite numbers is fit for a cell if it is plain and differs from the placeholder. -/
theorem displayOrPlaceholder_plain {render : Float → String}
    (h : ∀ x, Plain (render x).toList ∧ '—' ∉ (render x).toList) (value : Option Float) :
    Plain (Units.displayOrPlaceholder value render).toList ∧
      (Units.displayOrPlaceholder value render = Units.placeholder ↔
        ∀ x, value = some x → x.isFinite = false) := by
  have hplaceholder : Plain Units.placeholder.toList := by decide
  cases value with
  | none => exact ⟨hplaceholder, iff_of_true rfl nofun⟩
  | some x =>
    unfold Units.displayOrPlaceholder
    dsimp only
    by_cases hx : x.isFinite = true
    · rw [if_pos hx]
      refine ⟨(h x).1, iff_of_false (fun heq => (h x).2 ?_) fun hnot => ?_⟩
      · rw [heq]
        decide
      · rw [hnot x rfl] at hx
        cases hx
    · rw [if_neg hx]
      refine ⟨hplaceholder, iff_of_true rfl ?_⟩
      rintro _ ⟨⟩
      exact Bool.eq_false_iff.2 hx

/-- What a renderer shows for a finite number, before a fixed ending. -/
theorem plain_finite_append (renderer : Renderer) {ending : String}
    (hending : Plain ending.toList ∧ '—' ∉ ending.toList) (x : Float) :
    Plain (renderer.finite x ++ ending).toList ∧ '—' ∉ (renderer.finite x ++ ending).toList := by
  have hnumber := renderer.numberText_finite x
  rw [String.toList_append, List.mem_append, not_or]
  refine ⟨fun c hc => ?_, hnumber.not_mem (by decide), hending.2⟩
  rcases List.mem_append.1 hc with hc | hc
  · exact hnumber.plain c hc
  · exact hending.1 c hc

/-- A count is plain text, and the placeholder just when there is no finite number. -/
theorem human_number_plain (value : Option Float) :
    Plain (Renderer.human.number value).toList ∧
      (Renderer.human.number value = Units.placeholder ↔ ∀ x, value = some x → x.isFinite = false) := by
  refine displayOrPlaceholder_plain (fun x => ?_) value
  have hnumber := Renderer.human.numberText_finite x
  exact ⟨hnumber.plain, hnumber.not_mem (by decide)⟩

/-- A time is plain text, and the placeholder just when there is no finite number. -/
theorem nanoseconds_plain (value : Option Float) :
    Plain (nanoseconds value).toList ∧
      (nanoseconds value = Units.placeholder ↔ ∀ x, value = some x → x.isFinite = false) :=
  displayOrPlaceholder_plain (fun x => plain_finite_append .int (by decide) x) value

/-- A ratio is plain text, and the placeholder just when it is not finite. -/
theorem timesMin_plain (x : Float) :
    Plain (timesMin x).toList ∧ (timesMin x = Units.placeholder ↔ x.isFinite = false) := by
  obtain ⟨hplain, hiff⟩ := displayOrPlaceholder_plain
    (fun x => plain_finite_append .fixed (by decide : Plain "x min".toList ∧ '—' ∉ "x min".toList) x) (some x)
  exact ⟨hplain, hiff.trans ⟨fun h => h x rfl, by rintro h _ ⟨⟩; exact h⟩⟩

/-! ## The tags of a tooltip -/

/-- The tags of a table row with three cells. -/
def rowTags (cell : String) : List String :=
  "tr" :: (List.replicate 3 [cell, "/" ++ cell]).flatten ++ ["/tr"]

/-- The tags of a tooltip: a heading, and a table with a row of titles and five rows below it. -/
def tooltipTags : List String :=
  ["h4", "/h4", "table"] ++ rowTags "th" ++ (List.replicate 5 (rowTags "td")).flatten ++ ["/table"]

/-- The spans of a table row with its cells. -/
def rowSpans (cell : String) (texts : List String) : List Span :=
  ⟨[], "tr".toList⟩ ::
    texts.flatMap (fun text => [⟨[], cell.toList⟩, ⟨text.toList, ("/" ++ cell).toList⟩]) ++ [⟨[], "/tr".toList⟩]

/-- The spans of a tooltip. -/
def tooltipSpans (record : Record) (ratios : PerMetric Float) : List Span :=
  [⟨[], "h4".toList⟩, ⟨(escape record.name).toList, "/h4".toList⟩, ⟨[], "table".toList⟩] ++
    rowSpans "th" ["", "Absolute", "Normalized"] ++
    (tooltipRows record).flatMap (fun row => rowSpans "td" [row.1, row.2.1, timesMin (ratios.get row.2.2)]) ++
    [⟨[], "/table".toList⟩]

theorem toList_tooltipRow (ratios : PerMetric Float) (row : String × String × Metric) :
    (tooltipRow ratios row).toList =
      (rowSpans "td" [row.1, row.2.1, timesMin (ratios.get row.2.2)]).flatMap Span.write := by
  simp [tooltipRow, rowSpans, Span.write]

/-- The markup of a tooltip is that of its spans. -/
theorem toList_tooltip (record : Record) (ratios : PerMetric Float) :
    (tooltip record ratios).toList = (tooltipSpans record ratios).flatMap Span.write := by
  have hrows : (String.join ((tooltipRows record).map (tooltipRow ratios))).toList =
      ((tooltipRows record).flatMap fun row =>
        rowSpans "td" [row.1, row.2.1, timesMin (ratios.get row.2.2)]).flatMap Span.write := by
    rw [String.toList_join, List.flatMap_map, List.flatMap_assoc]
    simp only [toList_tooltipRow]
  rw [tooltip, String.toList_append, String.toList_append, hrows]
  simp [tooltipSpans, rowSpans, Span.write]

theorem plain_label (record : Record) {row : String × String × Metric} (h : row ∈ tooltipRows record) :
    Plain row.1.toList := by
  have hlabels : ∀ label ∈ ["B/s", "items/s", "CPU", "Clock", "Iterations"], Plain label.toList := by decide
  have hmap : (tooltipRows record).map Prod.fst = ["B/s", "items/s", "CPU", "Clock", "Iterations"] := rfl
  refine hlabels row.1 ?_
  rw [← hmap]
  exact List.mem_map_of_mem h

/-- The absolute value of a row is plain text, and the placeholder where there is no finite number. -/
theorem plain_absolute (record : Record) {row : String × String × Metric} (h : row ∈ tooltipRows record) :
    Plain row.2.1.toList ∧
      (row.2.1 = Units.placeholder ↔ ∀ x, record.metric row.2.2 = some x → x.isFinite = false) := by
  simp only [tooltipRows, List.mem_cons, List.not_mem_nil, or_false] at h
  rcases h with rfl | rfl | rfl | rfl | rfl
  · exact human_number_plain _
  · exact human_number_plain _
  · exact nanoseconds_plain _
  · exact nanoseconds_plain _
  · exact human_number_plain _

theorem readable_rowSpans {cell : String} (hcell : '>' ∉ cell.toList) {texts : List String}
    (htexts : ∀ text ∈ texts, '<' ∉ text.toList) : ∀ span ∈ rowSpans cell texts, span.Readable := by
  have hslash : '>' ∉ ("/" ++ cell).toList := by
    rw [String.toList_append, List.mem_append, not_or]
    exact ⟨by decide, hcell⟩
  have hcells : ∀ text ∈ texts, ∀ span ∈ [Span.mk [] cell.toList, ⟨text.toList, ("/" ++ cell).toList⟩],
      span.Readable := by
    intro text htext
    rw [List.forall_mem_cons, List.forall_mem_singleton]
    exact ⟨⟨List.not_mem_nil, hcell⟩, htexts text htext, hslash⟩
  rw [rowSpans, List.forall_mem_append, List.forall_mem_cons, List.forall_mem_singleton]
  refine ⟨⟨⟨List.not_mem_nil, by decide⟩, fun span hspan => ?_⟩, List.not_mem_nil, by decide⟩
  obtain ⟨text, htext, hspan⟩ := List.mem_flatMap.1 hspan
  exact hcells text htext span hspan

/-- Neither the name nor the numbers of a record can end a tag or begin one. -/
theorem readable_tooltipSpans (record : Record) (ratios : PerMetric Float) :
    ∀ span ∈ tooltipSpans record ratios, span.Readable := by
  have hname : '<' ∉ (escape record.name).toList := fun hmem => ((inert_escape record.name).1 '<' hmem).1 rfl
  have htitles : ∀ title ∈ ["", "Absolute", "Normalized"], '<' ∉ title.toList := by decide
  have hrows : ∀ row ∈ tooltipRows record,
      ∀ span ∈ rowSpans "td" [row.1, row.2.1, timesMin (ratios.get row.2.2)], span.Readable := by
    intro row hrow
    refine readable_rowSpans (by decide) ?_
    rw [List.forall_mem_cons, List.forall_mem_cons, List.forall_mem_singleton]
    exact ⟨(plain_label record hrow).not_mem_lt, (plain_absolute record hrow).1.not_mem_lt,
      (timesMin_plain _).1.not_mem_lt⟩
  have hhead : ∀ span ∈ [Span.mk [] "h4".toList, ⟨(escape record.name).toList, "/h4".toList⟩,
      ⟨[], "table".toList⟩], span.Readable := by
    rw [List.forall_mem_cons, List.forall_mem_cons, List.forall_mem_singleton]
    have hclose : '>' ∉ "/h4".toList := by decide
    exact ⟨⟨List.not_mem_nil, by decide⟩, ⟨hname, hclose⟩, List.not_mem_nil, by decide⟩
  rw [tooltipSpans, List.forall_mem_append, List.forall_mem_append, List.forall_mem_append,
    List.forall_mem_singleton]
  refine ⟨⟨⟨hhead, readable_rowSpans (by decide) htitles⟩, fun span hspan => ?_⟩, List.not_mem_nil, by decide⟩
  obtain ⟨row, hrow, hspan⟩ := List.mem_flatMap.1 hspan
  exact hrows row hrow span hspan

/-- Reading the markup of a tooltip gives the same tags for every record and all its ratios. The heading is the
escaped name and stands for the name. Each of the five rows below the titles belongs to one metric, and both
its numbers are plain texts that show the placeholder just when there is no finite number. -/
theorem tooltip_tags_fixed (record : Record) (ratios : PerMetric Float) :
    spans? (tooltip record ratios).toList = some (tooltipSpans record ratios) ∧
      (tooltipSpans record ratios).map Span.tag = tooltipTags.map String.toList ∧
      decode (escape record.name) = record.name ∧
      (tooltipRows record).map (·.2.2) =
        [.bytesPerSecond, .itemsPerSecond, .cpuTime, .realTime, .iterations] ∧
      ∀ row ∈ tooltipRows record,
        Plain row.2.1.toList ∧
        (row.2.1 = Units.placeholder ↔ ∀ x, record.metric row.2.2 = some x → x.isFinite = false) ∧
        Plain (timesMin (ratios.get row.2.2)).toList ∧
        (timesMin (ratios.get row.2.2) = Units.placeholder ↔ (ratios.get row.2.2).isFinite = false) := by
  refine ⟨?_, rfl, ?_, rfl, fun row hrow => ?_⟩
  · rw [toList_tooltip]
    exact spans?_flatMap_write (readable_tooltipSpans record ratios)
  · rw [decode, escape, String.toList_ofList, decodeChars_escapeChars, String.ofList_toList]
  · obtain ⟨hplain, hiff⟩ := plain_absolute record hrow
    obtain ⟨hplain', hiff'⟩ := timesMin_plain (ratios.get row.2.2)
    exact ⟨hplain, hiff, hplain', hiff'⟩

end BenchScope.Report
