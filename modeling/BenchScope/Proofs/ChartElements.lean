import BenchScope.Proofs.CompactValues
import BenchScope.Proofs.PageSafety
import BenchScope.Proofs.ScriptReading

/-!
# Chart data in documents

A loaded panel brings one script element with the data of its charts into the document. `chartElements` finds
these elements in any text: it looks for their opening tag at every place, and takes the text up to the first
closing tag behind it. In the document of a page it finds the elements of the loaded panels, in order, and
nothing else. The text of each is a JSON document from which the charts of the panel are read back.
-/

namespace BenchScope.Report.Html

/-! ## Finding elements -/

/-- The text in front of the first occurrence of a mark, and the text behind it. -/
def cut? (mark : List Char) : List Char → Option (List Char × List Char)
  | [] => none
  | c :: rest =>
    if mark <+: c :: rest then some ([], (c :: rest).drop mark.length)
    else (cut? mark rest).map fun (before, after) => (c :: before, after)

/-- The opening tag of an element with chart data, up to the value of its last attribute. -/
def chartsTag : List Char := "<script type=\"application/json\" class=\"bm-charts\" data-panel=\"".toList

/-- The closing tag of a script element. -/
def scriptEnd : List Char := "</script>".toList

/-- An element with chart data: the id of its panel, and its text. -/
structure ChartElement where
  panel : String
  data : String
  deriving DecidableEq, Repr

/-- The element behind an opening tag; none if the tag or the element does not end. -/
def chartElement? (text : List Char) : Option ChartElement :=
  (cut? ['"', '>'] text).bind fun (id, content) =>
    (cut? scriptEnd content).map fun (data, _) => ⟨String.ofList (Markup.decodeChars id), String.ofList data⟩

/-- The elements with chart data in a document, in order. -/
def chartElements : List Char → List (Option ChartElement)
  | [] => []
  | c :: rest =>
    if chartsTag <+: c :: rest then
      chartElement? ((c :: rest).drop chartsTag.length) :: chartElements rest
    else chartElements rest

/-- A mark is found behind a text that does not hold its first character. -/
theorem cut?_append {c : Char} (mark : List Char) {before : List Char} (h : c ∉ before) (after : List Char) :
    cut? (c :: mark) (before ++ (c :: mark ++ after)) = some (before, after) := by
  induction before with
  | nil =>
    rw [List.nil_append, List.cons_append, cut?, ← List.cons_append, if_pos (List.prefix_append _ _), List.drop_left]
  | cons d before ih =>
    rw [List.mem_cons, not_or] at h
    have hmark : ¬ c :: mark <+: d :: (before ++ (c :: mark ++ after)) := by
      rw [List.cons_prefix_cons]
      exact fun hprefix => h.1 hprefix.1
    rw [List.cons_append, cut?, if_neg hmark, ih h.2]
    rfl

/-- Whether two texts differ before one of them ends. -/
def differs : List Char → List Char → Bool
  | c :: first, d :: second => c != d || differs first second
  | _, _ => false

/-- Texts that differ before one of them ends do not begin alike, whatever follows. -/
theorem not_prefix_of_differs {mark text : List Char} (h : differs mark text = true) (rest : List Char) :
    ¬ mark <+: text ++ rest := by
  induction mark generalizing text with
  | nil => cases h
  | cons c mark ih =>
    cases text with
    | nil => cases h
    | cons d text =>
      rw [differs, Bool.or_eq_true, bne_iff_ne] at h
      rw [List.cons_append, List.cons_prefix_cons]
      rintro ⟨rfl, hprefix⟩
      exact h.elim (fun hne => hne rfl) fun hmore => ih hmore hprefix

theorem chartsTag_eq : chartsTag = '<' :: chartsTag.tail := rfl

/-- Whether no opening tag begins in a text, whatever follows. -/
def clear : List Char → Bool
  | [] => true
  | c :: rest => (c != '<' || differs chartsTag (c :: rest)) && clear rest

/-- An opening tag begins with `<`. -/
theorem clear_of_not_mem {text : List Char} (h : '<' ∉ text) : clear text = true := by
  induction text with
  | nil => rfl
  | cons c rest ih =>
    rw [List.mem_cons, not_or] at h
    rw [clear, ih h.2, bne_iff_ne.2 (Ne.symm h.1)]
    rfl

/-- Nothing is found in a text where no opening tag begins. -/
theorem chartElements_clear {text : List Char} (h : clear text = true) (rest : List Char) :
    chartElements (text ++ rest) = chartElements rest := by
  induction text with
  | nil => rfl
  | cons c text ih =>
    rw [clear, Bool.and_eq_true, Bool.or_eq_true, bne_iff_ne] at h
    have htag : ¬ chartsTag <+: c :: (text ++ rest) := by
      rcases h.1 with hc | hdiffers
      · rw [chartsTag_eq, List.cons_prefix_cons]
        exact fun hprefix => hc hprefix.1.symm
      · exact not_prefix_of_differs hdiffers rest
    rw [List.cons_append, chartElements, if_neg htag, ih h.2]

/-- The element behind an opening tag is found, if its id and its data do not end it. -/
theorem chartElements_tag {id data : List Char} (hquote : '"' ∉ id) (hid : '<' ∉ id) (hdata : '<' ∉ data)
    (rest : List Char) :
    chartElements (chartsTag ++ (id ++ (['"', '>'] ++ (data ++ (scriptEnd ++ rest))))) =
      some ⟨String.ofList (Markup.decodeChars id), String.ofList data⟩ :: chartElements rest := by
  have hclear : clear chartsTag.tail = true := clear_of_not_mem (by decide)
  have hclose : clear scriptEnd = true := by decide
  have hend : scriptEnd = '<' :: scriptEnd.tail := rfl
  have helement : chartElement? (id ++ (['"', '>'] ++ (data ++ (scriptEnd ++ rest)))) =
      some ⟨String.ofList (Markup.decodeChars id), String.ofList data⟩ := by
    rw [chartElement?, cut?_append _ hquote, Option.bind_some]
    dsimp only
    rw [hend, cut?_append _ hdata]
    rfl
  -- an opening tag is found at the first place; no other one begins before the end of the element
  conv_lhs => rw [chartsTag_eq]
  rw [List.cons_append, chartElements, ← List.cons_append, ← chartsTag_eq,
    if_pos (List.prefix_append _ _), List.drop_left, helement,
    chartElements_clear hclear, chartElements_clear (clear_of_not_mem hid), chartElements_clear (by decide),
    chartElements_clear (clear_of_not_mem hdata), chartElements_clear hclose]

/-! ## Pieces -/

/-- Whether no opening tag begins in the fixed markup of a place. -/
def Slot.clear : Slot → Bool
  | .fixed markup => Html.clear markup.toList
  | _ => true

/-- A piece holds no opening tag if neither its fixed markup nor its insertion begins one. -/
theorem clear_render {piece : Piece} (hslot : piece.slot.clear = true) (hinserted : '<' ∉ piece.insertion) :
    clear piece.render = true := by
  cases piece with
  | fixed markup => exact hslot
  | text value => exact clear_of_not_mem hinserted
  | elementId value =>
    refine clear_of_not_mem ?_
    change '<' ∉ "id=\"".toList ++ Markup.escapeChars value.toList ++ ['"']
    simp only [List.mem_append, not_or]
    exact ⟨⟨by decide, hinserted⟩, by decide⟩
  | cell markup => exact clear_of_not_mem hinserted
  | data json => exact clear_of_not_mem hinserted

/-- The pieces bring these elements into a document, if no tag is inserted. -/
def Shows (ps : List Piece) (elements : List ChartElement) : Prop :=
  (∀ piece ∈ ps, '<' ∉ piece.insertion) → ∀ rest,
    chartElements (ps.flatMap Piece.render ++ rest) = elements.map some ++ chartElements rest

/-- The elements of pieces in a row stand in a row. -/
theorem Shows.append {first second : List Piece} {before after : List ChartElement} (h₁ : Shows first before)
    (h₂ : Shows second after) : Shows (first ++ second) (before ++ after) := by
  intro hinserted rest
  rw [List.forall_mem_append] at hinserted
  rw [List.flatMap_append, List.append_assoc, h₁ hinserted.1, h₂ hinserted.2, List.map_append, List.append_assoc]

/-- Pieces without elements change nothing behind others, -/
theorem Shows.append_clear {first second : List Piece} {elements : List ChartElement} (h₁ : Shows first elements)
    (h₂ : Shows second []) : Shows (first ++ second) elements := by
  have h := h₁.append h₂
  rwa [List.append_nil] at h

/-- and nothing in front of them. -/
theorem Shows.clear_append {first second : List Piece} {elements : List ChartElement} (h₁ : Shows first [])
    (h₂ : Shows second elements) : Shows (first ++ second) elements := h₁.append h₂

/-- Items bring their elements in their order. -/
theorem Shows.flatMap {α : Type} {items : List α} {f : α → List Piece} {elements : α → List ChartElement}
    (h : ∀ a ∈ items, Shows (f a) (elements a)) : Shows (items.flatMap f) (items.flatMap elements) := by
  induction items with
  | nil => exact fun _ _ => rfl
  | cons a items ih =>
    rw [List.forall_mem_cons] at h
    rw [List.flatMap_cons, List.flatMap_cons]
    exact h.1.append (ih h.2)

theorem Shows.flatMap_nil {α : Type} {f : α → List Piece} (h : ∀ a, Shows (f a) []) (items : List α) :
    Shows (items.flatMap f) [] := by
  have hall := @Shows.flatMap _ items f (fun _ => []) fun a _ => h a
  rwa [List.flatMap_eq_nil_iff.2 fun _ _ => rfl] at hall

/-- Pieces whose fixed markup begins no opening tag bring no element. -/
theorem shows_of_clear {ps : List Piece} (h : (ps.map Piece.slot).all Slot.clear = true) : Shows ps [] := by
  intro hinserted rest
  induction ps with
  | nil => rfl
  | cons piece ps ih =>
    rw [List.map_cons, List.all_cons, Bool.and_eq_true] at h
    rw [List.forall_mem_cons] at hinserted
    rw [List.flatMap_cons, List.append_assoc, chartElements_clear (clear_render h.1 hinserted.1), ih h.2 hinserted.2]

/-- The element with the data of the charts of a panel. -/
def dataElement (panel : String) (json : Json) : ChartElement :=
  ⟨panel, String.ofList (Markup.scriptSafe json.compactChars)⟩

/-- The script element of a panel is found, with the id of the panel and its data. -/
theorem shows_data (panel : String) (json : Json) :
    Shows [.fixed "<script type=\"application/json\" class=\"bm-charts\" data-panel=\"", .text panel,
      .fixed "\">", .data json, .fixed "</script>\n"] [dataElement panel json] := by
  intro _ rest
  have hinert := (Markup.inert_escapeChars panel.toList).1
  have hfeed : clear ['\n'] = true := by decide
  have hfound := @chartElements_tag (Markup.escapeChars panel.toList) (Markup.scriptSafe json.compactChars)
    (fun hmem => (hinert _ hmem).2.2.1 rfl) (fun hmem => (hinert _ hmem).1 rfl)
    (fun hmem => (Markup.mem_scriptSafe hmem).1 rfl) (['\n'] ++ rest)
  rw [Markup.decodeChars_escapeChars, String.ofList_toList, chartElements_clear hfeed] at hfound
  rw [List.map_singleton, List.singleton_append, dataElement, ← hfound]
  rw [List.flatMap_cons, List.flatMap_cons, List.flatMap_cons, List.flatMap_cons, List.flatMap_cons, List.flatMap_nil,
    List.append_nil, List.append_assoc, List.append_assoc, List.append_assoc, List.append_assoc]
  rfl

/-! ## Panels and pages -/

theorem shows_tableCell (column : Column) (c : Cell) : Shows (tableCell column c) [] := by
  apply shows_of_clear
  unfold tableCell
  cases column.className? <;> cases c.sort <;> rfl

theorem shows_tableRow (columns : List Column) (row : Row) : Shows (tableRow columns row) [] := by
  unfold tableRow
  refine .append_clear (.append_clear (shows_of_clear rfl) ?cells) (shows_of_clear rfl)
  case cells =>
    apply Shows.flatMap_nil
    rintro ⟨column, c⟩
    exact shows_tableCell column c

theorem shows_table (panel : String) (t : Table) : Shows (table panel t) [] := by
  unfold table
  refine .append_clear (.append_clear (.append_clear (.append_clear ?heading ?titles) ?between) ?rows) ?close
  case heading => exact shows_of_clear rfl
  case between => exact shows_of_clear rfl
  case close => exact shows_of_clear rfl
  case titles => exact Shows.flatMap_nil (fun _ => shows_of_clear rfl) t.columns
  case rows => exact Shows.flatMap_nil (shows_tableRow t.columns) t.rows

end BenchScope.Report.Html

namespace BenchScope.Report

/-- The data of the charts of a panel, if it is loaded. -/
def Body.chartData? : Body → Option Json
  | .loading => none
  | .failed _ => none
  | .loaded content => some (.array (content.charts.map Chart.scriptData))

/-- The element with the data of the charts of a panel, if it is loaded. -/
def Panel.chartElement? (p : Panel) : Option Html.ChartElement :=
  p.body.chartData?.map (Html.dataElement (panelId p.key))

end BenchScope.Report

namespace BenchScope.Report.Html

/-- A body brings an element only if it has charts. -/
theorem shows_body (panel : String) (b : Body) :
    Shows (body panel b) (b.chartData?.map (dataElement panel)).toList := by
  cases b with
  | loading => exact shows_of_clear rfl
  | failed message => exact shows_of_clear rfl
  | loaded content =>
    unfold body
    refine .append_clear (.clear_append (.append_clear (.append_clear (.append_clear ?heading ?tables) ?between)
      ?charts) ?data) ?code
    case heading => exact shows_of_clear rfl
    case between => exact shows_of_clear rfl
    case tables => exact Shows.flatMap_nil (shows_table panel) content.tables
    case charts => exact Shows.flatMap_nil (fun _ => shows_of_clear rfl) content.charts
    case data => exact shows_data panel _
    case code => exact Shows.flatMap_nil (fun _ => shows_of_clear rfl) content.code.toList

/-- A section brings the element of its panel, if the panel is loaded. -/
theorem shows_pageSection (s : Section) :
    Shows (pageSection s) (s.panel?.bind Panel.chartElement?).toList := by
  cases s with
  | separator => exact shows_of_clear rfl
  | panel p =>
    unfold pageSection panel
    refine .append_clear (.append_clear (.clear_append ?start (shows_body (panelId p.key) p.body)) ?close) ?line
    case start => exact shows_of_clear rfl
    case close => exact shows_of_clear rfl
    case line => exact shows_of_clear rfl

theorem shows_tocEntry (entry : TocEntry) : Shows (tocEntry entry) [] := by
  unfold tocEntry
  split
  · exact shows_of_clear rfl
  · exact shows_of_clear rfl

theorem shows_asset (base file : String) : Shows (asset base file) [] := by
  unfold asset
  split
  · exact shows_of_clear rfl
  · exact shows_of_clear rfl

/-- Style rules and scripts without angle brackets hold no opening tag. -/
theorem clear_fixedLines {lines : List String} (h : ∀ line ∈ lines, Markup.brackets line.toList = []) :
    (fixedLines lines).slot.clear = true := by
  have hbrackets := brackets_fixedLines h
  refine clear_of_not_mem fun hmem => ?_
  have hnone := List.filter_eq_nil_iff.1 hbrackets '<' hmem
  exact hnone rfl

theorem shows_cons_lines {lines : List String} {piece : Piece} {ps : List Piece}
    (hlines : ∀ line ∈ lines, Markup.brackets line.toList = [])
    (h : ((piece :: ps).map Piece.slot).all Slot.clear = true) : Shows (piece :: fixedLines lines :: ps) [] := by
  apply shows_of_clear
  rw [List.map_cons, List.all_cons] at h
  rw [List.map_cons, List.map_cons, List.all_cons, List.all_cons, clear_fixedLines hlines, Bool.true_and, h]

/-- A page brings the elements of its loaded panels into its document, in order. -/
theorem shows_pieces (page : Page) (base : String) :
    Shows (pieces page base) (page.panels.filterMap Panel.chartElement?) := by
  -- only the sections hold elements with chart data
  have hsections : Shows (page.sections.flatMap pageSection) (page.panels.filterMap Panel.chartElement?) := by
    have hall := @Shows.flatMap _ page.sections _ _ fun s _ => shows_pageSection s
    rwa [← List.filterMap_eq_flatMap_toList, ← List.filterMap_filterMap] at hall
  unfold pieces
  refine .append_clear (.append_clear (.append_clear (.clear_append (.append_clear (.append_clear (.append_clear
    (.append_clear ?head ?assets) ?style) ?toc) ?start) hsections) ?close) ?log) ?script
  case head => exact shows_of_clear rfl
  case assets => exact Shows.flatMap_nil (shows_asset base) assets
  case style => exact shows_cons_lines brackets_styleRules rfl
  case toc => exact Shows.flatMap_nil shows_tocEntry page.toc
  case start => exact shows_of_clear rfl
  case close => exact shows_of_clear rfl
  case log => exact Shows.flatMap_nil (fun _ => shows_of_clear rfl) page.debugLog.toList
  case script => exact shows_cons_lines brackets_scriptLines rfl

/-- What is confined to its place cannot begin a tag. -/
theorem Piece.Confined.not_mem_insertion {page : Page} {piece : Piece} (h : piece.Confined page) :
    '<' ∉ piece.insertion := by
  intro hmem
  cases piece with
  | fixed markup => cases hmem
  | text value => exact (h.2.1 _ hmem).1 rfl
  | elementId value => exact (h.2.1 _ hmem).1 rfl
  | cell markup => exact (h.2.1 _ hmem).1 rfl
  | data json => exact (h _ hmem).1 rfl

/-- The elements that are found in the document of a page are those of its loaded panels. -/
theorem chartElements_render {page : Page} (h : ∀ p ∈ page.panels, ∃ state, p.body = Session.panelBody state)
    (base : String) :
    chartElements (render page base).toList = (page.panels.filterMap Panel.chartElement?).map some := by
  have hinserted : ∀ piece ∈ pieces page base, '<' ∉ piece.insertion := fun _ hpiece =>
    (confined_of_mem_pieces (fun _ => Session.inert_of_states h) hpiece).not_mem_insertion
  have hshows := shows_pieces page base hinserted []
  rw [List.append_nil, chartElements, List.append_nil] at hshows
  rw [render, String.toList_ofList, renderChars, hshows]

end BenchScope.Report.Html

namespace BenchScope.Report

open Json Json.Read

/-! ## Charts read back -/

/-- What is read back for a bar: its texts, and what is read from the text of its height. -/
def Point.ReadAs (p : Point) (v : Json) : Prop :=
  ∃ y, parse (compact (ofFloat? p.height)) = .ok y ∧
    v = .object [("label", .string p.label), ("tooltip", .string p.tooltip), ("y", y)]

/-- What is read back for a chart: its texts, and its bars one by one. -/
def Chart.ReadAs (c : Chart) (v : Json) : Prop :=
  ∃ bars, List.Forall₂ Point.ReadAs c.points bars ∧
    v = .object [("column", .string c.column), ("observation", .string c.observation), ("points", .array bars),
      ("title", .string c.title)]

/-- Where each item has a value, a list of items has a list of values. -/
theorem exists_forall₂ {α β : Type} {r : α → β → Prop} (h : ∀ a, ∃ b, r a b) (items : List α) :
    ∃ values, List.Forall₂ r items values := by
  choose f hf using h
  exact ⟨items.map f, List.forall₂_map_right_iff.2 (List.forall₂_same.2 fun a _ => hf a)⟩

/-- A bar is read back as a label, a tooltip and a height. -/
theorem Point.exists_readsBack (depth : Nat) (p : Point) :
    ∃ v, p.ReadAs v ∧ ReadsBack (depth + 1) p.scriptData v := by
  obtain ⟨y, hy⟩ := readsBack_ofFloat? p.height
  refine ⟨_, ⟨y, parse_compact (hy maxDepth), rfl⟩,
    readsBack_object ?members (by decide : ["label", "tooltip", "y"].Nodup)⟩
  case members =>
    exact .cons ⟨rfl, readsBack_string _ _⟩ (.cons ⟨rfl, readsBack_string _ _⟩ (.cons ⟨rfl, hy depth⟩ .nil))

/-- A chart is read back as its texts and its bars. -/
theorem Chart.exists_readsBack (depth : Nat) (c : Chart) :
    ∃ v, c.ReadAs v ∧ ReadsBack (depth + 3) c.scriptData v := by
  obtain ⟨bars, hbars⟩ := exists_forall₂ (Point.exists_readsBack depth) c.points
  have hread : ReadsBack (depth + 2) (.array (c.points.map Point.scriptData)) (.array bars) :=
    readsBack_array (List.forall₂_map_left_iff.2 (hbars.imp fun _ _ h => h.2))
  refine ⟨_, ⟨bars, hbars.imp fun _ _ h => h.1, rfl⟩,
    readsBack_object ?members (by decide : ["column", "observation", "points", "title"].Nodup)⟩
  case members =>
    exact .cons ⟨rfl, readsBack_string _ _⟩ (.cons ⟨rfl, readsBack_string _ _⟩
      (.cons ⟨rfl, hread⟩ (.cons ⟨rfl, readsBack_string _ _⟩ .nil)))

/-- The data of charts is read back chart by chart. -/
theorem exists_parse_charts (charts : List Chart) :
    ∃ series, parse (compact (.array (charts.map Chart.scriptData))) = .ok (.array series) ∧
      List.Forall₂ Chart.ReadAs charts series := by
  -- the brackets around the charts and the three levels in them are within the limit of the reader
  obtain ⟨series, hseries⟩ := exists_forall₂ (Chart.exists_readsBack 123) charts
  refine ⟨series, parse_compact (readsBack_array ?_), hseries.imp fun _ _ h => h.1⟩
  exact List.forall₂_map_left_iff.2 (hseries.imp fun _ _ h => h.2)

open Markup Grammar in
/-- The replacement of characters in a script element keeps every JSON document: it stays one, without the
characters, with the same meaning, and it is read alike. So in the document of a page the elements with chart
data are those of the loaded panels, each ends behind its data, and the data is read as the charts of the panel,
just as before the replacement: five of them, with all labels, heights and tooltips. -/
theorem embedded_json_preserved :
    (∀ json : String,
      (∀ c ∈ scriptSafe json.toList, c ∉ scripted) ∧
      (IsDocument Value json → IsDocument Value (String.ofList (scriptSafe json.toList))) ∧
      ∀ v,
        (IsDocument (Denotes · v) json → IsDocument (Denotes · v) (String.ofList (scriptSafe json.toList))) ∧
        (parse json = .ok v → parse (String.ofList (scriptSafe json.toList)) = .ok v)) ∧
    ∀ (page : Page) (base : String), (∀ p ∈ page.panels, ∃ state, p.body = Session.panelBody state) →
      Html.chartElements (Html.render page base).toList = (page.panels.filterMap Panel.chartElement?).map some ∧
      ∀ p ∈ page.panels, ∀ results code, p.body = Session.panelBody (.loaded results code) →
        ∃ element series, p.chartElement? = some element ∧ element.panel = panelId p.key ∧
          parse element.data = .ok (.array series) ∧
          parse (compact (.array ((charts results).map Chart.scriptData))) = .ok (.array series) ∧
          series.length = 5 ∧ List.Forall₂ Chart.ReadAs (charts results) series := by
  refine ⟨fun json => ⟨?absent, fun h => ?form, fun v => ⟨fun h => ?meaning, parse_scriptSafe⟩⟩,
    fun page base hstates => ⟨Html.chartElements_render hstates base, ?data⟩⟩
  case absent =>
    intro c hc
    obtain ⟨h₁, h₂, h₃, h₄⟩ := mem_scriptSafe hc
    simp [scripted, h₁, h₂, h₃, h₄]
  case form => exact IsDocument.scriptSafe (fun _ hvalue => hvalue.scriptSafe) h
  case meaning => exact IsDocument.scriptSafe (fun _ hvalue => hvalue.scriptSafe) h
  case data =>
    intro p _ results code hbody
    obtain ⟨series, hparse, hseries⟩ := exists_parse_charts (charts results)
    have helement : p.chartElement? = some (Html.dataElement (panelId p.key)
        (.array ((charts results).map Chart.scriptData))) := by
      rw [Panel.chartElement?, hbody]
      rfl
    -- the data of the element is the written list of charts, made safe for a script
    have hembedded := parse_scriptSafe hparse
    rw [compact, String.toList_ofList] at hembedded
    exact ⟨_, series, helement, rfl, hembedded, hparse, hseries.length_eq.symm, hseries⟩

/-- Neither a backslash in front of a replaced character nor a name that would end the element does harm. -/
theorem embedded_json_preserved_hostile :
    parse "\"\\\\<'&\"" = .ok (.string "\\<'&") ∧
    parse (String.ofList (Markup.scriptSafe "\"\\\\<'&\"".toList)) = .ok (.string "\\<'&") ∧
    ∃ element series,
      Html.chartElements (Html.render ((Session.showing "</script>'&\"").page .anchor) "").toList = [some element] ∧
      element.panel = panelId "</script>'&\"" ∧ parse element.data = .ok (.array series) ∧ series.length = 5 := by
  have hwritten : compact (.string "\\<'&") = "\"\\\\<'&\"" := by decide
  have htext : parse "\"\\\\<'&\"" = .ok (.string "\\<'&") := by
    rw [← hwritten]
    exact parse_compact (readsBack_string _ _)
  refine ⟨htext, ((embedded_json_preserved.1 _).2.2 _).2 htext, ?_⟩
  have hpanels : ((Session.showing "</script>'&\"").page .anchor).panels =
      (Session.showing "</script>'&\"").panelViews := panels_assemble _ _ _ _
  obtain ⟨hfound, hdata⟩ := embedded_json_preserved.2 ((Session.showing "</script>'&\"").page .anchor) ""
    fun _ => Session.body_of_mem_panels
  rw [hpanels, Session.panelViews_showing] at hfound hdata
  obtain ⟨element, series, helement, hpanel, hparse, -, hlength, -⟩ := hdata _ List.mem_cons_self _ _ rfl
  refine ⟨element, series, ?_, hpanel, hparse, hlength⟩
  rw [hfound, List.filterMap_cons_some helement]
  rfl

end BenchScope.Report
