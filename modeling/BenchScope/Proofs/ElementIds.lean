import BenchScope.Proofs.PageAssembly
import Mathlib.Data.List.Nodup

/-!
# Ids of elements

The id of a panel is made of its key, the ids of the tables and canvases in it of the panel's id and an
ending. A reader of the document finds the elements with an id that the page has, in this order. Their
ids are different unless a benchmark is named like another one with one of the endings behind it; and
where they are different, a link to a panel and the script that draws a chart find what they look for.
-/

namespace BenchScope.Markup

/-! ## Reading tags -/

/-- A place in markup, as a reader from left to right gets to it: outside of tags, in the name of a tag,
between attributes behind what was read of one, or in a quoted value. The value of an id is kept. -/
inductive Place where
  | outside
  | tagName (tag : List Char)
  | inside (tag word : List Char)
  | value (tag : List Char)
  | idValue (tag id : List Char)
  deriving DecidableEq

namespace Place

/-- The place behind a character. -/
def next : Place → Char → Place
  | .outside, c => if c = '<' then .tagName [] else .outside
  | .tagName tag, c =>
    if c = '>' then .outside
    else if c = ' ' then .inside tag []
    else .tagName (tag ++ [c])
  | .inside tag word, c =>
    if c = '>' then .outside
    else if c = ' ' then .inside tag []
    else if c = '"' then (if word = ['i', 'd', '='] then .idValue tag [] else .value tag)
    else .inside tag (word ++ [c])
  | .value tag, c => if c = '"' then .inside tag [] else .value tag
  | .idValue tag id, c => if c = '"' then .inside tag [] else .idValue tag (id ++ [c])

/-- The tag and the id that end with a character. -/
def found? : Place → Char → Option (List Char × List Char)
  | .idValue tag id, c => if c = '"' then some (tag, id) else none
  | _, _ => none

/-- The place behind a text. -/
def after (place : Place) (text : List Char) : Place := text.foldl next place

/-- The tags and ids that end in a text. -/
def found (place : Place) : List Char → List (List Char × List Char)
  | [] => []
  | c :: rest => (place.found? c).toList ++ (place.next c).found rest

/-- A reader goes on behind a text from where the text has led. -/
theorem after_append (place : Place) (first second : List Char) :
    place.after (first ++ second) = (place.after first).after second := List.foldl_append

theorem found_append (place : Place) (first second : List Char) :
    place.found (first ++ second) = place.found first ++ (place.after first).found second := by
  induction first generalizing place with
  | nil => rfl
  | cons c rest ih =>
    rw [List.cons_append, found, found, ih, List.append_assoc]
    rfl

/-- A text whose characters lead from a place to itself leads nowhere and finds nothing. -/
theorem stays {place : Place} {text : List Char} (hnext : ∀ c ∈ text, place.next c = place)
    (hfound : ∀ c, place.found? c = none) : place.after text = place ∧ place.found text = [] := by
  induction text with
  | nil => exact ⟨rfl, rfl⟩
  | cons c rest ih =>
    have hc := hnext c List.mem_cons_self
    obtain ⟨hafter, hrest⟩ := ih fun d hd => hnext d (List.mem_cons_of_mem c hd)
    refine ⟨?_, ?_⟩
    · show (place.next c).after rest = place
      rw [hc, hafter]
    · rw [found, hfound, hc, hrest]
      rfl

/-- Outside of tags, a text without `<` leads nowhere. -/
theorem stays_outside {text : List Char} (h : ∀ c ∈ text, c ≠ '<') :
    outside.after text = outside ∧ outside.found text = [] :=
  stays (fun c hc => if_neg (h c hc)) fun _ => rfl

/-- In a quoted value, a text without a quote leads nowhere. -/
theorem stays_value (tag : List Char) {text : List Char} (h : ∀ c ∈ text, c ≠ '"') :
    (value tag).after text = value tag ∧ (value tag).found text = [] :=
  stays (fun c hc => if_neg (h c hc)) fun _ => rfl

/-- The value of an id is read up to its quote. -/
theorem reads_id (tag id : List Char) {text : List Char} (h : ∀ c ∈ text, c ≠ '"') :
    (idValue tag id).after (text ++ ['"']) = inside tag [] ∧
      (idValue tag id).found (text ++ ['"']) = [(tag, id ++ text)] := by
  induction text generalizing id with
  | nil =>
    rw [List.append_nil]
    exact ⟨rfl, rfl⟩
  | cons c rest ih =>
    have hc := h c List.mem_cons_self
    have hnext : (idValue tag id).next c = idValue tag (id ++ [c]) := if_neg hc
    have hfound : (idValue tag id).found? c = none := if_neg hc
    obtain ⟨hafter, hrest⟩ := ih (id ++ [c]) fun d hd => h d (List.mem_cons_of_mem c hd)
    refine ⟨?_, ?_⟩
    · show ((idValue tag id).next c).after (rest ++ ['"']) = inside tag []
      rw [hnext, hafter]
    · rw [List.cons_append, found, hnext, hfound, hrest, List.append_assoc]
      rfl

end Place

/-- The elements of a document that have an id, in order: their tags, and their ids. -/
def identified (document : String) : List (String × String) :=
  (Place.outside.found document.toList).map fun element =>
    (String.ofList element.1, decode (String.ofList element.2))

end BenchScope.Markup

namespace BenchScope.Report.Html

open Markup

/-! ## Reading pieces -/

/-- Whether text may stand in a place. -/
def takesText : Place → Bool
  | .outside => true
  | .value _ => true
  | _ => false

/-- Where a piece leads to from a place, and which elements with an id it opens. Fixed markup is read;
everything else has to stand where it leads nowhere. -/
def Piece.walk (place : Place) : Piece → Option (Place × List (String × String))
  | .fixed markup =>
    if place.found markup.toList = [] then some (place.after markup.toList, []) else none
  | .text _ => if takesText place then some (place, []) else none
  | .cell _ => if takesText place then some (place, []) else none
  | .data _ => if place = .outside then some (place, []) else none
  | .elementId value =>
    match place with
    | .inside tag [] => some (place, [(String.ofList tag, value)])
    | _ => none

/-- Where pieces lead to from a place, and which elements with an id they open. -/
def walk : Place → List Piece → Option (Place × List (String × String))
  | place, [] => some (place, [])
  | place, piece :: rest =>
    (piece.walk place).bind fun step =>
      (walk step.1 rest).map fun later => (later.1, step.2 ++ later.2)

/-- Pieces lead somewhere if the first does, and the others do from there. -/
theorem walk_cons_eq_some_iff {start stop : Place} {piece : Piece} {rest : List Piece}
    {elements : List (String × String)} :
    walk start (piece :: rest) = some (stop, elements) ↔
      ∃ middle first others, piece.walk start = some (middle, first) ∧
        walk middle rest = some (stop, others) ∧ elements = first ++ others := by
  simp only [walk, Option.bind_eq_some_iff, Option.map_eq_some_iff, Prod.exists, Prod.mk.injEq]
  constructor
  · rintro ⟨middle, first, hpiece, last, others, hrest, rfl, rfl⟩
    exact ⟨middle, first, others, hpiece, hrest, rfl⟩
  · rintro ⟨middle, first, others, hpiece, hrest, rfl⟩
    exact ⟨middle, first, hpiece, stop, others, hrest, rfl, rfl⟩

/-- An element as a reader finds it. -/
def written (element : String × String) : List Char × List Char :=
  (element.1.toList, escapeChars element.2.toList)

/-- Inert text leads nowhere where text may stand. -/
theorem stays_of_inert {place : Place} {text : List Char} (hplace : takesText place = true)
    (h : Inert text) : place.after text = place ∧ place.found text = [] := by
  cases place with
  | outside => exact Place.stays_outside fun c hc => (h.1 c hc).1
  | value tag => exact Place.stays_value tag fun c hc => (h.1 c hc).2.2.1
  | tagName tag => cases hplace
  | inside tag word => cases hplace
  | idValue tag id => cases hplace

/-- An id is read between its quotes. -/
theorem reads_elementId (tag : List Char) (value : String) :
    (Place.inside tag []).after (Piece.elementId value).render = .inside tag [] ∧
      (Place.inside tag []).found (Piece.elementId value).render =
        [(tag, escapeChars value.toList)] := by
  have hopens : (Place.inside tag []).after "id=\"".toList = .idValue tag [] := rfl
  have hnothing : (Place.inside tag []).found "id=\"".toList = [] := rfl
  have hquotes : ∀ c ∈ escapeChars value.toList, c ≠ '"' :=
    fun c hc => ((inert_escapeChars value.toList).1 c hc).2.2.1
  obtain ⟨hafter, hfound⟩ := Place.reads_id tag [] hquotes
  rw [Piece.render, List.append_assoc, Place.after_append, Place.found_append, hopens, hnothing, hafter,
    hfound]
  exact ⟨rfl, rfl⟩

/-- A confined piece is read as its walk says. -/
theorem Piece.Confined.walk_sound {page : Page} {piece : Piece} (hconfined : piece.Confined page)
    {start stop : Place} {elements : List (String × String)}
    (h : piece.walk start = some (stop, elements)) :
    start.after piece.render = stop ∧ start.found piece.render = elements.map written := by
  cases piece with
  | fixed markup =>
    obtain ⟨hnothing, hstep⟩ := Option.ite_none_right_eq_some.1 h
    cases hstep
    exact ⟨rfl, hnothing⟩
  | text value =>
    obtain ⟨hplace, hstep⟩ := Option.ite_none_right_eq_some.1 h
    cases hstep
    exact stays_of_inert hplace hconfined.2
  | cell markup =>
    obtain ⟨hplace, hstep⟩ := Option.ite_none_right_eq_some.1 h
    cases hstep
    exact stays_of_inert hplace hconfined.2
  | data json =>
    obtain ⟨hplace, hstep⟩ := Option.ite_none_right_eq_some.1 h
    cases hstep
    rw [hplace]
    exact Place.stays_outside fun c hc => (hconfined c hc).1
  -- an id may stand between the attributes of a tag only
  | elementId value =>
    unfold Piece.walk at h
    dsimp only at h
    split at h
    · rename_i tag
      cases h
      rw [List.map_singleton, written, String.toList_ofList]
      exact reads_elementId tag value
    · cases h

/-- Confined pieces are read as their walk says. -/
theorem walk_sound {page : Page} {ps : List Piece} (hconfined : ∀ piece ∈ ps, piece.Confined page)
    {start stop : Place} {elements : List (String × String)}
    (h : walk start ps = some (stop, elements)) :
    start.after (ps.flatMap Piece.render) = stop ∧
      start.found (ps.flatMap Piece.render) = elements.map written := by
  induction ps generalizing start elements with
  | nil =>
    cases h
    exact ⟨rfl, rfl⟩
  | cons piece rest ih =>
    obtain ⟨middle, first, others, hpiece, hrest, rfl⟩ := walk_cons_eq_some_iff.1 h
    obtain ⟨hafter, hfound⟩ := (hconfined piece List.mem_cons_self).walk_sound hpiece
    obtain ⟨hlast, hlater⟩ := ih (fun p hp => hconfined p (List.mem_cons_of_mem piece hp)) hrest
    rw [List.flatMap_cons, Place.after_append, Place.found_append, hafter, hfound, hlast, hlater,
      List.map_append]
    exact ⟨rfl, rfl⟩

/-! ## The parts of a document -/

/-- The pieces stand outside of tags, open these elements, and close every tag they open. -/
def Opens (ps : List Piece) (elements : List (String × String)) : Prop :=
  walk .outside ps = some (.outside, elements)

/-- Pieces in a row lead where the second ones lead from the end of the first. -/
theorem walk_append {first second : List Piece} {start middle stop : Place}
    {found others : List (String × String)} (h₁ : walk start first = some (middle, found))
    (h₂ : walk middle second = some (stop, others)) :
    walk start (first ++ second) = some (stop, found ++ others) := by
  induction first generalizing start found with
  | nil =>
    cases h₁
    exact h₂
  | cons piece rest ih =>
    obtain ⟨next, opened, later, hpiece, hrest, rfl⟩ := walk_cons_eq_some_iff.1 h₁
    rw [List.cons_append, walk_cons_eq_some_iff]
    exact ⟨next, opened, later ++ others, hpiece, ih hrest, List.append_assoc _ _ _⟩

/-- Pieces in a row open the elements of both parts. -/
theorem Opens.append {first second : List Piece} {found others : List (String × String)}
    (h₁ : Opens first found) (h₂ : Opens second others) : Opens (first ++ second) (found ++ others) :=
  walk_append h₁ h₂

/-- Pieces that open no element stand behind others. -/
theorem Opens.append_quiet {first second : List Piece} {found : List (String × String)}
    (h₁ : Opens first found) (h₂ : Opens second []) : Opens (first ++ second) found := by
  have h := h₁.append h₂
  rwa [List.append_nil] at h

/-- Items in a row open the elements of all of them. -/
theorem Opens.flatMap {α : Type} {items : List α} {f : α → List Piece}
    {found : α → List (String × String)} (h : ∀ a ∈ items, Opens (f a) (found a)) :
    Opens (items.flatMap f) (items.flatMap found) := by
  induction items with
  | nil => rfl
  | cons a rest ih =>
    rw [List.flatMap_cons, List.flatMap_cons]
    exact (h a List.mem_cons_self).append (ih fun b hb => h b (List.mem_cons_of_mem a hb))

theorem Opens.flatMap_quiet {α : Type} {items : List α} {f : α → List Piece}
    (h : ∀ a ∈ items, Opens (f a) []) : Opens (items.flatMap f) [] := by
  have hall := Opens.flatMap h
  rwa [List.flatMap_eq_nil_iff.2 fun _ _ => rfl] at hall

/-- Items that open one element each. -/
theorem Opens.map {α : Type} {items : List α} {f : α → List Piece} {found : α → String × String}
    (h : ∀ a ∈ items, Opens (f a) [found a]) : Opens (items.flatMap f) (items.map found) := by
  rw [List.map_eq_flatMap]
  exact Opens.flatMap h

theorem opens_tableCell (column : Column) (c : Cell) : Opens (tableCell column c) [] := by
  unfold tableCell
  cases column.className? <;> cases c.sort <;> rfl

theorem opens_tableRow (columns : List Column) (row : Row) : Opens (tableRow columns row) [] := by
  unfold tableRow
  refine .append_quiet (.append_quiet ?start ?cells) ?close
  case start => rfl
  case cells => exact .flatMap_quiet fun pair _ => opens_tableCell pair.1 pair.2
  case close => rfl

/-- A table is one element with an id, and no cell of it has one. -/
theorem opens_table (panel : String) (t : Table) :
    Opens (table panel t) [("table", panel ++ "-table" ++ t.suffix)] := by
  unfold table
  refine .append_quiet (.append_quiet (.append_quiet (.append_quiet ?heading ?titles) ?between) ?rows)
    ?close
  case heading => rfl
  case titles => exact .flatMap_quiet fun _ _ => by rfl
  case between => rfl
  case rows => exact .flatMap_quiet fun row _ => opens_tableRow t.columns row
  case close => rfl

end BenchScope.Report.Html

namespace BenchScope.Report

/-! ## The elements of a page -/

/-- The elements with an id that do not belong to a panel. -/
inductive Frame where
  | title
  | contents
  | results
  | tooltip
  | log
  deriving DecidableEq

/-- The elements with an id inside of a panel. -/
inductive Part where
  | table (suffix : String)
  | canvas (column : String)
  deriving DecidableEq

/-- An element with an id. -/
inductive Element where
  | frame (frame : Frame)
  | panel (key : String)
  | part (key : String) (part : Part)
  deriving DecidableEq

def Frame.tag : Frame → String
  | .title => "h1"
  | .contents => "ul"
  | .results => "div"
  | .tooltip => "div"
  | .log => "pre"

def Frame.elementId : Frame → String
  | .title => "heading-title"
  | .contents => "toc"
  | .results => "bm-results"
  | .tooltip => "bm-tooltip"
  | .log => "dbg"

def Part.tag : Part → String
  | .table _ => "table"
  | .canvas _ => "canvas"

def Element.tag : Element → String
  | .frame f => f.tag
  | .panel _ => "div"
  | .part _ p => p.tag

def Element.elementId : Element → String
  | .frame f => f.elementId
  | .panel key => panelId key
  | .part key (.table suffix) => panelId key ++ "-table" ++ suffix
  | .part key (.canvas column) => panelId key ++ "-" ++ column

/-- The tag and the id of an element. -/
def Element.mark (e : Element) : String × String := (e.tag, e.elementId)

/-- The tables and canvases of a panel. -/
def Body.parts : Body → List Part
  | .loading => []
  | .failed _ => []
  | .loaded content =>
    content.tables.map (fun t => .table t.suffix) ++ content.charts.map fun c => .canvas c.column

def Panel.elements (p : Panel) : List Element := .panel p.key :: p.body.parts.map (.part p.key)

/-- The elements of a page that have an id, in the order of the document. -/
def Page.elements (page : Page) : List Element :=
  [.frame .title, .frame .contents, .frame .results] ++ page.panels.flatMap Panel.elements ++
    .frame .tooltip :: page.debugLog.toList.map fun _ => .frame .log

/-- The first element of a page with an id, which is the one that a link or a script gets. -/
def Page.lookup (page : Page) (id : String) : Option Element :=
  page.elements.find? fun e => e.elementId = id

end BenchScope.Report

namespace BenchScope.Report.Html

open Markup

/-- A body opens its parts, whose ids begin with that of the panel. -/
theorem opens_body (key : String) (b : Body) :
    Opens (body (panelId key) b) (b.parts.map fun part => (Element.part key part).mark) := by
  cases b with
  | loading => rfl
  | failed message => rfl
  | loaded content =>
    unfold body Body.parts
    rw [List.map_append, List.map_map, List.map_map]
    refine .append_quiet (.append_quiet (.append (.append_quiet ?tables ?between) ?charts) ?data) ?code
    case tables =>
      have hheading : Opens [.fixed "<h3>Result tables</h3>\n"] [] := rfl
      exact hheading.append (.map fun t _ => opens_table (panelId key) t)
    case between => rfl
    case charts => exact .map fun _ _ => by rfl
    case data => rfl
    case code => cases content.code <;> rfl

/-- A panel opens itself and its parts. -/
theorem opens_panel (p : Panel) : Opens (panel p) (p.elements.map Element.mark) := by
  have hstart : Opens [.fixed "<div ", .elementId (panelId p.key), .fixed ">\n<h2>", .text p.title,
      .fixed "</h2>\n"] [(Element.panel p.key).mark] := rfl
  have hbody : Opens (body (panelId p.key) p.body)
      ((p.body.parts.map (.part p.key)).map Element.mark) := by
    rw [List.map_map]
    exact opens_body p.key p.body
  have hclose : Opens [.fixed "</div>"] [] := rfl
  exact (hstart.append hbody).append_quiet hclose

/-- The elements of a section. -/
def sectionElements : Section → List Element
  | .panel p => p.elements
  | .separator => []

/-- A section opens the elements of its panel. -/
theorem opens_pageSection (s : Section) :
    Opens (pageSection s) ((sectionElements s).map Element.mark) := by
  cases s with
  | separator => rfl
  | panel p =>
    have hline : Opens [.fixed "\n"] [] := rfl
    exact (opens_panel p).append_quiet hline

theorem opens_tocEntry (entry : TocEntry) : Opens (tocEntry entry) [] := by
  unfold tocEntry
  split <;> rfl

theorem opens_asset (base file : String) : Opens (asset base file) [] := by
  unfold asset
  split <;> rfl

/-- Style rules and script stand outside of tags. -/
theorem walk_fixedLines {lines : List String} (h : ∀ line ∈ lines, Markup.brackets line.toList = []) :
    (fixedLines lines).walk .outside = some (.outside, []) := by
  have hbrackets : Markup.brackets (String.join (lines.map (· ++ "\n"))).toList = [] :=
    brackets_fixedLines h
  have hplain : ∀ c ∈ (String.join (lines.map (· ++ "\n"))).toList, c ≠ '<' := by
    rintro c hc rfl
    exact List.filter_eq_nil_iff.1 hbrackets '<' hc rfl
  obtain ⟨hafter, hfound⟩ := Place.stays_outside hplain
  rw [fixedLines, Piece.walk, if_pos hfound, hafter]

/-- Style rules and scripts may stand among pieces outside of tags. -/
theorem opens_cons_lines {piece : Piece} {lines : List String} {rest : List Piece}
    {found : List (String × String)} (hpiece : piece.walk .outside = some (.outside, []))
    (hlines : ∀ line ∈ lines, Markup.brackets line.toList = []) (h : Opens rest found) :
    Opens (piece :: fixedLines lines :: rest) found := by
  refine walk_cons_eq_some_iff.2 ⟨.outside, [], found, hpiece, ?_, rfl⟩
  exact walk_cons_eq_some_iff.2 ⟨.outside, [], found, walk_fixedLines hlines, h, rfl⟩

/-- The elements of the sections are those of the panels. -/
theorem flatMap_sectionElements (page : Page) :
    page.sections.flatMap sectionElements = page.panels.flatMap Panel.elements := by
  unfold Page.panels
  induction page.sections with
  | nil => rfl
  | cons s rest ih =>
    cases s with
    | separator => exact ih
    | panel p =>
      rw [List.flatMap_cons, ih]
      rfl

/-- The pieces of a page open its elements. -/
theorem opens_pieces (page : Page) (base : String) :
    Opens (pieces page base) (page.elements.map Element.mark) := by
  have hsections : Opens (page.sections.flatMap pageSection)
      ((page.panels.flatMap Panel.elements).map Element.mark) := by
    rw [← flatMap_sectionElements, List.map_flatMap]
    exact .flatMap fun s _ => opens_pageSection s
  have hlog : Opens (page.debugLog.toList.flatMap debugLog)
      ((page.debugLog.toList.map fun _ => Element.frame .log).map Element.mark) := by
    rw [List.map_map]
    exact .map fun _ _ => by rfl
  -- the elements of the page in the order in which the pieces stand
  have hmarks : page.elements.map Element.mark =
      ([] ++ [(Element.frame .title).mark, (Element.frame .contents).mark]) ++
        [(Element.frame .results).mark] ++ (page.panels.flatMap Panel.elements).map Element.mark ++
        [(Element.frame .tooltip).mark] ++
        (page.debugLog.toList.map fun _ => Element.frame .log).map Element.mark := by
    simp only [Page.elements, List.map_append, List.map_cons, List.nil_append, List.cons_append,
      List.append_assoc]
  rw [hmarks]
  unfold pieces
  refine .append_quiet (.append (.append (.append ?frame hsections) ?tooltip) hlog) ?script
  case frame =>
    refine .append (.append_quiet (.append (.append_quiet ?head ?assets) ?style) ?toc) ?start
    case head => rfl
    case assets => exact .flatMap_quiet fun file _ => opens_asset base file
    case style => exact opens_cons_lines rfl brackets_styleRules rfl
    case toc => exact .flatMap_quiet fun entry _ => opens_tocEntry entry
    case start => rfl
  case tooltip => rfl
  case script => exact opens_cons_lines rfl brackets_scriptLines rfl

/-- A reader of the document of a page finds the elements of the page. -/
theorem identified_render {page : Page}
    (hcells : ∀ c ∈ page.cells, Markup.Inert c.display.toList) (base : String) :
    identified (render page base) = page.elements.map Element.mark := by
  have hconfined : ∀ piece ∈ pieces page base, piece.Confined page :=
    fun _ => confined_of_mem_pieces hcells
  obtain ⟨-, hfound⟩ := walk_sound hconfined (opens_pieces page base)
  rw [identified, render, String.toList_ofList, renderChars, hfound, List.map_map, List.map_map]
  apply List.map_congr_left
  intro e _
  show (String.ofList e.tag.toList, decode (String.ofList (escapeChars e.elementId.toList))) = e.mark
  rw [String.ofList_toList, decode, String.toList_ofList, decodeChars_escapeChars, String.ofList_toList]
  rfl

end BenchScope.Report.Html

namespace BenchScope.Report

/-! ## Elements with the same id -/

/-- What stands in the id of a part behind the id of its panel and a dash. -/
def Part.word : Part → String
  | .table suffix => "table" ++ suffix
  | .canvas column => column

theorem elementId_part (key : String) (p : Part) :
    (Element.part key p).elementId = panelId key ++ ("-" ++ p.word) := by
  cases p with
  | canvas column => exact String.append_assoc
  | table suffix =>
    have hdash : "-" ++ "table" = "-table" := by decide
    show panelId key ++ "-table" ++ suffix = panelId key ++ ("-" ++ ("table" ++ suffix))
    rw [← hdash, String.append_assoc, String.append_assoc]

/-- Panels of different keys have different ids. -/
theorem panelId_inj {first second : String} : panelId first = panelId second ↔ first = second :=
  String.append_right_inj _

/-- The ids of the frame are different from each other. -/
theorem Frame.elementId_inj {f g : Frame} (h : f.elementId = g.elementId) : f = g := by
  have hids : ([.title, .contents, .results, .tooltip, .log].map Frame.elementId).Nodup := by decide
  have hall : ∀ f : Frame, f ∈ [.title, .contents, .results, .tooltip, .log] := by
    intro f
    cases f <;> decide
  exact List.inj_on_of_nodup_map hids (hall f) (hall g) h

/-- No id of the frame begins like that of a panel. -/
theorem Frame.elementId_ne (f : Frame) (rest : String) : f.elementId ≠ "bm-results-" ++ rest := by
  intro h
  have hprefix : "bm-results-".toList <+: f.elementId.toList := by
    rw [h, String.toList_append]
    exact List.prefix_append _ _
  cases f <;> revert hprefix <;> decide

/-- No panel and no part of one has an id of the frame. -/
theorem eq_frame_of_elementId {f : Frame} {e : Element} (h : f.elementId = e.elementId) :
    e = .frame f := by
  cases e with
  | frame g => rw [Frame.elementId_inj h]
  | panel key => exact absurd h (f.elementId_ne key)
  | part key p =>
    rw [elementId_part, panelId, String.append_assoc] at h
    exact absurd h (f.elementId_ne _)

/-- A text can be split at its last dash in one way only. -/
theorem append_dash_inj {first second left right : List Char} (hleft : '-' ∉ left) (hright : '-' ∉ right)
    (h : first ++ '-' :: left = second ++ '-' :: right) : first = second ∧ left = right := by
  rcases List.append_eq_append_iff.1 h with ⟨middle, rfl, hmiddle⟩ | ⟨middle, rfl, hmiddle⟩
  · cases middle with
    | nil => exact ⟨(List.append_nil first).symm, (List.cons.inj hmiddle).2⟩
    | cons c rest =>
      -- the dash of the second split stands in what is behind that of the first
      rw [(List.cons.inj hmiddle).2] at hleft
      simp at hleft
  · cases middle with
    | nil => exact ⟨List.append_nil second, (List.cons.inj hmiddle).2.symm⟩
    | cons c rest =>
      rw [(List.cons.inj hmiddle).2] at hright
      simp at hright

/-- The parts of a panel that shows results. -/
def resultParts : List Part :=
  [.table prettyLayout.suffix, .table normalizedLayout.suffix] ++
    charted.map fun entry => .canvas entry.1.normalizedColumn

/-- The parts of one panel have different words. -/
theorem nodup_words : (resultParts.map Part.word).Nodup := by decide +kernel

/-- No word of a part holds a dash, so it stands behind the last dash of the id. -/
theorem dash_not_mem_word : ∀ p ∈ resultParts, '-' ∉ p.word.toList := by decide +kernel

/-- The ids of parts of results tell the panel and the part. -/
theorem part_eq_of_elementId {key other : String} {p q : Part} (hp : p ∈ resultParts)
    (hq : q ∈ resultParts) (h : (Element.part key p).elementId = (Element.part other q).elementId) :
    Element.part key p = Element.part other q := by
  rw [elementId_part, elementId_part, panelId, panelId, String.append_assoc, String.append_assoc,
    String.append_right_inj] at h
  have hchars := congrArg String.toList h
  simp only [String.toList_append] at hchars
  obtain ⟨hkey, hword⟩ :=
    append_dash_inj (dash_not_mem_word p hp) (dash_not_mem_word q hq) hchars
  have hparts : p = q := List.inj_on_of_nodup_map nodup_words hp hq (String.toList_inj.1 hword)
  rw [String.toList_inj.1 hkey, hparts]

/-- What the ids of parts add to the id of their panel. -/
def endings : List String :=
  ["-table_pretty", "-table_normalized", "-bytes_per_second_normalized",
   "-items_per_second_normalized", "-iterations_normalized", "-real_time_normalized",
   "-cpu_time_normalized"]

/-- The endings that make keys clash are those of the parts. -/
theorem endings_eq : endings = resultParts.map fun p => "-" ++ p.word := by decide +kernel

/-- A benchmark on the page has the key of another one whose results are shown, with one of the endings
behind it. -/
def Page.Clashes (page : Page) : Prop :=
  ∃ p ∈ page.panels, ∃ q ∈ page.panels, (∃ content, p.body = .loaded content) ∧
    ∃ ending ∈ endings, q.key = p.key ++ ending

/-! ## The elements of a page with results -/

/-- Whatever the results are, they are shown by the same tables and canvases. -/
theorem parts_ofResults (results : Normalized) (code : Option Code) :
    (Body.loaded (.ofResults results code)).parts = resultParts := rfl

/-- Only a loaded panel has parts, and it has those of results. -/
theorem mem_parts_panelBody {state : PanelState} {part : Part} :
    part ∈ (Session.panelBody state).parts ↔
      (∃ content, Session.panelBody state = .loaded content) ∧ part ∈ resultParts := by
  cases state with
  | loading results source => simp [Session.panelBody, Body.parts]
  | failed message => simp [Session.panelBody, Body.parts]
  | loaded results code =>
    show part ∈ (Body.loaded (.ofResults results code)).parts ↔ _
    rw [parts_ofResults]
    exact ⟨fun h => ⟨⟨_, rfl⟩, h⟩, fun h => h.2⟩

theorem nodup_parts_panelBody (state : PanelState) : (Session.panelBody state).parts.Nodup := by
  cases state with
  | loading results source => exact List.nodup_nil
  | failed message => exact List.nodup_nil
  | loaded results code => exact List.Nodup.of_map Part.word nodup_words

/-- The key of the panel that an element belongs to. -/
def Element.owner : Element → Option String
  | .frame _ => none
  | .panel key => some key
  | .part key _ => some key

/-- The elements of a panel belong to its key. -/
theorem owner_of_mem_elements {p : Panel} {e : Element} (h : e ∈ p.elements) : e.owner = some p.key := by
  rcases List.mem_cons.1 h with rfl | h
  · rfl
  · obtain ⟨part, -, rfl⟩ := List.mem_map.1 h
    rfl

theorem panel_mem_elements {page : Page} {p : Panel} (h : p ∈ page.panels) :
    Element.panel p.key ∈ page.elements := by
  have hmem : Element.panel p.key ∈ page.panels.flatMap Panel.elements :=
    List.mem_flatMap.2 ⟨p, h, List.mem_cons_self⟩
  exact List.mem_append_left _ (List.mem_append_right _ hmem)

theorem part_mem_elements {page : Page} {p : Panel} (h : p ∈ page.panels) {part : Part}
    (hpart : part ∈ p.body.parts) : Element.part p.key part ∈ page.elements := by
  have hmem : Element.part p.key part ∈ page.panels.flatMap Panel.elements :=
    List.mem_flatMap.2 ⟨p, h, List.mem_cons_of_mem _ (List.mem_map_of_mem hpart)⟩
  exact List.mem_append_left _ (List.mem_append_right _ hmem)

/-- An element of a page belongs to the frame, or it is a panel, or a part of one. -/
theorem mem_elements {page : Page} {e : Element} (h : e ∈ page.elements) :
    (∃ f, e = .frame f) ∨ (∃ p ∈ page.panels, e = .panel p.key) ∨
      ∃ p ∈ page.panels, ∃ part ∈ p.body.parts, e = .part p.key part := by
  rcases List.mem_append.1 h with h | h
  · rcases List.mem_append.1 h with h | h
    · simp only [List.mem_cons, List.not_mem_nil, or_false] at h
      rcases h with rfl | rfl | rfl
      · exact Or.inl ⟨_, rfl⟩
      · exact Or.inl ⟨_, rfl⟩
      · exact Or.inl ⟨_, rfl⟩
    · obtain ⟨p, hp, h⟩ := List.mem_flatMap.1 h
      rcases List.mem_cons.1 h with rfl | h
      · exact Or.inr (Or.inl ⟨p, hp, rfl⟩)
      · obtain ⟨part, hpart, rfl⟩ := List.mem_map.1 h
        exact Or.inr (Or.inr ⟨p, hp, part, hpart, rfl⟩)
  · rcases List.mem_cons.1 h with rfl | h
    · exact Or.inl ⟨_, rfl⟩
    · obtain ⟨log, -, rfl⟩ := List.mem_map.1 h
      exact Or.inl ⟨_, rfl⟩

section

variable {page : Page} (hbodies : ∀ p ∈ page.panels, ∃ state, p.body = Session.panelBody state)
  (hkeys : (page.panels.map Panel.key).Nodup)

include hbodies

/-- A panel has the id of a part of another one only if the two clash. -/
theorem clashes_of_elementId {p q : Panel} (hp : p ∈ page.panels) (hq : q ∈ page.panels) {part : Part}
    (hpart : part ∈ p.body.parts)
    (h : (Element.panel q.key).elementId = (Element.part p.key part).elementId) : page.Clashes := by
  obtain ⟨state, hstate⟩ := hbodies p hp
  rw [hstate] at hpart
  obtain ⟨hloaded, hresult⟩ := mem_parts_panelBody.1 hpart
  have hkey : q.key = p.key ++ ("-" ++ part.word) := by
    rw [elementId_part, panelId, String.append_assoc] at h
    exact panelId_inj.1 h
  refine ⟨p, hp, q, hq, hstate ▸ hloaded, "-" ++ part.word, ?_, hkey⟩
  rw [endings_eq]
  exact List.mem_map_of_mem hresult

/-- Two elements with the same id are one if no benchmarks clash. -/
theorem eq_of_elementId (hclear : ¬ page.Clashes) {x y : Element} (hx : x ∈ page.elements)
    (hy : y ∈ page.elements) (h : x.elementId = y.elementId) : x = y := by
  have hresult : ∀ p ∈ page.panels, ∀ part ∈ p.body.parts, part ∈ resultParts := by
    intro p hp part hpart
    obtain ⟨state, hstate⟩ := hbodies p hp
    rw [hstate] at hpart
    exact (mem_parts_panelBody.1 hpart).2
  -- only a panel and a part can share an id and be different, and then the page clashes
  rcases mem_elements hx with ⟨f, rfl⟩ | ⟨p, hp, rfl⟩ | ⟨p, hp, part, hpart, rfl⟩
  · exact (eq_frame_of_elementId h).symm
  · rcases mem_elements hy with ⟨g, rfl⟩ | ⟨q, hq, rfl⟩ | ⟨q, hq, other, hother, rfl⟩
    · exact eq_frame_of_elementId h.symm
    · rw [panelId_inj.1 h]
    · exact absurd (clashes_of_elementId hbodies hq hp hother h) hclear
  · rcases mem_elements hy with ⟨g, rfl⟩ | ⟨q, hq, rfl⟩ | ⟨q, hq, other, hother, rfl⟩
    · exact eq_frame_of_elementId h.symm
    · exact absurd (clashes_of_elementId hbodies hp hq hpart h.symm) hclear
    · exact part_eq_of_elementId (hresult p hp part hpart) (hresult q hq other hother) h

include hkeys

/-- No element is twice on a page. -/
theorem nodup_elements : page.elements.Nodup := by
  have hpanels : (page.panels.flatMap Panel.elements).Nodup := by
    refine List.nodup_flatMap.2 ⟨?_, ?_⟩
    · intro p hp
      obtain ⟨state, hstate⟩ := hbodies p hp
      rw [Panel.elements, hstate, List.nodup_cons]
      refine ⟨by simp, (nodup_parts_panelBody state).map ?_⟩
      intro first second h
      exact (Element.part.inj h).2
    · -- an element tells the panel it belongs to
      refine (List.pairwise_map.1 hkeys).imp ?_
      intro p q hne e hp hq
      exact hne (Option.some.inj ((owner_of_mem_elements hp).symm.trans (owner_of_mem_elements hq)))
  -- the elements of the frame belong to no panel, so they differ from those that do
  have howner : ∀ e ∈ page.panels.flatMap Panel.elements, e.owner ≠ none := by
    intro e he
    obtain ⟨p, -, hp⟩ := List.mem_flatMap.1 he
    rw [owner_of_mem_elements hp]
    exact Option.some_ne_none p.key
  have hbefore : ∀ e ∈ [Element.frame .title, .frame .contents, .frame .results], e.owner = none := by
    decide
  have hbehind : ∀ e ∈ Element.frame .tooltip :: page.debugLog.toList.map fun _ => .frame .log,
      e = .frame .tooltip ∨ e = .frame .log := by
    cases page.debugLog <;> simp
  rw [Page.elements, List.nodup_append, List.nodup_append]
  refine ⟨⟨by decide, hpanels, ?_⟩, ?_, ?_⟩
  · rintro e he _ hpanel rfl
    exact howner e hpanel (hbefore e he)
  · cases page.debugLog <;> simp
  · rintro e he _ hlast rfl
    rcases List.mem_append.1 he with hfirst | hpanel
    · rcases hbehind e hlast with rfl | rfl <;> revert hfirst <;> decide
    · rcases hbehind e hlast with rfl | rfl <;> exact howner _ hpanel rfl

/-- The ids of a page are different exactly if no two benchmarks clash. -/
theorem nodup_elementIds_iff : (page.elements.map Element.elementId).Nodup ↔ ¬ page.Clashes := by
  constructor
  · -- a clash gives two elements with one id, a panel and a part
    rintro hnodup ⟨p, hp, q, hq, hloaded, ending, hending, hkey⟩
    obtain ⟨state, hstate⟩ := hbodies p hp
    rw [endings_eq] at hending
    obtain ⟨part, hpart, rfl⟩ := List.mem_map.1 hending
    have hmem : Element.part p.key part ∈ page.elements := by
      refine part_mem_elements hp ?_
      rw [hstate] at hloaded ⊢
      exact mem_parts_panelBody.2 ⟨hloaded, hpart⟩
    have hsame : (Element.panel q.key).elementId = (Element.part p.key part).elementId := by
      rw [elementId_part, hkey]
      exact String.append_assoc.symm
    cases List.inj_on_of_nodup_map hnodup (panel_mem_elements hq) hmem hsame
  · intro hclear
    refine (List.nodup_map_iff_inj_on (nodup_elements hbodies hkeys)).2 ?_
    intro x hx y hy h
    exact eq_of_elementId hbodies hclear hx hy h

omit hbodies hkeys

/-- Where the ids are different, an id leads to its element. -/
theorem lookup_of_mem (hnodup : (page.elements.map Element.elementId).Nodup) {e : Element}
    (he : e ∈ page.elements) : page.lookup e.elementId = some e := by
  have hfound : (page.elements.find? fun other => other.elementId = e.elementId).isSome := by
    rw [List.find?_isSome]
    exact ⟨e, he, decide_eq_true rfl⟩
  obtain ⟨other, hother⟩ := Option.isSome_iff_exists.1 hfound
  have hid : other.elementId = e.elementId := by simpa using List.find?_some hother
  have hsame : other = e :=
    List.inj_on_of_nodup_map hnodup (List.mem_of_find?_eq_some hother) he hid
  rw [Page.lookup, hother, hsame]

end

end BenchScope.Report

namespace BenchScope.Session

open Report

/-- Where a link leads to a place on the page, it is the panel of its key. -/
theorem id_of_link {session : Session} {style : LinkStyle} {key id : String}
    (h : session.link style key = "#" ++ id) : id = panelId key := by
  have hanchor : anchor key = "#" ++ id → id = panelId key := fun h =>
    ((String.append_right_inj _).1 h).symm
  cases style with
  | anchor => exact hanchor h
  | query =>
    have hchars := congrArg String.toList h
    simp [link, selectUrl, String.toList_append] at hchars
  | standalone =>
    by_cases hhas : session.panels.has key = true
    · rw [link, if_pos hhas] at h
      exact hanchor h
    · rw [link, if_neg hhas] at h
      have hchars := congrArg String.toList h
      simp [String.toList_append] at hchars

/-- The panels of a page have different keys, whatever was done to the session. -/
theorem nodup_keys_page {settings : Settings} {query : String} {outcome : Outcome} {first : Session}
    {started : List Fetch} (hopened : opened settings query outcome = .ok (first, started))
    (operations : List Operation) (style : LinkStyle) :
    (((first.performAll operations).page style).panels.map Panel.key).Nodup := by
  rw [panels_page, keys_panelViews, suite_performAll]
  exact (nodup_keys_opened hopened).filter _

/-- **Ids of elements.** Take a session that has been opened and has gone through any run of operations,
and any of its pages. A reader of the document finds the elements of the page, with their ids. The ids
are different exactly if no benchmark on the page has the key of another one that shows results with
one of the endings behind it. If they are different, the script that draws charts finds for each chart
the canvas in its own panel, and every link to a place on the page finds the panel of its own key. -/
theorem element_ids_distinct {settings : Settings} {query : String} {outcome : Outcome}
    {first : Session} {started : List Fetch}
    (hopened : opened settings query outcome = .ok (first, started))
    (operations : List Operation) (style : LinkStyle) (base : String) :
    let page := (first.performAll operations).page style
    let ids := (Markup.identified (Html.render page base)).map Prod.snd
    Markup.identified (Html.render page base) = page.elements.map Element.mark ∧
    (ids.Nodup ↔ ¬ page.Clashes) ∧
    (ids.Nodup →
      (∀ p ∈ page.panels, ∀ content, p.body = .loaded content → ∀ c ∈ content.charts,
        page.lookup (panelId p.key ++ "-" ++ c.column) = some (.part p.key (.canvas c.column))) ∧
      (∀ p ∈ page.panels, page.lookup (panelId p.key) = some (.panel p.key)) ∧
      (∀ entry ∈ page.toc, ∀ id, entry.href = "#" ++ id → (∃ p ∈ page.panels, p.key = entry.key) →
        page.lookup id = some (.panel entry.key))) := by
  intro page ids
  have hfound : Markup.identified (Html.render page base) = page.elements.map Element.mark :=
    Html.identified_render (fun _ => inert_of_mem_cells _ style) base
  have hids : ids = page.elements.map Element.elementId := by
    show (Markup.identified (Html.render page base)).map Prod.snd = _
    rw [hfound, List.map_map]
    rfl
  rw [hids]
  refine ⟨hfound, nodup_elementIds_iff (fun _ => body_of_mem_panels)
    (nodup_keys_page hopened operations style), ?_⟩
  intro hnodup
  -- where ids are different, looking one up finds the element that has it
  have hpanel : ∀ p ∈ page.panels, page.lookup (panelId p.key) = some (.panel p.key) :=
    fun p hp => lookup_of_mem hnodup (panel_mem_elements hp)
  refine ⟨?_, hpanel, ?_⟩
  · intro p hp content hloaded c hc
    have hmem : Element.part p.key (.canvas c.column) ∈ page.elements := by
      refine part_mem_elements hp ?_
      rw [hloaded]
      exact List.mem_append_right _ (List.mem_map_of_mem hc)
    exact lookup_of_mem hnodup hmem
  · rintro entry hentry id hhref ⟨p, hp, hkey⟩
    rw [(mem_toc hentry).2] at hhref
    rw [id_of_link hhref, ← hkey]
    exact hpanel p hp

/-- A suite with a benchmark that is named like a table of another one. -/
def clashingSuite : String :=
  "\x7b\"name\":\"demo\",\"benchmarks\":\x7b\"A\":\x7b\"results\":\"a.json\"\x7d," ++
    "\"A-table_pretty\":\x7b\"results\":\"b.json\"\x7d\x7d\x7d"

/-- The answer with the results of `A`, which hold no records. -/
def emptyResults : Event := ⟨"A", .results, "bm/a.json", .ok "\x7b\"benchmarks\":[]\x7d"⟩

/-- With the first of the benchmarks alone on the page, its ids are different. -/
theorem element_ids_distinct_alone : ∃ session started,
    opened .default "bm=A" (.ok clashingSuite) = .ok (session, started) ∧
    let page := (session.performAll [.apply emptyResults]).page .query
    page.elements.length = 12 ∧
    ((Markup.identified (Html.render page "/static/")).map Prod.snd).Nodup ∧
    page.lookup "bm-results-A" = some (.panel "A") := by
  have hsample : (opened .default "bm=A" (.ok clashingSuite)).toOption.map (fun state =>
      let page := (state.1.performAll [.apply emptyResults]).page .query
      (page.panels.map Panel.key, page.elements.length)) = some (["A"], 12) := by
    decide +kernel
  obtain ⟨state, hopened, hpage⟩ := exists_ok_of_toOption hsample
  simp only [Prod.mk.injEq] at hpage
  obtain ⟨hkeys, hlength⟩ := hpage
  obtain ⟨-, hiff, hfinds⟩ :=
    element_ids_distinct hopened [.apply emptyResults] .query "/static/"
  have honly : ∀ p ∈ ((state.1.performAll [.apply emptyResults]).page .query).panels, p.key = "A" := by
    intro p hp
    have hmem := List.mem_map_of_mem (f := Panel.key) hp
    rw [hkeys] at hmem
    exact List.mem_singleton.1 hmem
  have hclear : ¬ ((state.1.performAll [.apply emptyResults]).page .query).Clashes := by
    rintro ⟨p, hp, q, hq, -, ending, hending, hkey⟩
    have hlonger : ∀ ending ∈ endings, "A" ≠ "A" ++ ending := by decide +kernel
    rw [honly p hp, honly q hq] at hkey
    exact hlonger ending hending hkey
  have hnodup := hiff.2 hclear
  obtain ⟨-, hpanel, -⟩ := hfinds hnodup
  obtain ⟨p, hp, -⟩ := List.exists_of_mem_map (hkeys ▸ List.mem_singleton_self "A")
  have hid : panelId "A" = "bm-results-A" := by decide
  have hlookup := hpanel p hp
  rw [honly p hp, hid] at hlookup
  exact ⟨state.1, state.2, hopened, hlength, hnodup, hlookup⟩

/-- Both benchmarks are on the page. The link to the second one leads to the table of the first one, which
has the same id. -/
theorem element_ids_clash : ∃ session started,
    opened .default "" (.ok clashingSuite) = .ok (session, started) ∧
    let page := (session.performAll [.requestAll, .apply emptyResults]).page .anchor
    page.panels.map Panel.key = ["A", "A-table_pretty"] ∧
    ¬ ((Markup.identified (Html.render page "/static/")).map Prod.snd).Nodup ∧
    page.toc.map TocEntry.href = ["#bm-results-A", "#bm-results-A-table_pretty"] ∧
    page.lookup "bm-results-A-table_pretty" = some (.part "A" (.table "_pretty")) := by
  have hsample : (opened .default "" (.ok clashingSuite)).toOption.map (fun state =>
      let page := (state.1.performAll [.requestAll, .apply emptyResults]).page .anchor
      (page.panels.map Panel.key, decide (page.elements.map Element.elementId).Nodup,
        page.toc.map TocEntry.href, page.lookup "bm-results-A-table_pretty")) =
      some (["A", "A-table_pretty"], false, ["#bm-results-A", "#bm-results-A-table_pretty"],
        some (.part "A" (.table "_pretty"))) := by
    decide +kernel
  obtain ⟨state, hopened, hpage⟩ := exists_ok_of_toOption hsample
  simp only [Prod.mk.injEq, decide_eq_false_iff_not] at hpage
  obtain ⟨hkeys, hids, htoc, hlookup⟩ := hpage
  refine ⟨state.1, state.2, hopened, hkeys, ?_, htoc, hlookup⟩
  rwa [Html.identified_render (fun _ => inert_of_mem_cells _ .anchor), List.map_map]

end BenchScope.Session
