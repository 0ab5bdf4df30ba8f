import BenchScope.Proofs.Lifecycle
import BenchScope.Proofs.PageSafety
import BenchScope.Proofs.SuiteDocuments
import Mathlib.Data.List.Infix

/-!
# What stands on a page

A session keeps its panels in the order they were asked for in, and its page shows them in suite order.
Nothing is lost on the way, since every panel belongs to a key of the suite. The main statement says
for a session after any run of operations:

* the table of contents has every key of the suite once, and the page has the panel of every key that
  was asked for, both in suite order;
* panels and separators take turns;
* a link to a place on the page names the id of a panel that stands there.
-/

namespace BenchScope

/-! ## Keys that are asked for -/

namespace Session

/-- Whether an operation asks for a key. -/
def Operation.asks : Operation → String → Bool
  | .request key, other => key == other
  | .requestAll, _ => true
  | .apply _, _ => false

/-- Whether a query asks for a key of a suite. The key that means every benchmark does so only in a
suite that does not define it. -/
def selects (suite : Suite) (query : Query) (key : String) : Bool :=
  match query.get? Query.benchmarkName with
  | none => false
  | some selected =>
    selected != "" && (selected == key || (selected == everyKey && !suite.has selected))

@[simp] theorem panels_note (session : Session) (line : String) :
    (session.note line).panels = session.panels := rfl

@[simp] theorem suite_note (session : Session) (line : String) :
    (session.note line).suite = session.suite := rfl

@[simp] theorem loadAll_note (session : Session) (line : String) :
    (session.note line).loadAll = session.loadAll := rfl

theorem Coherent.note {session : Session} (h : session.Coherent) (line : String) :
    (session.note line).Coherent := ⟨h.nodup, h.defined, h.pending⟩

/-- A session without panels is coherent. -/
theorem Coherent.of_empty {session : Session} (h : session.panels = []) : session.Coherent := by
  have hkeys : session.panels.keys = [] := by rw [h]; rfl
  exact ⟨by simp [hkeys], by simp [hkeys], by simp [h]⟩

theorem suite_perform (session : Session) (operation : Operation) :
    (session.perform operation).suite = session.suite := by
  rcases perform_cases session operation with hext | ⟨event, hevent⟩
  · exact hext.suite
  · rw [hevent]
    rfl

/-- No operation changes the suite. -/
theorem suite_performAll (session : Session) (operations : List Operation) :
    (session.performAll operations).suite = session.suite := by
  induction operations generalizing session with
  | nil => rfl
  | cons operation rest ih => exact (ih (session.perform operation)).trans (suite_perform session operation)

/-- An accepted request opens the panel of its key and no other. -/
theorem mem_keys_request {session next : Session} {key : String} {started : List Fetch}
    (h : session.request key = .ok (next, started)) (other : String) :
    other ∈ next.panels.keys ↔ other ∈ session.panels.keys ∨ other = key := by
  rcases request_cases h with ⟨hold, rfl, _⟩ | ⟨_, spec, log, _, _, rfl⟩
  · constructor
    · exact Or.inl
    · rintro (hother | rfl)
      · exact hother
      · exact hold
  · simp [Entries.keys]

/-- Asking for a key opens its panel exactly if the suite defines it. -/
theorem mem_keys_requestKnown (state : Session × List Fetch) (hcoh : state.1.Coherent)
    (key other : String) :
    other ∈ (requestKnown state key).1.panels.keys ↔
      other ∈ state.1.panels.keys ∨ (other = key ∧ key ∈ state.1.suite.keys) := by
  unfold requestKnown
  cases hr : state.1.request key with
  | error e =>
    obtain ⟨_, hmissing, _⟩ := request_eq_error_iff.1 hr
    simp [hmissing]
  | ok answer =>
    have hdefined : key ∈ state.1.suite.keys := by
      rw [← (Extends.request hr).suite]
      exact (hcoh.request hr).defined key ((mem_keys_request hr key).2 (Or.inr rfl))
    simp only [mem_keys_request hr other, hdefined, and_true]

/-- Asking for several keys opens the panels of those that the suite defines. -/
theorem mem_keys_foldl_requestKnown (keys : List String) (state : Session × List Fetch)
    (hcoh : state.1.Coherent) (other : String) :
    other ∈ (keys.foldl requestKnown state).1.panels.keys ↔
      other ∈ state.1.panels.keys ∨ (other ∈ keys ∧ other ∈ state.1.suite.keys) := by
  induction keys generalizing state with
  | nil => simp
  | cons key rest ih =>
    -- neither the suite nor coherence changes on the way, whether the key is known or not
    have hsuite : (requestKnown state key).1.suite = state.1.suite := by
      unfold requestKnown
      cases hr : state.1.request key with
      | error e => rfl
      | ok answer => exact (Extends.request hr).suite
    have hnext : (requestKnown state key).1.Coherent := by
      unfold requestKnown
      cases hr : state.1.request key with
      | error e => exact hcoh
      | ok answer => exact hcoh.request hr
    rw [List.foldl_cons, ih _ hnext, mem_keys_requestKnown state hcoh, hsuite, List.mem_cons]
    constructor
    · rintro ((hold | ⟨rfl, hdefined⟩) | ⟨hrest, hdefined⟩)
      · exact Or.inl hold
      · exact Or.inr ⟨Or.inl rfl, hdefined⟩
      · exact Or.inr ⟨Or.inr hrest, hdefined⟩
    · rintro (hold | ⟨rfl | hrest, hdefined⟩)
      · exact Or.inl (Or.inl hold)
      · exact Or.inl (Or.inr ⟨rfl, hdefined⟩)
      · exact Or.inr ⟨hrest, hdefined⟩

/-- Asking for every benchmark opens the panel of every key of the suite. -/
theorem mem_keys_requestAll {session : Session} (hcoh : session.Coherent) (key : String) :
    key ∈ session.requestAll.1.panels.keys ↔ key ∈ session.suite.keys := by
  have hmarked : ({ session with loadAll := true } : Session).Coherent :=
    ⟨hcoh.nodup, hcoh.defined, hcoh.pending⟩
  unfold requestAll
  rw [mem_keys_foldl_requestKnown session.suite.keys _ hmarked]
  dsimp only
  constructor
  · rintro (hold | ⟨hkey, _⟩)
    · exact hcoh.defined key hold
    · exact hkey
  · intro hkey
    exact Or.inr ⟨hkey, hkey⟩

/-- All that an operation does to the keys of panels. -/
theorem mem_keys_perform {session : Session} (hcoh : session.Coherent) (operation : Operation)
    (key : String) :
    key ∈ (session.perform operation).panels.keys ↔
      key ∈ session.panels.keys ∨ (key ∈ session.suite.keys ∧ operation.asks key = true) := by
  cases operation with
  | apply event => simp [perform, Operation.asks]
  | requestAll =>
    dsimp only [perform, Operation.asks]
    rw [mem_keys_requestAll hcoh]
    constructor
    · intro hkey
      exact Or.inr ⟨hkey, rfl⟩
    · rintro (hold | ⟨hkey, _⟩)
      · exact hcoh.defined key hold
      · exact hkey
  | request asked =>
    have hknown := mem_keys_requestKnown (session, []) hcoh asked key
    -- asking for one key is asking for a list of this key
    have hperform : (session.perform (.request asked)) = (requestKnown (session, []) asked).1 := by
      dsimp only [perform, requestKnown]
      cases session.request asked <;> rfl
    rw [hperform, hknown]
    dsimp only [Operation.asks]
    rw [beq_iff_eq]
    constructor
    · rintro (hold | ⟨rfl, hdefined⟩)
      · exact Or.inl hold
      · exact Or.inr ⟨hdefined, rfl⟩
    · rintro (hold | ⟨hdefined, rfl⟩)
      · exact Or.inl hold
      · exact Or.inr ⟨rfl, hdefined⟩

/-- A run of operations opens the panels of the keys of the suite that one of them asks for. -/
theorem mem_keys_performAll {session : Session} (hcoh : session.Coherent)
    (operations : List Operation) (key : String) :
    key ∈ (session.performAll operations).panels.keys ↔
      key ∈ session.panels.keys ∨
        (key ∈ session.suite.keys ∧ operations.any (·.asks key) = true) := by
  induction operations generalizing session with
  | nil => simp [performAll]
  | cons operation rest ih =>
    have hrest := ih (hcoh.perform operation)
    rw [suite_perform, mem_keys_perform hcoh] at hrest
    rw [List.any_cons, Bool.or_eq_true, and_or_left, ← or_assoc]
    exact hrest

/-- What a query selects in a session without panels. -/
theorem mem_keys_select {session next : Session} {started : List Fetch}
    (hempty : session.panels = []) (h : session.select = .ok (next, started)) (key : String) :
    key ∈ next.panels.keys ↔
      key ∈ session.suite.keys ∧ selects session.suite session.query key = true := by
  have hcoh := Coherent.of_empty hempty
  have hkeys : session.panels.keys = [] := by rw [hempty]; rfl
  unfold selects
  rcases select_cases h with ⟨hblank, hstate⟩ | ⟨hget, hnone, hstate⟩ |
    ⟨selected, hget, hselected, -, hrequest⟩
  · cases hstate
    cases hget : session.query.get? Query.benchmarkName with
    | none => simp [hkeys]
    | some selected =>
      rw [hget] at hblank
      simp [show selected = "" from hblank, hkeys]
  · have hkeys := mem_keys_requestAll hcoh key
    rw [← hstate] at hkeys
    have hhas : session.suite.has everyKey = false :=
      Bool.eq_false_iff.2 (mt Entries.has_iff.1 hnone)
    rw [hkeys, hget]
    simp [hhas, show everyKey ≠ "" by decide]
  · have hkeys := mem_keys_request hrequest key
    have hdefined : selected ∈ session.suite.keys := by
      have hnext := Coherent.request (hcoh.note _) hrequest
      have hmem := hnext.defined selected ((mem_keys_request hrequest selected).2 (Or.inr rfl))
      rwa [(Extends.request hrequest).suite, suite_note] at hmem
    -- the selected key is defined, so it means itself
    have hhas : session.suite.has selected = true := Entries.has_iff.2 hdefined
    have hselects : (selected != "" && (selected == key ||
        (selected == everyKey && !session.suite.has selected))) = true ↔ selected = key := by
      simp [hhas, hselected]
    rw [hget]
    dsimp only
    rw [hkeys, hselects, panels_note, hempty]
    constructor
    · rintro (hold | rfl)
      · cases hold
      · exact ⟨hdefined, rfl⟩
    · rintro ⟨_, rfl⟩
      exact Or.inr rfl

/-- Selecting keeps the suite. -/
theorem suite_select {session next : Session} {started : List Fetch}
    (h : session.select = .ok (next, started)) : next.suite = session.suite :=
  select_induction (motive := fun next _ => next.suite = session.suite) (fun _ _ => rfl)
    (fun hsuite hr => (Extends.request hr).suite.trans hsuite) h

/-- A session is opened with the panels of the keys that its query selects. -/
theorem mem_keys_opened {settings : Settings} {query : String} {outcome : Outcome}
    {session : Session} {started : List Fetch}
    (h : opened settings query outcome = .ok (session, started)) (key : String) :
    key ∈ session.panels.keys ↔
      key ∈ session.suite.keys ∧ selects session.suite (Query.parse query) key = true := by
  obtain ⟨text, suite, line, _, _, hselect⟩ := opened_cases h
  rw [mem_keys_select rfl hselect key, suite_select hselect]
  rfl

/-- The suite of a session has different keys. -/
theorem nodup_keys_opened {settings : Settings} {query : String} {outcome : Outcome}
    {session : Session} {started : List Fetch}
    (h : opened settings query outcome = .ok (session, started)) : session.suite.keys.Nodup := by
  obtain ⟨text, suite, line, _, hparse, hselect⟩ := opened_cases h
  rw [suite_select hselect]
  exact Suite.nodup_keys_of_parse hparse

/-! ## The mark that everything was asked for -/

theorem loadAll_request {session next : Session} {key : String} {started : List Fetch}
    (h : session.request key = .ok (next, started)) : next.loadAll = session.loadAll := by
  rcases request_cases h with ⟨_, rfl, _⟩ | ⟨_, spec, log, _, _, rfl⟩
  · rfl
  · rfl

theorem loadAll_requestAll (session : Session) : session.requestAll.1.loadAll = true :=
  requestAll_induction (motive := fun next _ => next.loadAll = true) session
    (fun hmark hr => (loadAll_request hr).trans hmark) rfl

/-- Where every benchmark has been asked for, every key of the suite has a panel. -/
def Full (session : Session) : Prop :=
  session.loadAll = true → ∀ key ∈ session.suite.keys, key ∈ session.panels.keys

/-- Asking for every benchmark opens all panels, and no operation closes one. -/
theorem Full.perform {session : Session} (h : session.Full) (hcoh : session.Coherent)
    (operation : Operation) : (session.perform operation).Full := by
  intro hmark key hkey
  rw [suite_perform] at hkey
  rw [mem_keys_perform hcoh]
  cases operation with
  | requestAll => exact Or.inr ⟨hkey, rfl⟩
  | apply event => exact Or.inl (h hmark key hkey)
  | request asked =>
    have hold : session.loadAll = true := by
      dsimp only [Session.perform] at hmark
      cases hr : session.request asked with
      | error e => rwa [hr] at hmark
      | ok answer =>
        rw [hr] at hmark
        rwa [← loadAll_request hr]
    exact Or.inl (h hold key hkey)

/-- A full session stays full, whatever is done to it. -/
theorem Full.performAll {session : Session} (h : session.Full) (hcoh : session.Coherent)
    (operations : List Operation) : (session.performAll operations).Full := by
  induction operations generalizing session with
  | nil => exact h
  | cons operation rest ih => exact ih (h.perform hcoh operation) (hcoh.perform operation)

/-- A query sets the mark only if it asks for every benchmark, and then every key gets a panel. -/
theorem Full.select {session next : Session} {started : List Fetch} (hempty : session.panels = [])
    (hmark : session.loadAll = false) (h : session.select = .ok (next, started)) : next.Full := by
  have hcoh := Coherent.of_empty hempty
  intro hfull
  rcases select_cases h with ⟨-, hstate⟩ | ⟨-, -, hstate⟩ | ⟨selected, -, -, -, hrequest⟩
  · cases hstate
    rw [hmark] at hfull
    cases hfull
  · intro key hkey
    have hkeys := mem_keys_requestAll hcoh key
    have hsuite := (Extends.requestAll session).suite
    rw [← hstate] at hkeys hsuite
    rw [hkeys, ← hsuite]
    exact hkey
  · rw [loadAll_request hrequest, loadAll_note, hmark] at hfull
    cases hfull

/-- A session is full from the start. -/
theorem Full.opened {settings : Settings} {query : String} {outcome : Outcome}
    {session : Session} {started : List Fetch}
    (h : Session.opened settings query outcome = .ok (session, started)) : session.Full := by
  obtain ⟨text, suite, line, _, _, hselect⟩ := opened_cases h
  exact Full.select rfl rfl hselect

/-- The mark stays once it is set. -/
theorem loadAll_performAll {session : Session} {operations : List Operation}
    (h : session.loadAll = true ∨ Operation.requestAll ∈ operations) :
    (session.performAll operations).loadAll = true := by
  induction operations generalizing session with
  | nil =>
    rcases h with hmark | hmem
    · exact hmark
    · cases hmem
  | cons operation rest ih =>
    apply ih
    rcases h with hmark | hmem
    · left
      cases operation with
      | requestAll => exact loadAll_requestAll session
      | apply event => exact hmark
      | request key =>
        dsimp only [perform]
        cases hr : session.request key with
        | error e => exact hmark
        | ok answer => exact (loadAll_request hr).trans hmark
    · rcases List.mem_cons.1 hmem with rfl | hrest
      · exact Or.inl (loadAll_requestAll session)
      · exact Or.inr hrest

end Session

/-! ## Sections -/

namespace Report

/-- There is one separator less than there are panels. -/
theorem length_separated (panels : List Panel) :
    (separated panels).length = 2 * panels.length - 1 := by
  rw [separated, List.length_intersperse, List.length_map]

/-- Panels stand at the even places. -/
theorem getElem?_separated_even (panels : List Panel) (i : Nat) :
    (separated panels)[2 * i]? = (panels[i]?).map Section.panel := by
  have heven : 2 * i % 2 = 0 := by omega
  have hhalf : 2 * i / 2 = i := by omega
  rw [separated, List.getElem?_intersperse, if_pos heven, hhalf, List.getElem?_map]

/-- Separators stand at the odd places. -/
theorem getElem?_separated_odd {panels : List Panel} {i : Nat}
    (h : 2 * i + 1 < (separated panels).length) : (separated panels)[2 * i + 1]? = some .separator := by
  have hodd : ¬ (2 * i + 1) % 2 = 0 := by omega
  rw [length_separated] at h
  rw [separated, List.getElem?_intersperse, if_neg hodd, List.length_map, if_pos h]

/-- A section is a panel or a separator, so both together make up the page. -/
theorem Page.length_sections (page : Page) :
    page.sections.length = page.panels.length + page.separatorCount := by
  have hpanels : page.panels.length = page.sections.countP fun s => s.panel?.isSome :=
    List.length_filterMap_eq_countP
  have hseparators : page.separatorCount = page.sections.countP fun s => ¬ s.panel?.isSome := by
    rw [Page.separatorCount, ← List.countP_eq_length_filter]
    apply List.countP_congr
    intro s _
    simp
  rw [hpanels, hseparators]
  exact List.length_eq_countP_add_countP _

/-- A page counts one separator less than it has panels. -/
theorem separatorCount_assemble (title : String) (toc : List TocEntry) (panels : List Panel)
    (log : Option (List String)) :
    (Page.assemble title toc panels log).separatorCount = panels.length - 1 := by
  have htotal := (Page.assemble title toc panels log).length_sections
  have hlength : (Page.assemble title toc panels log).sections.length = 2 * panels.length - 1 :=
    length_separated panels
  rw [panels_assemble, hlength] at htotal
  omega

/-! ## Links and the elements they lead to -/

namespace Html

/-- The opening tag of a division with an id, as it stands in a document. -/
def divisionTag (id : String) : List Char :=
  "<div id=\"".toList ++ Markup.escapeChars id.toList ++ "\">".toList

/-- The opening tag of a link to the element with an id, as it stands in a document. -/
def anchorTag (id : String) : List Char :=
  "<a href=\"#".toList ++ Markup.escapeChars id.toList ++ "\">".toList

/-- The part of a document that shows a panel. -/
def panelChars (p : Panel) : List Char := (panel p).flatMap Piece.render

theorem sections_infix_pieces (page : Page) (base : String) :
    page.sections.flatMap pageSection <:+: pieces page base := by
  unfold pieces
  refine List.IsInfix.trans ?_ (List.prefix_append _ _).isInfix
  refine List.IsInfix.trans ?_ (List.prefix_append _ _).isInfix
  exact List.infix_append _ _ _

theorem toc_infix_pieces (page : Page) (base : String) :
    page.toc.flatMap tocEntry <:+: pieces page base := by
  unfold pieces
  refine List.IsInfix.trans ?_ (List.prefix_append _ _).isInfix
  refine List.IsInfix.trans ?_ (List.prefix_append _ _).isInfix
  refine List.IsInfix.trans ?_ (List.prefix_append _ _).isInfix
  refine List.IsInfix.trans ?_ (List.prefix_append _ _).isInfix
  exact List.infix_append _ _ _

/-- What one of a list of things is shown as is part of what the list is shown as. -/
theorem infix_flatMap {α β : Type} (f : α → List β) {items : List α} {a : α} (h : a ∈ items) :
    f a <:+: items.flatMap f := by
  rw [List.flatMap_def]
  exact List.infix_of_mem_flatten (List.mem_map_of_mem h)

/-- A panel of a page is part of its document. -/
theorem panelChars_infix_render {page : Page} {p : Panel} (h : p ∈ page.panels) (base : String) :
    panelChars p <:+: (render page base).toList := by
  obtain ⟨s, hs, hpanel⟩ := List.mem_filterMap.1 h
  have hsection : s = .panel p := by
    cases s with
    | panel q => exact congrArg Section.panel (Option.some.inj hpanel)
    | separator => cases hpanel
  have hpieces : panel p <:+: pieces page base := by
    refine List.IsInfix.trans ?_ (sections_infix_pieces page base)
    refine List.IsInfix.trans ?_ (infix_flatMap pageSection hs)
    rw [hsection]
    exact (List.prefix_append _ _).isInfix
  rw [render, String.toList_ofList]
  exact hpieces.flatMap Piece.render

/-- The element of a panel carries the id of the panel. -/
theorem divisionTag_prefix_panelChars (p : Panel) :
    divisionTag (panelId p.key) <+: panelChars p := by
  have hopen : "<div id=\"".toList = "<div ".toList ++ "id=\"".toList := by decide +kernel
  have hclose : ">\n<h2>".toList = ">".toList ++ "\n<h2>".toList := by decide +kernel
  have htag : "\">".toList = ['"'] ++ ">".toList := by decide +kernel
  refine ⟨"\n<h2>".toList ++ (Piece.text p.title :: Piece.fixed "</h2>\n" ::
    (body (panelId p.key) p.body ++ [Piece.fixed "</div>"])).flatMap Piece.render, ?_⟩
  unfold panelChars panel divisionTag
  simp only [List.cons_append, List.nil_append, List.flatMap_cons, Piece.render]
  simp only [hopen, hclose, htag, List.append_assoc]

/-- The pieces of a link with a target on the page. -/
theorem anchorTag_infix_link {href id : String} (hlink : href = "#" ++ id) (tail : List Piece) :
    anchorTag id <:+:
      (.fixed "<li><a href=\"" :: .text href :: .fixed "\">" :: tail : List Piece).flatMap
        Piece.render := by
  have htext : Markup.escapeChars href.toList = ['#'] ++ Markup.escapeChars id.toList := by
    rw [hlink, String.toList_append, Markup.escapeChars, List.flatMap_append]
    rfl
  have hopen : "<li><a href=\"".toList = "<li>".toList ++ "<a href=\"".toList := by decide +kernel
  have hmark : "<a href=\"#".toList = "<a href=\"".toList ++ ['#'] := by decide +kernel
  have hrender :
      (.fixed "<li><a href=\"" :: .text href :: .fixed "\">" :: tail : List Piece).flatMap
        Piece.render = "<li><a href=\"".toList ++ (Markup.escapeChars href.toList ++
          ("\">".toList ++ tail.flatMap Piece.render)) := rfl
  rw [hrender, hopen, htext]
  unfold anchorTag
  rw [hmark]
  refine ⟨"<li>".toList, tail.flatMap Piece.render, ?_⟩
  simp only [List.append_assoc]

/-- An entry with a target on the page has a link to it. -/
theorem anchorTag_infix_tocEntry {entry : TocEntry} {id : String} (hlink : entry.href = "#" ++ id) :
    anchorTag id <:+: (tocEntry entry).flatMap Piece.render := by
  have hne : entry.href ≠ "" := by
    rw [hlink]
    intro hempty
    have hchars := congrArg String.toList hempty
    simp at hchars
  unfold tocEntry
  rw [if_neg hne]
  exact anchorTag_infix_link hlink _

/-- The link of an entry with a target on the page is part of the document. -/
theorem anchorTag_infix_render {page : Page} {entry : TocEntry} (h : entry ∈ page.toc) {id : String}
    (hlink : entry.href = "#" ++ id) (base : String) :
    anchorTag id <:+: (render page base).toList := by
  have hpieces : tocEntry entry <:+: pieces page base :=
    (infix_flatMap tocEntry h).trans (toc_infix_pieces page base)
  rw [render, String.toList_ofList]
  exact (anchorTag_infix_tocEntry hlink).trans (hpieces.flatMap Piece.render)

end Html

/-- An entry of the table of contents leads to a panel of the page: the panel has the entry's key, and
the target of the entry is the id that the element of the panel has in the document. -/
def Page.Leads (page : Page) (entry : TocEntry) : Prop :=
  ∃ p ∈ page.panels, p.key = entry.key ∧ ∃ id, entry.href = "#" ++ id ∧
    Html.divisionTag id <+: Html.panelChars p ∧
    ∀ base, Html.panelChars p <:+: (Html.render page base).toList ∧
      Html.anchorTag id <:+: (Html.render page base).toList

/-- An entry whose target is the mark of a panel on the page leads to it. -/
theorem Page.leads_of_anchor {page : Page} {entry : TocEntry} (hentry : entry ∈ page.toc)
    (hhref : entry.href = Session.anchor entry.key) {p : Panel} (hp : p ∈ page.panels)
    (hkey : p.key = entry.key) : page.Leads entry := by
  refine ⟨p, hp, hkey, panelId p.key, ?_, Html.divisionTag_prefix_panelChars p, ?_⟩
  · rw [hhref, hkey]
    rfl
  · intro base
    refine ⟨Html.panelChars_infix_render hp base, Html.anchorTag_infix_render hentry ?_ base⟩
    rw [hhref, hkey]
    rfl

end Report

namespace Session

/-! ## Pages -/

theorem anchor_ne_empty (key : String) : anchor key ≠ "" := by
  intro hempty
  have hchars := congrArg String.toList hempty
  simp [anchor] at hchars

theorem panels_page (session : Session) (style : Report.LinkStyle) :
    (session.page style).panels = session.panelViews := Report.panels_assemble _ _ _ _

/-- The keys of the panels on a page are those keys of the suite that have panels, in suite order. -/
theorem keys_panelViews (session : Session) :
    session.panelViews.map Report.Panel.key = session.suite.keys.filter session.panels.has := by
  unfold panelViews
  rw [List.map_filterMap, ← List.filterMap_eq_filter]
  apply List.filterMap_congr
  intro key _
  unfold panelView?
  rw [Option.map_map]
  cases hpanel : session.panels.get? key with
  | none =>
    have hhas : session.panels.has key = false := by
      rw [← Bool.not_eq_true, Entries.has_iff]
      exact Entries.get?_eq_none_iff.1 hpanel
    simp [Option.guard, hhas]
  | some panel =>
    have hhas : session.panels.has key = true :=
      Entries.has_iff.2 (Entries.mem_keys_of_get? hpanel)
    simp [Option.guard, hhas]

/-- A panel is shown for each key of the suite that has one, in its state. -/
theorem mem_panelViews {session : Session} {p : Report.Panel} :
    p ∈ session.panelViews ↔ p.key ∈ session.suite.keys ∧
      ∃ panel, session.panels.get? p.key = some panel ∧ p = ⟨p.key, p.key, panelBody panel⟩ := by
  unfold panelViews panelView?
  rw [List.mem_filterMap]
  constructor
  · rintro ⟨key, hkey, hview⟩
    obtain ⟨panel, hpanel, rfl⟩ := Option.map_eq_some_iff.1 hview
    exact ⟨hkey, panel, hpanel, rfl⟩
  · rintro ⟨hkey, panel, hpanel, hp⟩
    refine ⟨p.key, hkey, ?_⟩
    rw [hpanel, Option.map_some, ← hp]

/-- A key of the suite is shown exactly if it has a panel. -/
theorem exists_panel_iff {session : Session} (style : Report.LinkStyle) {key : String}
    (hkey : key ∈ session.suite.keys) :
    (∃ p ∈ (session.page style).panels, p.key = key) ↔ key ∈ session.panels.keys := by
  rw [panels_page]
  constructor
  · rintro ⟨p, hp, rfl⟩
    obtain ⟨_, panel, hpanel, _⟩ := mem_panelViews.1 hp
    exact Entries.mem_keys_of_get? hpanel
  · intro hpanel
    obtain ⟨panel, hpanel⟩ := Entries.get?_isSome_iff.2 hpanel
    exact ⟨⟨key, key, panelBody panel⟩, mem_panelViews.2 ⟨hkey, panel, hpanel, rfl⟩, rfl⟩

/-- An entry of the table of contents is about a key of the suite, and leads where the style of links
says. -/
theorem mem_toc {session : Session} {style : Report.LinkStyle} {entry : Report.TocEntry}
    (h : entry ∈ (session.page style).toc) :
    entry.key ∈ session.suite.keys ∧ entry.href = session.link style entry.key := by
  obtain ⟨group, hgroup, rfl⟩ := List.mem_map.1 h
  exact ⟨List.mem_map_of_mem hgroup, rfl⟩

/-- The order in which panels are stored plays no part on the page. -/
theorem panelViews_perm {first second : Session} (hnodup : first.panels.keys.Nodup)
    (hsuite : second.suite = first.suite) (hperm : first.panels.Perm second.panels) :
    second.panelViews = first.panelViews := by
  unfold panelViews
  rw [hsuite]
  apply List.filterMap_congr
  intro key _
  unfold panelView?
  rw [Entries.get?_perm hnodup hperm key]

/-- The table of contents lists the keys of the suite. -/
theorem keys_toc (session : Session) (style : Report.LinkStyle) :
    (session.page style).toc.map Report.TocEntry.key = session.suite.keys := by
  show (session.toc style).map Report.TocEntry.key = session.suite.keys
  rw [toc, List.map_map]
  rfl

/-- Panels stand at the even places of a page and separators at the odd ones. -/
theorem sections_alternate (session : Session) (style : Report.LinkStyle) :
    let page := session.page style
    page.sections.length = 2 * page.panels.length - 1 ∧
      (∀ i, page.sections[2 * i]? = (page.panels[i]?).map .panel) ∧
      (∀ i, 2 * i + 1 < page.sections.length → page.sections[2 * i + 1]? = some .separator) ∧
      page.separatorCount = page.panels.length - 1 ∧ page.panels = session.panelViews := by
  intro page
  have hpanels : page.panels = session.panelViews := panels_page session style
  rw [hpanels]
  refine ⟨Report.length_separated _, Report.getElem?_separated_even _, ?_,
    Report.separatorCount_assemble _ _ _ _, rfl⟩
  intro i hi
  exact Report.getElem?_separated_odd hi

/-- The page shows the panels of the keys that were asked for, by the query or by an operation. -/
theorem keys_panels_performAll {settings : Settings} {query : String} {outcome : Outcome}
    {first : Session} {started : List Fetch}
    (hopened : opened settings query outcome = .ok (first, started)) (operations : List Operation)
    (style : Report.LinkStyle) :
    ((first.performAll operations).page style).panels.map Report.Panel.key =
      first.suite.keys.filter fun key =>
        selects first.suite (Query.parse query) key || operations.any (·.asks key) := by
  rw [panels_page, keys_panelViews, suite_performAll]
  apply List.filter_congr
  intro key hkey
  rw [Bool.eq_iff_iff, Entries.has_iff, mem_keys_performAll (Coherent.opened hopened),
    mem_keys_opened hopened, Bool.or_eq_true]
  simp only [hkey, true_and]

/-- A link of a page on its own has a target exactly if the panel of its key is on the page, and leads to
this panel. -/
theorem leads_standalone {session : Session} {entry : Report.TocEntry}
    (hentry : entry ∈ (session.page .standalone).toc) :
    (entry.href ≠ "" ↔ ∃ p ∈ (session.page .standalone).panels, p.key = entry.key) ∧
      (entry.href ≠ "" → (session.page .standalone).Leads entry) := by
  obtain ⟨hkey, hhref⟩ := mem_toc hentry
  rw [link] at hhref
  have hlinked : entry.href ≠ "" ↔ entry.key ∈ session.panels.keys := by
    rw [hhref, ← Entries.has_iff]
    by_cases hhas : session.panels.has entry.key = true
    · simp [hhas, anchor_ne_empty]
    · simp [hhas]
  refine ⟨hlinked.trans (exists_panel_iff .standalone hkey).symm, fun hne => ?_⟩
  obtain ⟨p, hp, hpkey⟩ := (exists_panel_iff .standalone hkey).2 (hlinked.1 hne)
  refine Report.Page.leads_of_anchor hentry ?_ hp hpkey
  rw [hhref, if_pos (Entries.has_iff.2 (hlinked.1 hne))]

/-- Where every benchmark has been asked for, every link to a place on the page leads to a panel. -/
theorem Full.leads {session : Session} (h : session.Full) (hmark : session.loadAll = true)
    {entry : Report.TocEntry} (hentry : entry ∈ (session.page .anchor).toc) :
    (session.page .anchor).Leads entry := by
  obtain ⟨hkey, hhref⟩ := mem_toc hentry
  obtain ⟨p, hp, hpkey⟩ := (exists_panel_iff .anchor hkey).2 (h hmark entry.key hkey)
  exact Report.Page.leads_of_anchor hentry hhref hp hpkey

/-- **Assembly of the page.** For a session that has been opened and has gone through any run of
operations:

* the table of contents lists every key of the suite once, in suite order;
* the page shows the panels of the keys that were asked for, by the query or by an operation, each once
  and in suite order; neither the order of the operations nor the order in which panels are stored
  plays a part in which panels are shown where;
* panels stand at the even places and separators at the odd ones, one less than there are panels;
* where links lead to panels on the page only, an entry has a target exactly if its panel is there, and
  the target is the id of its element; where links lead to places on the page and every benchmark was
  asked for, every entry leads to a panel. -/
theorem page_assembled {settings : Settings} {query : String} {outcome : Outcome}
    {first : Session} {started : List Fetch}
    (hopened : opened settings query outcome = .ok (first, started))
    (operations : List Operation) (style : Report.LinkStyle) :
    let session := first.performAll operations
    let page := session.page style
    (page.toc.map Report.TocEntry.key = session.suite.keys ∧ session.suite.keys.Nodup) ∧
    (page.panels.map Report.Panel.key = session.suite.keys.filter fun key =>
        selects session.suite (Query.parse query) key || operations.any (·.asks key)) ∧
    (∀ p ∈ page.panels, ∃ panel, session.panels.get? p.key = some panel ∧
      p = ⟨p.key, p.key, panelBody panel⟩) ∧
    (∀ key ∈ session.panels.keys, ∃ p ∈ page.panels, p.key = key) ∧
    (∀ others, operations.Perm others →
      ((first.performAll others).page style).panels.map Report.Panel.key =
        page.panels.map Report.Panel.key) ∧
    (∀ other : Session, other.suite = session.suite → session.panels.Perm other.panels →
      (other.page style).panels = page.panels) ∧
    (page.sections.length = 2 * page.panels.length - 1 ∧
      (∀ i, page.sections[2 * i]? = (page.panels[i]?).map .panel) ∧
      (∀ i, 2 * i + 1 < page.sections.length → page.sections[2 * i + 1]? = some .separator) ∧
      page.separatorCount = page.panels.length - 1 ∧ page.panels = session.panelViews) ∧
    (style = .standalone → ∀ entry ∈ page.toc,
      (entry.href ≠ "" ↔ ∃ p ∈ page.panels, p.key = entry.key) ∧
      (entry.href ≠ "" → page.Leads entry)) ∧
    (style = .anchor → session.loadAll = true ∨ Operation.requestAll ∈ operations →
      ∀ entry ∈ page.toc, page.Leads entry) := by
  intro session page
  have hcoh : session.Coherent := (Coherent.opened hopened).performAll operations
  have hsuite : session.suite = first.suite := suite_performAll first operations
  refine ⟨⟨keys_toc session style, hsuite ▸ nodup_keys_opened hopened⟩, ?_, ?_, ?_, ?_, ?_,
    sections_alternate session style, ?_, ?_⟩
  · rw [hsuite]
    exact keys_panels_performAll hopened operations style
  · intro p hp
    exact (mem_panelViews.1 (panels_page session style ▸ hp)).2
  · intro key hkey
    exact (exists_panel_iff style (hcoh.defined key hkey)).2 hkey
  · intro others hperm
    rw [keys_panels_performAll hopened others, keys_panels_performAll hopened operations]
    simp only [hperm.any_eq]
  · intro other hother hperm
    rw [panels_page, panels_page]
    exact panelViews_perm hcoh.nodup hother hperm
  · rintro rfl entry hentry
    exact leads_standalone hentry
  · rintro rfl hall entry hentry
    -- every benchmark has been asked for, at the opening or later
    have hmark : session.loadAll = true := by
      rcases hall with hmark | hmem
      · exact hmark
      · exact loadAll_performAll (Or.inr hmem)
    exact ((Full.opened hopened).performAll (Coherent.opened hopened) operations).leads hmark hentry

/-- The two benchmarks of the sample suite, asked for in the other order: the page shows them in suite
order with one separator between them, and both entries lead to their panels. -/
theorem page_assembled_sample : ∃ session started,
    opened .default "" (.ok sampleSuite) = .ok (session, started) ∧
    let page := (session.performAll [.request "B", .request "A"]).page .standalone
    page.panels.map Report.Panel.key = ["A", "B"] ∧ page.separatorCount = 1 ∧
    ∀ entry ∈ page.toc, page.Leads entry := by
  have hsample : (opened .default "" (.ok sampleSuite)).toOption.map
      (fun state => state.1.suite.keys) = some ["A", "B"] := by
    decide +kernel
  cases hopened : opened .default "" (.ok sampleSuite) with
  | error e => rw [hopened] at hsample; cases hsample
  | ok state =>
    rw [hopened] at hsample
    have hkeys : state.1.suite.keys = ["A", "B"] := Option.some.inj hsample
    obtain ⟨⟨htoc, _⟩, hshown, _, _, _, _, ⟨_, _, _, hcount, _⟩, hlinks, _⟩ :=
      page_assembled hopened [.request "B", .request "A"] .standalone
    rw [suite_performAll, hkeys] at hshown htoc
    have hasked : ∀ key ∈ ["A", "B"],
        ([.request "B", .request "A"] : List Operation).any (·.asks key) = true := by
      decide
    rw [List.filter_eq_self.2 fun key hkey => by rw [hasked key hkey, Bool.or_true]] at hshown
    refine ⟨state.1, state.2, rfl, hshown, ?_, ?_⟩
    · have hlength := congrArg List.length hshown
      rw [List.length_map] at hlength
      rw [hcount, hlength]
      rfl
    · intro entry hentry
      obtain ⟨hlinked, hleads⟩ := hlinks rfl entry hentry
      apply hleads
      rw [hlinked, ← List.mem_map (f := Report.Panel.key), hshown, ← htoc]
      exact List.mem_map_of_mem hentry

end Session

end BenchScope
