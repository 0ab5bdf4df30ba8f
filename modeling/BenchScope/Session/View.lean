import BenchScope.Session.State

/-!
# The page of a session

The table of contents lists every benchmark of the suite. Panels stand in suite order, whatever the
order they were asked for in.
-/

namespace BenchScope.Session

/-- The query that selects a benchmark, all other parameters kept. -/
def selectUrl (session : Session) (key : String) : String :=
  "?" ++ (session.query.set Query.benchmarkName key).toText

/-- What a panel shows. -/
def panelBody : PanelState → Report.Body
  | .loading _ _ => .loading
  | .loaded results code => .loaded (.ofResults results code)
  | .failed message => .failed message

/-- The panel of a key, if it has been asked for. -/
def panelView? (session : Session) (key : String) : Option Report.Panel :=
  (session.panels.get? key).map fun panel => ⟨key, key, panelBody panel⟩

/-- The link to a panel on the same page. -/
def anchor (key : String) : String := "#" ++ Report.panelId key

/-- The link to a benchmark. -/
def link (session : Session) (style : Report.LinkStyle) (key : String) : String :=
  match style with
  | .query => session.selectUrl key
  | .anchor => anchor key
  | .standalone => if session.panels.has key then anchor key else ""

/-- The table of contents. -/
def toc (session : Session) (style : Report.LinkStyle) : List Report.TocEntry :=
  session.suite.groups.map fun entry =>
    ⟨entry.1, entry.2.description, session.link style entry.1⟩

/-- The panels in suite order. -/
def panelViews (session : Session) : List Report.Panel :=
  session.suite.keys.filterMap session.panelView?

/-- The page of a session. -/
def page (session : Session) (style : Report.LinkStyle) : Report.Page :=
  Report.Page.assemble session.suite.name (session.toc style) session.panelViews session.debugLog

end BenchScope.Session
