import BenchScope.Proofs.Entries
import BenchScope.Session.State

/-!
# The life of a panel

What one operation can do to a session, and what follows for every run of operations:

* `request_cases` says all that asking for a benchmark can do, `requestAll_induction` reduces asking
  for every benchmark to it, `select_cases` says which of them a query does, and `get?_apply` says all
  that an answer can do;
* `Extends` is what asking keeps, `Coherent` is what every operation keeps;
* the main statement: a panel is opened once, is loading as long as something is missing, and never
  changes after it has settled, whatever answers come in.
-/

namespace BenchScope

/-- What is known of a result that was computed holds of the value in it. -/
theorem exists_ok_of_toOption {ε α β : Type} {result : Except ε α} {f : α → β} {value : β}
    (h : result.toOption.map f = some value) : ∃ a, result = .ok a ∧ f a = value := by
  cases result with
  | error e => cases h
  | ok a => exact ⟨a, rfl, Option.some.inj h⟩

/-! ## Suites -/

theorem Suite.get_eq_ok_iff {suite : Suite} {key : String} {spec : Spec} :
    suite.get key = .ok spec ↔ suite.groups.get? key = some spec := by
  unfold Suite.get
  cases h : suite.groups.get? key with
  | none => simp
  | some found => simp

/-- A key is refused exactly if the suite does not define it; the error names the key. -/
theorem Suite.get_eq_error_iff {suite : Suite} {key : String} {e : MissingKey} :
    suite.get key = .error e ↔ key ∉ suite.keys ∧ e = ⟨key⟩ := by
  unfold Suite.get Suite.keys
  rw [← Entries.get?_eq_none_iff]
  cases h : suite.groups.get? key with
  | none => simp [eq_comm]
  | some found => simp

theorem Suite.mem_keys_of_get {suite : Suite} {key : String} {spec : Spec}
    (h : suite.get key = .ok spec) : key ∈ suite.keys :=
  Entries.mem_keys_of_get? (Suite.get_eq_ok_iff.1 h)

/-! ## Panels -/

namespace PanelState

/-- A loading panel misses something: its results or its source. -/
def Pending : PanelState → Prop
  | .loading results source => results = none ∨ source = .waiting
  | .loaded _ _ => True
  | .failed _ => True

/-- An answer leaves a settled panel alone. -/
theorem receive_of_settled {panel : PanelState} (event : Event) (h : panel.phase ≠ .loading) :
    panel.receive event = panel := by
  cases panel with
  | loading results source => exact absurd rfl h
  | loaded results code => rfl
  | failed message => rfl

/-- Settling leaves no panel loading to which nothing is missing. -/
theorem settle_pending (results : Option Normalized) (source : SourceState) :
    (PanelState.loading results source).settle.Pending := by
  cases results with
  | none => exact Or.inl rfl
  | some results =>
    cases source with
    | waiting => exact Or.inr rfl
    -- in all other states the panel has loaded
    | notRequested => trivial
    | ready code => trivial
    | unavailable => trivial

/-- A panel that an answer leaves loading misses something. -/
theorem receive_pending {panel : PanelState} (event : Event) (h : panel.Pending) :
    (panel.receive event).Pending := by
  cases panel with
  | loaded results code => trivial
  | failed message => trivial
  | loading results source =>
    unfold receive
    cases event.role with
    | source => exact settle_pending _ _
    | results =>
      dsimp only [withResults]
      cases event.outcome with
      | error e => trivial
      | ok text =>
        dsimp only
        cases Results.parse text with
        | error e => trivial
        | ok parsed => exact settle_pending _ _

end PanelState

/-- The moves of a panel: it is asked for, and it loads or fails. -/
inductive Phase.Advances : Phase → Phase → Prop where
  | stays (phase : Phase) : Advances phase phase
  | requested : Advances .unloaded .loading
  | loaded : Advances .loading .loaded
  | failed : Advances .loading .failed

/-- A loading panel may go to any phase but back. -/
theorem Phase.Advances.of_loading (panel : PanelState) : Phase.Advances .loading panel.phase := by
  cases panel with
  | loading results source => exact .stays _
  | loaded results code => exact .loaded
  | failed message => exact .failed

/-- An answer moves a panel forward. -/
theorem PanelState.advances_receive (panel : PanelState) (event : Event) :
    Phase.Advances panel.phase (panel.receive event).phase := by
  by_cases h : panel.phase = .loading
  · rw [h]
    exact Phase.Advances.of_loading _
  · rw [receive_of_settled event h]
    exact .stays _

namespace Session

/-! ## What an operation can do -/

/-- Starting fetches logs and counts them and changes nothing else. -/
theorem foldl_start (started : List Fetch) (session : Session) :
    ∃ log, started.foldl start session =
      { session with debugLog := log, inFlight := session.inFlight + started.length } := by
  induction started generalizing session with
  | nil => exact ⟨session.debugLog, rfl⟩
  | cons fetch rest ih =>
    obtain ⟨log, hlog⟩ := ih (session.start fetch)
    refine ⟨log, ?_⟩
    rw [List.foldl_cons, hlog, List.length_cons]
    simp only [start, note, Session.mk.injEq, true_and]
    omega

/-- Opening a panel starts its fetches and adds the waiting panel behind the others. -/
theorem openPanel_eq {session : Session} {key : String} (spec : Spec)
    (h : key ∉ session.panels.keys) :
    ∃ log, session.openPanel key spec =
      ({ session with
        panels := session.panels ++ [(key, waitingPanel spec)]
        debugLog := log
        inFlight := session.inFlight + (fetches session.settings key spec).length },
       fetches session.settings key spec) := by
  obtain ⟨log, hlog⟩ := foldl_start (fetches session.settings key spec) session
  refine ⟨log, ?_⟩
  simp only [openPanel, hlog, Entries.put_of_not_mem _ h]

/-- All that an accepted request can do: nothing if there is a panel already; else it starts the
fetches of the benchmark and adds its waiting panel behind the others. -/
theorem request_cases {session next : Session} {key : String} {started : List Fetch}
    (h : session.request key = .ok (next, started)) :
    (key ∈ session.panels.keys ∧ next = session ∧ started = []) ∨
    (key ∉ session.panels.keys ∧ ∃ spec log, session.suite.get key = .ok spec ∧
      started = fetches session.settings key spec ∧
      next = { session with
        panels := session.panels ++ [(key, waitingPanel spec)]
        debugLog := log
        inFlight := session.inFlight + started.length }) := by
  unfold request at h
  by_cases hp : key ∈ session.panels.keys
  · rw [if_pos (Entries.has_iff.2 hp)] at h
    cases h
    exact Or.inl ⟨hp, rfl, rfl⟩
  · rw [if_neg (mt Entries.has_iff.1 hp)] at h
    cases hs : session.suite.get key with
    | error e => rw [hs] at h; cases h
    | ok spec =>
      rw [hs] at h
      obtain ⟨log, hopen⟩ := openPanel_eq spec hp
      have hpair := (Except.ok.inj h).symm.trans hopen
      obtain ⟨hnext, hstarted⟩ := Prod.mk.inj hpair
      refine Or.inr ⟨hp, spec, log, rfl, hstarted, ?_⟩
      rw [hnext, hstarted]

/-- A request is refused exactly if the key has no panel and the suite does not define it. -/
theorem request_eq_error_iff {session : Session} {key : String} {e : MissingKey} :
    session.request key = .error e ↔
      key ∉ session.panels.keys ∧ key ∉ session.suite.keys ∧ e = ⟨key⟩ := by
  unfold request
  by_cases hp : key ∈ session.panels.keys
  · rw [if_pos (Entries.has_iff.2 hp)]
    simp [hp]
  · rw [if_neg (mt Entries.has_iff.1 hp), ← Suite.get_eq_error_iff]
    cases hs : session.suite.get key with
    | error e' => simp [hp]
    | ok spec => simp

/-- Asking for every benchmark is asking for one after the other: what one accepted request keeps,
they keep together. -/
theorem foldl_requestKnown_induction {motive : Session → List Fetch → Prop}
    (step : ∀ {session next : Session} {started more : List Fetch} {key : String},
      motive session started → session.request key = .ok (next, more) →
      motive next (started ++ more))
    (keys : List String) (state : Session × List Fetch) (h : motive state.1 state.2) :
    motive (keys.foldl requestKnown state).1 (keys.foldl requestKnown state).2 := by
  induction keys generalizing state with
  | nil => exact h
  | cons key rest ih =>
    rw [List.foldl_cons]
    apply ih
    unfold requestKnown
    cases hr : state.1.request key with
    | error e => exact h
    | ok answer => exact step h hr

theorem requestAll_induction {motive : Session → List Fetch → Prop} (session : Session)
    (step : ∀ {session next : Session} {started more : List Fetch} {key : String},
      motive session started → session.request key = .ok (next, more) →
      motive next (started ++ more))
    (h : motive { session with loadAll := true } []) :
    motive session.requestAll.1 session.requestAll.2 :=
  foldl_requestKnown_induction step session.suite.keys ({ session with loadAll := true }, []) h

@[simp] theorem keys_updatePanel (panels : Entries PanelState) (key : String)
    (f : PanelState → PanelState) : (updatePanel panels key f).keys = panels.keys := by
  unfold updatePanel Entries.keys
  rw [List.map_map]
  apply List.map_congr_left
  intro entry _
  by_cases h : entry.1 = key <;> simp [h]

theorem get?_updatePanel (panels : Entries PanelState) (key other : String)
    (f : PanelState → PanelState) :
    (updatePanel panels key f).get? other =
      if key = other then (panels.get? other).map f else panels.get? other := by
  induction panels with
  | nil => simp [updatePanel]
  | cons entry rest ih =>
    have hrest : (updatePanel (entry :: rest) key f) =
        (if entry.1 = key then (entry.1, f entry.2) else entry) :: updatePanel rest key f := rfl
    rw [hrest, Entries.get?_cons, Entries.get?_cons, ih]
    by_cases he : entry.1 = key
    · by_cases ho : key = other
      · simp [he, ho]
      · simp [he, ho]
    · by_cases ho : key = other
      · have hne : entry.1 ≠ other := fun h => he (h.trans ho.symm)
        simp [ho, hne]
      · simp [he, ho]

/-- All that an answer can do to panels: its own panel, if there is one, receives it. -/
theorem get?_apply (session : Session) (event : Event) (key : String) :
    (session.apply event).panels.get? key =
      if event.key = key then (session.panels.get? key).map (PanelState.receive event)
      else session.panels.get? key :=
  get?_updatePanel session.panels event.key key (PanelState.receive event)

@[simp] theorem keys_apply (session : Session) (event : Event) :
    (session.apply event).panels.keys = session.panels.keys :=
  keys_updatePanel session.panels event.key (PanelState.receive event)

/-- A query without a selection, or with an empty one, asks for nothing. -/
theorem select_of_blank {session : Session}
    (h : (session.query.get? Query.benchmarkName).getD "" = "") : session.select = .ok (session, []) := by
  unfold select
  cases hget : session.query.get? Query.benchmarkName with
  | none => rfl
  | some key =>
    rw [hget] at h
    exact if_pos h

/-- A key that is selected means itself, unless it is the word for every benchmark and the suite does
not define it. -/
theorem select_of_key {session : Session} {key : String}
    (h : session.query.get? Query.benchmarkName = some key) (hkey : key ≠ "")
    (hone : key = everyKey → key ∈ session.suite.keys) :
    session.select = (session.note ("loading BM from URL: " ++ key)).request key := by
  have hnot : ¬ (key = everyKey ∧ ¬ session.suite.has key = true) := by
    rintro ⟨hall, hhas⟩
    exact hhas (Entries.has_iff.2 (hone hall))
  unfold select
  rw [h]
  dsimp only
  rw [if_neg hkey, if_neg hnot]

/-- In a suite that does not define it, the word for every benchmark asks for every one. -/
theorem select_of_every {session : Session}
    (h : session.query.get? Query.benchmarkName = some everyKey)
    (hnone : everyKey ∉ session.suite.keys) : session.select = .ok session.requestAll := by
  have hall : everyKey = everyKey ∧ ¬ session.suite.has everyKey = true :=
    ⟨rfl, mt Entries.has_iff.1 hnone⟩
  unfold select
  rw [h]
  dsimp only
  rw [if_neg (by decide), if_pos hall]

/-- All that an accepted selection can do: it asks for nothing, for every benchmark or for one. -/
theorem select_cases {session : Session} {state : Session × List Fetch}
    (h : session.select = .ok state) :
    ((session.query.get? Query.benchmarkName).getD "" = "" ∧ state = (session, [])) ∨
    (session.query.get? Query.benchmarkName = some everyKey ∧ everyKey ∉ session.suite.keys ∧
      state = session.requestAll) ∨
    ∃ key, session.query.get? Query.benchmarkName = some key ∧ key ≠ "" ∧
      (key = everyKey → key ∈ session.suite.keys) ∧
      (session.note ("loading BM from URL: " ++ key)).request key = .ok state := by
  by_cases hblank : (session.query.get? Query.benchmarkName).getD "" = ""
  · rw [select_of_blank hblank] at h
    exact Or.inl ⟨hblank, (Except.ok.inj h).symm⟩
  · cases hget : session.query.get? Query.benchmarkName with
    | none =>
      rw [hget] at hblank
      exact absurd rfl hblank
    | some key =>
      rw [hget] at hblank
      by_cases hone : key = everyKey → key ∈ session.suite.keys
      · rw [select_of_key hget hblank hone] at h
        exact Or.inr (Or.inr ⟨key, rfl, hblank, hone, h⟩)
      · obtain ⟨rfl, hnone⟩ := Classical.not_imp.1 hone
        rw [select_of_every hget hnone] at h
        exact Or.inr (Or.inl ⟨rfl, hnone, (Except.ok.inj h).symm⟩)

/-- What the selection of a query leaves, if one request keeps it: the query asks for nothing, for
one benchmark or for every one. -/
theorem select_induction {motive : Session → List Fetch → Prop} {session : Session}
    (init : ∀ (log : Option (List String)) (loadAll : Bool),
      motive { session with debugLog := log, loadAll := loadAll } [])
    (step : ∀ {session next : Session} {started more : List Fetch} {key : String},
      motive session started → session.request key = .ok (next, more) →
      motive next (started ++ more))
    {next : Session} {started : List Fetch} (h : session.select = .ok (next, started)) :
    motive next started := by
  rcases select_cases h with ⟨-, hstate⟩ | ⟨-, -, hstate⟩ | ⟨key, -, -, -, hrequest⟩
  · cases hstate
    exact init session.debugLog session.loadAll
  · have hall := requestAll_induction session step (init session.debugLog true)
    rwa [← hstate] at hall
  · exact step (init _ session.loadAll) hrequest

/-- All that opening a session does: the suite is read, and the query selects from it. -/
theorem opened_cases {settings : Settings} {query : String} {outcome : Outcome}
    {state : Session × List Fetch} (h : opened settings query outcome = .ok state) :
    ∃ text suite line, outcome = .ok text ∧ Suite.parse text = .ok suite ∧
      ((fresh settings suite (Query.parse query)).note line).select = .ok state := by
  unfold opened at h
  cases outcome with
  | error e => cases h
  | ok text =>
    dsimp only at h
    cases hsuite : Suite.parse text with
    | error e => rw [hsuite] at h; cases h
    | ok suite =>
      rw [hsuite] at h
      dsimp only at h
      split at h
      · cases h
      · rename_i selected hselect
        cases h
        exact ⟨text, suite, _, rfl, hsuite, hselect⟩

/-- What a session that has been opened has, if one request keeps it. -/
theorem opened_induction {motive : Session → List Fetch → Prop} {settings : Settings}
    {query : String} {outcome : Outcome}
    (init : ∀ {text : String} {suite : Suite} (log : Option (List String)) (loadAll : Bool),
      outcome = .ok text → Suite.parse text = .ok suite →
      motive { fresh settings suite (Query.parse query) with debugLog := log, loadAll := loadAll } [])
    (step : ∀ {session next : Session} {started more : List Fetch} {key : String},
      motive session started → session.request key = .ok (next, more) →
      motive next (started ++ more))
    {session : Session} {started : List Fetch}
    (h : opened settings query outcome = .ok (session, started)) : motive session started := by
  obtain ⟨text, suite, line, houtcome, hparse, hselect⟩ := opened_cases h
  refine select_induction ?_ step hselect
  intro log loadAll
  exact init log loadAll houtcome hparse

/-! ## What operations keep -/

/-- What asking for benchmarks leaves of a session: panels stay in place, and a new one is waiting. -/
structure Extends (before after : Session) : Prop where
  settings : after.settings = before.settings
  suite : after.suite = before.suite
  keys : before.panels.keys <+: after.panels.keys
  panel : ∀ key, after.panels.get? key = before.panels.get? key ∨
    before.panels.get? key = none ∧ ∃ spec, after.panels.get? key = some (waitingPanel spec)

/-- A session whose log, counts and marks alone have changed. -/
theorem Extends.of_eq {before after : Session} (hsettings : after.settings = before.settings)
    (hsuite : after.suite = before.suite) (hpanels : after.panels = before.panels) :
    Extends before after := by
  refine ⟨hsettings, hsuite, hpanels ▸ List.prefix_rfl, fun key => ?_⟩
  rw [hpanels]
  exact Or.inl rfl

theorem Extends.trans {first second third : Session} (h₁ : Extends first second)
    (h₂ : Extends second third) : Extends first third := by
  refine ⟨h₂.settings.trans h₁.settings, h₂.suite.trans h₁.suite, h₁.keys.trans h₂.keys,
    fun key => ?_⟩
  rcases h₂.panel key with hsame | ⟨hnone, hwaiting⟩
  · rw [hsame]
    exact h₁.panel key
  · rcases h₁.panel key with hsame | ⟨_, spec, hspec⟩
    · exact Or.inr ⟨hsame ▸ hnone, hwaiting⟩
    · -- a panel is not opened twice
      rw [hspec] at hnone
      cases hnone

theorem Extends.request {session next : Session} {key : String} {started : List Fetch}
    (h : session.request key = .ok (next, started)) : Extends session next := by
  rcases request_cases h with ⟨_, rfl, _⟩ | ⟨hnew, spec, log, _, _, rfl⟩
  · exact .of_eq rfl rfl rfl
  · refine ⟨rfl, rfl, ?_, ?_⟩
    · dsimp only
      rw [Entries.keys, Entries.keys, List.map_append]
      exact List.prefix_append _ _
    · intro other
      dsimp only
      rw [← Entries.put_of_not_mem _ hnew, Entries.get?_put]
      by_cases ho : key = other
      · rw [if_pos ho, ← ho]
        exact Or.inr ⟨Entries.get?_eq_none_iff.2 hnew, spec, rfl⟩
      · rw [if_neg ho]
        exact Or.inl rfl

/-- A key of the suite without a panel is accepted, and its panel is put behind the others. -/
theorem request_new {session : Session} {key : String} (hnew : key ∉ session.panels.keys)
    (hkey : key ∈ session.suite.keys) :
    ∃ next started, session.request key = .ok (next, started) ∧ next.settings = session.settings ∧
      next.suite = session.suite ∧ next.panels.keys = session.panels.keys ++ [key] := by
  cases hrequest : session.request key with
  | error e => exact absurd hkey (request_eq_error_iff.1 hrequest).2.1
  | ok state =>
    obtain ⟨next, started⟩ := state
    have hext := Extends.request hrequest
    refine ⟨next, started, rfl, hext.settings, hext.suite, ?_⟩
    rcases request_cases hrequest with ⟨hold, -⟩ | ⟨-, spec, log, -, -, rfl⟩
    · exact absurd hold hnew
    · rw [Entries.keys, List.map_append]
      rfl

theorem Extends.requestAll (session : Session) : Extends session session.requestAll.1 :=
  requestAll_induction (motive := fun next _ => Extends session next) session
    (fun hext hr => hext.trans (.request hr)) (.of_eq rfl rfl rfl)

/-- What holds in every session: one panel to a key, only for keys of the suite, and a loading panel
misses something. -/
structure Coherent (session : Session) : Prop where
  nodup : session.panels.keys.Nodup
  defined : ∀ key ∈ session.panels.keys, key ∈ session.suite.keys
  pending : ∀ key panel, session.panels.get? key = some panel → panel.Pending

theorem Coherent.request {session next : Session} {key : String} {started : List Fetch}
    (h : session.Coherent) (hr : session.request key = .ok (next, started)) : next.Coherent := by
  have hext := Extends.request hr
  rcases request_cases hr with ⟨_, rfl, _⟩ | ⟨hnew, spec, log, hspec, _, rfl⟩
  · exact h
  · have hkeys : Entries.keys (session.panels ++ [(key, waitingPanel spec)]) =
        session.panels.keys ++ [key] := by
      rw [Entries.keys, List.map_append]
      rfl
    constructor
    · dsimp only
      rw [hkeys]
      exact Entries.nodup_append_new h.nodup hnew
    · intro other hother
      dsimp only at hother ⊢
      rw [hkeys, List.mem_append, List.mem_singleton] at hother
      rcases hother with hold | rfl
      · exact h.defined other hold
      · exact Suite.mem_keys_of_get hspec
    · intro other panel hpanel
      rcases hext.panel other with hsame | ⟨_, spec', hwaiting⟩
      · rw [hsame] at hpanel
        exact h.pending other panel hpanel
      · rw [hwaiting] at hpanel
        cases hpanel
        exact Or.inl rfl

theorem Coherent.requestAll {session : Session} (h : session.Coherent) :
    session.requestAll.1.Coherent :=
  requestAll_induction (motive := fun next _ => next.Coherent) session
    (fun hcoh hr => hcoh.request hr) ⟨h.nodup, h.defined, h.pending⟩

theorem Coherent.apply {session : Session} (h : session.Coherent) (event : Event) :
    (session.apply event).Coherent := by
  constructor
  · rw [keys_apply]
    exact h.nodup
  · intro key hkey
    rw [keys_apply] at hkey
    exact h.defined key hkey
  · intro key panel hpanel
    rw [get?_apply] at hpanel
    -- only the panel of the answer has changed
    by_cases hk : event.key = key
    · rw [if_pos hk] at hpanel
      obtain ⟨before, hbefore, rfl⟩ := Option.map_eq_some_iff.1 hpanel
      exact PanelState.receive_pending event (h.pending key before hbefore)
    · rw [if_neg hk] at hpanel
      exact h.pending key panel hpanel

/-- A session is coherent when it is opened. -/
theorem Coherent.opened {settings : Settings} {query : String} {outcome : Outcome}
    {session : Session} {started : List Fetch}
    (h : Session.opened settings query outcome = .ok (session, started)) : session.Coherent := by
  refine opened_induction (motive := fun next _ => next.Coherent) ?_ ?_ h
  · intro text suite log loadAll _ _
    exact ⟨List.nodup_nil, by simp [fresh, Entries.keys], by simp [fresh]⟩
  · intro before next started more key hcoh hr
    exact hcoh.request hr

/-! ## Runs of operations -/

/-- An operation on a session. An answer may be any at all: one to a fetch that was never started, or
one that has been given before. -/
inductive Operation where
  | request (key : String)
  | requestAll
  | apply (event : Event)

/-- The session after an operation; a refused request leaves it as it is. -/
def perform (session : Session) : Operation → Session
  | .request key =>
    match session.request key with
    | .ok (next, _) => next
    | .error _ => session
  | .requestAll => session.requestAll.1
  | .apply event => session.apply event

/-- The session after a run of operations. -/
def performAll (session : Session) (operations : List Operation) : Session :=
  operations.foldl perform session

/-- All that an operation can do: it asks for benchmarks, or it applies an answer. -/
theorem perform_cases (session : Session) (operation : Operation) :
    Extends session (session.perform operation) ∨
      ∃ event, session.perform operation = session.apply event := by
  cases operation with
  | request key =>
    left
    dsimp only [perform]
    cases h : session.request key with
    | error e => exact .of_eq rfl rfl rfl
    | ok answer => exact .request h
  | requestAll => exact Or.inl (.requestAll session)
  | apply event => exact Or.inr ⟨event, rfl⟩

theorem Coherent.perform {session : Session} (h : session.Coherent) (operation : Operation) :
    (session.perform operation).Coherent := by
  cases operation with
  | request key =>
    dsimp only [Session.perform]
    cases hr : session.request key with
    | error e => exact h
    | ok answer => exact h.request hr
  | requestAll => exact h.requestAll
  | apply event => exact h.apply event

theorem Coherent.performAll {session : Session} (h : session.Coherent)
    (operations : List Operation) : (session.performAll operations).Coherent := by
  induction operations generalizing session with
  | nil => exact h
  | cons operation rest ih => exact ih (h.perform operation)

/-- An operation removes no panel and keeps their order. -/
theorem keys_perform (session : Session) (operation : Operation) :
    session.panels.keys <+: (session.perform operation).panels.keys := by
  rcases perform_cases session operation with hext | ⟨event, hevent⟩
  · exact hext.keys
  · have hkeys : (session.perform operation).panels.keys = session.panels.keys := by
      rw [hevent, keys_apply]
    exact hkeys ▸ List.prefix_rfl

/-- An operation does not change a settled panel. -/
theorem perform_of_settled {session : Session} {key : String} {panel : PanelState}
    (hpanel : session.panels.get? key = some panel) (hsettled : panel.phase ≠ .loading)
    (operation : Operation) : (session.perform operation).panels.get? key = some panel := by
  rcases perform_cases session operation with hext | ⟨event, hevent⟩
  · rcases hext.panel key with hsame | ⟨hnone, _⟩
    · rw [hsame, hpanel]
    · rw [hpanel] at hnone
      cases hnone
  · rw [hevent, get?_apply, hpanel, Option.map_some, PanelState.receive_of_settled event hsettled,
      ite_self]

/-- A settled panel stays as it is for good. -/
theorem performAll_of_settled {session : Session} {key : String} {panel : PanelState}
    (hpanel : session.panels.get? key = some panel) (hsettled : panel.phase ≠ .loading)
    (operations : List Operation) :
    (session.performAll operations).panels.get? key = some panel := by
  induction operations generalizing session with
  | nil => exact hpanel
  | cons operation rest ih => exact ih (perform_of_settled hpanel hsettled operation)

/-- An operation moves the panel of a key at most one phase forward. -/
theorem advances_perform (session : Session) (operation : Operation) (key : String) :
    Phase.Advances (session.phase key) ((session.perform operation).phase key) := by
  unfold phase
  rcases perform_cases session operation with hext | ⟨event, hevent⟩
  · rcases hext.panel key with hsame | ⟨hnone, spec, hspec⟩
    · rw [hsame]
      exact .stays _
    · rw [hnone, hspec]
      exact .requested
  · rw [hevent, get?_apply]
    by_cases hk : event.key = key
    · rw [if_pos hk]
      cases session.panels.get? key with
      | none => exact .stays _
      | some panel => exact PanelState.advances_receive panel event
    · rw [if_neg hk]
      exact .stays _

/-- **The life of a panel.** In a session that has been opened and has gone through any run of
operations, with any answers whatever:

* an answer changes no panel but its own, opens none, and keeps the suite, the query and the mark
  that everything was asked for;
* a panel that has loaded or failed is never changed again;
* each operation moves a panel at most one phase forward, and removes none;
* a loading panel misses its results or its source;
* no two panels have the same key, and every key is one of the suite. -/
theorem panel_lifecycle {settings : Settings} {query : String} {outcome : Outcome}
    {first : Session} {started : List Fetch}
    (hopened : opened settings query outcome = .ok (first, started))
    (operations : List Operation) :
    let session := first.performAll operations
    (∀ event : Event,
      (∀ key, key ≠ event.key →
        (session.apply event).panels.get? key = session.panels.get? key) ∧
      (session.apply event).panels.keys = session.panels.keys ∧
      (session.apply event).suite = session.suite ∧
      (session.apply event).query = session.query ∧
      (session.apply event).loadAll = session.loadAll) ∧
    (∀ key panel, session.panels.get? key = some panel →
      panel.phase = .loaded ∨ panel.phase = .failed →
      ∀ later, (session.performAll later).panels.get? key = some panel) ∧
    (∀ operation,
      (∀ key, Phase.Advances (session.phase key) ((session.perform operation).phase key)) ∧
      session.panels.keys <+: (session.perform operation).panels.keys) ∧
    (∀ key results source, session.panels.get? key = some (.loading results source) →
      results = none ∨ source = .waiting) ∧
    session.panels.keys.Nodup ∧
    (∀ key ∈ session.panels.keys, key ∈ session.suite.keys) := by
  intro session
  have hcoh : session.Coherent := (Coherent.opened hopened).performAll operations
  refine ⟨?_, ?_, ?_, ?_, hcoh.nodup, hcoh.defined⟩
  · intro event
    refine ⟨fun key hkey => ?_, keys_apply session event, rfl, rfl, rfl⟩
    rw [get?_apply, if_neg (Ne.symm hkey)]
  · intro key panel hpanel hphase later
    apply performAll_of_settled hpanel
    rcases hphase with h | h <;> rw [h] <;> decide
  · intro operation
    exact ⟨advances_perform session operation, keys_perform session operation⟩
  · intro key results source hpanel
    exact hcoh.pending key _ hpanel

/-- A suite with one benchmark that has a source, and one that has none. -/
def sampleSuite : String :=
  "\x7b\"name\":\"demo\",\"benchmarks\":\x7b\"A\":\x7b\"results\":\"a.json\",\"src\":\"a.cpp\"\x7d," ++
    "\"B\":\x7b\"results\":\"b.json\",\"src\":\"\"\x7d\x7d\x7d"

/-- The answer that the results of `A` do not exist. -/
def sampleFailure : Event := ⟨"A", .results, "bm/a.json", .error (.notFound "bm/a.json")⟩

theorem opened_sample : (opened .default "bm=A" (.ok sampleSuite)).toOption.map
    (fun state => ((state.1.performAll [.apply sampleFailure]).panels.get? "A").map PanelState.phase) =
      some (some .failed) := by
  decide +kernel

/-- A panel that failed in a session opened on the sample suite stays failed, also when its results
arrive after all. -/
theorem panel_lifecycle_sample : ∃ session started,
    opened .default "bm=A" (.ok sampleSuite) = .ok (session, started) ∧
    ∃ panel, (session.performAll [.apply sampleFailure]).panels.get? "A" = some panel ∧
      panel.phase = .failed ∧
      ∀ later, ((session.performAll [.apply sampleFailure]).performAll later).panels.get? "A" =
        some panel := by
  have hsample := opened_sample
  cases hopened : opened .default "bm=A" (.ok sampleSuite) with
  | error e => rw [hopened] at hsample; cases hsample
  | ok state =>
    rw [hopened] at hsample
    obtain ⟨panel, hpanel, hphase⟩ := Option.map_eq_some_iff.1 (Option.some.inj hsample)
    have hpair : opened .default "bm=A" (.ok sampleSuite) = .ok (state.1, state.2) := hopened
    have hlife := panel_lifecycle hpair [.apply sampleFailure]
    exact ⟨state.1, state.2, rfl, panel, hpanel, hphase,
      hlife.2.1 "A" panel hpanel (Or.inr hphase)⟩

end Session

end BenchScope
