import BenchScope.Proofs.Lifecycle
import Mathlib.Data.List.Nodup
import Mathlib.Data.List.Perm.Subperm

/-!
# Answers in any order

A `Ledger` is a session with its history: every fetch that it has started and every answer that has
been applied. Fetches are answered at most once each, in any order, and requests may come in between.
The main statement: the panel of a key depends only on the key's own group and on the outcomes of the
key's own two fetches, as far as they have been applied. What carries it is `Ledger.Consistent`.
-/

namespace BenchScope

/-- The fetch that an event answers. -/
def Event.fetch (event : Event) : Fetch := ⟨event.key, event.role, event.path⟩

@[simp] theorem Event.fetch_answered (fetch : Fetch) (outcome : Outcome) :
    (fetch.answered outcome).fetch = fetch := rfl

@[simp] theorem Event.answered_fetch (event : Event) :
    event.fetch.answered event.outcome = event := rfl

/-- What a document of a benchmark gave, if its answer is among those that have been applied. -/
def outcome? (applied : List Event) (key : String) (role : Role) : Option Outcome :=
  (applied.find? fun event => event.key = key ∧ event.role = role).map Event.outcome

theorem outcome?_eq_none_iff {applied : List Event} {key : String} {role : Role} :
    outcome? applied key role = none ↔
      ∀ event ∈ applied, ¬ (event.key = key ∧ event.role = role) := by
  unfold outcome?
  rw [Option.map_eq_none_iff, List.find?_eq_none]
  simp

/-- An answer that is applied counts for its own document, unless an earlier one does. -/
theorem outcome?_append (applied : List Event) (event : Event) (key : String) (role : Role) :
    outcome? (applied ++ [event]) key role =
      (outcome? applied key role).or
        (if event.key = key ∧ event.role = role then some event.outcome else none) := by
  unfold outcome?
  rw [List.find?_append, Option.map_or]
  by_cases h : event.key = key ∧ event.role = role
  · simp [h]
  · simp [h]

/-! ## The panel of given outcomes -/

/-- What is known of a source, given what its fetch gave. -/
def Spec.sourceState (spec : Spec) (source : Option Outcome) : SourceState :=
  if spec.hasSource then
    match source with
    | none => .waiting
    | some (.ok text) => .ready (.ofFile spec.source text)
    | some (.error _) => .unavailable
  else .notRequested

/-- The panel of a benchmark, given what the fetches of its results and of its source gave; none for
a fetch whose answer has not been applied. -/
def PanelState.ofOutcomes (resultsPath : String) (spec : Spec) (results source : Option Outcome) :
    PanelState :=
  match results with
  | none => .loading none (spec.sourceState source)
  | some (.error e) => .failed e.message
  | some (.ok text) =>
    match Results.parse text with
    | .error e => .failed (resultsPath ++ ": " ++ e.message)
    | .ok parsed =>
      if spec.hasSource ∧ source = none then .loading (some (.ofResults parsed)) .waiting
      else .loaded (.ofResults parsed) (spec.sourceState source).code?

namespace PanelState

variable {resultsPath : String} {spec : Spec} {results source : Option Outcome}

/-- A panel for which nothing has been applied waits for its documents. -/
theorem ofOutcomes_none : ofOutcomes resultsPath spec none none = Session.waitingPanel spec := rfl

/-- A panel to which nothing is missing settles with the code that is known. -/
theorem settle_sourceState (normalized : Normalized) :
    (loading (some normalized) (spec.sourceState source)).settle =
      if spec.hasSource ∧ source = none then .loading (some normalized) .waiting
      else .loaded normalized (spec.sourceState source).code? := by
  unfold Spec.sourceState
  by_cases hs : spec.hasSource
  · rcases source with _ | (e | text)
    · simp [hs, settle]
    · simp [hs, settle]
    · simp [hs, settle]
  · simp [hs, settle]

/-- The answer to the fetch of the results makes the panel that of the outcome. -/
theorem receive_results (key : String) (outcome : Outcome) :
    (ofOutcomes resultsPath spec none source).receive ⟨key, .results, resultsPath, outcome⟩ =
      ofOutcomes resultsPath spec (some outcome) source := by
  cases outcome with
  | error e => rfl
  | ok text =>
    dsimp only [ofOutcomes, receive, withResults]
    cases Results.parse text with
    | error e => rfl
    | ok parsed => exact settle_sourceState (.ofResults parsed)

/-- The answer to the fetch of the source makes the panel that of the outcome, also if the results
have failed before. -/
theorem receive_source (key : String) (outcome : Outcome) (hs : spec.hasSource = true) :
    (ofOutcomes resultsPath spec results none).receive ⟨key, .source, spec.source, outcome⟩ =
      ofOutcomes resultsPath spec results (some outcome) := by
  have hknown : SourceState.ofOutcome spec.source outcome = spec.sourceState (some outcome) := by
    cases outcome <;> simp [SourceState.ofOutcome, Spec.sourceState, hs]
  rcases results with _ | (e | text)
  · dsimp only [ofOutcomes, receive]
    rw [hknown]
    rfl
  · rfl
  · dsimp only [ofOutcomes]
    cases Results.parse text with
    | error e => rfl
    | ok parsed =>
      -- the panel has its results and waits for the source
      simp only [hs, and_self, if_true, receive]
      rw [hknown, settle_sourceState]
      simp

/-- A panel has failed exactly if its results could not be fetched or not be read. -/
theorem ofOutcomes_eq_failed_iff {message : String} :
    ofOutcomes resultsPath spec results source = .failed message ↔
      (∃ e, results = some (.error e) ∧ message = e.message) ∨
      (∃ text e, results = some (.ok text) ∧ Results.parse text = .error e ∧
        message = resultsPath ++ ": " ++ e.message) := by
  rcases results with _ | (e | text)
  · simp [ofOutcomes]
  · simp [ofOutcomes, eq_comm]
  · simp only [ofOutcomes]
    cases hp : Results.parse text with
    | error e => simp [hp, eq_comm]
    | ok parsed =>
      by_cases hw : spec.hasSource ∧ source = none
      · simp [hw, hp]
      · simp [hw, hp]

/-- A panel has loaded exactly if its results could be read and its source is there, given up or not
asked for. -/
theorem ofOutcomes_eq_loaded_iff {normalized : Normalized} {code : Option Report.Code} :
    ofOutcomes resultsPath spec results source = .loaded normalized code ↔
      ∃ text parsed, results = some (.ok text) ∧ Results.parse text = .ok parsed ∧
        normalized = .ofResults parsed ∧
        ((spec.hasSource = false ∧ code = none) ∨
          (spec.hasSource = true ∧ ∃ content, source = some (.ok content) ∧
            code = some (.ofFile spec.source content)) ∨
          (spec.hasSource = true ∧ ∃ e, source = some (.error e) ∧ code = none)) := by
  rcases results with _ | (e | text)
  · simp [ofOutcomes]
  · simp [ofOutcomes]
  · simp only [ofOutcomes]
    cases hp : Results.parse text with
    | error e => simp [hp]
    | ok parsed =>
      cases hs : spec.hasSource with
      | false => simp [hp, Spec.sourceState, hs, SourceState.code?, eq_comm]
      | true =>
        rcases source with _ | (e | content)
        · simp
        · simp [hp, Spec.sourceState, hs, SourceState.code?, eq_comm]
        · simp [hp, Spec.sourceState, hs, SourceState.code?, eq_comm]

/-- A panel is loading exactly if its results are missing, or its source is. -/
theorem ofOutcomes_loading_iff :
    (ofOutcomes resultsPath spec results source).phase = .loading ↔
      results = none ∨
      (∃ text parsed, results = some (.ok text) ∧ Results.parse text = .ok parsed ∧
        spec.hasSource = true ∧ source = none) := by
  rcases results with _ | (e | text)
  · simp [ofOutcomes, phase]
  · simp [ofOutcomes, phase]
  · simp only [ofOutcomes]
    cases hp : Results.parse text with
    | error e => simp [phase, hp]
    | ok parsed =>
      by_cases hw : spec.hasSource ∧ source = none
      · simp [hw, hp, phase]
      · simp [hw, phase]

/-- What a loading panel shows of the outcomes. -/
theorem loading_eq_ofOutcomes {normalized : Option Normalized} {state : SourceState}
    (h : loading normalized state = ofOutcomes resultsPath spec results source) :
    (normalized = none ↔ results = none) ∧
      (state = .waiting ↔ spec.hasSource = true ∧ source = none) := by
  rcases results with _ | (e | text)
  · obtain ⟨rfl, rfl⟩ := PanelState.loading.inj h
    refine ⟨by simp, ?_⟩
    unfold Spec.sourceState
    by_cases hs : spec.hasSource
    · rcases source with _ | (e | text) <;> simp [hs]
    · simp [hs]
  · cases h
  · dsimp only [ofOutcomes] at h
    cases hp : Results.parse text with
    | error e => rw [hp] at h; cases h
    | ok parsed =>
      rw [hp] at h
      dsimp only at h
      by_cases hw : spec.hasSource ∧ source = none
      · rw [if_pos hw] at h
        obtain ⟨rfl, rfl⟩ := PanelState.loading.inj h
        simp [hw]
      · rw [if_neg hw] at h
        cases h

end PanelState

/-! ## The fetches of a session -/

namespace Session

theorem mem_fetches {settings : Settings} {key : String} {spec : Spec} {fetch : Fetch} :
    fetch ∈ fetches settings key spec ↔
      (spec.hasSource = true ∧ fetch = ⟨key, .source, spec.source⟩) ∨
        fetch = ⟨key, .results, settings.resultsPath spec.results⟩ := by
  unfold fetches
  by_cases hs : spec.hasSource <;> simp [hs]

/-- The fetches that a key of the suite needs. -/
def fetchesOf (session : Session) (key : String) : List Fetch :=
  match session.suite.get key with
  | .ok spec => fetches session.settings key spec
  | .error _ => []

theorem fetchesOf_eq {session : Session} {key : String} {spec : Spec}
    (h : session.suite.get key = .ok spec) :
    session.fetchesOf key = fetches session.settings key spec := by
  unfold fetchesOf
  rw [h]

theorem key_of_mem_fetchesOf {session : Session} {key : String} {fetch : Fetch}
    (h : fetch ∈ session.fetchesOf key) : fetch.key = key := by
  unfold fetchesOf at h
  split at h
  · rcases mem_fetches.1 h with ⟨_, rfl⟩ | rfl <;> rfl
  · cases h

/-- A key has one fetch to a document. -/
theorem eq_of_mem_fetchesOf {session : Session} {key : String} {first second : Fetch}
    (h₁ : first ∈ session.fetchesOf key) (h₂ : second ∈ session.fetchesOf key)
    (hrole : first.role = second.role) : first = second := by
  unfold fetchesOf at h₁ h₂
  split at h₁
  · rename_i spec hspec
    rw [hspec] at h₂
    rcases mem_fetches.1 h₁ with ⟨_, rfl⟩ | rfl <;> rcases mem_fetches.1 h₂ with ⟨_, rfl⟩ | rfl
    · rfl
    · cases hrole
    · cases hrole
    · rfl
  · cases h₁

end Session

/-! ## Histories -/

/-- A session with its history: every fetch it has started, and every answer applied to it. -/
structure Ledger where
  session : Session
  started : List Fetch
  applied : List Event

namespace Ledger

/-- Asks for a benchmark; a refused request changes nothing. -/
def request (ledger : Ledger) (key : String) : Ledger :=
  match ledger.session.request key with
  | .ok (session, started) => { ledger with session, started := ledger.started ++ started }
  | .error _ => ledger

/-- Asks for every benchmark. -/
def requestAll (ledger : Ledger) : Ledger :=
  { ledger with
    session := ledger.session.requestAll.1
    started := ledger.started ++ ledger.session.requestAll.2 }

/-- Applies an answer. -/
def deliver (ledger : Ledger) (event : Event) : Ledger :=
  { ledger with session := ledger.session.apply event, applied := ledger.applied ++ [event] }

/-- A fetch that has started and whose answer has not been applied. -/
def Outstanding (ledger : Ledger) (fetch : Fetch) : Prop :=
  fetch ∈ ledger.started ∧ fetch ∉ ledger.applied.map Event.fetch

/-- A step of a history: a request, or the answer to an outstanding fetch, with any outcome. -/
inductive Step : Ledger → Ledger → Prop where
  | request (ledger : Ledger) (key : String) : Step ledger (ledger.request key)
  | requestAll (ledger : Ledger) : Step ledger ledger.requestAll
  | deliver {ledger : Ledger} (fetch : Fetch) (outcome : Outcome)
      (h : ledger.Outstanding fetch) : Step ledger (ledger.deliver (fetch.answered outcome))

/-- The histories of sessions opened with the given settings, query and suite document. -/
inductive Reachable (settings : Settings) (query : String) (suite : Outcome) : Ledger → Prop where
  | opened {session : Session} {started : List Fetch}
      (h : Session.opened settings query suite = .ok (session, started)) :
      Reachable settings query suite ⟨session, started, []⟩
  | step {before after : Ledger} (h : Reachable settings query suite before)
      (hstep : Step before after) : Reachable settings query suite after

/-- What every history keeps: the fetches are those of the panels, in order; answers are answers to
fetches, one to each at most; what is in flight is what has started and has not been applied; and every
panel is that of the outcomes applied for its key. -/
structure Consistent (ledger : Ledger) : Prop where
  coherent : ledger.session.Coherent
  started_eq : ledger.started = ledger.session.panels.keys.flatMap ledger.session.fetchesOf
  applied_started : ∀ event ∈ ledger.applied, event.fetch ∈ ledger.started
  applied_nodup : (ledger.applied.map Event.fetch).Nodup
  balance : ledger.session.inFlight + ledger.applied.length = ledger.started.length
  panel_eq : ∀ key spec panel, ledger.session.panels.get? key = some panel →
    ledger.session.suite.get key = .ok spec →
    panel = .ofOutcomes (ledger.session.settings.resultsPath spec.results) spec
      (outcome? ledger.applied key .results) (outcome? ledger.applied key .source)

namespace Consistent

variable {ledger : Ledger}

/-- A fetch that has started belongs to the panel of its key. -/
theorem mem_fetchesOf (h : ledger.Consistent) {fetch : Fetch} (hf : fetch ∈ ledger.started) :
    fetch.key ∈ ledger.session.panels.keys ∧ fetch ∈ ledger.session.fetchesOf fetch.key := by
  rw [h.started_eq, List.mem_flatMap] at hf
  obtain ⟨key, hkey, hf⟩ := hf
  have hk := Session.key_of_mem_fetchesOf hf
  exact ⟨hk ▸ hkey, hk ▸ hf⟩

/-- There is one fetch to a document. -/
theorem eq_of_started (h : ledger.Consistent) {first second : Fetch}
    (h₁ : first ∈ ledger.started) (h₂ : second ∈ ledger.started)
    (hkey : first.key = second.key) (hrole : first.role = second.role) : first = second := by
  have hfirst := (h.mem_fetchesOf h₁).2
  rw [hkey] at hfirst
  exact Session.eq_of_mem_fetchesOf hfirst (h.mem_fetchesOf h₂).2 hrole

/-- Nothing has been applied for a key without a panel. -/
theorem outcome?_of_not_mem (h : ledger.Consistent) {key : String} (role : Role)
    (hkey : key ∉ ledger.session.panels.keys) : outcome? ledger.applied key role = none := by
  rw [outcome?_eq_none_iff]
  rintro event hevent ⟨rfl, _⟩
  exact hkey (h.mem_fetchesOf (h.applied_started event hevent)).1

/-- Nothing has been applied for the document of an outstanding fetch. -/
theorem outcome?_of_outstanding (h : ledger.Consistent) {fetch : Fetch}
    (hf : ledger.Outstanding fetch) : outcome? ledger.applied fetch.key fetch.role = none := by
  rw [outcome?_eq_none_iff]
  rintro event hevent ⟨hkey, hrole⟩
  have hsame : event.fetch = fetch :=
    h.eq_of_started (h.applied_started event hevent) hf.1 hkey hrole
  exact hf.2 (List.mem_map.2 ⟨event, hevent, hsame⟩)

/-- As long as a fetch is outstanding, something is in flight. -/
theorem inFlight_pos (h : ledger.Consistent) {fetch : Fetch} (hf : ledger.Outstanding fetch) :
    0 < ledger.session.inFlight := by
  -- the fetch and the answered ones are different fetches that have all started
  have hnodup : (fetch :: ledger.applied.map Event.fetch).Nodup :=
    List.nodup_cons.2 ⟨hf.2, h.applied_nodup⟩
  have hsub : fetch :: ledger.applied.map Event.fetch ⊆ ledger.started := by
    intro other hother
    rcases List.mem_cons.1 hother with rfl | hother
    · exact hf.1
    · obtain ⟨event, hevent, rfl⟩ := List.mem_map.1 hother
      exact h.applied_started event hevent
  have hlen := (List.subperm_of_subset hnodup hsub).length_le
  rw [List.length_cons, List.length_map] at hlen
  have := h.balance
  omega

/-- Requests keep histories consistent. -/
theorem request_ok {session next : Session} {key : String} {started more : List Fetch}
    {applied : List Event} (h : Consistent ⟨session, started, applied⟩)
    (hr : session.request key = .ok (next, more)) :
    Consistent ⟨next, started ++ more, applied⟩ := by
  have hcoh := h.coherent.request hr
  rcases Session.request_cases hr with ⟨_, rfl, rfl⟩ | ⟨hnew, spec, log, hspec, hmore, hnext⟩
  · rw [List.append_nil]
    exact h
  · have hkeys : next.panels.keys = session.panels.keys ++ [key] := by
      rw [hnext, Entries.keys, List.map_append]
      rfl
    -- which fetches a key has is told by the suite, which stays
    have hfetches : next.fetchesOf = session.fetchesOf := by rw [hnext]; rfl
    refine ⟨hcoh, ?_, ?_, h.applied_nodup, ?_, ?_⟩
    -- the new panel stands last, and its fetches behind those that have begun
    · dsimp only
      rw [hkeys, hfetches, List.flatMap_append, ← h.started_eq, List.flatMap_singleton,
        Session.fetchesOf_eq hspec, hmore]
    · intro event hevent
      exact List.mem_append_left more (h.applied_started event hevent)
    · have hbal := h.balance
      dsimp only at hbal ⊢
      rw [List.length_append, hnext]
      dsimp only
      omega
    · intro other spec' panel hpanel hspec'
      dsimp only at hpanel hspec' ⊢
      rw [hnext] at hpanel hspec' ⊢
      dsimp only at hpanel hspec' ⊢
      rw [← Entries.put_of_not_mem _ hnew, Entries.get?_put] at hpanel
      by_cases ho : key = other
      · -- the new panel: nothing has been applied for its key
        subst ho
        rw [if_pos rfl] at hpanel
        rw [hspec] at hspec'
        cases hspec'
        cases hpanel
        rw [h.outcome?_of_not_mem .results hnew, h.outcome?_of_not_mem .source hnew,
          PanelState.ofOutcomes_none]
      · rw [if_neg ho] at hpanel
        exact h.panel_eq other spec' panel hpanel hspec'

theorem request (h : ledger.Consistent) (key : String) : (ledger.request key).Consistent := by
  unfold Ledger.request
  cases hr : ledger.session.request key with
  | error e => exact h
  | ok answer => exact h.request_ok hr

theorem requestAll (h : ledger.Consistent) : ledger.requestAll.Consistent := by
  refine Session.requestAll_induction
    (motive := fun next more => Consistent ⟨next, ledger.started ++ more, ledger.applied⟩)
    ledger.session ?_ ?_
  · intro session next started more key hcons hr
    rw [← List.append_assoc]
    exact hcons.request_ok hr
  · rw [List.append_nil]
    exact ⟨⟨h.coherent.nodup, h.coherent.defined, h.coherent.pending⟩, h.started_eq,
      h.applied_started, h.applied_nodup, h.balance, h.panel_eq⟩

/-- The panel of a key after the answer to an outstanding fetch of the key. -/
theorem receive_answered (h : ledger.Consistent) {fetch : Fetch} (hf : ledger.Outstanding fetch)
    (outcome : Outcome) {spec : Spec} (hspec : ledger.session.suite.get fetch.key = .ok spec) :
    let path := ledger.session.settings.resultsPath spec.results
    let applied := ledger.applied ++ [fetch.answered outcome]
    (PanelState.ofOutcomes path spec (outcome? ledger.applied fetch.key .results)
        (outcome? ledger.applied fetch.key .source)).receive (fetch.answered outcome) =
      .ofOutcomes path spec (outcome? applied fetch.key .results)
        (outcome? applied fetch.key .source) := by
  intro path applied
  have hnone := h.outcome?_of_outstanding hf
  have hmem := (h.mem_fetchesOf hf.1).2
  rw [Session.fetchesOf_eq hspec] at hmem
  rcases fetch with ⟨key, role, location⟩
  dsimp only [applied] at hnone hmem hspec ⊢
  rw [outcome?_append, outcome?_append]
  -- the answer is new to its own document and leaves the other one alone
  rcases Session.mem_fetches.1 hmem with ⟨hs, hfetch⟩ | hfetch
  · cases hfetch
    rw [hnone]
    simpa [Fetch.answered] using PanelState.receive_source key outcome hs
  · cases hfetch
    rw [hnone]
    simpa [Fetch.answered] using PanelState.receive_results key outcome

theorem deliver (h : ledger.Consistent) {fetch : Fetch} (outcome : Outcome)
    (hf : ledger.Outstanding fetch) :
    (ledger.deliver (fetch.answered outcome)).Consistent := by
  have hpos := h.inFlight_pos hf
  refine ⟨h.coherent.apply _, ?_, ?_, ?_, ?_, ?_⟩
  · show ledger.started =
      (ledger.session.apply (fetch.answered outcome)).panels.keys.flatMap ledger.session.fetchesOf
    rw [Session.keys_apply, ← h.started_eq]
  · intro event hevent
    rcases List.mem_append.1 hevent with hold | hnew
    · exact h.applied_started event hold
    · rw [List.mem_singleton.1 hnew]
      exact hf.1
  · show ((ledger.applied ++ [fetch.answered outcome]).map Event.fetch).Nodup
    rw [List.map_append, List.map_singleton, Event.fetch_answered]
    exact Entries.nodup_append_new h.applied_nodup hf.2
  · have hbal := h.balance
    show ledger.session.inFlight - 1 + (ledger.applied ++ [fetch.answered outcome]).length =
      ledger.started.length
    rw [List.length_append, List.length_singleton]
    omega
  · intro key spec panel hpanel hspec
    have hget := (Session.get?_apply ledger.session (fetch.answered outcome) key).symm.trans hpanel
    by_cases hk : (fetch.answered outcome).key = key
    · -- its own panel: the answer is what the document gave
      subst hk
      rw [if_pos rfl] at hget
      obtain ⟨before, hbefore, rfl⟩ := Option.map_eq_some_iff.1 hget
      rw [h.panel_eq _ spec before hbefore hspec]
      exact h.receive_answered hf outcome hspec
    · -- another panel: nothing new has been applied for its key
      rw [if_neg hk] at hget
      have hother : ∀ role, outcome? (ledger.applied ++ [fetch.answered outcome]) key role =
          outcome? ledger.applied key role := by
        intro role
        rw [outcome?_append, if_neg (fun hc => hk hc.1), Option.or_none]
      show panel = .ofOutcomes (ledger.session.settings.resultsPath spec.results) spec
        (outcome? (ledger.applied ++ [fetch.answered outcome]) key .results)
        (outcome? (ledger.applied ++ [fetch.answered outcome]) key .source)
      rw [hother, hother]
      exact h.panel_eq key spec panel hget hspec

theorem step {after : Ledger} (h : ledger.Consistent) (hstep : Step ledger after) :
    after.Consistent := by
  cases hstep with
  | request key => exact h.request key
  | requestAll => exact h.requestAll
  | deliver fetch outcome hf => exact h.deliver outcome hf

end Consistent

/-- Every history is consistent. -/
theorem Reachable.consistent {settings : Settings} {query : String} {suite : Outcome}
    {ledger : Ledger} (h : Reachable settings query suite ledger) : ledger.Consistent := by
  induction h with
  | opened hopened =>
    refine Session.opened_induction
      (motive := fun next started => Consistent ⟨next, started, []⟩) ?_ ?_ hopened
    · intro text suite log loadAll _ _
      refine ⟨⟨List.nodup_nil, ?_, ?_⟩, rfl, ?_, List.nodup_nil, rfl, ?_⟩
      · intro key hkey; cases hkey
      · intro key panel hpanel; cases hpanel
      · intro event hevent; cases hevent
      · intro key spec panel hpanel; cases hpanel
    · intro session next started more key hcons hr
      exact hcons.request_ok hr
  | step _ hstep ih => exact ih.step hstep

/-- The settings of a history and its suite are those it was opened with. -/
theorem Reachable.origin {settings : Settings} {query : String} {suite : Outcome}
    {ledger : Ledger} (h : Reachable settings query suite ledger) :
    ledger.session.settings = settings ∧
      ∃ text, suite = .ok text ∧ Suite.parse text = .ok ledger.session.suite := by
  -- neither the settings nor the suite change after the opening
  induction h with
  | opened hopened =>
    refine Session.opened_induction (motive := fun next _ => next.settings = settings ∧
      ∃ text, suite = .ok text ∧ Suite.parse text = .ok next.suite) ?_ ?_ hopened
    · intro text parsed log loadAll hsuite hparse
      exact ⟨rfl, text, hsuite, hparse⟩
    · intro session next started more key horigin hr
      have hext := Session.Extends.request hr
      rwa [hext.settings, hext.suite]
  | @step before after _ hstep ih =>
    cases hstep with
    | request key =>
      unfold request
      cases hr : before.session.request key with
      | error e => exact ih
      | ok answer =>
        have hext := Session.Extends.request hr
        dsimp only
        rwa [hext.settings, hext.suite]
    | requestAll =>
      have hext := Session.Extends.requestAll before.session
      dsimp only [requestAll]
      rwa [hext.settings, hext.suite]
    | deliver fetch outcome hf => exact ih

/-- An answer that has been applied is what its document gave. -/
theorem Consistent.outcome?_eq_some_iff {ledger : Ledger} (h : ledger.Consistent) {key : String}
    {role : Role} {outcome : Outcome} :
    outcome? ledger.applied key role = some outcome ↔
      ∃ event ∈ ledger.applied, event.key = key ∧ event.role = role ∧ event.outcome = outcome := by
  constructor
  · intro hsome
    obtain ⟨event, hfind, houtcome⟩ := Option.map_eq_some_iff.1 hsome
    have hprop : event.key = key ∧ event.role = role := by simpa using List.find?_some hfind
    exact ⟨event, List.mem_of_find?_eq_some hfind, hprop.1, hprop.2, houtcome⟩
  · rintro ⟨event, hevent, hkey, hrole, houtcome⟩
    cases hfound : ledger.applied.find? fun event => event.key = key ∧ event.role = role with
    | none =>
      have hnone : event.key = key → ¬ event.role = role := by
        simpa using List.find?_eq_none.1 hfound event hevent
      exact absurd hrole (hnone hkey)
    | some found =>
      -- the first answer for the document is the only one
      have hprop : found.key = key ∧ found.role = role := by simpa using List.find?_some hfound
      have hmem := List.mem_of_find?_eq_some hfound
      have hfetch : found.fetch = event.fetch :=
        h.eq_of_started (h.applied_started found hmem) (h.applied_started event hevent)
          (hprop.1.trans hkey.symm) (hprop.2.trans hrole.symm)
      have hsame := List.inj_on_of_nodup_map h.applied_nodup hmem hevent hfetch
      unfold outcome?
      rw [hfound, hsame, Option.map_some, houtcome]

/-- Histories in which the same answers have been applied agree on what each document gave. -/
theorem Consistent.outcome?_congr {first second : Ledger} (h₁ : first.Consistent)
    (h₂ : second.Consistent) (hsame : ∀ event, event ∈ first.applied ↔ event ∈ second.applied)
    (key : String) (role : Role) :
    outcome? first.applied key role = outcome? second.applied key role := by
  apply Option.ext
  intro outcome
  rw [h₁.outcome?_eq_some_iff, h₂.outcome?_eq_some_iff]
  simp only [hsame]

/-- A panel has a group of the suite. -/
theorem Consistent.exists_spec {ledger : Ledger} (h : ledger.Consistent) {key : String}
    (hkey : key ∈ ledger.session.panels.keys) : ∃ spec, ledger.session.suite.get key = .ok spec := by
  obtain ⟨spec, hspec⟩ := Entries.get?_isSome_iff.2 (h.coherent.defined key hkey)
  exact ⟨spec, Suite.get_eq_ok_iff.2 hspec⟩

/-- Histories on the same suite that have opened the same panels and applied the same answers have
the same panels. -/
theorem Consistent.panels_congr {first second : Ledger} (h₁ : first.Consistent)
    (h₂ : second.Consistent) (hsettings : first.session.settings = second.session.settings)
    (hsuite : first.session.suite = second.session.suite)
    (hkeys : ∀ key, key ∈ first.session.panels.keys ↔ key ∈ second.session.panels.keys)
    (hevents : ∀ event, event ∈ first.applied ↔ event ∈ second.applied) (key : String) :
    first.session.panels.get? key = second.session.panels.get? key := by
  by_cases hkey : key ∈ first.session.panels.keys
  · obtain ⟨panel, hpanel⟩ := Entries.get?_isSome_iff.2 hkey
    obtain ⟨panel', hpanel'⟩ := Entries.get?_isSome_iff.2 ((hkeys key).1 hkey)
    obtain ⟨spec, hspec⟩ := h₁.exists_spec hkey
    rw [hpanel, hpanel', h₁.panel_eq key spec panel hpanel hspec,
      h₂.panel_eq key spec panel' hpanel' (hsuite ▸ hspec), hsettings,
      h₁.outcome?_congr h₂ hevents, h₁.outcome?_congr h₂ hevents]
  · rw [Entries.get?_eq_none_iff.2 hkey, Entries.get?_eq_none_iff.2 (mt (hkeys key).2 hkey)]

/-- **Order independence of loading.** In every history, the panel of a key is a function of the
key's own group and of what its own two documents gave, as far as their answers have been applied:

* it has failed exactly if the answer for the results has been applied and is an error or a text that
  cannot be read;
* it has loaded exactly if the results can be read and there is no source or its answer has been
  applied; the code is the source, if it could be fetched;
* otherwise it is loading.

So two histories on the same suite that have opened the same panels and applied the same answers, in
whatever order, have the same panels. -/
theorem panel_determined_by_outcomes {settings : Settings} {query : String} {suite : Outcome}
    {ledger : Ledger} (h : Reachable settings query suite ledger) :
    (∀ key panel, ledger.session.panels.get? key = some panel →
      ∃ spec, ledger.session.suite.get key = .ok spec ∧
        let path := settings.resultsPath spec.results
        let results := outcome? ledger.applied key .results
        let source := outcome? ledger.applied key .source
        panel = .ofOutcomes path spec results source ∧
        (∀ message, panel = .failed message ↔
          (∃ e, results = some (.error e) ∧ message = e.message) ∨
          (∃ text e, results = some (.ok text) ∧ Results.parse text = .error e ∧
            message = path ++ ": " ++ e.message)) ∧
        (∀ normalized code, panel = .loaded normalized code ↔
          ∃ text parsed, results = some (.ok text) ∧ Results.parse text = .ok parsed ∧
            normalized = .ofResults parsed ∧
            ((spec.hasSource = false ∧ code = none) ∨
              (spec.hasSource = true ∧ ∃ content, source = some (.ok content) ∧
                code = some (.ofFile spec.source content)) ∨
              (spec.hasSource = true ∧ ∃ e, source = some (.error e) ∧ code = none))) ∧
        (panel.phase = .loading ↔
          results = none ∨
          (∃ text parsed, results = some (.ok text) ∧ Results.parse text = .ok parsed ∧
            spec.hasSource = true ∧ source = none))) ∧
    (∀ query' other, Reachable settings query' suite other →
      (∀ key, key ∈ ledger.session.panels.keys ↔ key ∈ other.session.panels.keys) →
      (∀ event, event ∈ ledger.applied ↔ event ∈ other.applied) →
      (∀ key, ledger.session.panels.get? key = other.session.panels.get? key) ∧
      (ledger.session.panels.keys = other.session.panels.keys →
        ledger.session.panels = other.session.panels)) := by
  have hcons := h.consistent
  obtain ⟨hsettings, text, htext, hsuite⟩ := h.origin
  constructor
  · intro key panel hpanel
    obtain ⟨spec, hspec⟩ := hcons.exists_spec (Entries.mem_keys_of_get? hpanel)
    have heq := hcons.panel_eq key spec panel hpanel hspec
    rw [hsettings] at heq
    refine ⟨spec, hspec, heq, ?_, ?_, ?_⟩
    · intro message
      rw [heq]
      exact PanelState.ofOutcomes_eq_failed_iff
    · intro normalized code
      rw [heq]
      exact PanelState.ofOutcomes_eq_loaded_iff
    · rw [heq]
      exact PanelState.ofOutcomes_loading_iff
  -- both courses read the same suite, so the same documents decide in both
  · intro query' other hother hkeys hevents
    have hcons' := hother.consistent
    obtain ⟨hsettings', text', htext', hsuite'⟩ := hother.origin
    have htexts : text = text' := Except.ok.inj (htext.symm.trans htext')
    have hsuites : ledger.session.suite = other.session.suite := by
      rw [htexts] at hsuite
      exact Except.ok.inj (hsuite.symm.trans hsuite')
    have hget := hcons.panels_congr hcons' (hsettings.trans hsettings'.symm) hsuites hkeys hevents
    exact ⟨hget, fun hsame => Entries.ext_of_keys hcons.coherent.nodup hsame hget⟩

/-- The fetch of the source of the first benchmark of the sample suite. -/
def sampleSource : Fetch := ⟨"A", .source, "a.cpp"⟩

/-- The fetch of the results of the first benchmark of the sample suite. -/
def sampleResults : Fetch := ⟨"A", .results, "bm/a.json"⟩

theorem opened_sample_fetches : ∃ session,
    Session.opened .default "bm=A" (.ok Session.sampleSuite) =
      .ok (session, [sampleSource, sampleResults]) ∧
    session.panels.keys = ["A"] := by
  have hsample : (Session.opened .default "bm=A" (.ok Session.sampleSuite)).toOption.map
      (fun state => (state.2, state.1.panels.keys)) =
        some ([sampleSource, sampleResults], ["A"]) := by
    decide +kernel
  cases hopened : Session.opened .default "bm=A" (.ok Session.sampleSuite) with
  | error e => rw [hopened] at hsample; cases hsample
  | ok state =>
    rw [hopened] at hsample
    obtain ⟨hfetches, hkeys⟩ := Prod.mk.inj (Option.some.inj hsample)
    exact ⟨state.1, by rw [← hfetches], hkeys⟩

/-- The source of a benchmark and the news that its results do not exist, applied in both orders: the
panel has failed, and the panels are the same. -/
theorem panel_determined_by_outcomes_sample :
    let source := sampleSource.answered (.ok "int x;")
    let failure := sampleResults.answered (.error (.notFound "bm/a.json"))
    ∃ first second,
      Reachable .default "bm=A" (.ok Session.sampleSuite) first ∧
      Reachable .default "bm=A" (.ok Session.sampleSuite) second ∧
      first.applied = [source, failure] ∧ second.applied = [failure, source] ∧
      first.session.panels.get? "A" = some (.failed "bm/a.json: not found") ∧
      first.session.panels = second.session.panels := by
  intro source failure
  obtain ⟨session, hopened, hkeys⟩ := opened_sample_fetches
  have hstart := Reachable.opened hopened
  have hfirst := (hstart.step (.deliver sampleSource (.ok "int x;") (by simp [Outstanding]))).step
    (.deliver sampleResults (.error (.notFound "bm/a.json"))
      (by simp [Outstanding, deliver, sampleSource, sampleResults]))
  have hsecond := (hstart.step (.deliver sampleResults (.error (.notFound "bm/a.json"))
    (by simp [Outstanding]))).step (.deliver sampleSource (.ok "int x;")
      (by simp [Outstanding, deliver, sampleSource, sampleResults]))
  obtain ⟨hpanels, horder⟩ := panel_determined_by_outcomes hfirst
  refine ⟨_, _, hfirst, hsecond, rfl, rfl, ?_, ?_⟩
  · obtain ⟨panel, hpanel⟩ := Entries.get?_isSome_iff.2 (show "A" ∈
      ((session.apply source).apply failure).panels.keys by simp [hkeys])
    obtain ⟨spec, _, _, hfailed, _⟩ := hpanels "A" panel hpanel
    have hmessage := (hfailed "bm/a.json: not found").2 (Or.inl ⟨.notFound "bm/a.json", rfl, rfl⟩)
    rw [← hmessage]
    exact hpanel
  · refine (horder "bm=A" _ hsecond ?_ ?_).2 ?_
    · simp [deliver]
    · simp [deliver, or_comm]
    · simp [deliver]

end Ledger

end BenchScope
