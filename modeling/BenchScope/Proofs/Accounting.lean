import BenchScope.Proofs.Delivery
import BenchScope.Session.Run
import Mathlib.Logic.Relation

/-!
# Accounting for fetches

A `Course` is a run with its history. Fetches end in any order, each with an answer or never, and
answers are applied in the order they arrive in; requests may come in between, and waiting for answers
may be broken off after any number of them. What is in flight is at any time what has been started and
not been applied, so that waiting ends exactly when nothing is missing any more, and where it ends does
not depend on how often it was broken off.
-/

namespace BenchScope

namespace Ledger

/-- A document of a benchmark is awaited if its fetch is outstanding. -/
def Awaits (ledger : Ledger) (key : String) (role : Role) : Prop :=
  ∃ fetch, ledger.Outstanding fetch ∧ fetch.key = key ∧ fetch.role = role

namespace Consistent

variable {ledger : Ledger}

/-- No fetch is started twice. -/
theorem started_nodup (h : ledger.Consistent) : ledger.started.Nodup := by
  rw [h.started_eq, List.nodup_flatMap]
  constructor
  · intro key _
    unfold Session.fetchesOf
    split
    · rename_i spec _
      unfold Session.fetches
      by_cases hs : spec.hasSource <;> simp [hs]
    · exact List.nodup_nil
  · -- a fetch names its key, so different panels share none
    refine h.coherent.nodup.imp ?_
    intro first second hne fetch h₁ h₂
    exact hne ((Session.key_of_mem_fetchesOf h₁).symm.trans (Session.key_of_mem_fetchesOf h₂))

/-- The fetches of a key with a panel are those that its group needs. -/
theorem mem_started_iff (h : ledger.Consistent) {key : String} {spec : Spec}
    (hspec : ledger.session.suite.get key = .ok spec) {fetch : Fetch} (hf : fetch.key = key) :
    fetch ∈ ledger.started ↔ key ∈ ledger.session.panels.keys ∧
      fetch ∈ Session.fetches ledger.session.settings key spec := by
  rw [← Session.fetchesOf_eq hspec]
  constructor
  · intro hstarted
    have hown := h.mem_fetchesOf hstarted
    rwa [hf] at hown
  · rintro ⟨hkey, hmem⟩
    rw [h.started_eq, List.mem_flatMap]
    exact ⟨key, hkey, hmem⟩

/-- Of a fetch that has started there is no second one to the same document. -/
theorem countP_started (h : ledger.Consistent) {fetch : Fetch} (hf : fetch ∈ ledger.started) :
    ledger.started.countP (fun f => f.key = fetch.key ∧ f.role = fetch.role) = 1 := by
  have hcongr : ledger.started.countP (fun f => f.key = fetch.key ∧ f.role = fetch.role) =
      ledger.started.countP (· == fetch) := by
    apply List.countP_congr
    intro other hother
    simp only [decide_eq_true_eq, beq_iff_eq]
    constructor
    · rintro ⟨hkey, hrole⟩
      exact h.eq_of_started hother hf hkey hrole
    · rintro rfl
      exact ⟨rfl, rfl⟩
  rw [hcongr]
  exact List.count_eq_one_of_mem h.started_nodup hf

/-- Every panel has had its results fetched once, and nothing else has. -/
theorem countP_results (h : ledger.Consistent) (key : String) :
    ledger.started.countP (fun f => f.key = key ∧ f.role = .results) =
      if key ∈ ledger.session.panels.keys then 1 else 0 := by
  by_cases hkey : key ∈ ledger.session.panels.keys
  · obtain ⟨spec, hspec⟩ := h.exists_spec hkey
    have hf := (h.mem_started_iff hspec rfl).2 ⟨hkey, Session.mem_fetches.2 (Or.inr rfl)⟩
    rw [if_pos hkey]
    exact h.countP_started hf
  · rw [if_neg hkey, List.countP_eq_zero]
    intro fetch hf hmatch
    have hk := (of_decide_eq_true hmatch).1
    exact hkey (hk ▸ (h.mem_fetchesOf hf).1)

/-- Every panel of a group with a source has had it fetched once, and nothing else has. -/
theorem countP_source (h : ledger.Consistent) {key : String} {spec : Spec}
    (hspec : ledger.session.suite.get key = .ok spec) :
    ledger.started.countP (fun f => f.key = key ∧ f.role = .source) =
      if key ∈ ledger.session.panels.keys ∧ spec.hasSource = true then 1 else 0 := by
  by_cases hkey : key ∈ ledger.session.panels.keys ∧ spec.hasSource = true
  · have hmem : (⟨key, .source, spec.source⟩ : Fetch) ∈
        Session.fetches ledger.session.settings key spec :=
      Session.mem_fetches.2 (Or.inl ⟨hkey.2, rfl⟩)
    have hf := (h.mem_started_iff hspec rfl).2 ⟨hkey.1, hmem⟩
    rw [if_pos hkey]
    exact h.countP_started hf
  · rw [if_neg hkey, List.countP_eq_zero]
    intro fetch hf hmatch
    obtain ⟨hk, hrole⟩ := of_decide_eq_true hmatch
    obtain ⟨hpanel, hmem⟩ := (h.mem_started_iff hspec hk).1 hf
    rcases Session.mem_fetches.1 hmem with ⟨hs, _⟩ | rfl
    · exact hkey ⟨hpanel, hs⟩
    · cases hrole

/-- A document whose fetch has started is awaited as long as it has given nothing. -/
theorem awaits_iff (h : ledger.Consistent) {fetch : Fetch} (hf : fetch ∈ ledger.started) :
    ledger.Awaits fetch.key fetch.role ↔
      outcome? ledger.applied fetch.key fetch.role = none := by
  constructor
  · rintro ⟨other, hother, hkey, hrole⟩
    rw [← hkey, ← hrole]
    exact h.outcome?_of_outstanding hother
  · intro hnone
    refine ⟨fetch, ⟨hf, fun hmem => ?_⟩, rfl, rfl⟩
    obtain ⟨event, hevent, rfl⟩ := List.mem_map.1 hmem
    exact outcome?_eq_none_iff.1 hnone event hevent ⟨rfl, rfl⟩

/-- A loading panel says what it waits for. -/
theorem loading_awaits (h : ledger.Consistent) {key : String} {results : Option Normalized}
    {source : SourceState}
    (hpanel : ledger.session.panels.get? key = some (.loading results source)) :
    (results = none ↔ ledger.Awaits key .results) ∧
      (source = .waiting ↔ ledger.Awaits key .source) := by
  have hkey := Entries.mem_keys_of_get? hpanel
  obtain ⟨spec, hspec⟩ := h.exists_spec hkey
  obtain ⟨hresults, hsource⟩ :=
    PanelState.loading_eq_ofOutcomes (h.panel_eq key spec _ hpanel hspec)
  have hstarted := fun {fetch : Fetch} (hf : fetch.key = key) => h.mem_started_iff hspec hf
  constructor
  · rw [hresults]
    exact (h.awaits_iff ((hstarted rfl).2 ⟨hkey, Session.mem_fetches.2 (Or.inr rfl)⟩)).symm
  · rw [hsource]
    constructor
    · rintro ⟨hs, hnone⟩
      exact (h.awaits_iff ((hstarted rfl).2 ⟨hkey, Session.mem_fetches.2 (Or.inl ⟨hs, rfl⟩)⟩)).2 hnone
    · rintro ⟨fetch, hf, hk, hrole⟩
      rcases Session.mem_fetches.1 ((hstarted hk).1 hf.1).2 with ⟨hs, rfl⟩ | rfl
      · exact ⟨hs, h.outcome?_of_outstanding hf⟩
      · cases hrole

/-- Nothing is in flight exactly if nothing is outstanding. -/
theorem inFlight_eq_zero_iff (h : ledger.Consistent) :
    ledger.session.inFlight = 0 ↔ ∀ fetch, ¬ ledger.Outstanding fetch := by
  constructor
  · intro hzero fetch hf
    have hpos := h.inFlight_pos hf
    omega
  · -- every fetch has been applied, so there are no more fetches than answers
    intro hnone
    have hsub : ledger.started ⊆ ledger.applied.map Event.fetch := by
      intro fetch hf
      by_contra hnot
      exact hnone fetch ⟨hf, hnot⟩
    have hlen := (List.subperm_of_subset h.started_nodup hsub).length_le
    rw [List.length_map] at hlen
    have hbal := h.balance
    omega

/-- When nothing is in flight, no panel is loading. -/
theorem not_loading_of_idle (h : ledger.Consistent) (hzero : ledger.session.inFlight = 0)
    {key : String} {panel : PanelState} (hpanel : ledger.session.panels.get? key = some panel) :
    panel.phase ≠ .loading := by
  have hnone := h.inFlight_eq_zero_iff.1 hzero
  cases panel with
  | loaded normalized code => simp [PanelState.phase]
  | failed message => simp [PanelState.phase]
  | loading results source =>
    obtain ⟨hresults, hsource⟩ := h.loading_awaits hpanel
    have hno : ∀ role, ¬ ledger.Awaits key role := by
      rintro role ⟨fetch, hfetch, _⟩
      exact hnone fetch hfetch
    rcases h.coherent.pending key _ hpanel with hr | hs
    · exact absurd (hresults.1 hr) (hno .results)
    · exact absurd (hsource.1 hs) (hno .source)

end Consistent

end Ledger

/-! ## Courses -/

/-- A run with its history: every fetch it has started, and every answer it has applied, in order. -/
structure Course where
  run : Run
  begun : List Fetch
  applied : List Event

namespace Course

/-- The history of a course, without what is on its way. -/
def ledger (course : Course) : Ledger := ⟨course.run.session, course.begun, course.applied⟩

/-- The course goes on with a run that has started more fetches behind those that have not ended. -/
def extend (course : Course) (run : Run) : Course :=
  { course with run, begun := course.begun ++ run.started.drop course.run.started.length }

/-- What goes on while a run waits: a fetch ends and its answer joins those that have arrived, a fetch
turns out never to end, or the first answer that has arrived is taken and applied, as long as something
is in flight. `answer` says how each fetch ends. -/
inductive Waits (answer : Fetch → Option Outcome) : Course → Course → Prop where
  | arrive {course : Course} {fetch : Fetch} {outcome : Outcome}
      (hmem : fetch ∈ course.run.started) (hanswer : answer fetch = some outcome) :
      Waits answer course
        { course with run := { course.run with
            started := course.run.started.erase fetch
            arrived := course.run.arrived ++ [fetch.answered outcome] } }
  | lapse {course : Course} {fetch : Fetch}
      (hmem : fetch ∈ course.run.started) (hanswer : answer fetch = none) :
      Waits answer course
        { course with run := { course.run with started := course.run.started.erase fetch } }
  | receive {course : Course} {event : Event} {rest : List Event}
      (hflight : course.run.session.inFlight ≠ 0) (harrived : course.run.arrived = event :: rest) :
      Waits answer course
        { course with
          run := Run.apply { course.run with arrived := rest } event
          applied := course.applied ++ [event] }

/-- Waiting for any time: it may be broken off between any two steps. -/
abbrev Drains (answer : Fetch → Option Outcome) : Course → Course → Prop :=
  Relation.ReflTransGen (Waits answer)

/-- A step of a course: a request that is accepted, or waiting. A refused request changes nothing. -/
inductive Step (answer : Fetch → Option Outcome) : Course → Course → Prop where
  | request {course : Course} {key : String} {fresh : Bool} {run : Run}
      (h : course.run.request key = .ok (fresh, run)) : Step answer course (course.extend run)
  | requestAll (course : Course) : Step answer course (course.extend course.run.requestAll)
  | waits {before after : Course} (h : Waits answer before after) : Step answer before after

/-- The courses of sessions opened with the given settings, query and suite document. -/
inductive Reachable (answer : Fetch → Option Outcome) (settings : Settings) (query : String)
    (suite : Outcome) : Course → Prop where
  | opened {session : Session} {started : List Fetch}
      (h : Session.opened settings query suite = .ok (session, started)) :
      Reachable answer settings query suite ⟨⟨session, started, []⟩, started, []⟩
  | step {before after : Course} (h : Reachable answer settings query suite before)
      (hstep : Step answer before after) : Reachable answer settings query suite after

theorem Reachable.drains {answer : Fetch → Option Outcome} {settings : Settings} {query : String}
    {suite : Outcome} {before after : Course} (h : Reachable answer settings query suite before)
    (hdrains : Drains answer before after) : Reachable answer settings query suite after := by
  induction hdrains with
  | refl => exact h
  | tail _ hwaits ih => exact ih.step (.waits hwaits)

/-- What every course keeps, besides the consistency of its history: each fetch that has been started
is on its way, has arrived, has been applied or never ends, and answers are what the fetches gave. -/
structure Sound (answer : Fetch → Option Outcome) (course : Course) : Prop where
  consistent : course.ledger.Consistent
  conserved : ∃ lapsed : List Fetch, (∀ fetch ∈ lapsed, answer fetch = none) ∧
    course.begun.Perm (lapsed ++ course.run.started ++ course.run.arrived.map Event.fetch ++
      course.applied.map Event.fetch)
  answered : ∀ event ∈ course.run.arrived ++ course.applied,
    answer event.fetch = some event.outcome

namespace Sound

variable {answer : Fetch → Option Outcome} {course : Course}

/-- A fetch that is on its way, or whose answer has arrived, is outstanding. -/
theorem outstanding_of_mem (h : course.Sound answer) {fetch : Fetch}
    (hmem : fetch ∈ course.run.started ++ course.run.arrived.map Event.fetch) :
    course.ledger.Outstanding fetch := by
  obtain ⟨lapsed, _, hperm⟩ := h.conserved
  have hleft : fetch ∈ lapsed ++ course.run.started ++ course.run.arrived.map Event.fetch := by
    rw [List.append_assoc]
    exact List.mem_append_right _ hmem
  constructor
  · show fetch ∈ course.begun
    rw [hperm.mem_iff]
    exact List.mem_append_left _ hleft
  · show fetch ∉ course.applied.map Event.fetch
    have hnodup := hperm.nodup_iff.1 h.consistent.started_nodup
    intro happlied
    exact (List.nodup_append.1 hnodup).2.2 _ hleft _ happlied rfl

/-- An answer that has arrived answers an outstanding fetch. -/
theorem outstanding_of_arrived (h : course.Sound answer) {event : Event}
    (hevent : event ∈ course.run.arrived) : course.ledger.Outstanding event.fetch :=
  h.outstanding_of_mem (List.mem_append_right _ (List.mem_map_of_mem hevent))

/-- Requests keep courses sound. -/
theorem extend {run : Run} {more : List Fetch} (h : course.Sound answer)
    (hstarted : run.started = course.run.started ++ more) (harrived : run.arrived = course.run.arrived)
    (hcons : (course.extend run).ledger.Consistent) : (course.extend run).Sound answer := by
  obtain ⟨lapsed, hlapsed, hperm⟩ := h.conserved
  refine ⟨hcons, ⟨lapsed, hlapsed, ?_⟩, ?_⟩
  · dsimp only [Course.extend]
    rw [hstarted, harrived, List.drop_left]
    rw [List.perm_iff_count] at hperm ⊢
    intro fetch
    have hcount := hperm fetch
    simp only [List.count_append] at hcount ⊢
    omega
  · dsimp only [Course.extend]
    rw [harrived]
    exact h.answered

theorem request {key : String} {fresh : Bool} {run : Run} (h : course.Sound answer)
    (hr : course.run.request key = .ok (fresh, run)) : (course.extend run).Sound answer := by
  unfold Run.request at hr
  cases hs : course.run.session.request key with
  | error e => rw [hs] at hr; cases hr
  | ok state =>
    rw [hs] at hr
    cases hr
    refine h.extend rfl rfl ?_
    have hcons := h.consistent.request_ok hs
    dsimp only [Course.extend, Course.ledger]
    rwa [List.drop_left]

theorem requestAll (h : course.Sound answer) :
    (course.extend course.run.requestAll).Sound answer := by
  refine h.extend rfl rfl ?_
  have hcons := h.consistent.requestAll
  dsimp only [Course.extend, Course.ledger, Run.requestAll]
  rwa [List.drop_left]

/-- A fetch that ends goes from those on their way to the answers that have arrived. -/
theorem arrive {fetch : Fetch} {outcome : Outcome} (h : course.Sound answer)
    (hmem : fetch ∈ course.run.started) (hanswer : answer fetch = some outcome) :
    Sound answer { course with run := { course.run with
      started := course.run.started.erase fetch
      arrived := course.run.arrived ++ [fetch.answered outcome] } } := by
  obtain ⟨lapsed, hlapsed, hperm⟩ := h.conserved
  refine ⟨h.consistent, ⟨lapsed, hlapsed, ?_⟩, ?_⟩
  · rw [List.perm_iff_count] at hperm ⊢
    intro other
    have hcount := hperm other
    have hmoved := (List.perm_cons_erase hmem).count_eq other
    dsimp only
    simp only [List.count_append, List.map_append, List.map_cons, List.map_nil,
      Event.fetch_answered, List.count_cons, List.count_nil] at hcount hmoved ⊢
    omega
  · intro event hevent
    rcases List.mem_append.1 hevent with harrived | happlied
    · rcases List.mem_append.1 harrived with hold | hnew
      · exact h.answered event (List.mem_append_left _ hold)
      · rw [List.mem_singleton.1 hnew]
        exact hanswer
    · exact h.answered event (List.mem_append_right _ happlied)

/-- A fetch that never ends goes to those that have lapsed; the history stays as it is. -/
theorem lapse {fetch : Fetch} (h : course.Sound answer) (hmem : fetch ∈ course.run.started)
    (hanswer : answer fetch = none) :
    Sound answer
      { course with run := { course.run with started := course.run.started.erase fetch } } := by
  obtain ⟨lapsed, hlapsed, hperm⟩ := h.conserved
  refine ⟨h.consistent, ⟨fetch :: lapsed, ?_, ?_⟩, h.answered⟩
  · rw [List.forall_mem_cons]
    exact ⟨hanswer, hlapsed⟩
  · rw [List.perm_iff_count] at hperm ⊢
    intro other
    have hcount := hperm other
    have hmoved := (List.perm_cons_erase hmem).count_eq other
    dsimp only
    simp only [List.count_append, List.count_cons] at hcount hmoved ⊢
    omega

/-- An answer that is taken goes to those that have been applied, and the session receives it. -/
theorem receive {event : Event} {rest : List Event} (h : course.Sound answer)
    (harrived : course.run.arrived = event :: rest) :
    Sound answer { course with
      run := Run.apply { course.run with arrived := rest } event
      applied := course.applied ++ [event] } := by
  obtain ⟨lapsed, hlapsed, hperm⟩ := h.conserved
  have hevent : event ∈ course.run.arrived := harrived ▸ List.mem_cons_self
  have hcons := h.consistent.deliver event.outcome (h.outstanding_of_arrived hevent)
  rw [Event.answered_fetch] at hcons
  refine ⟨hcons, ⟨lapsed, hlapsed, ?_⟩, ?_⟩
  · rw [List.perm_iff_count] at hperm ⊢
    intro other
    have hcount := hperm other
    dsimp only [Run.apply]
    rw [harrived] at hcount
    simp only [List.count_append, List.map_append, List.map_cons, List.map_nil,
      List.count_cons, List.count_nil] at hcount ⊢
    omega
  · intro other hother
    apply h.answered
    rw [harrived]
    dsimp only [Run.apply] at hother
    simp only [List.mem_append, List.mem_cons, List.not_mem_nil, or_false] at hother ⊢
    rcases hother with hrest | hold | hnew
    · exact Or.inl (Or.inr hrest)
    · exact Or.inr hold
    · exact Or.inl (Or.inl hnew)

theorem waits {after : Course} (h : course.Sound answer) (hwaits : Waits answer course after) :
    after.Sound answer := by
  cases hwaits with
  | arrive hmem hanswer => exact h.arrive hmem hanswer
  | lapse hmem hanswer => exact h.lapse hmem hanswer
  | receive hflight harrived => exact h.receive harrived

theorem step {after : Course} (h : course.Sound answer) (hstep : Step answer course after) :
    after.Sound answer := by
  cases hstep with
  | request hr => exact h.request hr
  | requestAll => exact h.requestAll
  | waits hwaits => exact h.waits hwaits

end Sound

/-- Every course is sound. -/
theorem Reachable.sound {answer : Fetch → Option Outcome} {settings : Settings} {query : String}
    {suite : Outcome} {course : Course} (h : Reachable answer settings query suite course) :
    course.Sound answer := by
  induction h with
  | @opened session started hopened =>
    refine ⟨(Ledger.Reachable.opened hopened).consistent, ⟨[], ?_, ?_⟩, ?_⟩
    · intro fetch hf
      cases hf
    · simp
    · intro event hevent
      cases hevent
  | step _ hstep ih => exact ih.step hstep

/-! ## Where waiting leads -/

/-- What waiting keeps: the fetches that have been started, the settings, the suite and the keys of
the panels; answers that have been applied stay applied. -/
structure Continues (before after : Course) : Prop where
  begun : after.begun = before.begun
  settings : after.run.session.settings = before.run.session.settings
  suite : after.run.session.suite = before.run.session.suite
  keys : after.run.session.panels.keys = before.run.session.panels.keys
  applied : before.applied <+: after.applied

theorem Drains.continues {answer : Fetch → Option Outcome} {before after : Course}
    (h : Drains answer before after) : Continues before after := by
  induction h with
  | refl => exact ⟨rfl, rfl, rfl, rfl, List.prefix_rfl⟩
  | tail _ hwaits ih =>
    cases hwaits with
    | arrive hmem hanswer => exact ⟨ih.begun, ih.settings, ih.suite, ih.keys, ih.applied⟩
    | lapse hmem hanswer => exact ⟨ih.begun, ih.settings, ih.suite, ih.keys, ih.applied⟩
    | receive hflight harrived =>
      refine ⟨ih.begun, ih.settings, ih.suite, ?_, ih.applied.trans (List.prefix_append _ _)⟩
      exact (Session.keys_apply _ _).trans ih.keys

/-- What is outstanding after waiting was so before. -/
theorem Continues.outstanding {before after : Course} (h : Continues before after) {fetch : Fetch}
    (hf : after.ledger.Outstanding fetch) : before.ledger.Outstanding fetch := by
  constructor
  · show fetch ∈ before.begun
    rw [← h.begun]
    exact hf.1
  · intro hmem
    exact hf.2 ((h.applied.map Event.fetch).subset hmem)

namespace Sound

variable {answer : Fetch → Option Outcome} {course first second : Course}

/-- When nothing is in flight, every fetch has been answered once. -/
theorem applied_perm (h : course.Sound answer) (hzero : course.run.session.inFlight = 0) :
    (course.applied.map Event.fetch).Perm course.begun := by
  have hsub : course.applied.map Event.fetch ⊆ course.begun := by
    intro fetch hf
    obtain ⟨event, hevent, rfl⟩ := List.mem_map.1 hf
    exact h.consistent.applied_started event hevent
  have hbal : course.run.session.inFlight + course.applied.length = course.begun.length :=
    h.consistent.balance
  refine (List.subperm_of_subset h.consistent.applied_nodup hsub).perm_of_length_le ?_
  show course.begun.length ≤ (course.applied.map Event.fetch).length
  rw [List.length_map]
  omega

/-- Where nothing is in flight, every answer that has been applied elsewhere has been applied. -/
theorem applied_subset (h₁ : first.Sound answer) (h₂ : second.Sound answer)
    (hbegun : first.begun = second.begun) (hzero : second.run.session.inFlight = 0) :
    first.applied ⊆ second.applied := by
  intro event hevent
  have hfetch : event.fetch ∈ second.applied.map Event.fetch := by
    rw [(h₂.applied_perm hzero).mem_iff, ← hbegun]
    exact h₁.consistent.applied_started event hevent
  obtain ⟨other, hother, hsame⟩ := List.mem_map.1 hfetch
  -- both are the answer to the same fetch
  have houtcome : some other.outcome = some event.outcome := by
    rw [← h₂.answered other (List.mem_append_right _ hother),
      ← h₁.answered event (List.mem_append_right _ hevent), hsame]
  have heq : other = event := by
    rw [← Event.answered_fetch other, ← Event.answered_fetch event, hsame,
      Option.some.inj houtcome]
  exact heq ▸ hother

/-- Waiting that ends leads to the same panels and applies the same answers, whichever way. -/
theorem complete_drains (h₁ : first.Sound answer) (h₂ : second.Sound answer)
    (hfirst : Continues course first) (hsecond : Continues course second)
    (hzero₁ : first.run.session.inFlight = 0) (hzero₂ : second.run.session.inFlight = 0) :
    first.run.session.panels = second.run.session.panels ∧
      first.applied.Perm second.applied := by
  have hbegun : first.begun = second.begun := hfirst.begun.trans hsecond.begun.symm
  have hkeys : first.run.session.panels.keys = second.run.session.panels.keys :=
    hfirst.keys.trans hsecond.keys.symm
  have hevents : ∀ event, event ∈ first.applied ↔ event ∈ second.applied := fun event =>
    ⟨fun hevent => h₁.applied_subset h₂ hbegun hzero₂ hevent,
      fun hevent => h₂.applied_subset h₁ hbegun.symm hzero₁ hevent⟩
  constructor
  · refine Entries.ext_of_keys h₁.consistent.coherent.nodup hkeys ?_
    refine h₁.consistent.panels_congr h₂.consistent (hfirst.settings.trans hsecond.settings.symm)
      (hfirst.suite.trans hsecond.suite.symm) ?_ hevents
    intro key
    show key ∈ first.run.session.panels.keys ↔ key ∈ second.run.session.panels.keys
    rw [hkeys]
  · exact (List.perm_ext_iff_of_nodup h₁.consistent.applied_nodup.of_map
      h₂.consistent.applied_nodup.of_map).2 hevents

/-- If nothing is on its way and every outstanding fetch ends, nothing is in flight. -/
theorem inFlight_eq_zero (h : course.Sound answer) (hstarted : course.run.started = [])
    (harrived : course.run.arrived = [])
    (hends : ∀ fetch, course.ledger.Outstanding fetch → answer fetch ≠ none) :
    course.run.session.inFlight = 0 := by
  obtain ⟨lapsed, hlapsed, hperm⟩ := h.conserved
  refine h.consistent.inFlight_eq_zero_iff.2 fun fetch hf => hends fetch hf ?_
  have hmem := hperm.mem_iff.1 hf.1
  rw [hstarted, harrived, List.map_nil, List.append_nil, List.append_nil, List.mem_append] at hmem
  rcases hmem with hlapse | happlied
  · exact hlapsed fetch hlapse
  · exact absurd happlied hf.2

end Sound

end Course

/-! ## Taking answers one by one -/

namespace Run

variable {fetcher : Fetcher} {run : Run}

/-- The answers that a run can still take: those that have arrived, and behind them those of the fetches
that have not ended. -/
def coming (fetcher : Fetcher) (run : Run) : List Event := run.arrived ++ answers fetcher run.started

/-- Taking the next answer and applying it, again and again until none comes: which answers a run takes,
and where it ends. Where only fetches that never end are left, it has waited for all of them. -/
inductive TakesAll (fetcher : Fetcher) : Run → List Event → Run → Prop where
  | idle {run : Run} (h : run.next fetcher = .idle) : TakesAll fetcher run [] run
  | stuck {run : Run} (h : run.next fetcher = .stuck) : TakesAll fetcher run [] (run.wait fetcher)
  | event {run rest last : Run} {event : Event} {events : List Event}
      (h : run.next fetcher = .event event rest)
      (hrest : TakesAll fetcher (rest.apply event) events last) :
      TakesAll fetcher run (event :: events) last

/-- An answer that has arrived is the next one. -/
theorem next_of_arrived {event : Event} {rest : List Event} (hflight : run.session.inFlight ≠ 0)
    (harrived : run.arrived = event :: rest) :
    run.next fetcher = .event event { run with arrived := rest } := by
  unfold next
  rw [if_neg hflight]
  simp only [harrived, List.isEmpty_cons, Bool.false_eq_true, if_false]

/-- If no answer has arrived, the fetches end first, and then the first of their answers is the next
one. -/
theorem next_of_wait (hflight : run.session.inFlight ≠ 0) (harrived : run.arrived = []) :
    run.next fetcher = match answers fetcher run.started with
      | event :: rest => .event event { run with started := [], arrived := rest }
      | [] => .stuck := by
  unfold next wait
  rw [if_neg hflight]
  cases answers fetcher run.started with
  | nil => simp [harrived]
  | cons event rest => simp [harrived]

/-- What comes next is the first of the answers that can still come, as long as something is in
flight. -/
theorem next_eq (fetcher : Fetcher) (run : Run) :
    (run.session.inFlight = 0 ∧ run.next fetcher = .idle) ∨
    (run.session.inFlight ≠ 0 ∧ run.coming fetcher = [] ∧ run.next fetcher = .stuck) ∨
    (run.session.inFlight ≠ 0 ∧ ∃ event rest, run.next fetcher = .event event rest ∧
      run.coming fetcher = event :: (rest.apply event).coming fetcher) := by
  by_cases hflight : run.session.inFlight = 0
  · exact Or.inl ⟨hflight, if_pos hflight⟩
  · cases harrived : run.arrived with
    | cons event rest =>
      refine Or.inr (Or.inr ⟨hflight, event, _, next_of_arrived hflight harrived, ?_⟩)
      rw [coming, harrived]
      rfl
    | nil =>
      have hnext : run.next fetcher = _ := next_of_wait hflight harrived
      cases hanswers : answers fetcher run.started with
      | nil =>
        rw [hanswers] at hnext
        refine Or.inr (Or.inl ⟨hflight, ?_, hnext⟩)
        rw [coming, harrived, hanswers]
        rfl
      | cons event rest =>
        rw [hanswers] at hnext
        refine Or.inr (Or.inr ⟨hflight, event, _, hnext, ?_⟩)
        rw [coming, harrived, hanswers]
        exact congrArg (event :: ·) (List.append_nil rest).symm

/-- Nothing comes next exactly if nothing is in flight. -/
theorem next_eq_idle_iff : run.next fetcher = .idle ↔ run.session.inFlight = 0 := by
  rcases next_eq fetcher run with ⟨hzero, hnext⟩ | ⟨hflight, -, hnext⟩ | ⟨hflight, event, rest, hnext, -⟩
  · exact iff_of_true hnext hzero
  · exact iff_of_false (by rw [hnext]; nofun) hflight
  · exact iff_of_false (by rw [hnext]; nofun) hflight

/-- An answer comes next exactly if something is in flight and there is an answer to come. -/
theorem exists_next_eq_event_iff : (∃ event rest, run.next fetcher = .event event rest) ↔
    run.session.inFlight ≠ 0 ∧ run.coming fetcher ≠ [] := by
  rcases next_eq fetcher run with ⟨hzero, hnext⟩ | ⟨-, hnone, hnext⟩ | ⟨hflight, event, rest, hnext, hcoming⟩
  · simp [hnext, hzero]
  · simp [hnext, hnone]
  · exact iff_of_true ⟨event, rest, hnext⟩ ⟨hflight, by rw [hcoming]; exact List.cons_ne_nil _ _⟩

/-! ### The loop and the wait to the end -/

/-- Applying answers stops when nothing is in flight or nothing is left. -/
theorem applyWhile_stops (session : Session) (arrived : List Event) :
    (applyWhile session arrived).1.inFlight = 0 ∨ (applyWhile session arrived).2 = [] := by
  induction arrived generalizing session with
  | nil => exact Or.inr rfl
  | cons event rest ih =>
    unfold applyWhile
    by_cases hzero : session.inFlight = 0
    · rw [if_pos hzero]
      exact Or.inl hzero
    · rw [if_neg hzero]
      exact ih (session.apply event)

/-- A run that waits to the end stops when nothing is in flight or nothing is on its way. -/
theorem drain_stops (fetcher : Fetcher) (run : Run) :
    (run.drain fetcher).session.inFlight = 0 ∨
      (run.drain fetcher).started = [] ∧ (run.drain fetcher).arrived = [] := by
  unfold drain
  by_cases hsettled : run.drainArrived.isSettled
  · rw [if_pos hsettled]
    exact Or.inl (by simpa [isSettled] using hsettled)
  · rw [if_neg hsettled]
    rcases applyWhile_stops (run.drainArrived.wait fetcher).session
      (run.drainArrived.wait fetcher).arrived with hzero | hnil
    · exact Or.inl hzero
    · exact Or.inr ⟨rfl, hnil⟩

/-- Applying the answers that have arrived begins with the first of them. -/
theorem drainArrived_of_arrived {event : Event} {rest : List Event} (hflight : run.session.inFlight ≠ 0)
    (harrived : run.arrived = event :: rest) :
    run.drainArrived = (apply { run with arrived := rest } event).drainArrived := by
  unfold drainArrived
  rw [harrived, applyWhile, if_neg hflight]
  rfl

theorem drainArrived_of_nil (h : run.arrived = []) : run.drainArrived = run := by
  unfold drainArrived
  rw [h, applyWhile, ← h]

theorem drain_of_idle (h : run.session.inFlight = 0) : run.drain fetcher = run := by
  have hsame : run.drainArrived = run := by
    unfold drainArrived
    cases harrived : run.arrived with
    | nil => rw [applyWhile, ← harrived]
    | cons event rest => rw [applyWhile, if_pos h, ← harrived]
  unfold drain
  rw [hsame, if_pos (by simpa [isSettled] using h)]

/-- Where nothing has arrived and something is in flight, the fetches end first. -/
theorem drain_of_wait (hflight : run.session.inFlight ≠ 0) (harrived : run.arrived = []) :
    run.drain fetcher = (run.wait fetcher).drainArrived := by
  unfold drain
  rw [drainArrived_of_nil harrived, if_neg (by simpa [isSettled] using hflight)]

/-- Where all fetches have ended there is nothing to wait for. -/
theorem drain_of_started_nil (h : run.started = []) : run.drain fetcher = run.drainArrived := by
  unfold drain
  by_cases hsettled : run.drainArrived.isSettled
  · rw [if_pos hsettled]
  · rw [if_neg hsettled]
    have hflight : run.drainArrived.session.inFlight ≠ 0 := by simpa [isSettled] using hsettled
    have harrived : run.drainArrived.arrived = [] :=
      (applyWhile_stops run.session run.arrived).resolve_left hflight
    have hstarted : run.drainArrived.started = [] := h
    have hwait : run.drainArrived.wait fetcher = run.drainArrived := by
      unfold wait
      rw [hstarted, harrived, answers, List.filterMap_nil, List.append_nil, ← hstarted]
      conv => lhs; rw [← harrived]
    rw [hwait, drainArrived_of_nil harrived]

/-- Waiting to the end goes on behind the next answer. -/
theorem drain_of_event {event : Event} {rest : Run} (h : run.next fetcher = .event event rest) :
    run.drain fetcher = (rest.apply event).drain fetcher := by
  have hflight : run.session.inFlight ≠ 0 :=
    fun hzero => by rw [next_eq_idle_iff.2 hzero] at h; cases h
  cases harrived : run.arrived with
  | cons first more =>
    rw [next_of_arrived hflight harrived] at h
    cases h
    unfold drain
    rw [drainArrived_of_arrived hflight harrived]
  | nil =>
    rw [next_of_wait hflight harrived] at h
    rw [drain_of_wait hflight harrived]
    cases hanswers : answers fetcher run.started with
    | nil =>
      rw [hanswers] at h
      cases h
    | cons first more =>
      rw [hanswers] at h
      cases h
      have hwaited : (run.wait fetcher).arrived = event :: more := by
        rw [wait, harrived, hanswers]
        rfl
      have hflight' : (run.wait fetcher).session.inFlight ≠ 0 := hflight
      rw [drainArrived_of_arrived hflight' hwaited]
      exact (drain_of_started_nil rfl).symm

theorem drain_of_stuck (h : run.next fetcher = .stuck) : run.drain fetcher = run.wait fetcher := by
  rcases next_eq fetcher run with ⟨-, hnext⟩ | ⟨hflight, hnone, -⟩ | ⟨-, event, rest, hnext, -⟩
  · rw [hnext] at h
    cases h
  · obtain ⟨harrived, hanswers⟩ := List.append_eq_nil_iff.1 hnone
    rw [drain_of_wait hflight harrived]
    apply drainArrived_of_nil
    rw [wait, harrived, hanswers]
    rfl
  · rw [hnext] at h
    cases h

/-- Taking answers one by one ends, and it ends where waiting to the end does. -/
theorem exists_takesAll_drain (fetcher : Fetcher) (run : Run) :
    ∃ events, run.TakesAll fetcher events (run.drain fetcher) := by
  -- by induction on the answers that can still come, of which each turn takes the first
  induction hcoming : run.coming fetcher generalizing run with
  | nil =>
    rcases next_eq fetcher run with ⟨hzero, hnext⟩ | ⟨-, -, hnext⟩ | ⟨-, event, rest, -, hmore⟩
    · rw [drain_of_idle hzero]
      exact ⟨[], .idle hnext⟩
    · rw [drain_of_stuck hnext]
      exact ⟨[], .stuck hnext⟩
    · rw [hcoming] at hmore
      cases hmore
  | cons first more ih =>
    rcases next_eq fetcher run with ⟨hzero, hnext⟩ | ⟨-, hnone, -⟩ | ⟨-, event, rest, hnext, hmore⟩
    · rw [drain_of_idle hzero]
      exact ⟨[], .idle hnext⟩
    · rw [hcoming] at hnone
      cases hnone
    · rw [hcoming] at hmore
      obtain ⟨events, htakes⟩ := ih (rest.apply event) (List.cons.inj hmore).2.symm
      rw [drain_of_event hnext]
      exact ⟨event :: events, .event hnext htakes⟩

/-- Taking answers one by one ends nowhere else. -/
theorem TakesAll.eq_drain {events : List Event} {last : Run} (h : run.TakesAll fetcher events last) :
    last = run.drain fetcher := by
  induction h with
  | idle hnext => exact (drain_of_idle (next_eq_idle_iff.1 hnext)).symm
  | stuck hnext => exact (drain_of_stuck hnext).symm
  | event hnext _ ih => rw [ih, drain_of_event hnext]

end Run

namespace Course

/-! ## The schedule of a run

A run ends its fetches in the order they were started. That is one of the ways in which they can end. -/

section Schedule

variable {answer : Fetch → Option Outcome} {fetcher : Fetcher}

/-- Applying what has arrived is waiting. -/
theorem drains_applyWhile (arrived : List Event) (session : Session) (started begun : List Fetch)
    (applied : List Event) :
    ∃ applied', Drains answer ⟨⟨session, started, arrived⟩, begun, applied⟩
      ⟨⟨(Run.applyWhile session arrived).1, started, (Run.applyWhile session arrived).2⟩,
        begun, applied'⟩ := by
  induction arrived generalizing session applied with
  | nil => exact ⟨applied, .refl⟩
  | cons event rest ih =>
    unfold Run.applyWhile
    by_cases hzero : session.inFlight = 0
    · rw [if_pos hzero]
      exact ⟨applied, .refl⟩
    · rw [if_neg hzero]
      obtain ⟨applied', hdrains⟩ := ih (session.apply event) (applied ++ [event])
      exact ⟨applied', .head (.receive hzero rfl) hdrains⟩

theorem drains_drainArrived (answer : Fetch → Option Outcome) (course : Course) :
    ∃ applied', Drains answer course ⟨course.run.drainArrived, course.begun, applied'⟩ :=
  drains_applyWhile course.run.arrived course.run.session course.run.started course.begun
    course.applied

/-- Ending every fetch that can end is waiting. -/
theorem drains_wait (hanswer : ∀ fetch, answer fetch = fetcher fetch.path) (started : List Fetch)
    (session : Session) (arrived : List Event) (begun : List Fetch) (applied : List Event) :
    Drains answer ⟨⟨session, started, arrived⟩, begun, applied⟩
      ⟨⟨session, [], arrived ++ Run.answers fetcher started⟩, begun, applied⟩ := by
  induction started generalizing arrived with
  | nil => rw [Run.answers, List.filterMap_nil, List.append_nil]
  | cons fetch rest ih =>
    have herase : (fetch :: rest).erase fetch = rest := List.erase_cons_head ..
    unfold Run.answers
    cases hpath : fetcher fetch.path with
    | none =>
      have hlapse := @Waits.lapse answer ⟨⟨session, fetch :: rest, arrived⟩, begun, applied⟩ fetch
        List.mem_cons_self ((hanswer fetch).trans hpath)
      dsimp only at hlapse
      rw [herase] at hlapse
      rw [List.filterMap_cons_none (by rw [hpath, Option.map_none])]
      exact .head hlapse (ih arrived)
    | some outcome =>
      have harrive := @Waits.arrive answer ⟨⟨session, fetch :: rest, arrived⟩, begun, applied⟩ fetch
        outcome List.mem_cons_self ((hanswer fetch).trans hpath)
      dsimp only at harrive
      rw [herase] at harrive
      rw [List.filterMap_cons_some (by rw [hpath, Option.map_some]), List.append_cons]
      exact .head harrive (ih (arrived ++ [fetch.answered outcome]))

/-- Taking the next answer and applying it is waiting. -/
theorem drains_next (hanswer : ∀ fetch, answer fetch = fetcher fetch.path) (course : Course)
    {event : Event} {run : Run} (h : course.run.next fetcher = .event event run) :
    Drains answer course ⟨run.apply event, course.begun, course.applied ++ [event]⟩ := by
  have hflight := (Run.exists_next_eq_event_iff.1 ⟨event, run, h⟩).1
  cases harrived : course.run.arrived with
  | cons first rest =>
    rw [Run.next_of_arrived hflight harrived] at h
    cases h
    exact .single (.receive hflight harrived)
  | nil =>
    -- nothing has arrived, so the fetches on their way end first
    rw [Run.next_of_wait hflight harrived] at h
    have hwait := drains_wait hanswer course.run.started course.run.session course.run.arrived
      course.begun course.applied
    cases hanswers : Run.answers fetcher course.run.started with
    | nil =>
      rw [hanswers] at h
      cases h
    | cons first rest =>
      rw [hanswers] at h
      cases h
      refine hwait.tail (.receive hflight ?_)
      rw [harrived, hanswers]
      rfl

/-- Taking answers one by one is waiting: it applies the answers that it takes, in this order. -/
theorem drains_takesAll (hanswer : ∀ fetch, answer fetch = fetcher fetch.path) {run last : Run}
    {events : List Event} (h : run.TakesAll fetcher events last) (begun : List Fetch)
    (applied : List Event) :
    Drains answer ⟨run, begun, applied⟩ ⟨last, begun, applied ++ events⟩ := by
  induction h generalizing applied with
  | idle hnext => rw [List.append_nil]
  | @stuck run hnext =>
    rw [List.append_nil]
    exact drains_wait hanswer run.started run.session run.arrived begun applied
  | @event run rest last event events hnext _ ih =>
    rw [List.append_cons]
    exact (drains_next hanswer ⟨run, begun, applied⟩ hnext).trans (ih (applied ++ [event]))

theorem drains_drain (hanswer : ∀ fetch, answer fetch = fetcher fetch.path) (course : Course) :
    ∃ applied', Drains answer course ⟨course.run.drain fetcher, course.begun, applied'⟩ := by
  obtain ⟨events, htakes⟩ := Run.exists_takesAll_drain fetcher course.run
  exact ⟨_, drains_takesAll hanswer htakes course.begun course.applied⟩

/-- Any number of waits of any lengths is waiting. -/
theorem drains_drainFor (hanswer : ∀ fetch, answer fetch = fetcher fetch.path) (limits : List Nat)
    (course : Course) :
    ∃ applied', Drains answer course
      ⟨limits.foldl (fun run limit => run.drainFor fetcher limit) course.run, course.begun,
        applied'⟩ := by
  induction limits generalizing course with
  | nil => exact ⟨course.applied, .refl⟩
  | cons limit rest ih =>
    have hone : ∃ applied', Drains answer course
        ⟨course.run.drainFor fetcher limit, course.begun, applied'⟩ := by
      unfold Run.drainFor
      by_cases hlimit : limit = 0
      · rw [if_pos hlimit]
        exact drains_drainArrived answer course
      · rw [if_neg hlimit]
        exact drains_drain hanswer course
    obtain ⟨applied₁, hfirst⟩ := hone
    obtain ⟨applied₂, hrest⟩ := ih ⟨course.run.drainFor fetcher limit, course.begun, applied₁⟩
    exact ⟨applied₂, hfirst.trans hrest⟩

/-- An answer comes next exactly if an outstanding fetch ends. -/
theorem Sound.exists_next_iff (hanswer : ∀ fetch, answer fetch = fetcher fetch.path)
    {course : Course} (h : course.Sound answer) :
    (∃ event run, course.run.next fetcher = .event event run) ↔
      ∃ fetch, course.ledger.Outstanding fetch ∧ answer fetch ≠ none := by
  rw [Run.exists_next_eq_event_iff]
  constructor
  · rintro ⟨-, hcoming⟩
    obtain ⟨event, hevent⟩ := List.exists_mem_of_ne_nil _ hcoming
    rcases List.mem_append.1 hevent with harrived | hends
    · refine ⟨event.fetch, h.outstanding_of_arrived harrived, ?_⟩
      rw [h.answered event (List.mem_append_left _ harrived)]
      exact Option.some_ne_none _
    · obtain ⟨fetch, hstarted, houtcome⟩ := List.mem_filterMap.1 hends
      refine ⟨fetch, h.outstanding_of_mem (List.mem_append_left _ hstarted), fun hnone => ?_⟩
      rw [← hanswer, hnone] at houtcome
      cases houtcome
  · rintro ⟨fetch, hf, hends⟩
    refine ⟨Nat.ne_of_gt (h.consistent.inFlight_pos hf), fun hnone => ?_⟩
    obtain ⟨harrived, hanswers⟩ := List.append_eq_nil_iff.1 hnone
    -- the fetch does not last forever and has not been applied, so its answer is one of those to come
    obtain ⟨lapsed, hlapsed, hperm⟩ := h.conserved
    have hmem : fetch ∈ lapsed ++ course.run.started ++ course.run.arrived.map Event.fetch ++
        course.applied.map Event.fetch := hperm.mem_iff.1 hf.1
    rw [harrived, List.map_nil, List.append_nil, List.mem_append, List.mem_append] at hmem
    rcases hmem with (hlapse | hstarted) | happlied
    · exact hends (hlapsed fetch hlapse)
    · obtain ⟨outcome, houtcome⟩ := Option.ne_none_iff_exists'.1 hends
      have hanswered : fetch.answered outcome ∈ Run.answers fetcher course.run.started := by
        refine List.mem_filterMap.2 ⟨fetch, hstarted, ?_⟩
        rw [← hanswer, houtcome, Option.map_some]
      rw [hanswers] at hanswered
      cases hanswered
    · exact hf.2 happlied

/-- A run that can be waited out is waited out, to the same panels, also after any number of shorter
waits. -/
theorem drain_after_drainFor (hanswer : ∀ fetch, answer fetch = fetcher fetch.path)
    {settings : Settings} {query : String} {suite : Outcome} {course : Course}
    (h : Reachable answer settings query suite course) (limits : List Nat)
    (hsettled : (course.run.drain fetcher).isSettled = true) :
    let interrupted := limits.foldl (fun run limit => run.drainFor fetcher limit) course.run
    (interrupted.drain fetcher).isSettled = true ∧
      (interrupted.drain fetcher).session.panels = (course.run.drain fetcher).session.panels := by
  intro interrupted
  obtain ⟨applied₁, hsingle⟩ := drains_drain hanswer course
  obtain ⟨applied₂, hlimits⟩ := drains_drainFor hanswer limits course
  obtain ⟨applied₃, hlast⟩ := drains_drain hanswer ⟨interrupted, course.begun, applied₂⟩
  have hrest : Drains answer course _ := hlimits.trans hlast
  have hzero : (course.run.drain fetcher).session.inFlight = 0 := by
    simpa [Run.isSettled] using hsettled
  have hsound₁ := (h.drains hsingle).sound
  have hsound₃ := (h.drains hrest).sound
  -- the single wait has applied the answer of every outstanding fetch, so each of them ends
  have hends : ∀ fetch, course.ledger.Outstanding fetch → answer fetch ≠ none := by
    intro fetch hf
    have hmem := (hsound₁.applied_perm hzero).mem_iff.2 hf.1
    obtain ⟨event, hevent, rfl⟩ := List.mem_map.1 hmem
    rw [hsound₁.answered event (List.mem_append_right _ hevent)]
    exact Option.some_ne_none _
  have hzero' : (interrupted.drain fetcher).session.inFlight = 0 := by
    rcases Run.drain_stops fetcher interrupted with hdone | ⟨hstarted, harrived⟩
    · exact hdone
    · exact hsound₃.inFlight_eq_zero hstarted harrived
        fun fetch hf => hends fetch ((Drains.continues hrest).outstanding hf)
  refine ⟨by simpa [Run.isSettled] using hzero', ?_⟩
  exact (hsound₃.complete_drains hsound₁ (Drains.continues hrest) (Drains.continues hsingle)
    hzero' hzero).1

end Schedule

/-- A request is answered "no" exactly if the key has a panel, and then it changes nothing. -/
theorem request_eq_false_iff {run next : Run} {key : String} :
    run.request key = .ok (false, next) ↔ key ∈ run.session.panels.keys ∧ next = run := by
  unfold Run.request
  constructor
  · intro hr
    cases hs : run.session.request key with
    | error e => rw [hs] at hr; cases hr
    | ok state =>
      rw [hs] at hr
      obtain ⟨hfresh, hnext⟩ := Prod.mk.inj (Except.ok.inj hr)
      rcases Session.request_cases hs with ⟨hkey, hsession, hstarted⟩ | ⟨_, spec, log, _, hstarted, _⟩
      · refine ⟨hkey, ?_⟩
        rw [← hnext, hsession, hstarted, List.append_nil]
      · -- a new panel has at least the fetch of its results
        rw [hstarted] at hfresh
        simp [Session.fetches] at hfresh
  · rintro ⟨hkey, rfl⟩
    unfold Session.request
    rw [if_pos (Entries.has_iff.2 hkey)]
    simp

/-- A request is refused exactly if the suite does not define the key. -/
theorem Sound.request_refused_iff {answer : Fetch → Option Outcome} {course : Course}
    (h : course.Sound answer) (key : String) :
    (∃ e, course.run.request key = .error e) ↔ key ∉ course.run.session.suite.keys := by
  have hrefused : (∃ e, course.run.request key = .error e) ↔
      ∃ e, course.run.session.request key = .error e := by
    unfold Run.request
    cases course.run.session.request key with
    | error e => simp
    | ok state => simp
  rw [hrefused]
  constructor
  · rintro ⟨e, he⟩
    exact (Session.request_eq_error_iff.1 he).2.1
  · intro hkey
    have hpanel : key ∉ course.run.session.panels.keys :=
      fun hmem => hkey (h.consistent.coherent.defined key hmem)
    exact ⟨⟨key⟩, Session.request_eq_error_iff.2 ⟨hpanel, hkey, rfl⟩⟩

/-- **Accounting for fetches.** In every course:

* what is in flight and what has been applied add up to what has been started;
* the results of each panel have been fetched once, and its source once if it has one, however often
  the panel was asked for; nothing else has been fetched;
* a loading panel has no results exactly as long as they are awaited, and waits for its source exactly
  as long as that is awaited;
* a request is refused exactly if the suite does not define the key, and is answered "no", with
  nothing changed, exactly if there is a panel;
* nothing is in flight exactly if nothing is outstanding, and then no panel is loading;
* all ways of waiting until nothing is in flight, broken off or not, lead to the same panels, and apply
  the answer of every fetch once;
* there is nothing to take exactly if nothing is in flight, and there is a next answer exactly if an
  outstanding fetch ends; taking it and applying it is such a way;
* taking and applying answers until none comes ends where waiting to the end does, and nowhere else, and
  applies what it takes in this order; and any number of waits, followed by one to the end, lead to where
  a single one does. -/
theorem fetches_accounted {answer : Fetch → Option Outcome} {settings : Settings} {query : String}
    {suite : Outcome} {course : Course} (h : Reachable answer settings query suite course) :
    let session := course.run.session
    (session.inFlight + course.applied.length = course.begun.length) ∧
    ((∀ fetch ∈ course.begun, fetch.key ∈ session.panels.keys) ∧
      ∀ key spec, session.suite.get key = .ok spec →
        course.begun.countP (fun f => f.key = key ∧ f.role = .results) =
          (if key ∈ session.panels.keys then 1 else 0) ∧
        course.begun.countP (fun f => f.key = key ∧ f.role = .source) =
          (if key ∈ session.panels.keys ∧ spec.hasSource = true then 1 else 0)) ∧
    (∀ key results source, session.panels.get? key = some (.loading results source) →
      (results = none ↔ course.ledger.Awaits key .results) ∧
      (source = .waiting ↔ course.ledger.Awaits key .source)) ∧
    (∀ key, ((∃ e, course.run.request key = .error e) ↔ key ∉ session.suite.keys) ∧
      ∀ next, course.run.request key = .ok (false, next) ↔
        key ∈ session.panels.keys ∧ next = course.run) ∧
    (session.inFlight = 0 ↔ ∀ fetch, ¬ course.ledger.Outstanding fetch) ∧
    (session.inFlight = 0 → ∀ key panel, session.panels.get? key = some panel →
      panel.phase ≠ .loading) ∧
    (∀ first second, Drains answer course first → Drains answer course second →
      first.run.session.inFlight = 0 → second.run.session.inFlight = 0 →
      first.run.session.panels = second.run.session.panels ∧
      first.applied.Perm second.applied ∧
      (first.applied.map Event.fetch).Perm course.begun ∧ course.begun.Nodup) ∧
    (∀ fetcher : Fetcher, (∀ fetch, answer fetch = fetcher fetch.path) →
      (course.run.next fetcher = .idle ↔ session.inFlight = 0) ∧
      ((∃ event run, course.run.next fetcher = .event event run) ↔
        ∃ fetch, course.ledger.Outstanding fetch ∧ answer fetch ≠ none) ∧
      (∀ event run, course.run.next fetcher = .event event run →
        Drains answer course ⟨run.apply event, course.begun, course.applied ++ [event]⟩) ∧
      (∀ last, (∃ events, course.run.TakesAll fetcher events last) ↔ last = course.run.drain fetcher) ∧
      (∀ events last, course.run.TakesAll fetcher events last →
        Drains answer course ⟨last, course.begun, course.applied ++ events⟩) ∧
      ∀ limits : List Nat, (course.run.drain fetcher).isSettled = true →
        let interrupted := limits.foldl (fun run limit => run.drainFor fetcher limit) course.run
        (interrupted.drain fetcher).isSettled = true ∧
        (interrupted.drain fetcher).session.panels =
          (course.run.drain fetcher).session.panels) := by
  intro session
  have hsound := h.sound
  have hcons := hsound.consistent
  refine ⟨hcons.balance, ⟨fun fetch hf => (hcons.mem_fetchesOf hf).1, ?_⟩, ?_, ?_,
    hcons.inFlight_eq_zero_iff, ?_, ?_, ?_⟩
  · intro key spec hspec
    exact ⟨hcons.countP_results key, hcons.countP_source hspec⟩
  · intro key results source hpanel
    exact hcons.loading_awaits hpanel
  · intro key
    exact ⟨hsound.request_refused_iff key, fun next => request_eq_false_iff⟩
  · intro hzero key panel hpanel
    exact hcons.not_loading_of_idle hzero hpanel
  -- both drains have applied one answer for each fetch that has begun
  · intro first second hfirst hsecond hzero₁ hzero₂
    have hsound₁ := (h.drains hfirst).sound
    have hcont := Drains.continues hfirst
    obtain ⟨hpanels, happlied⟩ := hsound₁.complete_drains (h.drains hsecond).sound hcont
      (Drains.continues hsecond) hzero₁ hzero₂
    refine ⟨hpanels, happlied, ?_, hcons.started_nodup⟩
    rw [← hcont.begun]
    exact hsound₁.applied_perm hzero₁
  · intro fetcher hanswer
    refine ⟨Run.next_eq_idle_iff, hsound.exists_next_iff hanswer, ?_, ?_, ?_, ?_⟩
    · intro event run
      exact drains_next hanswer course
    · intro last
      constructor
      · rintro ⟨events, htakes⟩
        exact htakes.eq_drain
      · rintro rfl
        exact Run.exists_takesAll_drain fetcher course.run
    · intro events last htakes
      exact drains_takesAll hanswer htakes course.begun course.applied
    · intro limits hsettled
      exact drain_after_drainFor hanswer h limits hsettled

/-- Every document is missing. -/
def nothingFound : Fetcher := fun path => some (.error (.notFound path))

/-- Every benchmark of the sample suite, with no document to be found: three fetches are in flight,
and two waits that are broken off, followed by one to the end, lead to where a single one does. -/
theorem fetches_accounted_sample : ∃ session started,
    Session.opened .default "bm=all" (.ok Session.sampleSuite) = .ok (session, started) ∧
    let run : Run := ⟨session, started, []⟩
    session.inFlight = 3 ∧ started.length = 3 ∧
    (run.drain nothingFound).isSettled = true ∧
    (((run.drainFor nothingFound 0).drainFor nothingFound 5).drain nothingFound).session.panels =
      (run.drain nothingFound).session.panels := by
  have hsample : (Session.opened .default "bm=all" (.ok Session.sampleSuite)).toOption.map
      (fun state => (state.2.length, (Run.drain nothingFound ⟨state.1, state.2, []⟩).isSettled)) =
        some (3, true) := by
    decide +kernel
  cases hopened : Session.opened .default "bm=all" (.ok Session.sampleSuite) with
  | error e => rw [hopened] at hsample; cases hsample
  | ok state =>
    rw [hopened] at hsample
    obtain ⟨hlength, hsettled⟩ := Prod.mk.inj (Option.some.inj hsample)
    have hreachable : Reachable (fun fetch => nothingFound fetch.path) .default "bm=all"
        (.ok Session.sampleSuite) ⟨⟨state.1, state.2, []⟩, state.2, []⟩ := .opened hopened
    obtain ⟨hbalance, _, _, _, _, _, _, hdrain⟩ := fetches_accounted hreachable
    refine ⟨state.1, state.2, rfl, ?_, hlength, hsettled, ?_⟩
    · rw [← hlength]
      exact hbalance
    · obtain ⟨-, -, -, -, -, hlimits⟩ := hdrain nothingFound fun _ => rfl
      exact (hlimits [0, 5] hsettled).2

end Course

end BenchScope
