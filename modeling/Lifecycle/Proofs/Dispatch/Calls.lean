import Lifecycle.Proofs.Dispatch.Watching
/-!
# The calls of a dispatch

What a dispatch calls, in which order and with what, and what becomes of the failures.  Both
policies make the same calls to begin with; they differ in where the calls end, which is the first
failure or the last extension.
-/

namespace Lifecycle

variable {σ : Type}

/-- The calls of extensions in order, each on what the one before it left. -/
def callsOf : List (Extension σ) → Context → σ → List (Call σ)
  | [], _, _ => []
  | e :: rest, c, s => ⟨e, c, s⟩ :: callsOf rest (e.handle c s).2.1 (e.handle c s).2.2

def untilFailure : List (Call σ) → List (Call σ)
  | [] => []
  | k :: rest =>
      match k.answer.1 with
      | .ok () => k :: untilFailure rest
      | .error _ => [k]

/-- The calls that a policy makes, of those that running to the end would make. -/
def Policy.calls : Policy → List (Call σ) → List (Call σ)
  | .aggregate, calls => calls
  | .failFast, calls => untilFailure calls

/-- What a policy makes of failures. -/
def Policy.report (phase : Phase) : Policy → List Error → Except Error Unit
  | _, [] => .ok ()
  | .aggregate, failures => .error (.phaseFailed phase failures)
  | .failFast, failure :: _ => .error failure

/-- Calls follow one another: each is handed what the one before it left. -/
inductive Threaded : Context → σ → List (Call σ) → Context → σ → Prop where
  | nil {c : Context} {s : σ} : Threaded c s [] c s
  | cons {e : Extension σ} {c c₁ c' : Context} {s s₁ s' : σ} {outcome : Except String Unit}
      {calls : List (Call σ)} : e.handle c s = (outcome, c₁, s₁) →
      Threaded c₁ s₁ calls c' s' → Threaded c s (⟨e, c, s⟩ :: calls) c' s'

theorem map_callsOf (extensions : List (Extension σ)) (c : Context) (s : σ) :
    (callsOf extensions c s).map (·.extension) = extensions := by
  induction extensions generalizing c s with
  | nil => rfl
  | cons e rest ih => rw [callsOf, List.map_cons, ih]

theorem Extension.watched_handle {e : Extension σ} {c c' : Context} {s s' : σ}
    {outcome : Except String Unit} (h : e.handle c s = (outcome, c', s'))
    (noted : List (Call σ)) :
    e.watched.handle c (s, noted) = (outcome, c', (s', noted ++ [⟨e, c, s⟩])) := by
  simp only [watched, h]

theorem Call.failure?_of_handle_ok {e : Extension σ} {c c' : Context} {s s' : σ}
    (h : e.handle c s = (.ok (), c', s')) (phase : Phase) :
    (⟨e, c, s⟩ : Call σ).failure? phase = none := by
  simp only [failure?, answer, h]

theorem Call.failure?_of_handle_error {e : Extension σ} {c c' : Context} {s s' : σ}
    {message : String} (h : e.handle c s = (.error message, c', s')) (phase : Phase) :
    (⟨e, c, s⟩ : Call σ).failure? phase = some (e.failure phase message) := by
  simp only [failure?, answer, h, Extension.failure]

/-! ## Running all extensions -/

theorem threaded_runAll (phase : Phase) (extensions : List (Extension σ)) (c : Context) (s : σ) :
    Threaded c s (callsOf extensions c s) (runAll phase extensions c s).2.1
      (runAll phase extensions c s).2.2 := by
  induction extensions generalizing c s with
  | nil => exact .nil
  | cons e rest ih =>
      match h : e.handle c s with
      | (outcome, c₁, s₁) =>
          have hrest := ih c₁ s₁
          cases outcome with
          | ok _ => simpa only [callsOf, runAll, h] using Threaded.cons h hrest
          | error message => simpa only [callsOf, runAll, h] using Threaded.cons h hrest

theorem failures_runAll (phase : Phase) (extensions : List (Extension σ)) (c : Context) (s : σ) :
    (runAll phase extensions c s).1 =
      (callsOf extensions c s).filterMap fun k => k.failure? phase := by
  induction extensions generalizing c s with
  | nil => rfl
  | cons e rest ih =>
      match h : e.handle c s with
      | (outcome, c₁, s₁) =>
          cases outcome with
          | ok _ =>
              have hfailure := Call.failure?_of_handle_ok h phase
              simp only [callsOf, runAll, h, ih c₁ s₁, List.filterMap_cons, hfailure]
          | error message =>
              have hfailure := Call.failure?_of_handle_error h phase
              simp only [callsOf, runAll, h, ih c₁ s₁, List.filterMap_cons, hfailure]

theorem runAll_watched (phase : Phase) (extensions : List (Extension σ)) (c : Context) (s : σ)
    (noted : List (Call σ)) :
    runAll phase (extensions.map Extension.watched) c (s, noted) =
      ((runAll phase extensions c s).1, (runAll phase extensions c s).2.1,
        ((runAll phase extensions c s).2.2, noted ++ callsOf extensions c s)) := by
  induction extensions generalizing c s noted with
  | nil => simp only [List.map_nil, runAll, callsOf, List.append_nil]
  | cons e rest ih =>
      match h : e.handle c s with
      | (outcome, c₁, s₁) =>
          have hnote := Extension.watched_handle h noted
          have hrest := ih c₁ s₁ (noted ++ [⟨e, c, s⟩])
          rw [List.append_assoc, List.singleton_append] at hrest
          cases outcome with
          | ok _ => simp only [List.map_cons, runAll, hnote, hrest, h, callsOf]
          | error message =>
              simp only [List.map_cons, runAll, hnote, hrest, h, callsOf]
              rfl

/-! ## Running up to the first failure -/

theorem threaded_runUntilFailure (phase : Phase) (extensions : List (Extension σ)) (c : Context)
    (s : σ) :
    Threaded c s (untilFailure (callsOf extensions c s))
      (runUntilFailure phase extensions c s).2.1 (runUntilFailure phase extensions c s).2.2 := by
  induction extensions generalizing c s with
  | nil => exact .nil
  | cons e rest ih =>
      match h : e.handle c s with
      | (outcome, c₁, s₁) =>
          cases outcome with
          | ok _ =>
              simpa only [callsOf, untilFailure, Call.answer, runUntilFailure, h]
                using Threaded.cons h (ih c₁ s₁)
          | error message =>
              simpa only [callsOf, untilFailure, Call.answer, runUntilFailure, h]
                using Threaded.cons h .nil

theorem outcome_runUntilFailure (phase : Phase) (extensions : List (Extension σ)) (c : Context)
    (s : σ) :
    (runUntilFailure phase extensions c s).1 =
      Policy.failFast.report phase ((callsOf extensions c s).filterMap fun k =>
        k.failure? phase) := by
  induction extensions generalizing c s with
  | nil => rfl
  | cons e rest ih =>
      match h : e.handle c s with
      | (outcome, c₁, s₁) =>
          cases outcome with
          | ok _ =>
              have hfailure := Call.failure?_of_handle_ok h phase
              simp only [callsOf, runUntilFailure, h, ih c₁ s₁, List.filterMap_cons, hfailure]
          | error message =>
              have hfailure := Call.failure?_of_handle_error h phase
              simp only [callsOf, runUntilFailure, h, List.filterMap_cons, hfailure,
                Policy.report]

theorem runUntilFailure_watched (phase : Phase) (extensions : List (Extension σ)) (c : Context)
    (s : σ) (noted : List (Call σ)) :
    runUntilFailure phase (extensions.map Extension.watched) c (s, noted) =
      ((runUntilFailure phase extensions c s).1, (runUntilFailure phase extensions c s).2.1,
        ((runUntilFailure phase extensions c s).2.2,
          noted ++ untilFailure (callsOf extensions c s))) := by
  induction extensions generalizing c s noted with
  | nil => simp only [List.map_nil, runUntilFailure, callsOf, untilFailure, List.append_nil]
  | cons e rest ih =>
      match h : e.handle c s with
      | (outcome, c₁, s₁) =>
          have hnote := Extension.watched_handle h noted
          cases outcome with
          | ok _ =>
              have hrest := ih c₁ s₁ (noted ++ [⟨e, c, s⟩])
              rw [List.append_assoc, List.singleton_append] at hrest
              simp only [List.map_cons, runUntilFailure, hnote, hrest, h, callsOf, untilFailure,
                Call.answer]
          | error message =>
              simp only [List.map_cons, runUntilFailure, hnote, h, callsOf, untilFailure,
                Call.answer]
              rfl

/-- Either no call failed, or the calls end with the first one that did. -/
theorem untilFailure_cases (calls : List (Call σ)) :
    (untilFailure calls = calls ∧ ∀ k ∈ calls, k.answer.1 = .ok ()) ∨
      ∃ before last rest message, calls = before ++ last :: rest ∧
        untilFailure calls = before ++ [last] ∧ (∀ k ∈ before, k.answer.1 = .ok ()) ∧
        last.answer.1 = .error message := by
  induction calls with
  | nil => exact .inl ⟨rfl, by simp⟩
  | cons k rest ih =>
      cases hanswer : k.answer.1 with
      | error message =>
          refine .inr ⟨[], k, rest, message, rfl, ?_, by simp, hanswer⟩
          simp only [untilFailure, hanswer, List.nil_append]
      | ok _ =>
          have hstep : untilFailure (k :: rest) = k :: untilFailure rest := by
            simp only [untilFailure, hanswer]
          rcases ih with ⟨hall, hok⟩ | ⟨before, last, after, message, hrest, hends, hok, hfails⟩
          · refine .inl ⟨by rw [hstep, hall], ?_⟩
            intro k' hk'
            rcases List.mem_cons.mp hk' with rfl | hk'
            · exact hanswer
            · exact hok k' hk'
          · refine .inr ⟨k :: before, last, after, message, by rw [hrest, List.cons_append], ?_,
              ?_, hfails⟩
            · rw [hstep, hends, List.cons_append]
            · intro k' hk'
              rcases List.mem_cons.mp hk' with rfl | hk'
              · exact hanswer
              · exact hok k' hk'

/-! ## Running under a policy -/

theorem filterMap_failure?_eq_nil_iff {calls : List (Call σ)} {phase : Phase} :
    (calls.filterMap fun k => k.failure? phase) = [] ↔ ∀ k ∈ calls, k.answer.1 = .ok () := by
  rw [List.filterMap_eq_nil_iff]
  constructor
  · intro h k hk
    exact Call.failure?_eq_none_iff.mp (h k hk)
  · intro h k hk
    exact Call.failure?_eq_none_iff.mpr (h k hk)

namespace Policy

/-- Which extensions the calls under a policy are of, and what comes of the calls. -/
def Settles (phase : Phase) (extensions : List (Extension σ)) (calls : List (Call σ))
    (result : Except Error Unit) : Policy → Prop
  | .aggregate =>
      calls.map (·.extension) = extensions ∧
        ∀ e, result = .error e →
          e = .phaseFailed phase (calls.filterMap fun k => k.failure? phase)
  | .failFast =>
      calls.map (·.extension) <+: extensions ∧
        (result = .ok () → calls.map (·.extension) = extensions) ∧
        ∀ e, result = .error e → ∃ before last message, calls = before ++ [last] ∧
          (∀ k ∈ before, k.answer.1 = .ok ()) ∧ last.answer.1 = .error message ∧
          e = .callbackFailed last.extension.name phase message

theorem report_eq_ok_iff {policy : Policy} {phase : Phase} {failures : List Error} :
    policy.report phase failures = .ok () ↔ failures = [] := by
  cases policy <;> cases failures <;> simp [report]

theorem run_report (policy : Policy) (phase : Phase) (extensions : List (Extension σ))
    (c : Context) (s : σ) :
    (policy.run phase extensions c s).1 =
      policy.report phase ((callsOf extensions c s).filterMap fun k => k.failure? phase) := by
  cases policy with
  | failFast => exact outcome_runUntilFailure phase extensions c s
  | aggregate =>
      rw [← failures_runAll, run]
      match runAll phase extensions c s with
      | ([], c', s') => rfl
      | (failure :: rest, c', s') => rfl

theorem threaded_run (policy : Policy) (phase : Phase) (extensions : List (Extension σ))
    (c : Context) (s : σ) :
    Threaded c s (policy.calls (callsOf extensions c s)) (policy.run phase extensions c s).2.1
      (policy.run phase extensions c s).2.2 := by
  cases policy with
  | failFast => exact threaded_runUntilFailure phase extensions c s
  | aggregate =>
      have hthreaded := threaded_runAll phase extensions c s
      rw [run]
      match hrun : runAll phase extensions c s with
      | ([], c', s') => rwa [hrun] at hthreaded
      | (failure :: rest, c', s') => rwa [hrun] at hthreaded

theorem run_watched (policy : Policy) (phase : Phase) (extensions : List (Extension σ))
    (c : Context) (s : σ) (noted : List (Call σ)) :
    policy.run phase (extensions.map Extension.watched) c (s, noted) =
      ((policy.run phase extensions c s).1, (policy.run phase extensions c s).2.1,
        ((policy.run phase extensions c s).2.2,
          noted ++ policy.calls (callsOf extensions c s))) := by
  cases policy with
  | failFast => exact runUntilFailure_watched phase extensions c s noted
  | aggregate =>
      rw [run, run, runAll_watched]
      match runAll phase extensions c s with
      | ([], c', s') => rfl
      | (failure :: rest, c', s') => rfl

theorem report_failures_eq_ok_iff {policy : Policy} {phase : Phase} {calls : List (Call σ)} :
    policy.report phase (calls.filterMap fun k => k.failure? phase) = .ok () ↔
      ∀ k ∈ policy.calls calls, k.answer.1 = .ok () := by
  rw [report_eq_ok_iff, filterMap_failure?_eq_nil_iff]
  cases policy with
  | aggregate => exact Iff.rfl
  | failFast =>
      rcases untilFailure_cases calls with
        ⟨hall, hok⟩ | ⟨before, last, rest, message, hcalls, hends, hok, hfails⟩
      · rw [Policy.calls, hall]
      · have hlast : last.answer.1 ≠ .ok () := by
          rw [hfails]
          simp
        refine iff_of_false ?_ ?_
        · intro h
          exact hlast (h last (by simp [hcalls]))
        · intro h
          exact hlast (h last (by simp [Policy.calls, hends]))

theorem mem_of_mem_calls {policy : Policy} {calls : List (Call σ)} {k : Call σ}
    (h : k ∈ policy.calls calls) : k ∈ calls := by
  cases policy with
  | aggregate => exact h
  | failFast =>
      rw [Policy.calls] at h
      rcases untilFailure_cases calls with ⟨hall, -⟩ | ⟨before, last, after, _, hsplit, hends, -, -⟩
      · rwa [hall] at h
      · have hprefix : before ++ [last] <+: calls := ⟨after, by simp [hsplit]⟩
        rw [hends] at h
        exact hprefix.subset h

theorem settles (policy : Policy) (phase : Phase) (calls : List (Call σ)) :
    policy.Settles phase (calls.map (·.extension)) (policy.calls calls)
      (policy.report phase (calls.filterMap fun k => k.failure? phase)) := by
  cases policy with
  | aggregate =>
      refine ⟨rfl, ?_⟩
      intro e he
      cases hfailures : calls.filterMap fun k => k.failure? phase with
      | nil => rw [hfailures] at he; cases he
      | cons failure rest => rw [hfailures] at he; cases he; rw [Policy.calls, hfailures]
  | failFast =>
      rcases untilFailure_cases calls with
        ⟨hall, hok⟩ | ⟨before, last, rest, message, hcalls, hends, hok, hfails⟩
      · rw [Policy.calls, hall, filterMap_failure?_eq_nil_iff.mpr hok]
        refine ⟨List.prefix_rfl, fun _ => rfl, ?_⟩
        intro e he
        cases he
      · have hlast : last.failure? phase =
            some (.callbackFailed last.extension.name phase message) :=
          Call.failure?_eq_some_iff.mpr ⟨message, hfails, rfl⟩
        have hreport : Policy.failFast.report phase
            (calls.filterMap fun k => k.failure? phase) =
              .error (.callbackFailed last.extension.name phase message) := by
          rw [hcalls, List.filterMap_append, filterMap_failure?_eq_nil_iff.mpr hok,
            List.nil_append, List.filterMap_cons, hlast]
          rfl
        rw [hreport, Policy.calls, hends]
        refine ⟨?_, by simp, ?_⟩
        · refine ⟨rest.map (·.extension), ?_⟩
          rw [hcalls]
          simp
        · intro e he
          cases he
          exact ⟨before, last, message, rfl, hok, hfails, rfl⟩

end Policy

/-! ## Dispatch -/

/-- **A dispatch calls the extensions that its lookup gives**, each once and in order, and stops
early only at a failure, under the policy that stops there.  The policy is that of the direction
which the rules give the phase of the context as it comes in.  If the lookup fails nothing is
called. -/
theorem Registry.dispatch_calls (r : Registry σ) (policies : Policies) (c : Context) (s : σ) :
    match r.lookup c.phase with
    | .error e =>
        r.dispatch policies c s = (.error e, c, s) ∧
          r.watched.dispatch policies c (s, []) = (.error e, c, (s, []))
    | .ok extensions =>
        ∃ calls result c' s', r.dispatch policies c s = (result, c', s') ∧
          r.watched.dispatch policies c (s, []) = (result, c', (s', calls)) ∧
          Threaded c s calls c' s' ∧
          (result = .ok () ↔ ∀ k ∈ calls, k.answer.1 = .ok ()) ∧
          (match (r.rules.ruleFor c.phase).direction with
            | .forward => policies.forward
            | .backward => policies.backward).Settles c.phase extensions calls result := by
  have hwatched := r.lookup_watched c.phase
  cases hlookup : r.lookup c.phase with
  | error e =>
      rw [hlookup] at hwatched
      refine ⟨?_, ?_⟩
      · rw [dispatch, hlookup]
      · rw [dispatch, hwatched]
        rfl
  | ok extensions =>
      rw [hlookup] at hwatched
      have hplain : r.dispatch policies c s =
          (policies.policyFor (r.rules.direction c.phase)).run c.phase extensions c s := by
        rw [dispatch, hlookup]
      have hnoted : r.watched.dispatch policies c (s, []) =
          (policies.policyFor (r.rules.direction c.phase)).run c.phase
            (extensions.map Extension.watched) c (s, []) := by
        rw [dispatch, hwatched]
        rfl
      rw [Policy.run_watched, ← hplain, List.nil_append] at hnoted
      have hresult := congrArg Prod.fst hplain
      rw [Policy.run_report] at hresult
      have hthreaded := Policy.threaded_run (policies.policyFor (r.rules.direction c.phase))
        c.phase extensions c s
      rw [← hplain] at hthreaded
      refine ⟨_, (r.dispatch policies c s).1, _, _, rfl, hnoted, hthreaded, ?_, ?_⟩
      · rw [hresult]
        exact Policy.report_failures_eq_ok_iff
      · have hsettles := Policy.settles (policies.policyFor (r.rules.direction c.phase)) c.phase
          (callsOf extensions c s)
        rw [map_callsOf] at hsettles
        rwa [hresult]

/-- Three extensions around a test: one that fails, one that moves the context to a setup, and one
that fails with another message. -/
def troubledTest : Registry Unit :=
  let around (name : String) (outcome : Except String Unit) (change : Context → Context) :
      Registration Unit :=
    ⟨⟨name, .each, fun c s => (outcome, change c, s)⟩, .programmatic name, .default⟩
  { rules := PhaseRules.builtin
    factory := Constructors.empty.toFactory
    scope :=
      { id := ScopeId.numbered 0
        entries := [around "table" (.error "locked") id,
          around "mover" (.ok ()) fun c => { c with phase := .beforeAll },
          around "server" (.error "busy") id] }
    ancestors := [] }

private theorem lookup_troubledTest {phase : Phase}
    (h : phase ∈ [Phase.beforeEach, Phase.afterEach]) :
    troubledTest.lookup phase =
      .ok (((PhaseRules.builtin.direction phase).arrange troubledTest.scope.entries).map
        (·.extension)) := by
  simp only [List.mem_cons, List.not_mem_nil, or_false] at h
  rcases h with rfl | rfl <;>
    exact Registry.lookup_of_lookupEntries_ok
      (Registry.lookupEntries_eq_ok_iff.mpr ⟨by unfold Contested; decide, rfl⟩)

private theorem lookup_watched_troubledTest {phase : Phase}
    (h : phase ∈ [Phase.beforeEach, Phase.afterEach]) :
    troubledTest.watched.lookup phase =
      .ok ((((PhaseRules.builtin.direction phase).arrange troubledTest.scope.entries).map
        (·.extension)).map Extension.watched) := by
  rw [Registry.lookup_watched, lookup_troubledTest h]
  rfl

/-- With the standard policies the setup stops at the first failure.  The teardown goes on through
both failures and the move, in reverse. -/
theorem troubled_teardown_runs_to_its_end :
    let setup := Context.forScope .beforeEach (ScopeId.numbered 0) "case" .null
    let teardown := Context.forScope .afterEach (ScopeId.numbered 0) "case" .null
    (∃ calls c', troubledTest.dispatch ⟨.failFast, .aggregate⟩ setup () =
        (.error (.callbackFailed "table" .beforeEach "locked"), c', ()) ∧
      Threaded setup () calls c' () ∧ calls.map (·.extension.name) = ["table"]) ∧
    ∃ calls c', troubledTest.dispatch ⟨.failFast, .aggregate⟩ teardown () =
        (.error (.phaseFailed .afterEach [.callbackFailed "server" .afterEach "busy",
          .callbackFailed "table" .afterEach "locked"]), c', ()) ∧
      Threaded teardown () calls c' () ∧
      calls.map (·.extension.name) = ["server", "mover", "table"] ∧
      calls.map (·.context.phase) = [.afterEach, .afterEach, .beforeAll] := by
  intro setup teardown
  have hstart : setup.phase ∈ [Phase.beforeEach, Phase.afterEach] := by decide
  have hend : teardown.phase ∈ [Phase.beforeEach, Phase.afterEach] := by decide
  have hsetup := troubledTest.dispatch_calls ⟨.failFast, .aggregate⟩ setup ()
  have hteardown := troubledTest.dispatch_calls ⟨.failFast, .aggregate⟩ teardown ()
  rw [lookup_troubledTest hstart] at hsetup
  rw [lookup_troubledTest hend] at hteardown
  refine ⟨?_, ?_⟩
  · obtain ⟨calls, result, c', s', hdispatch, hwatched, hthreaded, -⟩ := hsetup
    rw [Registry.dispatch, lookup_watched_troubledTest hstart] at hwatched
    cases hwatched
    exact ⟨_, _, hdispatch, hthreaded, rfl⟩
  · obtain ⟨calls, result, c', s', hdispatch, hwatched, hthreaded, -, hcalled, -⟩ := hteardown
    have hnames : calls.map (·.extension.name) = ["server", "mover", "table"] :=
      List.map_map.symm.trans (congrArg (List.map (·.name)) hcalled)
    rw [Registry.dispatch, lookup_watched_troubledTest hend] at hwatched
    cases hwatched
    exact ⟨_, _, hdispatch, hthreaded, hnames, rfl⟩

end Lifecycle
