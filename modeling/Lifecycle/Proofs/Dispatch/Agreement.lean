import Lifecycle.Proofs.Dispatch.Calls
/-!
# The agreement of the policies

Two dispatches of one phase from the same start, one that runs to the end and one that stops at the
first failure.  Up to that failure they make the same calls on the same contexts, so that what the
second reports is the first of what the first one reports, and where it stops the first one passed.
-/

namespace Lifecycle

variable {σ : Type}

/-! ## Where calls lead -/

theorem Threaded.unique {c c₁ c₂ : Context} {s s₁ s₂ : σ} {calls : List (Call σ)}
    (h : Threaded c s calls c₁ s₁) (h' : Threaded c s calls c₂ s₂) : c₁ = c₂ ∧ s₁ = s₂ := by
  induction h with
  | nil =>
      cases h' with
      | nil => exact ⟨rfl, rfl⟩
  | cons hhandle _ ih =>
      cases h' with
      | cons hhandle' hrest =>
          rw [hhandle] at hhandle'
          obtain ⟨-, rfl, rfl⟩ := hhandle'
          exact ih hrest

theorem Threaded.after {c c' : Context} {s s' : σ} {before after : List (Call σ)} {k : Call σ}
    (h : Threaded c s (before ++ k :: after) c' s') :
    Threaded k.answer.2.1 k.answer.2.2 after c' s' := by
  induction before generalizing c s with
  | nil =>
      cases h with
      | cons hhandle hrest =>
          simp only [Call.answer, hhandle]
          exact hrest
  | cons _ before ih =>
      cases h with
      | cons _ hrest => exact ih hrest

theorem Threaded.before {c c' : Context} {s s' : σ} {before after : List (Call σ)} {k : Call σ}
    (h : Threaded c s (before ++ k :: after) c' s') :
    Threaded c s before k.context k.world := by
  induction before generalizing c s with
  | nil =>
      cases h with
      | cons _ _ => exact .nil
  | cons _ before ih =>
      cases h with
      | cons hhandle hrest => exact .cons hhandle (ih hrest)

/-- A journal to which every callback only appends is only appended to by calls. -/
theorem Threaded.prefix_journal {α : Type} {journal : σ → List α} {c c' : Context} {s s' : σ}
    {calls : List (Call σ)} (h : Threaded c s calls c' s')
    (happends : ∀ k ∈ calls, ∀ c s, journal s <+: journal (k.extension.handle c s).2.2) :
    journal s <+: journal s' := by
  induction h with
  | nil => exact List.prefix_rfl
  | @cons e c c₁ _ s s₁ _ _ _ hhandle _ ih =>
      have hfirst := happends _ List.mem_cons_self c s
      simp only [hhandle] at hfirst
      exact hfirst.trans (ih fun k hk => happends k (List.mem_cons_of_mem _ hk))

/-! ## The runs of both policies -/

section Runs

variable (phase : Phase) (extensions : List (Extension σ)) (c : Context) (s : σ)

theorem run_eq_of_no_failure
    (hok : ∀ k ∈ callsOf extensions c s, k.answer.1 = .ok ()) :
    Policy.aggregate.run phase extensions c s = Policy.failFast.run phase extensions c s ∧
      (Policy.failFast.run phase extensions c s).1 = .ok () := by
  have hsame : untilFailure (callsOf extensions c s) = callsOf extensions c s := by
    rcases untilFailure_cases (callsOf extensions c s) with
      ⟨hall, -⟩ | ⟨before, last, rest, message, hcalls, -, -, hfails⟩
    · exact hall
    · have hlast := hok last (by simp [hcalls])
      rw [hfails] at hlast
      cases hlast
  have hreport : ∀ policy : Policy, (policy.run phase extensions c s).1 = .ok () := by
    intro policy
    rw [Policy.run_report, Policy.report_eq_ok_iff, filterMap_failure?_eq_nil_iff]
    exact hok
  have hpatient := Policy.threaded_run .aggregate phase extensions c s
  have hhasty := Policy.threaded_run .failFast phase extensions c s
  rw [Policy.calls, hsame] at hhasty
  obtain ⟨hcontext, hworld⟩ := hpatient.unique hhasty
  refine ⟨?_, hreport .failFast⟩
  exact Prod.ext ((hreport .aggregate).trans (hreport .failFast).symm) (Prod.ext hcontext hworld)

theorem run_of_first_failure {before after : List (Call σ)} {last : Call σ} {message : String}
    (hcalls : callsOf extensions c s = before ++ last :: after)
    (hends : untilFailure (callsOf extensions c s) = before ++ [last])
    (hok : ∀ k ∈ before, k.answer.1 = .ok ()) (hfails : last.answer.1 = .error message) :
    let failure := Error.callbackFailed last.extension.name phase message
    Policy.failFast.run phase extensions c s = (.error failure, last.answer.2) ∧
      (Policy.aggregate.run phase extensions c s).1 =
        .error (.phaseFailed phase (failure :: after.filterMap fun k => k.failure? phase)) ∧
      Threaded last.answer.2.1 last.answer.2.2 after
        (Policy.aggregate.run phase extensions c s).2.1
        (Policy.aggregate.run phase extensions c s).2.2 := by
  intro failure
  have hfailures : (callsOf extensions c s).filterMap (fun k => k.failure? phase) =
      failure :: after.filterMap fun k => k.failure? phase := by
    have hlast : last.failure? phase = some failure :=
      Call.failure?_eq_some_iff.mpr ⟨message, hfails, rfl⟩
    rw [hcalls, List.filterMap_append, filterMap_failure?_eq_nil_iff.mpr hok, List.nil_append,
      List.filterMap_cons, hlast]
  have hpatient := Policy.threaded_run .aggregate phase extensions c s
  have hhasty := Policy.threaded_run .failFast phase extensions c s
  rw [Policy.calls, hcalls] at hpatient
  rw [Policy.calls, hends] at hhasty
  have hstops : (Policy.failFast.run phase extensions c s).2 = last.answer.2 := by
    obtain ⟨hcontext, hworld⟩ := hhasty.after.unique .nil
    exact Prod.ext hcontext hworld
  refine ⟨Prod.ext ?_ hstops, ?_, hpatient.after⟩
  · rw [Policy.run_report, hfailures]
    rfl
  · rw [Policy.run_report, hfailures]
    rfl

end Runs

/-! ## Dispatches -/

namespace Registry

/-- The calls of a dispatch, as the watched registry notes them. -/
def callsMade (r : Registry σ) (policies : Policies) (c : Context) (s : σ) : List (Call σ) :=
  (r.watched.dispatch policies c (s, [])).2.2.2

section Dispatches

variable {r : Registry σ} {c : Context} (policies : Policies) (s : σ)

theorem dispatch_of_lookup_error {e : Error} (h : r.lookup c.phase = .error e) :
    r.dispatch policies c s = (.error e, c, s) := by
  rw [dispatch, h]

theorem dispatch_of_lookup_ok {extensions : List (Extension σ)}
    (h : r.lookup c.phase = .ok extensions) :
    r.dispatch policies c s =
      (policies.policyFor (r.rules.direction c.phase)).run c.phase extensions c s := by
  rw [dispatch, h]

theorem callsMade_of_lookup_error {e : Error} (h : r.lookup c.phase = .error e) :
    r.callsMade policies c s = [] := by
  have hwatched := r.lookup_watched c.phase
  rw [h] at hwatched
  rw [callsMade, dispatch_of_lookup_error policies _ hwatched]

theorem callsMade_of_lookup_ok {extensions : List (Extension σ)}
    (h : r.lookup c.phase = .ok extensions) :
    r.callsMade policies c s =
      (policies.policyFor (r.rules.direction c.phase)).calls (callsOf extensions c s) := by
  have hwatched := r.lookup_watched c.phase
  rw [h] at hwatched
  rw [callsMade, dispatch_of_lookup_ok policies _ hwatched]
  exact congrArg (fun result => result.2.2.2) (Policy.run_watched _ c.phase extensions c s [])

theorem threaded_callsMade (r : Registry σ) (policies : Policies) (c : Context) (s : σ) :
    Threaded c s (r.callsMade policies c s) (r.dispatch policies c s).2.1
      (r.dispatch policies c s).2.2 := by
  cases hlookup : r.lookup c.phase with
  | error e =>
      rw [callsMade_of_lookup_error policies s hlookup, dispatch_of_lookup_error policies s hlookup]
      exact .nil
  | ok extensions =>
      rw [callsMade_of_lookup_ok policies s hlookup, dispatch_of_lookup_ok policies s hlookup]
      exact Policy.threaded_run _ c.phase extensions c s

end Dispatches

theorem mem_participants_of_mem_callsOf {r : Registry σ} {phase : Phase}
    {extensions : List (Extension σ)} (hlookup : r.lookup phase = .ok extensions) {c : Context}
    {s : σ} {k : Call σ} (hk : k ∈ callsOf extensions c s) :
    ∃ entry ∈ r.participants phase, entry.extension = k.extension := by
  have hmem : k.extension ∈ extensions := by
    rw [← map_callsOf extensions c s]
    exact List.mem_map_of_mem hk
  cases hentries : r.lookupEntries phase with
  | error e =>
      rw [lookup_of_lookupEntries_error hentries] at hlookup
      cases hlookup
  | ok entries =>
      rw [lookup_of_lookupEntries_ok hentries] at hlookup
      obtain rfl := Except.ok.inj hlookup
      obtain ⟨entry, hentry, hextension⟩ := List.mem_map.mp hmem
      obtain ⟨-, rfl⟩ := lookupEntries_eq_ok_iff.mp hentries
      rw [(Direction.arrange_perm _ _).mem_iff] at hentry
      exact ⟨entry, hentry, hextension⟩

theorem mem_entries_of_mem_callsOf {r : Registry σ} {phase : Phase}
    {extensions : List (Extension σ)} (hlookup : r.lookup phase = .ok extensions) {c : Context}
    {s : σ} {k : Call σ} (hk : k ∈ callsOf extensions c s) :
    ∃ entry ∈ r.entries, entry.extension = k.extension := by
  obtain ⟨entry, hentry, hextension⟩ := mem_participants_of_mem_callsOf hlookup hk
  rw [← filter_entries] at hentry
  exact ⟨entry, (List.mem_filter.mp hentry).1, hextension⟩

/-- **The policies agree up to the first failure.**  Dispatched from the same start, a phase either
fails in its lookup under both policies and calls nothing; or it succeeds under both, with the same
calls and the same context and world in the end; or it fails under both.  Then the one that stops
reports the first failure that the other one reports, its calls are those of the other one up to the
call that failed so, and it ends with what that call left, from which the other one goes on.  So a
journal to which callbacks only append is under the one a beginning of what it is under the
other. -/
theorem policies_agree_up_to_failure (r : Registry σ) (c : Context) (s : σ)
    {patient hasty : Policies}
    (hpatient : patient.policyFor (r.rules.direction c.phase) = .aggregate)
    (hhasty : hasty.policyFor (r.rules.direction c.phase) = .failFast) :
    ((∃ e, r.lookup c.phase = .error e ∧
        r.dispatch patient c s = (.error e, c, s) ∧ r.callsMade patient c s = [] ∧
        r.dispatch hasty c s = (.error e, c, s) ∧ r.callsMade hasty c s = []) ∨
      ((r.dispatch patient c s).1 = .ok () ∧ r.dispatch hasty c s = r.dispatch patient c s ∧
        r.callsMade hasty c s = r.callsMade patient c s) ∨
      ∃ failure failures before last after,
        (r.dispatch patient c s).1 = .error (.phaseFailed c.phase (failure :: failures)) ∧
        r.callsMade patient c s = before ++ last :: after ∧
        (∀ k ∈ before, k.answer.1 = .ok ()) ∧ last.failure? c.phase = some failure ∧
        Threaded last.answer.2.1 last.answer.2.2 after
          (r.dispatch patient c s).2.1 (r.dispatch patient c s).2.2 ∧
        r.dispatch hasty c s = (.error failure, last.answer.2) ∧
        r.callsMade hasty c s = before ++ [last]) ∧
    ∀ {α : Type} (journal : σ → List α),
      (∀ entry ∈ r.entries, ∀ c s, journal s <+: journal (entry.extension.handle c s).2.2) →
      journal (r.dispatch hasty c s).2.2 <+: journal (r.dispatch patient c s).2.2 := by
  cases hlookup : r.lookup c.phase with
  | error e =>
      have hfails := fun policies => dispatch_of_lookup_error policies s hlookup
      have hnone := fun policies => callsMade_of_lookup_error policies s hlookup
      refine ⟨.inl ⟨e, rfl, hfails _, hnone _, hfails _, hnone _⟩, ?_⟩
      intro α journal _
      have hsame : r.dispatch hasty c s = r.dispatch patient c s :=
        (hfails hasty).trans (hfails patient).symm
      exact hsame ▸ List.prefix_rfl
  | ok extensions =>
      have hrun := fun policies => dispatch_of_lookup_ok policies s hlookup
      have hcalls := fun policies => callsMade_of_lookup_ok policies s hlookup
      have happends : ∀ {α : Type} {journal : σ → List α},
          (∀ entry ∈ r.entries, ∀ c s, journal s <+: journal (entry.extension.handle c s).2.2) →
          ∀ k ∈ callsOf extensions c s, ∀ c s,
            journal s <+: journal (k.extension.handle c s).2.2 := by
        intro α journal hentries k hk
        obtain ⟨entry, hentry, hextension⟩ := mem_entries_of_mem_callsOf hlookup hk
        rw [← hextension]
        exact hentries entry hentry
      rw [hrun, hrun, hcalls, hcalls, hpatient, hhasty, Policy.calls, Policy.calls]
      rcases untilFailure_cases (callsOf extensions c s) with
        ⟨hall, hok⟩ | ⟨before, last, after, message, hsplit, hends, hok, hfails⟩
      · obtain ⟨hsame, hresult⟩ := run_eq_of_no_failure c.phase extensions c s hok
        refine ⟨.inr (.inl ⟨hsame ▸ hresult, hsame.symm, hall⟩), ?_⟩
        intro α journal _
        exact hsame ▸ List.prefix_rfl
      · obtain ⟨hstops, hfailures, hgoesOn⟩ :=
          run_of_first_failure c.phase extensions c s hsplit hends hok hfails
        have hlast : last.failure? c.phase =
            some (.callbackFailed last.extension.name c.phase message) :=
          Call.failure?_eq_some_iff.mpr ⟨message, hfails, rfl⟩
        refine ⟨.inr (.inr ⟨_, _, before, last, after, hfailures, hsplit, hok, hlast, hgoesOn,
          hstops, hends⟩), ?_⟩
        intro α journal hentries
        rw [hstops]
        refine hgoesOn.prefix_journal ?_
        intro k hk
        exact happends hentries k (by simp [hsplit, hk])

/-- Of three teardowns the second fails and leaves a mark, and the third fails too: the dispatch
that stops reports what the other one reports first, and its journal ends there. -/
theorem teardown_stops_where_it_first_fails :
    let teardown (name : String) (outcome : Except String Unit) : Registration (List String) :=
      ⟨⟨name, Phase.afterAll.toSet, fun c log =>
          (outcome, c.setMetadata name (.bool true), log ++ [name])⟩,
        .programmatic name, .default⟩
    let entries := [teardown "server" (.error "busy"), teardown "table" (.error "locked"),
      teardown "file" (.ok ())]
    let r : Registry (List String) := ⟨PhaseRules.builtin, Constructors.empty.toFactory,
      { id := ScopeId.numbered 0, entries := entries }, []⟩
    let c := Context.forScope .afterAll (ScopeId.numbered 0) "suite" .null
    let hasty : Policies := ⟨.failFast, .failFast⟩
    Policies.standard.policyFor (r.rules.direction c.phase) = .aggregate ∧
      hasty.policyFor (r.rules.direction c.phase) = .failFast ∧
      (r.dispatch hasty c []).2.2 = ["file", "table"] ∧
      (r.dispatch hasty c []).2.2 <+: (r.dispatch .standard c []).2.2 ∧
      ∃ failure failures, (r.dispatch .standard c []).1 =
          .error (.phaseFailed .afterAll (failure :: failures)) ∧
        (r.dispatch hasty c []).1 = .error failure := by
  intro teardown entries r c hasty
  have hlookup : r.lookup c.phase = .ok ((Direction.backward.arrange
      (r.participants .afterAll)).map (·.extension)) :=
    lookup_of_lookupEntries_ok (lookupEntries_eq_ok_iff.mpr ⟨by unfold Contested; decide, rfl⟩)
  have hgoesOn : Policies.standard.policyFor (r.rules.direction c.phase) = .aggregate := rfl
  have hstops : hasty.policyFor (r.rules.direction c.phase) = .failFast := rfl
  obtain ⟨hagree, hjournal⟩ := policies_agree_up_to_failure r c [] hgoesOn hstops
  have hhasty : (r.dispatch hasty c []).2.2 = ["file", "table"] := by
    rw [dispatch_of_lookup_ok hasty [] hlookup]
    decide +kernel
  have hfails : (r.dispatch .standard c []).1.isOk = false := by
    rw [dispatch_of_lookup_ok .standard [] hlookup]
    decide +kernel
  refine ⟨hgoesOn, hstops, hhasty, ?_, ?_⟩
  · refine hjournal id ?_
    intro entry hentry c log
    have hentries : r.entries = entries := rfl
    rw [hentries] at hentry
    simp only [entries, List.mem_cons, List.not_mem_nil, or_false] at hentry
    rcases hentry with rfl | rfl | rfl <;> exact List.prefix_append _ _
  · rcases hagree with ⟨e, he, -⟩ | ⟨hok, -⟩ |
      ⟨failure, failures, _, _, _, he, -, -, -, -, hends, -⟩
    · rw [hlookup] at he
      cases he
    · rw [hok] at hfails
      cases hfails
    · exact ⟨failure, failures, he, congrArg Prod.fst hends⟩

end Registry

end Lifecycle
