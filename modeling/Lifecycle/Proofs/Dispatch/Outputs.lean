import Lifecycle.Proofs.Dispatch.Agreement
import Lifecycle.Proofs.Registry.Seeded
/-!
# The outputs of a dispatch

Where callbacks write the verdict and the resolved value only by disabling and resolving, an output
that is set stands to the end of the dispatch.  Below a seeded root the built-in extensions are
called before all others, so that what they set is what the dispatch leaves.
-/

namespace Lifecycle

variable {σ : Type}

/-! ## Amended contexts -/

namespace Context

/-- A context and what is made of it where the outputs are written only by disabling and resolving,
and all else is written freely. -/
inductive Amends (c : Context) : Context → Prop where
  | self : Amends c c
  | rewrite {c₁ c₂ : Context} : Amends c c₁ → c₂.verdict = c₁.verdict →
      c₂.resolved = c₁.resolved → Amends c c₂
  | disable {c₁ : Context} (reason : String) : Amends c c₁ → Amends c (c₁.disable reason)
  | resolve {c₁ : Context} (value : Value) : Amends c c₁ → Amends c (c₁.resolve value)

theorem Amends.trans {c c₁ c₂ : Context} (h : c.Amends c₁) (h' : c₁.Amends c₂) : c.Amends c₂ := by
  induction h' with
  | self => exact h
  | rewrite _ hverdict hresolved ih => exact .rewrite ih hverdict hresolved
  | disable reason _ ih => exact .disable reason ih
  | resolve value _ ih => exact .resolve value ih

theorem disable_of_enabled {c : Context} (h : c.verdict = .enabled) (reason : String) :
    c.disable reason = { c with verdict := .disabled reason } := by
  simp only [disable, h]

theorem disable_of_disabled {c : Context} {first : String} (h : c.verdict = .disabled first)
    (reason : String) : c.disable reason = c := by
  simp only [disable, h]

theorem resolve_of_none {c : Context} (h : c.resolved = none) (value : Value) :
    c.resolve value = { c with resolved := some value } := by
  simp only [resolve, h]

theorem resolve_of_some {c : Context} {first : Value} (h : c.resolved = some first)
    (value : Value) : c.resolve value = c := by
  simp only [resolve, h]

@[simp] theorem resolved_disable (c : Context) (reason : String) :
    (c.disable reason).resolved = c.resolved := by
  unfold disable
  cases c.verdict <;> rfl

@[simp] theorem verdict_resolve (c : Context) (value : Value) :
    (c.resolve value).verdict = c.verdict := by
  unfold resolve
  cases c.resolved <;> rfl

theorem Amends.verdict_eq {c c' : Context} (h : c.Amends c') {reason : String}
    (hdisabled : c.verdict = .disabled reason) : c'.verdict = .disabled reason := by
  induction h with
  | self => exact hdisabled
  | rewrite _ hverdict _ ih => rw [hverdict, ih]
  | disable _ _ ih => rw [disable_of_disabled ih, ih]
  | resolve value _ ih => rw [verdict_resolve, ih]

theorem Amends.resolved_eq {c c' : Context} (h : c.Amends c') {value : Value}
    (hresolved : c.resolved = some value) : c'.resolved = some value := by
  induction h with
  | self => exact hresolved
  | rewrite _ _ hresolved ih => rw [hresolved, ih]
  | disable reason _ ih => rw [resolved_disable, ih]
  | resolve _ _ ih => rw [resolve_of_some ih, ih]

end Context

/-! ## Amending callbacks -/

/-- The callback writes the outputs of a context only by disabling and resolving. -/
def Extension.Amending (e : Extension σ) : Prop :=
  ∀ (c : Context) (s : σ), c.Amends (e.handle c s).2.1

namespace Builtin

theorem amends_apply (b : Builtin) (c : Context) : c.Amends (b.apply c) := by
  cases b with
  | disabledCondition =>
      rw [apply]
      cases disabledReason? c with
      | none => exact .self
      | some reason => exact .disable reason .self
  | testInfoResolver =>
      rw [apply]
      split
      · exact .resolve _ .self
      · exact .self
  | testReporterResolver =>
      rw [apply]
      split
      · exact .resolve _ .self
      · exact .self

/-- Of the resolvers, the one for the description of a test answers first if it is asked for. -/
theorem resolved_testInfo {c c' : Context} (hparameter : c.parameter? = some testInfoParameter)
    (hunresolved : c.resolved = none)
    (hafter : (testReporterResolver.apply (testInfoResolver.apply c)).Amends c') :
    c'.resolved = some (testInfo c) := by
  have hfirst : (testInfoResolver.apply c).resolved = some (testInfo c) := by
    rw [apply, if_pos hparameter, Context.resolve_of_none hunresolved]
  exact ((testReporterResolver.amends_apply _).trans hafter).resolved_eq hfirst

theorem resolved_testReporter {c c' : Context}
    (hparameter : c.parameter? = some testReporterParameter) (hunresolved : c.resolved = none)
    (hafter : (testReporterResolver.apply (testInfoResolver.apply c)).Amends c') :
    c'.resolved = some (testReporter c) := by
  have hpassed : testInfoResolver.apply c = c := by
    rw [apply, hparameter, if_neg (by decide)]
  rw [hpassed] at hafter
  have hfirst : (testReporterResolver.apply c).resolved = some (testReporter c) := by
    rw [apply, if_pos hparameter, Context.resolve_of_none hunresolved]
  exact hafter.resolved_eq hfirst

theorem verdict_disabled {c c' : Context} {reason : String}
    (hreason : disabledReason? c = some reason) (henabled : c.verdict = .enabled)
    (hafter : (disabledCondition.apply c).Amends c') : c'.verdict = .disabled reason := by
  refine hafter.verdict_eq ?_
  simp only [apply, hreason, Context.disable_of_enabled henabled]

theorem amending (b : Builtin) : (b.extension : Extension σ).Amending :=
  fun c _ => b.amends_apply c

end Builtin

theorem Threaded.amends {c c' : Context} {s s' : σ} {calls : List (Call σ)}
    (h : Threaded c s calls c' s') (hcalls : ∀ k ∈ calls, k.extension.Amending) :
    c.Amends c' := by
  induction h with
  | nil => exact .self
  | @cons e c c₁ _ s _ _ _ _ hhandle _ ih =>
      have hfirst := hcalls _ List.mem_cons_self c s
      simp only [hhandle] at hfirst
      exact hfirst.trans (ih fun k hk => hcalls k (List.mem_cons_of_mem _ hk))

/-! ## Running under a policy -/

namespace Policy

theorem amends_run (policy : Policy) (phase : Phase) {extensions : List (Extension σ)}
    (hamending : ∀ e ∈ extensions, e.Amending) (c : Context) (s : σ) :
    c.Amends (policy.run phase extensions c s).2.1 := by
  refine (policy.threaded_run phase extensions c s).amends ?_
  intro k hk
  refine hamending k.extension ?_
  rw [← map_callsOf extensions c s]
  exact List.mem_map_of_mem (mem_of_mem_calls hk)

/-- Built-in extensions never fail, so that under either policy what comes after them is run. -/
theorem run_builtins (policy : Policy) (phase : Phase) (bs : List Builtin)
    (rest : List (Extension σ)) (c : Context) (s : σ) :
    policy.run phase (bs.map Builtin.extension ++ rest) c s =
      policy.run phase rest (bs.foldl (fun c b => b.apply c) c) s := by
  induction bs generalizing c with
  | nil => rfl
  | cons b bs ih =>
      have hfirst : policy.run phase (b.extension :: (bs.map Builtin.extension ++ rest)) c s =
          policy.run phase (bs.map Builtin.extension ++ rest) (b.apply c) s := by
        cases policy <;> rfl
      exact hfirst.trans (ih (b.apply c))

theorem run_ne_positionConflict (policy : Policy) (phase : Phase) (extensions : List (Extension σ))
    (c : Context) (s : σ) (position : Position) (of : Phase) (origins : List String) :
    (policy.run phase extensions c s).1 ≠ .error (.positionConflict position of origins) := by
  rw [run_report]
  cases hfailures : (callsOf extensions c s).filterMap fun k => k.failure? phase with
  | nil => simp [report]
  | cons failure rest =>
      have hmem : failure ∈ (callsOf extensions c s).filterMap fun k => k.failure? phase := by
        rw [hfailures]
        exact List.mem_cons_self
      obtain ⟨k, -, hk⟩ := List.mem_filterMap.mp hmem
      obtain ⟨message, -, rfl⟩ := Call.failure?_eq_some_iff.mp hk
      cases policy <;> simp [report]

end Policy

/-! ## Below a seeded root -/

namespace Registry

/-- In a phase that allows the default position alone, a dispatch below a seeded root is a run of
later registrations on what the built-in extensions made of the context. -/
theorem Descends.dispatch_seeded {root r : Registry σ} (h : root.Descends r) (hroot : root.Seeded)
    (policies : Policies) {c : Context} (hrule : PhaseRules.builtinRule c.phase = .standard)
    (s : σ) :
    ∃ later : List (Registration σ), (∀ entry ∈ later, entry ∈ r.entries) ∧
      r.dispatch policies c s =
        (policies.policyFor (r.rules.direction c.phase)).run c.phase (later.map (·.extension))
          ((Builtin.all.filter fun b => b.capabilities.includes c.phase).foldl
            (fun c b => b.apply c) c) s := by
  obtain ⟨later, hlookup, hlater⟩ := h.lookup_seeded hroot hrule
  refine ⟨later, hlater, ?_⟩
  rw [dispatch_of_lookup_ok policies s hlookup, Policy.run_builtins]

theorem Descends.amends_dispatch {root r : Registry σ} (h : root.Descends r) (hroot : root.Seeded)
    (hamending : ∀ entry ∈ r.entries, entry.extension.Amending) (policies : Policies)
    {c : Context} (hrule : PhaseRules.builtinRule c.phase = .standard) (s : σ) (bs : List Builtin)
    (hbs : (Builtin.all.filter fun b => b.capabilities.includes c.phase) = bs) :
    (bs.foldl (fun c b => b.apply c) c).Amends (r.dispatch policies c s).2.1 := by
  obtain ⟨later, hlater, heq⟩ := h.dispatch_seeded hroot policies hrule s
  rw [heq, hbs]
  refine Policy.amends_run _ _ ?_ _ _
  intro e he
  obtain ⟨entry, hentry, rfl⟩ := List.mem_map.mp he
  exact hamending entry (hlater entry hentry)

/-- **Built-in extensions are not pre-empted.**  Below a root that is seeded with the built-in types
by a factory that may make others as well, whatever is registered later, dispatching a condition or
a parameter never meets a conflict of positions.  If the other callbacks write outputs only by
disabling and resolving, what the built-in extensions say at the start is what the dispatch leaves,
whether it succeeds or fails. -/
theorem builtins_not_preempted {id : ScopeId} {more : List (TypeId × Constructor σ)}
    (hmore : ∀ entry ∈ more, entry.1 ∉ Builtin.defaultTypes) {s₀ : σ} {root r : Registry σ}
    (hroot : (Registry.root id PhaseRules.builtin (Builtin.constructors.insertAll more).toFactory
      Builtin.defaultTypes s₀).1 = .ok root)
    (hr : root.Descends r) (policies : Policies) (c : Context) (s : σ) :
    (c.phase ∈ [Phase.parameterResolver, .containerCondition, .testCondition] →
      ∀ position phase origins,
        (r.dispatch policies c s).1 ≠ .error (.positionConflict position phase origins)) ∧
    ((∀ entry ∈ r.entries, (∃ b : Builtin, entry.extension = b.extension) ∨
        entry.extension.Amending) →
      (c.phase = .parameterResolver → c.resolved = none →
        (c.payload.get? "parameter" = some (.text "TestInfo") →
          (r.dispatch policies c s).2.1.resolved =
            some (.record [("display_name", .text c.displayName), ("name", .text c.scopeName),
              ("tags", .list (c.tags.map .text))])) ∧
        (c.payload.get? "parameter" = some (.text "TestReporter") →
          (r.dispatch policies c s).2.1.resolved =
            some (.record [("scope", .text c.scopeId.display),
              ("scope_name", .text c.scopeName)]))) ∧
      (c.phase ∈ [Phase.containerCondition, .testCondition] → c.verdict = .enabled →
        (c.payload.get? "disabled" = some (.bool true) →
          (r.dispatch policies c s).2.1.verdict = .disabled (c.displayName ++ " is disabled")) ∧
        ∀ reason, c.payload.get? "disabled" = some (.text reason) →
          (r.dispatch policies c s).2.1.verdict = .disabled reason)) := by
  have hseeded := seeded_of_root hmore hroot
  refine ⟨?_, ?_⟩
  · intro hphase position phase origins
    have hrule : PhaseRules.builtinRule c.phase = .standard := by
      simp only [List.mem_cons, List.not_mem_nil, or_false] at hphase
      rcases hphase with hphase | hphase | hphase <;> rw [hphase] <;> rfl
    obtain ⟨later, -, heq⟩ := hr.dispatch_seeded hseeded policies hrule s
    rw [heq]
    exact Policy.run_ne_positionConflict _ _ _ _ _ _ _ _
  intro hothers
  have hamending : ∀ entry ∈ r.entries, entry.extension.Amending := by
    intro entry hentry
    rcases hothers entry hentry with ⟨b, hb⟩ | hamending
    · rw [hb]
      exact b.amending
    · exact hamending
  refine ⟨?_, ?_⟩
  · intro hphase hunresolved
    have hafter : (Builtin.testReporterResolver.apply (Builtin.testInfoResolver.apply c)).Amends
        (r.dispatch policies c s).2.1 :=
      hr.amends_dispatch hseeded hamending policies (by rw [hphase]; rfl) s
        [.testInfoResolver, .testReporterResolver] (by rw [hphase]; decide)
    refine ⟨?_, ?_⟩
    · intro hparameter
      refine Builtin.resolved_testInfo ?_ hunresolved hafter
      rw [Context.parameter?, Context.parameterKey, hparameter]
      rfl
    · intro hparameter
      refine Builtin.resolved_testReporter ?_ hunresolved hafter
      rw [Context.parameter?, Context.parameterKey, hparameter]
      rfl
  · intro hphase henabled
    have hafter : (Builtin.disabledCondition.apply c).Amends (r.dispatch policies c s).2.1 := by
      simp only [List.mem_cons, List.not_mem_nil, or_false] at hphase
      refine hr.amends_dispatch hseeded hamending policies ?_ s [.disabledCondition] ?_
      · rcases hphase with hphase | hphase <;> rw [hphase] <;> rfl
      · rcases hphase with hphase | hphase <;> rw [hphase] <;> decide
    refine ⟨?_, ?_⟩
    · intro hdisabled
      refine Builtin.verdict_disabled ?_ henabled hafter
      rw [Builtin.disabledReason?, Builtin.disabledKey, hdisabled]
      rfl
    · intro reason hdisabled
      refine Builtin.verdict_disabled ?_ henabled hafter
      rw [Builtin.disabledReason?, Builtin.disabledKey, hdisabled]

/-- In a child, a type of the host's disables and resolves, and then fails.  The test is disabled
and its parameter resolved as without it. -/
theorem shadowed_builtins_stand :
    let shadow : TypeId := ⟨"acme", "shadow"⟩
    let provider : Provider Unit :=
      { name := "shadow"
        capabilities := PhaseSet.ofPhases [.testCondition, .parameterResolver]
        handle := fun c s => (.error "taken", (c.disable "shadowed").resolve .null, s) }
    let more := [(shadow, Constructor.always provider)]
    let rootId := ScopeId.numbered 0
    let leafId := ScopeId.numbered 1
    let leaf (phase : Phase) (payload : Fields) : Context :=
      { Context.forScope phase leafId "leaf" (.record payload) with displayName := "Leaf" }
    let condition := leaf .testCondition [("disabled", .bool true)]
    let parameter := leaf .parameterResolver [("parameter", .text "TestInfo")]
    (∀ entry ∈ more, entry.1 ∉ Builtin.defaultTypes) ∧
      ∃ root r, (Registry.root rootId PhaseRules.builtin
          (Builtin.constructors.insertAll more).toFactory Builtin.defaultTypes ()).1 = .ok root ∧
        (root.child leafId [shadow] ()).1 = .ok r ∧ r.size = 4 ∧
        (∀ entry ∈ r.entries, (∃ b : Builtin, entry.extension = b.extension) ∨
          entry.extension.Amending) ∧
        (r.dispatch .standard condition ()).2.1.verdict = .disabled "Leaf is disabled" ∧
        (r.dispatch .standard parameter ()).2.1.resolved =
          some (.record [("display_name", .text "Leaf"), ("name", .text "leaf"),
            ("tags", .list [])]) := by
  intro shadow provider more rootId leafId leaf condition parameter
  have hmore : ∀ entry ∈ more, entry.1 ∉ Builtin.defaultTypes := by
    intro entry hentry
    rw [List.mem_singleton.mp hentry]
    decide
  let root : Registry Unit :=
    { rules := PhaseRules.builtin
      factory := (Builtin.constructors.insertAll more).toFactory
      scope := ⟨rootId, Builtin.defaultTypes, Builtin.all.map Builtin.seed⟩
      ancestors := [] }
  let r : Registry Unit :=
    { root with
      scope := ⟨leafId, [shadow], [⟨provider.toExtension, .extension "shadow", .default⟩]⟩
      ancestors := [root.scope] }
  have hroot : (Registry.root rootId PhaseRules.builtin
      (Builtin.constructors.insertAll more).toFactory Builtin.defaultTypes ()).1 = .ok root := rfl
  have hregister : (root.nested leafId).registerType shadow () = (.ok true, r, ()) :=
    registerType_plain (by decide) (p := provider) rfl rfl (by decide) (by decide)
  have hchild : (root.child leafId [shadow] ()).1 = .ok r := by
    have hregisters : (root.nested leafId).registerTypes [shadow] () = (.ok (), r, ()) := by
      simp only [registerTypes, hregister]
    exact congrArg (fun outcome => (built outcome).1) hregisters
  have hentries : r.entries =
      Builtin.all.map Builtin.seed ++ [⟨provider.toExtension, .extension "shadow", .default⟩] := rfl
  have hothers : ∀ entry ∈ r.entries, (∃ b : Builtin, entry.extension = b.extension) ∨
      entry.extension.Amending := by
    intro entry hentry
    rw [hentries, List.mem_append, List.mem_map, List.mem_singleton] at hentry
    rcases hentry with ⟨b, -, rfl⟩ | rfl
    · exact .inl ⟨b, rfl⟩
    · exact .inr fun c _ => .resolve .null (.disable "shadowed" .self)
  have hbelow : root.Descends r := .child .self hchild
  obtain ⟨-, hcondition⟩ := builtins_not_preempted hmore hroot hbelow .standard condition ()
  obtain ⟨-, hparameter⟩ := builtins_not_preempted hmore hroot hbelow .standard parameter ()
  refine ⟨hmore, root, r, hroot, hchild, rfl, hothers, ?_, ?_⟩
  · exact ((hcondition hothers).2 (by decide) rfl).1 rfl
  · exact ((hparameter hothers).1 rfl rfl).1 rfl

end Registry

end Lifecycle
