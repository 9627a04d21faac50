import Lifecycle.Proofs.Dispatch.Accounts
import Mathlib.Data.List.DropRight
/-!
# The first writer

A context is handed from dispatch to dispatch and moved from phase to phase.  At every point its
outputs are those of the first acts that set them after the last move, whichever callbacks the acts
are of and whatever fails.
-/

namespace Lifecycle

variable {σ : Type}

/-! ## The data of a scope -/

/-- Two contexts have the same data of the scope: all but the phase and its outputs. -/
structure Context.SameData (c c' : Context) : Prop where
  scopeId : c'.scopeId = c.scopeId
  scopeName : c'.scopeName = c.scopeName
  displayName : c'.displayName = c.displayName
  tags : c'.tags = c.tags
  payload : c'.payload = c.payload
  metadata : c'.metadata = c.metadata

namespace Context

theorem SameData.refl (c : Context) : c.SameData c := ⟨rfl, rfl, rfl, rfl, rfl, rfl⟩

theorem SameData.trans {c c₁ c' : Context} (h : c.SameData c₁) (h' : c₁.SameData c') :
    c.SameData c' where
  scopeId := h'.scopeId.trans h.scopeId
  scopeName := h'.scopeName.trans h.scopeName
  displayName := h'.displayName.trans h.displayName
  tags := h'.tags.trans h.tags
  payload := h'.payload.trans h.payload
  metadata := h'.metadata.trans h.metadata

theorem sameData_forPhase (c : Context) (phase : Phase) : c.SameData (c.forPhase phase) :=
  ⟨rfl, rfl, rfl, rfl, rfl, rfl⟩

theorem sameData_disable (c : Context) (reason : String) : c.SameData (c.disable reason) := by
  unfold disable
  cases c.verdict <;> exact ⟨rfl, rfl, rfl, rfl, rfl, rfl⟩

theorem sameData_resolve (c : Context) (value : Value) : c.SameData (c.resolve value) := by
  unfold resolve
  cases c.resolved <;> exact ⟨rfl, rfl, rfl, rfl, rfl, rfl⟩

end Context

/-! ## What happens to a context -/

inductive Happening where
  | acted (act : Act)
  /-- The context is moved to another phase. -/
  | moved (phase : Phase)

namespace Happening

def on (c : Context) : Happening → Context
  | acted act => act.on c
  | moved phase => c.forPhase phase

theorem sameData_on {h : Happening} (hnoRewrite : ∀ change, h ≠ acted (.rewrite change))
    (c : Context) : c.SameData (h.on c) := by
  cases h with
  | moved phase => exact c.sameData_forPhase phase
  | acted act =>
      cases act with
      | disable reason => exact c.sameData_disable reason
      | resolve value => exact c.sameData_resolve value
      | rewrite change => exact absurd rfl (hnoRewrite change)

def act? : Happening → Option Act
  | acted act => some act
  | moved _ => none

def isAct (h : Happening) : Bool := h.act?.isSome

/-- What the first act since the last move picks, or what was there at the start if nothing moved
the context since. -/
def firstSince {α : Type} (pick : Act → Option α) (start : Option α) (past : List Happening) :
    Option α :=
  (if past.all isAct then start else none).or
    ((past.rtakeWhile isAct).findSome? fun h => h.act?.bind pick)

section FirstSince

variable {α : Type} {pick : Act → Option α} {start : Option α}

@[simp] theorem firstSince_nil : firstSince pick start [] = start := by
  rw [firstSince, List.rtakeWhile_nil]
  exact Option.or_none

theorem firstSince_acted (past : List Happening) (act : Act) :
    firstSince pick start (past ++ [acted act]) = (firstSince pick start past).or (pick act) := by
  have hact : isAct (acted act) = true := rfl
  rw [firstSince, firstSince, List.rtakeWhile_concat_pos _ _ _ hact, List.findSome?_append,
    List.all_append, Option.or_assoc]
  simp only [List.all_cons, hact, List.all_nil, Bool.and_true, List.findSome?_cons, act?,
    Option.bind_some, List.findSome?_nil]
  cases pick act <;> rfl

theorem firstSince_moved (past : List Happening) (phase : Phase) :
    firstSince pick start (past ++ [moved phase]) = none := by
  have hmove : ¬ isAct (moved phase) = true := Bool.false_ne_true
  rw [firstSince, List.rtakeWhile_concat_neg _ _ _ hmove, List.all_append]
  simp [isAct, act?]

theorem firstSince_append_acts (past : List Happening) (acts : List Act) :
    firstSince pick start (past ++ acts.map acted) =
      (firstSince pick start past).or (acts.findSome? pick) := by
  induction acts using List.reverseRecOn with
  | nil => rw [List.map_nil, List.append_nil, List.findSome?_nil, Option.or_none]
  | append_singleton acts act ih =>
      rw [List.map_append, ← List.append_assoc, List.map_singleton, firstSince_acted, ih,
        List.findSome?_append, Option.or_assoc]
      simp only [List.findSome?_cons, List.findSome?_nil]
      cases pick act <;> rfl

theorem firstSince_acts (acts : List Act) :
    firstSince pick start (acts.map acted) = start.or (acts.findSome? pick) := by
  rw [← List.nil_append (acts.map acted), firstSince_append_acts, firstSince_nil]

end FirstSince

end Happening

/-- What is made of a context by what happens to it, in order. -/
def Context.after (c : Context) (past : List Happening) : Context := past.foldl Happening.on c

namespace Context

theorem after_append (c : Context) (past later : List Happening) :
    c.after (past ++ later) = (c.after past).after later :=
  List.foldl_append

theorem after_acted (c : Context) (acts : List Act) : c.after (acts.map .acted) = c.acted acts := by
  rw [after, List.foldl_map]
  rfl

theorem sameData_after {past : List Happening}
    (hnoRewrite : ∀ h ∈ past, ∀ change, h ≠ .acted (.rewrite change)) (c : Context) :
    c.SameData (c.after past) := by
  induction past generalizing c with
  | nil => exact .refl c
  | cons h rest ih =>
      have hfirst : c.SameData (h.on c) := h.sameData_on (hnoRewrite h List.mem_cons_self) c
      exact hfirst.trans (ih (fun h hmem => hnoRewrite h (List.mem_cons_of_mem _ hmem)) (h.on c))

/-- The outputs of a context are those of the first acts since the last move. -/
theorem outputs_after (c : Context) (past : List Happening) :
    (c.after past).verdict.reason? =
        Happening.firstSince Act.reason? c.verdict.reason? past ∧
      (c.after past).resolved = Happening.firstSince Act.value? c.resolved past := by
  induction past using List.reverseRecOn with
  | nil => exact ⟨Happening.firstSince_nil.symm, Happening.firstSince_nil.symm⟩
  | append_singleton past last ih =>
      obtain ⟨hverdict, hresolved⟩ := ih
      rw [after_append]
      -- an act counts only where nothing was set before it, and a move takes back what was set
      cases last with
      | acted act =>
          rw [Happening.firstSince_acted, Happening.firstSince_acted, ← hverdict, ← hresolved]
          exact ⟨act.reason?_on _, act.resolved_on _⟩
      | moved phase =>
          rw [Happening.firstSince_moved, Happening.firstSince_moved]
          exact ⟨rfl, rfl⟩

theorem outputs_acted (c : Context) (acts : List Act) :
    (c.acted acts).verdict.reason? = c.verdict.reason?.or (acts.findSome? Act.reason?) ∧
      (c.acted acts).resolved = c.resolved.or (acts.findSome? Act.value?) := by
  rw [← after_acted, ← Happening.firstSince_acts, ← Happening.firstSince_acts]
  exact c.outputs_after _

end Context

/-! ## Runs -/

/-- One thing that a host does with a context. -/
inductive Usage (σ : Type) where
  | dispatch (r : Registry σ) (policies : Policies)
  /-- The context is moved to another phase. -/
  | forPhase (phase : Phase)
  /-- The context is left alone, and the world may change. -/
  | elsewhere (change : σ → σ)

namespace Call

def acts (account : Account σ) (k : Call σ) : List Act := account k.extension k.context k.world

/-- What the earliest of the calls that picks anything picks first. -/
def firstOf {α : Type} (account : Account σ) (pick : Act → Option α) (calls : List (Call σ)) :
    Option α :=
  calls.findSome? fun k => (k.acts account).findSome? pick

theorem findSome?_flatMap_acts {α : Type} (account : Account σ) (pick : Act → Option α)
    (calls : List (Call σ)) :
    (calls.flatMap (acts account)).findSome? pick = firstOf account pick calls := by
  induction calls with
  | nil => rfl
  | cons k rest ih =>
      rw [List.flatMap_cons, List.findSome?_append, ih, firstOf, firstOf, List.findSome?_cons]
      cases (k.acts account).findSome? pick <;> rfl

end Call

namespace Usage

def on (c : Context) (s : σ) : Usage σ → Context × σ
  | dispatch r policies => (r.dispatch policies c s).2
  | forPhase phase => (c.forPhase phase, s)
  | elsewhere change => (c, change s)

def happenings (account : Account σ) (c : Context) (s : σ) : Usage σ → List Happening
  | dispatch r policies => ((r.callsMade policies c s).flatMap (Call.acts account)).map .acted
  | forPhase phase => [.moved phase]
  | elsewhere _ => []

/-- The account is one of all the callbacks that the usage may call. -/
def Accounted (account : Account σ) : Usage σ → Prop
  | dispatch r _ => ∀ entry ∈ r.entries, entry.extension.Accounted (account entry.extension)
  | forPhase _ | elsewhere _ => True

end Usage

def runUsages (c : Context) (s : σ) (usages : List (Usage σ)) : Context × σ :=
  usages.foldl (fun p usage => usage.on p.1 p.2) (c, s)

def allHappenings (account : Account σ) : Context → σ → List (Usage σ) → List Happening
  | _, _, [] => []
  | c, s, usage :: rest =>
    usage.happenings account c s ++ allHappenings account (usage.on c s).1 (usage.on c s).2 rest

/-- The points of a run: the context that the run has come to, and what has happened to it by then.
A run comes to a point before each usage, inside each call after some of its acts, and at the
end. -/
inductive ComesTo (account : Account σ) :
    Context → σ → List (Usage σ) → List Happening → Context → Prop where
  | start {c : Context} {s : σ} {usages : List (Usage σ)} : ComesTo account c s usages [] c
  | inside {c : Context} {s : σ} {r : Registry σ} {policies : Policies} {usages : List (Usage σ)}
      {before after : List (Call σ)} {k : Call σ} {done rest : List Act} :
      r.callsMade policies c s = before ++ k :: after → k.acts account = done ++ rest →
      ComesTo account c s (.dispatch r policies :: usages)
        ((before.flatMap (Call.acts account) ++ done).map .acted) (k.context.acted done)
  | later {c c' : Context} {s : σ} {usage : Usage σ} {usages : List (Usage σ)}
      {past : List Happening} :
      ComesTo account (usage.on c s).1 (usage.on c s).2 usages past c' →
      ComesTo account c s (usage :: usages) (usage.happenings account c s ++ past) c'

section Accounted

variable {account : Account σ} {c c' : Context} {s s' : σ}

theorem Threaded.acted_eq {calls : List (Call σ)} (h : Threaded c s calls c' s')
    (hcalls : ∀ k ∈ calls, k.extension.Accounted (account k.extension)) :
    c.acted (calls.flatMap (Call.acts account)) = c' := by
  induction h with
  | nil => rfl
  | @cons e c c₁ _ s _ _ _ calls hhandle _ ih =>
      have hfirst : c.acted (Call.acts account ⟨e, c, s⟩) = c₁ := by
        have haccounted := hcalls _ List.mem_cons_self c s
        rwa [hhandle] at haccounted
      rw [List.flatMap_cons, Context.acted_append, hfirst]
      exact ih fun k hk => hcalls k (List.mem_cons_of_mem _ hk)

namespace Registry

theorem mem_entries_of_mem_callsMade {r : Registry σ} {policies : Policies} {k : Call σ}
    (hk : k ∈ r.callsMade policies c s) : ∃ entry ∈ r.entries, entry.extension = k.extension := by
  cases hlookup : r.lookup c.phase with
  | error e =>
      rw [callsMade_of_lookup_error policies s hlookup] at hk
      cases hk
  | ok extensions =>
      rw [callsMade_of_lookup_ok policies s hlookup] at hk
      exact mem_entries_of_mem_callsOf hlookup (Policy.mem_of_mem_calls hk)

end Registry

namespace Usage

variable {r : Registry σ} {policies : Policies}

theorem Accounted.of_mem_callsMade (h : (dispatch r policies).Accounted account) {k : Call σ}
    (hk : k ∈ r.callsMade policies c s) : k.extension.Accounted (account k.extension) := by
  obtain ⟨entry, hentry, hextension⟩ := Registry.mem_entries_of_mem_callsMade hk
  rw [← hextension]
  exact h entry hentry

theorem Accounted.acted_dispatch (h : (dispatch r policies).Accounted account) (c : Context)
    (s : σ) :
    c.acted ((r.callsMade policies c s).flatMap (Call.acts account)) =
      (r.dispatch policies c s).2.1 :=
  (r.threaded_callsMade policies c s).acted_eq fun _ => h.of_mem_callsMade

theorem Accounted.after_happenings {usage : Usage σ} (h : usage.Accounted account) (c : Context)
    (s : σ) : c.after (usage.happenings account c s) = (usage.on c s).1 := by
  cases usage with
  | dispatch r policies => exact (c.after_acted _).trans (h.acted_dispatch c s)
  | forPhase phase => rfl
  | elsewhere change => rfl

end Usage

theorem ComesTo.eq_after {usages : List (Usage σ)} {past : List Happening}
    (h : ComesTo account c s usages past c')
    (husages : ∀ usage ∈ usages, usage.Accounted account) : c' = c.after past := by
  induction h with
  | start => rfl
  | @inside c s r policies usages before after k done rest hcalls hacts =>
      -- the calls before it lead to what the call is handed, and its own acts go on from there
      have hthreaded := r.threaded_callsMade policies c s
      rw [hcalls] at hthreaded
      have hbefore : c.acted (before.flatMap (Call.acts account)) = k.context := by
        refine hthreaded.before.acted_eq fun j hj => ?_
        have hmade : j ∈ r.callsMade policies c s := hcalls ▸ List.mem_append_left _ hj
        exact (husages _ List.mem_cons_self).of_mem_callsMade hmade
      rw [Context.after_acted, Context.acted_append, hbefore]
  | @later c c' s usage usages past _ ih =>
      have hrest := ih fun usage husage => husages usage (List.mem_cons_of_mem _ husage)
      rw [Context.after_append, (husages usage List.mem_cons_self).after_happenings]
      exact hrest

theorem ComesTo.prefix_allHappenings {usages : List (Usage σ)} {past : List Happening}
    (h : ComesTo account c s usages past c') : past <+: allHappenings account c s usages := by
  induction h with
  | start => exact List.nil_prefix
  | @inside c s r policies usages before after k done rest hcalls hacts =>
      refine List.prefix_append_of_prefix (List.IsPrefix.map _ ?_)
      rw [hcalls, List.flatMap_append, List.flatMap_cons, hacts, List.append_assoc,
        List.prefix_append_right_inj]
      exact List.prefix_append done _
  | later _ ih => exact (List.prefix_append_right_inj _).mpr ih

theorem comesTo_end (account : Account σ) (c : Context) (s : σ) (usages : List (Usage σ)) :
    ComesTo account c s usages (allHappenings account c s usages) (runUsages c s usages).1 := by
  induction usages generalizing c s with
  | nil => exact .start
  | cons usage rest ih => exact .later (ih (usage.on c s).1 (usage.on c s).2)

/-! ## Outputs -/

theorem Registry.settles_dispatch {r : Registry σ} {extensions : List (Extension σ)}
    (hlookup : r.lookup c.phase = .ok extensions) (policies : Policies) (s : σ) :
    (policies.policyFor (r.rules.direction c.phase)).Settles c.phase extensions
      (r.callsMade policies c s) (r.dispatch policies c s).1 := by
  rw [callsMade_of_lookup_ok policies s hlookup, dispatch_of_lookup_ok policies s hlookup,
    Policy.run_report]
  have hsettles := (policies.policyFor (r.rules.direction c.phase)).settles c.phase
    (callsOf extensions c s)
  rwa [map_callsOf] at hsettles

theorem Verdict.eq_ofReason? {v : Verdict} {reason? : Option String} (h : v.reason? = reason?) :
    v = .ofReason? reason? := by
  rw [← h, ofReason?_reason?]

/-- **The first writer wins.**  A context is dispatched and moved, on any registries and under any
policies, and the callbacks write its outputs only by disabling and resolving.  Then at every point
of the run the outputs are those of the first acts since the last move, or those of the start if
they were set and nothing moved the context.  In a dispatch the first act is that of the earliest
call that has one; the calls are those of the extensions in application order, up to where a failure
ends the dispatch, and the calls that fail count like the others.  A move keeps the data of the
scope, and from point to point it is the same until a callback rewrites it. -/
theorem first_writer_wins {usages : List (Usage σ)}
    (husages : ∀ usage ∈ usages, usage.Accounted account) (start : Context) (s : σ) :
    ComesTo account start s usages (allHappenings account start s usages)
      (runUsages start s usages).1 ∧
    (∀ past c, ComesTo account start s usages past c →
      past <+: allHappenings account start s usages ∧
      c.verdict =
        .ofReason? (Happening.firstSince Act.reason? start.verdict.reason? past) ∧
      c.resolved = Happening.firstSince Act.value? start.resolved past) ∧
    (∀ r policies, .dispatch r policies ∈ usages → ∀ (c : Context) (s : σ),
      (r.dispatch policies c s).2.1.verdict = .ofReason? (c.verdict.reason?.or
        (Call.firstOf account Act.reason? (r.callsMade policies c s))) ∧
      (r.dispatch policies c s).2.1.resolved = c.resolved.or
        (Call.firstOf account Act.value? (r.callsMade policies c s)) ∧
      match r.lookup c.phase with
      | .error _ => r.callsMade policies c s = []
      | .ok extensions => (policies.policyFor (r.rules.direction c.phase)).Settles c.phase
          extensions (r.callsMade policies c s) (r.dispatch policies c s).1) ∧
    (∀ (c : Context) (phase : Phase), c.SameData (c.forPhase phase)) ∧
    ∀ past later c c', ComesTo account start s usages past c →
      ComesTo account start s usages (past ++ later) c' →
      (∀ h ∈ later, ∀ change, h ≠ .acted (.rewrite change)) → c.SameData c' := by
  refine ⟨comesTo_end account start s usages, ?_, ?_, Context.sameData_forPhase, ?_⟩
  · intro past c hpoint
    obtain ⟨hverdict, hresolved⟩ := start.outputs_after past
    rw [← hpoint.eq_after husages] at hverdict hresolved
    exact ⟨hpoint.prefix_allHappenings, Verdict.eq_ofReason? hverdict, hresolved⟩
  · intro r policies husage c s
    obtain ⟨hverdict, hresolved⟩ :=
      c.outputs_acted ((r.callsMade policies c s).flatMap (Call.acts account))
    rw [(husages _ husage).acted_dispatch, Call.findSome?_flatMap_acts] at hverdict hresolved
    refine ⟨Verdict.eq_ofReason? hverdict, hresolved, ?_⟩
    cases hlookup : r.lookup c.phase with
    | error e => exact Registry.callsMade_of_lookup_error policies s hlookup
    | ok extensions => exact Registry.settles_dispatch hlookup policies s
  · intro past later c c' hpoint hpoint' hnoRewrite
    rw [hpoint'.eq_after husages, Context.after_append, ← hpoint.eq_after husages]
    exact Context.sameData_after hnoRewrite c

end Accounted

/-- An extension for the start of a test that disables, resolves to nothing and then fails. -/
def breaker : Rehearsal.Blueprint :=
  .scripted "breaker" Phase.beforeEach.toSet [.disable "flaky", .resolve .null, .fail "broken"]

def follower : Rehearsal.Blueprint :=
  .scripted "follower" Phase.beforeEach.toSet [.disable "slow", .resolve (.bool true)]

/-- A registry in which the one that fails is called first. -/
def breakingSetups : Registry Rehearsal.Recorder :=
  let setup (b : Rehearsal.Blueprint) : Registration Rehearsal.Recorder :=
    ⟨(b.build {}).1.toExtension, .programmatic "host", .default⟩
  let empty := Registry.bare (ScopeId.numbered 0) PhaseRules.builtin Constructors.empty.toFactory
  (empty.append (setup breaker)).append (setup follower)

private def breakingAccount : Account Rehearsal.Recorder := fun e =>
  if e.name = "breaker" then breaker.acts else follower.acts

private theorem accounted_breakingSetups (policies : Policies) :
    (Usage.dispatch breakingSetups policies).Accounted breakingAccount := by
  intro entry hentry
  rcases List.mem_cons.mp hentry with rfl | hentry
  · exact breaker.accounted_build {}
  · rw [List.mem_singleton.mp hentry]
    exact follower.accounted_build {}

private theorem firstOf_breakingSetups (policies : Policies) {c : Context}
    (hphase : c.phase = .beforeEach) (s : Rehearsal.Recorder) :
    let calls := breakingSetups.callsMade policies c s
    Call.firstOf breakingAccount Act.reason? calls = some "flaky" ∧
      Call.firstOf breakingAccount Act.value? calls = some .null := by
  have hlookup : breakingSetups.lookup c.phase =
      .ok [(breaker.build {}).1.toExtension, (follower.build {}).1.toExtension] := by
    rw [hphase]
    exact Registry.lookup_of_lookupEntries_ok
      (Registry.lookupEntries_eq_ok_iff.mpr ⟨by unfold Contested; decide, rfl⟩)
  have hcalls : ∃ later, breakingSetups.callsMade policies c s =
      ⟨(breaker.build {}).1.toExtension, c, s⟩ :: later := by
    rw [Registry.callsMade_of_lookup_ok policies s hlookup]
    cases policies.policyFor (breakingSetups.rules.direction c.phase) <;> exact ⟨_, rfl⟩
  obtain ⟨later, hcalls⟩ := hcalls
  rw [hcalls]
  exact ⟨rfl, rfl⟩

/-- The two are run to the end on a context that is disabled from the outset, and once more, up to
the failure, after it was moved. -/
theorem breaker_writes_first :
    let start := (Context.forScope .beforeEach (ScopeId.numbered 0) "case" .null).disable "skipped"
    let recorder : Rehearsal.Recorder := {}
    let once := [.dispatch breakingSetups ⟨.aggregate, .aggregate⟩]
    let twice := once ++ [.forPhase .beforeEach, .dispatch breakingSetups .standard]
    let c := (runUsages start recorder once).1
    let c' := (runUsages start recorder twice).1
    (c.verdict = .disabled "skipped" ∧ c.resolved = some .null) ∧
      c'.verdict = .disabled "flaky" ∧ c'.resolved = some .null := by
  intro start recorder once twice c c'
  have husages : ∀ usage ∈ twice, usage.Accounted breakingAccount := by
    intro usage husage
    simp only [twice, once, List.cons_append, List.nil_append, List.mem_cons, List.not_mem_nil,
      or_false] at husage
    rcases husage with rfl | rfl | rfl
    · exact accounted_breakingSetups _
    · trivial
    · exact accounted_breakingSetups _
  obtain ⟨-, -, hdispatch, -⟩ := first_writer_wins husages start recorder
  have hphase : start.phase = .beforeEach := rfl
  obtain ⟨hverdict, hresolved, -⟩ :=
    hdispatch breakingSetups ⟨.aggregate, .aggregate⟩ (by simp [twice, once]) start recorder
  obtain ⟨-, hvalue⟩ := firstOf_breakingSetups ⟨.aggregate, .aggregate⟩ hphase recorder
  rw [hvalue] at hresolved
  let moved := c.forPhase .beforeEach
  let world := (runUsages start recorder once).2
  obtain ⟨hverdict', hresolved', -⟩ :=
    hdispatch breakingSetups .standard (by simp [twice, once]) moved world
  obtain ⟨hreason', hvalue'⟩ := firstOf_breakingSetups .standard (c := moved) rfl world
  rw [hreason'] at hverdict'
  rw [hvalue'] at hresolved'
  exact ⟨⟨hverdict, hresolved⟩, hverdict', hresolved'⟩

end Lifecycle
