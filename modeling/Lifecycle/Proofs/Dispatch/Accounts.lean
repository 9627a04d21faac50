import Lifecycle.Proofs.Dispatch.Outputs
import Lifecycle.Rehearsal.Blueprint
/-!
# Accounts of callbacks

What a callback makes of a context, told as the acts that it consists of: it disables, it resolves,
and it rewrites everything but the outputs.  The callbacks of which there is such an account are
those that write the outputs only by disabling and resolving.
-/

namespace Lifecycle

variable {σ : Type}

namespace Verdict

def reason? : Verdict → Option String
  | enabled => none
  | disabled reason => some reason

/-- The verdict for a reason to disable a scope, if there is one. -/
def ofReason? : Option String → Verdict
  | none => enabled
  | some reason => disabled reason

@[simp] theorem ofReason?_reason? (v : Verdict) : ofReason? v.reason? = v := by
  cases v <;> rfl

end Verdict

/-- One thing that a callback does to a context. -/
inductive Act where
  | disable (reason : String)
  | resolve (value : Value)
  /-- Changes the context, except for its outputs. -/
  | rewrite (change : Context → Context)

namespace Act

def on (c : Context) : Act → Context
  | disable reason => c.disable reason
  | resolve value => c.resolve value
  | rewrite change => { change c with verdict := c.verdict, resolved := c.resolved }

def reason? : Act → Option String
  | disable reason => some reason
  | resolve _ | rewrite _ => none

def value? : Act → Option Value
  | resolve value => some value
  | disable _ | rewrite _ => none

theorem reason?_on (c : Context) (act : Act) :
    (act.on c).verdict.reason? = c.verdict.reason?.or act.reason? := by
  cases act with
  | disable reason =>
      cases hverdict : c.verdict with
      | enabled => rw [on, Context.disable_of_enabled hverdict]; rfl
      | disabled first => rw [on, Context.disable_of_disabled hverdict, hverdict]; rfl
  | resolve value => rw [on, Context.verdict_resolve, reason?, Option.or_none]
  | rewrite change => rw [on, reason?, Option.or_none]

theorem resolved_on (c : Context) (act : Act) :
    (act.on c).resolved = c.resolved.or act.value? := by
  cases act with
  | disable reason => rw [on, Context.resolved_disable, value?, Option.or_none]
  | resolve value =>
      cases hresolved : c.resolved with
      | none => rw [on, Context.resolve_of_none hresolved]; rfl
      | some first => rw [on, Context.resolve_of_some hresolved, hresolved]; rfl
  | rewrite change => rw [on, value?, Option.or_none]

theorem amends_on (c : Context) (act : Act) : c.Amends (act.on c) := by
  cases act with
  | disable reason => exact .disable reason .self
  | resolve value => exact .resolve value .self
  | rewrite change => exact .rewrite .self rfl rfl

end Act

namespace Context

def acted (c : Context) (acts : List Act) : Context := acts.foldl Act.on c

@[simp] theorem acted_nil (c : Context) : c.acted [] = c := rfl

@[simp] theorem acted_cons (c : Context) (act : Act) (acts : List Act) :
    c.acted (act :: acts) = (act.on c).acted acts := rfl

theorem acted_append (c : Context) (acts more : List Act) :
    c.acted (acts ++ more) = (c.acted acts).acted more :=
  List.foldl_append

theorem amends_acted (c : Context) (acts : List Act) : c.Amends (c.acted acts) := by
  induction acts generalizing c with
  | nil => exact .self
  | cons act rest ih => exact (act.amends_on c).trans (ih (act.on c))

theorem amends_iff_acted {c c' : Context} : c.Amends c' ↔ ∃ acts, c.acted acts = c' := by
  constructor
  · intro h
    induction h with
    | self => exact ⟨[], rfl⟩
    | @rewrite c₁ c₂ _ hverdict hresolved ih =>
        obtain ⟨acts, rfl⟩ := ih
        refine ⟨acts ++ [.rewrite fun _ => c₂], ?_⟩
        rw [acted_append, acted_cons, acted_nil, Act.on, ← hverdict, ← hresolved]
    | disable reason _ ih =>
        obtain ⟨acts, rfl⟩ := ih
        exact ⟨acts ++ [.disable reason], acted_append c acts _⟩
    | resolve value _ ih =>
        obtain ⟨acts, rfl⟩ := ih
        exact ⟨acts ++ [.resolve value], acted_append c acts _⟩
  · rintro ⟨acts, rfl⟩
    exact c.amends_acted acts

end Context

/-! ## Accounts -/

/-- The acts that callbacks consist of, by what the callbacks are handed. -/
abbrev Account (σ : Type) := Extension σ → Context → σ → List Act

/-- What the callback makes of a context is what these acts make of it, whether it fails or not. -/
def Extension.Accounted (e : Extension σ) (acts : Context → σ → List Act) : Prop :=
  ∀ c s, c.acted (acts c s) = (e.handle c s).2.1

theorem exists_account :
    ∃ account : Account σ, ∀ e : Extension σ, e.Accounted (account e) ↔ e.Amending := by
  have hacts : ∀ (e : Extension σ) (c : Context) (s : σ),
      ∃ acts, c.Amends (e.handle c s).2.1 → c.acted acts = (e.handle c s).2.1 := by
    intro e c s
    by_cases h : c.Amends (e.handle c s).2.1
    · obtain ⟨acts, hacts⟩ := Context.amends_iff_acted.mp h
      exact ⟨acts, fun _ => hacts⟩
    · exact ⟨[], fun hamends => absurd hamends h⟩
  choose account haccount using hacts
  refine ⟨account, fun e => ⟨fun h c s => ?_, fun h c s => haccount e c s (h c s)⟩⟩
  rw [← h c s]
  exact c.amends_acted _

/-! ## Built-in extensions and extensions to rehearse with -/

namespace Builtin

def acts (b : Builtin) (c : Context) : List Act :=
  match b with
  | disabledCondition => (disabledReason? c).toList.map .disable
  | testInfoResolver =>
    if c.parameter? = some testInfoParameter then [.resolve (testInfo c)] else []
  | testReporterResolver =>
    if c.parameter? = some testReporterParameter then [.resolve (testReporter c)] else []

theorem accounted (b : Builtin) : (b.extension : Extension σ).Accounted fun c _ => b.acts c := by
  intro c _
  change c.acted (b.acts c) = b.apply c
  cases b with
  | disabledCondition =>
      rw [acts, apply]
      cases disabledReason? c <;> rfl
  | testInfoResolver =>
      rw [acts, apply]
      split <;> rfl
  | testReporterResolver =>
      rw [acts, apply]
      split <;> rfl

end Builtin

namespace Rehearsal

/-- The acts of a step of a callback.  A step that writes no output is a rewrite, whatever world it
is run in. -/
def Action.acts (name : String) : Action → Context → List Act
  | disable reason, _ => [.disable reason]
  | resolve value, _ => [.resolve value]
  | resolveParameter, c =>
    c.parameter?.toList.map fun p => .resolve (.record [("by", .text name), ("parameter", .text p)])
  | action, _ => [.rewrite fun c => (action.run name c {}).2.1]

theorem Action.acted_acts (name : String) (action : Action) (c : Context) (r : Recorder) :
    c.acted (action.acts name c) = (action.run name c r).2.1 := by
  cases action with
  | resolveParameter =>
      rw [acts, run]
      cases c.parameter? <;> rfl
  | appendMetadata key value =>
      simp only [acts, Context.acted_cons, Context.acted_nil, Act.on, run]
      cases c.metadata.lookup key with
      | none => rfl
      | some v => cases v <;> rfl
  | requireMetadata key =>
      simp only [acts, Context.acted_cons, Context.acted_nil, Act.on, run]
      cases c.metadata.lookup key <;> rfl
  | failIfDisabled message =>
      simp only [acts, Context.acted_cons, Context.acted_nil, Act.on, run]
      cases c.isDisabled <;> rfl
  | _ => rfl

def actsOf (name : String) : List Action → Context → Recorder → List Act
  | [], _, _ => []
  | action :: rest, c, r =>
    match action.run name c r with
    | (.ok (), c', r) => action.acts name c ++ actsOf name rest c' r
    | (.error _, _, _) => action.acts name c

theorem acted_actsOf (name : String) (actions : List Action) (c : Context) (r : Recorder) :
    c.acted (actsOf name actions c r) = (runActions name actions c r).2.1 := by
  induction actions generalizing c r with
  | nil => rfl
  | cons action rest ih =>
      have hfirst := action.acted_acts name c r
      rcases hrun : action.run name c r with ⟨outcome, c₁, r₁⟩
      rw [hrun] at hfirst
      cases outcome with
      | error message => simpa only [actsOf, runActions, hrun] using hfirst
      | ok _ =>
          simp only [actsOf, runActions, hrun, Context.acted_append, hfirst]
          exact ih c₁ r₁

def Blueprint.acts : Blueprint → Context → Recorder → List Act
  | .builtin b, c, _ => b.acts c
  | .scripted name _ actions, c, r | .registrar name _ actions _ _, c, r => actsOf name actions c r
  | .idle .., _, _ | .mock .., _, _ | .mockRegistrar .., _, _ => []

theorem Blueprint.accounted_build (b : Blueprint) (r : Recorder) :
    (b.build r).1.toExtension.Accounted b.acts := by
  intro c w
  cases b with
  | builtin b => exact b.accounted c w
  | scripted name _ actions => exact acted_actsOf name actions c w
  | registrar name _ actions _ _ => exact acted_actsOf name actions c w
  | idle _ _ => rfl
  | mock name _ failure? =>
      change c = (mockCallback name failure? c w).2.1
      cases failure? <;> rfl
  | mockRegistrar _ _ _ => rfl

end Rehearsal

end Lifecycle
