import Lifecycle.Proofs.Dispatch.Agreement
import Lifecycle.Proofs.Registry.Placement
/-!
# The phase of a call

A dispatch takes the phase once, from the context that it starts with, and what it calls takes part
in that phase.  The context is then handed from call to call, and its phase can be written like any
other field, so that a call can find another phase there than the one it is made for.
-/

namespace Lifecycle

variable {σ : Type}

def Call.KeepsPhase (k : Call σ) : Prop := k.answer.2.1.phase = k.context.phase

theorem Threaded.phase_eq {c c' : Context} {s s' : σ} {calls : List (Call σ)}
    (h : Threaded c s calls c' s') (hkeeps : ∀ k ∈ calls, k.KeepsPhase) : c'.phase = c.phase := by
  induction h with
  | nil => rfl
  | @cons e c c₁ c' s _ _ _ _ hhandle _ ih =>
      have hfirst : (e.handle c s).2.1.phase = c.phase := hkeeps _ List.mem_cons_self
      rw [hhandle] at hfirst
      calc c'.phase = c₁.phase := ih fun k hk => hkeeps k (List.mem_cons_of_mem _ hk)
        _ = c.phase := hfirst

namespace Registry

theorem includes_of_mem_callsMade {r : Registry σ} {policies : Policies} {c : Context} {s : σ}
    {k : Call σ} (hk : k ∈ r.callsMade policies c s) :
    k.extension.capabilities.includes c.phase = true := by
  cases hlookup : r.lookup c.phase with
  | error e =>
      rw [callsMade_of_lookup_error policies s hlookup] at hk
      cases hk
  | ok extensions =>
      rw [callsMade_of_lookup_ok policies s hlookup] at hk
      obtain ⟨entry, hentry, hextension⟩ :=
        mem_participants_of_mem_callsOf hlookup (Policy.mem_of_mem_calls hk)
      have htakesPart : entry.participates c.phase = true := (mem_participants.mp hentry).2
      rw [Registration.participates, hextension] at htakesPart
      exact htakesPart

/-- **What is called takes part in the phase.**  Every call of a dispatch is of an extension that
takes part in the phase dispatched, whatever the calls before it made of the context.  As long as
these leave the phase of the context alone, it is also the phase that the call is handed. -/
theorem called_for_declared_phase (r : Registry σ) (policies : Policies) (c : Context) (s : σ)
    {before after : List (Call σ)} {k : Call σ}
    (hcalls : r.callsMade policies c s = before ++ k :: after) :
    k.extension.capabilities.includes c.phase = true ∧
      ((∀ j ∈ before, j.KeepsPhase) → k.context.phase = c.phase ∧
        k.extension.capabilities.includes k.context.phase = true) := by
  have htakesPart : k.extension.capabilities.includes c.phase = true := by
    apply includes_of_mem_callsMade
    rw [hcalls]
    exact List.mem_append_right before List.mem_cons_self
  refine ⟨htakesPart, ?_⟩
  intro hkeeps
  have hthreaded := r.threaded_callsMade policies c s
  rw [hcalls] at hthreaded
  have hphase : k.context.phase = c.phase := hthreaded.before.phase_eq hkeeps
  refine ⟨hphase, ?_⟩
  rw [hphase]
  exact htakesPart

/-- Three extensions for the start of a test: a timer, one that moves the context to another phase,
and one that does nothing. -/
def movingSetups : Registry Unit :=
  let setup (name : String) (change : Context → Context) : Registration Unit :=
    ⟨⟨name, Phase.beforeEach.toSet, fun c s => (.ok (), change c, s)⟩, .programmatic name, .default⟩
  let empty := bare (ScopeId.numbered 0) PhaseRules.builtin Constructors.empty.toFactory
  ((empty.append (setup "timer" fun c => c.setMetadata "started" (.bool true))).append
    (setup "mover" fun c => { c with phase := .afterAll })).append (setup "probe" id)

def startingTest : Context := Context.forScope .beforeEach (ScopeId.numbered 0) "case" .null

private theorem callsMade_movingSetups :
    movingSetups.callsMade .standard startingTest () =
      callsOf ((layers (movingSetups.participants .beforeEach)).map (·.extension))
        startingTest () := by
  have hlookup : movingSetups.lookup startingTest.phase =
      .ok ((layers (movingSetups.participants .beforeEach)).map (·.extension)) :=
    lookup_of_lookupEntries_ok (lookupEntries_eq_ok_iff.mpr ⟨by unfold Contested; decide, rfl⟩)
  rw [callsMade_of_lookup_ok .standard () hlookup]
  rfl

/-- The one that moves the context is itself still handed the phase dispatched. -/
theorem mover_called_for_declared_phase :
    ∃ before k after, movingSetups.callsMade .standard startingTest () = before ++ k :: after ∧
      k.extension.name = "mover" ∧ (∀ j ∈ before, j.KeepsPhase) ∧
      k.context.phase = .beforeEach ∧
      k.extension.capabilities.includes k.context.phase = true := by
  have hsplit : ∃ j k after, movingSetups.callsMade .standard startingTest () =
      [j] ++ k :: after ∧ k.extension.name = "mover" ∧ j.KeepsPhase :=
    ⟨_, _, _, callsMade_movingSetups, rfl, rfl⟩
  obtain ⟨j, k, after, hcalls, hname, hkeeps⟩ := hsplit
  have hbefore : ∀ i ∈ [j], i.KeepsPhase := by
    intro i hi
    rw [List.mem_singleton.mp hi]
    exact hkeeps
  obtain ⟨-, hdeclared⟩ :=
    called_for_declared_phase movingSetups .standard startingTest () hcalls
  exact ⟨[j], k, after, hcalls, hname, hbefore, hdeclared hbefore⟩

/-- What is called after a context was moved finds a phase that it does not take part in. -/
theorem not_called_for_declared_phase :
    ¬ ∀ (r : Registry Unit) (policies : Policies) (c : Context) (k : Call Unit), r.Reachable →
        k ∈ r.callsMade policies c () →
        k.extension.capabilities.includes k.context.phase = true ∧
          k.context.phase = c.phase := by
  intro h
  have hregister : ∀ {r : Registry Unit} {entry : Registration Unit}, r.Reachable →
      r.disallowing? entry.extension.capabilities entry.position = none →
      (r.append entry).Reachable :=
    fun hr hallowed => .register hr (register_eq_ok_iff.mpr ⟨hallowed, rfl⟩)
  have hbuilt : (Registry.root (ScopeId.numbered 0) PhaseRules.builtin
      (Constructors.empty : Constructors Unit).toFactory [] ()).1 =
        .ok (bare (ScopeId.numbered 0) PhaseRules.builtin Constructors.empty.toFactory) := rfl
  have hreachable : movingSetups.Reachable :=
    hregister (hregister (hregister (.root hbuilt) rfl) rfl) rfl
  have hprobe : ∃ k ∈ movingSetups.callsMade .standard startingTest (),
      k.extension.name = "probe" ∧ k.context.phase = .afterAll := by
    rw [callsMade_movingSetups]
    exact ⟨_, .tail _ (.tail _ (.head _)), rfl, rfl⟩
  obtain ⟨k, hk, -, hmoved⟩ := hprobe
  obtain ⟨-, hphase⟩ := h movingSetups .standard startingTest k hreachable hk
  rw [hmoved] at hphase
  cases hphase

end Registry

end Lifecycle
