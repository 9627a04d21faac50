import Lifecycle.Dispatch.Run
import Lifecycle.Proofs.Registry.Lookup
/-!
# Watching callbacks

A watched registry is the registry itself over a world that also keeps a list of calls: each
callback notes that it was called, with the context and the world it was handed, and then does what
it did before.  What a dispatch calls is what is noted when a watched registry is dispatched.
-/

namespace Lifecycle

variable {σ : Type}

/-- A call of the callback of an extension, with what the callback was handed. -/
structure Call (σ : Type) where
  extension : Extension σ
  context : Context
  world : σ

namespace Call

def answer (k : Call σ) : Except String Unit × Context × σ :=
  k.extension.handle k.context k.world

/-- How the call is reported in a phase if its callback failed. -/
def failure? (k : Call σ) (phase : Phase) : Option Error :=
  match k.answer.1 with
  | .ok () => none
  | .error message => some (.callbackFailed k.extension.name phase message)

theorem failure?_eq_none_iff {k : Call σ} {phase : Phase} :
    k.failure? phase = none ↔ k.answer.1 = .ok () := by
  unfold failure?
  cases k.answer.1 <;> simp

theorem failure?_eq_some_iff {k : Call σ} {phase : Phase} {e : Error} :
    k.failure? phase = some e ↔ ∃ message, k.answer.1 = .error message ∧
      e = .callbackFailed k.extension.name phase message := by
  unfold failure?
  cases k.answer.1 <;> simp [eq_comm]

end Call

abbrev Noted (σ : Type) := σ × List (Call σ)

/-- The extension whose callback notes its calls. -/
def Extension.watched (e : Extension σ) : Extension (Noted σ) where
  name := e.name
  capabilities := e.capabilities
  handle := fun c w =>
    match e.handle c w.1 with
    | (outcome, c', s) => (outcome, c', (s, w.2 ++ [⟨e, c, w.1⟩]))

def Registration.watched (entry : Registration σ) : Registration (Noted σ) :=
  ⟨entry.extension.watched, entry.origin, entry.position⟩

def Session.watched : Session σ → Session (Noted σ)
  | .finish outcome => .finish outcome
  | .act change next => .act (fun w => (change w.1, w.2)) fun w => (next w.1).watched
  | .register extension position next =>
      .register extension.watched position fun outcome => (next outcome).watched

def Provider.watched (p : Provider σ) : Provider (Noted σ) :=
  { p.toExtension.watched with
    registrar? := p.registrar?.map fun session type => (session type).watched }

def Factory.watched (f : Factory σ) : Factory (Noted σ) where
  instantiate := fun type w =>
    match f.instantiate type w.1 with
    | (made, s) => (made.map Provider.watched, (s, w.2))

def Scope.watched (scope : Scope σ) : Scope (Noted σ) where
  id := scope.id
  types := scope.types
  entries := scope.entries.map Registration.watched

def Registry.watched (r : Registry σ) : Registry (Noted σ) where
  rules := r.rules
  factory := r.factory.watched
  scope := r.scope.watched
  ancestors := r.ancestors.map Scope.watched

/-! ## Sorting keeps to positions -/

section Sorting

private theorem layers_watched (entries : List (Registration σ)) :
    layers (entries.map Registration.watched) = (layers entries).map Registration.watched := by
  unfold layers
  rw [List.map_flatMap]
  apply List.flatMap_congr
  intro n _
  unfold layer
  rw [List.filter_map]
  rfl

private theorem arrange_watched (d : Direction) (entries : List (Registration σ)) :
    d.arrange (entries.map Registration.watched) =
      (d.arrange entries).map Registration.watched := by
  cases d with
  | forward => exact layers_watched entries
  | backward => rw [Direction.arrange, layers_watched, ← List.map_reverse]; rfl

private theorem contested_watched_iff {entries : List (Registration σ)} {p : Position} :
    Contested (entries.map Registration.watched) p ↔ Contested entries p := by
  unfold Contested
  rw [List.countP_map]
  exact Iff.rfl

private theorem conflictAt_watched (entries : List (Registration σ)) (phase : Phase)
    (p : Position) :
    conflictAt (entries.map Registration.watched) phase p = conflictAt entries phase p := by
  unfold conflictAt
  rw [List.filter_map, List.map_map]
  rfl

private theorem takingPart_watched (phase : Phase) (scopes : List (Scope σ)) :
    takingPart phase (scopes.map Scope.watched) =
      (takingPart phase scopes).map Registration.watched := by
  induction scopes with
  | nil => rfl
  | cons scope outer ih =>
      rw [List.map_cons, takingPart, takingPart, ih, List.map_append, Scope.watched,
        List.filter_map]
      rfl

end Sorting

/-! ## Looking up -/

namespace Registry

theorem participants_watched (r : Registry σ) (phase : Phase) :
    r.watched.participants phase = (r.participants phase).map Registration.watched :=
  takingPart_watched phase (r.scope :: r.ancestors)

theorem lookup_watched (r : Registry σ) (phase : Phase) :
    r.watched.lookup phase = (r.lookup phase).map fun es => es.map Extension.watched := by
  cases hlookup : r.lookupEntries phase with
  | error e =>
      obtain ⟨before, p, after, hallowed, hp, hbefore, rfl⟩ :=
        lookupEntries_eq_error_iff.mp hlookup
      have hwatched : r.watched.lookupEntries phase =
          .error (conflictAt (r.participants phase) phase p) := by
        rw [lookupEntries_eq_error_iff, participants_watched]
        refine ⟨before, p, after, hallowed, contested_watched_iff.mpr hp, ?_,
          (conflictAt_watched _ _ _).symm⟩
        intro q hq hcontested
        exact hbefore q hq (contested_watched_iff.mp hcontested)
      rw [lookup_of_lookupEntries_error hlookup, lookup_of_lookupEntries_error hwatched]
      rfl
  | ok entries =>
      obtain ⟨hnone, rfl⟩ := lookupEntries_eq_ok_iff.mp hlookup
      have hwatched : r.watched.lookupEntries phase =
          .ok (((r.rules.ruleFor phase).direction.arrange (r.participants phase)).map
            Registration.watched) := by
        rw [lookupEntries_eq_ok_iff, participants_watched]
        refine ⟨?_, (arrange_watched _ _).symm⟩
        intro p hp hcontested
        exact hnone p hp (contested_watched_iff.mp hcontested)
      rw [lookup_of_lookupEntries_ok hlookup, lookup_of_lookupEntries_ok hwatched]
      simp only [Except.map, List.map_map]
      rfl

end Registry

end Lifecycle
