import Lifecycle.Proofs.Registry.Reachable
/-!
# Known types

A type is registered once in a chain.  Registering it again is answered without asking for anything,
which a factory can tell that notes in the world what it is asked for.
-/

namespace Lifecycle

variable {σ : Type}

/-! ## Noting requests -/

inductive Request where
  | make (type : TypeId)
  | session (type : TypeId)
  deriving DecidableEq

/-- The registrar notes its sessions before they begin. -/
def Provider.noting (note : Request → σ → σ) (p : Provider σ) : Provider σ :=
  { p with
    registrar? := p.registrar?.map fun session type =>
      .act (note (.session type)) fun _ => session type }

def Factory.noting (note : Request → σ → σ) (f : Factory σ) : Factory σ where
  instantiate := fun type s =>
    match f.instantiate type (note (.make type) s) with
    | (made, s') => (made.map (Provider.noting note), s')

namespace Registry

def noting (note : Request → σ → σ) (r : Registry σ) : Registry σ :=
  { r with factory := r.factory.noting note }

theorem containsType_noting (note : Request → σ → σ) (r : Registry σ) (type : TypeId) :
    (r.noting note).containsType type = r.containsType type := rfl

/-! ## Registering again -/

theorem registerType_of_containsType {r : Registry σ} {type : TypeId}
    (h : r.containsType type = true) (s : σ) : r.registerType type s = (.ok false, r, s) := by
  rw [registerType, if_pos h]

theorem RegistersType.containsType_of_false {r r' : Registry σ} {type : TypeId} {s s' : σ}
    (h : RegistersType r type s (.ok false) r' s') : r.containsType type = true := by
  cases h with
  | known hcontains => exact hcontains

theorem registerType_eq_ok_false_iff {r : Registry σ} {type : TypeId} {s : σ} :
    (r.registerType type s).1 = .ok false ↔ r.containsType type = true := by
  constructor
  · intro h
    have hregisters := registersType r type s
    rw [h] at hregisters
    exact hregisters.containsType_of_false
  · intro h
    rw [registerType_of_containsType h]

theorem registerType_noting_of_containsType {r : Registry σ} {type : TypeId}
    (h : r.containsType type = true) (note : Request → σ → σ) (s : σ) :
    (r.noting note).registerType type s = (.ok false, r.noting note, s) :=
  registerType_of_containsType ((containsType_noting note r type).trans h) s

/-- A type that is new is asked for, and its registrar runs a session, once each. -/
example :
    let registrar : Provider (List Request) :=
      { name := "fixtures", capabilities := ∅, registrar? := some fun _ => .finish (.ok ()) }
    let r := bare (ScopeId.numbered 0) PhaseRules.builtin ⟨fun _ log => (.ok registrar, log)⟩
    let type : TypeId := ⟨"acme", "fixtures"⟩
    let noting := r.noting fun request log => log ++ [request]
    (noting.registerType type []).2.2 = [.make type, .session type] := by
  decide

/-! ## Once in a chain -/

@[simp] theorem types_nested (r : Registry σ) (id : ScopeId) : (r.nested id).types = r.types := by
  simp [types, chain, nested]

theorem Reachable.types_nodup {r : Registry σ} (h : r.Reachable) : r.types.Nodup := by
  refine h.invariant (P := fun r => r.types.Nodup) ?_ ?_ ?_ ?_
  · intro r entry _ hr
    rwa [types_append]
  · intro r type hnew hr
    rw [types_appendType]
    refine List.nodup_append.mpr ⟨hr, by simp, ?_⟩
    rintro known hknown other hother rfl
    rw [List.mem_singleton.mp hother] at hknown
    rw [containsType, List.contains_iff_mem.mpr hknown] at hnew
    cases hnew
  · intro id rules factory
    simp [types, chain, bare]
  · intro parent id hparent
    rwa [types_nested]

end Registry

end Lifecycle
