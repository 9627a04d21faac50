import Lifecycle.Proofs.Registry.Reachable
import Lifecycle.Registry.Forest
/-!
# Runs of forests

A run performs operations on a forest one after another, each in a world of any state.  Operations
that cannot be tried and operations that fail are steps of the run like the others.  `Change` says
once what a step can do to the registries of a forest; what holds of every run is derived from it.
-/

namespace Lifecycle

variable {σ : Type}

/-! ## Operations -/

inductive Registering (σ : Type) where
  | byType (type : TypeId)
  | direct (extension : Extension σ) (origin : Origin) (position : Position)

/-- Registers in a registry, and tells whether there was something new. -/
def Registering.on (request : Registering σ) (r : Registry σ) (s : σ) :
    Except Error Bool × Registry σ × σ :=
  match request with
  | .byType type => r.registerType type s
  | .direct extension origin position =>
      match r.register extension origin position with
      | .ok r' => (.ok true, r', s)
      | .error e => (.error e, r, s)

theorem Registering.grows_on (request : Registering σ) (r : Registry σ) (s : σ) :
    Registry.Grows r (request.on r s).2.1 := by
  cases request with
  | byType type => exact Registry.grows_registerType r type s
  | direct extension origin position =>
      simp only [on]
      cases hregister : r.register extension origin position with
      | ok r' => exact Registry.grows_register hregister
      | error e => exact .refl

theorem Registering.reachable_on (request : Registering σ) {r : Registry σ} (h : r.Reachable)
    (s : σ) : (request.on r s).2.1.Reachable := by
  cases request with
  | byType type => exact .registerType type s h
  | direct extension origin position =>
      simp only [on]
      cases hregister : r.register extension origin position with
      | ok r' => exact .register h hregister
      | error e => exact h

namespace Forest

/-- The answer to a request: why it cannot be tried, or what came of it. -/
abbrev Answer := Except Fault (Except Error Bool)

def ask (f : Forest σ) (name : String) (request : Registering σ) (s : σ) :
    Answer × Forest σ × σ :=
  match request with
  | .byType type =>
      match f.registerType name type s with
      | .ok (outcome, f', s') => (.ok outcome, f', s')
      | .error fault => (.error fault, f, s)
  | .direct extension origin position =>
      match f.register name extension origin position with
      | .ok (outcome, f') => (.ok (outcome.map fun _ => true), f', s)
      | .error fault => (.error fault, f, s)

inductive Operation (σ : Type) where
  | addRoot (name : String) (rules : PhaseRules) (factory : Factory σ) (types : List TypeId)
  | addChild (name parent : String) (types : List TypeId)
  | ask (name : String) (request : Registering σ)

/-- The forest after an operation; one that cannot be tried leaves it as it is. -/
def Operation.perform (f : Forest σ) (s : σ) : Operation σ → Forest σ
  | .addRoot name rules factory types =>
      match f.addRoot name rules factory types s with
      | .ok (_, f', _) => f'
      | .error _ => f
  | .addChild name parent types =>
      match f.addChild name parent types s with
      | .ok (_, f', _) => f'
      | .error _ => f
  | .ask name request => (f.ask name request s).2.1

/-- The forests that operations can make of a forest, with a world of any state at each. -/
inductive Run (f : Forest σ) : Forest σ → Prop where
  | start : Run f f
  | perform {f' : Forest σ} (op : Operation σ) (s : σ) : Run f f' → Run f (op.perform f' s)

theorem Run.trans {f f' f'' : Forest σ} (h : Run f f') (h' : Run f' f'') : Run f f'' := by
  induction h' with
  | start => exact h
  | perform op s _ ih => exact .perform op s ih

/-! ## Finding registries -/

def add (f : Forest σ) (name : String) (parent? : Option String) (r : Registry σ) : Forest σ where
  nodes := f.nodes ++ [(name, ⟨parent?, r⟩)]

theorem get_eq_ok_iff {f : Forest σ} {name : String} {node : ForestNode σ} :
    f.get name = .ok node ↔ f.nodes.lookup name = some node := by
  unfold get
  cases f.nodes.lookup name <;> simp

theorem mem_of_get {f : Forest σ} {name : String} {node : ForestNode σ}
    (h : f.get name = .ok node) : (name, node) ∈ f.nodes := by
  obtain ⟨before, after, hnodes, -⟩ := List.lookup_eq_some_iff.mp (get_eq_ok_iff.mp h)
  rw [hnodes]
  exact List.mem_append_right before List.mem_cons_self

theorem checkFree_eq_ok_iff {f : Forest σ} {name : String} :
    f.checkFree name = .ok () ↔ f.nodes.lookup name = none := by
  unfold checkFree
  cases f.nodes.lookup name <;> simp

theorem getOpen_eq_ok_iff {f : Forest σ} {name : String} {node : ForestNode σ} :
    f.getOpen name = .ok node ↔ f.get name = .ok node ∧ f.isFrozen name = false := by
  unfold getOpen
  cases f.get name <;> cases f.isFrozen name <;> simp

theorem parent?_ne_of_not_frozen {f : Forest σ} {name other : String} {node : ForestNode σ}
    (hopen : f.isFrozen name = false) (h : f.get other = .ok node) :
    node.parent? ≠ some name := by
  intro hparent
  have hnone := List.any_eq_false.mp hopen _ (mem_of_get h)
  exact hnone (by simpa using hparent)

theorem get_add_eq_ok_iff {f : Forest σ} {name other : String} {parent? : Option String}
    {r : Registry σ} {node : ForestNode σ} (hfree : f.checkFree name = .ok ()) :
    (f.add name parent? r).get other = .ok node ↔
      f.get other = .ok node ∨ other = name ∧ node = ⟨parent?, r⟩ := by
  have hnone := checkFree_eq_ok_iff.mp hfree
  rw [get_eq_ok_iff, get_eq_ok_iff, add, List.lookup_append]
  by_cases hname : other = name
  · subst hname
    simp [hnone, eq_comm]
  · have hne : (other == name) = false := by simpa using hname
    simp [List.lookup_cons, hne, hname]

theorem get_replace_eq_ok_iff {f : Forest σ} {name other : String} {old node : ForestNode σ}
    {r : Registry σ} (h : f.get name = .ok old) :
    (f.replace name r).get other = .ok node ↔
      other ≠ name ∧ f.get other = .ok node ∨ other = name ∧ node = { old with registry := r } := by
  by_cases hname : other = name
  · subst hname
    rw [get_replace_self h]
    simp [eq_comm]
  · rw [get_replace_of_ne hname]
    simp [hname]

/-! ## What a step can do -/

theorem ask_of_not_open {f : Forest σ} {name : String} {fault : Fault}
    (h : f.getOpen name = .error fault) (request : Registering σ) (s : σ) :
    f.ask name request s = (.error fault, f, s) := by
  cases request with
  | byType type => simp only [ask, registerType, h]
  | direct extension origin position => simp only [ask, register, h]

theorem ask_of_open {f : Forest σ} {name : String} {node : ForestNode σ}
    (h : f.getOpen name = .ok node) (request : Registering σ) (s : σ) :
    ∃ f', f.ask name request s =
        (.ok (request.on node.registry s).1, f', (request.on node.registry s).2.2) ∧
      (f' = f.replace name (request.on node.registry s).2.1 ∨
        f' = f ∧ (request.on node.registry s).2.1 = node.registry) := by
  cases request with
  | byType type =>
      refine ⟨_, ?_, .inl rfl⟩
      simp only [ask, registerType, h, Registering.on]
  | direct extension origin position =>
      simp only [ask, register, h, Registering.on]
      cases node.registry.register extension origin position with
      | ok r => exact ⟨_, rfl, .inl rfl⟩
      | error e => exact ⟨_, rfl, .inr ⟨rfl, rfl⟩⟩

/-- What one operation can do to the registries of a forest. -/
inductive Change (f : Forest σ) : Forest σ → Prop where
  /-- The operation cannot be tried or what it was to build is discarded. -/
  | nothing : Change f f
  | asked {name : String} {node : ForestNode σ} (request : Registering σ) (s : σ) :
      f.getOpen name = .ok node → Change f (f.replace name (request.on node.registry s).2.1)
  | addedRoot {name : String} {id : ScopeId} {rules : PhaseRules} {factory : Factory σ}
      {types : List TypeId} {s : σ} {r : Registry σ} : f.checkFree name = .ok () →
      (Registry.root id rules factory types s).1 = .ok r → Change f (f.add name none r)
  | addedChild {name parent : String} {node : ForestNode σ} {id : ScopeId} {types : List TypeId}
      {s : σ} {r : Registry σ} : f.checkFree name = .ok () → f.get parent = .ok node →
      (node.registry.child id types s).1 = .ok r → Change f (f.add name (some parent) r)

theorem change_perform (f : Forest σ) (op : Operation σ) (s : σ) : Change f (op.perform f s) := by
  cases op with
  | ask name request =>
      cases hopen : f.getOpen name with
      | error fault =>
          simp only [Operation.perform, ask_of_not_open hopen]
          exact .nothing
      | ok node =>
          obtain ⟨f', hask, hf'⟩ := ask_of_open hopen request s
          simp only [Operation.perform, hask]
          obtain rfl | ⟨rfl, -⟩ := hf'
          · exact .asked request s hopen
          · exact .nothing
  | addRoot name rules factory types =>
      simp only [Operation.perform, addRoot]
      cases hfree : f.checkFree name with
      | error fault => exact .nothing
      | ok _ =>
          match hbuilt : Registry.root f.nextId rules factory types s with
          | (.ok r, s') => exact .addedRoot hfree (congrArg Prod.fst hbuilt)
          | (.error e, s') => exact .nothing
  | addChild name parent types =>
      simp only [Operation.perform, addChild]
      cases hfree : f.checkFree name with
      | error fault => exact .nothing
      | ok _ =>
          cases hparent : f.get parent with
          | error fault => exact .nothing
          | ok node =>
              simp only
              match hbuilt : node.registry.child f.nextId types s with
              | (.ok r, s') => exact .addedChild hfree hparent (congrArg Prod.fst hbuilt)
              | (.error e, s') => exact .nothing

end Forest

end Lifecycle
