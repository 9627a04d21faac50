import Lifecycle.Proofs.Forest.Run
import Lifecycle.Proofs.Registry.NewTypes
/-!
# Building scopes

A scope is built of a list of types just as it is built of the new ones among them: those that its
ancestors do not have, each where it stands first.  A scope that cannot be built is discarded, so
that a forest is then what it was.
-/

namespace Lifecycle

variable {σ : Type}

namespace Registry

/-- A way of building scopes builds the same of a list of types as of the new ones among them.  The
events of the traced building are also the same, and the factory is asked for the new types in
turn. -/
structure BuildsOfNew (build : List TypeId → σ → Except Error (Registry σ) × σ)
    (traced : List TypeId → Traced σ → Except Error (Registry (Traced σ)) × Traced σ)
    (types new : List TypeId) : Prop where
  same : ∀ s, build types s = build new s
  inTurn : ∀ s, ∃ events : List (Event σ),
    (∀ log, traced types (s, log) =
      ((build types s).1.map Registry.traced, ((build types s).2, log ++ events))) ∧
    (∀ log, traced new (s, log) = traced types (s, log)) ∧
    BuiltInTurn (fun types => build types s) new (events.filterMap Event.asked?)

theorem buildsOfNew_built {start : Registry σ} (hbare : start.scope.types = [])
    (types : List TypeId) :
    BuildsOfNew (fun types s => built (start.registerTypes types s))
      (fun types w => built (start.traced.registerTypes types w)) types (start.newTypes types) where
  same := fun s => congrArg built (registerTypes_newTypes start types s).symm
  inTurn := by
    intro s
    refine ⟨start.eventsOfAll types s, built_traced start types s, ?_, ?_⟩
    · intro log
      have htraced := registerTypes_newTypes start.traced types (s, log)
      rw [newTypes_traced] at htraced
      exact congrArg built htraced
    · have hturn := inTurn_newTypes start types s
      rw [← registerTypes_newTypes start types s] at hturn
      exact hturn.built hbare

theorem newTypes_nested (r : Registry σ) (id : ScopeId) (types : List TypeId) :
    (r.nested id).newTypes types = r.newTypes types := by
  simp only [newTypes, containsType, types_nested]

theorem newTypes_bare (id : ScopeId) (rules : PhaseRules) (factory : Factory σ)
    (types : List TypeId) : (bare id rules factory).newTypes types = types.eraseDups :=
  congrArg List.eraseDups (List.filter_eq_self.mpr fun _ _ => rfl)

theorem buildsOfNew_child (parent : Registry σ) (id : ScopeId) (types : List TypeId) :
    BuildsOfNew (parent.child id) (parent.traced.child id) types (parent.newTypes types) := by
  have hnested : (parent.nested id).scope.types = [] := rfl
  rw [← newTypes_nested parent id types]
  exact buildsOfNew_built hnested types

theorem buildsOfNew_root (id : ScopeId) (rules : PhaseRules) (factory : Factory σ)
    (types : List TypeId) :
    BuildsOfNew (root id rules factory) (root id rules factory.traced) types types.eraseDups := by
  have hbare : (bare id rules factory).scope.types = [] := rfl
  rw [← newTypes_bare id rules factory types]
  exact buildsOfNew_built hbare types

end Registry

namespace Forest

theorem get_add_of_ne (f : Forest σ) {name other : String} (hne : other ≠ name)
    (parent? : Option String) (r : Registry σ) : (f.add name parent? r).get other = f.get other := by
  have hother : (other == name) = false := beq_eq_false_iff_ne.mpr hne
  unfold get add
  rw [List.lookup_append, List.lookup_cons, hother, List.lookup_nil, Option.or_none]

/-- What is built is added to a forest under its name, and what cannot be built is discarded; nothing
else is different. -/
structure AddsBuilt (f : Forest σ) (name : String) (parent? : Option String)
    (build : Except Error (Registry σ) × σ)
    (added : Except Fault (Except Error Unit × Forest σ × σ)) : Prop where
  discarded : ∀ e f' s, added = .ok (.error e, f', s) → build = (.error e, s) ∧ f' = f
  kept : ∀ f' s, added = .ok (.ok (), f', s) →
    ∃ r, build = (.ok r, s) ∧ f' = f.add name parent? r
  others : ∀ outcome f' s, added = .ok (outcome, f', s) →
    ∀ other, other ≠ name → f'.get other = f.get other

theorem addsBuilt_fault (f : Forest σ) (name : String) (parent? : Option String)
    (build : Except Error (Registry σ) × σ) (fault : Fault) :
    f.AddsBuilt name parent? build (.error fault) := by
  refine ⟨?_, ?_, ?_⟩
  · rintro _ _ _ ⟨⟩
  · rintro _ _ ⟨⟩
  · rintro _ _ _ ⟨⟩

theorem addsBuilt_addBuilt (f : Forest σ) (name : String) (parent? : Option String)
    (build : Except Error (Registry σ) × σ) :
    f.AddsBuilt name parent? build (.ok (f.addBuilt name parent? build)) := by
  obtain ⟨outcome, s⟩ := build
  cases outcome with
  | error e =>
      refine ⟨?_, ?_, ?_⟩
      · rintro _ _ _ ⟨⟩
        exact ⟨rfl, rfl⟩
      · rintro _ _ ⟨⟩
      · rintro _ _ _ ⟨⟩ other _
        rfl
  | ok r =>
      refine ⟨?_, ?_, ?_⟩
      · rintro _ _ _ ⟨⟩
      · rintro _ _ ⟨⟩
        exact ⟨r, rfl, rfl⟩
      · rintro _ _ _ ⟨⟩ other hne
        exact get_add_of_ne f hne parent? r

theorem addsBuilt_addChild {f : Forest σ} {parent : String} {node : ForestNode σ}
    (hparent : f.get parent = .ok node) (name : String) (types : List TypeId) (s : σ) :
    f.AddsBuilt name (some parent) (node.registry.child f.nextId types s)
      (f.addChild name parent types s) := by
  simp only [addChild, hparent]
  cases f.checkFree name with
  | error fault => exact addsBuilt_fault f name parent _ fault
  | ok _ => exact addsBuilt_addBuilt f name parent _

theorem addsBuilt_addRoot (f : Forest σ) (name : String) (rules : PhaseRules)
    (factory : Factory σ) (types : List TypeId) (s : σ) :
    f.AddsBuilt name none (Registry.root f.nextId rules factory types s)
      (f.addRoot name rules factory types s) := by
  unfold addRoot
  cases f.checkFree name with
  | error fault => exact addsBuilt_fault f name none _ fault
  | ok _ => exact addsBuilt_addBuilt f name none _

/-- **A scope is built of new types.**  Building a scope of a list of types is building it of the
new ones, each where it stands first: for a child these are the types that its ancestors do not
have.  The outcomes are equal, and so are the events on the way.  If the scope can be built, its own
types are just the new ones; otherwise the error is that of the first one that fails.  The factory
is asked once for each new type in turn, up to the first that fails.  A forest is different in what
was built and in nothing else, and it is what it was if the scope could not be built. -/
theorem scopes_built_of_new_types :
    (∀ (parent : Registry σ) (id : ScopeId) (types : List TypeId),
      Registry.BuildsOfNew (parent.child id) (parent.traced.child id) types
        (parent.newTypes types)) ∧
    (∀ (id : ScopeId) (rules : PhaseRules) (factory : Factory σ) (types : List TypeId),
      Registry.BuildsOfNew (Registry.root id rules factory) (Registry.root id rules factory.traced)
        types types.eraseDups) ∧
    (∀ (f : Forest σ) (name parent : String) (node : ForestNode σ) (types : List TypeId) (s : σ),
      f.get parent = .ok node →
      f.addChild name parent types s = f.addChild name parent (node.registry.newTypes types) s ∧
        f.AddsBuilt name (some parent) (node.registry.child f.nextId types s)
          (f.addChild name parent types s)) ∧
    (∀ (f : Forest σ) (name : String) (rules : PhaseRules) (factory : Factory σ)
        (types : List TypeId) (s : σ),
      f.addRoot name rules factory types s = f.addRoot name rules factory types.eraseDups s ∧
        f.AddsBuilt name none (Registry.root f.nextId rules factory types s)
          (f.addRoot name rules factory types s)) := by
  refine ⟨Registry.buildsOfNew_child, Registry.buildsOfNew_root, ?_, ?_⟩
  · intro f name parent node types s hparent
    refine ⟨?_, addsBuilt_addChild hparent name types s⟩
    simp only [addChild, hparent,
      (Registry.buildsOfNew_child node.registry f.nextId types).same s]
  · intro f name rules factory types s
    refine ⟨?_, addsBuilt_addRoot f name rules factory types s⟩
    simp only [addRoot, (Registry.buildsOfNew_root f.nextId rules factory types).same s]

/-- A leaf is to be built of a list with a type that the suite has, a type that stands in it twice
and one that fails.  Two types are asked for, the error is that of the second of them, and the forest
is what it was. -/
theorem repeated_and_inherited_types_passed_over :
    let clock : TypeId := ⟨"acme", "clock"⟩
    let net : TypeId := ⟨"acme", "net"⟩
    let dead : TypeId := ⟨"none", "dead"⟩
    let disk : TypeId := ⟨"acme", "disk"⟩
    let factory : Factory Nat := ⟨fun type asked =>
      (if type.space = "acme" then .ok { name := type.name, capabilities := .each }
        else .error (.unknownType type.qualified), asked + 1)⟩
    let suite := (Registry.bare (ScopeId.numbered 0) PhaseRules.builtin factory).appendType clock
    let f : Forest Nat := ⟨[("suite", ⟨none, suite⟩)]⟩
    let types := [net, clock, net, dead, disk, dead]
    f.addChild "leaf" "suite" types 0 = f.addChild "leaf" "suite" [net, dead, disk] 0 ∧
      (suite.traced.child f.nextId types (0, [])).2.2.filterMap Event.asked? = [net, dead] ∧
      ∃ e leaf s, f.addChild "leaf" "suite" types 0 = .ok (.error e, f, 2) ∧
        suite.child f.nextId [net] 0 = (.ok leaf, s) ∧ (leaf.registerType dead s).1 = .error e := by
  intro clock net dead disk factory suite f types
  have hnew : suite.newTypes types = [net, dead, disk] := by decide
  have hasked : (suite.traced.child f.nextId types (0, [])).2.2.filterMap Event.asked? =
      [net, dead] := by decide +kernel
  have hworld : (suite.child f.nextId [net, dead, disk] 0).2 = 2 := by decide +kernel
  obtain ⟨hchild, -, hforest, -⟩ := scopes_built_of_new_types (σ := Nat)
  obtain ⟨hsame, -⟩ := hforest f "leaf" "suite" ⟨none, suite⟩ types 0 rfl
  obtain ⟨events, htraced, -, hturn⟩ := (hchild suite f.nextId types).inTurn 0
  have hevents : events.filterMap Event.asked? = [net, dead] := by
    rw [htraced] at hasked
    exact hasked
  rw [hnew] at hsame hturn
  rw [hevents] at hturn
  refine ⟨hsame, hasked, ?_⟩
  rcases hbuilt : suite.child f.nextId [net, dead, disk] 0 with ⟨outcome, s⟩
  cases outcome with
  | ok r =>
      obtain ⟨-, hall⟩ := hturn.whole r (congrArg Prod.fst hbuilt)
      cases hall
  | error e =>
      obtain ⟨before, type, after, leaf, w, -, htried, hbefore, hfails⟩ :=
        hturn.upTo e (congrArg Prod.fst hbuilt)
      obtain ⟨rfl, rfl⟩ : [net] = before ∧ dead = type := by
        have htried' : [net] ++ [dead] = before ++ [type] := htried
        obtain ⟨hnet, hdead⟩ := List.append_inj' htried' rfl
        exact ⟨hnet, List.singleton_inj.mp hdead⟩
      obtain rfl : s = 2 := (congrArg Prod.snd hbuilt).symm.trans hworld
      have hadds : f.addChild "leaf" "suite" [net, dead, disk] 0 =
          .ok (f.addBuilt "leaf" "suite" (suite.child f.nextId [net, dead, disk] 0)) := rfl
      refine ⟨e, leaf, w, ?_, hbefore, hfails⟩
      rw [hsame, hadds, hbuilt]
      rfl

end Forest

end Lifecycle
