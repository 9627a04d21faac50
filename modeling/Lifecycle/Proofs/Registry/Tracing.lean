import Lifecycle.Proofs.Registry.Reachable
/-!
# Tracing registrations

A traced registry is the registry itself over a world that also keeps a list of events.  The factory
notes what it is asked for; a registrar notes that its session begins, and in the session each offer
that it makes with the answer that it gets.  Tracing changes nothing else, so that the events of a
traced run tell what the plain run does on its way.
-/

namespace Lifecycle

variable {σ : Type}

/-- An extension that a registrar offered for registration, with the answer it got. -/
structure Offer (σ : Type) where
  extension : Extension σ
  position : Position
  answer : Except Error Unit

inductive Event (σ : Type) where
  | asked (type : TypeId)
  | began (type : TypeId)
  | offered (offer : Offer σ)

abbrev Traced (σ : Type) := σ × List (Event σ)

def Extension.traced (e : Extension σ) : Extension (Traced σ) where
  name := e.name
  capabilities := e.capabilities
  handle := fun c w =>
    match e.handle c w.1 with
    | (outcome, c', s) => (outcome, c', (s, w.2))

def Registration.traced (entry : Registration σ) : Registration (Traced σ) :=
  ⟨entry.extension.traced, entry.origin, entry.position⟩

def Session.traced : Session σ → Session (Traced σ)
  | .finish outcome => .finish outcome
  | .act change next => .act (fun w => (change w.1, w.2)) fun w => (next w.1).traced
  | .register extension position next =>
      .register extension.traced position fun answer =>
        .act (fun w => (w.1, w.2 ++ [.offered ⟨extension, position, answer⟩])) fun _ =>
          (next answer).traced

def Session.announced (session : Session σ) (type : TypeId) : Session (Traced σ) :=
  .act (fun w => (w.1, w.2 ++ [.began type])) fun _ => session.traced

def Provider.traced (p : Provider σ) : Provider (Traced σ) :=
  { p.toExtension.traced with
    registrar? := p.registrar?.map fun session type => (session type).announced type }

def Factory.traced (f : Factory σ) : Factory (Traced σ) where
  instantiate := fun type w =>
    match f.instantiate type w.1 with
    | (made, s) => (made.map Provider.traced, (s, w.2 ++ [.asked type]))

def Scope.traced (scope : Scope σ) : Scope (Traced σ) where
  id := scope.id
  types := scope.types
  entries := scope.entries.map Registration.traced

/-- The registry in which the factory and the registrars note what they do. -/
def Registry.traced (r : Registry σ) : Registry (Traced σ) where
  rules := r.rules
  factory := r.factory.traced
  scope := r.scope.traced
  ancestors := r.ancestors.map Scope.traced

/-! ## Sessions -/

/-- The offers that the session of the registrar of a type makes under rules. -/
def Session.offers (rules : PhaseRules) (owner : TypeId) : Session σ → σ → List (Offer σ)
  | .finish _, _ => []
  | .act change next, s => (next s).offers rules owner (change s)
  | .register extension position next, s =>
      let answer : Except Error Unit :=
        match rules.rejecting? extension.capabilities position with
        | some phase =>
            .error (.disallowedPosition position phase (Origin.registrar owner).display)
        | none => .ok ()
      ⟨extension, position, answer⟩ :: (next answer).offers rules owner s

namespace Registry

theorem traced_extend (r : Registry σ) (added : List (Registration σ)) :
    (r.extend added).traced = r.traced.extend (added.map Registration.traced) := by
  simp only [traced, extend, Scope.traced, List.map_append]

theorem traced_appendType (r : Registry σ) (type : TypeId) :
    (r.appendType type).traced = r.traced.appendType type := rfl

theorem containsType_traced (r : Registry σ) (type : TypeId) :
    r.traced.containsType type = r.containsType type := by
  have htypes : r.traced.types = r.types := by
    rw [types_eq, types_eq, traced, ← List.map_reverse, List.flatMap_map]
    rfl
  rw [containsType, containsType, htypes]

end Registry

theorem Session.play_traced (rules : PhaseRules) (owner : TypeId) (session : Session σ) (s : σ)
    (log : List (Event σ)) :
    session.traced.play rules owner (s, log) =
      let played := session.play rules owner s
      ⟨played.outcome, played.accepted.map Registration.traced,
        (played.world, log ++ (session.offers rules owner s).map .offered)⟩ := by
  induction session generalizing s log with
  | finish outcome => simp only [traced, play, offers, List.map_nil, List.append_nil]
  | act change next ih => exact ih s (change s) log
  | register extension position next ih =>
      have hcapabilities : extension.traced.capabilities = extension.capabilities := rfl
      simp only [traced, play, offers, hcapabilities]
      cases rules.rejecting? extension.capabilities position with
      | some phase => simp only [ih, List.append_assoc, List.map_cons, List.singleton_append]
      | none =>
          simp only [ih, List.append_assoc, List.map_cons, List.singleton_append]
          rfl

/-! ## Types -/

namespace Provider

/-- The events of the session of an extension for its type; there are none if it is no registrar. -/
def sessionEvents (rules : PhaseRules) (type : TypeId) (p : Provider σ) (s : σ) :
    List (Event σ) :=
  match p.registrar? with
  | none => []
  | some session => .began type :: ((session type).offers rules type s).map .offered

theorem own_traced (p : Provider σ) : p.traced.own = p.own.map Registration.traced := by
  have hcapabilities : p.traced.capabilities = p.capabilities := rfl
  unfold own
  rw [hcapabilities]
  split <;> rfl

theorem play_sessionFor_traced (rules : PhaseRules) (type : TypeId) (p : Provider σ) (s : σ)
    (log : List (Event σ)) :
    (p.traced.sessionFor type).play rules type (s, log) =
      let played := (p.sessionFor type).play rules type s
      ⟨played.outcome, played.accepted.map Registration.traced,
        (played.world, log ++ p.sessionEvents rules type s)⟩ := by
  have hregistrar : p.traced.registrar? =
      p.registrar?.map fun session type => (session type).announced type := rfl
  unfold sessionFor sessionEvents
  rw [hregistrar]
  cases p.registrar? with
  | none => simp only [Option.map_none, Session.play, List.map_nil, List.append_nil]
  | some session =>
      simp only [Option.map_some, Session.announced, Session.play, Session.play_traced,
        List.append_assoc, List.singleton_append]

end Provider

theorem Factory.instantiate_traced (f : Factory σ) (type : TypeId) (s : σ)
    (log : List (Event σ)) :
    f.traced.instantiate type (s, log) =
      ((f.instantiate type s).1.map Provider.traced,
        ((f.instantiate type s).2, log ++ [.asked type])) := rfl

namespace Registry

def events (r : Registry σ) (type : TypeId) (s : σ) : List (Event σ) :=
  if r.containsType type then []
  else
    match r.factory.instantiate type s with
    | (.error _, _) => [.asked type]
    | (.ok p, w) =>
        match r.rules.rejecting? p.capabilities .default with
        | some _ => [.asked type]
        | none => .asked type :: p.sessionEvents r.rules type w

/-- The events of registering types in order, up to the first error. -/
def eventsOfAll (r : Registry σ) (types : List TypeId) (s : σ) : List (Event σ) :=
  match types with
  | [] => []
  | type :: rest =>
      match r.registerType type s with
      | (.ok _, r', s') => r.events type s ++ r'.eventsOfAll rest s'
      | (.error _, _, _) => r.events type s

theorem registerProvider_traced (r : Registry σ) (type : TypeId) (p : Provider σ) (s : σ)
    (log : List (Event σ)) :
    r.traced.registerProvider type p.traced (s, log) =
      let done := r.registerProvider type p s
      (done.1, done.2.1.traced, (done.2.2,
        match r.rules.rejecting? p.capabilities .default with
        | some _ => log
        | none => log ++ p.sessionEvents r.rules type s)) := by
  have hrules : r.traced.rules = r.rules := rfl
  have hcapabilities : p.traced.capabilities = p.capabilities := rfl
  simp only [registerProvider_eq, hrules, hcapabilities, Provider.play_sessionFor_traced,
    Provider.own_traced]
  cases r.rules.rejecting? p.capabilities .default with
  | some phase => rfl
  | none =>
      simp only
      cases ((p.sessionFor type).play r.rules type s).outcome with
      | ok _ => simp only [traced_appendType, traced_extend, List.map_append]
      | error e => simp only [traced_extend, List.map_append]

theorem registerType_traced (r : Registry σ) (type : TypeId) (s : σ) (log : List (Event σ)) :
    r.traced.registerType type (s, log) =
      let done := r.registerType type s
      (done.1, done.2.1.traced, (done.2.2, log ++ r.events type s)) := by
  have hfactory : r.traced.factory = r.factory.traced := rfl
  unfold registerType events
  rw [containsType_traced, hfactory, Factory.instantiate_traced]
  by_cases hknown : r.containsType type = true
  · simp only [hknown, if_true, List.append_nil]
  simp only [hknown, Bool.false_eq_true, if_false]
  obtain ⟨made, w⟩ := r.factory.instantiate type s
  cases made with
  | error cause => rfl
  | ok p =>
      simp only [Except.map, registerProvider_traced]
      obtain ⟨outcome, r', w'⟩ := r.registerProvider type p w
      cases r.rules.rejecting? p.capabilities .default with
      | some phase => cases outcome <;> rfl
      | none =>
          simp only [List.append_assoc, List.singleton_append]
          cases outcome <;> rfl

theorem registerTypes_traced (r : Registry σ) (types : List TypeId) (s : σ)
    (log : List (Event σ)) :
    r.traced.registerTypes types (s, log) =
      let done := r.registerTypes types s
      (done.1, done.2.1.traced, (done.2.2, log ++ r.eventsOfAll types s)) := by
  induction types generalizing r s log with
  | nil => simp only [registerTypes, eventsOfAll, List.append_nil]
  | cons type rest ih =>
      simp only [registerTypes, eventsOfAll, registerType_traced]
      obtain ⟨outcome, r', s'⟩ := r.registerType type s
      cases outcome with
      | ok _ => simp only [ih, List.append_assoc]
      | error e => rfl

end Registry

end Lifecycle
