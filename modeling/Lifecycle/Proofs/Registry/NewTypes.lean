import Lifecycle.Proofs.Registry.KnownTypes
import Lifecycle.Proofs.Registry.Tracing
/-!
# New types

Of a list of types, registering passes over those that the chain has already, those that came
earlier in the list among them.  What is left are the new types, each where it stands first: they
are registered in turn, and the factory is asked for them and for nothing else.
-/

namespace Lifecycle

variable {σ : Type}

def Event.asked? : Event σ → Option TypeId
  | .asked type => some type
  | .began _ | .offered _ => none

namespace Registry

/-- The types of a list that are not registered in the chain, each where it stands first. -/
def newTypes (r : Registry σ) (types : List TypeId) : List TypeId :=
  (types.filter fun type => !r.containsType type).eraseDups

theorem newTypes_cons_of_known {r : Registry σ} {type : TypeId}
    (h : r.containsType type = true) (rest : List TypeId) :
    r.newTypes (type :: rest) = r.newTypes rest := by
  simp only [newTypes, List.filter_cons, h, Bool.not_true, Bool.false_eq_true, if_false]

theorem containsType_of_types_append {r r' : Registry σ} {type : TypeId}
    (h : r'.types = r.types ++ [type]) (other : TypeId) :
    r'.containsType other = (r.containsType other || other == type) := by
  unfold containsType
  rw [h, List.contains_append, List.contains_cons, List.contains_nil, Bool.or_false]

theorem newTypes_cons_of_new {r r' : Registry σ} {type : TypeId}
    (h : r.containsType type = false) (htypes : r'.types = r.types ++ [type])
    (rest : List TypeId) : r.newTypes (type :: rest) = type :: r'.newTypes rest := by
  unfold newTypes
  rw [List.filter_cons, h, Bool.not_false, if_pos rfl, List.eraseDups_cons, List.filter_filter]
  -- what comes later of the type is a repeat on the left, and known on the right
  congr 2
  apply List.filter_congr
  intro other _
  rw [containsType_of_types_append htypes, Bool.not_or, Bool.and_comm]

/-! ## One type -/

theorem types_of_registered {r r' : Registry σ} {type : TypeId} {s s' : σ} {isNew : Bool}
    (hnew : r.containsType type = false) (h : r.registerType type s = (.ok isNew, r', s')) :
    r'.types = r.types ++ [type] ∧ r'.scope.types = r.scope.types ++ [type] := by
  have hregisters : RegistersType r type s (.ok isNew) r' s' := by
    have hall := registersType r type s
    rwa [h] at hall
  cases hregisters with
  | known hknown =>
      rw [hnew] at hknown
      cases hknown
  | registered =>
      refine ⟨?_, rfl⟩
      rw [types_appendType, types_extend]

theorem asked_events (r : Registry σ) (type : TypeId) (s : σ) :
    (r.events type s).filterMap Event.asked? =
      if r.containsType type then [] else [type] := by
  -- no session asks the factory for anything
  have hsession : ∀ (p : Provider σ) (w : σ),
      (p.sessionEvents r.rules type w).filterMap Event.asked? = [] := by
    intro p w
    unfold Provider.sessionEvents
    cases p.registrar? with
    | none => rfl
    | some session =>
        rw [List.filterMap_cons, List.filterMap_map]
        exact List.filterMap_eq_nil_iff.mpr fun _ _ => rfl
  unfold events
  split
  · rfl
  · split
    · rfl
    · split
      · rfl
      · rw [List.filterMap_cons, hsession]
        rfl

theorem events_of_known {r : Registry σ} {type : TypeId} (h : r.containsType type = true) (s : σ) :
    r.events type s = [] := by
  rw [events, if_pos h]

/-! ## Types in turn -/

/-- Known types and repeated ones are passed over. -/
theorem registerTypes_newTypes (r : Registry σ) (types : List TypeId) (s : σ) :
    r.registerTypes (r.newTypes types) s = r.registerTypes types s := by
  induction types generalizing r s with
  | nil => rfl
  | cons type rest ih =>
      cases hknown : r.containsType type with
      | true =>
          rw [newTypes_cons_of_known hknown, ih]
          simp only [registerTypes, registerType_of_containsType hknown]
      | false =>
          rcases hfirst : r.registerType type s with ⟨outcome, r', s'⟩
          cases outcome with
          | error e =>
              rw [newTypes_cons_of_new hknown (types_appendType r type)]
              simp only [registerTypes, hfirst]
          | ok _ =>
              rw [newTypes_cons_of_new hknown (types_of_registered hknown hfirst).1]
              simp only [registerTypes, hfirst, ih]

/-- How new types are registered in turn: all of them, or up to the first that fails, and the
factory is asked for just those that were tried. -/
inductive InTurn (r : Registry σ) (types : List TypeId) (s : σ) :
    Except Error Unit × Registry σ × σ → List TypeId → Prop where
  | all {r' : Registry σ} {s' : σ} : r'.scope.types = r.scope.types ++ types →
      InTurn r types s (.ok (), r', s') types
  | upTo {before after : List TypeId} {type : TypeId} {r' r'' : Registry σ} {s' s'' : σ}
      {e : Error} : types = before ++ type :: after →
      r.registerTypes before s = (.ok (), r', s') →
      r'.registerType type s' = (.error e, r'', s'') →
      InTurn r types s (.error e, r'', s'') (before ++ [type])

theorem inTurn_newTypes (r : Registry σ) (types : List TypeId) (s : σ) :
    InTurn r (r.newTypes types) s (r.registerTypes types s)
      ((r.eventsOfAll types s).filterMap Event.asked?) := by
  induction types generalizing r s with
  | nil => exact .all (List.append_nil _).symm
  | cons type rest ih =>
      cases hknown : r.containsType type with
      | true =>
          simp only [registerTypes, eventsOfAll, registerType_of_containsType hknown,
            events_of_known hknown, List.nil_append, newTypes_cons_of_known hknown]
          exact ih r s
      | false =>
          have hasked := asked_events r type s
          rw [hknown, if_neg Bool.false_ne_true] at hasked
          rcases hfirst : r.registerType type s with ⟨outcome, r', s'⟩
          cases outcome with
          | error e =>
              rw [newTypes_cons_of_new hknown (types_appendType r type)]
              simp only [registerTypes, eventsOfAll, hfirst, hasked]
              exact .upTo (List.nil_append _).symm rfl hfirst
          | ok _ =>
              obtain ⟨htypes, hown⟩ := types_of_registered hknown hfirst
              rw [newTypes_cons_of_new hknown htypes]
              simp only [registerTypes, eventsOfAll, hfirst, List.filterMap_append, hasked]
              -- the rest is registered on top of the type, and what is new is told by that registry
              have hrest := ih r' s'
              generalize r'.registerTypes rest s' = done at hrest ⊢
              generalize (r'.eventsOfAll rest s').filterMap Event.asked? = asked at hrest ⊢
              cases hrest with
              | all hall =>
                  refine .all ?_
                  rw [hall, hown, List.append_assoc, List.singleton_append]
              | @upTo before after failing _ _ _ _ _ hsplit hbefore hfails =>
                  have hsplit' : type :: r'.newTypes rest = (type :: before) ++ failing :: after := by
                    rw [hsplit, List.cons_append]
                  refine .upTo hsplit' ?_ hfails
                  simp only [registerTypes, hfirst, hbefore]

/-! ## Scopes -/

/-- How a scope is built of types: it has just these, or else the building fails with the error of
the first type that fails on top of those before it.  The factory is asked for just those that were
tried. -/
structure BuiltInTurn (build : List TypeId → Except Error (Registry σ) × σ)
    (types asked : List TypeId) : Prop where
  whole : ∀ r, (build types).1 = .ok r → r.scope.types = types ∧ asked = types
  upTo : ∀ e, (build types).1 = .error e →
    ∃ before type after r s, types = before ++ type :: after ∧ asked = before ++ [type] ∧
      build before = (.ok r, s) ∧ (r.registerType type s).1 = .error e

theorem InTurn.built {start : Registry σ} {types asked : List TypeId} {s : σ}
    (hbare : start.scope.types = [])
    (h : InTurn start types s (start.registerTypes types s) asked) :
    BuiltInTurn (fun types => Registry.built (start.registerTypes types s)) types asked := by
  generalize hdone : start.registerTypes types s = done at h
  cases h with
  | all hall =>
      refine ⟨?_, ?_⟩
      · rintro r hr
        simp only [hdone, Registry.built] at hr
        obtain rfl := Except.ok.inj hr
        rw [hall, hbare, List.nil_append]
        exact ⟨rfl, rfl⟩
      · intro e he
        simp only [hdone, Registry.built] at he
        cases he
  | upTo hsplit hbefore hfails =>
      refine ⟨?_, ?_⟩
      · intro r hr
        simp only [hdone, Registry.built] at hr
        cases hr
      · intro e he
        simp only [hdone, Registry.built] at he
        obtain rfl := Except.error.inj he
        refine ⟨_, _, _, _, _, hsplit, rfl, ?_, congrArg Prod.fst hfails⟩
        simp only [hbefore, Registry.built]

theorem built_traced (start : Registry σ) (types : List TypeId) (s : σ) (log : List (Event σ)) :
    built (start.traced.registerTypes types (s, log)) =
      let done := built (start.registerTypes types s)
      (done.1.map traced, (done.2, log ++ start.eventsOfAll types s)) := by
  rw [registerTypes_traced]
  obtain ⟨outcome, r, w⟩ := start.registerTypes types s
  cases outcome <;> rfl

theorem newTypes_traced (r : Registry σ) (types : List TypeId) :
    r.traced.newTypes types = r.newTypes types := by
  simp only [newTypes, containsType_traced]

end Registry

end Lifecycle
