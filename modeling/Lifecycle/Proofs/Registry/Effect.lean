import Lifecycle.Proofs.Registry.Tracing
/-!
# What a successful registration does

A registrar is asked for one session, and may go on after an offer that is refused.  What the session
adds is told by its offers: those that were accepted, as they were made.  Each offer is answered by
the rules alone, so that a refusal has no bearing on the offers after it.
-/

namespace Lifecycle

variable {σ : Type}

/-! ## The answer of the rules -/

theorem PhaseRules.rejecting?_eq_some_iff {rules : PhaseRules} {phases : PhaseSet}
    {position : Position} {phase : Phase} :
    rules.rejecting? phases position = some phase ↔
      phases.includes phase = true ∧ position ∉ (rules.ruleFor phase).allowed ∧
        ∃ before after, Phase.all = before ++ phase :: after ∧
          ∀ earlier ∈ before, phases.includes earlier = true →
            position ∈ (rules.ruleFor earlier).allowed := by
  unfold rejecting? PhaseSet.phases
  rw [List.find?_filter, List.find?_eq_some_iff_append]
  simp [PhaseRule.allows, and_assoc, Decidable.or_iff_not_imp_left]

/-- The answer to an offer: it is accepted if all phases of the extension allow the position, and
otherwise refused for the first of them, in lifecycle order, that does not. -/
structure Offer.AnsweredBy (rules : PhaseRules) (owner : TypeId) (offer : Offer σ) : Prop where
  accepted_iff : offer.answer = .ok () ↔
    ∀ phase, offer.extension.capabilities.includes phase = true →
      offer.position ∈ (rules.ruleFor phase).allowed
  refusal : ∀ e, offer.answer = .error e →
    ∃ before phase after, Phase.all = before ++ phase :: after ∧
      offer.extension.capabilities.includes phase = true ∧
      offer.position ∉ (rules.ruleFor phase).allowed ∧
      (∀ earlier ∈ before, offer.extension.capabilities.includes earlier = true →
        offer.position ∈ (rules.ruleFor earlier).allowed) ∧
      e = .disallowedPosition offer.position phase s!"registrar {owner}"

/-! ## Offers of a session -/

def Offer.registration (owner : TypeId) (offer : Offer σ) : Registration σ :=
  ⟨offer.extension, .registrar owner, offer.position⟩

theorem Session.answeredBy_of_mem_offers {rules : PhaseRules} {owner : TypeId}
    {session : Session σ} {s : σ} {offer : Offer σ}
    (h : offer ∈ session.offers rules owner s) : offer.AnsweredBy rules owner := by
  induction session generalizing s with
  | finish outcome => cases h
  | act change next ih => exact ih s h
  | register extension position next ih =>
      rcases List.mem_cons.mp h with rfl | h
      · cases hreject : rules.rejecting? extension.capabilities position with
        | none =>
            have hallowed := PhaseRules.rejecting?_eq_none_iff.mp hreject
            refine ⟨iff_of_true rfl ?_, nofun⟩
            intro phase hphase
            simpa [PhaseRule.allows] using hallowed phase hphase
        | some phase =>
            obtain ⟨hphase, hrejects, before, after, hall, hbefore⟩ :=
              PhaseRules.rejecting?_eq_some_iff.mp hreject
            refine ⟨iff_of_false nofun fun hallowed => hrejects (hallowed phase hphase), ?_⟩
            rintro e he
            refine ⟨before, phase, after, hall, hphase, hrejects, hbefore, ?_⟩
            exact (Except.error.inj he).symm
      · exact ih _ h

theorem Session.accepted_eq_offers (rules : PhaseRules) (owner : TypeId) (session : Session σ)
    (s : σ) :
    (session.play rules owner s).accepted =
      ((session.offers rules owner s).filter fun offer => offer.answer.isOk).map
        (Offer.registration owner) := by
  induction session generalizing s with
  | finish outcome => rfl
  | act change next ih => exact ih s (change s)
  | register extension position next ih =>
      simp only [play, offers]
      cases rules.rejecting? extension.capabilities position with
      | some phase => exact ih _ s
      | none => exact congrArg (_ :: ·) (ih _ s)

/-! ## Types -/

theorem Provider.mem_offers_of_mem_sessionEvents {rules : PhaseRules} {type : TypeId}
    {p : Provider σ} {s : σ} {offer : Offer σ}
    (h : .offered offer ∈ p.sessionEvents rules type s) :
    offer ∈ (p.sessionFor type).offers rules type s := by
  unfold sessionEvents at h
  unfold sessionFor
  cases hregistrar : p.registrar? with
  | none => simp [hregistrar] at h
  | some session => simpa [hregistrar] using h

namespace Registry

theorem answeredBy_of_mem_events {r : Registry σ} {type : TypeId} {s : σ} {offer : Offer σ}
    (h : .offered offer ∈ r.events type s) : offer.AnsweredBy r.rules type := by
  unfold events at h
  split at h
  · cases h
  split at h
  · simp at h
  split at h
  · simp at h
  · have hevents := (List.mem_cons.mp h).resolve_left nofun
    exact Session.answeredBy_of_mem_offers (Provider.mem_offers_of_mem_sessionEvents hevents)

theorem events_of_made {r : Registry σ} {type : TypeId} {p : Provider σ} {s w : σ}
    (hnew : r.containsType type = false) (hmade : r.factory.instantiate type s = (.ok p, w))
    (hallowed : r.rules.rejecting? p.capabilities .default = none) :
    r.events type s = .asked type :: p.sessionEvents r.rules type w := by
  simp only [events, hnew, hmade, hallowed, Bool.false_eq_true, if_false]

/-- **What registering a type does.**  Each offer that a registrar makes in its session is answered
by the rules of its phases, whatever was refused before it.  If the type is registered, the factory
was asked for it once and for nothing else, and the registrar, if the extension is one, ran one
session.  Then the registrations are those from before, followed by that of the extension itself at
the default position, if it takes part in anything, and by those of the accepted offers in the order
in which they were made; the types are those from before and the new one; and nothing else is
different. -/
theorem registerType_effect (r : Registry σ) (type : TypeId) (s : σ) :
    ∃ events : List (Event σ),
      (∀ log, r.traced.registerType type (s, log) =
        ((r.registerType type s).1, (r.registerType type s).2.1.traced,
          ((r.registerType type s).2.2, log ++ events))) ∧
      (∀ offer, .offered offer ∈ events → offer.AnsweredBy r.rules type) ∧
      ((r.registerType type s).1 = .ok true →
        ∃ (p : Provider σ) (offers : List (Offer σ)),
          (r.factory.instantiate type s).1 = .ok p ∧
          (p.registrar? = none → offers = [] ∧ events = [.asked type]) ∧
          (p.registrar?.isSome = true →
            events = .asked type :: .began type :: offers.map .offered) ∧
          (r.registerType type s).2.1 =
            { r with
              scope :=
                { r.scope with
                  types := r.scope.types ++ [type]
                  entries := r.scope.entries ++
                    (if p.capabilities.isEmpty then []
                      else [⟨p.toExtension, .extension p.name, .default⟩]) ++
                    (offers.filter fun offer => offer.answer.isOk).map
                      (Offer.registration type) } }) := by
  refine ⟨r.events type s, registerType_traced r type s, ?_, ?_⟩
  · intro offer hoffer
    exact answeredBy_of_mem_events hoffer
  · intro hsuccess
    have hregisters := registersType r type s
    rw [hsuccess] at hregisters
    generalize (r.registerType type s).2.1 = r', (r.registerType type s).2.2 = s' at hregisters ⊢
    cases hregisters with
    | @registered p w hnew hmade hallowed _ =>
        have hevents := events_of_made hnew hmade hallowed
        refine ⟨p, (p.sessionFor type).offers r.rules type w, congrArg Prod.fst hmade, ?_, ?_, ?_⟩
        · intro hplain
          simp [hevents, Provider.sessionFor, Provider.sessionEvents, hplain, Session.offers]
        · intro hregistrar
          obtain ⟨session, hsession⟩ := Option.isSome_iff_exists.mp hregistrar
          simp [hevents, Provider.sessionFor, Provider.sessionEvents, hsession]
        · simp only [Session.accepted_eq_offers, extend, appendType, List.append_assoc]
          rfl

/-- A factory for one registrar, which takes part in two phases itself and makes three offers
whatever it is answered. -/
def lenientFactory : Factory Unit where
  instantiate := fun _ s =>
    let offer (name : String) (phase : Phase) (position : Position)
        (next : Except Error Unit → Session Unit) : Session Unit :=
      .register ⟨name, phase.toSet, Callback.idle⟩ position next
    let session := offer "open" .beforeAll .outermost fun _ =>
      offer "check" .testCondition .innermost fun _ =>
        offer "close" .afterAll .default .finish
    (.ok { name := "db", capabilities := .each, registrar? := some fun _ => session }, s)

/-- The registrar passes over the refusal of its second offer: one session, three offers, and three
registrations with its own. -/
theorem refusal_passed_over :
    let r := bare (ScopeId.numbered 0) PhaseRules.builtin lenientFactory
    let type : TypeId := ⟨"acme", "db"⟩
    (r.registerType type ()).1 = .ok true ∧
      (r.registerType type ()).2.1.scope.entries.map (fun e => (e.extension.name, e.origin)) =
        [("db", .extension "db"), ("open", .registrar type), ("close", .registrar type)] ∧
      ∃ offers : List (Offer Unit), offers.length = 3 ∧
        (r.traced.registerType type ((), [])).2.2.2 =
          .asked type :: .began type :: offers.map .offered ∧
        ∀ offer ∈ offers, offer.AnsweredBy r.rules type := by
  intro r type
  have hregistered : (r.registerType type ()).1 = .ok true := rfl
  obtain ⟨events, htraced, hanswered, heffect⟩ := registerType_effect r type ()
  obtain ⟨p, offers, hmade, -, hevents, -⟩ := heffect hregistered
  have hregistrar : p.registrar?.isSome = true := by
    obtain rfl := Except.ok.inj hmade
    rfl
  have hlog : (r.traced.registerType type ((), [])).2.2.2 =
      .asked type :: .began type :: offers.map .offered :=
    (congrArg (fun done => done.2.2.2) (htraced [])).trans (hevents hregistrar)
  have hlength : (r.traced.registerType type ((), [])).2.2.2.length = 5 := rfl
  refine ⟨hregistered, by decide, offers, ?_, hlog, ?_⟩
  · simpa [hlog] using hlength
  · intro offer hoffer
    refine hanswered offer ?_
    rw [hevents hregistrar]
    simp [hoffer]

end Registry

end Lifecycle
