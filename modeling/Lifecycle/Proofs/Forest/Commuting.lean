import Lifecycle.Proofs.Forest.Siblings
import Lifecycle.Proofs.Registry.Resemblance
/-!
# Independent registrations commute

Two registrations of different ranks, or with no phase in common, may be made in either order.  The
forests that come of it resemble each other, name by name; this is kept by all that a host can do
afterwards, and forests that resemble each other are looked up alike under every name.
-/

namespace Lifecycle

variable {σ : Type}

structure ForestNode.Resembles (node node' : ForestNode σ) : Prop where
  parent : node.parent? = node'.parent?
  registry : node.registry.Resembles node'.registry

theorem ForestNode.Resembles.refl (node : ForestNode σ) : node.Resembles node :=
  ⟨rfl, .refl node.registry⟩

namespace Forest

/-- The forests have the same names in the same order, with registries that resemble each other. -/
def Resembles (f f' : Forest σ) : Prop :=
  List.Forall₂ (fun entry entry' => entry.1 = entry'.1 ∧ entry.2.Resembles entry'.2)
    f.nodes f'.nodes

theorem Resembles.refl (f : Forest σ) : f.Resembles f :=
  List.forall₂_same.mpr fun entry _ => ⟨rfl, .refl entry.2⟩

/-! ## Finding registries -/

theorem Resembles.get {f f' : Forest σ} (h : f.Resembles f') (name : String) :
    AlikeResults ForestNode.Resembles (f.get name) (f'.get name) := by
  obtain ⟨nodes⟩ := f
  obtain ⟨nodes'⟩ := f'
  simp only [Resembles] at h
  simp only [Forest.get]
  induction h with
  | nil => exact .error Fault.noNode
  | @cons entry entry' rest rest' hentry _ ih =>
      obtain ⟨n, node⟩ := entry
      obtain ⟨n', node'⟩ := entry'
      obtain ⟨rfl, hnode⟩ := hentry
      cases hname : name == n with
      | true =>
          simp only [List.lookup_cons, hname]
          exact .ok hnode
      | false =>
          simp only [List.lookup_cons, hname]
          exact ih

theorem Resembles.isFrozen_eq {f f' : Forest σ} (h : f.Resembles f') (name : String) :
    f.isFrozen name = f'.isFrozen name := by
  obtain ⟨nodes⟩ := f
  obtain ⟨nodes'⟩ := f'
  simp only [Resembles] at h
  simp only [isFrozen]
  induction h with
  | nil => rfl
  | cons hentry _ ih => rw [List.any_cons, List.any_cons, hentry.2.parent, ih]

theorem Resembles.getOpen {f f' : Forest σ} (h : f.Resembles f') (name : String) :
    AlikeResults ForestNode.Resembles (f.getOpen name) (f'.getOpen name) := by
  unfold Forest.getOpen
  rw [h.isFrozen_eq]
  have hget := h.get name
  generalize f.get name = found, f'.get name = found' at hget ⊢
  cases hget with
  | error fault => exact .error fault
  | ok hnode =>
      cases f'.isFrozen name with
      | true => exact .error Fault.frozen
      | false => exact .ok hnode

theorem Resembles.checkFree_eq {f f' : Forest σ} (h : f.Resembles f') (name : String) :
    f.checkFree name = f'.checkFree name := by
  have hget := h.get name
  unfold Forest.get at hget
  unfold checkFree
  cases hfound : f.nodes.lookup name with
  | none =>
      cases hfound' : f'.nodes.lookup name with
      | none => rfl
      | some node' =>
          rw [hfound, hfound'] at hget
          cases hget
  | some node =>
      cases hfound' : f'.nodes.lookup name with
      | none =>
          rw [hfound, hfound'] at hget
          cases hget
      | some node' => rfl

theorem Resembles.nextId_eq {f f' : Forest σ} (h : f.Resembles f') : f.nextId = f'.nextId := by
  rw [nextId, nextId, List.Forall₂.length_eq h]

/-! ## Changing registries -/

theorem Resembles.replace {f f' : Forest σ} (h : f.Resembles f') (name : String)
    {r r' : Registry σ} (hr : r.Resembles r') :
    (f.replace name r).Resembles (f'.replace name r') := by
  unfold Resembles Forest.replace
  refine List.rel_map ?_ h
  rintro ⟨n, node⟩ ⟨n', node'⟩ ⟨hname, hnode⟩
  obtain rfl : n = n' := hname
  dsimp only
  by_cases hn : n = name
  · rw [if_pos hn, if_pos hn]
    exact ⟨rfl, hnode.parent, hr⟩
  · rw [if_neg hn, if_neg hn]
    exact ⟨rfl, hnode⟩

theorem Resembles.add {f f' : Forest σ} (h : f.Resembles f') (name : String)
    (parent? : Option String) {r r' : Registry σ} (hr : r.Resembles r') :
    (f.add name parent? r).Resembles (f'.add name parent? r') :=
  List.rel_append h (.cons ⟨rfl, rfl, hr⟩ .nil)

theorem Resembles.ask {f f' : Forest σ} (h : f.Resembles f') (name : String)
    (request : Registering σ) (s : σ) :
    (f.ask name request s).1 = (f'.ask name request s).1 ∧
      (f.ask name request s).2.1.Resembles (f'.ask name request s).2.1 ∧
      (f.ask name request s).2.2 = (f'.ask name request s).2.2 := by
  have hopen := h.getOpen name
  cases request with
  | byType type =>
      simp only [Forest.ask, registerType]
      generalize f.getOpen name = found, f'.getOpen name = found' at hopen ⊢
      cases hopen with
      | error fault => exact ⟨rfl, h, rfl⟩
      | ok hnode =>
          obtain ⟨houtcome, hregistry, hworld⟩ := hnode.registry.registerType type s
          exact ⟨congrArg Except.ok houtcome, h.replace name hregistry, hworld⟩
  | direct extension origin position =>
      simp only [Forest.ask, register]
      generalize f.getOpen name = found, f'.getOpen name = found' at hopen ⊢
      cases hopen with
      | error fault => exact ⟨rfl, h, rfl⟩
      | @ok node node' hnode =>
          simp only [Registry.register_eq, hnode.registry.rules]
          cases node'.registry.rules.rejecting? extension.capabilities position with
          | some phase => exact ⟨rfl, h, rfl⟩
          | none => exact ⟨rfl, h.replace name (hnode.registry.extend (.refl _)), rfl⟩

theorem Resembles.perform {f f' : Forest σ} (h : f.Resembles f') (op : Operation σ) (s : σ) :
    (op.perform f s).Resembles (op.perform f' s) := by
  cases op with
  | ask name request => exact (h.ask name request s).2.1
  | addRoot name rules factory types =>
      simp only [Operation.perform, addRoot, h.checkFree_eq, h.nextId_eq]
      cases f'.checkFree name with
      | error fault => exact h
      | ok _ =>
          obtain ⟨outcome, w⟩ := Registry.root f'.nextId rules factory types s
          cases outcome with
          | ok r => exact h.add name none (.refl r)
          | error e => exact h
  | addChild name parent types =>
      simp only [Operation.perform, addChild, h.checkFree_eq, h.nextId_eq]
      cases f'.checkFree name with
      | error fault => exact h
      | ok _ =>
          have hparent := h.get parent
          generalize f.get parent = found, f'.get parent = found' at hparent ⊢
          cases hparent with
          | error fault => exact h
          | @ok node node' hnode =>
              obtain ⟨hbuilt, -⟩ := hnode.registry.child f'.nextId types s
              simp only
              generalize node.registry.child f'.nextId types s = built,
                node'.registry.child f'.nextId types s = built' at hbuilt ⊢
              obtain ⟨outcome, w⟩ := built
              obtain ⟨outcome', w'⟩ := built'
              cases hbuilt with
              | error e => exact h
              | ok hr => exact h.add name (some parent) hr

/-- Performs operations one after another, each in a world of its own. -/
def performAll (f : Forest σ) : List (Operation σ × σ) → Forest σ
  | [] => f
  | (op, s) :: rest => (op.perform f s).performAll rest

theorem Resembles.performAll {f f' : Forest σ} (h : f.Resembles f')
    (operations : List (Operation σ × σ)) :
    (f.performAll operations).Resembles (f'.performAll operations) := by
  induction operations generalizing f f' with
  | nil => exact h
  | cons first rest ih => exact ih (h.perform first.1 first.2)

theorem Resembles.askAll {f f' : Forest σ} (h : f.Resembles f')
    (requests : List (String × Registering σ)) (s : σ) :
    (f.askAll requests s).1 = (f'.askAll requests s).1 ∧
      (f.askAll requests s).2.1.Resembles (f'.askAll requests s).2.1 ∧
      (f.askAll requests s).2.2 = (f'.askAll requests s).2.2 := by
  induction requests generalizing f f' s with
  | nil => exact ⟨rfl, h, rfl⟩
  | cons first rest ih =>
      obtain ⟨name, request⟩ := first
      obtain ⟨hanswer, hforest, hworld⟩ := h.ask name request s
      obtain ⟨hanswers, hends⟩ := ih hforest (f.ask name request s).2.2
      rw [hworld] at hanswers hends
      simp only [Forest.askAll, hanswer, hworld]
      exact ⟨congrArg _ hanswers, hends⟩

/-! ## Exchanging two requests -/

theorem askAll_append (f : Forest σ) (first second : List (String × Registering σ)) (s : σ) :
    f.askAll (first ++ second) s =
      let begun := f.askAll first s
      let ended := begun.2.1.askAll second begun.2.2
      (begun.1 ++ ended.1, ended.2) := by
  induction first generalizing f s with
  | nil => rfl
  | cons request rest ih =>
      obtain ⟨name, request⟩ := request
      simp only [List.cons_append, askAll, ih]

theorem replace_replace (f : Forest σ) (name : String) (r r' : Registry σ) :
    (f.replace name r).replace name r' = f.replace name r' := by
  unfold replace
  rw [List.map_map]
  congr 2
  funext ⟨n, node⟩
  by_cases hname : n = name
  · simp [hname]
  · simp [hname]

theorem getOpen_replace_self {f : Forest σ} {name : String} {node : ForestNode σ}
    (h : f.getOpen name = .ok node) (r : Registry σ) :
    (f.replace name r).getOpen name = .ok { node with registry := r } := by
  obtain ⟨hget, hfrozen⟩ := getOpen_eq_ok_iff.mp h
  rw [getOpen_eq_ok_iff, isFrozen_replace]
  exact ⟨get_replace_self hget r, hfrozen⟩

end Forest

def Registration.request (entry : Registration σ) : Registering σ :=
  .direct entry.extension entry.origin entry.position

namespace Forest

theorem ask_request_of_allowed {f : Forest σ} {name : String} {node : ForestNode σ}
    {entry : Registration σ} (hopen : f.getOpen name = .ok node)
    (hallowed : node.registry.rules.rejecting? entry.extension.capabilities entry.position = none)
    (s : σ) :
    f.ask name entry.request s =
      (.ok (.ok true), f.replace name (node.registry.extend [entry]), s) := by
  simp only [Registration.request, ask, register, hopen, Registry.register_eq, hallowed]
  rfl

theorem ask_request_of_rejected {f : Forest σ} {name : String} {node : ForestNode σ}
    {entry : Registration σ} {phase : Phase} (hopen : f.getOpen name = .ok node)
    (hrejected : node.registry.rules.rejecting? entry.extension.capabilities entry.position =
      some phase) (s : σ) :
    f.ask name entry.request s =
      (.ok (.error (.disallowedPosition entry.position phase entry.origin.display)), f, s) := by
  simp only [Registration.request, ask, register, hopen, Registry.register_eq, hrejected]
  rfl

/-- Exchanging two independent requests exchanges the answers, and what comes of it resembles what
came of it before. -/
theorem exchange_requests (f : Forest σ) (name : String) {a b : Registration σ}
    (h : a.Independent b) (s : σ) :
    ∃ x y g g', f.askAll [(name, a.request), (name, b.request)] s = ([(name, x), (name, y)], g, s) ∧
      f.askAll [(name, b.request), (name, a.request)] s = ([(name, y), (name, x)], g', s) ∧
      g.Resembles g' := by
  cases hopen : f.getOpen name with
  | error fault =>
      simp only [askAll, ask_of_not_open hopen]
      exact ⟨_, _, _, _, rfl, rfl, .refl f⟩
  | ok node =>
      -- a refused request leaves the forest as it is, so that only two that are granted meet
      have hreplaced := fun r => getOpen_replace_self hopen r
      cases ha : node.registry.rules.rejecting? a.extension.capabilities a.position with
      | some phase =>
          cases hb : node.registry.rules.rejecting? b.extension.capabilities b.position with
          | some phase' =>
              simp only [askAll, ask_request_of_rejected hopen ha, ask_request_of_rejected hopen hb]
              exact ⟨_, _, _, _, rfl, rfl, .refl f⟩
          | none =>
              have hafter := ask_request_of_rejected (hreplaced (node.registry.extend [b])) ha s
              simp only [askAll, ask_request_of_rejected hopen ha, ask_request_of_allowed hopen hb,
                hafter]
              exact ⟨_, _, _, _, rfl, rfl, .refl _⟩
      | none =>
          cases hb : node.registry.rules.rejecting? b.extension.capabilities b.position with
          | some phase' =>
              have hafter := ask_request_of_rejected (hreplaced (node.registry.extend [a])) hb s
              simp only [askAll, ask_request_of_allowed hopen ha, ask_request_of_rejected hopen hb,
                hafter]
              exact ⟨_, _, _, _, rfl, rfl, .refl _⟩
          | none =>
              have hab := ask_request_of_allowed (hreplaced (node.registry.extend [a])) hb s
              have hba := ask_request_of_allowed (hreplaced (node.registry.extend [b])) ha s
              have hregistry := (Registry.Resembles.refl node.registry).extend h.sameByPhase
              simp only [askAll, ask_request_of_allowed hopen ha, ask_request_of_allowed hopen hb,
                hab, hba, replace_replace, Registry.extend_extend, List.singleton_append]
              exact ⟨_, _, _, _, rfl, rfl, (Resembles.refl f).replace name hregistry⟩

/-- **Independent registrations commute.**  Let requests be made to one registry, two adjacent ones
of them for registrations of different ranks, or for such as have no phase in common.  If these two
are exchanged, so are their answers, and all other answers are the same; and whatever the host does
to the forest afterwards, each registry, be it the one that was asked, one below it or any other, is
there in both cases or in neither, and every phase is looked up in it with the same result or the
same conflict. -/
theorem independent_registrations_commute (f : Forest σ) (name : String) {a b : Registration σ}
    (hindependent : a.Independent b) (before after : List (Registering σ))
    (later : List (Operation σ × σ)) (s : σ) :
    let asked := fun requests : List (Registering σ) =>
      f.askAll (requests.map fun request => (name, request)) s
    let one := asked (before ++ a.request :: b.request :: after)
    let other := asked (before ++ b.request :: a.request :: after)
    (∃ first x y last, first.length = before.length ∧
      one.1.map (·.2) = first ++ x :: y :: last ∧ other.1.map (·.2) = first ++ y :: x :: last) ∧
    one.2.2 = other.2.2 ∧
    ∀ below phase,
      ((one.2.1.performAll later).get below).map (fun node => node.registry.lookupEntries phase) =
        ((other.2.1.performAll later).get below).map
          fun node => node.registry.lookupEntries phase := by
  intro asked one other
  let named := fun requests : List (Registering σ) => requests.map fun request => (name, request)
  let begun := f.askAll (named before) s
  obtain ⟨x, y, g, g', hone, hother, hresembles⟩ :=
    exchange_requests begun.2.1 name hindependent begun.2.2
  obtain ⟨hanswers, hends, hworld⟩ := hresembles.askAll (named after) begun.2.2
  -- the requests before, the two that are exchanged, and those after
  have hparts : ∀ c d : Registration σ, asked (before ++ c.request :: d.request :: after) =
      f.askAll (named before ++ ([(name, c.request), (name, d.request)] ++ named after)) s := by
    intro c d
    simp only [asked, named, List.map_append, List.map_cons, List.cons_append, List.nil_append]
  have hone' : one = (begun.1 ++ ([(name, x), (name, y)] ++ (g.askAll (named after) begun.2.2).1),
      (g.askAll (named after) begun.2.2).2) := by
    simp only [one, hparts, askAll_append, begun, hone]
  have hother' : other =
      (begun.1 ++ ([(name, y), (name, x)] ++ (g'.askAll (named after) begun.2.2).1),
        (g'.askAll (named after) begun.2.2).2) := by
    simp only [other, hparts, askAll_append, begun, hother]
  rw [hone', hother']
  refine ⟨?_, hworld, ?_⟩
  · refine ⟨begun.1.map (·.2), x, y, (g.askAll (named after) begun.2.2).1.map (·.2), ?_, ?_, ?_⟩
    · have hnames := congrArg List.length (names_askAll f (named before) s)
      simpa [named, begun] using hnames
    · simp
    · simp [hanswers]
  · intro below phase
    exact ((hends.performAll later).get below).map_eq fun _ _ hnode =>
      hnode.registry.lookupEntries_eq phase

/-- A clock and a fixture are registered in a suite in either order, before a timer that contests
the position of the clock in one phase of two.  A leaf that is built below sees the same conflict in
that phase, and the same order in the other one. -/
theorem clock_and_fixture_exchanged :
    let entry (name : String) (phases : PhaseSet) (position : Position) : Registration Unit :=
      ⟨⟨name, phases, Callback.idle⟩, .programmatic name, position⟩
    let clock := entry "clock" .each .outermost
    let fixture := entry "fixture" .each .default
    let timer := entry "timer" Phase.beforeEach.toSet .outermost
    let data := entry "data" .each .default
    let suite := Registry.bare (ScopeId.numbered 0) PhaseRules.builtin Constructors.empty.toFactory
    let f : Forest Unit := ⟨[("suite", ⟨none, suite⟩)]⟩
    let later : List (Operation Unit × Unit) :=
      [(.addChild "leaf" "suite" [], ()), (.ask "leaf" data.request, ())]
    let leafAfter (first second : Registration Unit) : Except Fault (ForestNode Unit) :=
      ((f.askAll (([] ++ first.request :: second.request :: [timer.request]).map fun request =>
        ("suite", request)) ()).2.1.performAll later).get "leaf"
    let leaf := ((suite.extend [fixture, clock, timer]).nested (ScopeId.numbered 1)).extend [data]
    clock.Independent fixture ∧ leafAfter fixture clock = .ok ⟨some "suite", leaf⟩ ∧
      leaf.lookupEntries .beforeEach = .error (.positionConflict .outermost .beforeEach
        ["programmatic clock", "programmatic timer"]) ∧
      (∃ entries, leaf.lookupEntries .afterEach = .ok entries ∧
        entries.map (·.extension.name) = ["data", "fixture", "clock"]) ∧
      ∀ phase, (leafAfter clock fixture).map (fun node => node.registry.lookupEntries phase) =
        .ok (leaf.lookupEntries phase) := by
  intro entry clock fixture timer data suite f later leafAfter leaf
  have hindependent : clock.Independent fixture := .inl (by decide)
  have hleaf : leafAfter fixture clock = .ok ⟨some "suite", leaf⟩ := by
    dsimp only [leafAfter, later, leaf, f, suite, timer, data, clock, fixture, entry]
    rfl
  obtain ⟨-, -, halike⟩ :=
    independent_registrations_commute f "suite" hindependent [] [timer.request] later ()
  have hcontested : Contested (leaf.participants .beforeEach) .outermost := by
    unfold Contested
    decide
  have hconflict : conflictAt (leaf.participants .beforeEach) .beforeEach .outermost =
      .positionConflict .outermost .beforeEach ["programmatic clock", "programmatic timer"] :=
    congrArg (Error.positionConflict .outermost .beforeEach) (by decide)
  have happlied : leaf.lookupEntries .afterEach =
      .ok (Direction.backward.arrange (leaf.participants .afterEach)) :=
    Registry.lookupEntries_eq_ok_iff.mpr ⟨by unfold Contested; decide, rfl⟩
  refine ⟨hindependent, hleaf, ?_, ⟨_, happlied, by decide⟩, ?_⟩
  · exact Registry.lookupEntries_eq_error_iff.mpr
      ⟨[], .outermost, _, rfl, hcontested, nofun, hconflict.symm⟩
  · intro phase
    exact (halike "leaf" phase).trans (congrArg (Except.map _) hleaf)

end Forest

end Lifecycle
