import Lifecycle.Proofs.Forest.Ancestry
import Lifecycle.Proofs.Registry.Steady
/-!
# Siblings do not interfere

Requests to one registry of a forest are answered from that registry alone.  So requests to two
registries may be made in any order: each answer, and each registry in the end, is what it would be
without the requests to the other one.
-/

namespace Lifecycle

variable {σ : Type}

theorem Registering.on_steady (request : Registering σ) {r : Registry σ} (h : r.factory.Steady)
    (s w : σ) :
    (request.on r s).1 = (request.on r w).1 ∧ (request.on r s).2.1 = (request.on r w).2.1 := by
  cases request with
  | byType type => exact Registry.registerType_steady h type s w
  | direct extension origin position =>
      simp only [on]
      cases r.register extension origin position <;> exact ⟨rfl, rfl⟩

/-- Items for one name and items for another one, each in their order, under their names. -/
inductive Interleaved {α : Type} (left right : String) :
    List α → List α → List (String × α) → Prop where
  | nil : Interleaved left right [] [] []
  | left {x : α} {xs ys : List α} {zs : List (String × α)} :
      Interleaved left right xs ys zs → Interleaved left right (x :: xs) ys ((left, x) :: zs)
  | right {y : α} {xs ys : List α} {zs : List (String × α)} :
      Interleaved left right xs ys zs → Interleaved left right xs (y :: ys) ((right, y) :: zs)

namespace Forest

/-- Makes requests to registries in order: the answers under the names of those that were asked,
with the forest and the world in the end. -/
def askAll (f : Forest σ) (requests : List (String × Registering σ)) (s : σ) :
    List (String × Answer) × Forest σ × σ :=
  match requests with
  | [] => ([], f, s)
  | (name, request) :: rest =>
      let first := f.ask name request s
      let others := first.2.1.askAll rest first.2.2
      ((name, first.1) :: others.1, others.2)

def Steady (f : Forest σ) : Prop :=
  ∀ name node, f.get name = .ok node → node.registry.factory.Steady

/-- Two forests have the same under a name, and it is open in both or in neither. -/
def Alike (name : String) (f g : Forest σ) : Prop :=
  f.get name = g.get name ∧ f.isFrozen name = g.isFrozen name

theorem Alike.getOpen_eq {name : String} {f g : Forest σ} (h : Alike name f g) :
    f.getOpen name = g.getOpen name := by
  unfold getOpen
  rw [h.1, h.2]

/-! ## One request -/

theorem isFrozen_replace (f : Forest σ) (name other : String) (r : Registry σ) :
    (f.replace name r).isFrozen other = f.isFrozen other := by
  unfold isFrozen replace
  rw [List.any_map]
  congr 1
  funext entry
  obtain ⟨n, node⟩ := entry
  by_cases hname : n = name
  · simp [hname]
  · simp [hname]

theorem isFrozen_ask (f : Forest σ) (name other : String) (request : Registering σ) (s : σ) :
    (f.ask name request s).2.1.isFrozen other = f.isFrozen other := by
  cases hopen : f.getOpen name with
  | error fault => rw [ask_of_not_open hopen]
  | ok node =>
      obtain ⟨f', hask, rfl | ⟨rfl, -⟩⟩ := ask_of_open hopen request s
      · rw [hask]
        exact isFrozen_replace f name other _
      · rw [hask]

theorem get_ask_of_ne (f : Forest σ) {name other : String} (hne : other ≠ name)
    (request : Registering σ) (s : σ) : (f.ask name request s).2.1.get other = f.get other := by
  cases hopen : f.getOpen name with
  | error fault => rw [ask_of_not_open hopen]
  | ok node =>
      obtain ⟨f', hask, rfl | ⟨rfl, -⟩⟩ := ask_of_open hopen request s
      · rw [hask]
        exact get_replace_of_ne hne _
      · rw [hask]

theorem get_ask_self {f : Forest σ} {name : String} {node : ForestNode σ}
    (hopen : f.getOpen name = .ok node) (request : Registering σ) (s : σ) :
    (f.ask name request s).2.1.get name =
      .ok { node with registry := (request.on node.registry s).2.1 } := by
  have hget := (getOpen_eq_ok_iff.mp hopen).1
  obtain ⟨f', hask, rfl | ⟨rfl, hsame⟩⟩ := ask_of_open hopen request s
  · rw [hask]
    exact get_replace_self hget _
  · rw [hask, hsame]
    exact hget

theorem Alike.ask_elsewhere {f g : Forest σ} {name other : String} (h : Alike other f g)
    (hne : other ≠ name) (request : Registering σ) (s : σ) :
    Alike other (f.ask name request s).2.1 g :=
  ⟨(get_ask_of_ne f hne request s).trans h.1, (isFrozen_ask f name other request s).trans h.2⟩

theorem Alike.ask {f g : Forest σ} {name : String} (h : Alike name f g) (hsteady : f.Steady)
    (request : Registering σ) (s w : σ) :
    (f.ask name request s).1 = (g.ask name request w).1 ∧
      Alike name (f.ask name request s).2.1 (g.ask name request w).2.1 := by
  have hfrozen : (f.ask name request s).2.1.isFrozen name =
      (g.ask name request w).2.1.isFrozen name := by
    rw [isFrozen_ask, isFrozen_ask]
    exact h.2
  cases hopen : f.getOpen name with
  | error fault =>
      rw [ask_of_not_open hopen, ask_of_not_open (h.getOpen_eq ▸ hopen)]
      exact ⟨rfl, h⟩
  | ok node =>
      have hopen' : g.getOpen name = .ok node := h.getOpen_eq ▸ hopen
      obtain ⟨hanswer, hregistry⟩ :=
        request.on_steady (hsteady name node (getOpen_eq_ok_iff.mp hopen).1) s w
      refine ⟨?_, ?_, hfrozen⟩
      · obtain ⟨_, hask, -⟩ := ask_of_open hopen request s
        obtain ⟨_, hask', -⟩ := ask_of_open hopen' request w
        rw [hask, hask', hanswer]
      · rw [get_ask_self hopen, get_ask_self hopen', hregistry]

theorem Steady.ask {f : Forest σ} (h : f.Steady) (name : String) (request : Registering σ)
    (s : σ) : (f.ask name request s).2.1.Steady := by
  intro other node hget
  cases hopen : f.getOpen name with
  | error fault =>
      rw [ask_of_not_open hopen] at hget
      exact h other node hget
  | ok asked =>
      by_cases hname : other = name
      · subst hname
        rw [get_ask_self hopen] at hget
        obtain rfl := Except.ok.inj hget
        rw [(request.grows_on asked.registry s).factory_eq]
        exact h other asked (getOpen_eq_ok_iff.mp hopen).1
      · rw [get_ask_of_ne f hname] at hget
        exact h other node hget

/-! ## Many requests -/

theorem run_askAll (f : Forest σ) (requests : List (String × Registering σ)) (s : σ) :
    Run f (f.askAll requests s).2.1 := by
  induction requests generalizing f s with
  | nil => exact .start
  | cons first rest ih =>
      obtain ⟨name, request⟩ := first
      have hfirst : Run f (f.ask name request s).2.1 := .perform (.ask name request) s .start
      exact hfirst.trans (ih _ _)

theorem names_askAll (f : Forest σ) (requests : List (String × Registering σ)) (s : σ) :
    (f.askAll requests s).1.map (·.1) = requests.map (·.1) := by
  induction requests generalizing f s with
  | nil => rfl
  | cons first rest ih => exact congrArg (first.1 :: ·) (ih _ _)

theorem get_askAll_of_ne (f : Forest σ) {requests : List (String × Registering σ)} {other : String}
    (hne : ∀ request ∈ requests, other ≠ request.1) (s : σ) :
    (f.askAll requests s).2.1.get other = f.get other := by
  induction requests generalizing f s with
  | nil => rfl
  | cons first rest ih =>
      obtain ⟨name, request⟩ := first
      have hfirst := get_ask_of_ne f (hne _ List.mem_cons_self) request s
      exact (ih _ (fun r hr => hne r (List.mem_cons_of_mem _ hr)) _).trans hfirst

end Forest

theorem Interleaved.name_of_mem {α : Type} {left right : String} {xs ys : List α}
    {zs : List (String × α)} (h : Interleaved left right xs ys zs) {z : String × α} (hz : z ∈ zs) :
    z.1 = left ∨ z.1 = right := by
  induction h with
  | nil => cases hz
  | left _ ih =>
      rcases List.mem_cons.mp hz with rfl | hz
      · exact .inl rfl
      · exact ih hz
  | right _ ih =>
      rcases List.mem_cons.mp hz with rfl | hz
      · exact .inr rfl
      · exact ih hz

namespace Forest

/-- The requests are answered by three forests: one gets them all, and of the others, which are like
it under one of the names, each gets those for that name. -/
theorem Alike.askAll {left right : String} (hapart : left ≠ right)
    {forLeft forRight : List (Registering σ)} {requests : List (String × Registering σ)}
    (hrequests : Interleaved left right forLeft forRight requests) {f g h : Forest σ}
    (hsteady : f.Steady) (hleft : Alike left f g) (hright : Alike right f h) (s u v : σ) :
    Interleaved left right
        ((g.askAll (forLeft.map fun request => (left, request)) u).1.map (·.2))
        ((h.askAll (forRight.map fun request => (right, request)) v).1.map (·.2))
        (f.askAll requests s).1 ∧
      Alike left (f.askAll requests s).2.1
        (g.askAll (forLeft.map fun request => (left, request)) u).2.1 ∧
      Alike right (f.askAll requests s).2.1
        (h.askAll (forRight.map fun request => (right, request)) v).2.1 := by
  -- a request keeps the likeness under its own name, as it is made in both forests, and under the
  -- other name, where neither forest changes
  induction hrequests generalizing f g h s u v with
  | nil => exact ⟨.nil, hleft, hright⟩
  | @left request _ _ _ _ ih =>
      obtain ⟨hanswer, hleft'⟩ := hleft.ask hsteady request s u
      have hright' := hright.ask_elsewhere hapart.symm request s
      obtain ⟨hanswers, hends⟩ := ih (hsteady.ask left request s) hleft' hright'
        (f.ask left request s).2.2 (g.ask left request u).2.2 v
      refine ⟨?_, hends⟩
      simp only [Forest.askAll, List.map_cons, hanswer]
      exact .left hanswers
  | @right request _ _ _ _ ih =>
      obtain ⟨hanswer, hright'⟩ := hright.ask hsteady request s v
      have hleft' := hleft.ask_elsewhere hapart request s
      obtain ⟨hanswers, hends⟩ := ih (hsteady.ask right request s) hleft' hright'
        (f.ask right request s).2.2 u (h.ask right request v).2.2
      refine ⟨?_, hends⟩
      simp only [Forest.askAll, List.map_cons, hanswer]
      exact .right hanswers

/-- **Siblings do not interfere.**  Let requests be made to two registries of a forest, in any
interleaving.  Then each of them gives the answers, in the same order, that it gives if only its own
requests are made, and it ends the same; every other registry is left as it is, and the registries
still have for their ancestors what the forest has.  That neither of them is above the other one
need not be said: a registry with another one below it is frozen and refuses. -/
theorem siblings_do_not_interfere {f : Forest σ} (hsteady : f.Steady) {left right : String}
    (hapart : left ≠ right) {forLeft forRight : List (Registering σ)}
    {requests : List (String × Registering σ)}
    (hrequests : Interleaved left right forLeft forRight requests) (s u v : σ) :
    let both := f.askAll requests s
    let onLeft := f.askAll (forLeft.map fun request => (left, request)) u
    let onRight := f.askAll (forRight.map fun request => (right, request)) v
    both.1.map (·.1) = requests.map (·.1) ∧
      Interleaved left right (onLeft.1.map (·.2)) (onRight.1.map (·.2)) both.1 ∧
      both.2.1.get left = onLeft.2.1.get left ∧ both.2.1.get right = onRight.2.1.get right ∧
      (∀ other, other ≠ left → other ≠ right → both.2.1.get other = f.get other) ∧
      (f.Coherent → both.2.1.Coherent) := by
  intro both onLeft onRight
  obtain ⟨hanswers, hleft, hright⟩ := Alike.askAll hapart hrequests hsteady
    (g := f) (h := f) ⟨rfl, rfl⟩ ⟨rfl, rfl⟩ s u v
  refine ⟨names_askAll f requests s, hanswers, hleft.1, hright.1, ?_,
    (run_askAll f requests s).keeps_coherent⟩
  intro other hneLeft hneRight
  apply get_askAll_of_ne
  intro request hrequest
  rcases hrequests.name_of_mem hrequest with hname | hname
  · rwa [hname]
  · rwa [hname]

/-- Two children of one root register the same type in turns.  Each time the registrar is cut short
by a child that is refused, and each time it is tried again, because neither registry has the type. -/
theorem registrars_cut_short_apart :
    let children : List (Extension Nat × Position) :=
      [(⟨"open", Phase.beforeEach.toSet, Callback.idle⟩, .outermost),
        (⟨"check", Phase.testCondition.toSet, Callback.idle⟩, .innermost)]
    let factory : Factory Nat := ⟨fun _ made =>
      (.ok { name := "db", capabilities := ∅
             registrar? := some fun _ => Session.registerAll children }, made + 1)⟩
    let root := Registry.bare (ScopeId.numbered 0) PhaseRules.builtin factory
    let f : Forest Nat := ⟨[("root", ⟨none, root⟩),
      ("left", ⟨some "root", root.nested (ScopeId.numbered 1)⟩),
      ("right", ⟨some "root", root.nested (ScopeId.numbered 2)⟩)]⟩
    let again : Registering Nat := .byType ⟨"acme", "db"⟩
    let both := f.askAll [("left", again), ("right", again), ("left", again)] 0
    let onLeft := f.askAll [("left", again), ("left", again)] 0
    both.2.2 = 3 ∧ both.2.1.get "left" = onLeft.2.1.get "left" ∧
      both.2.1.get "root" = f.get "root" ∧
      (onLeft.2.1.get "left").toOption.map (·.registry.localSize) = some 2 := by
  intro children factory root f again both onLeft
  have hfactory : factory.Steady := by
    refine ⟨fun _ _ _ => rfl, ?_⟩
    intro type s w p session hmade hregistrar
    obtain rfl := Except.ok.inj (congrArg Prod.fst hmade)
    obtain rfl := Option.some.inj hregistrar
    exact Session.steady_registerAll children
  have hsteady : f.Steady := by
    intro name node hget
    have hmem : (name, node) ∈ f.nodes := mem_of_get hget
    simp only [f, List.mem_cons, Prod.mk.injEq, List.not_mem_nil, or_false] at hmem
    rcases hmem with ⟨-, rfl⟩ | ⟨-, rfl⟩ | ⟨-, rfl⟩ <;> exact hfactory
  have hrequests : Interleaved "left" "right" [again, again] [again]
      [("left", again), ("right", again), ("left", again)] :=
    .left (.right (.left .nil))
  obtain ⟨-, -, hleft, -, hothers, -⟩ :=
    siblings_do_not_interfere hsteady (by decide) hrequests 0 0 0
  exact ⟨by decide +kernel, hleft, hothers "root" (by decide) (by decide), by decide +kernel⟩

end Forest

end Lifecycle
