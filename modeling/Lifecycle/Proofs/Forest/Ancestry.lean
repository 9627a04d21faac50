import Lifecycle.Proofs.Forest.Run
import Lifecycle.Proofs.Registry.Growth
/-!
# Ancestors in a forest

A registry carries its ancestors along.  In every run they are what the forest has under the names
of its ancestors: a registry is frozen once it has a child, so that the two never part.  What a
registry sees is therefore the beginning of what those below it see, now and in every later state.
-/

namespace Lifecycle

variable {σ : Type}

namespace Forest

/-! ## Registries stay -/

/-- A registry stays under its name, below the same parent, and only grows. -/
def Kept (f' : Forest σ) (name : String) (node : ForestNode σ) : Prop :=
  ∃ later, f'.get name = .ok later ∧ later.parent? = node.parent? ∧
    Registry.Grows node.registry later.registry

theorem Change.keeps {f f' : Forest σ} (h : Change f f') {name : String} {node : ForestNode σ}
    (hget : f.get name = .ok node) : f'.Kept name node := by
  cases h with
  | nothing => exact ⟨node, hget, rfl, .refl⟩
  | @asked asked old request s hopen =>
      have hold := (getOpen_eq_ok_iff.mp hopen).1
      by_cases hname : name = asked
      · subst hname
        obtain rfl : old = node := Except.ok.inj (hold.symm.trans hget)
        exact ⟨_, get_replace_self hold _, rfl, request.grows_on old.registry s⟩
      · exact ⟨node, (get_replace_of_ne hname _).trans hget, rfl, .refl⟩
  | addedRoot hfree _ => exact ⟨node, (get_add_eq_ok_iff hfree).mpr (.inl hget), rfl, .refl⟩
  | addedChild hfree _ _ => exact ⟨node, (get_add_eq_ok_iff hfree).mpr (.inl hget), rfl, .refl⟩

theorem Run.keeps {f f' : Forest σ} (h : Run f f') {name : String} {node : ForestNode σ}
    (hget : f.get name = .ok node) : f'.Kept name node := by
  induction h with
  | start => exact ⟨node, hget, rfl, .refl⟩
  | perform op s _ ih =>
      obtain ⟨later, hlater, hparent, hgrows⟩ := ih
      obtain ⟨last, hlast, hparent', hgrows'⟩ := (change_perform _ op s).keeps hlater
      exact ⟨last, hlast, hparent'.trans hparent, hgrows.trans hgrows'⟩

/-! ## Names and parents -/

/-- Names are used once, and each registry is on top of its parent as the forest has it. -/
structure Coherent (f : Forest σ) : Prop where
  names : (f.nodes.map (·.1)).Nodup
  root : ∀ {name : String} {node : ForestNode σ}, f.get name = .ok node → node.parent? = none →
    node.registry.parent? = none
  child : ∀ {name parent : String} {node : ForestNode σ}, f.get name = .ok node →
    node.parent? = some parent →
    ∃ above, f.get parent = .ok above ∧ node.registry.parent? = some above.registry

theorem coherent_empty : Coherent ({} : Forest σ) where
  names := List.nodup_nil
  root := fun h => by simp [get] at h
  child := fun h => by simp [get] at h

theorem names_replace (f : Forest σ) (name : String) (r : Registry σ) :
    (f.replace name r).nodes.map (·.1) = f.nodes.map (·.1) := by
  rw [replace, List.map_map]
  apply List.map_congr_left
  rintro ⟨n, node⟩ _
  by_cases hname : n = name
  · simp [hname]
  · simp [hname]

theorem names_add_nodup {f : Forest σ} {name : String} {parent? : Option String} {r : Registry σ}
    (hnames : (f.nodes.map (·.1)).Nodup) (hfree : f.checkFree name = .ok ()) :
    ((f.add name parent? r).nodes.map (·.1)).Nodup := by
  rw [add, List.map_append, List.nodup_append]
  refine ⟨hnames, by simp, ?_⟩
  intro other hother n hn hsame
  obtain ⟨⟨_, node⟩, hmem, rfl⟩ := List.mem_map.mp hother
  obtain rfl : n = name := by simpa using hn
  have hne := List.lookup_eq_none_iff.mp (checkFree_eq_ok_iff.mp hfree) _ hmem
  exact bne_iff_ne.mp hne hsame.symm

/-- Asking an open registry leaves the forest coherent: nothing else is on top of it. -/
theorem Coherent.replace {f : Forest σ} (h : f.Coherent) {name : String} {old : ForestNode σ}
    (hopen : f.getOpen name = .ok old) {r : Registry σ} (hgrows : Registry.Grows old.registry r) :
    (f.replace name r).Coherent := by
  obtain ⟨hold, hfrozen⟩ := getOpen_eq_ok_iff.mp hopen
  have hbefore : ∀ {other : String} {node : ForestNode σ},
      (f.replace name r).get other = .ok node → ∃ before, f.get other = .ok before ∧
        before.parent? = node.parent? ∧ node.registry.parent? = before.registry.parent? := by
    intro other node hget
    rcases (get_replace_eq_ok_iff hold).mp hget with ⟨-, hother⟩ | ⟨rfl, rfl⟩
    · exact ⟨node, hother, rfl, rfl⟩
    · exact ⟨old, hold, rfl, hgrows.parent?_eq⟩
  refine ⟨?_, ?_, ?_⟩
  · rw [names_replace]
    exact h.names
  · intro other node hget hroot
    obtain ⟨before, hfound, hparent, hregistry⟩ := hbefore hget
    rw [hregistry]
    exact h.root hfound (hparent.trans hroot)
  · intro other parent node hget hchild
    obtain ⟨before, hfound, hparent, hregistry⟩ := hbefore hget
    obtain ⟨above, habove, hbelow⟩ := h.child hfound (hparent.trans hchild)
    -- the parent of anything is frozen, so it is not the one that was asked
    have hne : parent ≠ name := by
      rintro rfl
      exact parent?_ne_of_not_frozen hfrozen hfound (hparent.trans hchild)
    exact ⟨above, (get_replace_of_ne hne r).trans habove, hregistry.trans hbelow⟩

theorem Coherent.add {f : Forest σ} (h : f.Coherent) {name : String} {parent? : Option String}
    {r : Registry σ} (hfree : f.checkFree name = .ok ())
    (hroot : parent? = none → r.parent? = none)
    (hchild : ∀ parent, parent? = some parent →
      ∃ above, f.get parent = .ok above ∧ r.parent? = some above.registry) :
    (f.add name parent? r).Coherent := by
  have hstays : ∀ {other : String} {node : ForestNode σ}, f.get other = .ok node →
      (f.add name parent? r).get other = .ok node :=
    fun hget => (get_add_eq_ok_iff hfree).mpr (.inl hget)
  refine ⟨names_add_nodup h.names hfree, ?_, ?_⟩
  · intro other node hget hnone
    rcases (get_add_eq_ok_iff hfree).mp hget with hold | ⟨-, rfl⟩
    · exact h.root hold hnone
    · exact hroot hnone
  · intro other parent node hget hparent
    rcases (get_add_eq_ok_iff hfree).mp hget with hold | ⟨-, rfl⟩
    · obtain ⟨above, habove, hbelow⟩ := h.child hold hparent
      exact ⟨above, hstays habove, hbelow⟩
    · obtain ⟨above, habove, hbelow⟩ := hchild parent hparent
      exact ⟨above, hstays habove, hbelow⟩

theorem Change.coherent {f f' : Forest σ} (h : Change f f') (hf : f.Coherent) : f'.Coherent := by
  cases h with
  | nothing => exact hf
  | asked request s hopen => exact hf.replace hopen (request.grows_on _ s)
  | addedRoot hfree hbuilt =>
      refine hf.add hfree (fun _ => (Registry.grows_root hbuilt).parent?_eq) ?_
      intro parent hparent
      cases hparent
  | @addedChild name parent node id _ _ _ hfree hparent hbuilt =>
      refine hf.add hfree nofun ?_
      intro other hother
      obtain rfl := Option.some.inj hother
      have honTop : (node.registry.nested id).parent? = some node.registry :=
        Registry.parent?_nested node.registry id
      exact ⟨node, hparent, (Registry.grows_child hbuilt).parent?_eq.trans honTop⟩

theorem Run.keeps_coherent {f f' : Forest σ} (h : Run f f') (hf : f.Coherent) : f'.Coherent := by
  induction h with
  | start => exact hf
  | perform op s _ ih => exact (change_perform _ op s).coherent ih

/-- **In every run the ancestors that a registry carries along are those that the forest has.** -/
theorem Run.coherent {f : Forest σ} (h : Run {} f) : f.Coherent :=
  h.keeps_coherent coherent_empty

theorem Change.reachable {f f' : Forest σ} (h : Change f f')
    (hf : ∀ {name : String} {node : ForestNode σ}, f.get name = .ok node → node.registry.Reachable)
    {name : String} {node : ForestNode σ} (hget : f'.get name = .ok node) :
    node.registry.Reachable := by
  cases h with
  | nothing => exact hf hget
  | asked request s hopen =>
      have hold := (getOpen_eq_ok_iff.mp hopen).1
      rcases (get_replace_eq_ok_iff hold).mp hget with ⟨-, hother⟩ | ⟨rfl, rfl⟩
      · exact hf hother
      · exact request.reachable_on (hf hold) s
  | addedRoot hfree hbuilt =>
      rcases (get_add_eq_ok_iff hfree).mp hget with hold | ⟨-, rfl⟩
      · exact hf hold
      · exact .root hbuilt
  | addedChild hfree hparent hbuilt =>
      rcases (get_add_eq_ok_iff hfree).mp hget with hold | ⟨-, rfl⟩
      · exact hf hold
      · exact .child (hf hparent) hbuilt

/-- The registries of a run are those that a host can come to hold. -/
theorem Run.reachable {f : Forest σ} (h : Run {} f) {name : String} {node : ForestNode σ}
    (hget : f.get name = .ok node) : node.registry.Reachable := by
  induction h generalizing name node with
  | start => simp [get] at hget
  | perform op s _ ih => exact (change_perform _ op s).reachable ih hget

/-! ## Above and below -/

/-- A name is above another one if it is that name or above the name of its parent. -/
inductive Above (f : Forest σ) (name : String) : String → Prop where
  | self : Above f name name
  | child {parent below : String} {node : ForestNode σ} : Above f name parent →
      f.get below = .ok node → node.parent? = some parent → Above f name below

theorem Above.begins {f : Forest σ} (hf : f.Coherent) {name below : String}
    (h : f.Above name below) {node lower : ForestNode σ} (hget : f.get name = .ok node)
    (hbelow : f.get below = .ok lower) : node.registry.Begins lower.registry := by
  -- up the parent links: each registry is on top of its parent as the forest has it
  induction h generalizing lower with
  | self =>
      obtain rfl : node = lower := Except.ok.inj (hget.symm.trans hbelow)
      exact .refl node.registry
  | child _ hchild hparent ih =>
      obtain rfl := Except.ok.inj (hchild.symm.trans hbelow)
      obtain ⟨above, habove, honTop⟩ := hf.child hbelow hparent
      exact (ih habove).trans (Registry.begins_of_parent? honTop)

theorem Run.begins {f f' : Forest σ} (hf : Run {} f) (hrun : Run f f') {name below : String}
    {node lower : ForestNode σ} (hget : f.get name = .ok node) (habove : f'.Above name below)
    (hbelow : f'.get below = .ok lower) : node.registry.Begins lower.registry := by
  obtain ⟨later, hlater, -, hgrows⟩ := hrun.keeps hget
  exact hgrows.begins.trans (habove.begins (hf.trans hrun).coherent hlater hbelow)

end Forest

end Lifecycle
