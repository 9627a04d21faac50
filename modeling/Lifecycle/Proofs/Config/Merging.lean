import Lifecycle.Config.Basic
import Mathlib.Data.List.Forall2
/-!
# Merging configurations

A layer gives those of its fields that differ from the defaults, and leaves the others as they are
below it.  So merging is associative, with the defaults for its neutral element, and many layers one
on another give each field as the last of them that gives it.
-/

namespace Lifecycle

/-! ## One field -/

/-- A field after a layer, in which the default counts as not given. -/
def overlay {α : Type} [DecidableEq α] (default below above : α) : α :=
  if above = default then below else above

section Overlay

variable {α : Type} [DecidableEq α]

theorem overlay_assoc (default a b c : α) :
    overlay default (overlay default a b) c = overlay default a (overlay default b c) := by
  unfold overlay
  by_cases hc : c = default
  · simp [hc]
  · simp [hc]

@[simp] theorem overlay_default (default a : α) : overlay default a default = a := by
  simp [overlay]

@[simp] theorem default_overlay (default a : α) : overlay default default a = a := by
  simp [overlay, eq_comm]

@[simp] theorem overlay_self (default a : α) : overlay default a a = a := by
  simp [overlay]

end Overlay

/-- The value is the one that the last layer with a value gives, or the one below all the layers if
none of them gives any. -/
def FromLast {δ α : Type} (gives : δ → α → Prop) (below : α) (layers : List δ) (a : α) : Prop :=
  (∃ earlier layer later, layers = earlier ++ layer :: later ∧ gives layer a ∧
      ∀ l ∈ later, ∀ b, ¬ gives l b) ∨
    (∀ l ∈ layers, ∀ b, ¬ gives l b) ∧ a = below

section FromLast

variable {δ α : Type} {gives : δ → α → Prop} {below a b : α} {layer : δ} {rest : List δ}

theorem FromLast.cons_of_gives (hgives : gives layer b) (h : FromLast gives b rest a) :
    FromLast gives below (layer :: rest) a := by
  rcases h with ⟨earlier, last, later, rfl, hlast, hlater⟩ | ⟨hnone, rfl⟩
  · exact .inl ⟨layer :: earlier, last, later, rfl, hlast, hlater⟩
  · exact .inl ⟨[], layer, rest, rfl, hgives, hnone⟩

theorem FromLast.cons_of_not_gives (hgives : ∀ b, ¬ gives layer b)
    (h : FromLast gives below rest a) : FromLast gives below (layer :: rest) a := by
  rcases h with ⟨earlier, last, later, rfl, hlast, hlater⟩ | ⟨hnone, rfl⟩
  · exact .inl ⟨layer :: earlier, last, later, rfl, hlast, hlater⟩
  · exact .inr ⟨List.forall_mem_cons.mpr ⟨hgives, hnone⟩, rfl⟩

end FromLast

/-! ## Configurations -/

namespace Config

theorem eq_iff_fields {c d : Config} :
    c = d ↔ c.defaultExtensions = d.defaultExtensions ∧ c.policies.forward = d.policies.forward ∧
      c.policies.backward = d.policies.backward := by
  obtain ⟨types, forward, backward⟩ := c
  obtain ⟨types', forward', backward'⟩ := d
  simp

def Overlaid {α : Type} [DecidableEq α] (field : Config → α) : Prop :=
  ∀ c layer : Config, field (c.merge layer) = overlay (field standard) (field c) (field layer)

theorem overlaid_defaultExtensions : Overlaid (·.defaultExtensions) := fun _ _ => rfl

theorem overlaid_forward : Overlaid (·.policies.forward) := fun _ _ => rfl

theorem overlaid_backward : Overlaid (·.policies.backward) := fun _ _ => rfl

theorem eq_of_overlaid {c d : Config}
    (h : ∀ {α : Type} [DecidableEq α] (field : Config → α), Overlaid field → field c = field d) :
    c = d :=
  eq_iff_fields.mpr
    ⟨h _ overlaid_defaultExtensions, h _ overlaid_forward, h _ overlaid_backward⟩

theorem merge_assoc (a b c : Config) : (a.merge b).merge c = a.merge (b.merge c) := by
  refine eq_of_overlaid fun field hfield => ?_
  simp only [hfield _ _, overlay_assoc]

theorem merge_standard (c : Config) : c.merge standard = c := by
  refine eq_of_overlaid fun field hfield => ?_
  rw [hfield, overlay_default]

theorem standard_merge (c : Config) : standard.merge c = c := by
  refine eq_of_overlaid fun field hfield => ?_
  rw [hfield, default_overlay]

theorem merge_self (c : Config) : c.merge c = c := by
  refine eq_of_overlaid fun field hfield => ?_
  rw [hfield, overlay_self]

/-! ## Many layers -/

/-- Where each layer gives the field of its configuration unless that is the standard one, the
configurations merged one after another have the field from the last layer that gives it. -/
theorem fromLast_foldl_merge {α δ : Type} [DecidableEq α] {field : Config → α}
    (hfield : Overlaid field) {gives : δ → α → Prop} {layers : List δ} {cs : List Config}
    (h : List.Forall₂ (fun layer c => ∀ a, gives layer a ↔ a = field c ∧ a ≠ field standard)
      layers cs) (base : Config) :
    FromLast gives (field base) layers (field (cs.foldl merge base)) := by
  induction h generalizing base with
  | nil => exact .inr ⟨by simp, rfl⟩
  | @cons layer c rest cs hlayer _ ih =>
      have hrest := ih (base.merge c)
      by_cases hstandard : field c = field standard
      · have hnone : ∀ b, ¬ gives layer b := by
          intro b hb
          obtain ⟨rfl, hother⟩ := (hlayer b).mp hb
          exact hother hstandard
        rw [hfield, hstandard, overlay_default] at hrest
        exact hrest.cons_of_not_gives hnone
      · have hover : field (base.merge c) = field c := by
          rw [hfield, overlay, if_neg hstandard]
        rw [hover] at hrest
        exact hrest.cons_of_gives ((hlayer _).mpr ⟨rfl, hstandard⟩)

/-- A way to put brackets around layers that lie on one another. -/
inductive Bracketing where
  | layer (c : Config)
  | group (lower upper : Bracketing)

namespace Bracketing

def layers : Bracketing → List Config
  | layer c => [c]
  | group lower upper => lower.layers ++ upper.layers

def merged : Bracketing → Config
  | layer c => c
  | group lower upper => lower.merged.merge upper.merged

theorem merge_merged (base : Config) (g : Bracketing) :
    base.merge g.merged = g.layers.foldl merge base := by
  induction g generalizing base with
  | layer c => rfl
  | group lower upper ihlower ihupper =>
      calc base.merge (lower.merged.merge upper.merged)
          = (base.merge lower.merged).merge upper.merged := (merge_assoc _ _ _).symm
        _ = upper.layers.foldl merge (lower.layers.foldl merge base) := by rw [ihupper, ihlower]
        _ = (lower.layers ++ upper.layers).foldl merge base := List.foldl_append.symm

end Bracketing

/-- The value of a field of a configuration, where it is not that of the standard one. -/
def Differs {α : Type} (field : Config → α) (c : Config) (a : α) : Prop :=
  a = field c ∧ a ≠ field standard

/-- **Merging is an idempotent monoid.**  It is associative, the standard configuration is neutral
on either side, and a configuration merged into itself is itself.  Layers merged one after another
into a configuration give each field as the last layer has it in which it is not the standard one,
and else leave it.  They may as well be merged with one another before, in any grouping of
neighbours. -/
theorem merging_layers :
    (∀ a b c : Config, (a.merge b).merge c = a.merge (b.merge c)) ∧
    (∀ a : Config, a.merge standard = a ∧ standard.merge a = a ∧ a.merge a = a) ∧
    ∀ base : Config,
      (∀ layers : List Config,
        FromLast (Differs (·.defaultExtensions)) base.defaultExtensions layers
          (layers.foldl merge base).defaultExtensions ∧
        FromLast (Differs (·.policies.forward)) base.policies.forward layers
          (layers.foldl merge base).policies.forward ∧
        FromLast (Differs (·.policies.backward)) base.policies.backward layers
          (layers.foldl merge base).policies.backward) ∧
      ∀ g : Bracketing, base.merge g.merged = g.layers.foldl merge base := by
  refine ⟨merge_assoc, fun a => ⟨merge_standard a, standard_merge a, merge_self a⟩, ?_⟩
  intro base
  refine ⟨fun layers => ?_, Bracketing.merge_merged base⟩
  have hlast : ∀ {α : Type} [DecidableEq α] {field : Config → α}, Overlaid field →
      FromLast (Differs field) (field base) layers (field (layers.foldl merge base)) :=
    fun hfield => fromLast_foldl_merge hfield (List.forall₂_same.mpr fun _ _ _ => Iff.rfl) base
  exact ⟨hlast overlaid_defaultExtensions, hlast overlaid_forward, hlast overlaid_backward⟩

/-- A layer that empties the default set counts, and one with the standard set does not. -/
example : [⟨[], .standard⟩, standard].foldl merge ⟨["acme::clock"], ⟨.aggregate, .failFast⟩⟩ =
    ⟨[], ⟨.aggregate, .failFast⟩⟩ := by decide

end Config

end Lifecycle
