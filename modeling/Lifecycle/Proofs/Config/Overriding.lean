import Lifecycle.Proofs.Config.Documents
import Lifecycle.Proofs.Config.Merging
import Lifecycle.Proofs.Config.Records
/-!
# Layers that override

Layers are read and merged into a configuration one after another.  What a layer gives is no longer
to be told from the default once it is read, so that the last layer that gives a field counts only
if what it gives is not the default.
-/

namespace Lifecycle

/-! ## What layers give -/

namespace Meaning

variable {δ : Type} (m : Meaning δ)

def GivesTypes (v : δ) (l : List String) : Prop :=
  ∃ given, m.givenTypes? v = some given ∧ m.Lists given l

def GivesPolicy (key : String) (v : δ) (p : Policy) : Prop :=
  ∃ given, m.givenPolicy? key v = some given ∧ m.NamesPolicy given p

end Meaning

theorem Taken.gives_iff {δ α : Type} {reads : δ → α → Prop} {default a : α} {given : Option δ}
    (ha : Taken reads default given a)
    (hreads : ∀ {v : δ} {a b : α}, reads v a → reads v b → a = b) (b : α) :
    ((∃ v, given = some v ∧ reads v b) ∧ b ≠ default) ↔ b = a ∧ b ≠ default := by
  cases given with
  | none =>
      have hstandard : a = default := ha
      simp [hstandard]
  | some v =>
      refine and_congr_left fun _ => ⟨?_, ?_⟩
      · rintro ⟨w, hw, hb⟩
        obtain rfl := Option.some.inj hw
        exact hreads hb ha
      · rintro rfl
        exact ⟨v, rfl, ha⟩

/-- A layer of a configuration as it is handed in. -/
inductive LayerSource where
  /-- A value, in whose records each key stands once. -/
  | value (v : Value) (once : v.KeysOnce)
  | text (s : String)

namespace LayerSource

def read : LayerSource → Except Config.TextError Config
  | value v _ => (Config.ofValue v).mapError .data
  | text s => Config.ofText s

/-- What is said of the value of a layer, or of the document that its text is. -/
def Says (P : ∀ {δ : Type}, Meaning δ → δ → Prop) : LayerSource → Prop
  | value v _ => P Value.meaning v
  | text s => ∃ document, Toml.parse? s.toList = some document ∧ P Toml.Value.meaning document

/-- The layer has what it gives, and the defaults for the rest. -/
def Describes (layer : LayerSource) (c : Config) : Prop := layer.Says fun m v => m.Describes v c

def GivesTypes (layer : LayerSource) (l : List String) : Prop :=
  layer.Says fun m v => m.GivesTypes v l

def GivesPolicy (key : String) (layer : LayerSource) (p : Policy) : Prop :=
  layer.Says fun m v => m.GivesPolicy key v p

variable {layer : LayerSource} {c : Config}

theorem read_eq_ok_iff : layer.read = .ok c ↔ layer.Describes c := by
  cases layer with
  | value v once =>
      have hread : Config.ofValue v = .ok c ↔ Value.meaning.Describes v c :=
        Value.meaning_readBy.readConfig_iff once
      refine Iff.trans ?_ hread
      rw [read]
      cases Config.ofValue v <;> simp [Except.mapError]
  | text s => exact Config.ofText_eq_ok_iff

theorem Describes.exists_value (h : layer.Describes c) :
    ∃ (δ : Type) (m : Meaning δ) (f : Format δ) (v : δ), m.ReadBy f ∧ m.Describes v c ∧
      ∀ P : ∀ {δ : Type}, Meaning δ → δ → Prop, layer.Says P ↔ P m v := by
  cases layer with
  | value v once => exact ⟨_, _, _, v, Value.meaning_readBy, h, fun _ => Iff.rfl⟩
  | text s =>
      obtain ⟨document, hparse, hdescribes⟩ := h
      refine ⟨_, _, _, document, Toml.Value.meaning_readBy, hdescribes, fun P => ?_⟩
      simp [Says, hparse]

theorem Describes.givesTypes_iff (h : layer.Describes c) (l : List String) :
    layer.GivesTypes l ∧ l ≠ Config.standard.defaultExtensions ↔
      l = c.defaultExtensions ∧ l ≠ Config.standard.defaultExtensions := by
  obtain ⟨δ, m, f, v, hread, hdescribes, hsays⟩ := h.exists_value
  rw [GivesTypes, hsays]
  exact hdescribes.2.1.gives_iff hread.lists_unique l

theorem Describes.givesForward_iff (h : layer.Describes c) (p : Policy) :
    layer.GivesPolicy "forward" p ∧ p ≠ .failFast ↔ p = c.policies.forward ∧ p ≠ .failFast := by
  obtain ⟨δ, m, f, v, hread, hdescribes, hsays⟩ := h.exists_value
  rw [GivesPolicy, hsays]
  exact hdescribes.policies.1.gives_iff hread.namesPolicy_unique p

theorem Describes.givesBackward_iff (h : layer.Describes c) (p : Policy) :
    layer.GivesPolicy "backward" p ∧ p ≠ .aggregate ↔ p = c.policies.backward ∧ p ≠ .aggregate := by
  obtain ⟨δ, m, f, v, hread, hdescribes, hsays⟩ := h.exists_value
  rw [GivesPolicy, hsays]
  exact hdescribes.policies.2.gives_iff hread.namesPolicy_unique p

end LayerSource

/-! ## Merging what is read -/

namespace Config

/-- The configuration `base` with layers that are read and merged one after another. -/
def mergeLayers (base : Config) (layers : List LayerSource) : Except TextError Config :=
  layers.foldlM (fun c layer => layer.read.map c.merge) base

variable {base c : Config} {layers : List LayerSource}

theorem mergeLayers_eq_ok_iff :
    base.mergeLayers layers = .ok c ↔
      ∃ cs, List.Forall₂ LayerSource.Describes layers cs ∧ c = cs.foldl merge base :=
  foldlM_map_eq_ok_iff LayerSource.read_eq_ok_iff

theorem exists_mergeLayers_eq_ok_iff :
    (∃ c, base.mergeLayers layers = .ok c) ↔ ∀ layer ∈ layers, ∃ c, layer.Describes c := by
  rw [← exists_forall₂_iff]
  simp only [mergeLayers_eq_ok_iff]
  constructor
  · rintro ⟨_, cs, hcs, -⟩
    exact ⟨cs, hcs⟩
  · rintro ⟨cs, hcs⟩
    exact ⟨_, cs, hcs, rfl⟩

/-- **Later layers override where they differ from the defaults.**  Layers are read and merged just
if each of them describes a configuration.  Every field is then as the last layer gives it that
gives something else than the default for it, and as in the configuration below them all if none
does. -/
theorem last_differing_layer_overrides (base : Config) (layers : List LayerSource) :
    ((∃ c, base.mergeLayers layers = .ok c) ↔ ∀ layer ∈ layers, ∃ c, layer.Describes c) ∧
    ∀ c, base.mergeLayers layers = .ok c →
      FromLast (fun layer l => layer.GivesTypes l ∧ l ≠ standard.defaultExtensions)
        base.defaultExtensions layers c.defaultExtensions ∧
      FromLast (fun layer p => layer.GivesPolicy "forward" p ∧ p ≠ .failFast)
        base.policies.forward layers c.policies.forward ∧
      FromLast (fun layer p => layer.GivesPolicy "backward" p ∧ p ≠ .aggregate)
        base.policies.backward layers c.policies.backward := by
  refine ⟨exists_mergeLayers_eq_ok_iff, fun c hc => ?_⟩
  obtain ⟨cs, hcs, rfl⟩ := mergeLayers_eq_ok_iff.mp hc
  refine ⟨fromLast_foldl_merge overlaid_defaultExtensions ?_ base,
    fromLast_foldl_merge overlaid_forward ?_ base, fromLast_foldl_merge overlaid_backward ?_ base⟩
  · exact hcs.imp fun _ _ h => h.givesTypes_iff
  · exact hcs.imp fun _ _ h => h.givesForward_iff
  · exact hcs.imp fun _ _ h => h.givesBackward_iff

def policyLayer (key : String) (p : Policy) : LayerSource :=
  have hpolicies : (Value.record [(key, .text p.name)]).KeysOnce :=
    .record (by simp) (by simpa using .text)
  .value (.record [("dispatch", .record [(key, .text p.name)])])
    (.record (by simp) (by simpa using hpolicies))

/-- A document empties the default set and sets a policy; the value on it does not set that back. -/
theorem layers_override_in_turn :
    let base : Config := ⟨["acme::clock"], ⟨.failFast, .failFast⟩⟩
    let layers : List LayerSource :=
      [.text "default_extensions = []\n[dispatch]\nforward = \"aggregate\"",
        policyLayer "forward" .failFast]
    base.mergeLayers layers = .ok ⟨[], ⟨.aggregate, .failFast⟩⟩ ∧
      FromLast (fun layer l => layer.GivesTypes l ∧ l ≠ standard.defaultExtensions)
        base.defaultExtensions layers [] ∧
      FromLast (fun layer p => layer.GivesPolicy "forward" p ∧ p ≠ .failFast)
        base.policies.forward layers .aggregate ∧
      FromLast (fun layer p => layer.GivesPolicy "backward" p ∧ p ≠ .aggregate)
        base.policies.backward layers .failFast := by
  intro base layers
  have hmerged : base.mergeLayers layers = .ok ⟨[], ⟨.aggregate, .failFast⟩⟩ := by decide +kernel
  exact ⟨hmerged, (last_differing_layer_overrides base layers).2 _ hmerged⟩

/-- A layer that gives a policy anew as it is by default does not override another one below it. -/
theorem default_policy_not_overriding :
    let base : Config := ⟨["acme::clock"], ⟨.aggregate, .aggregate⟩⟩
    let layer := policyLayer "forward" .failFast
    base.mergeLayers [layer] = .ok base ∧ layer.GivesPolicy "forward" .failFast ∧
      ¬ FromLast (LayerSource.GivesPolicy "forward") base.policies.forward [layer]
        base.policies.forward := by
  intro base layer
  have hgives : layer.GivesPolicy "forward" .failFast := ⟨_, rfl, .text⟩
  refine ⟨by decide +kernel, hgives, ?_⟩
  rintro (⟨earlier, last, later, hlayers, hlast, -⟩ | ⟨hnone, -⟩)
  · have hmem : last ∈ [layer] := hlayers ▸ List.mem_append_right earlier List.mem_cons_self
    rw [List.mem_singleton.mp hmem] at hlast
    -- what the layer gives is the default, and nothing else
    have hdescribes : layer.Describes standard :=
      LayerSource.read_eq_ok_iff.mp (by decide +kernel)
    obtain ⟨h, -⟩ := (hdescribes.givesForward_iff .aggregate).mp ⟨hlast, by decide⟩
    cases h
  · exact hnone layer List.mem_cons_self .failFast hgives

end Config

end Lifecycle
