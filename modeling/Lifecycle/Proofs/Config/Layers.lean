import Lifecycle.Config.Loading
import Lifecycle.Proofs.Config.Documents
import Lifecycle.Proofs.Config.Merging
import Lifecycle.Proofs.Text.Lowercase
import Lifecycle.Proofs.Text.Pieces
/-!
# Layers of a configuration

A loaded configuration has each field from the highest layer that gives it: a variable of the
environment, the document of the file, the defaults.  A file that cannot be used is reported before
anything else, then the variable of the forward policy, then that of the backward policy.  All this
is of files whose metadata can be had: one that is there unseen is passed over, as is a variable
that holds no text.
-/

namespace Lifecycle

open Lifecycle.Text Toml.Value

/-! ## Files -/

namespace FileState

/-- There is a file, seen or not, and its text is not to be had for the cause. -/
inductive Unreadable : FileState → String → Prop where
  | refused {isVisible : Bool} {cause : String} :
      Unreadable (.present isVisible (.error cause)) cause
  | notText {isVisible : Bool} {bytes : ByteArray} : (∀ s : String, bytes ≠ s.toUTF8) →
      Unreadable (.present isVisible (.ok bytes)) "stream did not contain valid UTF-8"

/-- There is a file, seen or not, and it has the text. -/
def Reads (file : FileState) (s : String) : Prop :=
  ∃ isVisible, file = .present isVisible (.ok s.toUTF8)

/-- What there is of a layer: nothing without a file, and the document of a file if it describes a
configuration. -/
inductive Provides : FileState → Option Toml.Value → Prop where
  | absent : Provides .absent none
  | document {file : FileState} {s : String} {v : Toml.Value} {c : Config} : file.Reads s →
      Toml.parse? s.toList = some v → v.Describes c → Provides file (some v)

def IsShown (file : FileState) : Prop := file ≠ .absent → file.isVisible = true

end FileState

theorem fromUTF8?_eq_some_iff {bytes : ByteArray} {s : String} :
    String.fromUTF8? bytes = some s ↔ bytes = s.toUTF8 := by
  rw [String.fromUTF8?]
  constructor
  · intro h
    split at h
    · obtain rfl := Option.some.inj h
      rfl
    · cases h
  · rintro rfl
    rw [String.toUTF8_eq_toByteArray, dif_pos s.isValidUTF8]
    rfl

namespace FileState

variable {file : FileState}

theorem isVisible_of_unreadable {cause : String} (hshown : file.IsShown)
    (h : file.Unreadable cause) : file.isVisible = true := by
  cases h <;> exact hshown (by simp)

theorem isVisible_of_reads {s : String} (hshown : file.IsShown) (h : file.Reads s) :
    file.isVisible = true := by
  obtain ⟨isVisible, rfl⟩ := h
  exact hshown (by simp)

theorem readText_of_unreadable {cause : String} (h : file.Unreadable cause) :
    file.readText = .error cause := by
  cases h with
  | refused => rfl
  | @notText isVisible bytes hbytes =>
      have hdecode : String.fromUTF8? bytes = none := by
        rw [Option.eq_none_iff_forall_ne_some]
        intro s hs
        exact hbytes s (fromUTF8?_eq_some_iff.mp hs)
      simp only [readText, hdecode]

theorem readText_of_reads {s : String} (h : file.Reads s) : file.readText = .ok s := by
  obtain ⟨isVisible, rfl⟩ := h
  simp only [readText, fromUTF8?_eq_some_iff.mpr rfl]

theorem not_provides_of_unreadable {cause : String} {layer : Option Toml.Value}
    (h : file.Unreadable cause) : ¬ file.Provides layer := by
  intro hlayer
  cases hlayer with
  | absent => cases h
  | document hreads _ _ =>
      have hread := readText_of_reads hreads
      rw [readText_of_unreadable h] at hread
      cases hread

/-- A file cannot be read, or its text is not read as a configuration, or there is a layer of it. -/
theorem unreadable_or_unparsable_or_provides (file : FileState) :
    (∃ cause, file.Unreadable cause) ∨ (∃ s e, file.Reads s ∧ Config.ofText s = .error e) ∨
      ∃ layer, file.Provides layer := by
  match file with
  | .absent => exact .inr (.inr ⟨none, .absent⟩)
  | .present isVisible (.error cause) => exact .inl ⟨cause, .refused⟩
  | .present isVisible (.ok bytes) =>
      cases hdecode : String.fromUTF8? bytes with
      | none =>
          refine .inl ⟨_, .notText fun s hs => ?_⟩
          rw [fromUTF8?_eq_some_iff.mpr hs] at hdecode
          cases hdecode
      | some s =>
          obtain rfl := fromUTF8?_eq_some_iff.mp hdecode
          cases hread : Config.ofText s with
          | error e => exact .inr (.inl ⟨s, e, ⟨isVisible, rfl⟩, hread⟩)
          | ok c =>
              obtain ⟨v, hparse, hdescribes⟩ := Config.ofText_eq_ok_iff.mp hread
              exact .inr (.inr ⟨some v, .document ⟨isVisible, rfl⟩ hparse hdescribes⟩)

end FileState

namespace Config

variable {path s : String} {file : FileState}

theorem ofFile_of_unreadable {cause : String} (hvisible : file.isVisible = true)
    (h : file.Unreadable cause) : ofFile path file = .error (.unreadable path cause) := by
  rw [ofFile, hvisible, FileState.readText_of_unreadable h]
  rfl

theorem ofFile_of_unparsable {e : TextError} (hvisible : file.isVisible = true)
    (hreads : file.Reads s) (hread : ofText s = .error e) :
    ofFile path file = .error (.unparsable path e.message) := by
  rw [ofFile, hvisible, FileState.readText_of_reads hreads]
  simp only [hread]
  rfl

theorem ofFile_of_reads {c : Config} (hvisible : file.isVisible = true) (hreads : file.Reads s)
    (hread : ofText s = .ok c) : ofFile path file = .ok (some c) := by
  rw [ofFile, hvisible, FileState.readText_of_reads hreads]
  simp only [hread]
  rfl

end Config

/-! ## Variables -/

/-- The text is the name of the policy but for blanks around it and the case of its letters.  No
letter outside ASCII becomes one of a policy's name in lower case. -/
def Spells (s : String) (p : Policy) : Prop :=
  (trim s.toList).map Char.toLower = p.name.toList

/-- The texts are the parts between commas without the blanks around them, and without those of
which nothing is left. -/
def SeparatesInto (s : String) (l : List String) : Prop :=
  l.map String.toList = ((s.toList.splitOn ',').map trim).filter (· ≠ [])

namespace Config

theorem isPlain_of_mem_name (p : Policy) : ∀ c ∈ p.name.toList, isPlain c = true :=
  List.all_eq_true.mp (by cases p <;> decide)

def misspelled (name s : String) : ConfigError :=
  .invalidVariable name (Error.unknownPolicy (String.ofList (lower (trim s.toList)))).message

theorem policyOfVariable_eq_ok_iff {name s : String} {p : Policy} :
    policyOfVariable name s = .ok p ↔ Spells s p := by
  have hlowered : String.ofList (lower (trim s.toList)) = p.name ↔ Spells s p := by
    rw [← String.toList_inj, String.toList_ofList, Spells, lower_eq_iff (isPlain_of_mem_name p)]
  rw [← hlowered, policyOfVariable, Policy.parse]
  cases hfind : Policy.ofName? (String.ofList (lower (trim s.toList))) with
  | none =>
      refine iff_of_false (by simp) ?_
      intro h
      rw [h, Policy.ofName?_name] at hfind
      cases hfind
  | some q =>
      have hname : q.name = String.ofList (lower (trim s.toList)) := by
        simpa using List.find?_some hfind
      rw [← hname]
      constructor
      · intro h
        rw [Except.ok.inj h]
      · intro h
        rw [Policy.name_injective h]

theorem policyOfVariable_eq_error {name s : String} (h : ∀ p, ¬ Spells s p) :
    policyOfVariable name s = .error (misspelled name s) := by
  cases hread : policyOfVariable name s with
  | ok p => exact absurd (policyOfVariable_eq_ok_iff.mp hread) (h p)
  | error e =>
      rw [policyOfVariable, Policy.parse] at hread
      cases hfind : Policy.ofName? (String.ofList (lower (trim s.toList))) with
      | some q => simp only [hfind] at hread; cases hread
      | none => simp only [hfind] at hread; exact hread.symm

theorem splitEntries_eq_iff {s : String} {l : List String} :
    splitEntries s = l ↔ SeparatesInto s l := by
  have hsplit : (splitEntries s).map String.toList =
      ((s.toList.splitOn ',').map trim).filter (· ≠ []) := by
    rw [splitEntries, pieces_eq_splitOn]
    generalize (s.toList.splitOn ',').map trim = entries
    induction entries with
    | nil => rfl
    | cons entry rest ih => cases entry <;> simp_all
  rw [SeparatesInto, ← hsplit]
  constructor
  · rintro rfl
    rfl
  · intro h
    exact ((List.map_inj_right fun _ _ => String.toList_inj.mp).mp h).symm

theorem policyFrom_eq_error {env : Environment} {name s : String} (p : Policy)
    (hset : env.text? name = some s) (hmisspelled : ∀ p, ¬ Spells s p) :
    policyFrom env name p = .error (misspelled name s) := by
  rw [policyFrom, hset]
  exact policyOfVariable_eq_error hmisspelled

theorem spelled_or_misspelled (text? : Option String) :
    (∀ s, text? = some s → ∃ p, Spells s p) ∨ ∃ s, text? = some s ∧ ∀ p, ¬ Spells s p := by
  cases text? with
  | none => exact .inl (by simp)
  | some s =>
      by_cases hspelled : ∃ p, Spells s p
      · refine .inl fun s' hs' => ?_
        rwa [← Option.some.inj hs']
      · exact .inr ⟨s, rfl, fun p hp => hspelled ⟨p, hp⟩⟩

theorem exists_policyFrom_eq_ok {env : Environment} {name : String} (p : Policy)
    (hspelled : ∀ s, env.text? name = some s → ∃ p, Spells s p) :
    ∃ q, policyFrom env name p = .ok q := by
  rw [policyFrom]
  cases hset : env.text? name with
  | none => exact ⟨p, rfl⟩
  | some s =>
      obtain ⟨q, hq⟩ := hspelled s hset
      exact ⟨q, policyOfVariable_eq_ok_iff.mpr hq⟩

end Config

/-! ## Layers -/

/-- How a field is loaded: from a variable that is set, or as a document gives it, or as it is by
default. -/
def Layered {δ α : Type} (ofText : String → α → Prop) (reads : δ → α → Prop) (default : α) :
    Option String → Option δ → α → Prop
  | some s, _, a => ofText s a
  | none, given, a => Taken reads default given a

def ConfigLoader.seen {α : Type} (l : ConfigLoader) (settings : String → Option α) :
    String → Option α :=
  if l.usesEnvironment then settings else fun _ => none

/-- The environment in which variables are set to texts. -/
def Environment.ofTexts (texts : String → Option String) : Environment :=
  fun name => (texts name).map String.toUTF8

theorem Environment.text?_eq_iff {env : Environment} {texts : String → Option String} :
    env.text? = texts ↔ ∀ name s, texts name = some s ↔ env name = some s.toUTF8 := by
  have htext : ∀ name s, env.text? name = some s ↔ env name = some s.toUTF8 := by
    intro name s
    rw [text?, Option.bind_eq_some_iff]
    constructor
    · rintro ⟨bytes, hset, hdecode⟩
      rw [hset, fromUTF8?_eq_some_iff.mp hdecode]
    · intro hset
      exact ⟨_, hset, fromUTF8?_eq_some_iff.mpr rfl⟩
  constructor
  · rintro rfl
    exact htext
  · intro h
    funext name
    exact Option.ext fun s => (htext name s).trans (h name s).symm

theorem Environment.text?_ofTexts (texts : String → Option String) :
    (ofTexts texts).text? = texts := by
  rw [text?_eq_iff]
  intro name s
  rw [ofTexts, Option.map_eq_some_iff]
  constructor
  · intro h
    exact ⟨s, h, rfl⟩
  · rintro ⟨t, ht, hbytes⟩
    rwa [← String.toByteArray_inj.mp hbytes]

def Toml.Value.givenTypes? (v : Toml.Value) : Option Toml.Value :=
  v.given? ["default_extensions", "dispatch"] "default_extensions"

def Toml.Value.givenPolicy? (key : String) (v : Toml.Value) : Option Toml.Value :=
  (v.given? ["default_extensions", "dispatch"] "dispatch").bind (given? ["forward", "backward"] key)

namespace Config

/-- Each field of a configuration is from the highest layer that gives it: the text of its variable,
the document of the file, the defaults. -/
structure LayeredOver (c : Config) (texts : String → Option String) (layer : Option Toml.Value) :
    Prop where
  defaultExtensions : Layered SeparatesInto Lists standard.defaultExtensions
    (texts "TESSEL_DEFAULT_EXTENSIONS") (layer.bind givenTypes?) c.defaultExtensions
  forward : Layered Spells NamesPolicy .failFast
    (texts "TESSEL_DISPATCH_FORWARD") (layer.bind (givenPolicy? "forward")) c.policies.forward
  backward : Layered Spells NamesPolicy .aggregate
    (texts "TESSEL_DISPATCH_BACKWARD") (layer.bind (givenPolicy? "backward")) c.policies.backward

theorem layeredOver_standard : standard.LayeredOver (fun _ => none) none := ⟨rfl, rfl, rfl⟩

theorem layeredOver_of_describes {c : Config} {v : Toml.Value} (h : v.Describes c) :
    c.LayeredOver (fun _ => none) (some v) := by
  have hmeant := describes_iff.mp h
  obtain ⟨hforward, hbackward⟩ := hmeant.policies
  exact ⟨hmeant.2.1, hforward, hbackward⟩

theorem policyFrom_eq_ok_iff {env : Environment} {name : String} {p q default : Policy}
    {given : Option Toml.Value} (hp : Taken NamesPolicy default given p) :
    policyFrom env name p = .ok q ↔
      Layered Spells NamesPolicy default (env.text? name) given q := by
  rw [policyFrom]
  cases env.text? name with
  | some s => exact policyOfVariable_eq_ok_iff
  | none =>
      constructor
      · intro h
        rwa [← Except.ok.inj h]
      · intro h
        rw [hp.unique (fun _ _ _ ha hb => ha.unique hb) h]

theorem withEnvironment_eq_ok_iff {c c' : Config} {env : Environment} {layer : Option Toml.Value}
    (hc : c.LayeredOver (fun _ => none) layer) :
    c.withEnvironment env = .ok c' ↔ c'.LayeredOver env.text? layer := by
  have hread : ∀ types : List String, (do
      let forward ← policyFrom env forwardVariable c.policies.forward
      let backward ← policyFrom env backwardVariable c.policies.backward
      return ⟨types, ⟨forward, backward⟩⟩ : Except ConfigError Config) = .ok c' ↔
        types = c'.defaultExtensions ∧
        policyFrom env forwardVariable c.policies.forward = .ok c'.policies.forward ∧
        policyFrom env backwardVariable c.policies.backward = .ok c'.policies.backward := by
    intro types
    rw [bind_eq_ok_iff]
    constructor
    · rintro ⟨forward, hforward, h⟩
      obtain ⟨backward, hbackward, h⟩ := bind_eq_ok_iff.mp h
      obtain rfl := Except.ok.inj h
      exact ⟨rfl, hforward, hbackward⟩
    · rintro ⟨rfl, hforward, hbackward⟩
      exact ⟨_, hforward, bind_eq_ok_iff.mpr ⟨_, hbackward, rfl⟩⟩
  have hlayered : c'.LayeredOver env.text? layer ↔
      Layered SeparatesInto Lists standard.defaultExtensions (env.text? typesVariable)
        (layer.bind givenTypes?) c'.defaultExtensions ∧
      policyFrom env forwardVariable c.policies.forward = .ok c'.policies.forward ∧
      policyFrom env backwardVariable c.policies.backward = .ok c'.policies.backward := by
    rw [policyFrom_eq_ok_iff hc.forward, policyFrom_eq_ok_iff hc.backward]
    exact ⟨fun h => ⟨h.defaultExtensions, h.forward, h.backward⟩, fun ⟨hl, hf, hb⟩ => ⟨hl, hf, hb⟩⟩
  rw [hlayered]
  refine (hread _).trans (and_congr_left fun _ => ?_)
  have hbelow : Taken Lists standard.defaultExtensions (layer.bind givenTypes?)
    c.defaultExtensions := hc.defaultExtensions
  cases env.text? typesVariable with
  | some s => exact splitEntries_eq_iff
  | none =>
      constructor
      · intro h
        have hsame : c.defaultExtensions = c'.defaultExtensions := h
        exact hsame ▸ hbelow
      · intro h
        exact hbelow.unique (fun _ _ _ ha hb => ha.unique hb) h

theorem exists_withEnvironment_eq_ok {c : Config} {env : Environment} {p q : Policy}
    (hforward : policyFrom env forwardVariable c.policies.forward = .ok p)
    (hbackward : policyFrom env backwardVariable c.policies.backward = .ok q) :
    ∃ c', c.withEnvironment env = .ok c' :=
  ⟨_, bind_eq_ok_iff.mpr ⟨p, hforward, bind_eq_ok_iff.mpr ⟨q, hbackward, rfl⟩⟩⟩

theorem withEnvironment_eq_error_forward {c : Config} {env : Environment} {e : ConfigError}
    (h : policyFrom env forwardVariable c.policies.forward = .error e) :
    c.withEnvironment env = .error e := by
  rw [withEnvironment, h]
  rfl

theorem withEnvironment_eq_error_backward {c : Config} {env : Environment} {p : Policy}
    {e : ConfigError} (hforward : policyFrom env forwardVariable c.policies.forward = .ok p)
    (h : policyFrom env backwardVariable c.policies.backward = .error e) :
    c.withEnvironment env = .error e := by
  rw [withEnvironment, hforward, h]
  rfl

end Config

/-! ## Loading -/

namespace ConfigLoader

/-- What a loader is to come to, given what is at the path and what texts variables are set to. -/
inductive Loads (l : ConfigLoader) (file : FileState) (texts : String → Option String) :
    Except ConfigError Config → Prop where
  | unreadable {cause : String} : file.Unreadable cause →
      Loads l file texts (.error (.unreadable l.path cause))
  /-- The file is not a document, or not one that describes a configuration. -/
  | unparsable {s : String} {e : Config.TextError} : file.Reads s →
      (∀ v c, Toml.parse? s.toList = some v → ¬ v.Describes c) → Config.ofText s = .error e →
      Loads l file texts (.error (.unparsable l.path e.message))
  /-- The variable of the forward policy spells none. -/
  | misspelledForward {layer : Option Toml.Value} {s : String} : file.Provides layer →
      l.seen texts "TESSEL_DISPATCH_FORWARD" = some s → (∀ p, ¬ Spells s p) →
      Loads l file texts (.error (Config.misspelled "TESSEL_DISPATCH_FORWARD" s))
  /-- The variable of the backward policy spells none, and that of the forward policy spells one if
  it is set. -/
  | misspelledBackward {layer : Option Toml.Value} {s : String} : file.Provides layer →
      (∀ s, l.seen texts "TESSEL_DISPATCH_FORWARD" = some s → ∃ p, Spells s p) →
      l.seen texts "TESSEL_DISPATCH_BACKWARD" = some s → (∀ p, ¬ Spells s p) →
      Loads l file texts (.error (Config.misspelled "TESSEL_DISPATCH_BACKWARD" s))
  /-- Each field is from its highest layer. -/
  | loaded {layer : Option Toml.Value} {c : Config} : file.Provides layer →
      c.LayeredOver (l.seen texts) layer → Loads l file texts (.ok c)

section Loading

variable {l : ConfigLoader} {file : FileState} {env : Environment}

theorem text?_seen (l : ConfigLoader) (env : Environment) :
    Environment.text? (l.seen env) = l.seen env.text? := by
  unfold seen
  split <;> rfl

theorem load_of_ofFile_error {e : ConfigError} (h : Config.ofFile l.path file = .error e) :
    l.load file env = .error e := by
  rw [load, h]
  rfl

theorem load_of_ofFile_ok {layer : Option Config} (h : Config.ofFile l.path file = .ok layer) :
    l.load file env = (layer.getD Config.standard).withEnvironment (l.seen env) := by
  have hload : l.load file env =
      if l.usesEnvironment then (layer.getD Config.standard).withEnvironment env
      else .ok (layer.getD Config.standard) := by
    rw [load, h, ← Config.standard_merge (layer.getD Config.standard)]
    rfl
  rw [hload, seen]
  split <;> rfl

theorem load_congr {env' : Environment} (h : env.text? = env'.text?) :
    l.load file env = l.load file env' := by
  cases hfile : Config.ofFile l.path file with
  | error e => rw [load_of_ofFile_error hfile, load_of_ofFile_error hfile]
  | ok layer =>
      have hseen : Environment.text? (l.seen env) = Environment.text? (l.seen env') := by
        rw [text?_seen, text?_seen, h]
      rw [load_of_ofFile_ok hfile, load_of_ofFile_ok hfile, Config.withEnvironment,
        Config.withEnvironment, hseen]
      simp only [Config.policyFrom, hseen]

/-- A file that is not seen is loaded as if there were none. -/
theorem load_of_not_visible (h : file.isVisible = false) :
    l.load file env = l.load .absent env := by
  have hfile : Config.ofFile l.path file = Config.ofFile l.path .absent := by
    rw [Config.ofFile, h]
    rfl
  rw [load, hfile]
  rfl

theorem exists_load_eq (l : ConfigLoader) (env : Environment) {layer : Option Toml.Value}
    (hshown : file.IsShown) (h : file.Provides layer) :
    ∃ c : Config, l.load file env = c.withEnvironment (l.seen env) ∧
      c.LayeredOver (fun _ => none) layer := by
  cases h with
  | absent =>
      have hfile : Config.ofFile l.path .absent = .ok none := rfl
      exact ⟨Config.standard, load_of_ofFile_ok hfile, Config.layeredOver_standard⟩
  | @document _ s v c hreads hparse hdescribes =>
      have htext : Config.ofText s = .ok c := Config.ofText_eq_ok_iff.mpr ⟨v, hparse, hdescribes⟩
      have hfile : Config.ofFile l.path file = .ok (some c) :=
        Config.ofFile_of_reads (FileState.isVisible_of_reads hshown hreads) hreads htext
      exact ⟨c, load_of_ofFile_ok hfile, Config.layeredOver_of_describes hdescribes⟩

theorem Loads.load_eq {result : Except ConfigError Config} (hshown : file.IsShown)
    (h : l.Loads file env.text? result) : l.load file env = result := by
  cases h with
  | unreadable h =>
      have hvisible := FileState.isVisible_of_unreadable hshown h
      exact load_of_ofFile_error (Config.ofFile_of_unreadable hvisible h)
  | unparsable hreads _ herror =>
      have hvisible := FileState.isVisible_of_reads hshown hreads
      exact load_of_ofFile_error (Config.ofFile_of_unparsable hvisible hreads herror)
  | misspelledForward hlayer hset hmisspelled =>
      obtain ⟨c, hload, -⟩ := exists_load_eq l env hshown hlayer
      rw [← text?_seen] at hset
      rw [hload]
      exact Config.withEnvironment_eq_error_forward (Config.policyFrom_eq_error _ hset hmisspelled)
  | misspelledBackward hlayer hforward hset hmisspelled =>
      obtain ⟨c, hload, -⟩ := exists_load_eq l env hshown hlayer
      rw [← text?_seen] at hforward hset
      obtain ⟨p, hp⟩ := Config.exists_policyFrom_eq_ok c.policies.forward hforward
      rw [hload]
      exact Config.withEnvironment_eq_error_backward hp
        (Config.policyFrom_eq_error _ hset hmisspelled)
  | loaded hlayer hlayered =>
      obtain ⟨c, hload, hbelow⟩ := exists_load_eq l env hshown hlayer
      rw [hload, Config.withEnvironment_eq_ok_iff hbelow, text?_seen]
      exact hlayered

theorem exists_loads (l : ConfigLoader) (env : Environment) (hshown : file.IsShown) :
    ∃ result, l.Loads file env.text? result := by
  rcases file.unreadable_or_unparsable_or_provides with
    ⟨cause, hcause⟩ | ⟨s, e, hreads, herror⟩ | ⟨layer, hlayer⟩
  · exact ⟨_, .unreadable hcause⟩
  · refine ⟨_, .unparsable hreads ?_ herror⟩
    intro v c hparse hdescribes
    rw [Config.ofText_eq_ok_iff.mpr ⟨v, hparse, hdescribes⟩] at herror
    cases herror
  rcases Config.spelled_or_misspelled (l.seen env.text? "TESSEL_DISPATCH_FORWARD") with
    hforward | ⟨s, hset, hmisspelled⟩
  case inr => exact ⟨_, .misspelledForward hlayer hset hmisspelled⟩
  rcases Config.spelled_or_misspelled (l.seen env.text? "TESSEL_DISPATCH_BACKWARD") with
    hbackward | ⟨s, hset, hmisspelled⟩
  case inr => exact ⟨_, .misspelledBackward hlayer hforward hset hmisspelled⟩
  rw [← text?_seen] at hforward hbackward
  obtain ⟨c, -, hbelow⟩ := exists_load_eq l env hshown hlayer
  obtain ⟨p, hp⟩ := Config.exists_policyFrom_eq_ok c.policies.forward hforward
  obtain ⟨q, hq⟩ := Config.exists_policyFrom_eq_ok c.policies.backward hbackward
  obtain ⟨c', hc'⟩ := Config.exists_withEnvironment_eq_ok hp hq
  have hlayered := (Config.withEnvironment_eq_ok_iff hbelow).mp hc'
  rw [text?_seen] at hlayered
  exact ⟨_, .loaded hlayer hlayered⟩

/-- **A load takes every field from its highest layer**, if a file that is there is seen.  It fails
on a file that cannot be used, whatever the environment, then on the variable of the forward policy
if that spells none, and then on that of the backward policy.  Otherwise each field is from its
variable if that is set, else from the document if that gives the field, and else by default.

A file that is there unseen is loaded as if there were none, and a variable that holds no text as if
it were not set. -/
theorem load_eq_iff_loads (l : ConfigLoader) (file : FileState) :
    ((file ≠ .absent → file.isVisible = true) → ∀ texts result,
      l.load file (.ofTexts texts) = result ↔ l.Loads file texts result) ∧
    (file.isVisible = false → ∀ env, l.load file env = l.load .absent env) ∧
    ∀ env texts, (∀ name s, texts name = some s ↔ env name = some s.toUTF8) →
      l.load file env = l.load file (.ofTexts texts) := by
  refine ⟨?_, fun hunseen env => load_of_not_visible hunseen, ?_⟩
  · intro hshown texts result
    have hloads : ∀ result, l.Loads file texts result → l.load file (.ofTexts texts) = result := by
      intro result h
      rw [← Environment.text?_ofTexts texts] at h
      exact h.load_eq hshown
    constructor
    · rintro rfl
      obtain ⟨result, hresult⟩ := exists_loads l (.ofTexts texts) hshown
      rw [Environment.text?_ofTexts] at hresult
      rwa [hloads result hresult]
    · exact hloads result
  · intro env texts htexts
    refine load_congr ?_
    rw [Environment.text?_ofTexts]
    exact Environment.text?_eq_iff.mpr htexts

private theorem ff_ne_toUTF8 (s : String) : (⟨#[0xff]⟩ : ByteArray) ≠ s.toUTF8 := by
  intro h
  have hdecode := fromUTF8?_eq_some_iff.mpr h
  have hnone : String.fromUTF8? ⟨#[0xff]⟩ = none := by decide +kernel
  rw [hnone] at hdecode
  cases hdecode

/-- A variable spells a policy in capitals and between blanks, the file sets the other fields, and
the third variable holds no text; unseen, the file is passed over. -/
theorem capitals_loaded_over_file :
    let file : FileState := .content
      "default_extensions = [\"acme::clock\"]\n[dispatch]\nbackward = \"fail_fast\"".toUTF8
    let texts : String → Option String := fun name =>
      if name = "TESSEL_DISPATCH_FORWARD" then some " AGGREGATE " else none
    let env : Environment := fun name =>
      if name = "TESSEL_DISPATCH_BACKWARD" then some ⟨#[0xff]⟩ else Environment.ofTexts texts name
    standard.Loads file texts (.ok ⟨["acme::clock"], ⟨.aggregate, .failFast⟩⟩) ∧
      standard.load file env = .ok ⟨["acme::clock"], ⟨.aggregate, .failFast⟩⟩ ∧
      standard.load (.present false (.error "Permission denied (os error 13)")) env =
        .ok ⟨Config.standard.defaultExtensions, ⟨.aggregate, .aggregate⟩⟩ := by
  intro file texts env
  obtain ⟨hshown, -, hheld⟩ := load_eq_iff_loads standard file
  have hload : standard.load file (.ofTexts texts) =
      .ok ⟨["acme::clock"], ⟨.aggregate, .failFast⟩⟩ := by
    decide +kernel
  have htexts : ∀ name s, texts name = some s ↔ env name = some s.toUTF8 := by
    intro name s
    by_cases hname : name = "TESSEL_DISPATCH_BACKWARD"
    · subst hname
      refine iff_of_false ?_ ?_
      · intro h
        cases h
      · intro h
        exact ff_ne_toUTF8 s (Option.some.inj h)
    · have hset : env name = Environment.ofTexts texts name := if_neg hname
      rw [hset]
      exact Environment.text?_eq_iff.mp (Environment.text?_ofTexts texts) name s
  refine ⟨(hshown (fun _ => rfl) texts _).mp hload, ?_, ?_⟩
  · rw [hheld env texts htexts]
    exact hload
  · obtain ⟨-, hunseen, -⟩ := load_eq_iff_loads standard
      (.present false (.error "Permission denied (os error 13)"))
    rw [hunseen rfl env]
    decide +kernel

/-- A file in a directory that may not be searched is there and cannot be read, and is not reported;
nor is a variable that is set and spells no policy, if it holds no text. -/
theorem unseen_file_not_reported :
    (let file : FileState := .present false (.error "Permission denied (os error 13)")
    standard.Loads file (fun _ => none)
        (.error (.unreadable "tessel.toml" "Permission denied (os error 13)")) ∧
      ¬ standard.Loads file (fun _ => none) (.ok .standard) ∧
      standard.load file (.ofTexts fun _ => none) = .ok .standard) ∧
    (let env : Environment := fun name =>
      if name = "TESSEL_DISPATCH_FORWARD" then some ⟨#[0xff]⟩ else none
    env "TESSEL_DISPATCH_FORWARD" ≠ none ∧
      (∀ s p, env "TESSEL_DISPATCH_FORWARD" = some s.toUTF8 → ¬ Spells s p) ∧
      standard.load .absent env = .ok .standard) := by
  refine ⟨?_, ?_⟩
  · intro file
    have hcause : file.Unreadable "Permission denied (os error 13)" := .refused
    refine ⟨.unreadable hcause, ?_, by decide +kernel⟩
    intro h
    obtain ⟨layer, hlayer⟩ : ∃ layer, file.Provides layer := by
      cases h with
      | loaded hlayer _ => exact ⟨_, hlayer⟩
    exact FileState.not_provides_of_unreadable hcause hlayer
  · intro env
    refine ⟨by decide +kernel, ?_, by decide +kernel⟩
    intro s p hset
    exact absurd (Option.some.inj hset) (ff_ne_toUTF8 s)

end Loading

end ConfigLoader

end Lifecycle
