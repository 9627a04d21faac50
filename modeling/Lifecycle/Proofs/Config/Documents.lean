import Lifecycle.Proofs.Config.Meaning
import Lifecycle.Proofs.Toml.Keys
/-!
# What a document says of a configuration

A text is read as the configuration that its document describes, and is refused if the document
describes none.  Structured values of a document are its tables, and arrays with members in the
declared order.
-/

namespace Lifecycle

/-! ## What values of a document say -/

namespace Toml.Value

/-- The members of a structured value; those of an array belong to the declared keys in order. -/
def membersAs? (declared : List String) : Value → Option Entries
  | table _ entries => some entries
  | dateTime => some []
  | array items => some (declared.zip items)
  | tables items => some (declared.zip (items.map (table .explicit)))
  | _ => none

/-- What a structured value gives for one of the declared keys. -/
def given? (declared : List String) (key : String) (v : Value) : Option Value :=
  (v.membersAs? declared).bind fun members => members.lookup key

/-- The elements of a value are the texts of a list. -/
def Lists (v : Value) (l : List String) : Prop := v.toList = .ok (l.map .text)

/-- A value is a name: its text, or a table with the name for its only key and nothing at it. -/
inductive Names (name : String) : Value → Prop where
  | text : Names name (.text name)
  | emptyTable {kind inner : TableKind} : Names name (.table kind [(name, .table inner [])])
  | emptyArray {kind : TableKind} : Names name (.table kind [(name, .array [])])

theorem Lists.unique {v : Value} {l l' : List String} (h : v.Lists l) (h' : v.Lists l') :
    l = l' := by
  have htexts : l.map text = l'.map text := Except.ok.inj (h.symm.trans h')
  exact (List.map_inj_right fun _ _ => text.inj).mp htexts

theorem Names.unique {v : Value} {a b : String} (ha : v.Names a) (hb : v.Names b) : a = b := by
  cases ha <;> cases hb <;> rfl

def NamesPolicy (v : Value) (p : Policy) : Prop := v.Names p.name

theorem NamesPolicy.unique {v : Value} {p q : Policy} (hp : v.NamesPolicy p)
    (hq : v.NamesPolicy q) : p = q :=
  Policy.name_injective (Names.unique hp hq)

/-- Policies are those that a structured value gives; one that it does not give is the standard
one. -/
def DescribesPolicies (v : Value) (d : Policies) : Prop :=
  (v.membersAs? ["forward", "backward"]).isSome ∧
    Taken NamesPolicy Policies.standard.forward
      (v.given? ["forward", "backward"] "forward") d.forward ∧
    Taken NamesPolicy Policies.standard.backward
      (v.given? ["forward", "backward"] "backward") d.backward

/-- A configuration has what a structured value gives; what it does not give is as in the standard
one. -/
def Describes (v : Value) (c : Config) : Prop :=
  (v.membersAs? ["default_extensions", "dispatch"]).isSome ∧
    Taken Lists Config.standard.defaultExtensions
      (v.given? ["default_extensions", "dispatch"] "default_extensions") c.defaultExtensions ∧
    Taken DescribesPolicies Policies.standard
      (v.given? ["default_extensions", "dispatch"] "dispatch") c.policies

/-! ## Reading them -/

theorem text_eq_ok_iff {v : Value} {s : String} : format.text v = .ok s ↔ v = .text s := by
  cases v <;> simp [format, toText]

theorem texts_eq_ok_iff {v : Value} {l : List String} :
    format.texts v = .ok l ↔ v.Lists l := by
  rw [Format.texts, bind_eq_ok_iff, Lists]
  constructor
  · rintro ⟨items, hitems, h⟩
    rw [← (mapM_eq_ok_iff text_eq_ok_iff).mp h]
    exact hitems
  · intro h
    exact ⟨_, h, (mapM_eq_ok_iff text_eq_ok_iff).mpr rfl⟩

theorem variant_eq_ok_iff {known : List String} {v : Value} {name : String} :
    format.variant known v = .ok name ↔ name ∈ known ∧ v.Names name := by
  constructor
  · intro h
    change toVariant known v = .ok name at h
    unfold toVariant at h
    split at h
    · split at h
      · next hknown =>
        obtain rfl := Except.ok.inj h
        exact ⟨List.contains_iff_mem.mp hknown, .text⟩
      · cases h
    · cases h
    · split at h
      · next hknown =>
        have hknown := List.contains_iff_mem.mp hknown
        split at h
        · obtain rfl := Except.ok.inj h
          exact ⟨hknown, .emptyTable⟩
        · obtain rfl := Except.ok.inj h
          exact ⟨hknown, .emptyArray⟩
        all_goals cases h
      · cases h
    all_goals cases h
  · rintro ⟨hknown, h⟩
    change toVariant known v = .ok name
    have hcontains : known.contains name = true := List.contains_iff_mem.mpr hknown
    cases h <;> simp only [toVariant, hcontains, if_true]

theorem fields_eq_ok_iff {expected : String} {declared : List String} {v : Value}
    {members : Entries} :
    format.fields expected declared v = .ok (members, none) ↔
      v.membersAs? declared = some members := by
  have hfields : format.fields expected declared v =
      match v.membersAs? declared with
      | some members => .ok (members, none)
      | none => .error (.wrongType v.found expected) := by
    cases v <;> rfl
  rw [hfields]
  cases v.membersAs? declared <;> simp

theorem keysOnce_membersAs? {v : Value} (hv : v.KeysOnce) {declared : List String}
    (hdeclared : declared.Nodup) {members : Entries} (h : v.membersAs? declared = some members) :
    Toml.KeysOnce members := by
  -- an array is read as members for the declared keys, which are distinct
  have hzip : ∀ {items : List Value}, (∀ v ∈ items, v.KeysOnce) →
      Toml.KeysOnce (declared.zip items) := fun {items} hitems =>
    ⟨nodup_keys_zip hdeclared items, fun member hmember =>
      hitems member.2 (List.of_mem_zip hmember).2⟩
  cases v with
  | table kind entries =>
      obtain rfl := Option.some.inj h
      exact .of_table hv
  | dateTime =>
      obtain rfl := Option.some.inj h
      exact .nil
  | array items =>
      obtain rfl := Option.some.inj h
      cases hv with
      | array hitems => exact hzip hitems
  | tables items =>
      obtain rfl := Option.some.inj h
      refine hzip ?_
      intro v hv'
      obtain ⟨entries, hentries, rfl⟩ := List.mem_map.mp hv'
      exact (KeysOnce.of_tables hv hentries).toTable _
  | _ => cases h

def meaning : Meaning Value where
  KeysOnce := KeysOnce
  members? := membersAs?
  Lists := Lists
  Names := Names

theorem describes_iff {v : Value} {c : Config} : v.Describes c ↔ meaning.Describes v c := Iff.rfl

theorem meaning_readBy : meaning.ReadBy format where
  fields_iff := fields_eq_ok_iff
  texts_iff := texts_eq_ok_iff
  variant_iff := variant_eq_ok_iff
  keysOnce hv hdeclared hmembers := keysOnce_membersAs? hv hdeclared hmembers

end Toml.Value

theorem Config.ofText_eq_ok_iff {s : String} {c : Config} :
    Config.ofText s = .ok c ↔
      ∃ document, Toml.parse? s.toList = some document ∧ document.Describes c := by
  rw [Config.ofText]
  cases hparse : Toml.parse? s.toList with
  | none => simp
  | some document =>
      obtain ⟨entries, rfl, hkeys⟩ := Toml.keysOnce_parse? hparse
      simp only [Option.some.injEq, exists_eq_left', Toml.Value.describes_iff]
      rw [← Toml.Value.meaning_readBy.readConfig_iff (hkeys.toTable .explicit)]
      cases Config.read Toml.Value.format (.table .explicit entries) <;> simp

end Lifecycle
