import Lifecycle.Proofs.Config.Meaning
/-!
# What a value says of a configuration

A value is read as the configuration that it describes.  Structured values are records, and lists
with members in the declared order, of which there may not be more than are declared.
-/

namespace Lifecycle.Value

/-! ## What values say -/

/-- All records of a value, itself included, have each key once. -/
inductive KeysOnce : Value → Prop where
  | null : KeysOnce .null
  | bool {b : Bool} : KeysOnce (.bool b)
  | int {n : Int} : KeysOnce (.int n)
  | float {x : Number.Binary64} : KeysOnce (.float x)
  | text {s : String} : KeysOnce (.text s)
  | list {items : List Value} : (∀ v ∈ items, KeysOnce v) → KeysOnce (.list items)
  | record {fields : Fields} : (fields.map (·.1)).Nodup → (∀ field ∈ fields, KeysOnce field.2) →
      KeysOnce (.record fields)

/-- The members of a structured value; those of a list belong to the declared keys in order. -/
def membersAs? (declared : List String) : Value → Option Fields
  | record fields => some fields
  | list items => if items.length ≤ declared.length then some (declared.zip items) else none
  | _ => none

def Lists (v : Value) (l : List String) : Prop := v = .list (l.map .text)

/-- A value is a name: its text, or a record with the name for its only key and nothing at it. -/
inductive Names (name : String) : Value → Prop where
  | text : Names name (.text name)
  | record : Names name (.record [(name, .null)])

def meaning : Meaning Value where
  KeysOnce := KeysOnce
  members? := membersAs?
  Lists := Lists
  Names := Names

/-! ## Reading them -/

theorem fields_eq_ok_iff {expected : String} {declared : List String} {v : Value}
    {members : Fields} :
    format.fields expected declared v = .ok (members, none) ↔
      v.membersAs? declared = some members := by
  cases v with
  | list items =>
      have hfields : format.fields expected declared (.list items) =
          .ok (declared.zip items, if declared.length < items.length then
            some (.wrongLength items.length "fewer elements in array") else none) := by
        simp [Format.fields, format, toMembers, bind, Except.bind, pure, Except.pure]
      rw [hfields, membersAs?]
      by_cases hsurplus : declared.length < items.length
      · simp [hsurplus, Nat.not_le.mpr hsurplus]
      · simp [hsurplus, Nat.not_lt.mp hsurplus]
  | record fields =>
      have hfields : format.fields expected declared (.record fields) = .ok (fields, none) := rfl
      simp [hfields, membersAs?]
  | null | bool | int | float | text =>
      constructor
      · intro h
        cases h
      · intro h
        cases h

theorem texts_eq_ok_iff {v : Value} {l : List String} :
    format.texts v = .ok l ↔ v.Lists l := by
  have htext : ∀ {v : Value} {s : String}, format.text v = .ok s ↔ v = .text s := by
    intro v s
    cases v <;> simp [format, toText]
  rw [Format.texts, bind_eq_ok_iff, Lists]
  constructor
  · rintro ⟨items, hitems, h⟩
    have hv : v = .list items := by
      cases v <;> simp_all [format, toList]
    rw [hv, (mapM_eq_ok_iff htext).mp h]
  · rintro rfl
    exact ⟨_, rfl, (mapM_eq_ok_iff htext).mpr rfl⟩

theorem variant_eq_ok_iff {known : List String} {v : Value} {name : String} :
    format.variant known v = .ok name ↔ name ∈ known ∧ v.Names name := by
  change toVariant known v = .ok name ↔ _
  constructor
  · intro h
    unfold toVariant at h
    split at h
    · split at h
      · next hknown =>
        obtain rfl := Except.ok.inj h
        exact ⟨List.contains_iff_mem.mp hknown, .text⟩
      · cases h
    · split at h
      · next hknown =>
        split at h
        · obtain rfl := Except.ok.inj h
          exact ⟨List.contains_iff_mem.mp hknown, .record⟩
        · cases h
      · cases h
    all_goals cases h
  · rintro ⟨hknown, h⟩
    have hcontains : known.contains name = true := List.contains_iff_mem.mpr hknown
    cases h <;> simp only [toVariant, hcontains, if_true]

theorem keysOnce_membersAs? {v : Value} (hv : v.KeysOnce) {declared : List String}
    (hdeclared : declared.Nodup) {members : Fields} (h : v.membersAs? declared = some members) :
    (members.map (·.1)).Nodup ∧ ∀ member ∈ members, member.2.KeysOnce := by
  cases v with
  | list items =>
      obtain ⟨-, h⟩ := Option.ite_none_right_eq_some.mp h
      obtain rfl := Option.some.inj h
      cases hv with
      | list hitems =>
          exact ⟨nodup_keys_zip hdeclared items, fun member hmember =>
            hitems member.2 (List.of_mem_zip hmember).2⟩
  | record fields =>
      obtain rfl := Option.some.inj h
      cases hv with
      | record hkeys hvalues => exact ⟨hkeys, hvalues⟩
  | null | bool | int | float | text => cases h

theorem meaning_readBy : meaning.ReadBy format where
  fields_iff := fields_eq_ok_iff
  texts_iff := texts_eq_ok_iff
  variant_iff := variant_eq_ok_iff
  keysOnce hv hdeclared hmembers := keysOnce_membersAs? hv hdeclared hmembers

end Lifecycle.Value
