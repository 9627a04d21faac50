import Lifecycle.Proofs.Json.Values
import Lifecycle.Scope.Record
/-!
# Qualified names

A qualified name is cut at the first separator, so that it is read as the type it was written for
exactly if the space of the type does not make a separator of its own, neither inside nor together
with the first colon that follows it.
-/

namespace Lifecycle

open Lifecycle.Text

/-! ## Cutting at the first separator -/

namespace Text

theorem occursIn_iff_isInfix {part s : List Char} : occursIn part s = true ↔ part <:+: s := by
  unfold occursIn
  induction s with
  | nil =>
      by_cases hpart : part = []
      · simp [cutAt, hpart]
      · simp [cutAt, hpart]
  | cons c rest ih =>
      rw [cutAt, List.infix_cons_iff, ← ih]
      by_cases hfirst : part <+: c :: rest
      · simp [hfirst]
      · simp [hfirst]

/-- A text is cut at a separator if the separator does not come about earlier, not even together
with all but the last of its characters. -/
theorem cutAt_append_eq_iff {sep : List Char} (hsep : sep ≠ []) (before after : List Char) :
    cutAt sep (before ++ sep ++ after) = some (before, after) ↔
      ¬ sep <:+: before ++ sep.dropLast := by
  have hshort : sep.dropLast.length < sep.length := by
    rw [List.length_dropLast]
    have := List.length_pos_iff.mpr hsep
    omega
  induction before with
  | nil =>
      obtain ⟨c, rest, rfl⟩ := List.exists_cons_of_ne_nil hsep
      have hfirst : (c :: rest).isPrefixOf (c :: (rest ++ after)) = true :=
        List.isPrefixOf_iff_prefix.mpr (List.prefix_append (c :: rest) after)
      have hlate : ¬ (c :: rest) <:+: (c :: rest).dropLast := fun h =>
        absurd h.length_le (Nat.not_le.mpr hshort)
      simp [cutAt, hfirst, hlate]
  | cons c before ih =>
      -- an occurrence at the very front ends before the last character of the separator
      have hfront : sep <+: c :: (before ++ sep ++ after) ↔
          sep <+: c :: (before ++ sep.dropLast) := by
        have hwhole : c :: (before ++ sep ++ after) =
            c :: (before ++ sep.dropLast) ++ (sep.getLast hsep :: after) :=
          calc c :: (before ++ sep ++ after)
              = c :: (before ++ (sep.dropLast ++ [sep.getLast hsep]) ++ after) := by
                rw [List.dropLast_concat_getLast hsep]
            _ = c :: (before ++ sep.dropLast) ++ (sep.getLast hsep :: after) := by simp
        rw [hwhole]
        refine ⟨fun h => ?_, fun h => h.trans (List.prefix_append _ _)⟩
        refine List.prefix_of_prefix_length_le h (List.prefix_append _ _) ?_
        simp only [List.length_cons, List.length_append, List.length_dropLast]
        omega
      rw [List.cons_append, List.cons_append, List.cons_append, List.infix_cons_iff, not_or,
        ← hfront]
      generalize before ++ sep ++ after = s at ih ⊢
      refine Iff.trans ?_ (and_congr_right fun _ => ih)
      rw [cutAt]
      by_cases hfirst : sep <+: c :: s
      · simp [hfirst]
      · simp [hfirst]

end Text

/-! ## Names and types -/

namespace TypeId

structure IsSide (s : String) : Prop where
  nonempty : s ≠ ""
  noSeparator : ¬ separator <:+: s.toList
  noBlank : ∀ c ∈ s.toList, isBlank c = false

/-- The space of a type has no separator in it, and does not begin one with its last character. -/
structure PlainSpace (t : TypeId) : Prop where
  noSeparator : ¬ separator <:+: t.space.toList
  noColonAtEnd : ¬ [':'] <:+ t.space.toList

/-- A type whose qualified name can be read as the type. -/
structure Proper (t : TypeId) : Prop where
  space : IsSide t.space
  name : IsSide t.name
  noColonAtEnd : ¬ [':'] <:+ t.space.toList

theorem isPart_iff {s : String} : isPart s.toList = true ↔ IsSide s := by
  have hoccurs : occursIn separator s.toList = false ↔ ¬ separator <:+: s.toList := by
    rw [← occursIn_iff_isInfix, Bool.not_eq_true]
  have hblank : s.toList.any isBlank = false ↔ ∀ c ∈ s.toList, isBlank c = false := by
    rw [List.any_eq_false]
    simp only [Bool.not_eq_true]
  have hempty : s.toList.isEmpty = false ↔ s ≠ "" := by
    rw [← Bool.not_eq_true, List.isEmpty_iff]
    exact not_congr String.toList_eq_nil_iff
  unfold isPart
  rw [Bool.and_eq_true, Bool.and_eq_true, Bool.not_eq_true', Bool.not_eq_true', Bool.not_eq_true',
    hempty, hoccurs, hblank]
  exact ⟨fun h => ⟨h.1.1, h.1.2, h.2⟩, fun h => ⟨⟨h.nonempty, h.noSeparator⟩, h.noBlank⟩⟩

theorem toList_qualified (t : TypeId) :
    t.qualified.toList = t.space.toList ++ separator ++ t.name.toList := by
  simp [qualified, separator]

theorem plainSpace_iff {t : TypeId} :
    t.PlainSpace ↔ ¬ separator <:+: t.space.toList ++ separator.dropLast := by
  -- a separator that ends with the added colon begins with the last character of the space
  have hend : separator <:+ t.space.toList ++ [':'] ↔ [':'] <:+ t.space.toList := by
    rw [List.suffix_concat_iff]
    constructor
    · rintro (hempty | ⟨front, hfront, hsuffix⟩)
      · cases hempty
      · have hcolons : [':'] ++ [':'] = front ++ [':'] := hfront
        rwa [List.append_cancel_right hcolons]
    · intro hsuffix
      exact .inr ⟨[':'], rfl, hsuffix⟩
  have hdropLast : separator.dropLast = [':'] := rfl
  rw [hdropLast, List.infix_concat_iff, hend, not_or]
  exact ⟨fun h => ⟨h.noColonAtEnd, h.noSeparator⟩, fun h => ⟨h.2, h.1⟩⟩

/-- A qualified name is cut where it was joined exactly if the space is plain. -/
theorem cutAt_qualified_iff {t : TypeId} :
    cutAt separator t.qualified.toList = some (t.space.toList, t.name.toList) ↔ t.PlainSpace := by
  have hsep : separator ≠ [] := by decide
  rw [toList_qualified, cutAt_append_eq_iff hsep, plainSpace_iff]

theorem Proper.plainSpace {t : TypeId} (h : t.Proper) : t.PlainSpace :=
  ⟨h.space.noSeparator, h.noColonAtEnd⟩

/-- Reading a qualified name is finding the proper type that it is the name of. -/
theorem parse?_eq_some_iff {s : String} {t : TypeId} :
    parse? s = some t ↔ t.qualified = s ∧ t.Proper := by
  constructor
  · intro h
    obtain rfl := qualified_of_parse? h
    refine ⟨rfl, ?_⟩
    rw [parse?] at h
    split at h
    · next space name hcut =>
      split at h
      · next hparts =>
        obtain rfl := Option.some.inj h
        rw [Bool.and_eq_true] at hparts
        have hplain : PlainSpace ⟨String.ofList space, String.ofList name⟩ :=
          cutAt_qualified_iff.mp (by simpa only [String.toList_ofList] using hcut)
        refine ⟨isPart_iff.mp ?_, isPart_iff.mp ?_, hplain.noColonAtEnd⟩
        · simpa only [String.toList_ofList] using hparts.1
        · simpa only [String.toList_ofList] using hparts.2
      · cases h
    · cases h
  · rintro ⟨rfl, hproper⟩
    rw [parse?, cutAt_qualified_iff.mpr hproper.plainSpace]
    simp only [isPart_iff.mpr hproper.space, isPart_iff.mpr hproper.name, Bool.and_self, if_true,
      String.ofList_toList]

theorem parse?_eq_none_iff {s : String} :
    parse? s = none ↔ ∀ t : TypeId, t.Proper → t.qualified ≠ s := by
  rw [Option.eq_none_iff_forall_ne_some]
  refine forall_congr' fun t => ?_
  rw [Ne, parse?_eq_some_iff, not_and']

/-! ## Types as values and as JSON -/

theorem ofValue_text (s : String) :
    ofValue (.text s) = match parse? s with
      | some t => .ok t
      | none => .error (.badTypeName s) := rfl

theorem ofValue_toValue_eq_ok_iff {t other : TypeId} :
    ofValue t.toValue = .ok other ↔ other.qualified = t.qualified ∧ other.Proper := by
  rw [← parse?_eq_some_iff, toValue, ofValue_text]
  cases parse? t.qualified <;> simp

theorem ofValue_toValue_eq_error_iff {t : TypeId} {e : ReadError} :
    ofValue t.toValue = .error e ↔
      e = .badTypeName t.qualified ∧ ∀ other : TypeId, other.Proper →
        other.qualified ≠ t.qualified := by
  rw [← parse?_eq_none_iff, toValue, ofValue_text]
  cases parse? t.qualified <;> simp [eq_comm]

theorem parse?_text_toValue (t : TypeId) : Json.parse? (Json.text t.toValue) = some t.toValue :=
  Json.parse?_text (.text t.qualified)

/-- **Names are read as they are written.**  A text is read as a type exactly if it is what the type
is written as, shown as and serialized as, and the type is proper: neither side is empty or has a
blank or a separator in it, and the space does not end with a colon.  So a type is had back from its
name, its value and its JSON text exactly if it is proper.  From the name of one that is not, either
nothing is read or another type with the same identifier. -/
theorem names_read_as_written :
    (∀ (s : String) (t : TypeId), parse? s = some t ↔
      (t.qualified = s ∧ toString t = s ∧ t.toValue = .text s ∧
        Json.parse? (Json.text t.toValue) = some (.text s)) ∧ t.Proper) ∧
    ∀ space name : String,
      let t : TypeId := ⟨space, name⟩
      (parse? t.qualified = some t ↔ t.Proper) ∧
      (ofValue t.toValue = .ok t ↔ t.Proper) ∧
      ((Json.parse? (Json.text t.toValue)).map ofValue = some (.ok t) ↔ t.Proper) ∧
      match ofValue t.toValue with
      | .ok other => other.Proper ∧ other.qualified = t.qualified ∧ other.uuid = t.uuid
      | .error e => e = .badTypeName t.qualified ∧
          ∀ other : TypeId, other.Proper → other.qualified ≠ t.qualified := by
  refine ⟨?_, ?_⟩
  · intro s t
    rw [parse?_eq_some_iff, parse?_text_toValue]
    refine and_congr_left fun _ => ⟨?_, fun h => h.1⟩
    rintro rfl
    exact ⟨rfl, rfl, rfl, rfl⟩
  · intro space name t
    have hname : parse? t.qualified = some t ↔ t.Proper := by
      rw [parse?_eq_some_iff]
      exact and_iff_right rfl
    have hvalue : ofValue t.toValue = .ok t ↔ t.Proper := by
      rw [ofValue_toValue_eq_ok_iff]
      exact and_iff_right rfl
    refine ⟨hname, hvalue, ?_, ?_⟩
    · rw [parse?_text_toValue, Option.map_some, Option.some_inj]
      exact hvalue
    · split
      · next other hread =>
        obtain ⟨hqualified, hproper⟩ := ofValue_toValue_eq_ok_iff.mp hread
        refine ⟨hproper, hqualified, ?_⟩
        rw [uuid, uuid, hqualified]
      · next e hread => exact ofValue_toValue_eq_error_iff.mp hread

/-- Colons beyond a separator go to the name, so that a space with one at its end is not had
back. -/
example : parse? "a:::b" = some ⟨"a", ":b"⟩ ∧ parse? (qualified ⟨"a:", "b"⟩) = some ⟨"a", ":b"⟩ ∧
    parse? "a::b::c" = none := by
  decide +kernel

end TypeId

end Lifecycle
