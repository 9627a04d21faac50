import Lifecycle.Phase.SetText
import Lifecycle.Proofs.Reading
import Lifecycle.Proofs.Text.Digits
import Lifecycle.Proofs.Text.Pieces
/-!
# Parts of a written set

Each part of a written set denotes a set by itself: one phase by the name of its flag, or any bits
by a hexadecimal number.  A text is read if each of its parts denotes a set, and what is read is
their union.
-/

namespace Lifecycle

open Lifecycle.Text

theorem Phase.flagName_of_ofFlagName? {s : String} {p : Phase}
    (h : Phase.ofFlagName? s = some p) : p.flagName = s := by
  simpa using List.find?_some h

namespace PhaseSet

/-! ## What a part denotes -/

/-- The part is the name of a phase, which is all that is in the set, or it is `0x` with the bits of
the set in hexadecimal digits, a plus sign in front of them or none. -/
inductive Denotes : List Char → PhaseSet → Prop where
  | flag (p : Phase) : Denotes p.flagName.toList p.toSet
  | bits {sign digits : List Char} {n : Nat} : sign = [] ∨ sign = ['+'] → digits ≠ [] →
      readDigits? 16 digits = some n → n < 65536 →
      Denotes ('0' :: 'x' :: (sign ++ digits)) ⟨BitVec.ofNat 16 n⟩

/-- The text can stand between two bars by itself: it is not empty, has no bar and no blanks at
its ends. -/
structure IsPart (part : List Char) : Prop where
  ne_nil : part ≠ []
  no_bar : '|' ∉ part
  trimmed : trim part = part

theorem IsPart.not_blank {part : List Char} (h : IsPart part) : ¬ Blank part := by
  intro hblank
  exact h.ne_nil (h.trimmed.symm.trans (trim_eq_nil_iff.mpr hblank))

def isPlain (c : Char) : Bool := !isBlank c && c != '|'

theorem isPart_of_all {part : List Char} (hne : part ≠ []) (h : part.all isPlain = true) :
    IsPart part where
  ne_nil := hne
  no_bar := fun hmem => absurd (List.all_eq_true.mp h '|' hmem) (by decide)
  trimmed := by
    refine trim_of_forall_not_blank fun c hc => ?_
    have hplain := List.all_eq_true.mp h c hc
    rw [isPlain, Bool.and_eq_true, Bool.not_eq_true'] at hplain
    exact hplain.1

theorem isPlain_of_isDigitOf {base : Nat} {c : Char} (h : isDigitOf base c = true) :
    isPlain c = true := by
  have hbar : c ≠ '|' := by
    rintro rfl
    cases h
  simp [isPlain, not_blank_of_isDigitOf h, hbar]

theorem isPart_flagName (p : Phase) : IsPart p.flagName.toList := by
  cases p <;> exact isPart_of_all (by decide) (by decide)

theorem Denotes.isPart {part : List Char} {v : PhaseSet} (h : Denotes part v) : IsPart part := by
  cases h with
  | flag p => exact isPart_flagName p
  | @bits sign digits n hsign _ hread _ =>
      have hplus : sign.all isPlain = true := by
        rcases hsign with rfl | rfl <;> decide
      have hdigits : digits.all isPlain = true := List.all_eq_true.mpr fun c hc =>
        isPlain_of_isDigitOf (isDigitOf_of_readDigitsFrom? hread c hc)
      refine isPart_of_all (List.cons_ne_nil _ _) ?_
      rw [List.all_cons, List.all_cons, List.all_append, hplus, hdigits]
      rfl

/-! ## Reading a part -/

/-- The set with the bits of a number, by its hexadecimal digits without a sign. -/
def ofDigits? (digits : List Char) : Option PhaseSet :=
  if digits = [] then none
  else
    match readDigits? 16 digits with
    | some n => if n < 65536 then some ⟨BitVec.ofNat 16 n⟩ else none
    | none => none

theorem ofDigits?_eq_some_iff {digits : List Char} {v : PhaseSet} :
    ofDigits? digits = some v ↔ digits ≠ [] ∧ ∃ n, readDigits? 16 digits = some n ∧ n < 65536 ∧
      (⟨BitVec.ofNat 16 n⟩ : PhaseSet) = v := by
  rw [ofDigits?]
  split
  · next hnone => simp [hnone]
  · next hne =>
      split
      · next n hread => simp [hne, hread]
      · next hread => simp [hread]

theorem ofHex?_plus (digits : List Char) : ofHex? ('+' :: digits) = ofDigits? digits := rfl

theorem ofHex?_unsigned {digits : List Char} (h : ∀ rest, digits ≠ '+' :: rest) :
    ofHex? digits = ofDigits? digits := by
  rw [ofHex?]
  · rfl
  · exact h

theorem ofHex?_eq_some_iff {s : List Char} {v : PhaseSet} :
    ofHex? s = some v ↔ ∃ sign digits, (sign = [] ∨ sign = ['+']) ∧ s = sign ++ digits ∧
      ofDigits? digits = some v := by
  constructor
  · intro h
    by_cases hplus : ∃ rest, s = '+' :: rest
    · obtain ⟨rest, rfl⟩ := hplus
      rw [ofHex?_plus] at h
      exact ⟨['+'], rest, .inr rfl, rfl, h⟩
    · rw [ofHex?_unsigned (not_exists.mp hplus)] at h
      exact ⟨[], s, .inl rfl, rfl, h⟩
  · rintro ⟨_, _, rfl | rfl, rfl, h⟩
    · -- a sign is no digit
      have hunsigned : ∀ rest, s ≠ '+' :: rest := by
        rintro rest rfl
        obtain ⟨-, n, hread, -, -⟩ := ofDigits?_eq_some_iff.mp h
        exact absurd (isDigitOf_of_readDigitsFrom? hread '+' List.mem_cons_self) (by decide)
      rw [ofHex?_unsigned hunsigned, h]
    · rw [List.singleton_append, ofHex?_plus, h]

theorem ofPart_eq_ok_iff {part : List Char} {v : PhaseSet} :
    ofPart part = .ok v ↔ Denotes part v := by
  constructor
  · intro h
    unfold ofPart at h
    split at h
    · cases h
    · next digits =>
        split at h
        · next s hhex =>
            obtain rfl := Except.ok.inj h
            obtain ⟨sign, digits, hsign, rfl, hdigits⟩ := ofHex?_eq_some_iff.mp hhex
            obtain ⟨hne, n, hread, hlt, rfl⟩ := ofDigits?_eq_some_iff.mp hdigits
            exact .bits hsign hne hread hlt
        · cases h
    · split at h
      · next p hflag =>
          obtain rfl := Except.ok.inj h
          have hname := Phase.flagName_of_ofFlagName? hflag
          rw [← String.toList_inj, String.toList_ofList] at hname
          rw [← hname]
          exact .flag p
      · cases h
  · intro h
    cases h with
    | flag p => cases p <;> rfl
    | bits hsign hne hread hlt =>
        have hdigits := ofDigits?_eq_some_iff.mpr ⟨hne, _, hread, hlt, rfl⟩
        rw [ofPart, ofHex?_eq_some_iff.mpr ⟨_, _, hsign, rfl, hdigits⟩]

/-! ## Reading a text -/

/-- The texts between bars, without the blanks around them.  A text of nothing but blanks has no
parts. -/
def partsOf (s : String) : List (List Char) :=
  if Blank s.toList then [] else (s.toList.splitOn '|').map trim

theorem ofParts_eq_foldlM (start : PhaseSet) (texts : List (List Char)) :
    ofParts start texts =
      (texts.map trim).foldlM (fun s part => (ofPart part).map (s ∪ ·)) start := by
  induction texts generalizing start with
  | nil => rfl
  | cons text texts ih =>
      rw [ofParts, List.map_cons, List.foldlM_cons]
      cases ofPart (trim text) with
      | ok v => exact ih (start ∪ v)
      | error e => rfl

theorem ofParts_eq_ok_iff {start s : PhaseSet} {texts : List (List Char)} :
    ofParts start texts = .ok s ↔
      ∃ values, List.Forall₂ Denotes (texts.map trim) values ∧ s = values.foldl (· ∪ ·) start := by
  rw [ofParts_eq_foldlM]
  exact foldlM_map_eq_ok_iff ofPart_eq_ok_iff

theorem ofText_eq_ok_iff_union {text : String} {s : PhaseSet} :
    ofText text = .ok s ↔
      ∃ values, List.Forall₂ Denotes (partsOf text) values ∧ s = values.foldl (· ∪ ·) ∅ := by
  rw [ofText, partsOf]
  split
  · next hnone => simp [trim_eq_nil_iff.mp hnone, eq_comm]
  · next hsome =>
      have hblank : ¬ Blank text.toList := fun hblank => hsome (trim_eq_nil_iff.mpr hblank)
      rw [if_neg hblank, pieces_eq_splitOn, ofParts_eq_ok_iff, map_trim_splitOn_trim (by decide)]

end PhaseSet

end Lifecycle
