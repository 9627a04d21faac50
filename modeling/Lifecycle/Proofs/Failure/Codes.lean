import Lifecycle.Failure.Code
import Lifecycle.Proofs.Identity.QualifiedNames
import Lifecycle.Proofs.Text.Pieces
/-!
# The convention of error codes

A code is in upper snake case if it consists of words with single underscores between them.  Codes
that all keep the convention pass the check, and otherwise the first that does not is reported, with
the first thing that is wrong with it.
-/

namespace Lifecycle.ErrorCode

open Lifecycle.Text

def IsWordChar (c : Char) : Prop := ('A' ≤ c ∧ c ≤ 'Z') ∨ ('0' ≤ c ∧ c ≤ '9')

/-- A text consists of words, one at least and none of them empty, with single underscores between
them. -/
def UpperSnake (s : List Char) : Prop :=
  ∃ words : List (List Char), words ≠ [] ∧ (∀ word ∈ words, word ≠ [] ∧ ∀ c ∈ word, IsWordChar c) ∧
    s = ['_'].intercalate words

structure Conventional (mark code : String) : Prop where
  nonempty : code ≠ ""
  start : mark.toList <+: code.toList
  form : UpperSnake code.toList

/-- The first thing that is wrong with a code, as it is reported. -/
inductive Complaint (mark code : String) : String → Prop where
  | empty : code = "" → Complaint mark code "Error code must not be empty"
  | badStart : code ≠ "" → ¬ mark.toList <+: code.toList →
      Complaint mark code s!"Error code '{code}' must start with prefix '{mark}'"
  | badForm : code ≠ "" → mark.toList <+: code.toList → ¬ UpperSnake code.toList →
      Complaint mark code s!"Error code '{code}' must be UPPER_SNAKE_CASE"

/-! ## The form of a code -/

theorem not_isWordChar_underscore : ¬ IsWordChar '_' := by
  unfold IsWordChar
  decide

theorem isCodeChar_iff {c : Char} : isCodeChar c = true ↔ (c ≠ '_' → IsWordChar c) := by
  simp only [isCodeChar, IsWordChar, Bool.or_eq_true, Bool.and_eq_true, decide_eq_true_eq,
    beq_iff_eq]
  tauto

/-- The words of a text in upper snake case are the pieces between its underscores. -/
theorem upperSnake_iff_splitOn {s : List Char} :
    UpperSnake s ↔ ∀ word ∈ s.splitOn '_', word ≠ [] ∧ ∀ c ∈ word, IsWordChar c := by
  constructor
  · rintro ⟨words, hwords, hform, rfl⟩
    have hsplit : (['_'].intercalate words).splitOn '_' = words := by
      refine List.splitOn_intercalate '_' ?_ hwords
      intro word hword hunderscore
      exact not_isWordChar_underscore ((hform word hword).2 _ hunderscore)
    rwa [hsplit]
  · intro hform
    exact ⟨s.splitOn '_', List.splitOn_ne_nil _ _, hform, (List.intercalate_splitOn '_').symm⟩

theorem isUpperSnake_iff {s : List Char} : isUpperSnake s = true ↔ UpperSnake s := by
  have hnonempty : (∀ word ∈ s.splitOn '_', word ≠ []) ↔ [] ∉ s.splitOn '_' := by
    constructor
    · intro h hnil
      exact h [] hnil rfl
    · rintro h word hword rfl
      exact h hword
  have hchars : (∀ word ∈ s.splitOn '_', ∀ c ∈ word, IsWordChar c) ↔ s.all isCodeChar = true := by
    simp only [forall_mem_splitOn_iff, List.all_eq_true, isCodeChar_iff]
  have hdoubled : (!occursIn ['_', '_'] s) = true ↔ ¬ ['_', '_'] <:+: s := by
    rw [← occursIn_iff_isInfix, Bool.not_eq_true', Bool.not_eq_true]
  simp only [upperSnake_iff_splitOn, forall₂_and, hnonempty, hchars, nil_mem_splitOn_iff,
    isUpperSnake, Bool.and_eq_true, hdoubled]
  simp [and_assoc]

/-! ## Checking codes -/

section Checking

variable {mark code message : String}

theorem check_of_conventional (h : Conventional mark code) : check mark code = .ok () := by
  obtain ⟨hnonempty, hstart, hform⟩ := h
  have hchars : code.toList ≠ [] := fun h => hnonempty (String.toList_eq_nil_iff.mp h)
  have hbegins := List.isPrefixOf_iff_prefix.mpr hstart
  have hsnake := isUpperSnake_iff.mpr hform
  simp [check, hchars, hbegins, hsnake]

theorem check_of_complaint (h : Complaint mark code message) :
    (check mark code).mapError Fault.message = .error message := by
  have hchars : code ≠ "" → code.toList ≠ [] := fun hnonempty h =>
    hnonempty (String.toList_eq_nil_iff.mp h)
  cases h with
  | empty hempty =>
      subst hempty
      rfl
  | badStart hnonempty hstart =>
      rw [← List.isPrefixOf_iff_prefix, Bool.not_eq_true] at hstart
      simp only [check, hchars hnonempty, hstart, if_true, if_false]
      rfl
  | badForm hnonempty hstart hform =>
      rw [← isUpperSnake_iff, Bool.not_eq_true] at hform
      have hbegins := List.isPrefixOf_iff_prefix.mpr hstart
      simp only [check, hchars hnonempty, hbegins, hform, Bool.true_eq_false, if_true, if_false]
      rfl

theorem conventional_or_complaint (mark code : String) :
    Conventional mark code ∨ ∃ message, Complaint mark code message := by
  by_cases hempty : code = ""
  · exact .inr ⟨_, .empty hempty⟩
  by_cases hstart : mark.toList <+: code.toList
  case neg => exact .inr ⟨_, .badStart hempty hstart⟩
  by_cases hform : UpperSnake code.toList
  · exact .inl ⟨hempty, hstart, hform⟩
  · exact .inr ⟨_, .badForm hempty hstart hform⟩

theorem checkAll_append {before : List String} (h : ∀ code ∈ before, Conventional mark code)
    (codes : List String) : checkAll mark (before ++ codes) = checkAll mark codes := by
  induction before with
  | nil => rfl
  | cons code rest ih =>
      obtain ⟨hcode, hrest⟩ := List.forall_mem_cons.mp h
      rw [List.cons_append, checkAll, check_of_conventional hcode]
      exact ih hrest

theorem checkAll_of_conventional {codes : List String}
    (h : ∀ code ∈ codes, Conventional mark code) : checkAll mark codes = .ok () := by
  rw [← List.append_nil codes, checkAll_append h]
  rfl

theorem checkAll_of_complaint {before : List String}
    (hbefore : ∀ c ∈ before, Conventional mark c) (h : Complaint mark code message)
    (after : List String) :
    (checkAll mark (before ++ code :: after)).mapError Fault.message = .error message := by
  have hfirst := check_of_complaint h
  rw [checkAll_append hbefore, checkAll]
  cases hcheck : check mark code with
  | ok => rw [hcheck] at hfirst; cases hfirst
  | error fault => rwa [hcheck] at hfirst

theorem all_conventional_or_complaint (mark : String) (codes : List String) :
    (∀ code ∈ codes, Conventional mark code) ∨
      ∃ before code after message, codes = before ++ code :: after ∧
        (∀ c ∈ before, Conventional mark c) ∧ Complaint mark code message := by
  induction codes with
  | nil => exact .inl (by simp)
  | cons code rest ih =>
      rcases conventional_or_complaint mark code with hcode | ⟨message, hcomplaint⟩
      · rcases ih with hrest | ⟨before, bad, after, message, rfl, hbefore, hcomplaint⟩
        · exact .inl (List.forall_mem_cons.mpr ⟨hcode, hrest⟩)
        · exact .inr ⟨code :: before, bad, after, message, rfl,
            List.forall_mem_cons.mpr ⟨hcode, hbefore⟩, hcomplaint⟩
      · exact .inr ⟨[], code, rest, message, rfl, by simp, hcomplaint⟩

end Checking

/-- **The checker accepts the convention and nothing else.**  A text has the form of a code if and
only if it consists of words of capital letters and digits, none of them empty, with single
underscores between them.  Codes pass if each is not empty, begins with the mark and has the form.
Otherwise the first that falls short is reported: for being empty, or else for how it begins, or
else for its form. -/
theorem codes_checked_against_convention :
    (∀ s : String, isUpperSnake s.toList = true ↔ UpperSnake s.toList) ∧
      ∀ (mark : String) (codes : List String),
        (checkAll mark codes = .ok () ↔ ∀ code ∈ codes, Conventional mark code) ∧
        ∀ message, (checkAll mark codes).mapError Fault.message = .error message ↔
          ∃ before code after, codes = before ++ code :: after ∧
            (∀ c ∈ before, Conventional mark c) ∧ Complaint mark code message := by
  refine ⟨fun s => isUpperSnake_iff, fun mark codes => ⟨⟨?_, checkAll_of_conventional⟩, ?_⟩⟩
  · intro hok
    rcases all_conventional_or_complaint mark codes with
      hall | ⟨before, code, after, message, rfl, hbefore, hcomplaint⟩
    · exact hall
    · have herror := checkAll_of_complaint hbefore hcomplaint after
      rw [hok] at herror
      cases herror
  · intro message
    constructor
    · intro herror
      rcases all_conventional_or_complaint mark codes with
        hall | ⟨before, code, after, found, rfl, hbefore, hcomplaint⟩
      · rw [checkAll_of_conventional hall] at herror
        cases herror
      · rw [checkAll_of_complaint hbefore hcomplaint after] at herror
        obtain rfl := Except.error.inj herror
        exact ⟨before, code, after, rfl, hbefore, hcomplaint⟩
    · rintro ⟨before, code, after, rfl, hbefore, hcomplaint⟩
      exact checkAll_of_complaint hbefore hcomplaint after

/-- A doubled underscore is reported before the empty code that follows. -/
example : checkAll "EXT_" ["EXT_A", "EXT__B", ""] = .error (.badForm "EXT__B") := by decide

end Lifecycle.ErrorCode
