import Lifecycle.Proofs.Phase.Parts
/-!
# Spellings of a set of phases

What is read from a text depends on which parts it has, and on nothing else: their order, repeated
parts and the blanks around them make no difference.  The text that a set is written as is one of
its spellings.
-/

namespace Lifecycle.PhaseSet

open Lifecycle.Text

/-! ## Unions -/

theorem eq_of_getLsbD {s t : PhaseSet} (h : ∀ i, s.bits.getLsbD i = t.bits.getLsbD i) : s = t := by
  cases s
  cases t
  exact congrArg PhaseSet.mk (BitVec.eq_of_getLsbD_eq fun i _ => h i)

theorem bits_foldl_union (values : List PhaseSet) (start : PhaseSet) :
    (values.foldl (· ∪ ·) start).bits = (values.map (·.bits)).foldl (· ||| ·) start.bits := by
  induction values generalizing start with
  | nil => rfl
  | cons v values ih => exact ih (start ∪ v)

theorem getLsbD_foldl_union (values : List PhaseSet) (start : PhaseSet) (i : Nat) :
    (values.foldl (· ∪ ·) start).bits.getLsbD i =
      (start.bits.getLsbD i || values.any fun v => v.bits.getLsbD i) := by
  induction values generalizing start with
  | nil => simp
  | cons v values ih =>
      have hunion : (start ∪ v).bits.getLsbD i = (start.bits.getLsbD i || v.bits.getLsbD i) :=
        BitVec.getLsbD_or
      rw [List.foldl_cons, ih, hunion, List.any_cons, Bool.or_assoc]

theorem foldl_union_congr {values others : List PhaseSet} (h : ∀ v, v ∈ values ↔ v ∈ others)
    (start : PhaseSet) : values.foldl (· ∪ ·) start = others.foldl (· ∪ ·) start := by
  refine eq_of_getLsbD fun i => ?_
  have hany : (values.any fun v => v.bits.getLsbD i) = others.any fun v => v.bits.getLsbD i := by
    rw [Bool.eq_iff_iff]
    simp only [List.any_eq_true, h]
  rw [getLsbD_foldl_union, getLsbD_foldl_union, hany]

/-! ## Texts with the same parts -/

theorem Denotes.unique {part : List Char} {v w : PhaseSet} (hv : Denotes part v)
    (hw : Denotes part w) : v = w :=
  Except.ok.inj ((ofPart_eq_ok_iff.mpr hv).symm.trans (ofPart_eq_ok_iff.mpr hw))

theorem mem_values_iff {parts : List (List Char)} {values : List PhaseSet}
    (h : List.Forall₂ Denotes parts values) {v : PhaseSet} :
    v ∈ values ↔ ∃ part ∈ parts, Denotes part v := by
  induction h with
  | nil => simp
  | @cons part w parts values hw _ ih =>
      have hfirst : v = w ↔ Denotes part v :=
        ⟨fun heq => heq ▸ hw, fun hv => hv.unique hw⟩
      rw [List.mem_cons, hfirst, ih]
      simp

theorem ofText_eq_ok_of_same_parts {text other : String} {s : PhaseSet}
    (h : ofText text = .ok s) (hparts : ∀ part, part ∈ partsOf other ↔ part ∈ partsOf text) :
    ofText other = .ok s := by
  obtain ⟨values, hvalues, hs⟩ := ofText_eq_ok_iff_union.mp h
  have hread := exists_forall₂_iff.mp ⟨values, hvalues⟩
  obtain ⟨others, hothers⟩ := exists_forall₂_iff.mpr fun part hpart =>
    hread part ((hparts part).mp hpart)
  have hsame : ∀ v, v ∈ values ↔ v ∈ others := by
    intro v
    rw [mem_values_iff hvalues, mem_values_iff hothers]
    simp only [hparts]
  rw [foldl_union_congr hsame] at hs
  exact ofText_eq_ok_iff_union.mpr ⟨others, hothers, hs⟩

/-! ## Respelling a text -/

/-- Texts that are not blank and have no bars are the parts, but for blanks, of what they are joined
to by bars, with blanks around each bar or none. -/
theorem partsOf_join {l r : List Char} (hl : Blank l) (hr : Blank r) {texts : List (List Char)}
    (hbars : ∀ t ∈ texts, '|' ∉ t) (hblanks : ∀ t ∈ texts, ¬ Blank t) :
    partsOf (String.ofList (join (l ++ '|' :: r) texts)) = texts.map trim := by
  rw [partsOf, String.toList_ofList]
  cases texts with
  | nil => rfl
  | cons t texts =>
      have hblank : ¬ Blank (join (l ++ '|' :: r) (t :: texts)) := by
        intro hblank
        exact hblanks t List.mem_cons_self fun c hc =>
          hblank c (mem_join_of_mem List.mem_cons_self hc)
      rw [if_neg hblank, map_trim_splitOn_join (by decide) hl hr (List.cons_ne_nil t texts) hbars]

structure PaddedPart where
  before : List Char
  part : List Char
  after : List Char
  blank_before : Blank before
  blank_after : Blank after

def PaddedPart.text (p : PaddedPart) : List Char := p.before ++ p.part ++ p.after

def spelled (padded : List PaddedPart) : String :=
  String.ofList (join ['|'] (padded.map PaddedPart.text))

namespace PaddedPart

theorem trim_text (p : PaddedPart) : trim p.text = trim p.part := by
  rw [text, trim_append_right p.blank_after, trim_append_left p.blank_before]

theorem no_bar_text {p : PaddedPart} (h : IsPart p.part) : '|' ∉ p.text := by
  rw [text, List.mem_append, List.mem_append, not_or, not_or]
  exact ⟨⟨not_mem_of_blank (by decide) p.blank_before, h.no_bar⟩,
    not_mem_of_blank (by decide) p.blank_after⟩

theorem not_blank_text {p : PaddedPart} (h : IsPart p.part) : ¬ Blank p.text := by
  rw [text, blank_append, blank_append]
  rintro ⟨⟨-, hblank⟩, -⟩
  exact h.not_blank hblank

end PaddedPart

theorem partsOf_spelled {padded : List PaddedPart} (h : ∀ p ∈ padded, IsPart p.part) :
    partsOf (spelled padded) = padded.map (·.part) := by
  have htexts : (padded.map PaddedPart.text).map trim = padded.map (·.part) := by
    rw [List.map_map]
    refine List.map_congr_left fun p hp => ?_
    exact p.trim_text.trans (h p hp).trimmed
  rw [← htexts, spelled]
  refine partsOf_join (l := []) (r := []) (by decide) (by decide) ?_ ?_
  · simpa using fun p hp => PaddedPart.no_bar_text (h p hp)
  · simpa using fun p hp => PaddedPart.not_blank_text (h p hp)

/-! ## The text that a set is written as -/

def partValues (s : PhaseSet) : List PhaseSet :=
  s.phases.map Phase.toSet ++ if s.unknown.isEmpty then [] else [s.unknown]

theorem denotes_digits (s : PhaseSet) :
    Denotes ('0' :: 'x' :: digitsOf 16 s.bits.toNat) s := by
  have hread : readDigits? 16 (Nat.toDigits 16 s.bits.toNat) = some s.bits.toNat :=
    readDigits?_toDigits (by decide) (by decide) s.bits.toNat
  have hbits := Denotes.bits (.inl rfl) Nat.toDigits_ne_nil hread s.bits.isLt
  rwa [BitVec.ofNat_toNat, BitVec.setWidth_eq] at hbits

theorem denotes_parts (s : PhaseSet) : List.Forall₂ Denotes s.parts s.partValues := by
  refine List.rel_append ?_ ?_
  · rw [List.forall₂_map_left_iff, List.forall₂_map_right_iff, List.forall₂_same]
    exact fun p _ => .flag p
  · rw [hexPart]
    split
    · exact .nil
    · exact .cons (denotes_digits _) .nil

theorem isPart_of_mem_parts {s : PhaseSet} {part : List Char} (h : part ∈ s.parts) :
    IsPart part := by
  obtain ⟨v, hv⟩ := exists_forall₂_iff.mp ⟨_, s.denotes_parts⟩ part h
  exact hv.isPart

theorem partsOf_toText (s : PhaseSet) : partsOf s.toText = s.parts := by
  have hblank : Blank [' '] := by decide
  have htrim : s.parts.map trim = s.parts := by
    nth_rewrite 2 [← List.map_id s.parts]
    exact List.map_congr_left fun part hpart => (isPart_of_mem_parts hpart).trimmed
  rw [toText, separator, ← List.singleton_append, partsOf_join hblank hblank, htrim]
  · exact fun part hpart => (isPart_of_mem_parts hpart).no_bar
  · exact fun part hpart => (isPart_of_mem_parts hpart).not_blank

theorem getLsbD_toSet (p : Phase) (i : Nat) : p.toSet.bits.getLsbD i = decide (p.index = i) := by
  have hlt := p.index_lt
  simp [Phase.toSet, BitVec.getLsbD_twoPow, show p.index < 16 by omega]

theorem exists_index_eq {i : Nat} (h : i < 9) : ∃ p : Phase, p.index = i := by
  have hall : ∀ i : Fin 9, ∃ p ∈ Phase.all, p.index = i.val := by decide
  obtain ⟨p, -, hp⟩ := hall ⟨i, h⟩
  exact ⟨p, hp⟩

theorem any_phases (s : PhaseSet) (i : Nat) :
    (s.phases.any fun p => p.toSet.bits.getLsbD i) = (s.bits.getLsbD i && decide (i < 9)) := by
  rw [Bool.eq_iff_iff]
  simp only [List.any_eq_true, mem_phases, includes_eq_getLsbD, getLsbD_toSet,
    decide_eq_true_eq, Bool.and_eq_true]
  constructor
  · rintro ⟨p, hbit, rfl⟩
    exact ⟨hbit, p.index_lt⟩
  · rintro ⟨hbit, hi⟩
    obtain ⟨p, rfl⟩ := exists_index_eq hi
    exact ⟨p, hbit, rfl⟩

theorem getLsbD_full (i : Nat) : full.bits.getLsbD i = decide (i < 9) := by
  have hbits : full.bits = BitVec.setWidth 16 (BitVec.allOnes 9) := by decide
  rw [hbits, BitVec.getLsbD_setWidth, BitVec.getLsbD_allOnes, ← Bool.decide_and,
    decide_eq_decide]
  omega

theorem getLsbD_unknown (s : PhaseSet) (i : Nat) :
    s.unknown.bits.getLsbD i = (s.bits.getLsbD i && !decide (i < 9)) := by
  have hbits : s.unknown.bits = s.bits &&& ~~~full.bits := rfl
  rw [hbits, BitVec.getLsbD_and, BitVec.getLsbD_not, getLsbD_full]
  by_cases hi : i < 16
  · simp [hi]
  · simp [BitVec.getLsbD_of_ge s.bits i (by omega)]

theorem any_unknown (s : PhaseSet) (i : Nat) :
    ((if s.unknown.isEmpty then [] else [s.unknown]).any fun v => v.bits.getLsbD i) =
      s.unknown.bits.getLsbD i := by
  split
  · next hnone =>
      have hzero : s.unknown.bits = 0#16 := beq_iff_eq.mp hnone
      rw [hzero, BitVec.getLsbD_zero, List.any_nil]
  · simp

theorem union_partValues (s : PhaseSet) : s.partValues.foldl (· ∪ ·) ∅ = s := by
  refine eq_of_getLsbD fun i => ?_
  have hempty : (∅ : PhaseSet).bits.getLsbD i = false := BitVec.getLsbD_zero
  have hphases : ((s.phases.map Phase.toSet).any fun v => v.bits.getLsbD i) =
      (s.bits.getLsbD i && decide (i < 9)) := List.any_map.trans (s.any_phases i)
  rw [getLsbD_foldl_union, hempty, Bool.false_or, partValues, List.any_append, hphases,
    any_unknown, getLsbD_unknown, ← Bool.and_or_distrib_left, Bool.or_not_self, Bool.and_true]

theorem toText_reads_back (s : PhaseSet) : ofText s.toText = .ok s := by
  refine ofText_eq_ok_iff_union.mpr ⟨s.partValues, ?_, s.union_partValues.symm⟩
  rw [partsOf_toText]
  exact s.denotes_parts

/-! ## Reading -/

theorem ofText_eq_ok_iff {text : String} {s : PhaseSet} :
    ofText text = .ok s ↔ ∃ values, List.Forall₂ Denotes (partsOf text) values ∧
      s.bits = (values.map (·.bits)).foldl (· ||| ·) 0 := by
  have hunion : ∀ values : List PhaseSet, s = values.foldl (· ∪ ·) ∅ ↔
      s.bits = (values.map (·.bits)).foldl (· ||| ·) 0 := by
    intro values
    have hbits : (values.foldl (· ∪ ·) ∅).bits = (values.map (·.bits)).foldl (· ||| ·) 0 :=
      bits_foldl_union values ∅
    rw [← hbits]
    exact ⟨congrArg bits, fun h => eq_of_getLsbD fun i => congrArg (·.getLsbD i) h⟩
  rw [ofText_eq_ok_iff_union]
  simp only [hunion]

theorem ofText_spelled {text : String} {s : PhaseSet} (h : ofText text = .ok s)
    {padded : List PaddedPart}
    (hparts : ∀ part, part ∈ padded.map (·.part) ↔ part ∈ partsOf text) :
    ofText (spelled padded) = .ok s := by
  obtain ⟨values, hvalues, -⟩ := ofText_eq_ok_iff_union.mp h
  have hread := exists_forall₂_iff.mp ⟨values, hvalues⟩
  have hplain : ∀ p ∈ padded, IsPart p.part := by
    intro p hp
    obtain ⟨v, hv⟩ := hread p.part ((hparts p.part).mp (List.mem_map_of_mem hp))
    exact hv.isPart
  refine ofText_eq_ok_of_same_parts h fun part => ?_
  rw [partsOf_spelled hplain, hparts]

/-- **All the spellings of a set are read as it.**  A set is read back from its own text.  A text is
read if each of its parts denotes a set, as the bitwise or of what they denote, and then so is every
text with the same parts, in any order, any number of times and with any blanks around them. -/
theorem spellings_read_alike :
    (∀ s : PhaseSet, ofText s.toText = .ok s) ∧
    (∀ (text : String) (s : PhaseSet), ofText text = .ok s ↔
      ∃ values, List.Forall₂ Denotes (partsOf text) values ∧
        s.bits = (values.map (·.bits)).foldl (· ||| ·) 0) ∧
    ∀ (text : String) (s : PhaseSet), ofText text = .ok s →
      (∀ other, (∀ part, part ∈ partsOf other ↔ part ∈ partsOf text) → ofText other = .ok s) ∧
      (∀ padded : List PaddedPart, (∀ part, part ∈ padded.map (·.part) ↔ part ∈ partsOf text) →
        ofText (spelled padded) = .ok s) ∧
      ofText s.toText = .ok s := by
  refine ⟨toText_reads_back, fun text s => ofText_eq_ok_iff, fun text s hread => ⟨?_, ?_, ?_⟩⟩
  · intro other hparts
    exact ofText_eq_ok_of_same_parts hread hparts
  · intro padded hparts
    exact ofText_spelled hread hparts
  · exact toText_reads_back s

def bothEnds : List PaddedPart :=
  [⟨['\n'], "AFTER_ALL".toList, [], by decide, by decide⟩,
    ⟨[], "0x+8000".toList, ['\u2003'], by decide, by decide⟩,
    ⟨[' '], "BEFORE_ALL".toList, ['\t', ' '], by decide, by decide⟩]

theorem both_ends_respelled :
    let s : PhaseSet := ⟨0x8009⟩
    ofText " AFTER_ALL|0x+8000 | BEFORE_ALL" = .ok s ∧
      ofText "BEFORE_ALL|\tAFTER_ALL|0x+8000|BEFORE_ALL" = .ok s ∧
      ofText (spelled bothEnds) = .ok s ∧ ofText s.toText = .ok s := by
  intro s
  have hsame : ∀ a b x part : List Char, part ∈ [b, a, x, b] ↔ part ∈ [a, x, b] := by
    intro a b x part
    simp only [List.mem_cons, List.not_mem_nil]
    tauto
  have hread : ofText " AFTER_ALL|0x+8000 | BEFORE_ALL" = .ok s := rfl
  obtain ⟨hother, hpadded, htext⟩ := spellings_read_alike.2.2 _ s hread
  have hparts : partsOf " AFTER_ALL|0x+8000 | BEFORE_ALL" =
      ["AFTER_ALL".toList, "0x+8000".toList, "BEFORE_ALL".toList] := by decide +kernel
  have hpermuted : partsOf "BEFORE_ALL|\tAFTER_ALL|0x+8000|BEFORE_ALL" =
      ["BEFORE_ALL".toList, "AFTER_ALL".toList, "0x+8000".toList, "BEFORE_ALL".toList] := by
    decide +kernel
  refine ⟨hread, hother _ fun part => ?_, hpadded _ fun part => ?_, htext⟩
  · rw [hparts, hpermuted]
    exact hsame _ _ _ part
  · rw [hparts, bothEnds, List.map_cons, List.map_cons, List.map_cons, List.map_nil]

end Lifecycle.PhaseSet
