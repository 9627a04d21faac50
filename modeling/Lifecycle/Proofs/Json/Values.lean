import Lifecycle.Proofs.Json.Numerals
/-!
# Reading written values

The JSON text of a value is read as that value, if the value nests no deeper than a reader goes, its
numbers are read back, and its records have their keys in order.
-/

namespace Lifecycle

/-! ## Fields in order -/

namespace Fields

/-- The keys are in order, and none of them is repeated. -/
def Sorted (fields : Fields) : Prop := fields.Pairwise fun a b => a.1 < b.1

theorem insert_of_forall_lt {key : String} {v : Value} {fields : Fields}
    (h : ∀ field ∈ fields, field.1 < key) : insert key v fields = fields ++ [(key, v)] := by
  induction fields with
  | nil => rfl
  | cons field rest ih =>
      obtain ⟨k, old⟩ := field
      have hk : k < key := h (k, old) List.mem_cons_self
      have hne : key ≠ k := by
        rintro rfl
        exact String.lt_irrefl _ hk
      rw [insert, if_neg (String.lt_asymm hk), if_neg hne,
        ih fun field hfield => h field (List.mem_cons_of_mem _ hfield)]
      rfl

theorem ofList_of_sorted {fields : Fields} (h : fields.Sorted) : ofList fields = fields := by
  have hfold : ∀ {front : Fields}, (front ++ fields).Sorted →
      fields.foldl (fun fields field => insert field.1 field.2 fields) front =
        front ++ fields := by
    clear h
    induction fields with
    | nil => simp
    | cons field rest ih =>
        intro front hsorted
        have hbelow : ∀ earlier ∈ front, earlier.1 < field.1 := fun earlier hearlier =>
          (List.pairwise_append.mp hsorted).2.2 earlier hearlier field List.mem_cons_self
        rw [List.foldl_cons, insert_of_forall_lt hbelow, ih, List.append_assoc]
        · rfl
        · rwa [List.append_assoc]
  exact hfold h

end Fields

namespace Json

open Lifecycle.Number Lifecycle.Text

/-! ## Strings -/

theorem stringBody_numeric {c : Char} (h : c.toNat < 0x20) (t : List Char) :
    stringBody ('\\' :: 'u' :: fixedDigits 16 4 c.toNat ++ t) = consChar c (stringBody t) := by
  have hread : readDigits? 16 (fixedDigits 16 4 c.toNat) = some c.toNat := by
    rw [readDigits?_fixedDigits (by decide) (by decide), Nat.mod_eq_of_lt]
    exact Nat.lt_trans h (by decide)
  have hfour : ∃ a₁ a₂ a₃ a₄, fixedDigits 16 4 c.toNat = [a₁, a₂, a₃, a₄] := ⟨_, _, _, _, rfl⟩
  obtain ⟨a₁, a₂, a₃, a₄, hdigits⟩ := hfour
  rw [hdigits] at hread ⊢
  have htrailing : isTrailing c.toNat = false := by
    simp only [isTrailing, Bool.and_eq_false_iff, decide_eq_false_iff_not]
    omega
  have hleading : isLeading c.toNat = false := by
    simp only [isLeading, Bool.and_eq_false_iff, decide_eq_false_iff_not]
    omega
  simp [stringBody, hread, htrailing, hleading, Char.ofNat_toNat]

theorem stringBody_writeChar (c : Char) (t : List Char) :
    stringBody (writeChar c ++ t) = consChar c (stringBody t) := by
  have hnamed : ∀ {d : Char}, simpleEscape? d = some c → d ≠ 'u' →
      stringBody ('\\' :: d :: t) = consChar c (stringBody t) := by
    intro d hd hu
    simp [stringBody, hd, hu]
  unfold writeChar
  split
  · next h =>
      subst h
      exact hnamed rfl (by decide)
  next hquote =>
  split
  · next h =>
      subst h
      exact hnamed rfl (by decide)
  next hslash =>
  split
  · next h => exact hnamed (h ▸ rfl) (by decide)
  split
  · next h => exact hnamed (h ▸ rfl) (by decide)
  split
  · next h => exact hnamed (h ▸ rfl) (by decide)
  split
  · next h =>
      have hc : Char.ofNat 8 = c := by rw [← h, Char.ofNat_toNat]
      exact hnamed (congrArg some hc) (by decide)
  split
  · next h =>
      have hc : Char.ofNat 12 = c := by rw [← h, Char.ofNat_toNat]
      exact hnamed (congrArg some hc) (by decide)
  split
  · next h => exact stringBody_numeric h t
  · next h =>
      rw [List.singleton_append, stringBody, if_neg h] <;> intros <;> contradiction

theorem string?_writeString (s : String) (rest : List Char) :
    string? (writeString s ++ rest) = some (s, rest) := by
  have hbody : ∀ chars : List Char,
      stringBody (chars.flatMap writeChar ++ '"' :: rest) = some (chars, rest) := by
    intro chars
    induction chars with
    | nil => simp [stringBody]
    | cons c chars ih =>
        rw [List.flatMap_cons, List.append_assoc, stringBody_writeChar, ih]
        rfl
  simp [writeString, string?, hbody]

/-! ## Beginnings -/

/-- A text that begins like a value: neither with a space nor with the end of a list or record. -/
def Begins (s : List Char) : Prop :=
  ∃ c t, s = c :: t ∧ isSpace c = false ∧ c ≠ ']' ∧ c ≠ '\x7d'

theorem Begins.length_pos {s : List Char} (h : Begins s) : 0 < s.length := by
  obtain ⟨c, t, rfl, -⟩ := h
  exact Nat.succ_pos _

theorem Begins.append {s : List Char} (h : Begins s) (rest : List Char) : Begins (s ++ rest) := by
  obtain ⟨c, t, rfl, hc⟩ := h
  exact ⟨c, t ++ rest, rfl, hc⟩

theorem Begins.skipSpaces {s : List Char} (h : Begins s) : skipSpaces s = s := by
  obtain ⟨c, t, rfl, hspace, -⟩ := h
  rw [Json.skipSpaces, List.dropWhile_cons, hspace]
  rfl

theorem begins_writeString (s : String) : Begins (writeString s) :=
  ⟨'"', _, rfl, by decide, by decide, by decide⟩

/-! ## Numbers -/

theorem numeral?_begins {s rest : List Char} {n : Numeral} (h : numeral? s = some (n, rest)) :
    ∃ c t, s = c :: t ∧ (c = '-' ∨ isDigitOf 10 c = true) := by
  cases s with
  | nil => cases h
  | cons c t =>
      refine ⟨c, t, rfl, ?_⟩
      by_cases hminus : c = '-'
      · exact .inl hminus
      right
      cases hdigit : isDigitOf 10 c with
      | true => rfl
      | false =>
          have hzero : c ≠ '0' := by
            rintro rfl
            exact absurd hdigit (by decide)
          have hwhole : whole? (c :: t) = none := by
            rw [whole?, digits?]
            · simp [hdigit]
            · rintro r hr
              exact hzero (List.cons.inj hr).1
          rw [numeral?_unsigned hminus, signedNumeral, hwhole] at h
          cases h

theorem value?_of_numeral {s rest : List Char} {n : Numeral} (h : numeral? s = some (n, rest))
    (depth : Nat) :
    Begins s ∧ value? depth s = n.value?.bind fun v => some (v, rest) := by
  obtain ⟨c, t, rfl, hc⟩ := numeral?_begins h
  have hother : ∀ d, isDigitOf 10 d = false → d ≠ '-' → c ≠ d := by
    rintro d hdigit hminus rfl
    rcases hc with hc | hc
    · exact hminus hc
    · rw [hdigit] at hc
      cases hc
  refine ⟨⟨c, t, rfl, ?_, hother _ rfl (by decide), hother _ rfl (by decide)⟩, ?_⟩
  · simp [isSpace, hother ' ' rfl (by decide), hother '\t' rfl (by decide),
      hother '\n' rfl (by decide), hother '\r' rfl (by decide)]
  · have hscalar : scalar? (c :: t) = n.value?.bind fun v => some (v, rest) := by
      simp [scalar?, hother '"' rfl (by decide), hother 'n' rfl (by decide),
        hother 't' rfl (by decide), hother 'f' rfl (by decide), h]
    cases depth with
    | zero => simp [value?, hother '[' rfl (by decide), hother '\x7b' rfl (by decide), hscalar]
    | succ depth =>
        simp [value?, hother '[' rfl (by decide), hother '\x7b' rfl (by decide), hscalar]

/-! ## Lists and records -/

/-- A text that is read as a value in front of whatever can follow a value. -/
def ReadAs (read : ValueReader) (s : List Char) (v : Value) : Prop :=
  Begins s ∧ ∀ rest, Ends rest → read (s ++ rest) = some (v, rest)

theorem length_le_writeItems {items : List Value} (h : ∀ v ∈ items, Begins (write v)) :
    items.length ≤ (writeItems items).length := by
  induction items with
  | nil => exact Nat.le_refl 0
  | cons v rest ih =>
      have hv := (h v List.mem_cons_self).length_pos
      cases rest with
      | nil => exact hv
      | cons w rest =>
          have hrest := ih fun u hu => h u (List.mem_cons_of_mem v hu)
          simp only [writeItems, List.length_append, List.length_cons] at hrest ⊢
          omega

theorem elements?_item {read : ValueReader} {v : Value} (hv : ReadAs read (write v) v)
    (fuel : Nat) {d : Char} (hd : d = ',' ∨ d = ']') (t : List Char) :
    elements? read (fuel + 1) (write v ++ d :: t) =
      if d = ',' then (elements? read fuel t).bind fun later => some (v :: later.1, later.2)
      else some ([v], t) := by
  obtain ⟨hbegins, hread⟩ := hv
  have hends : Ends (d :: t) := by
    rcases hd with rfl | rfl
    · exact ends_cons (.inl rfl) t
    · exact ends_cons (.inr (.inl rfl)) t
  rw [elements?, (hbegins.append _).skipSpaces, hread _ hends]
  rcases hd with rfl | rfl <;> rfl

theorem elements?_writeItems {read : ValueReader} {items : List Value} (hne : items ≠ [])
    (hread : ∀ v ∈ items, ReadAs read (write v) v) {fuel : Nat} (hfuel : items.length ≤ fuel)
    (rest : List Char) :
    elements? read fuel (writeItems items ++ ']' :: rest) = some (items, rest) := by
  induction items generalizing fuel with
  | nil => exact absurd rfl hne
  | cons v items ih =>
      rw [List.length_cons] at hfuel
      obtain ⟨fuel, rfl⟩ : ∃ n, fuel = n + 1 := ⟨fuel - 1, by omega⟩
      have hv : ReadAs read (write v) v := hread v List.mem_cons_self
      cases items with
      | nil => exact elements?_item hv fuel (.inr rfl) rest
      | cons w items =>
          have hrest := ih (List.cons_ne_nil w items)
            (fun u hu => hread u (List.mem_cons_of_mem v hu)) (show (w :: items).length ≤ fuel by omega)
          have hstep := elements?_item hv fuel (.inl rfl)
            (writeItems (w :: items) ++ ']' :: rest)
          rw [if_pos rfl, hrest] at hstep
          rw [writeItems, List.append_assoc, List.cons_append]
          · exact hstep
          · exact List.cons_ne_nil w items

theorem length_le_writeFields (fields : Fields) : fields.length ≤ (writeFields fields).length := by
  induction fields with
  | nil => exact Nat.le_refl 0
  | cons field rest ih =>
      obtain ⟨key, v⟩ := field
      cases rest with
      | nil => simp [writeFields, writeString]
      | cons next rest =>
          simp only [writeFields, List.length_append, List.length_cons] at ih ⊢
          omega

theorem members?_member {read : ValueReader} {v : Value} (hv : ReadAs read (write v) v)
    (fuel : Nat) (key : String) {d : Char} (hd : d = ',' ∨ d = '\x7d') (t : List Char) :
    members? read (fuel + 1) (writeString key ++ ':' :: write v ++ d :: t) =
      if d = ',' then (members? read fuel t).bind fun later => some ((key, v) :: later.1, later.2)
      else some ([(key, v)], t) := by
  obtain ⟨hbegins, hread⟩ := hv
  have hends : Ends (d :: t) := by
    rcases hd with rfl | rfl
    · exact ends_cons (.inl rfl) t
    · exact ends_cons (.inr (.inr rfl)) t
  have hvalue : read (skipSpaces (write v ++ d :: t)) = some (v, d :: t) := by
    rw [(hbegins.append _).skipSpaces, hread _ hends]
  have hcolon : ∀ s, skipSpaces (':' :: s) = ':' :: s := fun _ => rfl
  rw [List.append_assoc, List.cons_append, members?,
    ((begins_writeString key).append _).skipSpaces, string?_writeString]
  simp only [Option.bind_eq_bind, Option.bind_some, hcolon, hvalue]
  rcases hd with rfl | rfl <;> rfl

theorem members?_writeFields {read : ValueReader} {fields : Fields} (hne : fields ≠ [])
    (hread : ∀ field ∈ fields, ReadAs read (write field.2) field.2) {fuel : Nat}
    (hfuel : fields.length ≤ fuel) (rest : List Char) :
    members? read fuel (writeFields fields ++ '\x7d' :: rest) = some (fields, rest) := by
  induction fields generalizing fuel with
  | nil => exact absurd rfl hne
  | cons field fields ih =>
      obtain ⟨key, v⟩ := field
      rw [List.length_cons] at hfuel
      obtain ⟨fuel, rfl⟩ : ∃ n, fuel = n + 1 := ⟨fuel - 1, by omega⟩
      have hv : ReadAs read (write v) v := hread (key, v) List.mem_cons_self
      cases fields with
      | nil => exact members?_member hv fuel key (.inr rfl) rest
      | cons next fields =>
          have hrest := ih (List.cons_ne_nil next fields)
            (fun field hfield => hread field (List.mem_cons_of_mem _ hfield))
            (show (next :: fields).length ≤ fuel by omega)
          have hstep := members?_member hv fuel key (.inl rfl)
            (writeFields (next :: fields) ++ '\x7d' :: rest)
          rw [if_pos rfl, hrest] at hstep
          rw [writeFields, List.append_assoc, List.cons_append]
          · exact hstep
          · exact List.cons_ne_nil next fields

/-! ## Values -/

/-- A value that its JSON text stands for, with `depth` further brackets for it to open: integers
are of 64 bits, doubles are those that are read back, and records have their keys in order. -/
inductive Portable : Nat → Value → Prop where
  | null {depth : Nat} : Portable depth .null
  | bool {depth : Nat} (b : Bool) : Portable depth (.bool b)
  | int {depth : Nat} {n : Int} : -9223372036854775808 ≤ n → n < 18446744073709551616 →
      Portable depth (.int n)
  | float {depth : Nat} {x : Binary64} : NumberReadsBack (.float x) → Portable depth (.float x)
  | text {depth : Nat} (s : String) : Portable depth (.text s)
  | list {depth : Nat} {items : List Value} : (∀ v ∈ items, Portable depth v) →
      Portable (depth + 1) (.list items)
  | record {depth : Nat} {fields : Fields} : fields.Sorted →
      (∀ field ∈ fields, Portable depth field.2) → Portable (depth + 1) (.record fields)

theorem readAs_of_numberReadsBack {v : Value} (h : NumberReadsBack v) (depth : Nat) :
    ReadAs (value? depth) (write v) v := by
  obtain ⟨n, hread, hvalue⟩ := h
  refine ⟨(value?_of_numeral hread depth).1, ?_⟩
  intro rest hrest
  rw [(value?_of_numeral (numeral?_append hread hrest) depth).2, hvalue]
  rfl

theorem readAs_writeString (depth : Nat) (s : String) :
    ReadAs (value? depth) (writeString s) (.text s) := by
  refine ⟨begins_writeString s, ?_⟩
  intro rest _
  have hstring := string?_writeString s rest
  rw [writeString, List.cons_append, List.cons_append] at hstring ⊢
  cases depth <;> simp only [value?, scalar?, hstring] <;> rfl

theorem value?_bracket {s : List Char} (h : Begins s) (depth : Nat) :
    value? (depth + 1) ('[' :: s) =
      (elements? (value? depth) (s.length + 1) s).map fun (items, rest) => (.list items, rest) := by
  have hskip := h.skipSpaces
  obtain ⟨c, t, rfl, -, hc, -⟩ := h
  simp [value?, hskip, hc]

theorem value?_brace {s : List Char} (h : Begins s) (depth : Nat) :
    value? (depth + 1) ('\x7b' :: s) =
      (members? (value? depth) (s.length + 1) s).map fun (members, rest) =>
        (.record (Fields.ofList members), rest) := by
  have hskip := h.skipSpaces
  obtain ⟨c, t, rfl, -, -, hc⟩ := h
  simp [value?, hskip, hc]

theorem readAs_list {depth : Nat} {items : List Value}
    (h : ∀ v ∈ items, ReadAs (value? depth) (write v) v) :
    ReadAs (value? (depth + 1)) (write (.list items)) (.list items) := by
  refine ⟨⟨'[', _, rfl, by decide, by decide, by decide⟩, ?_⟩
  intro rest _
  cases items with
  | nil => rfl
  | cons v items =>
      have hbegins : Begins (writeItems (v :: items)) := by
        have hv := (h v List.mem_cons_self).1
        cases items with
        | nil => exact hv
        | cons w items => exact hv.append _
      -- the fuel is the length of the text, and each element takes up some of that
      have hfuel : (v :: items).length ≤ (writeItems (v :: items) ++ ']' :: rest).length + 1 := by
        have hlength := length_le_writeItems fun u hu => (h u hu).1
        rw [List.length_append]
        omega
      rw [write, List.append_assoc, List.cons_append, List.singleton_append,
        value?_bracket (hbegins.append _),
        elements?_writeItems (List.cons_ne_nil v items) h hfuel rest]
      rfl

theorem readAs_record {depth : Nat} {fields : Fields} (hsorted : fields.Sorted)
    (h : ∀ field ∈ fields, ReadAs (value? depth) (write field.2) field.2) :
    ReadAs (value? (depth + 1)) (write (.record fields)) (.record fields) := by
  refine ⟨⟨'\x7b', _, rfl, by decide, by decide, by decide⟩, ?_⟩
  intro rest _
  cases fields with
  | nil => rfl
  | cons field fields =>
      have hbegins : Begins (writeFields (field :: fields)) := by
        have hkey := begins_writeString field.1
        cases fields with
        | nil => exact hkey.append _
        | cons next fields =>
            rw [writeFields, List.append_assoc]
            · exact hkey.append _
            · exact List.cons_ne_nil next fields
      have hfuel : (field :: fields).length ≤
          (writeFields (field :: fields) ++ '\x7d' :: rest).length + 1 := by
        have hlength := length_le_writeFields (field :: fields)
        rw [List.length_append]
        omega
      rw [write, List.append_assoc, List.cons_append, List.singleton_append,
        value?_brace (hbegins.append _),
        members?_writeFields (List.cons_ne_nil field fields) h hfuel rest]
      simp only [Option.map_some, Fields.ofList_of_sorted hsorted]

theorem readAs_of_portable {depth : Nat} {v : Value} (h : Portable depth v) :
    ReadAs (value? depth) (write v) v := by
  induction h with
  | @null depth =>
      refine ⟨⟨'n', _, rfl, by decide, by decide, by decide⟩, ?_⟩
      intro rest _
      cases depth <;> rfl
  | @bool depth b =>
      refine ⟨?_, ?_⟩
      · cases b <;> exact ⟨_, _, rfl, by decide, by decide, by decide⟩
      · intro rest _
        cases b <;> cases depth <;> rfl
  | int hlow hhigh => exact readAs_of_numberReadsBack (numberReadsBack_int hlow hhigh) _
  | float h => exact readAs_of_numberReadsBack h _
  | text s => exact readAs_writeString _ s
  | list _ ih => exact readAs_list ih
  | record hsorted _ ih => exact readAs_record hsorted ih

/-- **A portable value is read from its JSON text.** -/
theorem parse?_text {v : Value} (h : Portable depthLimit v) : parse? (text v) = some v := by
  obtain ⟨hbegins, hread⟩ := readAs_of_portable h
  have hvalue := hread [] ends_nil
  rw [List.append_nil] at hvalue
  rw [parse?, text, String.toList_ofList, hbegins.skipSpaces, hvalue]
  rfl

end Json

end Lifecycle
