import Lifecycle.Toml.StringStyle
/-!
# Reading written strings

A string that is written in a document is read as it was, in whichever of the four forms it is
written.  What a character is written as is one of a few escapes or the character itself, and the
two basic forms read these alike.
-/

namespace Lifecycle.Toml

open Lifecycle.Text

/-! ## Characters -/

theorem isCommentChar_of_not_isControl {c : Char} (hcontrol : isControl c = false)
    (hnewline : c ≠ '\n') : isCommentChar c = true := by
  by_cases htab : c = '\t'
  · rw [htab]
    rfl
  have hrange : 0x20 ≤ c.toNat ∧ c.toNat ≠ 0x7F := by
    simp only [isControl, Bool.or_eq_false_iff, Bool.and_eq_false_iff, decide_eq_false_iff_not,
      bne_eq_false_iff_eq, beq_eq_false_iff_ne] at hcontrol
    obtain ⟨(hlow | htab') | hnewline', hdelete⟩ := hcontrol
    · exact ⟨by omega, hdelete⟩
    · exact absurd htab' htab
    · exact absurd hnewline' hnewline
  simp only [isCommentChar, isBeyondAscii, Bool.or_eq_true, Bool.and_eq_true, decide_eq_true_eq,
    beq_iff_eq]
  omega

/-- What the character of a string is written as between double quotes. -/
inductive Escape (multiLine : Bool) : Char → List Char → Prop where
  | letter {c d : Char} : simpleEscape? d = some c → Escape multiLine c ['\\', d]
  | number {c a₁ a₂ a₃ a₄ : Char} : codePoint? [a₁, a₂, a₃, a₄] = some c →
      Escape multiLine c ['\\', 'u', a₁, a₂, a₃, a₄]
  | newline : multiLine = true → Escape multiLine '\n' ['\n']
  | itself {c : Char} : isBasicChar c = true → Escape multiLine c [c]

/-- Control characters have small numbers, for which four digits are more than enough. -/
theorem codePoint?_upper_fixedDigits {c : Char} (h : c.toNat < 128) :
    codePoint? ((fixedDigits 16 4 c.toNat).map Char.toUpper) = some c := by
  have hall : ∀ n : Fin 128,
      codePoint? ((fixedDigits 16 4 n.val).map Char.toUpper) = some (Char.ofNat n.val) := by
    decide +kernel
  have hc := hall ⟨c.toNat, h⟩
  rwa [Char.ofNat_toNat] at hc

theorem escape_escapeChar (multiLine : Bool) {c : Char} (hquote : c ≠ '"') :
    Escape multiLine c (escapeChar multiLine c) := by
  unfold escapeChar
  split
  · next h =>
      subst h
      exact .letter rfl
  split
  · next h =>
      subst h
      cases multiLine with
      | false => exact .letter rfl
      | true => exact .newline rfl
  split
  · next h =>
      subst h
      exact .letter rfl
  split
  · next h =>
      subst h
      exact .letter rfl
  split
  · next h =>
      have hc : c = Char.ofNat 8 := by rw [← h, Char.ofNat_toNat]
      exact hc ▸ .letter rfl
  split
  · next h =>
      have hc : c = Char.ofNat 12 := by rw [← h, Char.ofNat_toNat]
      exact hc ▸ .letter rfl
  next hslash hnewline _ _ _ _ =>
  split
  · next h =>
      have hsmall : c.toNat < 128 := by
        simp only [isControl, Bool.or_eq_true, Bool.and_eq_true, decide_eq_true_eq,
          beq_iff_eq] at h
        omega
      exact .number (codePoint?_upper_fixedDigits hsmall)
  · next h =>
      refine .itself ?_
      have hcomment := isCommentChar_of_not_isControl (by simpa using h) hnewline
      simp [isBasicChar, hcomment, hquote, hslash]

theorem ne_of_isBasicChar {c : Char} (h : isBasicChar c = true) :
    c ≠ '"' ∧ c ≠ '\\' ∧ c ≠ '\n' ∧ c ≠ '\r' := by
  refine ⟨?_, ?_, ?_, ?_⟩ <;> rintro rfl <;> exact absurd h (by decide)

/-- What is written begins with a quote never, and with the end of a line only for that itself. -/
theorem Escape.head {multiLine : Bool} {c : Char} {e : List Char} (h : Escape multiLine c e) :
    ∃ d rest, e = d :: rest ∧ d ≠ '"' ∧ (c ≠ '\n' → d ≠ '\n' ∧ d ≠ '\r') := by
  cases h with
  | letter _ => exact ⟨_, _, rfl, by decide, fun _ => by decide⟩
  | number _ => exact ⟨_, _, rfl, by decide, fun _ => by decide⟩
  | newline _ => exact ⟨_, _, rfl, by decide, fun h => absurd rfl h⟩
  | itself hc =>
      obtain ⟨hquote, -, hnewline, hreturn⟩ := ne_of_isBasicChar hc
      exact ⟨_, _, rfl, hquote, fun _ => ⟨hnewline, hreturn⟩⟩

theorem simpleEscape?_ne {c d : Char} (h : simpleEscape? d = some c) :
    d ≠ 'u' ∧ d ≠ 'U' ∧ isSpace d = false ∧ d ≠ '\n' ∧ d ≠ '\r' := by
  refine ⟨?_, ?_, ?_, ?_, ?_⟩
  · rintro rfl; cases h
  · rintro rfl; cases h
  · cases hspace : isSpace d with
    | false => rfl
    | true =>
        simp only [isSpace, Bool.or_eq_true, beq_iff_eq] at hspace
        rcases hspace with rfl | rfl <;> cases h
  · rintro rfl; cases h
  · rintro rfl; cases h

/-! ## Basic strings -/

theorem basicBody_of_isBasicChar {c : Char} (hc : isBasicChar c = true) (t : List Char) :
    basicBody (c :: t) = consChar c (basicBody t) := by
  obtain ⟨hquote, hslash, -⟩ := ne_of_isBasicChar hc
  rw [basicBody, if_pos hc] <;> intros <;> contradiction

theorem multiLineBasicBody_of_isBasicChar {c : Char} (hc : isBasicChar c = true)
    (t : List Char) :
    multiLineBasicBody false (c :: t) = consChar c (multiLineBasicBody false t) := by
  obtain ⟨hquote, hslash, hnewline, hreturn⟩ := ne_of_isBasicChar hc
  rw [multiLineBasicBody, if_neg (by simp), if_pos hc] <;> intros <;> contradiction

theorem Escape.basicBody {c : Char} {e : List Char} (h : Escape false c e) (t : List Char) :
    basicBody (e ++ t) = consChar c (basicBody t) := by
  cases h with
  | letter hletter =>
      obtain ⟨hu, hU, -⟩ := simpleEscape?_ne hletter
      simp [Toml.basicBody, hletter, hu, hU]
  | number hnumber => simp [Toml.basicBody, hnumber]
  | newline h => cases h
  | itself hc => exact basicBody_of_isBasicChar hc t

theorem Escape.multiLineBasicBody {c : Char} {e : List Char} (h : Escape true c e)
    (t : List Char) :
    multiLineBasicBody false (e ++ t) = consChar c (multiLineBasicBody false t) := by
  cases h with
  | letter hletter =>
      obtain ⟨hu, hU, hspace, hnewline, hreturn⟩ := simpleEscape?_ne hletter
      simp [Toml.multiLineBasicBody, hletter, hu, hU, skipSpaces, hspace, atNewline, hnewline,
        hreturn]
  | number hnumber => simp [Toml.multiLineBasicBody, hnumber]
  | newline _ => simp [Toml.multiLineBasicBody]
  | itself hc => exact multiLineBasicBody_of_isBasicChar hc t

theorem basicBody_writeBasic (s rest : List Char) :
    basicBody (writeBasic s ++ '"' :: rest) = some (s, rest) := by
  induction s with
  | nil => simp [writeBasic, basicBody]
  | cons c s ih =>
      have hescape : Escape false c (if c = '"' then ['\\', '"'] else escapeChar false c) := by
        split
        · next h =>
            subst h
            exact .letter rfl
        · next h => exact escape_escapeChar false h
      have hwrite : writeBasic (c :: s) =
          (if c = '"' then ['\\', '"'] else escapeChar false c) ++ writeBasic s := by
        simp only [writeBasic, List.flatMap_cons]
      rw [hwrite, List.append_assoc, hescape.basicBody, ih]
      rfl

/-! ## Multi-line basic strings -/

/-- A text that does not go on with a quote. -/
def Unquoted (rest : List Char) : Prop := ∀ d ∈ rest.head?, d ≠ '"' ∧ d ≠ '\''

/-- Up to two quotes in a row stand for themselves in front of another character. -/
theorem multiLineBasicBody_quotes {run : Nat} (hrun : run ≤ 2) {d : Char} (hd : d ≠ '"')
    (t : List Char) :
    multiLineBasicBody false (List.replicate run '"' ++ d :: t) =
      (multiLineBasicBody false (d :: t)).map fun (front, rest) =>
        (List.replicate run '"' ++ front, rest) := by
  match run, hrun with
  | 0, _ => simp
  | 1, _ => simp [multiLineBasicBody, hd, consChar]
  | 2, _ => simp [multiLineBasicBody, hd, consChar, Function.comp_def]

theorem multiLineBasicBody_end {run : Nat} (hrun : run ≤ 2) {rest : List Char}
    (hrest : Unquoted rest) :
    multiLineBasicBody false (List.replicate run '"' ++ '"' :: '"' :: '"' :: rest) =
      some (List.replicate run '"', rest) := by
  have hopen : ∀ t, rest ≠ '"' :: t := by
    rintro t rfl
    exact (hrest '"' rfl).1 rfl
  match run, hrun with
  | 0, _ => simp [multiLineBasicBody, hopen]
  | 1, _ => simp [multiLineBasicBody]
  | 2, _ => simp [multiLineBasicBody]

/-- The induction carries the quotes that stand directly in front of the text. -/
theorem multiLineBasicBody_write {run : Nat} (hrun : run ≤ 2) (s : List Char) {rest : List Char}
    (hrest : Unquoted rest) :
    multiLineBasicBody false
        (List.replicate run '"' ++ (writeMultiLineBasic run s ++ '"' :: '"' :: '"' :: rest)) =
      some (List.replicate run '"' ++ s, rest) := by
  induction s generalizing run with
  | nil =>
      rw [List.append_nil]
      exact multiLineBasicBody_end hrun hrest
  | cons c s ih =>
      have hafter := ih (Nat.zero_le 2)
      rw [List.replicate_zero, List.nil_append, List.nil_append] at hafter
      by_cases hquote : c = '"'
      · subst hquote
        by_cases htwo : run = 2
        · -- the third quote in a row is escaped
          subst htwo
          have hescape : Escape true '"' ['\\', '"'] := .letter rfl
          have hstep := hescape.multiLineBasicBody
            (writeMultiLineBasic 0 s ++ '"' :: '"' :: '"' :: rest)
          rw [List.cons_append, List.cons_append, List.nil_append, hafter] at hstep
          simp only [writeMultiLineBasic, if_true, List.cons_append]
          rw [multiLineBasicBody_quotes (by omega) (by decide), hstep]
          rfl
        · have hmore := ih (show run + 1 ≤ 2 by omega)
          simp only [writeMultiLineBasic, if_true, if_neg htwo, List.cons_append]
          rw [List.replicate_succ', List.append_assoc, List.append_assoc] at hmore
          exact hmore
      · have hescape := escape_escapeChar true hquote
        have hstep := hescape.multiLineBasicBody
          (writeMultiLineBasic 0 s ++ '"' :: '"' :: '"' :: rest)
        obtain ⟨d, t, hhead, hd, -⟩ := hescape.head
        simp only [writeMultiLineBasic, if_neg hquote, List.append_assoc]
        rw [hafter, hhead, List.cons_append] at hstep
        rw [hhead, List.cons_append, multiLineBasicBody_quotes hrun hd, hstep]
        rfl

/-! ## Literal strings -/

theorem literalBody_append {s : List Char} (hs : ∀ c ∈ s, isLiteralChar c = true)
    (rest : List Char) : literalBody (s ++ '\'' :: rest) = some (s, rest) := by
  induction s with
  | nil => simp [literalBody]
  | cons c s ih =>
      have hc := hs c List.mem_cons_self
      have hquote : c ≠ '\'' := by
        rintro rfl
        exact absurd hc (by decide)
      have hrest := ih fun d hd => hs d (List.mem_cons_of_mem c hd)
      rw [List.cons_append, literalBody, if_pos hc, hrest]
      · rfl
      · exact hquote

theorem isLiteralChar_of_not_isControl {c : Char} (hcontrol : isControl c = false)
    (hnewline : c ≠ '\n') (hquote : c ≠ '\'') : isLiteralChar c = true := by
  have hcomment := isCommentChar_of_not_isControl hcontrol hnewline
  simp [isLiteralChar, hcomment, hquote]

theorem multiLineLiteralBody_of_not_isControl {c : Char} (hcontrol : isControl c = false)
    (hquote : c ≠ '\'') (t : List Char) :
    multiLineLiteralBody (c :: t) = consChar c (multiLineLiteralBody t) := by
  by_cases hnewline : c = '\n'
  · subst hnewline
    simp [multiLineLiteralBody]
  · have hreturn : c ≠ '\r' := by
      rintro rfl
      exact absurd hcontrol (by decide)
    have hc := isLiteralChar_of_not_isControl hcontrol hnewline hquote
    rw [multiLineLiteralBody, if_pos hc] <;> intros <;> contradiction

theorem multiLineLiteralBody_quotes {run : Nat} (hrun : run ≤ 2) {d : Char} (hd : d ≠ '\'')
    (t : List Char) :
    multiLineLiteralBody (List.replicate run '\'' ++ d :: t) =
      (multiLineLiteralBody (d :: t)).map fun (front, rest) =>
        (List.replicate run '\'' ++ front, rest) := by
  match run, hrun with
  | 0, _ => simp
  | 1, _ => simp [multiLineLiteralBody, hd, consChar]
  | 2, _ => simp [multiLineLiteralBody, hd, consChar, Function.comp_def]

theorem multiLineLiteralBody_end {run : Nat} (hrun : run ≤ 2) {rest : List Char}
    (hrest : Unquoted rest) :
    multiLineLiteralBody (List.replicate run '\'' ++ '\'' :: '\'' :: '\'' :: rest) =
      some (List.replicate run '\'', rest) := by
  have hopen : ∀ t, rest ≠ '\'' :: t := by
    rintro t rfl
    exact (hrest '\'' rfl).2 rfl
  match run, hrun with
  | 0, _ => simp [multiLineLiteralBody, hopen]
  | 1, _ => simp [multiLineLiteralBody]
  | 2, _ => simp [multiLineLiteralBody]

theorem multiLineLiteralBody_append {run : Nat} {s : List Char}
    (hcontrol : ∀ c ∈ s, isControl c = false) (hruns : longestRun '\'' run s ≤ 2)
    {rest : List Char} (hrest : Unquoted rest) :
    multiLineLiteralBody
        (List.replicate run '\'' ++ (s ++ '\'' :: '\'' :: '\'' :: rest)) =
      some (List.replicate run '\'' ++ s, rest) := by
  induction s generalizing run with
  | nil =>
      rw [List.append_nil]
      exact multiLineLiteralBody_end hruns hrest
  | cons c s ih =>
      have hlater : ∀ d ∈ s, isControl d = false :=
        fun d hd => hcontrol d (List.mem_cons_of_mem c hd)
      rw [longestRun] at hruns
      by_cases hquote : c = '\''
      · subst hquote
        rw [if_pos rfl] at hruns
        have hmore := ih hlater hruns
        rw [List.replicate_succ', List.append_assoc, List.append_assoc] at hmore
        exact hmore
      · rw [if_neg hquote] at hruns
        have hafter := ih hlater (show longestRun '\'' 0 s ≤ 2 by omega)
        rw [List.replicate_zero, List.nil_append, List.nil_append] at hafter
        have hstep := multiLineLiteralBody_of_not_isControl (hcontrol c List.mem_cons_self) hquote
          (s ++ '\'' :: '\'' :: '\'' :: rest)
        rw [List.cons_append, multiLineLiteralBody_quotes (by omega) hquote, hstep, hafter]
        rfl

/-! ## The form of a string -/

namespace StringStyle

theorem isLiteralChar_of_choose {s : List Char} (h : choose s = literal) :
    ∀ c ∈ s, isLiteralChar c = true := by
  simp only [choose] at h
  split at h
  · cases h
  split at h
  · next hplain =>
      simp only [Bool.and_eq_true, Bool.not_eq_true', List.any_eq_false, Bool.not_eq_true,
        List.contains_eq_mem, decide_eq_false_iff_not] at hplain
      obtain ⟨⟨hcontrol, hquote⟩, hnewline⟩ := hplain
      intro c hc
      refine isLiteralChar_of_not_isControl (hcontrol c hc) ?_ ?_
      · rintro rfl
        exact hnewline hc
      · rintro rfl
        exact hquote hc
  · repeat' split at h
    all_goals cases h

theorem not_isControl_of_choose {s : List Char} (h : choose s = multiLineLiteral) :
    (∀ c ∈ s, isControl c = false) ∧ longestRun '\'' 0 s ≤ 2 := by
  simp only [choose] at h
  split at h
  · cases h
  split at h
  · cases h
  split at h
  · cases h
  split at h
  · next hplain =>
      simp only [Bool.and_eq_true, Bool.not_eq_true', List.any_eq_false, Bool.not_eq_true,
        decide_eq_true_eq] at hplain
      exact hplain
  · split at h <;> cases h

end StringStyle

theorem dropNewline_opening {s body : List Char}
    (hbody : '\n' ∉ s → ∀ d ∈ body.head?, d ≠ '\n' ∧ d ≠ '\r') :
    dropNewline ((if s.contains '\n' then ['\n'] else []) ++ body) = body := by
  by_cases hnewline : '\n' ∈ s
  · simp [hnewline, dropNewline]
  · simp only [List.contains_eq_mem, hnewline, decide_false, Bool.false_eq_true, if_false,
      List.nil_append]
    match body with
    | [] => rfl
    | d :: rest =>
        obtain ⟨hd, hreturn⟩ := hbody hnewline d rfl
        simp [dropNewline, hd, hreturn]

theorem head?_writeMultiLineBasic {s rest : List Char} (hs : '\n' ∉ s) :
    ∀ d ∈ (writeMultiLineBasic 0 s ++ '"' :: rest).head?, d ≠ '\n' ∧ d ≠ '\r' := by
  intro d hd
  cases s with
  | nil =>
      obtain rfl : '"' = d := by simpa [writeMultiLineBasic] using hd
      decide
  | cons c s =>
      by_cases hquote : c = '"'
      · obtain rfl : '"' = d := by simpa [writeMultiLineBasic, hquote] using hd
        decide
      · obtain ⟨x, t, hhead, -, hx⟩ := (escape_escapeChar true hquote).head
        obtain rfl : x = d := by simpa [writeMultiLineBasic, hquote, hhead] using hd
        exact hx fun h => hs (h ▸ List.mem_cons_self)

theorem head?_of_not_isControl {s rest : List Char} (hs : '\n' ∉ s)
    (hcontrol : ∀ c ∈ s, isControl c = false) :
    ∀ d ∈ (s ++ '\'' :: rest).head?, d ≠ '\n' ∧ d ≠ '\r' := by
  intro d hd
  cases s with
  | nil =>
      obtain rfl : '\'' = d := by simpa using hd
      decide
  | cons c s =>
      obtain rfl : c = d := by simpa using hd
      refine ⟨?_, ?_⟩
      · rintro rfl
        exact hs List.mem_cons_self
      · rintro rfl
        exact absurd (hcontrol _ List.mem_cons_self) (by decide)

/-- An empty text and the end of its string make up only two quotes. -/
theorem writeBasic_ne_quotes (s : List Char) {rest : List Char} (hrest : Unquoted rest)
    (t : List Char) : writeBasic s ++ '"' :: rest ≠ '"' :: '"' :: t := by
  intro h
  cases s with
  | nil =>
      simp only [writeBasic, List.flatMap_nil, List.nil_append, List.cons.injEq, true_and] at h
      exact (hrest '"' (by rw [h]; rfl)).1 rfl
  | cons c s =>
      by_cases hquote : c = '"'
      · simp [writeBasic, hquote] at h
      · obtain ⟨x, e, hhead, hx, -⟩ := (escape_escapeChar false hquote).head
        simp [writeBasic, hquote, hhead, hx] at h

theorem literal_ne_quotes {s : List Char} (hs : ∀ c ∈ s, isLiteralChar c = true)
    {rest : List Char} (hrest : Unquoted rest) (t : List Char) :
    s ++ '\'' :: rest ≠ '\'' :: '\'' :: t := by
  intro h
  cases s with
  | nil =>
      simp only [List.nil_append, List.cons.injEq, true_and] at h
      exact (hrest '\'' (by rw [h]; rfl)).2 rfl
  | cons c s =>
      simp only [List.cons_append, List.cons.injEq] at h
      have hc := hs c List.mem_cons_self
      rw [h.1] at hc
      exact absurd hc (by decide)

/-- **Strings are read as they were written**, in whichever form that was. -/
theorem string?_writeString (s : List Char) {rest : List Char} (hrest : Unquoted rest) :
    string? (writeString s ++ rest) = some (s, rest) := by
  unfold writeString
  cases hstyle : StringStyle.choose s with
  | basic =>
      simp only [List.cons_append, List.append_assoc, List.nil_append]
      rw [string?, basicBody_writeBasic]
      exact writeBasic_ne_quotes s hrest
  | literal =>
      have hs := StringStyle.isLiteralChar_of_choose hstyle
      simp only [List.cons_append, List.append_assoc, List.nil_append]
      rw [string?, literalBody_append hs]
      exact literal_ne_quotes hs hrest
  | multiLineBasic =>
      have hbody := multiLineBasicBody_write (Nat.zero_le 2) s hrest
      rw [List.replicate_zero, List.nil_append, List.nil_append] at hbody
      simp only [List.cons_append, List.append_assoc, List.nil_append]
      rw [string?, dropNewline_opening head?_writeMultiLineBasic, hbody]
  | multiLineLiteral =>
      obtain ⟨hcontrol, hruns⟩ := StringStyle.not_isControl_of_choose hstyle
      have hbody := multiLineLiteralBody_append hcontrol hruns hrest
      rw [List.replicate_zero, List.nil_append, List.nil_append] at hbody
      simp only [List.cons_append, List.append_assoc, List.nil_append]
      rw [string?, dropNewline_opening fun hs => head?_of_not_isControl hs hcontrol, hbody]

end Lifecycle.Toml
