import Lifecycle.Proofs.Config.Layers
import Lifecycle.Proofs.Toml.Strings
/-!
# Written configurations

The document that a configuration is written as holds what the configuration consists of, so that
it is read as that configuration, whatever strings its default set is made of.
-/

namespace Lifecycle

open Lifecycle.Text

namespace Toml

/-! ## Arrays of strings -/

def textOf (s : List Char) : Value := .text (String.ofList s)

theorem writeString_head (s : List Char) :
    ∃ q t, writeString s = q :: t ∧ (q = '"' ∨ q = '\'') := by
  unfold writeString
  cases StringStyle.choose s with
  | basic => exact ⟨_, _, rfl, .inl rfl⟩
  | literal => exact ⟨_, _, rfl, .inr rfl⟩
  | multiLineBasic => exact ⟨_, _, rfl, .inl rfl⟩
  | multiLineLiteral => exact ⟨_, _, rfl, .inr rfl⟩

theorem value?_writeString (depth : Nat) (s : List Char) {rest : List Char}
    (hrest : Unquoted rest) :
    value? depth (writeString s ++ rest) = some (textOf s, rest) := by
  have hread := string?_writeString s hrest
  obtain ⟨q, t, hhead, hq⟩ := writeString_head s
  rw [hhead, List.cons_append] at hread ⊢
  rcases hq with rfl | rfl <;> cases depth <;> simp [value?, scalar?, hread, textOf]

theorem skipLines_writeString (s rest : List Char) :
    skipLines false (writeString s ++ rest) = writeString s ++ rest := by
  obtain ⟨q, t, hhead, hq⟩ := writeString_head s
  rw [hhead, List.cons_append]
  rcases hq with rfl | rfl <;> simp [skipLines, isSpace]

theorem unquoted_cons {d : Char} (h : d ≠ '"' ∧ d ≠ '\'') (rest : List Char) :
    Unquoted (d :: rest) := by
  intro d' hd'
  obtain rfl : d = d' := by simpa using hd'
  exact h

theorem arrayItems?_item (depth fuel : Nat) (s : List Char) {d : Char} (hd : d = ',' ∨ d = ']')
    (rest : List Char) :
    arrayItems? (value? depth) (fuel + 1) (writeString s ++ d :: rest) =
      if d = ',' then
        (arrayItems? (value? depth) fuel rest).bind fun later =>
          some (textOf s :: later.1, later.2)
      else some ([textOf s], rest) := by
  have hvalue : value? depth (writeString s ++ d :: rest) = some (textOf s, d :: rest) := by
    refine value?_writeString depth s (unquoted_cons ?_ rest)
    rcases hd with rfl | rfl <;> decide
  have hskip := skipLines_writeString s (d :: rest)
  obtain ⟨q, t, hhead, hq⟩ := writeString_head s
  rw [hhead, List.cons_append] at hskip hvalue ⊢
  rcases hq with rfl | rfl <;> rcases hd with rfl | rfl <;>
    simp [arrayItems?, hskip, hvalue, skipLines, isSpace]

theorem arrayItems?_indented (depth fuel : Nat) (s : List Char) :
    arrayItems? (value? depth) fuel ('\n' :: ' ' :: ' ' :: ' ' :: ' ' :: s) =
      arrayItems? (value? depth) fuel s := by
  cases fuel with
  | zero => rfl
  | succ fuel => simp [arrayItems?, skipLines, isSpace]

theorem arrayItems?_writeItemLines (depth : Nat) {fuel : Nat} {items : List (List Char)}
    (hfuel : items.length < fuel) (rest : List Char) :
    arrayItems? (value? depth) fuel ('\n' :: (writeItemLines items ++ ']' :: rest)) =
      some (items.map textOf, rest) := by
  induction items generalizing fuel with
  | nil =>
      obtain ⟨fuel, rfl⟩ : ∃ n, fuel = n + 1 := ⟨fuel - 1, by simp at hfuel; omega⟩
      simp [writeItemLines, arrayItems?, skipLines, isSpace]
  | cons s items ih =>
      rw [List.length_cons] at hfuel
      obtain ⟨fuel, rfl⟩ : ∃ n, fuel = n + 1 := ⟨fuel - 1, by omega⟩
      have hmore := ih (show items.length < fuel by omega)
      simp only [writeItemLines, List.cons_append, List.nil_append, List.append_assoc]
      rw [arrayItems?_indented, arrayItems?_item depth fuel s (.inl rfl), if_pos rfl, hmore]
      rfl

theorem length_le_writeItemLines (items : List (List Char)) :
    items.length ≤ (writeItemLines items).length := by
  induction items with
  | nil => exact Nat.le_refl 0
  | cons s items ih =>
      simp only [writeItemLines, List.length_append, List.length_cons]
      omega

theorem value?_writeStrings (depth : Nat) (items : List (List Char)) (rest : List Char) :
    value? (depth + 1) (writeStrings items ++ rest) = some (.array (items.map textOf), rest) := by
  match items with
  | [] => simp [writeStrings, value?, arrayItems?, skipLines, isSpace]
  | [s] =>
      have hitem := arrayItems?_item depth (writeString s ++ ']' :: rest).length s (.inr rfl) rest
      simp only [writeStrings, List.cons_append, List.append_assoc, List.nil_append, value?]
      rw [hitem]
      rfl
  | s :: s' :: items =>
      have hlength := length_le_writeItemLines (s :: s' :: items)
      simp only [writeStrings, List.cons_append, List.append_assoc, List.nil_append, value?]
      rw [arrayItems?_writeItemLines]
      · rfl
      · simp only [List.length_append, List.length_cons] at hlength ⊢
        omega

/-! ## The document -/

def policyLines (d : Policies) : List Char :=
  "\n[dispatch]\nforward = \"".toList ++ d.forward.name.toList ++
    "\"\nbackward = \"".toList ++ d.backward.name.toList ++ "\"\n".toList

def policyStatements (d : Policies) : List Statement :=
  [.openTable ⟨[], "dispatch"⟩, .assign ⟨[], "forward"⟩ (.text d.forward.name),
    .assign ⟨[], "backward"⟩ (.text d.backward.name)]

theorem statements?_policyLines (d : Policies) (fuel : Nat) :
    statements? (fuel + 5) (policyLines d) = some (policyStatements d) := by
  obtain ⟨forward, backward⟩ := d
  cases forward <;> cases backward <;> rfl

theorem key?_defaultExtensions (rest : List Char) :
    key? ("default_extensions = ".toList ++ rest) =
      some (⟨[], "default_extensions"⟩, '=' :: ' ' :: rest) := rfl

theorem skipSpaces_writeStrings (items : List (List Char)) (rest : List Char) :
    skipSpaces (' ' :: (writeStrings items ++ rest)) = writeStrings items ++ rest := by
  match items with
  | [] => rfl
  | [_] => rfl
  | _ :: _ :: _ => rfl

/-- The line of the default set, which may in fact be several lines. -/
theorem statement?_defaultExtensions (items : List (List Char)) (rest : List Char) :
    statement? ("default_extensions = ".toList ++ (writeStrings items ++ '\n' :: rest)) =
      some (.assign ⟨[], "default_extensions"⟩ (.array (items.map textOf)), rest) := by
  have hassignment : assignment? (value? (depthLimit - 1))
      ("default_extensions = ".toList ++ (writeStrings items ++ '\n' :: rest)) =
        some ((⟨[], "default_extensions"⟩, .array (items.map textOf)), '\n' :: rest) := by
    rw [assignment?, key?_defaultExtensions]
    simp only [Option.bind_eq_bind, Option.bind_some, skipSpaces_writeStrings]
    rw [depthLimit, value?_writeStrings]
    rfl
  have hline : statement? ("default_extensions = ".toList ++ (writeStrings items ++ '\n' :: rest)) =
      (assignment? (value? (depthLimit - 1))
        ("default_extensions = ".toList ++ (writeStrings items ++ '\n' :: rest))).bind
          fun line => (lineEnd? line.2).map fun rest => (.assign line.1.1 line.1.2, rest) := rfl
  rw [hline, hassignment]
  rfl

theorem statements?_defaultExtensions (items : List (List Char)) (rest : List Char) (fuel : Nat) :
    statements? (fuel + 1) ("default_extensions = ".toList ++ (writeStrings items ++ '\n' :: rest)) =
      (statements? fuel rest).bind fun later =>
        some (.assign ⟨[], "default_extensions"⟩ (.array (items.map textOf)) :: later) := by
  have hline : statements? (fuel + 1)
      ("default_extensions = ".toList ++ (writeStrings items ++ '\n' :: rest)) =
        (statement? ("default_extensions = ".toList ++ (writeStrings items ++ '\n' :: rest))).bind
          fun line => (statements? fuel line.2).bind fun later => some (line.1 :: later) := rfl
  rw [hline, statement?_defaultExtensions]
  rfl

theorem assemble_policyStatements (v : Value) (d : Policies) :
    assemble (.assign ⟨[], "default_extensions"⟩ v :: policyStatements d) =
      some [("default_extensions", v), ("dispatch", .table .explicit
        [("forward", .text d.forward.name), ("backward", .text d.backward.name)])] := rfl

end Toml

namespace Config

def document (c : Config) : Toml.Value :=
  .table .explicit [("default_extensions", .array (c.defaultExtensions.map .text)),
    ("dispatch", .table .explicit [("forward", .text c.policies.forward.name),
      ("backward", .text c.policies.backward.name)])]

theorem toList_toText (c : Config) :
    c.toText.toList = "default_extensions = ".toList ++
      (Toml.writeStrings (c.defaultExtensions.map String.toList) ++
        '\n' :: Toml.policyLines c.policies) := by
  have hblank : "\n\n[dispatch]\nforward = \"".toList =
      '\n' :: "\n[dispatch]\nforward = \"".toList := rfl
  unfold toText Toml.policyLines
  repeat rw [String.toList_append]
  rw [hblank, String.toList_ofList, String.toList_ofList]
  repeat rw [List.append_assoc]
  rfl

theorem parse?_toText (c : Config) : Toml.parse? c.toText.toList = some c.document := by
  rw [toList_toText]
  generalize hitems : c.defaultExtensions.map String.toList = items
  have hbeginning : ∀ rest, Toml.dropByteOrderMark ("default_extensions = ".toList ++ rest) =
      "default_extensions = ".toList ++ rest := fun _ => rfl
  have hvalues : items.map Toml.textOf = c.defaultExtensions.map .text := by
    rw [← hitems, List.map_map]
    refine List.map_congr_left fun s _ => ?_
    exact congrArg Toml.Value.text String.ofList_toList
  -- the first key alone has more characters than the document has statements
  have hfuel : ∀ rest, ∃ n, ("default_extensions = ".toList ++ rest).length = n + 5 :=
    fun rest => ⟨rest.length + 16, by simp⟩
  obtain ⟨n, hn⟩ := hfuel (Toml.writeStrings items ++ '\n' :: Toml.policyLines c.policies)
  rw [Toml.parse?, hbeginning, hn]
  simp only [Toml.statements?_defaultExtensions, Toml.statements?_policyLines, Option.map_some,
    Option.bind_eq_bind, Option.bind_some, Toml.assemble_policyStatements, hvalues]
  rfl

theorem describes_document (c : Config) : c.document.Describes c := by
  have hpolicies : (Toml.Value.table .explicit [("forward", .text c.policies.forward.name),
      ("backward", .text c.policies.backward.name)]).DescribesPolicies c.policies :=
    ⟨rfl, .text, .text⟩
  exact ⟨rfl, rfl, hpolicies⟩

/-- **Configurations are read as they were written.**  For any default set and policies the text of a
configuration is a document of them both, which is read as the configuration; so a loader without an
environment gets back what was written to its file. -/
theorem ofText_toText (c : Config) :
    Toml.parse? c.toText.toList = some c.document ∧ ofText c.toText = .ok c ∧
      ∀ path env, (⟨path, false⟩ : ConfigLoader).load (.content c.toText.toUTF8) env = .ok c := by
  have hread : ofText c.toText = .ok c :=
    ofText_eq_ok_iff.mpr ⟨c.document, c.parse?_toText, c.describes_document⟩
  refine ⟨c.parse?_toText, hread, ?_⟩
  intro path env
  have hfile : ofFile path (.content c.toText.toUTF8) = .ok (some c) :=
    ofFile_of_reads rfl ⟨true, rfl⟩ hread
  rw [ConfigLoader.load_of_ofFile_ok (l := ⟨path, false⟩) hfile]
  rfl

end Config

end Lifecycle
