/-!
# Cutting a text

A text is cut once, at the first occurrence of a separator, or into all the pieces between
separating characters.
-/

namespace Lifecycle.Text

/-- The parts before and after the first occurrence of `sep`, if there is one. -/
def cutAt (sep : List Char) : List Char → Option (List Char × List Char)
  | [] => if sep = [] then some ([], []) else none
  | c :: rest =>
    if sep.isPrefixOf (c :: rest) then
      some ([], (c :: rest).drop sep.length)
    else
      (cutAt sep rest).map fun (before, after) => (c :: before, after)

def occursIn (part s : List Char) : Bool :=
  (cutAt part s).isSome

/-- The pieces between the characters that satisfy `sep`; there is always at least one piece. -/
def pieces (sep : Char → Bool) : List Char → List (List Char)
  | [] => [[]]
  | c :: rest =>
    if sep c then
      [] :: pieces sep rest
    else
      match pieces sep rest with
      | [] => [[c]]
      | piece :: others => (c :: piece) :: others

def join (sep : List Char) : List (List Char) → List Char
  | [] => []
  | [piece] => piece
  | piece :: others => piece ++ sep ++ join sep others

def consChar (c : Char) (parts : Option (List Char × List Char)) :
    Option (List Char × List Char) :=
  parts.map fun (front, rest) => (c :: front, rest)

theorem eq_of_cutAt {sep s before after : List Char} (h : cutAt sep s = some (before, after)) :
    s = before ++ sep ++ after := by
  induction s generalizing before with
  | nil =>
    rw [cutAt] at h
    split at h
    · next hsep =>
      obtain ⟨rfl, rfl⟩ := Prod.mk.inj (Option.some.inj h)
      simp [hsep]
    · cases h
  | cons c rest ih =>
    rw [cutAt] at h
    split at h
    · next hsep =>
      obtain ⟨rfl, rfl⟩ := Prod.mk.inj (Option.some.inj h)
      obtain ⟨t, ht⟩ := List.isPrefixOf_iff_prefix.mp hsep
      rw [← ht]
      simp
    · obtain ⟨⟨b, a⟩, hcut, heq⟩ := Option.map_eq_some_iff.mp h
      obtain ⟨rfl, rfl⟩ := Prod.mk.inj heq
      rw [ih hcut]
      simp

theorem pieces_ne_nil (sep : Char → Bool) (s : List Char) : pieces sep s ≠ [] := by
  cases s with
  | nil => simp [pieces]
  | cons c rest =>
    rw [pieces]
    split
    · simp
    · split <;> simp

end Lifecycle.Text
