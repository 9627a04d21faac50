import Lifecycle.Identity.Uuid
import Lifecycle.Text.Blank
/-!
# Extension types and scopes

An extension type is named by a space and a name within it, joined by `::` in its qualified name.
A scope is named by an identifier of its own.
-/

namespace Lifecycle

open Lifecycle.Text Lifecycle.Identity

/-- The name of an extension type: a space and a name within the space. -/
structure TypeId where
  space : String
  name : String
  deriving DecidableEq, Inhabited

namespace TypeId

def builtinSpace : String := "builtin"

def separator : List Char := [':', ':']

def uuidSpace : Uuid := ⟨0x3f6d2a0e8c414b7e9a52c1e07d94b3a8⟩

def builtin (name : String) : TypeId := ⟨builtinSpace, name⟩

def isBuiltin (t : TypeId) : Bool := t.space == builtinSpace

def qualified (t : TypeId) : String := t.space ++ "::" ++ t.name

def uuid (t : TypeId) : Uuid := Uuid.nameBased uuidSpace t.qualified.toUTF8.toList

/-- Whether a text can stand on either side of the separator. -/
def isPart (s : List Char) : Bool :=
  !s.isEmpty && !occursIn separator s && !s.any isBlank

/-- Reads a qualified name, cutting it at the first `::`. -/
def parse? (s : String) : Option TypeId :=
  match cutAt separator s.toList with
  | some (space, name) =>
    if isPart space && isPart name then some ⟨String.ofList space, String.ofList name⟩ else none
  | none => none

instance : ToString TypeId := ⟨qualified⟩

theorem qualified_of_parse? {s : String} {t : TypeId} (h : parse? s = some t) :
    t.qualified = s := by
  rw [parse?] at h
  split at h
  · next space name hcut =>
    split at h
    · obtain rfl := Option.some.inj h
      have hs := eq_of_cutAt hcut
      apply String.toList_inj.mp
      simp [qualified, hs, separator]
    · cases h
  · cases h

end TypeId

structure ScopeId where
  uuid : Uuid
  deriving DecidableEq, Inhabited

namespace ScopeId

def numbered (n : Nat) : ScopeId := ⟨Uuid.numbered n⟩

def display (s : ScopeId) : String := "scope:" ++ s.uuid.toString

instance : ToString ScopeId := ⟨display⟩

end ScopeId

end Lifecycle
