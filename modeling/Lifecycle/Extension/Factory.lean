import Lifecycle.Extension.Basic
/-!
# Factories

A factory makes the extension that stands for a type.  One kind of factory has a constructor for
each type it knows, and a constructor may refuse.
-/

namespace Lifecycle

open Lifecycle.Text

/-- What makes the extension for a type; it may act on the world. -/
structure Factory (σ : Type) where
  instantiate : TypeId → σ → Except InstantiationError (Provider σ) × σ

abbrev Constructor (σ : Type) := σ → Except String (Provider σ) × σ

def Constructor.always {σ : Type} (p : Provider σ) : Constructor σ := fun s => (.ok p, s)

def Constructor.refuse {σ : Type} (reason : String) : Constructor σ := fun s => (.error reason, s)

structure Constructors (σ : Type) where
  constructors : List (TypeId × Constructor σ)

namespace Constructors

variable {σ : Type}

def empty : Constructors σ := ⟨[]⟩

instance : Inhabited (Constructors σ) := ⟨empty⟩

/-- Sets the constructor of a type, in place of an earlier one. -/
def insert (f : Constructors σ) (type : TypeId) (make : Constructor σ) : Constructors σ :=
  ⟨f.constructors.filter (·.1 != type) ++ [(type, make)]⟩

def contains (f : Constructors σ) (type : TypeId) : Bool := (f.constructors.lookup type).isSome

def size (f : Constructors σ) : Nat := f.constructors.length

def instantiate (f : Constructors σ) (type : TypeId) (s : σ) :
    Except InstantiationError (Provider σ) × σ :=
  match f.constructors.lookup type with
  | none => (.error (.unknownType type.qualified), s)
  | some make =>
    match make s with
    | (.ok p, s) => (.ok p, s)
    | (.error reason, s) => (.error (.constructorFailed type.qualified reason), s)

def toFactory (f : Constructors σ) : Factory σ := ⟨f.instantiate⟩

/-- The description of the constructors: the qualified names of the known types in order. -/
def describe (f : Constructors σ) : String :=
  let names := (f.constructors.map (·.1.qualified)).mergeSort (· ≤ ·)
  "FactoryTable \x7b types: [" ++ ", ".intercalate (names.map quotedString) ++ "] \x7d"

end Constructors

end Lifecycle
