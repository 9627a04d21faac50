import Lifecycle.Number.Binary64
/-!
# Values

The data that scopes hand to extensions and extensions hand on: payloads, metadata and resolved
parameters.  The fields of a record are kept in the order of their keys.
-/

namespace Lifecycle

open Lifecycle.Number

inductive Value where
  | null
  | bool (b : Bool)
  | int (n : Int)
  | float (x : Binary64)
  | text (s : String)
  | list (items : List Value)
  | record (fields : List (String × Value))

namespace Value

instance : Inhabited Value := ⟨null⟩

def get? (key : String) : Value → Option Value
  | record fields => fields.lookup key
  | _ => none

def asText? : Value → Option String
  | text s => some s
  | _ => none

end Value

abbrev Fields := List (String × Value)

namespace Fields

def insert (key : String) (value : Value) : Fields → Fields
  | [] => [(key, value)]
  | (k, v) :: rest =>
    if key < k then (key, value) :: (k, v) :: rest
    else if key = k then (key, value) :: rest
    else (k, v) :: insert key value rest

/-- The fields given in any order; of two with one key the later is kept. -/
def ofList (entries : List (String × Value)) : Fields :=
  entries.foldl (fun fields (key, value) => insert key value fields) []

private theorem ne_of_lt {a b : String} (h : a < b) : a ≠ b := by
  rintro rfl
  exact absurd h (by simp)

theorem lookup_insert_self (key : String) (value : Value) (fields : Fields) :
    (insert key value fields).lookup key = some value := by
  induction fields with
  | nil => simp [insert]
  | cons entry rest ih =>
    obtain ⟨k, v⟩ := entry
    rw [insert]
    split
    · simp
    · split
      · simp
      · next hne =>
        rw [List.lookup_cons, show (key == k) = false by simpa using hne]
        exact ih

theorem lookup_insert_of_ne {key other : String} (h : other ≠ key) (value : Value)
    (fields : Fields) : (insert key value fields).lookup other = fields.lookup other := by
  have hbeq : (other == key) = false := by simpa using h
  induction fields with
  | nil => simp [insert, List.lookup_cons, hbeq]
  | cons entry rest ih =>
    obtain ⟨k, v⟩ := entry
    rw [insert]
    split
    · rw [List.lookup_cons, hbeq]
    · split
      · next heq =>
        subst heq
        simp only [List.lookup_cons, hbeq]
      · simp only [List.lookup_cons]
        split
        · rfl
        · exact ih

end Fields

end Lifecycle
