import Lifecycle.Phase.Position
import Lifecycle.Scope.Context
import Lifecycle.Value.Format
/-!
# Named things and contexts as values

Reading phases, sets of phases, positions, type and scope names, verdicts and contexts from values,
and writing them.  The first fault in the order of a record's keys decides the error, and absent
fields are reported after it, in declared order.
-/

namespace Lifecycle

def Phase.ofValue (v : Value) : Except ReadError Phase :=
  Value.format.oneOf Phase.all Phase.name v

def Position.ofValue (v : Value) : Except ReadError Position :=
  Value.format.oneOf Position.all Position.name v

def PhaseSet.ofValue (v : Value) : Except ReadError PhaseSet := do
  let s ← v.toText "a string value of `|` separated flags"
  match PhaseSet.ofText s with
  | .ok set => return set
  | .error e => throw (.badFlags e)

def TypeId.ofValue (v : Value) : Except ReadError TypeId := do
  let s ← v.toText "a string"
  match TypeId.parse? s with
  | some t => return t
  | none => throw (.badTypeName s)

def TypeId.toValue (t : TypeId) : Value := .text t.qualified

def ScopeId.ofValue (v : Value) : Except ReadError ScopeId := do
  let s ← v.toText "a formatted UUID string"
  match Identity.Uuid.ofText? s.toList with
  | some u => return ⟨u⟩
  | none => throw .badUuid

def ScopeId.toValue (s : ScopeId) : Value := .text s.uuid.toString

namespace Verdict

def stateNames : List String := ["enabled", "disabled"]

def toValue : Verdict → Value
  | enabled => .record [("state", .text "enabled")]
  | disabled reason => .record [("reason", .text reason), ("state", .text "disabled")]

/-- Reads the state, and tells whether it is that of a disabled scope. -/
def readState (v : Value) : Except ReadError Bool := do
  let s ← v.toText "variant identifier"
  if stateNames.contains s then return s == "disabled"
  else throw (.unknownVariant s stateNames)

/-- Reads a verdict from a record with its state, or from a list that begins with its state. -/
def ofValue (v : Value) : Except ReadError Verdict := do
  match v with
  | .record fields =>
    match fields.lookup "state" with
    | none => throw (.missingField "state")
    | some state =>
      if ← readState state then
        match fields.lookup "reason" with
        | none => throw (.missingField "reason")
        | some reason => return disabled (← reason.toText "a string")
      else return enabled
  | .list [] => throw (.missingField "state")
  | .list (state :: rest) =>
    if ← readState state then
      match rest with
      | [] => throw (.wrongLength 0 "struct variant Verdict::Disabled with 1 element")
      | reason :: surplus =>
        let reason ← reason.toText "a string"
        if surplus.isEmpty then return disabled reason
        else throw (.wrongLength rest.length "1 element in sequence")
    else if rest.isEmpty then return enabled
    else throw (.wrongLength rest.length "0 elements in sequence")
  | v => throw (.wrongType v.found "internally tagged enum Verdict")

end Verdict

namespace Context

def fieldNames : List String :=
  ["phase", "scope_id", "scope_name", "display_name", "tags", "payload", "metadata", "verdict",
    "resolved"]

/-- The context as a value; a value resolved to nothing looks like none. -/
def toValue (c : Context) : Value :=
  .record [
    ("display_name", .text c.displayName),
    ("metadata", .record c.metadata),
    ("payload", c.payload),
    ("phase", .text c.phase.name),
    ("resolved", c.resolved.getD .null),
    ("scope_id", c.scopeId.toValue),
    ("scope_name", .text c.scopeName),
    ("tags", .list (c.tags.map .text)),
    ("verdict", c.verdict.toValue)]

def readResolved : Value → Option Value
  | .null => none
  | v => some v

/-- Checks that a field can be read; fields that are not declared are passed over. -/
def checkField (key : String) (v : Value) : Except ReadError Unit := do
  match key with
  | "phase" => let _ ← Phase.ofValue v
  | "scope_id" => let _ ← ScopeId.ofValue v
  | "scope_name" | "display_name" => let _ ← v.toText "a string"
  | "tags" => let _ ← Value.format.texts v
  | "metadata" => let _ ← v.toFields
  | "verdict" => let _ ← Verdict.ofValue v
  | _ => return ()

/-- Reads a context from its fields; `absent` is the error for a declared field that is not
there. -/
def ofFields (absent : String → ReadError) (fields : Fields) : Except ReadError Context := do
  let required (key : String) : Except ReadError Value :=
    match fields.lookup key with
    | some v => .ok v
    | none => .error (absent key)
  return {
    phase := ← Phase.ofValue (← required "phase")
    scopeId := ← ScopeId.ofValue (← required "scope_id")
    scopeName := ← (← required "scope_name").toText "a string"
    displayName := ← (← required "display_name").toText "a string"
    tags := ← Value.format.texts (← required "tags")
    payload := ← required "payload"
    metadata := ← (← required "metadata").toFields
    verdict := ← Verdict.ofValue (← required "verdict")
    resolved := (fields.lookup "resolved").bind readResolved
  }

def ofValue (v : Value) : Except ReadError Context := do
  match ← v.toMembers "struct CallbackContext" with
  | .named fields =>
    fields.forM fun (key, v) => checkField key v
    ofFields .missingField fields
  | .ordered items =>
    let fields := fieldNames.zip items
    fields.forM fun (key, v) => checkField key v
    if items.length < fieldNames.length then
      throw (.wrongLength items.length "struct CallbackContext with 9 elements")
    else if fieldNames.length < items.length then
      throw (.wrongLength items.length "fewer elements in array")
    else ofFields .missingField fields

end Context

end Lifecycle
