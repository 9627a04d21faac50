import Lifecycle.Proofs.Config.Records
import Lifecycle.Proofs.Json.Values
import Lifecycle.Proofs.Scope.Identifiers
import Lifecycle.Scope.Record
/-!
# Reading written contexts

A context is written as a value and read from it with all its fields but one: a value resolved to
nothing looks like no value at all.
-/

namespace Lifecycle

/-! ## Fields of contexts -/

theorem Phase.ofValue_name (p : Phase) : Phase.ofValue (.text p.name) = .ok p := by
  cases p <;> rfl

theorem ScopeId.ofValue_toValue (s : ScopeId) : ScopeId.ofValue s.toValue = .ok s := by
  have hread : Identity.Uuid.ofText? s.uuid.toString.toList = some s.uuid := by
    rw [Identity.Uuid.toString, String.toList_ofList]
    exact Identity.Uuid.ofText?_toText s.uuid
  simp only [ofValue, toValue, Value.toText, bind, Except.bind, hread]
  rfl

theorem Verdict.ofValue_toValue (v : Verdict) : Verdict.ofValue v.toValue = .ok v := by
  cases v <;> rfl

theorem Value.texts_map_text (l : List String) :
    Value.format.texts (.list (l.map .text)) = .ok l :=
  Value.texts_eq_ok_iff.mpr rfl

namespace Context

/-- The fields that a context is written as, in the order of their keys. -/
def written (c : Context) : Fields :=
  [("display_name", .text c.displayName), ("metadata", .record c.metadata),
    ("payload", c.payload), ("phase", .text c.phase.name), ("resolved", c.resolved.getD .null),
    ("scope_id", c.scopeId.toValue), ("scope_name", .text c.scopeName),
    ("tags", .list (c.tags.map .text)), ("verdict", c.verdict.toValue)]

theorem toValue_eq (c : Context) : c.toValue = .record c.written := rfl

theorem forM_checkField (c : Context) :
    c.written.forM (fun (key, v) => checkField key v) = .ok () := by
  apply forM_eq_ok
  intro field hfield
  simp only [written, List.mem_cons, List.not_mem_nil, or_false] at hfield
  rcases hfield with rfl | rfl | rfl | rfl | rfl | rfl | rfl | rfl | rfl
  · rfl
  · rfl
  · rfl
  · simp only [checkField, Phase.ofValue_name]
    rfl
  · rfl
  · simp only [checkField, ScopeId.ofValue_toValue]
    rfl
  · rfl
  · simp only [checkField, Value.texts_map_text]
    rfl
  · simp only [checkField, Verdict.ofValue_toValue]
    rfl

theorem ofFields_written (absent : String → ReadError) (c : Context) :
    ofFields absent c.written = .ok { c with resolved := c.resolved.bind readResolved } := by
  have hphase : c.written.lookup "phase" = some (.text c.phase.name) := rfl
  have hscope : c.written.lookup "scope_id" = some c.scopeId.toValue := rfl
  have hname : c.written.lookup "scope_name" = some (.text c.scopeName) := rfl
  have hdisplay : c.written.lookup "display_name" = some (.text c.displayName) := rfl
  have htags : c.written.lookup "tags" = some (.list (c.tags.map .text)) := rfl
  have hpayload : c.written.lookup "payload" = some c.payload := rfl
  have hmetadata : c.written.lookup "metadata" = some (.record c.metadata) := rfl
  have hverdict : c.written.lookup "verdict" = some c.verdict.toValue := rfl
  -- the one field whose reader takes null for no value at all
  have hresolved : (c.written.lookup "resolved").bind readResolved =
      c.resolved.bind readResolved := by
    have hlookup : c.written.lookup "resolved" = some (c.resolved.getD .null) := rfl
    rw [hlookup]
    cases c.resolved <;> rfl
  simp only [ofFields, hphase, hscope, hname, hdisplay, htags, hpayload, hmetadata, hverdict,
    hresolved, bind, Except.bind, Phase.ofValue_name, ScopeId.ofValue_toValue,
    Value.texts_map_text, Verdict.ofValue_toValue, Value.toText, Value.toFields]
  rfl

theorem ofValue_toValue (c : Context) :
    ofValue c.toValue = .ok { c with resolved := c.resolved.bind readResolved } := by
  have hfields : ofValue (.record c.written) =
      (c.written.forM fun (key, v) => checkField key v).bind fun _ =>
        ofFields .missingField c.written := rfl
  rw [toValue_eq, hfields, forM_checkField]
  exact ofFields_written .missingField c

/-! ## The text of a context -/

/-- What a context carries is portable below the one bracket that the context itself opens. -/
structure Portable (c : Context) : Prop where
  payload : Json.Portable (Json.depthLimit - 1) c.payload
  metadata : Json.Portable (Json.depthLimit - 1) (.record c.metadata)
  resolved : ∀ v, c.resolved = some v → Json.Portable (Json.depthLimit - 1) v

theorem portable_verdict (depth : Nat) (v : Verdict) : Json.Portable (depth + 1) v.toValue := by
  cases v with
  | enabled =>
      refine .record (List.pairwise_singleton _ _) ?_
      simpa using .text "enabled"
  | disabled reason =>
      have hsorted : Fields.Sorted [("reason", .text reason), ("state", .text "disabled")] := by
        simp only [Fields.Sorted, List.pairwise_pair]
        decide
      refine .record hsorted ?_
      simpa using ⟨.text reason, .text "disabled"⟩

theorem sorted_written (c : Context) : c.written.Sorted := by
  have hkeys : c.written.map (·.1) = ["display_name", "metadata", "payload", "phase", "resolved",
      "scope_id", "scope_name", "tags", "verdict"] := rfl
  have hpairwise : (c.written.map (·.1)).Pairwise (· < ·) := by
    rw [hkeys]
    decide
  exact List.pairwise_map.mp hpairwise

theorem Portable.toValue {c : Context} (h : c.Portable) :
    Json.Portable Json.depthLimit c.toValue := by
  have hresolved : Json.Portable (Json.depthLimit - 1) (c.resolved.getD .null) := by
    cases hcase : c.resolved with
    | none => exact .null
    | some v => exact h.resolved v hcase
  have htags : Json.Portable (Json.depthLimit - 1) (.list (c.tags.map .text)) := by
    refine .list ?_
    intro v hv
    obtain ⟨tag, -, rfl⟩ := List.mem_map.mp hv
    exact .text tag
  refine .record c.sorted_written ?_
  intro field hfield
  simp only [List.mem_cons, List.not_mem_nil, or_false] at hfield
  rcases hfield with rfl | rfl | rfl | rfl | rfl | rfl | rfl | rfl | rfl
  · exact .text _
  · exact h.metadata
  · exact h.payload
  · exact .text _
  · exact hresolved
  · exact .text _
  · exact .text _
  · exact htags
  · exact portable_verdict _ c.verdict

theorem bind_readResolved_eq_iff (resolved : Option Value) :
    resolved.bind readResolved = resolved ↔ resolved ≠ some .null := by
  cases resolved with
  | none => simp
  | some v => cases v <;> simp [readResolved]

/-- **A context is read as it was written, unless it was resolved to nothing.**  What it is written
as is read as the context itself if and only if it does not hold a resolved value that is null, and
if its data are portable the same goes for the JSON text of that. -/
theorem read_back_iff (c : Context) :
    (ofValue c.toValue = .ok c ↔ c.resolved ≠ some .null) ∧
      (c.Portable → ((Json.parse? (Json.text c.toValue)).map ofValue = some (.ok c) ↔
        c.resolved ≠ some .null)) := by
  have hread : ofValue c.toValue = .ok c ↔ c.resolved ≠ some .null := by
    rw [ofValue_toValue, ← bind_readResolved_eq_iff]
    constructor
    · intro h
      exact congrArg resolved (Except.ok.inj h)
    · intro h
      rw [h]
  refine ⟨hread, ?_⟩
  intro hportable
  rw [Json.parse?_text hportable.toValue, Option.map_some, Option.some.injEq]
  exact hread

/-- A context with data of every kind is read from its text. -/
theorem carried_data_read_back :
    let c : Context :=
      { Context.forScope .parameterResolver (ScopeId.numbered 3) "case" (.record
          [("attempts", .list [.int (-2), .null, .bool true]),
            ("weight", .float (.finite false 6755399441055744 (-52)))]) with
        displayName := "a \"quoted\"\ncase"
        tags := ["slow", ""]
        metadata := [("timer", .record [("started", .int 18446744073709551615)])]
        verdict := .disabled "because"
        resolved := some (.text "null") }
    c.Portable ∧ c.resolved ≠ some .null ∧
      (Json.parse? (Json.text c.toValue)).map ofValue = some (.ok c) := by
  intro c
  have hweight : Json.NumberReadsBack (.float (.finite false 6755399441055744 (-52))) := by
    have hvalue : (Json.scaled? 15 (-1)).map (⟨false, ['1'], ['5'], none⟩ : Json.Numeral).signed =
        some (.float (.finite false 6755399441055744 (-52))) := by
      have hscaled : Json.scaled? 15 (-1) = some (.finite false 6755399441055744 (-52)) := by
        decide +kernel
      rw [hscaled]
      rfl
    exact ⟨⟨false, ['1'], ['5'], none⟩, by decide +kernel, hvalue⟩
  have hattempts : Json.Portable 125 (.list [.int (-2), .null, .bool true]) := by
    refine .list ?_
    simp only [List.mem_cons, List.not_mem_nil, or_false, forall_eq_or_imp, forall_eq]
    exact ⟨.int (by decide) (by decide), .null, .bool true⟩
  have hpayload : Json.Portable 126 c.payload := by
    refine .record ?_ ?_
    · simp only [Fields.Sorted, List.pairwise_pair]
      decide
    · simp only [List.mem_cons, List.not_mem_nil, or_false, forall_eq_or_imp, forall_eq]
      exact ⟨hattempts, .float hweight⟩
  have hstarted : Json.Portable 125 (.record [("started", .int 18446744073709551615)]) := by
    refine .record (List.pairwise_singleton _ _) ?_
    simp only [List.mem_cons, List.not_mem_nil, or_false, forall_eq]
    exact .int (by decide) (by decide)
  have hmetadata : Json.Portable 126 (.record c.metadata) := by
    refine .record (List.pairwise_singleton _ _) ?_
    intro field hfield
    rw [List.mem_singleton.mp hfield]
    exact hstarted
  have hportable : c.Portable := by
    refine ⟨hpayload, hmetadata, ?_⟩
    intro v hv
    rw [← Option.some.inj hv]
    exact .text "null"
  have hresolved : c.resolved ≠ some .null := by simp [c]
  exact ⟨hportable, hresolved, ((read_back_iff c).2 hportable).mpr hresolved⟩

/-- A context that was resolved to nothing is read as one that was not resolved.  The next resolver
then has its way, which on the context itself it does not. -/
theorem resolved_to_null_not_read_back :
    (¬ ∀ c : Context, ofValue c.toValue = .ok c) ∧
      ∃ c c' : Context, ofValue c.toValue = .ok c' ∧
        (c.resolve (.int 1)).resolved = some .null ∧
        (c'.resolve (.int 1)).resolved = some (.int 1) := by
  let c := (Context.forScope .parameterResolver (ScopeId.numbered 0) "case" .null).resolve .null
  refine ⟨?_, c, { c with resolved := none }, ofValue_toValue c, rfl, rfl⟩
  intro h
  have hsame : c.resolved.bind readResolved = c.resolved :=
    congrArg resolved (Except.ok.inj ((ofValue_toValue c).symm.trans (h c)))
  exact (bind_readResolved_eq_iff c.resolved).mp hsame rfl

end Context

end Lifecycle
