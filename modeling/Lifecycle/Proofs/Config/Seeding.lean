import Lifecycle.Config.Basic
import Lifecycle.Extension.Builtin
import Lifecycle.Proofs.Identity.SharedNames
import Mathlib.Data.List.Forall2
/-!
# Seeding

The entries of a default set are gone through twice: once to collect an error for every entry that
names no type, and once to read the types, up to the first entry that names none.  The two agree,
and a root that is built of the types has the entries of the set for the names of its types.
-/

namespace Lifecycle

/-- Where a function tells the members of a list apart, repeats are left out before it as after. -/
theorem eraseDups_map {α β : Type} [BEq α] [LawfulBEq α] [BEq β] [LawfulBEq β] {f : α → β} :
    ∀ {xs : List α}, (∀ a ∈ xs, ∀ b ∈ xs, f a = f b → a = b) →
      (xs.map f).eraseDups = xs.eraseDups.map f
  | [], _ => rfl
  | x :: rest, hf => by
      have hrepeat : ∀ y ∈ rest, (!f y == f x) = (!y == x) := by
        intro y hy
        rw [Bool.not_inj_iff, Bool.eq_iff_iff, beq_iff_eq, beq_iff_eq]
        exact ⟨hf y (.tail _ hy) x (.head _), congrArg f⟩
      have hothers : (rest.map f).filter (fun b => !b == f x) =
          (rest.filter fun a => !a == x).map f := by
        rw [List.filter_map]
        exact congrArg (List.map f) (List.filter_congr hrepeat)
      have hrest : ((rest.filter fun a => !a == x).map f).eraseDups =
          (rest.filter fun a => !a == x).eraseDups.map f :=
        eraseDups_map fun a ha b hb =>
          hf a (.tail _ (List.mem_of_mem_filter ha)) b (.tail _ (List.mem_of_mem_filter hb))
      rw [List.map_cons, List.eraseDups_cons, hothers, hrest, List.eraseDups_cons, List.map_cons]
termination_by xs => xs.length
decreasing_by exact Nat.lt_succ_of_le (List.length_filter_le _ _)

namespace Config

variable {c : Config} {types : List TypeId}

/-! ## Collecting and reading -/

/-- The entries of the default set are read as these types, one for each entry and in order. -/
def Names (c : Config) (types : List TypeId) : Prop :=
  List.Forall₂ (fun entry type => TypeId.parse? entry = some type) c.defaultExtensions types

/-- Either no error is collected and the entries are read, or the first error that is collected is
the one that reading them ends with. -/
theorem collected_or_read (c : Config) :
    (∃ types, c.invalidEntries = [] ∧ c.defaultTypes = .ok types ∧ c.Names types) ∨
      ∃ e later, c.invalidEntries = e :: later ∧ c.defaultTypes = .error e := by
  obtain ⟨entries, policies⟩ := c
  induction entries with
  | nil => exact .inl ⟨[], rfl, rfl, .nil⟩
  | cons entry rest ih =>
      cases hentry : TypeId.parse? entry with
      | none =>
          refine .inr ⟨.invalidTypeName entry, invalidEntries ⟨rest, policies⟩, ?_, ?_⟩
          · simp only [invalidEntries, List.filter_cons, hentry, Option.isNone_none, if_true,
              List.map_cons]
          · simp only [defaultTypes, List.mapM_cons, hentry]
            rfl
      | some type =>
          have hcollected : invalidEntries ⟨entry :: rest, policies⟩ =
              invalidEntries ⟨rest, policies⟩ := by
            simp only [invalidEntries, List.filter_cons, hentry, Option.isNone_some,
              Bool.false_eq_true, if_false]
          have hread : defaultTypes ⟨entry :: rest, policies⟩ =
              (defaultTypes ⟨rest, policies⟩).map (type :: ·) := by
            simp only [defaultTypes, List.mapM_cons, hentry]
            rfl
          rw [hcollected, hread]
          rcases ih with ⟨types, hnone, hok, hnames⟩ | ⟨e, later, hsome, herror⟩
          · exact .inl ⟨type :: types, hnone, by rw [hok]; rfl, .cons hentry hnames⟩
          · exact .inr ⟨e, later, hsome, by rw [herror]; rfl⟩

theorem invalidEntries_eq_nil_iff :
    c.invalidEntries = [] ↔ ∃ types, c.defaultTypes = .ok types := by
  rcases collected_or_read c with ⟨types, hnone, hok, -⟩ | ⟨e, later, hsome, herror⟩
  · simp only [hnone, hok, Except.ok.injEq, exists_eq']
  · simp only [hsome, herror, reduceCtorEq, exists_false]

theorem defaultTypes_eq_error_iff {e : ConfigError} :
    c.defaultTypes = .error e ↔ c.invalidEntries.head? = some e := by
  rcases collected_or_read c with ⟨types, hnone, hok, -⟩ | ⟨e, later, hsome, herror⟩
  · simp only [hnone, hok, reduceCtorEq, List.head?_nil]
  · simp only [hsome, herror, Except.error.injEq, List.head?_cons, Option.some.injEq]

theorem names_of_defaultTypes (h : c.defaultTypes = .ok types) : c.Names types := by
  rcases collected_or_read c with ⟨read, -, hok, hnames⟩ | ⟨e, later, -, herror⟩
  · rw [hok] at h
    exact Except.ok.inj h ▸ hnames
  · rw [herror] at h
    cases h

theorem mem_invalidEntries_iff {e : ConfigError} : e ∈ c.invalidEntries ↔
    ∃ entry ∈ c.defaultExtensions, e = .invalidTypeName entry ∧
      ∀ t : TypeId, t.Proper → t.qualified ≠ entry := by
  simp only [invalidEntries, List.mem_map, List.mem_filter, Option.isNone_iff_eq_none,
    TypeId.parse?_eq_none_iff]
  constructor
  · rintro ⟨entry, ⟨hmem, hunnamed⟩, rfl⟩
    exact ⟨entry, hmem, rfl, hunnamed⟩
  · rintro ⟨entry, hmem, rfl, hunnamed⟩
    exact ⟨entry, ⟨hmem, hunnamed⟩, rfl⟩

/-! ## The types of a default set -/

theorem Names.map_qualified (h : c.Names types) :
    types.map TypeId.qualified = c.defaultExtensions := by
  unfold Names at h
  generalize c.defaultExtensions = entries at h
  induction h with
  | nil => rfl
  | cons hentry _ ih => rw [List.map_cons, ih, TypeId.qualified_of_parse? hentry]

theorem Names.plainSpace (h : c.Names types) : ∀ type ∈ types, type.PlainSpace := by
  unfold Names at h
  generalize c.defaultExtensions = entries at h
  induction h with
  | nil => exact fun _ hmem => absurd hmem List.not_mem_nil
  | cons hentry _ ih =>
      intro type hmem
      rcases List.mem_cons.mp hmem with rfl | hmem
      · exact TypeId.plainSpace_of_parse? hentry
      · exact ih type hmem

theorem Names.map_qualified_eraseDups (h : c.Names types) :
    types.eraseDups.map TypeId.qualified = c.defaultExtensions.eraseDups := by
  rw [← h.map_qualified, eraseDups_map]
  intro a ha b hb
  exact (h.plainSpace a ha).eq_of_qualified_eq (h.plainSpace b hb)

/-- **Validation, reading and seeding agree.**  An error is collected for each entry that names no
type, in order and with repeats.  The entries are read just if none is, and else reading ends with
the first that is.  What is read has an entry's type in the entry's place, so that the qualified
names are the entries.  A root that is built of it, where each of the types can be registered alone,
holds types with the entries for names, each where it stands first. -/
theorem default_set_agrees (c : Config) :
    (c.invalidEntries = (c.defaultExtensions.filter fun entry =>
        decide (TypeId.parse? entry = none)).map .invalidTypeName ∧
      ∀ e, e ∈ c.invalidEntries ↔ ∃ entry ∈ c.defaultExtensions, e = .invalidTypeName entry ∧
        ∀ t : TypeId, t.Proper → t.qualified ≠ entry) ∧
    ((∃ types, c.defaultTypes = .ok types) ↔ c.invalidEntries = []) ∧
    (∀ e, c.defaultTypes = .error e ↔ c.invalidEntries.head? = some e) ∧
    ∀ types, c.defaultTypes = .ok types →
      List.Forall₂ (fun entry type => TypeId.parse? entry = some type) c.defaultExtensions types ∧
      types.map TypeId.qualified = c.defaultExtensions ∧
      ∀ {σ : Type} (rules : PhaseRules) (factory : Factory σ) (worlds : σ → Prop),
        (∀ type ∈ types, Registry.RegistersAlone rules factory worlds type) →
        ∀ id s, worlds s → ∃ r s', Registry.root id rules factory types s = (.ok r, s') ∧
          r.types.map TypeId.qualified = c.defaultExtensions.eraseDups := by
  refine ⟨⟨?_, fun _ => mem_invalidEntries_iff⟩, invalidEntries_eq_nil_iff.symm,
    fun _ => defaultTypes_eq_error_iff, ?_⟩
  · refine congrArg (List.map _) (List.filter_congr fun entry _ => ?_)
    cases TypeId.parse? entry <;> rfl
  · intro types hread
    have hnames := names_of_defaultTypes hread
    refine ⟨hnames, hnames.map_qualified, ?_⟩
    intro σ rules factory worlds halone id s hs
    obtain ⟨r, s', hroot, -, htypes⟩ := Registry.exists_root_of_alone halone id hs
    refine ⟨r, s', hroot, ?_⟩
    rw [htypes, hnames.map_qualified_eraseDups]

/-- A clock that is listed on both sides of a built-in type is registered once, where it is listed
first. -/
theorem repeated_clock_seeded_once :
    let clock : TypeId := ⟨"acme", "clock"⟩
    let factory : Factory Unit := (Builtin.constructors.insert clock
      (Constructor.always { name := "clock", capabilities := .each })).toFactory
    let c : Config :=
      ⟨["acme::clock", "builtin::disabled_condition", "acme::clock"], Policies.standard⟩
    ∃ types r, c.invalidEntries = [] ∧ c.defaultTypes = .ok types ∧
      (Registry.root (ScopeId.numbered 0) PhaseRules.builtin factory types ()).1 = .ok r ∧
      r.types.map TypeId.qualified = ["acme::clock", "builtin::disabled_condition"] := by
  intro clock factory c
  obtain ⟨-, hvalid, -, hseeds⟩ := default_set_agrees c
  have hread : c.defaultTypes = .ok [clock, Builtin.disabledCondition.typeId, clock] := by
    decide +kernel
  obtain ⟨-, -, hroot⟩ := hseeds _ hread
  have halone : ∀ type ∈ [clock, Builtin.disabledCondition.typeId, clock],
      Registry.RegistersAlone PhaseRules.builtin factory (fun _ => True) type := by
    intro type hmem
    simp only [List.mem_cons, List.not_mem_nil, or_false] at hmem
    rcases hmem with rfl | rfl | rfl <;>
      exact Registry.registersAlone_of_made fun _ _ => ⟨_, _, rfl, by decide, rfl, trivial⟩
  obtain ⟨r, s', hr, htypes⟩ := hroot _ _ _ halone (ScopeId.numbered 0) () trivial
  exact ⟨_, r, hvalid.mp ⟨_, hread⟩, hread, congrArg Prod.fst hr, htypes⟩

/-- The default configuration passes its own check. -/
example : standard.defaultTypes = .ok Builtin.defaultTypes := by decide +kernel

end Config

end Lifecycle
