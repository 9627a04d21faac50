import Lifecycle.Proofs.Identity.QualifiedNames
import Lifecycle.Proofs.Registry.Alone
import Mathlib.Data.List.Nodup
/-!
# Shared names

Types are compared by their spaces and names, and named by the two joined.  One text can be cut in
several places, so that types may share a qualified name without being equal.  Of the types that
share one, a single type has a plain space, and these are told apart by their names.
-/

namespace Lifecycle

open Lifecycle.Text

variable {σ : Type}

namespace TypeId

/-- Two types share a qualified name, which is cut earlier for the first one than for the second:
what the space of the second one has in addition, the name of the first one has. -/
inductive CutEarlier (a b : TypeId) : Prop where
  | byColon : b.space = a.space ++ ":" → a.name = ":" ++ b.name → CutEarlier a b
  | bySeparator (part : String) : b.space = a.space ++ "::" ++ part →
      a.name = part ++ "::" ++ b.name → CutEarlier a b

theorem CutEarlier.qualified_eq {a b : TypeId} (h : a.CutEarlier b) :
    a.qualified = b.qualified := by
  apply String.toList_inj.mp
  cases h with
  | byColon hspace hname => simp [qualified, hspace, hname]
  | bySeparator part hspace hname => simp [qualified, hspace, hname]

/-- A separator and what follows it, once they begin with a text and a separator again. -/
private theorem separator_append_eq {extra late early : List Char}
    (h : separator ++ early = extra ++ (separator ++ late)) :
    (extra = [] ∧ early = late) ∨ (extra = [':'] ∧ early = ':' :: late) ∨
      ∃ part, extra = separator ++ part ∧ early = part ++ (separator ++ late) := by
  match extra with
  | [] => exact .inl ⟨rfl, List.append_cancel_left h⟩
  | [c] =>
      obtain ⟨rfl, htail⟩ := List.cons.inj h
      exact .inr (.inl ⟨rfl, (List.cons.inj htail).2⟩)
  | c :: d :: part =>
      obtain ⟨rfl, htail⟩ := List.cons.inj h
      obtain ⟨rfl, hearly⟩ := List.cons.inj htail
      exact .inr (.inr ⟨part, rfl, hearly⟩)

theorem eq_or_cutEarlier {a b : TypeId} {extra : List Char}
    (hspace : b.space.toList = a.space.toList ++ extra)
    (hname : separator ++ a.name.toList = extra ++ (separator ++ b.name.toList)) :
    a = b ∨ a.CutEarlier b := by
  obtain ⟨space, name⟩ := a
  obtain ⟨space', name'⟩ := b
  rcases separator_append_eq hname with ⟨rfl, hlater⟩ | ⟨rfl, hlater⟩ | ⟨part, rfl, hlater⟩
  · rw [List.append_nil] at hspace
    refine .inl ?_
    rw [mk.injEq]
    exact ⟨(String.toList_inj.mp hspace).symm, String.toList_inj.mp hlater⟩
  · refine .inr (.byColon ?_ ?_)
    · exact String.toList_inj.mp (by simpa using hspace)
    · exact String.toList_inj.mp (by simpa using hlater)
  · refine .inr (.bySeparator (String.ofList part) ?_ ?_)
    · exact String.toList_inj.mp (by simpa [separator] using hspace)
    · exact String.toList_inj.mp (by simpa [separator] using hlater)

/-- Types share a qualified name if they are equal or the name is cut in another place. -/
theorem qualified_eq_iff {a b : TypeId} :
    a.qualified = b.qualified ↔ a = b ∨ a.CutEarlier b ∨ b.CutEarlier a := by
  constructor
  · intro h
    have hlist := congrArg String.toList h
    rw [toList_qualified, toList_qualified, List.append_assoc, List.append_assoc] at hlist
    rcases List.append_eq_append_iff.mp hlist with ⟨extra, hspace, hname⟩ | ⟨extra, hspace, hname⟩
    · rcases eq_or_cutEarlier hspace hname with heq | hcut
      · exact .inl heq
      · exact .inr (.inl hcut)
    · rcases eq_or_cutEarlier hspace hname with heq | hcut
      · exact .inl heq.symm
      · exact .inr (.inr hcut)
  · rintro (rfl | hcut | hcut)
    · rfl
    · exact hcut.qualified_eq
    · exact hcut.qualified_eq.symm

/-! ## Plain spaces -/

/-- A space is plain if no type shares the qualified name and has it cut earlier. -/
theorem plainSpace_iff_not_cutEarlier {t : TypeId} :
    t.PlainSpace ↔ ∀ a : TypeId, ¬ a.CutEarlier t := by
  constructor
  · intro hplain a hcut
    cases hcut with
    | byColon hspace _ =>
        refine hplain.noColonAtEnd ⟨a.space.toList, ?_⟩
        rw [hspace]
        simp
    | bySeparator part hspace _ =>
        refine hplain.noSeparator ⟨a.space.toList, part.toList, ?_⟩
        rw [hspace]
        simp [separator]
  · intro hfirst
    refine ⟨?_, ?_⟩
    · rintro ⟨before, after, hspace⟩
      refine hfirst ⟨String.ofList before, String.ofList after ++ "::" ++ t.name⟩
        (.bySeparator (String.ofList after) ?_ rfl)
      apply String.toList_inj.mp
      rw [← hspace]
      simp [separator]
    · rintro ⟨before, hspace⟩
      refine hfirst ⟨String.ofList before, ":" ++ t.name⟩ (.byColon ?_ rfl)
      apply String.toList_inj.mp
      rw [← hspace]
      simp

theorem PlainSpace.eq_of_qualified_eq {a b : TypeId} (ha : a.PlainSpace) (hb : b.PlainSpace)
    (h : a.qualified = b.qualified) : a = b := by
  rcases qualified_eq_iff.mp h with heq | hcut | hcut
  · exact heq
  · exact absurd hcut (plainSpace_iff_not_cutEarlier.mp hb a)
  · exact absurd hcut (plainSpace_iff_not_cutEarlier.mp ha b)

theorem plainSpace_builtin (name : String) : (builtin name).PlainSpace := by
  have hspace : (builtin name).space = "builtin" := rfl
  refine ⟨?_, ?_⟩
  · rw [hspace]
    decide +kernel
  · rw [hspace]
    decide +kernel

theorem plainSpace_of_parse? {s : String} {t : TypeId} (h : parse? s = some t) : t.PlainSpace :=
  (parse?_eq_some_iff.mp h).2.plainSpace

theorem plainSpace_of_ofValue {v : Value} {t : TypeId} (h : ofValue v = .ok t) : t.PlainSpace := by
  cases v with
  | text s =>
      rw [ofValue_text] at h
      split at h
      · next read hread =>
        obtain rfl := Except.ok.inj h
        exact plainSpace_of_parse? hread
      · cases h
  | _ => cases h

theorem mem_map_qualified_iff {types : List TypeId} (hplain : ∀ t ∈ types, t.PlainSpace)
    {type : TypeId} (htype : type.PlainSpace) :
    type.qualified ∈ types.map qualified ↔ type ∈ types := by
  refine ⟨fun h => ?_, List.mem_map_of_mem⟩
  obtain ⟨known, hknown, hname⟩ := List.mem_map.mp h
  rwa [← (hplain known hknown).eq_of_qualified_eq htype hname]

end TypeId

/-! ## Registries and constructors -/

namespace Registry

/-- The types of a chain that share a qualified name have it cut in different places. -/
theorem Reachable.pairwise_cutEarlier {r : Registry σ} (h : r.Reachable) :
    r.types.Pairwise fun a b =>
      a.qualified = b.qualified → a.CutEarlier b ∨ b.CutEarlier a := by
  refine h.types_nodup.imp ?_
  intro a b hne hname
  exact (TypeId.qualified_eq_iff.mp hname).resolve_left hne

theorem Reachable.names_nodup {r : Registry σ} (h : r.Reachable)
    (hplain : ∀ known ∈ r.types, known.PlainSpace) : (r.types.map TypeId.qualified).Nodup := by
  refine h.types_nodup.map_on ?_
  intro a ha b hb hname
  exact (hplain a ha).eq_of_qualified_eq (hplain b hb) hname

theorem containsType_iff_name {r : Registry σ} (hplain : ∀ known ∈ r.types, known.PlainSpace)
    {type : TypeId} (htype : type.PlainSpace) :
    r.containsType type = true ↔ type.qualified ∈ r.types.map TypeId.qualified := by
  rw [TypeId.mem_map_qualified_iff hplain htype, containsType, List.contains_iff_mem]

end Registry

theorem Constructors.contains_iff_name {f : Constructors σ}
    (hplain : ∀ entry ∈ f.constructors, entry.1.PlainSpace) {type : TypeId}
    (htype : type.PlainSpace) :
    f.contains type = true ↔
      type.qualified ∈ f.constructors.map fun entry => entry.1.qualified := by
  have hknown : f.contains type = true ↔ type ∈ f.constructors.map Prod.fst := by
    rw [contains, List.lookup_isSome_iff]
    simp [List.mem_map]
  have hplain' : ∀ known ∈ f.constructors.map Prod.fst, known.PlainSpace := by
    intro known hmem
    obtain ⟨entry, hentry, rfl⟩ := List.mem_map.mp hmem
    exact hplain entry hentry
  rw [hknown, ← TypeId.mem_map_qualified_iff hplain' htype, List.map_map]
  exact Iff.rfl

namespace TypeId

/-- **Plain names tell types apart.**  Types have the same qualified name exactly if they are equal
or it is cut in different places for them, and of the types with one name just the one for which it
is cut first has a plain space.  What is read has a plain space, and so has every type of the
built-in space.  So among types with plain spaces there is one to a name: a chain does not hold two
with one name, and whether it holds a type, whether registering one is answered with `false` and
whether constructors know one is told by its qualified name alone. -/
theorem plain_names_tell_types_apart :
    (∀ a b : TypeId, a.qualified = b.qualified ↔ a = b ∨ a.CutEarlier b ∨ b.CutEarlier a) ∧
    (∀ t : TypeId, t.PlainSpace ↔ ∀ a : TypeId, ¬ a.CutEarlier t) ∧
    ((∀ name, (builtin name).PlainSpace) ∧ (∀ s t, parse? s = some t → t.PlainSpace) ∧
      ∀ v t, ofValue v = .ok t → t.PlainSpace) ∧
    (∀ a b : TypeId, a.PlainSpace → b.PlainSpace → a.qualified = b.qualified → a = b) ∧
    (∀ r : Registry σ, r.Reachable →
      (r.types.Pairwise fun a b =>
        a.qualified = b.qualified → a.CutEarlier b ∨ b.CutEarlier a) ∧
      ((∀ known ∈ r.types, known.PlainSpace) → (r.types.map qualified).Nodup ∧
        ∀ type : TypeId, type.PlainSpace →
          (r.containsType type = true ↔ type.qualified ∈ r.types.map qualified) ∧
          ∀ s, (r.registerType type s).1 = .ok false ↔
            type.qualified ∈ r.types.map qualified)) ∧
    ∀ f : Constructors σ, (∀ entry ∈ f.constructors, entry.1.PlainSpace) →
      ∀ type : TypeId, type.PlainSpace → (f.contains type = true ↔
        type.qualified ∈ f.constructors.map fun entry => entry.1.qualified) := by
  refine ⟨fun _ _ => qualified_eq_iff, fun _ => plainSpace_iff_not_cutEarlier,
    ⟨plainSpace_builtin, fun _ _ => plainSpace_of_parse?, fun _ _ => plainSpace_of_ofValue⟩,
    fun _ _ => PlainSpace.eq_of_qualified_eq, ?_, fun _ hplain _ htype =>
      Constructors.contains_iff_name hplain htype⟩
  intro r hr
  refine ⟨hr.pairwise_cutEarlier, fun hplain => ⟨hr.names_nodup hplain, ?_⟩⟩
  intro type htype
  have hname := Registry.containsType_iff_name hplain htype
  exact ⟨hname, fun _ => Registry.registerType_eq_ok_false_iff.trans hname⟩

def anyType : Factory Unit :=
  ⟨fun type s => (.ok { name := type.name, capabilities := .each }, s)⟩

theorem registersAlone_anyType (type : TypeId) :
    Registry.RegistersAlone PhaseRules.builtin anyType (fun _ => True) type := by
  have hallowed : PhaseRules.builtin.rejecting? .each .default = none := by decide
  exact Registry.registersAlone_of_made fun _ _ => ⟨_, _, rfl, hallowed, rfl, trivial⟩

/-- A root holds a clock of the built-in space and one whose name begins with a colon.  The type
that is read from the name of the first one is known to the root. -/
theorem read_clock_known_by_name :
    let clock := builtin "clock"
    let colon : TypeId := ⟨"acme", ":clock"⟩
    ∃ read r, ofValue (.text "builtin::clock") = .ok read ∧ read = clock ∧
      (Registry.root (ScopeId.numbered 0) PhaseRules.builtin anyType [colon, clock] ()).1 = .ok r ∧
      (r.types.map qualified).Nodup ∧ (r.registerType read ()).1 = .ok false := by
  intro clock colon
  have halone : ∀ type ∈ [colon, clock],
      Registry.RegistersAlone PhaseRules.builtin anyType (fun _ => True) type :=
    fun type _ => registersAlone_anyType type
  obtain ⟨r, s, hroot, -, htypes⟩ :=
    Registry.exists_root_of_alone halone (ScopeId.numbered 0) (s := ()) trivial
  have hread : ∃ read, ofValue (.text "builtin::clock") = .ok read ∧
      read.qualified = clock.qualified := ⟨clock, by decide +kernel, rfl⟩
  obtain ⟨read, hread, hname⟩ := hread
  obtain ⟨-, -, ⟨hbuiltin, hparsed, hvalue⟩, hinjective, hregistry, -⟩ :=
    plain_names_tell_types_apart (σ := Unit)
  have hcolon : colon.PlainSpace := hparsed "acme:::clock" colon (by decide +kernel)
  have hplain : ∀ known ∈ r.types, known.PlainSpace := by
    intro known hknown
    rw [htypes, List.mem_eraseDups, List.mem_cons, List.mem_singleton] at hknown
    rcases hknown with rfl | rfl
    · exact hcolon
    · exact hbuiltin "clock"
  have hroot' := congrArg Prod.fst hroot
  obtain ⟨-, hnames⟩ := hregistry r (.root hroot')
  obtain ⟨hnodup, hknown⟩ := hnames hplain
  have hplainRead : read.PlainSpace := hvalue _ read hread
  refine ⟨read, r, hread, ?_, hroot', hnodup, ?_⟩
  · exact hinjective read clock hplainRead (hbuiltin "clock") hname
  · refine ((hknown read hplainRead).2 ()).mpr ?_
    rw [hname, htypes]
    decide

/-- A name with three colons in it is that of two types.  Both are registered in one root, as types
that have nothing to do with one another. -/
theorem one_name_for_two_types :
    let inSpace : TypeId := ⟨"acme:", "clock"⟩
    let inName : TypeId := ⟨"acme", ":clock"⟩
    ¬ (inSpace.qualified = inName.qualified → inSpace = inName) ∧ inSpace.uuid = inName.uuid ∧
      ∃ r, (Registry.root (ScopeId.numbered 0) PhaseRules.builtin anyType
          [inSpace, inName] ()).1 = .ok r ∧
        r.types = [inSpace, inName] ∧ ¬ (r.types.map qualified).Nodup := by
  intro inSpace inName
  have halone : ∀ type ∈ [inSpace, inName],
      Registry.RegistersAlone PhaseRules.builtin anyType (fun _ => True) type :=
    fun type _ => registersAlone_anyType type
  obtain ⟨r, _, hroot, -, htypes⟩ :=
    Registry.exists_root_of_alone halone (ScopeId.numbered 0) (s := ()) trivial
  have hcut : inName.CutEarlier inSpace := .byColon rfl rfl
  refine ⟨fun h => ?_, ?_, r, congrArg Prod.fst hroot, htypes, ?_⟩
  · exact absurd (h hcut.qualified_eq.symm) (by decide)
  · rw [uuid, uuid, hcut.qualified_eq]
  · rw [htypes]
    decide

end TypeId

end Lifecycle
