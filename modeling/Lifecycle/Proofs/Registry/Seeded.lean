import Lifecycle.Extension.Builtin
import Lifecycle.Proofs.Registry.Growth
import Lifecycle.Proofs.Registry.Placement
/-!
# Seeded roots

A root that is built by default registers the built-in types before anything else, and what it holds
then is the beginning of what every registry below it holds.  A phase that allows the default
position alone keeps the order of the chain, so that there the built-in extensions come first.
-/

namespace Lifecycle

variable {σ : Type}

/-! ## Constructors of other types -/

namespace Constructors

def insertAll (f : Constructors σ) (more : List (TypeId × Constructor σ)) : Constructors σ :=
  more.foldl (fun f (type, make) => f.insert type make) f

private theorem lookup_filter_bne {α β : Type} [DecidableEq α] {key other : α} (h : other ≠ key)
    (entries : List (α × β)) :
    (entries.filter (·.1 != key)).lookup other = entries.lookup other := by
  induction entries with
  | nil => rfl
  | cons entry rest ih =>
      obtain ⟨k, v⟩ := entry
      by_cases hk : k = key
      · subst hk
        have hne : (other == k) = false := beq_eq_false_iff_ne.mpr h
        simp only [List.filter_cons, bne_self_eq_false, Bool.false_eq_true, if_false,
          List.lookup_cons, hne, ih]
      · simp only [List.filter_cons, bne_iff_ne, ne_eq, hk, not_false_eq_true, if_true,
          List.lookup_cons, ih]

theorem lookup_insert_of_ne {type other : TypeId} (h : other ≠ type) (f : Constructors σ)
    (make : Constructor σ) :
    (f.insert type make).constructors.lookup other = f.constructors.lookup other := by
  have hne : (other == type) = false := by simpa using h
  rw [insert, List.lookup_append, lookup_filter_bne h, List.lookup_cons, hne, List.lookup_nil,
    Option.or_none]

theorem lookup_insertAll {type : TypeId} {more : List (TypeId × Constructor σ)}
    (hmore : ∀ entry ∈ more, entry.1 ≠ type) (f : Constructors σ) :
    (f.insertAll more).constructors.lookup type = f.constructors.lookup type := by
  induction more generalizing f with
  | nil => rfl
  | cons entry rest ih =>
      obtain ⟨other, make⟩ := entry
      have hother : type ≠ other := (hmore _ List.mem_cons_self).symm
      have hrest := ih (fun entry hentry => hmore entry (List.mem_cons_of_mem _ hentry))
        (f.insert other make)
      exact hrest.trans (lookup_insert_of_ne hother f make)

end Constructors

namespace Builtin

theorem mem_all (b : Builtin) : b ∈ all := by
  cases b <;> decide

theorem typeId_injective {a b : Builtin} (h : a.typeId = b.typeId) : a = b := by
  revert h
  cases a <;> cases b <;> decide

theorem instantiate_insertAll {more : List (TypeId × Constructor σ)}
    (hmore : ∀ entry ∈ more, entry.1 ∉ defaultTypes) (b : Builtin) (s : σ) :
    (Builtin.constructors.insertAll more).instantiate b.typeId s = (.ok b.provider, s) := by
  have hother : ∀ entry ∈ more, entry.1 ≠ b.typeId := by
    intro entry hentry heq
    refine hmore entry hentry ?_
    rw [heq]
    exact List.mem_map_of_mem b.mem_all
  have hbuiltin : (Builtin.constructors (σ := σ)).constructors.lookup b.typeId =
      some (Constructor.always b.provider) := by
    cases b <;> rfl
  rw [Constructors.instantiate, Constructors.lookup_insertAll hother, hbuiltin]
  rfl

def seed (b : Builtin) : Registration σ := ⟨b.extension, .extension b.name, .default⟩

end Builtin

/-! ## Roots -/

namespace Registry

theorem registerType_plain {r : Registry σ} {type : TypeId} {p : Provider σ} {s s' : σ}
    (hnew : r.containsType type = false) (hmade : r.factory.instantiate type s = (.ok p, s'))
    (hplain : p.registrar? = none) (hdeclares : p.capabilities.isEmpty = false)
    (hallowed : r.rules.rejecting? p.capabilities .default = none) :
    r.registerType type s =
      (.ok true, (r.append ⟨p.toExtension, .extension p.name, .default⟩).appendType type, s') := by
  have hsession : p.sessionFor type = .finish (.ok ()) := by
    rw [Provider.sessionFor, hplain]
  have hown : p.own = [⟨p.toExtension, .extension p.name, .default⟩] := by
    simp only [Provider.own, hdeclares, Bool.false_eq_true, if_false]
  rw [registerType, hnew, hmade]
  simp only [registerProvider_eq, hallowed, hown, hsession, Session.play, Bool.false_eq_true,
    if_false, List.append_nil, append_eq_extend]

theorem registerType_builtin {r : Registry σ} {b : Builtin} {s : σ}
    (hrules : r.rules = PhaseRules.builtin)
    (hmade : r.factory.instantiate b.typeId s = (.ok b.provider, s))
    (hnew : r.containsType b.typeId = false) :
    r.registerType b.typeId s = (.ok true, (r.append b.seed).appendType b.typeId, s) := by
  have hdeclares : b.capabilities.isEmpty = false := by
    cases b <;> decide
  have hallowed : r.rules.rejecting? b.capabilities .default = none := by
    rw [hrules]
    cases b <;> decide
  exact registerType_plain hnew hmade rfl hdeclares hallowed

theorem registerTypes_builtin {bs : List Builtin} (hdistinct : bs.Nodup) {r : Registry σ} {s : σ}
    (hrules : r.rules = PhaseRules.builtin)
    (hmade : ∀ b ∈ bs, r.factory.instantiate b.typeId s = (.ok b.provider, s))
    (hnew : ∀ b ∈ bs, r.containsType b.typeId = false) :
    ∃ r', r.registerTypes (bs.map Builtin.typeId) s = (.ok (), r', s) ∧ r'.rules = r.rules ∧
      r'.entries = r.entries ++ bs.map Builtin.seed := by
  induction bs generalizing r with
  | nil => exact ⟨r, rfl, rfl, by simp⟩
  | cons b bs ih =>
      obtain ⟨hb, hdistinct⟩ := List.nodup_cons.mp hdistinct
      have hfirst := registerType_builtin hrules (hmade b List.mem_cons_self)
        (hnew b List.mem_cons_self)
      -- the types after the first one are still new once it is registered
      have hstillNew : ∀ b' ∈ bs,
          ((r.append b.seed).appendType b.typeId).containsType b'.typeId = false := by
        intro b' hb'
        have hne : b' ≠ b := fun h => hb (h ▸ hb')
        have hold := hnew b' (List.mem_cons_of_mem b hb')
        rw [containsType, ← Bool.not_eq_true, List.contains_iff_mem] at hold ⊢
        rw [types_appendType, types_append, List.mem_append, List.mem_singleton]
        rintro (hmem | heq)
        · exact hold hmem
        · exact hne (Builtin.typeId_injective heq)
      obtain ⟨r', hrest, hrules', hentries⟩ := ih hdistinct
        (r := (r.append b.seed).appendType b.typeId) hrules
        (fun b' hb' => hmade b' (List.mem_cons_of_mem b hb')) hstillNew
      refine ⟨r', ?_, hrules', ?_⟩
      · simp only [List.map_cons, registerTypes, hfirst, hrest]
      · rw [hentries, entries_appendType, entries_append, List.append_assoc, List.map_cons,
          List.singleton_append]

/-- A root that holds the registrations of the built-in types and no others. -/
structure Seeded (root : Registry σ) : Prop where
  reachable : root.Reachable
  rules : root.rules = PhaseRules.builtin
  entries : root.entries = Builtin.all.map Builtin.seed

theorem seeded_of_root {id : ScopeId} {more : List (TypeId × Constructor σ)}
    (hmore : ∀ entry ∈ more, entry.1 ∉ Builtin.defaultTypes) {s : σ} {root : Registry σ}
    (hroot : (Registry.root id PhaseRules.builtin (Builtin.constructors.insertAll more).toFactory
      Builtin.defaultTypes s).1 = .ok root) : root.Seeded := by
  have hdistinct : Builtin.all.Nodup := by decide
  obtain ⟨r', hregister, hrules, hentries⟩ := registerTypes_builtin hdistinct
    (r := bare id PhaseRules.builtin (Builtin.constructors.insertAll more).toFactory)
    rfl (fun b _ => Builtin.instantiate_insertAll hmore b s) (fun _ _ => rfl)
  have hbuilt : Registry.root id PhaseRules.builtin
      (Builtin.constructors.insertAll more).toFactory Builtin.defaultTypes s = (.ok r', s) :=
    congrArg built hregister
  have hsame : r' = root := by
    rw [hbuilt] at hroot
    exact Except.ok.inj hroot
  refine ⟨.root hroot, ?_, ?_⟩
  · rw [← hsame, hrules]
    rfl
  · rw [← hsame, hentries]
    rfl

/-! ## Below a root -/

/-- A registry and what is made of it, by registering in it and by building below it, with a world
of any state at each operation. -/
inductive Descends (root : Registry σ) : Registry σ → Prop where
  | self : Descends root root
  | child {parent r : Registry σ} {id : ScopeId} {types : List TypeId} {s : σ} :
      Descends root parent → (parent.child id types s).1 = .ok r → Descends root r
  | registerType {r : Registry σ} (type : TypeId) (s : σ) :
      Descends root r → Descends root (r.registerType type s).2.1
  | register {r r' : Registry σ} {extension : Extension σ} {origin : Origin}
      {position : Position} :
      Descends root r → r.register extension origin position = .ok r' → Descends root r'

theorem Descends.begins {root r : Registry σ} (h : root.Descends r) : root.Begins r := by
  induction h with
  | self => exact .refl root
  | @child parent _ id _ _ _ hbuilt ih =>
      have hnested : parent.Begins (parent.nested id) :=
        begins_of_parent? (parent?_nested parent id)
      exact (ih.trans hnested).trans (grows_child hbuilt).begins
  | registerType type s _ ih => exact ih.trans (grows_registerType _ type s).begins
  | register _ hregister ih => exact ih.trans (grows_register hregister).begins

theorem Descends.reachable {root r : Registry σ} (h : root.Descends r) (hroot : root.Reachable) :
    r.Reachable := by
  induction h with
  | self => exact hroot
  | child _ hbuilt ih => exact .child ih hbuilt
  | registerType type s _ ih => exact .registerType type s ih
  | register _ hregister ih => exact .register ih hregister

/-! ## Phases without edges -/

/-- A phase that allows the default position alone keeps the order of the chain. -/
theorem Placed.lookupEntries_standard {r : Registry σ} (h : r.Placed) {phase : Phase}
    (hrule : r.rules.ruleFor phase = .standard) :
    r.lookupEntries phase = .ok (r.participants phase) := by
  have hdefault : ∀ e ∈ r.participants phase, e.position = .default := by
    intro e he
    obtain ⟨hentry, hphase⟩ := mem_participants.mp he
    have hallows := h e hentry phase hphase
    rw [hrule] at hallows
    simpa [PhaseRule.allows, PhaseRule.standard, PhaseRule.defaultOnly] using hallows
  have htied : (r.participants phase).Pairwise fun a b => mayPrecede a b = true := by
    refine List.Pairwise.imp_of_mem ?_ (List.pairwise_of_forall fun _ _ => trivial)
    intro a b ha hb _
    simp [mayPrecede, hdefault a ha, hdefault b hb]
  rw [lookupEntries_eq_ok_iff, hrule]
  refine ⟨?_, (layers_of_pairwise htied).symm⟩
  intro p hp hcontested
  have hunique := hcontested.1
  rw [List.mem_singleton.mp hp] at hunique
  cases hunique

/-- Below a seeded root, a phase that allows the default position alone begins with the built-in
extensions that take part in it. -/
theorem Descends.lookup_seeded {root r : Registry σ} (h : root.Descends r) (hroot : root.Seeded)
    {phase : Phase} (hrule : PhaseRules.builtinRule phase = .standard) :
    ∃ later : List (Registration σ),
      r.lookup phase = .ok ((Builtin.all.filter fun b => b.capabilities.includes phase).map
        Builtin.extension ++ later.map (·.extension)) ∧
      ∀ entry ∈ later, entry ∈ r.entries := by
  have hbegins := h.begins
  have hplaced := (h.reachable hroot.reachable).placed
  have hparticipants : root.participants phase =
      (Builtin.all.filter fun b => b.capabilities.includes phase).map Builtin.seed := by
    rw [← filter_entries, hroot.entries, List.filter_map]
    rfl
  obtain ⟨later, hlater⟩ := hbegins.participants phase
  have hrule' : r.rules.ruleFor phase = .standard := by
    rw [hbegins.rules, hroot.rules]
    exact hrule
  refine ⟨later, ?_, ?_⟩
  · rw [lookup_of_lookupEntries_ok (hplaced.lookupEntries_standard hrule'), ← hlater,
      hparticipants, List.map_append, List.map_map]
    rfl
  · intro entry hentry
    have hmem : entry ∈ r.participants phase := by
      rw [← hlater]
      exact List.mem_append_right _ hentry
    exact (mem_participants.mp hmem).1

end Registry

end Lifecycle
