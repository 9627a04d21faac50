import Lifecycle.Config.Reading
import Lifecycle.Proofs.Reading
/-!
# What values say of a configuration

Whatever the format, a value describes a configuration key by key: a key that it gives has to be
given a value of the right kind, and a key that it does not give leaves the default.  A format whose
readers of texts, names and members are right reads a value as the configuration that it describes.
-/

namespace Lifecycle

theorem Policy.name_injective {p q : Policy} (h : p.name = q.name) : p = q := by
  have hp := ofName?_name p
  rw [h, ofName?_name] at hp
  exact (Option.some.inj hp).symm

theorem nodup_keys_zip {δ : Type} {declared : List String} (h : declared.Nodup)
    (items : List δ) : ((declared.zip items).map (·.1)).Nodup := by
  rw [List.zip_eq_zip_take_min, List.map_fst_zip (by simp)]
  exact h.sublist (List.take_sublist _ _)

/-- What is taken for a field: what its source gives for it, or the default. -/
def Taken {δ α : Type} (reads : δ → α → Prop) (default : α) : Option δ → α → Prop
  | some v, a => reads v a
  | none, a => a = default

theorem Taken.unique {δ α : Type} {reads : δ → α → Prop} {default : α} {given : Option δ} {a b : α}
    (hreads : ∀ (v : δ) (a b : α), reads v a → reads v b → a = b)
    (ha : Taken reads default given a) (hb : Taken reads default given b) : a = b := by
  cases given with
  | none => exact ha.trans hb.symm
  | some v => exact hreads v a b ha hb

/-! ## Reading two fields -/

section TwoFields

variable {δ α β γ ε : Type}

private theorem lookup_eq_none_of_not_mem {key : String} {members : List (String × δ)}
    (h : key ∉ members.map (·.1)) : members.lookup key = none := by
  rw [List.lookup_eq_none_iff]
  intro member hmember
  exact bne_iff_ne.mpr fun heq => h (heq ▸ List.mem_map_of_mem hmember)

/-- A member that is read for a field, where nothing that follows is for the field. -/
private theorem bind_field (make : α → β → γ) {read : Except ε α} {next : γ → Except ε γ} {b : β}
    {c : γ} {P : β → Prop}
    (hnext : ∀ a, next (make a b) = .ok c ↔ ∃ a' b', c = make a' b' ∧ a' = a ∧ P b') :
    (read.map (fun a => make a b) >>= next) = .ok c ↔
      ∃ a' b', c = make a' b' ∧ read = .ok a' ∧ P b' := by
  rw [bind_eq_ok_iff]
  constructor
  · rintro ⟨_, hmap, h⟩
    obtain ⟨a, ha, rfl⟩ := map_eq_ok_iff.mp hmap
    obtain ⟨a', b', hc, rfl, hb'⟩ := (hnext a).mp h
    exact ⟨a', b', hc, ha, hb'⟩
  · rintro ⟨a', b', hc, ha', hb'⟩
    exact ⟨_, map_eq_ok_iff.mpr ⟨a', ha', rfl⟩, (hnext a').mpr ⟨a', b', hc, rfl, hb'⟩⟩

variable {make : α → β → γ} {step : γ → String × δ → Except ε γ} {first second : String}
  {readFirst : δ → Except ε α} {readSecond : δ → Except ε β} {members : List (String × δ)}

/-- Members with distinct keys that are read one after another set each of two fields to what is
given for it, and leave it if nothing is given. -/
theorem foldlM_two_fields (hkeys : (members.map (·.1)).Nodup) (hne : first ≠ second)
    (hfirst : ∀ a b v, step (make a b) (first, v) = (readFirst v).map fun a => make a b)
    (hsecond : ∀ a b v, step (make a b) (second, v) = (readSecond v).map fun b => make a b)
    (hother : ∀ c key v, key ≠ first → key ≠ second → step c (key, v) = .ok c)
    {a : α} {b : β} {c : γ} :
    members.foldlM step (make a b) = .ok c ↔ ∃ a' b', c = make a' b' ∧
      Taken (fun v a => readFirst v = .ok a) a (members.lookup first) a' ∧
      Taken (fun v b => readSecond v = .ok b) b (members.lookup second) b' := by
  induction members generalizing a b with
  | nil =>
      constructor
      · intro h
        exact ⟨a, b, (Except.ok.inj h).symm, rfl, rfl⟩
      · rintro ⟨a', b', rfl, rfl, rfl⟩
        rfl
  | cons member rest ih =>
      obtain ⟨key, v⟩ := member
      obtain ⟨hnew, hkeys⟩ := List.nodup_cons.mp hkeys
      have hlookup : ∀ {k : String}, k ≠ key → ((key, v) :: rest).lookup k = rest.lookup k := by
        intro k hk
        rw [List.lookup_cons, beq_eq_false_iff_ne.mpr hk]
      have hswap : ∀ {P : α → Prop} {Q : β → Prop},
          (∃ a' b', c = make a' b' ∧ P a' ∧ Q b') ↔ ∃ b' a', c = make a' b' ∧ Q b' ∧ P a' := by
        intro P Q
        constructor <;> rintro ⟨x, y, hc, hx, hy⟩ <;> exact ⟨y, x, hc, hy, hx⟩
      rw [List.foldlM_cons]
      by_cases hkfirst : key = first
      · subst hkfirst
        rw [hfirst, List.lookup_cons_self, hlookup hne.symm]
        refine bind_field make fun a => ?_
        rw [ih hkeys, lookup_eq_none_of_not_mem hnew]
        rfl
      · by_cases hksecond : key = second
        · subst hksecond
          rw [hsecond, List.lookup_cons_self, hlookup hne, hswap]
          refine bind_field (fun b a => make a b) fun b => ?_
          rw [ih hkeys, lookup_eq_none_of_not_mem hnew, hswap]
          rfl
        · rw [hother _ _ _ hkfirst hksecond, hlookup (Ne.symm hkfirst), hlookup (Ne.symm hksecond)]
          exact ih hkeys

end TwoFields

/-! ## Values of any format -/

/-- What the values of a format mean, without regard to how they are read. -/
structure Meaning (δ : Type) where
  /-- In a value, and in all the values in it, each key is given once. -/
  KeysOnce : δ → Prop
  /-- The members of a structured value, which may go by the declared keys in their order. -/
  members? : (declared : List String) → δ → Option (List (String × δ))
  Lists : δ → List String → Prop
  Names : String → δ → Prop

namespace Meaning

variable {δ : Type} (m : Meaning δ)

/-- What a structured value gives for one of the declared keys. -/
def given? (declared : List String) (key : String) (v : δ) : Option δ :=
  (m.members? declared v).bind fun members => members.lookup key

def givenTypes? (v : δ) : Option δ :=
  m.given? ["default_extensions", "dispatch"] "default_extensions" v

def givenPolicies? (v : δ) : Option δ :=
  m.given? ["default_extensions", "dispatch"] "dispatch" v

def givenPolicy? (key : String) (v : δ) : Option δ :=
  (m.givenPolicies? v).bind (m.given? ["forward", "backward"] key)

def NamesPolicy (v : δ) (p : Policy) : Prop := m.Names p.name v

def DescribesPolicies (v : δ) (d : Policies) : Prop :=
  (m.members? ["forward", "backward"] v).isSome ∧
    Taken m.NamesPolicy Policies.standard.forward
      (m.given? ["forward", "backward"] "forward" v) d.forward ∧
    Taken m.NamesPolicy Policies.standard.backward
      (m.given? ["forward", "backward"] "backward" v) d.backward

/-- A configuration has what a structured value gives; what it does not give is as in the standard
one. -/
def Describes (v : δ) (c : Config) : Prop :=
  (m.members? ["default_extensions", "dispatch"] v).isSome ∧
    Taken m.Lists Config.standard.defaultExtensions (m.givenTypes? v) c.defaultExtensions ∧
    Taken m.DescribesPolicies Policies.standard (m.givenPolicies? v) c.policies

theorem Describes.policies {m : Meaning δ} {v : δ} {c : Config} (h : m.Describes v c) :
    Taken m.NamesPolicy .failFast (m.givenPolicy? "forward" v) c.policies.forward ∧
      Taken m.NamesPolicy .aggregate (m.givenPolicy? "backward" v) c.policies.backward := by
  obtain ⟨-, -, hpolicies⟩ := h
  unfold givenPolicy?
  cases hdispatch : m.givenPolicies? v with
  | none =>
      rw [hdispatch] at hpolicies
      have hstandard : c.policies = Policies.standard := hpolicies
      rw [hstandard]
      exact ⟨rfl, rfl⟩
  | some d =>
      rw [hdispatch] at hpolicies
      exact hpolicies.2

/-- A format reads its values as they are meant. -/
structure ReadBy (f : Format δ) : Prop where
  fields_iff : ∀ {expected : String} {declared : List String} {v : δ} {members},
    f.fields expected declared v = .ok (members, none) ↔ m.members? declared v = some members
  texts_iff : ∀ {v : δ} {l : List String}, f.texts v = .ok l ↔ m.Lists v l
  variant_iff : ∀ {known : List String} {v : δ} {name : String},
    f.variant known v = .ok name ↔ name ∈ known ∧ m.Names name v
  keysOnce : ∀ {declared : List String} {v : δ} {members}, m.KeysOnce v → declared.Nodup →
    m.members? declared v = some members →
      (members.map (·.1)).Nodup ∧ ∀ member ∈ members, m.KeysOnce member.2

namespace ReadBy

variable {m} {f : Format δ} (h : m.ReadBy f)

include h

theorem lists_unique {v : δ} {l l' : List String} (hl : m.Lists v l) (hl' : m.Lists v l') :
    l = l' :=
  Except.ok.inj ((h.texts_iff.mpr hl).symm.trans (h.texts_iff.mpr hl'))

theorem oneOf_iff {v : δ} {p : Policy} :
    f.oneOf Policy.all Policy.name v = .ok p ↔ m.NamesPolicy v p := by
  rw [Format.oneOf, bind_eq_ok_iff]
  constructor
  · rintro ⟨s, hs, hfound⟩
    obtain ⟨-, hnames⟩ := h.variant_iff.mp hs
    split at hfound
    · next q hq =>
      obtain rfl := Except.ok.inj hfound
      have hname : q.name = s := by simpa using List.find?_some hq
      rwa [NamesPolicy, hname]
    · cases hfound
  · intro hnames
    have hknown : p.name ∈ Policy.all.map Policy.name := by
      cases p <;> decide
    have hfind : Policy.all.find? (·.name == p.name) = some p := Policy.ofName?_name p
    refine ⟨p.name, h.variant_iff.mpr ⟨hknown, hnames⟩, ?_⟩
    rw [hfind]
    rfl

theorem namesPolicy_unique {v : δ} {p q : Policy} (hp : m.NamesPolicy v p)
    (hq : m.NamesPolicy v q) : p = q :=
  Except.ok.inj ((h.oneOf_iff.mpr hp).symm.trans (h.oneOf_iff.mpr hq))

theorem readMembers_iff {γ : Type} {step : γ → String × δ → Except ReadError γ} {start c : γ}
    {expected : String} {declared : List String} {v : δ} :
    (do
      let (members, surplus) ← f.fields expected declared v
      let c ← members.foldlM step start
      match surplus with
      | some e => throw e
      | none => return c) = .ok c ↔
      ∃ members, m.members? declared v = some members ∧ members.foldlM step start = .ok c := by
  rw [bind_eq_ok_iff]
  constructor
  · rintro ⟨⟨members, surplus⟩, hread, hrest⟩
    obtain ⟨c', hfold, hend⟩ := bind_eq_ok_iff.mp hrest
    cases surplus with
    | some e => cases hend
    | none =>
        obtain rfl := Except.ok.inj hend
        exact ⟨members, h.fields_iff.mp hread, hfold⟩
  · rintro ⟨members, hmembers, hfold⟩
    exact ⟨(members, none), h.fields_iff.mpr hmembers, bind_eq_ok_iff.mpr ⟨c, hfold, rfl⟩⟩

theorem readPolicies_iff {v : δ} (hv : m.KeysOnce v) {d : Policies} :
    Policies.read f v = .ok d ↔ m.DescribesPolicies v d := by
  have hforward : ∀ p q v, Policies.setMember f ⟨p, q⟩ ("forward", v) =
      (f.oneOf Policy.all Policy.name v).map fun p => ⟨p, q⟩ := fun _ _ _ => rfl
  have hbackward : ∀ p q v, Policies.setMember f ⟨p, q⟩ ("backward", v) =
      (f.oneOf Policy.all Policy.name v).map fun q => ⟨p, q⟩ := fun _ _ _ => rfl
  have hother : ∀ d key v, key ≠ "forward" → key ≠ "backward" →
      Policies.setMember f d (key, v) = .ok d := by
    intro d key v hf hb
    simp only [Policies.setMember, hf, hb, if_false]
    rfl
  refine h.readMembers_iff.trans ?_
  cases hmembers : m.members? ["forward", "backward"] v with
  | none => simp [DescribesPolicies, hmembers]
  | some members =>
      obtain ⟨hkeys, -⟩ := h.keysOnce hv (by decide) hmembers
      simp only [Option.some.injEq, exists_eq_left', DescribesPolicies, given?, hmembers,
        Option.isSome_some, true_and, Option.bind_some]
      refine (foldlM_two_fields hkeys (by decide) hforward hbackward hother).trans ?_
      simp only [h.oneOf_iff]
      constructor
      · rintro ⟨p, q, rfl, hp, hq⟩
        exact ⟨hp, hq⟩
      · rintro ⟨hp, hq⟩
        exact ⟨d.forward, d.backward, rfl, hp, hq⟩

theorem readConfig_iff {v : δ} (hv : m.KeysOnce v) {c : Config} :
    Config.read f v = .ok c ↔ m.Describes v c := by
  have htypes : ∀ l d v, Config.setMember f ⟨l, d⟩ ("default_extensions", v) =
      (f.texts v).map fun l => ⟨l, d⟩ := fun _ _ _ => rfl
  have hpolicies : ∀ l d v, Config.setMember f ⟨l, d⟩ ("dispatch", v) =
      (Policies.read f v).map fun d => ⟨l, d⟩ := fun _ _ _ => rfl
  have hother : ∀ c key v, key ≠ "default_extensions" → key ≠ "dispatch" →
      Config.setMember f c (key, v) = .ok c := by
    intro c key v hl hd
    simp only [Config.setMember, hl, hd, if_false]
    rfl
  refine h.readMembers_iff.trans ?_
  cases hmembers : m.members? ["default_extensions", "dispatch"] v with
  | none => simp [Describes, hmembers]
  | some members =>
      obtain ⟨hkeys, hvalues⟩ := h.keysOnce hv (by decide) hmembers
      have hdispatch : ∀ d, Taken (fun v d => Policies.read f v = .ok d) Policies.standard
          (members.lookup "dispatch") d ↔
            Taken m.DescribesPolicies Policies.standard (members.lookup "dispatch") d := by
        intro d
        cases hgiven : members.lookup "dispatch" with
        | none => exact Iff.rfl
        | some given =>
            obtain ⟨before, after, rfl, -⟩ := List.lookup_eq_some_iff.mp hgiven
            exact h.readPolicies_iff (hvalues ("dispatch", given) (by simp))
      simp only [Option.some.injEq, exists_eq_left', Describes, givenTypes?, givenPolicies?,
        given?, hmembers, Option.isSome_some, true_and, Option.bind_some, ← hdispatch]
      refine (foldlM_two_fields hkeys (by decide) htypes hpolicies hother).trans ?_
      simp only [h.texts_iff]
      constructor
      · rintro ⟨l, d, rfl, hl, hd⟩
        exact ⟨hl, hd⟩
      · rintro ⟨hl, hd⟩
        exact ⟨c.defaultExtensions, c.policies, rfl, hl, hd⟩

end ReadBy

end Meaning

end Lifecycle
