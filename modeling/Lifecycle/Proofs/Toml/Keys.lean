import Lifecycle.Toml.Document
/-!
# Keys of documents

Every table of a document, at any depth, has each of its keys once, whatever mix of headers, dotted
keys and braces it came to be by.  So what is given at a key is found by looking the key up.
-/

namespace Lifecycle.Toml

/-- All tables of a value, itself included, have each key once. -/
inductive Value.KeysOnce : Value → Prop where
  | text {s : String} : KeysOnce (.text s)
  | int {n : Int} : KeysOnce (.int n)
  | float {x : Number.Binary64} : KeysOnce (.float x)
  | bool {b : Bool} : KeysOnce (.bool b)
  | dateTime : KeysOnce .dateTime
  | array {items : List Value} : (∀ v ∈ items, KeysOnce v) → KeysOnce (.array items)
  | table {kind : TableKind} {entries : Entries} : (entries.map (·.1)).Nodup →
      (∀ entry ∈ entries, KeysOnce entry.2) → KeysOnce (.table kind entries)
  | tables {items : List Entries} : (∀ entries ∈ items, (entries.map (·.1)).Nodup) →
      (∀ entries ∈ items, ∀ entry ∈ entries, KeysOnce entry.2) → KeysOnce (.tables items)

/-- The entries of a table in which, and in the tables below it, each key stands once. -/
def KeysOnce (entries : Entries) : Prop :=
  (entries.map (·.1)).Nodup ∧ ∀ entry ∈ entries, entry.2.KeysOnce

/-! ## Entries -/

namespace KeysOnce

theorem nil : KeysOnce [] := ⟨List.nodup_nil, by simp⟩

theorem of_table {kind : TableKind} {entries : Entries} (h : (Value.table kind entries).KeysOnce) :
    KeysOnce entries := by
  cases h with
  | table hkeys hvalues => exact ⟨hkeys, hvalues⟩

theorem toTable {entries : Entries} (h : KeysOnce entries) (kind : TableKind) :
    (Value.table kind entries).KeysOnce :=
  .table h.1 h.2

theorem of_tables {items : List Entries} {entries : Entries} (h : (Value.tables items).KeysOnce)
    (hmem : entries ∈ items) : KeysOnce entries := by
  cases h with
  | tables hkeys hvalues => exact ⟨hkeys entries hmem, hvalues entries hmem⟩

theorem toTables {items : List Entries} (h : ∀ entries ∈ items, KeysOnce entries) :
    (Value.tables items).KeysOnce :=
  .tables (fun entries hmem => (h entries hmem).1) fun entries hmem => (h entries hmem).2

theorem lookup {entries : Entries} (h : KeysOnce entries) {key : String} {v : Value}
    (hlookup : entries.lookup key = some v) : v.KeysOnce := by
  obtain ⟨before, after, rfl, -⟩ := List.lookup_eq_some_iff.mp hlookup
  exact h.2 (key, v) (by simp)

theorem append {entries : Entries} (h : KeysOnce entries) {key : String} {v : Value}
    (hnew : entries.lookup key = none) (hv : v.KeysOnce) : KeysOnce (entries ++ [(key, v)]) := by
  have hfresh : key ∉ entries.map (·.1) := by
    intro hmem
    obtain ⟨entry, hentry, rfl⟩ := List.mem_map.mp hmem
    simpa using List.lookup_eq_none_iff.mp hnew entry hentry
  refine ⟨?_, ?_⟩
  · rw [List.map_append, List.map_singleton]
    refine List.nodup_append.mpr ⟨h.1, by simp, ?_⟩
    intro other hother k hk heq
    rw [heq, List.mem_singleton.mp hk] at hother
    exact hfresh hother
  · intro entry hentry
    rcases List.mem_append.mp hentry with hentry | hentry
    · exact h.2 entry hentry
    · rwa [List.mem_singleton.mp hentry]

theorem replaceAt {entries : Entries} (h : KeysOnce entries) (key : String) {v : Value}
    (hv : v.KeysOnce) : KeysOnce (replaceAt key v entries) := by
  have hkeys : (Toml.replaceAt key v entries).map (·.1) = entries.map (·.1) := by
    rw [Toml.replaceAt, List.map_map]
    refine List.map_congr_left ?_
    intro entry _
    simp only [Function.comp_apply]
    split <;> rfl
  refine ⟨hkeys ▸ h.1, ?_⟩
  intro entry hentry
  obtain ⟨⟨k, old⟩, hold, rfl⟩ := List.mem_map.mp hentry
  simp only
  split
  · exact hv
  · exact h.2 (k, old) hold

theorem filter {entries : Entries} (h : KeysOnce entries) (p : String × Value → Bool) :
    KeysOnce (entries.filter p) := by
  have hsublist : (entries.filter p).Sublist entries := List.filter_sublist
  refine ⟨h.1.sublist (hsublist.map _), ?_⟩
  intro entry hentry
  exact h.2 entry (hsublist.subset hentry)

end KeysOnce

/-! ## Values -/

theorem keysOnce_integer? {negative : Bool} {base : Nat} {digits : List Char} {v : Value}
    (h : integer? negative base digits = some v) : v.KeysOnce := by
  simp only [integer?, Option.bind_eq_bind, Option.bind_eq_some_iff,
    Option.ite_none_right_eq_some] at h
  obtain ⟨magnitude, -, -, h⟩ := h
  obtain rfl := Option.some.inj h
  exact .int

theorem keysOnce_float? {negative : Bool} {whole fraction : List Char} {exponent : Int} {v : Value}
    (h : float? negative whole fraction exponent = some v) : v.KeysOnce := by
  simp only [float?, Option.bind_eq_bind, Option.bind_eq_some_iff] at h
  obtain ⟨magnitude, -, h⟩ := h
  split at h
  · cases h
  · obtain rfl := Option.some.inj h
    exact .float

theorem keysOnce_decimal? {s rest : List Char} {v : Value} (h : decimal? s = some (v, rest)) :
    v.KeysOnce := by
  unfold decimal? at h
  simp only [Option.bind_eq_bind] at h
  split at h
  · obtain ⟨rfl, -⟩ := Prod.mk.inj (Option.some.inj h)
    exact .float
  · obtain ⟨rfl, -⟩ := Prod.mk.inj (Option.some.inj h)
    exact .float
  · obtain ⟨⟨whole, rest⟩, -, h⟩ := Option.bind_eq_some_iff.mp h
    simp only at h
    split at h
    · simp only [Option.bind_eq_some_iff] at h
      obtain ⟨_, -, _, -, x, hx, h⟩ := h
      obtain ⟨rfl, -⟩ := Prod.mk.inj (Option.some.inj h)
      exact keysOnce_float? hx
    · split at h
      · simp only [Option.bind_eq_some_iff] at h
        obtain ⟨_, -, x, hx, h⟩ := h
        obtain ⟨rfl, -⟩ := Prod.mk.inj (Option.some.inj h)
        exact keysOnce_float? hx
      · obtain ⟨n, hn, h⟩ := Option.bind_eq_some_iff.mp h
        obtain ⟨rfl, -⟩ := Prod.mk.inj (Option.some.inj h)
        exact keysOnce_integer? hn

theorem keysOnce_number? {s rest : List Char} {v : Value} (h : number? s = some (v, rest)) :
    v.KeysOnce := by
  have hbased : ∀ {base : Nat} {s : List Char}, based? base s = some (v, rest) → v.KeysOnce := by
    intro base s h
    simp only [based?, Option.bind_eq_bind, Option.bind_eq_some_iff] at h
    obtain ⟨_, -, n, hn, h⟩ := h
    obtain ⟨rfl, -⟩ := Prod.mk.inj (Option.some.inj h)
    exact keysOnce_integer? hn
  unfold number? at h
  split at h
  · exact hbased h
  · exact hbased h
  · exact hbased h
  · exact keysOnce_decimal? h

theorem keysOnce_scalar? {s rest : List Char} {v : Value} (h : scalar? s = some (v, rest)) :
    v.KeysOnce := by
  unfold scalar? at h
  split at h
  · obtain ⟨_, -, h⟩ := Option.map_eq_some_iff.mp h
    obtain ⟨rfl, -⟩ := Prod.mk.inj h
    exact .text
  · obtain ⟨_, -, h⟩ := Option.map_eq_some_iff.mp h
    obtain ⟨rfl, -⟩ := Prod.mk.inj h
    exact .text
  · obtain ⟨rfl, -⟩ := Prod.mk.inj (Option.some.inj h)
    exact .bool
  · obtain ⟨rfl, -⟩ := Prod.mk.inj (Option.some.inj h)
    exact .bool
  · split at h
    · obtain ⟨_, -, h⟩ := Option.map_eq_some_iff.mp h
      obtain ⟨rfl, -⟩ := Prod.mk.inj h
      exact .dateTime
    · split at h
      · obtain ⟨_, -, h⟩ := Option.map_eq_some_iff.mp h
        obtain ⟨rfl, -⟩ := Prod.mk.inj h
        exact .dateTime
      · exact keysOnce_number? h

/-! ## Values with brackets -/

section Readers

variable {value? : ValueReader}
  (hvalue : ∀ {s rest : List Char} {v : Value}, value? s = some (v, rest) → v.KeysOnce)

include hvalue

theorem keysOnce_arrayItems? {fuel : Nat} {s rest : List Char} {items : List Value}
    (h : arrayItems? value? fuel s = some (items, rest)) : ∀ v ∈ items, v.KeysOnce := by
  induction fuel generalizing s items rest with
  | zero => cases h
  | succ fuel ih =>
      unfold arrayItems? at h
      split at h
      · obtain ⟨rfl, -⟩ := Prod.mk.inj (Option.some.inj h)
        simp
      · simp only [Option.bind_eq_bind] at h
        obtain ⟨⟨v, after⟩, hv, h⟩ := Option.bind_eq_some_iff.mp h
        simp only at h
        split at h
        · obtain ⟨⟨others, _⟩, hothers, h⟩ := Option.bind_eq_some_iff.mp h
          obtain ⟨rfl, -⟩ := Prod.mk.inj (Option.some.inj h)
          exact List.forall_mem_cons.mpr ⟨hvalue hv, ih hothers⟩
        · obtain ⟨rfl, -⟩ := Prod.mk.inj (Option.some.inj h)
          exact List.forall_mem_singleton.mpr (hvalue hv)
        · cases h

theorem keysOnce_assignment? {s rest : List Char} {key : Key} {v : Value}
    (h : assignment? value? s = some ((key, v), rest)) : v.KeysOnce := by
  unfold assignment? at h
  simp only [Option.bind_eq_bind] at h
  obtain ⟨⟨_, _⟩, -, h⟩ := Option.bind_eq_some_iff.mp h
  simp only at h
  split at h
  · obtain ⟨⟨_, _⟩, hv, h⟩ := Option.bind_eq_some_iff.mp h
    obtain ⟨heq, -⟩ := Prod.mk.inj (Option.some.inj h)
    obtain ⟨-, rfl⟩ := Prod.mk.inj heq
    exact hvalue hv
  · cases h

theorem keysOnce_inlineItems? {fuel : Nat} {s rest : List Char} {items : List (Key × Value)}
    (h : inlineItems? value? fuel s = some (items, rest)) : ∀ item ∈ items, item.2.KeysOnce := by
  induction fuel generalizing s items rest with
  | zero => cases h
  | succ fuel ih =>
      unfold inlineItems? at h
      simp only [Option.bind_eq_bind] at h
      obtain ⟨⟨item, after⟩, hitem, h⟩ := Option.bind_eq_some_iff.mp h
      have hfirst := keysOnce_assignment? hvalue hitem
      simp only at h
      split at h
      · obtain ⟨⟨others, _⟩, hothers, h⟩ := Option.bind_eq_some_iff.mp h
        obtain ⟨rfl, -⟩ := Prod.mk.inj (Option.some.inj h)
        exact List.forall_mem_cons.mpr ⟨hfirst, ih hothers⟩
      · obtain ⟨rfl, -⟩ := Prod.mk.inj (Option.some.inj h)
        exact List.forall_mem_singleton.mpr hfirst
      · cases h

end Readers

theorem keysOnce_insertInline {path : List String} {last : String} {v : Value}
    {entries entries' : Entries} (h : insertInline path last v entries = some entries')
    (hv : v.KeysOnce) (hentries : KeysOnce entries) : KeysOnce entries' := by
  induction path generalizing entries entries' with
  | nil =>
      unfold insertInline at h
      split at h
      · cases h
      · next hnew =>
        obtain rfl := Option.some.inj h
        exact hentries.append (Option.not_isSome_iff_eq_none.mp hnew) hv
  | cons part path ih =>
      unfold insertInline at h
      split at h
      · next hnew =>
        obtain ⟨inner, hinner, rfl⟩ := Option.map_eq_some_iff.mp h
        exact hentries.append hnew ((ih hinner .nil).toTable _)
      · next old hold =>
        obtain ⟨inner, hinner, rfl⟩ := Option.map_eq_some_iff.mp h
        have hold := ih hinner (.of_table (hentries.lookup hold))
        exact hentries.replaceAt part (hold.toTable _)
      · cases h

theorem foldlM_some {α β : Type} {P : β → Prop} {step : β → α → Option β} {l : List α}
    (hstep : ∀ a ∈ l, ∀ {b b' : β}, step b a = some b' → P b → P b') {b b' : β}
    (h : l.foldlM step b = some b') (hb : P b) : P b' := by
  induction l generalizing b with
  | nil =>
      obtain rfl := Option.some.inj h
      exact hb
  | cons a l ih =>
      rw [List.foldlM_cons, Option.bind_eq_bind] at h
      obtain ⟨b₁, hfirst, h⟩ := Option.bind_eq_some_iff.mp h
      refine ih (fun a ha => hstep a (List.mem_cons_of_mem _ ha)) h ?_
      exact hstep a List.mem_cons_self hfirst hb

theorem keysOnce_inlineEntries? {items : List (Key × Value)} {entries : Entries}
    (h : inlineEntries? items = some entries) (hitems : ∀ item ∈ items, item.2.KeysOnce) :
    KeysOnce entries := by
  refine foldlM_some ?_ h .nil
  intro item hitem before after hinsert hbefore
  exact keysOnce_insertInline hinsert (hitems item hitem) hbefore

theorem keysOnce_value? {depth : Nat} {s rest : List Char} {v : Value}
    (h : value? depth s = some (v, rest)) : v.KeysOnce := by
  induction depth generalizing s rest v with
  | zero =>
      unfold value? at h
      split at h
      · cases h
      · cases h
      · exact keysOnce_scalar? h
  | succ depth ih =>
      unfold value? at h
      simp only [Option.bind_eq_bind] at h
      split at h
      · obtain ⟨⟨items, _⟩, hitems, h⟩ := Option.bind_eq_some_iff.mp h
        obtain ⟨rfl, -⟩ := Prod.mk.inj (Option.some.inj h)
        exact .array (keysOnce_arrayItems? ih hitems)
      · split at h
        · obtain ⟨rfl, -⟩ := Prod.mk.inj (Option.some.inj h)
          exact KeysOnce.nil.toTable _
        · obtain ⟨⟨items, _⟩, hitems, h⟩ := Option.bind_eq_some_iff.mp h
          obtain ⟨entries, hentries, h⟩ := Option.bind_eq_some_iff.mp h
          obtain ⟨rfl, -⟩ := Prod.mk.inj (Option.some.inj h)
          exact (keysOnce_inlineEntries? hentries (keysOnce_inlineItems? ih hitems)).toTable _
      · exact keysOnce_scalar? h

/-! ## Documents -/

def Statement.KeysOnce : Statement → Prop
  | .assign _ v => v.KeysOnce
  | .openTable _ | .openElement _ => True

theorem keysOnce_statement? {s rest : List Char} {statement : Statement}
    (h : statement? s = some (statement, rest)) : statement.KeysOnce := by
  unfold statement? at h
  simp only [Option.bind_eq_bind] at h
  split at h
  · obtain ⟨⟨key, _⟩, -, h⟩ := Option.bind_eq_some_iff.mp h
    simp only at h
    split at h
    · obtain ⟨_, -, heq⟩ := Option.map_eq_some_iff.mp h
      obtain ⟨rfl, -⟩ := Prod.mk.inj heq
      trivial
    · cases h
  · obtain ⟨⟨key, _⟩, -, h⟩ := Option.bind_eq_some_iff.mp h
    simp only at h
    split at h
    · obtain ⟨_, -, heq⟩ := Option.map_eq_some_iff.mp h
      obtain ⟨rfl, -⟩ := Prod.mk.inj heq
      trivial
    · cases h
  · obtain ⟨⟨⟨key, v⟩, _⟩, hassign, h⟩ := Option.bind_eq_some_iff.mp h
    obtain ⟨_, -, heq⟩ := Option.map_eq_some_iff.mp h
    obtain ⟨rfl, -⟩ := Prod.mk.inj heq
    exact keysOnce_assignment? keysOnce_value? hassign

theorem keysOnce_statements? {fuel : Nat} {s : List Char} {statements : List Statement}
    (h : statements? fuel s = some statements) : ∀ statement ∈ statements, statement.KeysOnce := by
  induction fuel generalizing s statements with
  | zero =>
      unfold statements? at h
      split at h
      · obtain rfl := Option.some.inj h
        simp
      · cases h
  | succ fuel ih =>
      unfold statements? at h
      split at h
      · obtain rfl := Option.some.inj h
        simp
      · obtain ⟨_, -, h⟩ := Option.bind_eq_some_iff.mp h
        exact ih h
      · split at h
        · exact ih h
        · simp only [Option.bind_eq_bind, Option.bind_eq_some_iff] at h
          obtain ⟨⟨statement, _⟩, hfirst, others, hothers, h⟩ := h
          obtain rfl := Option.some.inj h
          exact List.forall_mem_cons.mpr ⟨keysOnce_statement? hfirst, ih hothers⟩

theorem keysOnce_sectionsOf {statements : List Statement}
    (h : ∀ statement ∈ statements, statement.KeysOnce) :
    (∀ item ∈ (sectionsOf statements).1, item.2.KeysOnce) ∧
      ∀ part ∈ (sectionsOf statements).2, ∀ item ∈ part.assigns, item.2.KeysOnce := by
  induction statements with
  | nil => simp [sectionsOf]
  | cons statement rest ih =>
      obtain ⟨hfirst, hrest⟩ := List.forall_mem_cons.mp h
      obtain ⟨hassigns, hsections⟩ := ih hrest
      cases statement with
      | assign key v => exact ⟨List.forall_mem_cons.mpr ⟨hfirst, hassigns⟩, hsections⟩
      | openTable key | openElement key =>
          exact ⟨by simp [sectionsOf], List.forall_mem_cons.mpr ⟨hassigns, hsections⟩⟩

theorem keysOnce_changeAt {isDotted : Bool} {change : TableKind → Entries → Option Entries}
    (hchange : ∀ {kind : TableKind} {entries entries' : Entries},
      change kind entries = some entries' → KeysOnce entries → KeysOnce entries')
    {path : List String} {kind : TableKind} {entries entries' : Entries}
    (h : changeAt isDotted change path kind entries = some entries') (hentries : KeysOnce entries) :
    KeysOnce entries' := by
  induction path generalizing kind entries entries' with
  | nil => exact hchange h hentries
  | cons part path ih =>
      unfold changeAt at h
      split at h
      · next hnew =>
        obtain ⟨inner, hinner, rfl⟩ := Option.map_eq_some_iff.mp h
        exact hentries.append hnew ((ih hinner .nil).toTable _)
      · next items hold =>
        have hitems := hentries.lookup hold
        split at h
        · cases h
        · next element hlast =>
          obtain ⟨inner, hinner, rfl⟩ := Option.map_eq_some_iff.mp h
          have helement := KeysOnce.of_tables hitems (List.mem_of_getLast? hlast)
          refine hentries.replaceAt part (KeysOnce.toTables ?_)
          intro table htable
          rcases List.mem_append.mp htable with htable | htable
          · exact .of_tables hitems (List.dropLast_subset items htable)
          · rw [List.mem_singleton.mp htable]
            exact ih hinner helement
      · next inner hold =>
        split at h
        · cases h
        · obtain ⟨inner', hinner, rfl⟩ := Option.map_eq_some_iff.mp h
          have hinner' := ih hinner (.of_table (hentries.lookup hold))
          exact hentries.replaceAt part (hinner'.toTable _)
      · cases h

theorem keysOnce_assign {entries entries' : Entries} {key : Key} {v : Value}
    (h : assign entries key v = some entries') (hv : v.KeysOnce) (hentries : KeysOnce entries) :
    KeysOnce entries' := by
  refine keysOnce_changeAt ?_ h hentries
  intro kind before after hgive hbefore
  split at hgive
  · cases hgive
  · split at hgive
    · cases hgive
    · next hnew =>
      obtain rfl := Option.some.inj hgive
      exact hbefore.append (Option.not_isSome_iff_eq_none.mp hnew) hv

theorem keysOnce_assignAll {entries entries' : Entries} {assigns : List (Key × Value)}
    (h : assignAll entries assigns = some entries') (hassigns : ∀ item ∈ assigns, item.2.KeysOnce)
    (hentries : KeysOnce entries) : KeysOnce entries' := by
  refine foldlM_some ?_ h hentries
  intro item hitem before after hassign hbefore
  exact keysOnce_assign hassign (hassigns item hitem) hbefore

theorem keysOnce_addSection {root root' : Entries} {part : Section}
    (h : addSection root part = some root') (hassigns : ∀ item ∈ part.assigns, item.2.KeysOnce)
    (hroot : KeysOnce root) : KeysOnce root' := by
  have hmade : ∀ {entries entries' : Entries}, assignAll entries part.assigns = some entries' →
      KeysOnce entries → KeysOnce entries' :=
    fun h hentries => keysOnce_assignAll h hassigns hentries
  refine keysOnce_changeAt ?_ h hroot
  intro kind before after hplace hbefore
  split at hplace
  · next hnew =>
    obtain ⟨element, helement, rfl⟩ := Option.map_eq_some_iff.mp hplace
    exact hbefore.append hnew
      (KeysOnce.toTables (List.forall_mem_singleton.mpr (hmade helement .nil)))
  · next items hold =>
    obtain ⟨element, helement, rfl⟩ := Option.map_eq_some_iff.mp hplace
    refine hbefore.replaceAt _ (KeysOnce.toTables ?_)
    intro table htable
    rcases List.mem_append.mp htable with htable | htable
    · exact .of_tables (hbefore.lookup hold) htable
    · rw [List.mem_singleton.mp htable]
      exact hmade helement .nil
  · next hnew =>
    obtain ⟨inner, hinner, rfl⟩ := Option.map_eq_some_iff.mp hplace
    exact hbefore.append hnew ((hmade hinner .nil).toTable _)
  · next inner hold =>
    obtain ⟨inner', hinner, rfl⟩ := Option.map_eq_some_iff.mp hplace
    have hinner' := hmade hinner (.of_table (hbefore.lookup hold))
    -- the table that is opened leaves its old place
    refine (hbefore.filter _).append ?_ (hinner'.toTable _)
    rw [List.lookup_eq_none_iff]
    intro entry hentry
    have hother : entry.1 ≠ part.key.last := bne_iff_ne.mp (List.mem_filter.mp hentry).2
    exact bne_iff_ne.mpr hother.symm
  · cases hplace

/-- Every table of a document has each key once. -/
theorem keysOnce_parse? {s : List Char} {document : Value} (h : parse? s = some document) :
    ∃ entries, document = .table .explicit entries ∧ KeysOnce entries := by
  simp only [parse?, Option.bind_eq_bind, Option.bind_eq_some_iff] at h
  obtain ⟨statements, hstatements, h⟩ := h
  obtain ⟨entries, hentries, rfl⟩ := Option.map_eq_some_iff.mp h
  obtain ⟨hassigns, hsections⟩ := keysOnce_sectionsOf (keysOnce_statements? hstatements)
  refine ⟨entries, rfl, ?_⟩
  simp only [assemble, Option.bind_eq_bind, Option.bind_eq_some_iff] at hentries
  obtain ⟨root, hroot, hentries⟩ := hentries
  refine foldlM_some ?_ hentries (keysOnce_assignAll hroot hassigns .nil)
  intro part hpart before after hadd hbefore
  exact keysOnce_addSection hadd (hsections part hpart) hbefore

end Lifecycle.Toml
