import Mathlib.Data.List.Forall2
/-!
# Reading one thing after another

What comes of reading several things, told by what comes of each.
-/

namespace Lifecycle

variable {α β δ ε : Type}

theorem bind_eq_ok_iff {x : Except ε α} {f : α → Except ε β} {b : β} :
    (x >>= f) = .ok b ↔ ∃ a, x = .ok a ∧ f a = .ok b := by
  cases x <;> simp [bind, Except.bind]

theorem map_eq_ok_iff {x : Except ε α} {f : α → β} {b : β} :
    x.map f = .ok b ↔ ∃ a, x = .ok a ∧ f a = b := by
  cases x <;> simp [Except.map]

theorem forM_eq_ok {check : δ → Except ε Unit} {items : List δ}
    (h : ∀ v ∈ items, check v = .ok ()) : items.forM check = .ok () := by
  induction items with
  | nil => rfl
  | cons v rest ih =>
      obtain ⟨hv, hrest⟩ := List.forall_mem_cons.mp h
      exact bind_eq_ok_iff.mpr ⟨(), hv, ih hrest⟩

/-- Elements that are read one by one, each from just what it is written as. -/
theorem mapM_eq_ok_iff {read : δ → Except ε α} {make : α → δ}
    (hread : ∀ {v : δ} {a : α}, read v = .ok a ↔ v = make a) {items : List δ} {l : List α} :
    items.mapM read = .ok l ↔ items = l.map make := by
  induction items generalizing l with
  | nil =>
      cases l <;> simp [pure, Except.pure]
  | cons v rest ih =>
      rw [List.mapM_cons, bind_eq_ok_iff]
      constructor
      · rintro ⟨a, ha, h⟩
        obtain ⟨others, hothers, h⟩ := bind_eq_ok_iff.mp h
        obtain rfl := Except.ok.inj h
        rw [hread.mp ha, ih.mp hothers, List.map_cons]
      · intro h
        cases l with
        | nil => cases h
        | cons a others =>
            obtain ⟨rfl, hrest⟩ := List.cons.inj h
            exact ⟨a, hread.mpr rfl, bind_eq_ok_iff.mpr ⟨others, ih.mpr hrest, rfl⟩⟩

section Meant

variable {reads : δ → α → Prop}

theorem exists_forall₂_iff {items : List δ} :
    (∃ l, List.Forall₂ reads items l) ↔ ∀ v ∈ items, ∃ a, reads v a := by
  induction items with
  | nil => simp
  | cons v rest ih =>
      rw [List.forall_mem_cons, ← ih]
      constructor
      · rintro ⟨l, hl⟩
        obtain ⟨a, others, ha, hothers, -⟩ := List.forall₂_cons_left_iff.mp hl
        exact ⟨⟨a, ha⟩, others, hothers⟩
      · rintro ⟨⟨a, ha⟩, others, hothers⟩
        exact ⟨a :: others, .cons ha hothers⟩

theorem foldlM_map_eq_ok_iff {read : δ → Except ε α}
    (hread : ∀ {v : δ} {a : α}, read v = .ok a ↔ reads v a) {combine : β → α → β}
    {items : List δ} {start b : β} :
    items.foldlM (fun b v => (read v).map (combine b)) start = .ok b ↔
      ∃ l, List.Forall₂ reads items l ∧ b = l.foldl combine start := by
  induction items generalizing start with
  | nil => simp [pure, Except.pure, eq_comm]
  | cons v rest ih =>
      rw [List.foldlM_cons, bind_eq_ok_iff]
      constructor
      · rintro ⟨_, hfirst, hrest⟩
        obtain ⟨a, ha, rfl⟩ := map_eq_ok_iff.mp hfirst
        obtain ⟨l, hl, rfl⟩ := ih.mp hrest
        exact ⟨a :: l, .cons (hread.mp ha) hl, rfl⟩
      · rintro ⟨_, hall, rfl⟩
        obtain ⟨a, l, ha, hl, rfl⟩ := List.forall₂_cons_left_iff.mp hall
        exact ⟨combine start a, map_eq_ok_iff.mpr ⟨a, hread.mpr ha, rfl⟩, ih.mpr ⟨l, hl, rfl⟩⟩

end Meant

end Lifecycle
