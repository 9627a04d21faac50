import Lifecycle.Proofs.Registry.Registering
/-!
# Steady factories

A factory and the registrars it makes may act on the world.  They are steady if the world does not
decide what they answer; then it does not decide either what registering does to a registry.
-/

namespace Lifecycle

variable {σ : Type}

/-- What a session registers and how it ends does not depend on the world. -/
def Session.Steady (session : Session σ) : Prop :=
  ∀ rules owner s w,
    (session.play rules owner s).outcome = (session.play rules owner w).outcome ∧
      (session.play rules owner s).accepted = (session.play rules owner w).accepted

/-- What the factory makes for a type does not depend on the world, nor do the sessions of the
registrars that it makes. -/
structure Factory.Steady (f : Factory σ) : Prop where
  made : ∀ type s w, (f.instantiate type s).1 = (f.instantiate type w).1
  sessions : ∀ {type : TypeId} {s w : σ} {p : Provider σ} {session : TypeId → Session σ},
    f.instantiate type s = (.ok p, w) → p.registrar? = some session → (session type).Steady

theorem Session.steady_finish (outcome : Except Error Unit) :
    (Session.finish (σ := σ) outcome).Steady := fun _ _ _ _ => ⟨rfl, rfl⟩

theorem Session.steady_registerAll (children : List (Extension σ × Position)) :
    (Session.registerAll children).Steady := by
  induction children with
  | nil => exact steady_finish _
  | cons child rest ih =>
      obtain ⟨extension, position⟩ := child
      intro rules owner s w
      obtain ⟨houtcome, haccepted⟩ := ih rules owner s w
      simp only [registerAll, play]
      cases rules.rejecting? extension.capabilities position with
      | some phase => exact ⟨rfl, rfl⟩
      | none =>
          refine ⟨houtcome, ?_⟩
          simp only [haccepted]

theorem Factory.Steady.sessionFor {f : Factory σ} (h : f.Steady) {type : TypeId} {s w : σ}
    {p : Provider σ} (hmade : f.instantiate type s = (.ok p, w)) :
    (p.sessionFor type).Steady := by
  unfold Provider.sessionFor
  cases hregistrar : p.registrar? with
  | none => exact Session.steady_finish _
  | some session => exact h.sessions hmade hregistrar

/-- With a steady factory the world decides neither the answer nor what is registered. -/
theorem Registry.registerType_steady {r : Registry σ} (h : r.factory.Steady) (type : TypeId)
    (s w : σ) :
    (r.registerType type s).1 = (r.registerType type w).1 ∧
      (r.registerType type s).2.1 = (r.registerType type w).2.1 := by
  unfold registerType
  by_cases hknown : r.containsType type = true
  · rw [if_pos hknown, if_pos hknown]
    exact ⟨rfl, rfl⟩
  rw [if_neg hknown, if_neg hknown]
  have hmade := h.made type s w
  match hs : r.factory.instantiate type s, hw : r.factory.instantiate type w with
  | (.error cause, s'), (made, w') =>
      rw [hs, hw] at hmade
      subst hmade
      exact ⟨rfl, rfl⟩
  | (.ok p, s'), (made, w') =>
      rw [hs, hw] at hmade
      subst hmade
      obtain ⟨houtcome, haccepted⟩ := h.sessionFor hs r.rules type s' w'
      simp only [registerProvider_eq]
      cases r.rules.rejecting? p.capabilities .default with
      | some phase => exact ⟨rfl, rfl⟩
      | none =>
          simp only [houtcome, haccepted]
          cases ((p.sessionFor type).play r.rules type w').outcome <;> exact ⟨rfl, rfl⟩

end Lifecycle
