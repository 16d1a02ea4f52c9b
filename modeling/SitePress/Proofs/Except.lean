import Mathlib.Data.List.Forall2

/-!
# Results that are handed on

Reading, filling and stamping hand on what the step before them has found, and widen its
errors on the way.  A computation of several steps succeeds if each of them does, and an
error that comes out is one that went in.
-/

namespace SitePress

variable {ε δ α β γ : Type} {result : Except ε α}

theorem except_map_map (f : α → β) (g : β → γ) (result : Except ε α) :
    (result.map f).map g = result.map fun a => g (f a) := by
  cases result <;> rfl

theorem except_bind_eq_ok_iff {next : α → Except ε β} {b : β} :
    (result >>= next) = .ok b ↔ ∃ a, result = .ok a ∧ next a = .ok b := by
  cases result with
  | error error => simp [bind, Except.bind]
  | ok a => simp [bind, Except.bind]

theorem except_mapM_eq_ok_iff {f : α → Except ε β} {as : List α} {bs : List β} :
    as.mapM f = .ok bs ↔ List.Forall₂ (fun a b => f a = .ok b) as bs := by
  induction as generalizing bs with
  | nil => simp [pure, Except.pure, eq_comm]
  | cons a as ih =>
    rw [List.mapM_cons, except_bind_eq_ok_iff]
    constructor
    · rintro ⟨b, hb, h⟩
      obtain ⟨rest, hrest, h⟩ := except_bind_eq_ok_iff.1 h
      obtain rfl := Except.ok.inj h
      exact .cons hb (ih.1 hrest)
    · rintro (_ | ⟨hb, hrest⟩)
      exact ⟨_, hb, except_bind_eq_ok_iff.2 ⟨_, ih.2 hrest, rfl⟩⟩

theorem except_mapError_eq_ok_iff {f : ε → δ} {a : α} :
    result.mapError f = .ok a ↔ result = .ok a := by
  cases result with
  | error error => exact ⟨nofun, nofun⟩
  | ok b =>
    constructor
    · rintro ⟨⟩
      rfl
    · rintro ⟨⟩
      rfl

theorem except_mapError_eq_error_iff {f : ε → δ} {d : δ} :
    result.mapError f = .error d ↔ ∃ e, result = .error e ∧ f e = d := by
  cases result with
  | error e =>
    change Except.error (f e) = Except.error d ↔ _
    simp
  | ok a =>
    change Except.ok a = Except.error d ↔ _
    simp

end SitePress
