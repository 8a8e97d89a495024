import Proctor.Host.Journal
import Mathlib.Data.List.Forall2

/-!
# Computations that run alike

Two computations run alike if they do the same to every world and come to results that are related.
A computation whose steps run alike with those of another one runs alike with it, whatever the host
answers, since both get the same answers.
-/
namespace Proctor.Run
variable {σ α β γ δ ε : Type}

/-- The two computations do the same to every world, and their results are related. -/
def Alike (R : α → β → Prop) (m : Run σ α) (m' : Run σ β) : Prop :=
  ∀ w, R (m.run w).1 (m'.run w).1 ∧ (m.run w).2 = (m'.run w).2

section Rules
variable {m : Run σ α} {m' : Run σ β} {f : α → Run σ γ} {f' : β → Run σ δ} {R : α → β → Prop}
  {S : γ → δ → Prop}

theorem Alike.of_pure {a : α} {b : β} (h : R a b) : Alike (σ := σ) R (pure a) (pure b) :=
  fun _ => ⟨h, rfl⟩

theorem Alike.seq (hm : Alike R m m') (hf : ∀ a b, R a b → Alike S (f a) (f' b)) :
    Alike S (m >>= f) (m' >>= f') := by
  intro w
  obtain ⟨hresult, hworld⟩ := hm w
  change S ((f (m.run w).1).run (m.run w).2).1 ((f' (m'.run w).1).run (m'.run w).2).1 ∧
    ((f (m.run w).1).run (m.run w).2).2 = ((f' (m'.run w).1).run (m'.run w).2).2
  rw [← hworld]
  exact hf _ _ hresult _

/-- A step that both computations take, and what they do after it. -/
theorem Alike.same_seq {g : α → Run σ δ} (m : Run σ α) (hf : ∀ a, Alike S (f a) (g a)) :
    Alike S (m >>= f) (m >>= g) := by
  have hsame : Alike Eq m m := fun _ => ⟨rfl, rfl⟩
  refine hsame.seq ?_
  rintro a _ rfl
  exact hf a

end Rules

/-- Results that are related, or the same fault twice. -/
def OrFault (R : α → β → Prop) : Except ε α → Except ε β → Prop
  | .ok a, .ok b => R a b
  | .error e, .error e' => e = e'
  | _, _ => False

theorem OrFault.cases {R : α → β → Prop} {a : Except ε α} {b : Except ε β} (h : OrFault R a b) :
    (∃ e, a = .error e ∧ b = .error e) ∨ ∃ x y, a = .ok x ∧ b = .ok y ∧ R x y := by
  cases a with
  | error e =>
    cases b with
    | error e' => exact .inl ⟨e, rfl, congrArg _ (Eq.symm h)⟩
    | ok y => cases h
  | ok x =>
    cases b with
    | error e' => cases h
    | ok y => exact .inr ⟨x, y, rfl, rfl, h⟩

end Proctor.Run
