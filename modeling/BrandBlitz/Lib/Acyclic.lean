import Mathlib.Logic.Relation

/-!
# BrandBlitz.Lib.Acyclic

**Relations without cycles**, and when one more edge closes one: exactly when its end
already leads to its start.
-/

namespace BrandBlitz.Lib

open Relation

variable {α : Type} {r : α → α → Prop} {a b x y : α}

/-- Nothing leads back to itself. -/
def Acyclic (r : α → α → Prop) : Prop := ∀ x, ¬ TransGen r x x

/-- The relation with one more edge. -/
def AddEdge (r : α → α → Prop) (a b x y : α) : Prop := r x y ∨ (x = a ∧ y = b)

theorem le_addEdge : r ≤ AddEdge r a b := fun _ _ h => .inl h

/-- A path over the new edge reaches its start and leaves its end by old edges. -/
theorem transGen_addEdge (h : TransGen (AddEdge r a b) x y) :
    TransGen r x y ∨ (ReflTransGen r x a ∧ ReflTransGen r b y) := by
  induction h with
  | single hstep =>
      rcases hstep with hold | ⟨rfl, rfl⟩
      · exact .inl (.single hold)
      · exact .inr ⟨.refl, .refl⟩
  | tail _ hstep ih =>
      rcases hstep with hold | ⟨rfl, rfl⟩
      · rcases ih with ih | ⟨hstart, hend⟩
        · exact .inl (ih.tail hold)
        · exact .inr ⟨hstart, hend.tail hold⟩
      · rcases ih with ih | ⟨hstart, -⟩
        · exact .inr ⟨ih.to_reflTransGen, .refl⟩
        · exact .inr ⟨hstart, .refl⟩

/-- **When a new edge closes a cycle.** -/
theorem acyclic_addEdge_iff :
    Acyclic (AddEdge r a b) ↔ Acyclic r ∧ ¬ ReflTransGen r b a := by
  constructor
  · intro h
    refine ⟨fun x hx => h x (TransGen.mono le_addEdge _ _ hx), fun hback => ?_⟩
    have hedge : AddEdge r a b a b := .inr ⟨rfl, rfl⟩
    exact h a (TransGen.head' hedge (ReflTransGen.mono le_addEdge _ _ hback))
  · rintro ⟨hacyclic, hback⟩ x hx
    rcases transGen_addEdge hx with hold | ⟨hstart, hend⟩
    · exact hacyclic x hold
    · exact hback (hend.trans hstart)

end BrandBlitz.Lib
