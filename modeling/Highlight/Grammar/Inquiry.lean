import Highlight.Grammar.Basic

/-!
# Computations that ask a grammar

An `Inquiry` is a computation that asks a grammar about lines and goes on with the answers. It names
no grammar, so what it asks for can be told apart from what a grammar answers.
-/

namespace Highlight

/-- A computation that may ask for the words and for the tokens of a line, with the state before the
line. -/
inductive Inquiry (σ α : Type) where
  | done (result : α)
  | words (line : String) (prior : Option σ) (next : List UInt32 × σ → Inquiry σ α)
  | tokens (line : String) (prior : Option σ) (next : List ScopedToken × σ → Inquiry σ α)

namespace Inquiry

variable {σ α β : Type}

/-- Goes on with the result of an inquiry. -/
def bind : Inquiry σ α → (α → Inquiry σ β) → Inquiry σ β
  | .done a, f => f a
  | .words line prior next, f => .words line prior fun read => (next read).bind f
  | .tokens line prior next, f => .tokens line prior fun read => (next read).bind f

instance : Monad (Inquiry σ) where
  pure := .done
  bind := bind

/-- The result of an inquiry that the grammar answers. -/
def answer (g : Grammar σ) : Inquiry σ α → α
  | .done a => a
  | .words line prior next => (next (g.words line prior)).answer g
  | .tokens line prior next => (next (g.tokens line prior)).answer g

@[simp]
theorem answer_pure (g : Grammar σ) (a : α) : (pure a : Inquiry σ α).answer g = a := rfl

@[simp]
theorem answer_bind (g : Grammar σ) (i : Inquiry σ α) (f : α → Inquiry σ β) :
    (i >>= f).answer g = (f (i.answer g)).answer g := by
  induction i with
  | done a => rfl
  | words line prior next ih => exact ih _
  | tokens line prior next ih => exact ih _

end Inquiry

end Highlight
