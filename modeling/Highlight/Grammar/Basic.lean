/-!
# Grammars

A grammar reads a document line by line and carries a state from one line to the next. It answers
for a line in two ways: with *tokens*, each with its scope chain, and with *words*, a flat packed
list in which every token is an offset followed by a word for its look. A reader of the words takes
the words in pairs and ignores a last word without partner.
-/

namespace Highlight

/-- A token of a line with its scopes from the outermost inwards. -/
structure ScopedToken where
  start : Nat
  stop : Nat
  scopes : List String
deriving Repr, DecidableEq

/-- A way to tokenize the lines of a document. The state is absent before the first line. -/
structure Grammar (σ : Type) where
  tokens : String → Option σ → List ScopedToken × σ
  words : String → Option σ → List UInt32 × σ

end Highlight
