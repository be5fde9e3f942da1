import Highlight.Style.FontStyle

/-!
# Themed tokens

The result of highlighting: each line is a list of tokens, and a token is a piece of the line with
its color and font style. On request a token carries an explanation: the grammar's tokens that it
covers, each with its scopes and the labels of the theme rules that speak of them.
-/

namespace Highlight

/-- A scope with the labels of the rules that speak of it. -/
structure ScopeNote where
  scope : String
  labels : List String
deriving Repr, DecidableEq

/-- A token of the grammar with its scopes from the outermost inwards. -/
structure TokenNote where
  content : String
  scopes : List ScopeNote
deriving Repr, DecidableEq

/-- A piece of a line with its look. -/
structure Token where
  content : String
  color : Option String := none
  fontStyle : FontStyle := {}
  explanation : Option (List TokenNote) := none
deriving Repr, DecidableEq

end Highlight
