import Highlight.Theme.Basic

/-!
# The dark theme

The theme that is used when none is given.
-/

namespace Highlight.Theme

/-- A rule for the scopes of a selector with a foreground color and a font style. -/
private def tint (selector color : String) (fontStyle : FontStyle := {}) : Rule :=
  { selector := .parse selector, style := { foreground := some color, fontStyle } }

/-- A rule for the scopes of a selector that only changes the font. -/
private def face (selector : String) (fontStyle : FontStyle) : Rule :=
  { selector := .parse selector, style := { fontStyle } }

/-- The built-in dark theme. -/
def dark : Theme where
  name := "builtin-dark"
  foreground := some "#D4D4D4"
  background := some "#1E1E1E"
  rules :=
    [tint "comment" "#6A9955" { italic := true },
     tint "string" "#CE9178",
     tint "constant.character.escape" "#D7BA7D",
     tint "constant.numeric" "#B5CEA8",
     tint "constant.language" "#569CD6",
     tint "constant.other" "#4FC1FF",
     tint "keyword" "#569CD6",
     tint "keyword.control" "#C586C0",
     tint "keyword.operator" "#D4D4D4",
     tint "storage" "#569CD6",
     tint "entity.name.type, support.type" "#4EC9B0",
     tint "entity.name.function, support.function" "#DCDCAA",
     tint "entity.name.namespace" "#4EC9B0",
     tint "entity.name.label" "#C8C8C8",
     tint "variable" "#9CDCFE",
     tint "variable.parameter" "#9CDCFE",
     tint "meta.preprocessor" "#C586C0",
     tint "meta.attribute" "#9CDCFE",
     tint "markup.heading" "#569CD6" { bold := true },
     face "markup.bold" { bold := true },
     face "markup.italic" { italic := true },
     tint "markup.inline.raw" "#CE9178",
     tint "markup.underline.link" "#3794FF" { underline := true }]

end Highlight.Theme
