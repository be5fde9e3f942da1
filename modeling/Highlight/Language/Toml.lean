import Highlight.Language.Basic

/-!
# Toml

TOML documents. A key is what stands at the start of a line.
-/

namespace Highlight.Language

/-- The built-in language `toml`. -/
def toml : Language :=
  addRules
    { new "toml" "TOML" "toml" with
      extensions := ["toml"]
      aliases := [] }
    [Construct.compile? "multiline_basic" "\"\"\"" "\"\"\"" .tripleString 1 none,
     Construct.compile? "multiline_literal" "'''" "'''" .tripleString 2 none,
     Construct.compile? "basic_string" "\"" "\"" .doubleString 3 (some '\\'),
     Construct.compile? "literal_string" "'" "'" .singleString 4 none]
    [PatternRule.compile? "comment" "#.*$" .lineComment 100,
     PatternRule.compile? "table" "^\\s*\\[\\[?[^\\]]+\\]\\]?" .section 95,
     PatternRule.compile? "key" "^\\s*[\\w\\-\\.]+" .key 90,
     PatternRule.compile? "boolean" "\\b(true|false)\\b" .languageConstant 80,
     PatternRule.compile? "datetime"
       "\\d\x7b4\x7d-\\d\x7b2\x7d-\\d\x7b2\x7d(?:[T ]\\d\x7b2\x7d:\\d\x7b2\x7d:\\d\x7b2\x7d(?:\\.\\d+)?(?:Z|[+-]\\d\x7b2\x7d:\\d\x7b2\x7d)?)?" .otherConstant 75,
     PatternRule.compile? "time" "\\d\x7b2\x7d:\\d\x7b2\x7d:\\d\x7b2\x7d(?:\\.\\d+)?"
       .otherConstant 74,
     PatternRule.compile? "hex" "\\b0x[0-9a-fA-F_]+\\b" .number 65,
     PatternRule.compile? "binary" "\\b0b[01_]+\\b" .number 65,
     PatternRule.compile? "octal" "\\b0o[0-7_]+\\b" .number 65,
     PatternRule.compile? "float"
       "[+-]?(?:\\d[\\d_]*\\.\\d[\\d_]*(?:[eE][+-]?\\d+)?|\\binf\\b|\\bnan\\b)" .number 64,
     PatternRule.compile? "integer" "[+-]?\\b\\d[\\d_]*\\b" .number 63,
     PatternRule.compile? "assign" "=" .operator 40]

end Highlight.Language
