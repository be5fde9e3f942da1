import Highlight.Language.Basic

/-!
# Rust

The Rust language. Block comments do not nest, and raw strings have one hash sign.
-/

namespace Highlight.Language

/-- The built-in language `rust`. -/
def rust : Language :=
  addRules
    { new "rust" "Rust" "rust" with
      extensions := ["rs"]
      aliases := ["rs"] }
    [Construct.compile? "block_comment" "/\\*" "\\*/" .blockComment 1 none,
     Construct.compile? "raw_string" "r#\"" "\"#" .rawString 2 none,
     Construct.compile? "string" "\"" "\"" .doubleString 3 (some '\\')]
    [PatternRule.compile? "doc_comment" "//[/!].*$" .docComment 101,
     PatternRule.compile? "line_comment" "//.*$" .lineComment 100,
     PatternRule.compile? "attribute" "#!?\\[[^\\]]*\\]" .attribute 95,
     PatternRule.compile? "char" "'(?:[^'\\\\]|\\\\.)'" .character 90,
     PatternRule.compile? "lifetime" "'\\w+" .lifetime 89,
     PatternRule.compile? "macro" "\\b\\w+!" .macroName 85,
     PatternRule.compile? "control" (wholeWords
        ["break", "continue", "else", "for", "if", "in", "loop", "match", "return", "while",
         "await"]) .controlKeyword 81,
     PatternRule.compile? "keyword" (wholeWords
        ["as", "async", "const", "crate", "dyn", "enum", "extern", "fn", "impl", "let", "mod",
         "move", "mut", "pub", "ref", "static", "struct", "super", "trait", "type", "union",
         "unsafe", "use", "where"]) .keyword 80,
     PatternRule.compile? "self" "\\b(self|Self)\\b" .selfVariable 79,
     PatternRule.compile? "constant" "\\b(true|false|None|Some|Ok|Err)\\b" .languageConstant 78,
     PatternRule.compile? "type" (wholeWords
        ["bool", "char", "str", "u8", "u16", "u32", "u64", "u128", "usize", "i8", "i16", "i32",
         "i64", "i128", "isize", "f32", "f64", "String", "Vec", "Box", "Rc", "Arc", "Option",
         "Result"]) .supportType 75,
     PatternRule.compile? "function" "\\b[a-z_][a-z0-9_]*\\(" .function 70,
     PatternRule.compile? "type_name" "\\b[A-Z][a-zA-Z0-9_]*\\b" .typeName 60,
     PatternRule.compile? "hex" "\\b0x[0-9a-fA-F_]+\\b" .number 65,
     PatternRule.compile? "binary" "\\b0b[01_]+\\b" .number 65,
     PatternRule.compile? "octal" "\\b0o[0-7_]+\\b" .number 65,
     PatternRule.compile? "float" "\\b\\d[\\d_]*\\.\\d[\\d_]*(?:[eE][+-]?\\d+)?\\b" .number 64,
     PatternRule.compile? "integer"
       "\\b\\d[\\d_]*(?:u8|u16|u32|u64|u128|usize|i8|i16|i32|i64|i128|isize)?\\b" .number 63,
     PatternRule.compile? "operator" "[+\\-*/%&|^!<>=@]+" .operator 40]

end Highlight.Language
