import Highlight.Language.Basic

/-!
# C

C, with the keywords of its descendants.
-/

namespace Highlight.Language

/-- The built-in language `c`. -/
def c : Language :=
  addRules
    { new "c" "C" "c" with
      extensions := ["c", "h", "cpp", "hpp", "cc", "cxx"]
      aliases := ["cpp", "c++", "objc"] }
    [Construct.compile? "block_comment" "/\\*" "\\*/" .blockComment 1 none,
     Construct.compile? "string" "\"" "\"" .doubleString 2 (some '\\')]
    [PatternRule.compile? "line_comment" "//.*$" .lineComment 100,
     PatternRule.compile? "preprocessor" "^\\s*#\\s*\\w+" .preprocessor 95,
     PatternRule.compile? "char" "'(?:[^'\\\\]|\\\\.)'" .character 90,
     PatternRule.compile? "control" (wholeWords
        ["break", "case", "continue", "default", "do", "else", "for", "goto", "if", "return",
         "switch", "while", "try", "catch", "throw", "co_await", "co_return",
         "co_yield"]) .controlKeyword 81,
     PatternRule.compile? "keyword" (wholeWords
        ["auto", "char", "const", "double", "enum", "extern", "float", "inline", "int", "long",
         "register", "restrict", "short", "signed", "sizeof", "static", "struct", "typedef",
         "union", "unsigned", "void", "volatile", "_Alignas", "_Alignof", "_Atomic", "_Bool",
         "_Complex", "_Generic", "_Imaginary", "_Noreturn", "_Static_assert",
         "_Thread_local"]) .keyword 80,
     PatternRule.compile? "cpp_keyword" (wholeWords
        ["alignas", "alignof", "and", "and_eq", "asm", "bitand", "bitor", "bool", "class", "compl",
         "concept", "consteval", "constexpr", "constinit", "const_cast", "decltype", "delete",
         "dynamic_cast", "explicit", "export", "friend", "mutable", "namespace", "new", "noexcept",
         "not", "not_eq", "operator", "or", "or_eq", "private", "protected", "public",
         "reinterpret_cast", "requires", "static_assert", "static_cast", "template", "thread_local",
         "typeid", "typename", "using", "virtual", "xor", "xor_eq"]) .keyword 79,
     PatternRule.compile? "constant" "\\b(true|false|nullptr|NULL)\\b" .languageConstant 78,
     PatternRule.compile? "this" "\\bthis\\b" .selfVariable 77,
     PatternRule.compile? "type" (wholeWords
        ["size_t", "ptrdiff_t", "intptr_t", "uintptr_t", "int8_t", "int16_t", "int32_t", "int64_t",
         "uint8_t", "uint16_t", "uint32_t", "uint64_t", "FILE"]) .supportType 75,
     PatternRule.compile? "function" "\\b[A-Za-z_][A-Za-z0-9_]*\\(" .function 70,
     PatternRule.compile? "hex" "\\b0[xX][0-9a-fA-F]+[uUlL]*\\b" .number 65,
     PatternRule.compile? "float" "\\b\\d+\\.\\d*(?:[eE][+-]?\\d+)?[fFlL]?\\b" .number 64,
     PatternRule.compile? "float2" "\\b\\d*\\.\\d+(?:[eE][+-]?\\d+)?[fFlL]?\\b" .number 64,
     PatternRule.compile? "integer" "\\b\\d+[uUlL]*\\b" .number 63,
     PatternRule.compile? "operator" "[+\\-*/%&|^!<>=~?:]+" .operator 40]

end Highlight.Language
