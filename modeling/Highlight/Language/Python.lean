import Highlight.Language.Basic

/-!
# Python

Python. String openers may carry one or two letters in front.
-/

namespace Highlight.Language

/-- The built-in language `python`. -/
def python : Language :=
  addRules
    { new "python" "Python" "python" with
      extensions := ["py", "pyw", "pyi"]
      aliases := ["py"] }
    [Construct.compile? "triple_double" "(?:\\b(?i:[rbuf]\x7b1,2\x7d))?\"\"\"" "\"\"\""
      .tripleString 1 none,
     Construct.compile? "triple_single" "(?:\\b(?i:[rbuf]\x7b1,2\x7d))?'''" "'''"
       .tripleString 2 none,
     Construct.compile? "double_string" "(?:\\b(?i:[rbuf]\x7b1,2\x7d))?\"" "\"" .doubleString 3
       (some '\\'),
     Construct.compile? "single_string" "(?:\\b(?i:[rbuf]\x7b1,2\x7d))?'" "'" .singleString 4
       (some '\\')]
    [PatternRule.compile? "comment" "#.*$" .lineComment 100,
     PatternRule.compile? "decorator" "@[\\w.]+" .attribute 95,
     PatternRule.compile? "control" (wholeWords
        ["break", "continue", "elif", "else", "except", "finally", "for", "if", "raise", "return",
         "try", "while", "with", "yield", "await", "pass"]) .controlKeyword 81,
     PatternRule.compile? "keyword" (wholeWords
        ["and", "as", "assert", "async", "class", "def", "del", "from", "global", "import", "in",
         "is", "lambda", "nonlocal", "not", "or"]) .keyword 80,
     PatternRule.compile? "constant" "\\b(True|False|None)\\b" .languageConstant 78,
     PatternRule.compile? "self" "\\b(self|cls)\\b" .selfVariable 77,
     PatternRule.compile? "builtin" (wholeWords
        ["abs", "all", "any", "ascii", "bin", "bool", "bytearray", "bytes", "callable", "chr",
         "classmethod", "compile", "complex", "delattr", "dict", "dir", "divmod", "enumerate",
         "eval", "exec", "filter", "float", "format", "frozenset", "getattr", "globals", "hasattr",
         "hash", "help", "hex", "id", "input", "int", "isinstance", "issubclass", "iter", "len",
         "list", "locals", "map", "max", "memoryview", "min", "next", "object", "oct", "open",
         "ord", "pow", "print", "property", "range", "repr", "reversed", "round", "set", "setattr",
         "slice", "sorted", "staticmethod", "str", "sum", "super", "tuple", "type", "vars",
         "zip"]) .supportFunction 75,
     PatternRule.compile? "function" "\\b[A-Za-z_]\\w*\\(" .function 70,
     PatternRule.compile? "hex" "\\b0[xX][0-9a-fA-F_]+\\b" .number 65,
     PatternRule.compile? "binary" "\\b0[bB][01_]+\\b" .number 65,
     PatternRule.compile? "octal" "\\b0[oO][0-7_]+\\b" .number 65,
     PatternRule.compile? "float" "\\b\\d[\\d_]*\\.\\d[\\d_]*(?:[eE][+-]?\\d+)?j?\\b" .number 64,
     PatternRule.compile? "integer" "\\b\\d[\\d_]*j?\\b" .number 63,
     PatternRule.compile? "operator" "[+\\-*/%&|^!<>=@~]+" .operator 40]

end Highlight.Language
