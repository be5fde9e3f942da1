import Highlight.Language.Basic

/-!
# Markdown

Markdown. A fence of three back-quotes at the start of a line opens and closes a code block.
-/

namespace Highlight.Language

/-- The built-in language `markdown`. -/
def markdown : Language :=
  addRules
    { new "markdown" "Markdown" "markdown" with
      extensions := ["md", "markdown", "mkd"]
      aliases := ["md"]
      scopeName := "text.html.markdown" }
    [Construct.compile? "code_block" "^```" "^```" .fencedCode 1 none]
    [PatternRule.compile? "heading" "^#\x7b1,6\x7d\\s+.*$" .heading 100,
     PatternRule.compile? "bold" "\\*\\*[^*]+\\*\\*" .bold 90,
     PatternRule.compile? "bold2" "__[^_]+__" .bold 90,
     PatternRule.compile? "inline_code" "`[^`]+`" .inlineCode 88,
     PatternRule.compile? "italic" "\\*[^*\\s][^*]*\\*" .italic 85,
     PatternRule.compile? "italic2" "\\b_[^_]+_\\b" .italic 85,
     PatternRule.compile? "image" "!\\[[^\\]]*\\]\\([^)]+\\)" .link 81,
     PatternRule.compile? "link" "\\[[^\\]]+\\]\\([^)]+\\)" .link 80,
     PatternRule.compile? "ref_link" "\\[[^\\]]+\\]\\[[^\\]]*\\]" .link 79,
     PatternRule.compile? "blockquote" "^>\\s+.*$" .quote 75,
     PatternRule.compile? "hr" "^(?:---+|\\*\\*\\*+|___+)\\s*$" .listMarker 70,
     PatternRule.compile? "list" "^\\s*[-*+]\\s" .listMarker 65,
     PatternRule.compile? "numbered_list" "^\\s*\\d+\\.\\s" .listMarker 65,
     PatternRule.compile? "strikethrough" "~~[^~]+~~" .strikethrough 60]

end Highlight.Language
