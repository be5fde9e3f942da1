/-!
# Kinds of lexical scope

The categories a language assigns to the text its rules find. A kind has a fixed stem, and a
language appends its own suffix as the last segment of the scope name.
-/

namespace Highlight

/-- What a rule of a language recognises. -/
inductive ScopeKind where
  | lineComment
  | blockComment
  | docComment
  | doubleString
  | singleString
  | tripleString
  | rawString
  | character
  | number
  | languageConstant
  | otherConstant
  | controlKeyword
  | keyword
  | operator
  | supportType
  | typeName
  | function
  | supportFunction
  | macroName
  | preprocessor
  | attribute
  | lifetime
  | selfVariable
  | section
  | key
  | heading
  | bold
  | italic
  | inlineCode
  | fencedCode
  | link
  | quote
  | listMarker
  | strikethrough
deriving Repr, DecidableEq

namespace ScopeKind

/-- Every kind, in the order of declaration. -/
def all : List ScopeKind :=
  [.lineComment, .blockComment, .docComment, .doubleString, .singleString, .tripleString,
   .rawString, .character, .number, .languageConstant, .otherConstant, .controlKeyword, .keyword,
   .operator, .supportType, .typeName, .function, .supportFunction, .macroName, .preprocessor,
   .attribute, .lifetime, .selfVariable, .section, .key, .heading, .bold, .italic, .inlineCode,
   .fencedCode, .link, .quote, .listMarker, .strikethrough]

/-- The name under which a kind is asked for. -/
def label : ScopeKind → String
  | .lineComment => "LineComment"
  | .blockComment => "BlockComment"
  | .docComment => "DocComment"
  | .doubleString => "DoubleString"
  | .singleString => "SingleString"
  | .tripleString => "TripleString"
  | .rawString => "RawString"
  | .character => "Char"
  | .number => "Number"
  | .languageConstant => "LanguageConstant"
  | .otherConstant => "OtherConstant"
  | .controlKeyword => "ControlKeyword"
  | .keyword => "Keyword"
  | .operator => "Operator"
  | .supportType => "SupportType"
  | .typeName => "Type"
  | .function => "Function"
  | .supportFunction => "SupportFunction"
  | .macroName => "Macro"
  | .preprocessor => "Preprocessor"
  | .attribute => "Attribute"
  | .lifetime => "Lifetime"
  | .selfVariable => "SelfVariable"
  | .section => "Section"
  | .key => "Key"
  | .heading => "Heading"
  | .bold => "Bold"
  | .italic => "Italic"
  | .inlineCode => "InlineCode"
  | .fencedCode => "FencedCode"
  | .link => "Link"
  | .quote => "Quote"
  | .listMarker => "ListMarker"
  | .strikethrough => "Strikethrough"

/-- The kind with this label. -/
def ofLabel? (label : String) : Option ScopeKind := all.find? (·.label == label)

/-- Leading segments of the kind's scope name. -/
def stem : ScopeKind → String
  | .lineComment => "comment.line"
  | .blockComment => "comment.block"
  | .docComment => "comment.line.documentation"
  | .doubleString => "string.quoted.double"
  | .singleString => "string.quoted.single"
  | .tripleString => "string.quoted.triple"
  | .rawString => "string.quoted.other.raw"
  | .character => "constant.character"
  | .number => "constant.numeric"
  | .languageConstant => "constant.language"
  | .otherConstant => "constant.other"
  | .controlKeyword => "keyword.control"
  | .keyword => "keyword.other"
  | .operator => "keyword.operator"
  | .supportType => "support.type"
  | .typeName => "entity.name.type"
  | .function => "entity.name.function"
  | .supportFunction => "support.function"
  | .macroName => "entity.name.function.macro"
  | .preprocessor => "meta.preprocessor"
  | .attribute => "meta.attribute"
  | .lifetime => "storage.modifier.lifetime"
  | .selfVariable => "variable.language"
  | .section => "entity.name.section"
  | .key => "variable.other.key"
  | .heading => "markup.heading"
  | .bold => "markup.bold"
  | .italic => "markup.italic"
  | .inlineCode => "markup.inline.raw"
  | .fencedCode => "markup.fenced_code.block"
  | .link => "markup.underline.link"
  | .quote => "markup.quote"
  | .listMarker => "punctuation.definition.list"
  | .strikethrough => "markup.strikethrough"

/-- Scope name of the kind in a language with the given suffix; without a suffix it is the stem. -/
def scope (kind : ScopeKind) (suffix : String) : String :=
  if suffix.isEmpty then kind.stem else kind.stem ++ "." ++ suffix

end ScopeKind

end Highlight
