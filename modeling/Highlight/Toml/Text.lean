import Highlight.Text.Hex

/-!
# Texts in TOML

TOML has four sorts of string: basic and literal, each on one line or on several. Basic strings know
escapes, literal strings none. A line break in a string of several lines counts as one line feed;
one directly after the opening quotes does not count, nor does one after a backslash, together with
all blanks that follow it.
-/

namespace Highlight.Toml

/-- A space or a tab. -/
def isSpace (c : Char) : Bool := c == ' ' || c == '\t'

/-- A character that may stand as it is in comments and in strings: a tab, or any that is no control
character. -/
def isPlain (c : Char) : Bool := c == '\t' || (0x20 ≤ c.toNat && c.toNat != 0x7F)

/-- A line break at the front of the text: what follows it. -/
def lineBreak? : List Char → Option (List Char)
  | '\n' :: rest => some rest
  | '\r' :: '\n' :: rest => some rest
  | _ => none

/-- The text after a line break at its front, if there is one. -/
def skipLineBreak (cs : List Char) : List Char := (lineBreak? cs).getD cs

/-- The character of an escape of one letter. -/
def shortEscape? (c : Char) : Option Char :=
  match c with
  | '\x22' => some '\x22'
  | '\\' => some '\\'
  | 'b' => some '\x08'
  | 'f' => some '\x0c'
  | 'n' => some '\n'
  | 'r' => some '\r'
  | 't' => some '\t'
  | _ => none

/-- A code point of exactly `width` hexadecimal digits. -/
def codePoint? (width : Nat) (cs : List Char) : Option (Char × List Char) := do
  let digits := cs.take width
  if digits.length < width then none
  else
    let c ← Hex.number? digits >>= Hex.charOfCode?
    return (c, cs.drop width)

/-- An escape after its backslash. -/
def escape? (cs : List Char) : Option (Char × List Char) :=
  match cs with
  | 'u' :: rest => codePoint? 4 rest
  | 'U' :: rest => codePoint? 8 rest
  | c :: rest => (shortEscape? c).map fun c => (c, rest)
  | [] => none

/-- A basic string after its opening quote; `read` is newest first. -/
def basicText? : Nat → List Char → List Char → Option (List Char × List Char)
  | 0, _, _ => none
  | fuel + 1, read, cs =>
    match cs with
    | [] => none
    | '\x22' :: rest => some (read.reverse, rest)
    | '\\' :: rest => do
      let (c, rest) ← escape? rest
      basicText? fuel (c :: read) rest
    | c :: rest => if isPlain c then basicText? fuel (c :: read) rest else none

/-- A literal string after its opening quote. -/
def literalText? (cs : List Char) : Option (List Char × List Char) :=
  let body := cs.takeWhile fun c => isPlain c && c != '\x27'
  match cs.drop body.length with
  | '\x27' :: rest => some (body, rest)
  | _ => none

/-- The end of a string of several lines, if the text begins with at least three of its quotes: up
to two more belong to the string. -/
def closingQuotes? (quote : Char) (cs : List Char) : Option (List Char × List Char) :=
  let quotes := (cs.takeWhile (· == quote)).length
  if quotes < 3 then none
  else
    let inside := min (quotes - 3) 2
    some (List.replicate inside quote, cs.drop (inside + 3))

/-- The text after the blanks and line breaks at its front. -/
def skipBlankLines : List Char → List Char
  | [] => []
  | '\r' :: '\n' :: rest => skipBlankLines rest
  | c :: rest => if isSpace c || c == '\n' then skipBlankLines rest else c :: rest

/-- A basic string of several lines after its opening quotes; `read` is newest first. -/
def basicLines? : Nat → List Char → List Char → Option (List Char × List Char)
  | 0, _, _ => none
  | fuel + 1, read, cs =>
    match closingQuotes? '\x22' cs with
    | some (inside, rest) => some (read.reverse ++ inside, rest)
    | none =>
      match cs with
      | [] => none
      | '\\' :: rest =>
        match lineBreak? (rest.dropWhile isSpace) with
        | some rest => basicLines? fuel read (skipBlankLines rest)
        | none => do
          let (c, rest) ← escape? rest
          basicLines? fuel (c :: read) rest
      | c :: rest =>
        match lineBreak? cs with
        | some rest => basicLines? fuel ('\n' :: read) rest
        | none => if isPlain c then basicLines? fuel (c :: read) rest else none

/-- A literal string of several lines after its opening quotes; `read` is newest first. -/
def literalLines? : Nat → List Char → List Char → Option (List Char × List Char)
  | 0, _, _ => none
  | fuel + 1, read, cs =>
    match closingQuotes? '\x27' cs with
    | some (inside, rest) => some (read.reverse ++ inside, rest)
    | none =>
      match cs with
      | [] => none
      | c :: rest =>
        match lineBreak? cs with
        | some rest => literalLines? fuel ('\n' :: read) rest
        | none => if isPlain c then literalLines? fuel (c :: read) rest else none

/-- A string of any sort; `none` when the text begins with no quote. -/
def text? (cs : List Char) : Option (String × List Char) := do
  let fuel := cs.length + 1
  let (chars, rest) ←
    match cs with
    | '\x22' :: '\x22' :: '\x22' :: rest => basicLines? fuel [] (skipLineBreak rest)
    | '\x27' :: '\x27' :: '\x27' :: rest => literalLines? fuel [] (skipLineBreak rest)
    | '\x22' :: rest => basicText? fuel [] rest
    | '\x27' :: rest => literalText? rest
    | _ => none
  return (String.ofList chars, rest)

/-- A string on one line; such strings may be keys. -/
def lineText? (cs : List Char) : Option (String × List Char) := do
  let (chars, rest) ←
    match cs with
    | '\x22' :: rest => basicText? (cs.length + 1) [] rest
    | '\x27' :: rest => literalText? rest
    | _ => none
  return (String.ofList chars, rest)

end Highlight.Toml
