/-!
# Shell scripts

Short scripts of the command shell: simple commands with quoting, parameters, command substitution
and redirection, joined by `;`, `&&`, `||` and line ends. This module reads a script into commands;
`Shell` runs them.
-/

namespace Highlight.Script

/-- A piece of a word. -/
inductive Piece where
  /-- Text that stands for itself. -/
  | text (cs : List Char)
  /-- The value of a parameter. Unquoted, it is split at blanks. -/
  | parameter (name : List Char) (quoted : Bool)
  /-- The output of a script. Unquoted, it is split at blanks. -/
  | output (script : List Char) (quoted : Bool)
deriving Repr, DecidableEq

/-- Pieces that stand together without a blank. -/
abbrev Word := List Piece

/-- What stands in a script beside the words. -/
inductive Part where
  | word (w : Word)
  /-- Channel `source` goes where channel `target` goes. -/
  | duplicate (source target : Nat)
  /-- Channel `source` goes to a file. -/
  | toFile (source : Nat)
  | always
  | andThen
  | orElse
deriving Repr, DecidableEq

/-- Condition under which a command runs: any, or that the last one succeeded or failed. -/
inductive Join where
  | always
  | andThen
  | orElse
deriving Repr, DecidableEq

/-- One command: its words, and where its channels go. -/
structure Step where
  join : Join := .always
  words : List Word := []
  redirections : List (Nat × Option Nat) := []

/-- A character of a parameter's name. -/
def isNameChar (c : Char) : Bool := c.isAlphanum || c == '_'

/-- The text up to the parenthesis that closes a substitution, and what follows it. Parentheses
within quotes do not count. -/
def untilClose :
    (depth : Nat) → (quote : Option Char) → List Char → List Char → Option (List Char × List Char)
  | _, _, _, [] => none
  | depth, some q, seen, c :: cs => untilClose depth (if c = q then none else some q) (c :: seen) cs
  | depth, none, seen, c :: cs =>
    if c = ')' then
      match depth with
      | 0 => some (seen.reverse, cs)
      | depth + 1 => untilClose depth none (c :: seen) cs
    else if c = '(' then untilClose (depth + 1) none (c :: seen) cs
    else if c = '\x27' || c = '\x22' then untilClose depth (some c) (c :: seen) cs
    else untilClose depth none (c :: seen) cs

/-- The piece that a dollar sign starts, from what follows it. A dollar sign that starts nothing
stands for itself. -/
def dollar (quoted : Bool) (cs : List Char) : Option (Piece × List Char) :=
  match cs with
  | '(' :: rest =>
    (untilClose 0 none [] rest).map fun (script, rest) => (.output script quoted, rest)
  | '\x7b' :: rest =>
    match rest.dropWhile (· != '\x7d') with
    | [] => none
    | _ :: after => some (.parameter (rest.takeWhile (· != '\x7d')) quoted, after)
  | c :: rest =>
    if c.isDigit || c == '#' || c == '$' || c == '?' || c == '@' || c == '*' then
      some (.parameter [c] quoted, rest)
    else if isNameChar c then
      some (.parameter ((c :: rest).takeWhile isNameChar) quoted, (c :: rest).dropWhile isNameChar)
    else some (.text ['$'], c :: rest)
  | [] => some (.text ['$'], [])

/-- The pieces up to the closing double quote, and what follows it. -/
def quotedPieces : (fuel : Nat) → Word → List Char → Option (Word × List Char)
  | 0, _, _ => none
  | _ + 1, _, [] => none
  | fuel + 1, seen, c :: cs =>
    if c = '\x22' then some (seen, cs)
    else if c = '$' then
      (dollar true cs).bind fun (piece, rest) => quotedPieces fuel (piece :: seen) rest
    else if c = '\\' then
      match cs with
      | [] => none
      | d :: rest =>
        if d = '\n' then quotedPieces fuel seen rest
        else if d = '$' || d = '\x22' || d = '\\' || d = '\x60' then
          quotedPieces fuel (.text [d] :: seen) rest
        else quotedPieces fuel (.text ['\\', d] :: seen) rest
    else quotedPieces fuel (.text [c] :: seen) cs

/-- A character that ends a word. -/
def endsWord (c : Char) : Bool :=
  c == ' ' || c == '\t' || c == '\n' || c == ';' || c == '&' || c == '|' || c == '>' || c == '<' ||
    c == '(' || c == ')'

/-- The pieces of a word, last first, and what follows it. -/
def wordPieces : (fuel : Nat) → Word → List Char → Option (Word × List Char)
  | 0, _, _ => none
  | _ + 1, seen, [] => some (seen, [])
  | fuel + 1, seen, c :: cs =>
    if endsWord c then some (seen, c :: cs)
    else if c = '\x27' then
      match cs.dropWhile (· != '\x27') with
      | [] => none
      | _ :: rest => wordPieces fuel (.text (cs.takeWhile (· != '\x27')) :: seen) rest
    else if c = '\x22' then
      (quotedPieces fuel (.text [] :: seen) cs).bind fun (seen, rest) => wordPieces fuel seen rest
    else if c = '$' then
      (dollar false cs).bind fun (piece, rest) => wordPieces fuel (piece :: seen) rest
    else if c = '\\' then
      match cs with
      | [] => wordPieces fuel (.text ['\\'] :: seen) []
      | d :: rest => wordPieces fuel (if d = '\n' then seen else .text [d] :: seen) rest
    else wordPieces fuel (.text [c] :: seen) cs

/-- The redirection of channel `source` that a `>` starts, from what follows it. -/
def redirection (fuel source : Nat) (cs : List Char) : Option (Part × List Char) :=
  match cs with
  | '&' :: d :: rest =>
    if d.isDigit then some (.duplicate source (d.toNat - '0'.toNat), rest) else none
  | _ =>
    match wordPieces fuel [] (cs.dropWhile (· == ' ')) with
    | some (_ :: _, rest) => some (.toFile source, rest)
    | _ => none

/-- The parts of a script; `none` when it is malformed or uses more of the shell than this. -/
def parts : (fuel : Nat) → List Char → Option (List Part)
  | 0, _ => none
  | _ + 1, [] => some []
  | fuel + 1, c :: cs =>
    if c = ' ' || c = '\t' then parts fuel cs
    else if c = ';' || c = '\n' then (parts fuel cs).map (.always :: ·)
    else if c = '#' then parts fuel (cs.dropWhile (· != '\n'))
    else if c = '>' then
      (redirection fuel 1 cs).bind fun (r, rest) => (parts fuel rest).map (r :: ·)
    else if c.isDigit && cs.head? == some '>' then
      (redirection fuel (c.toNat - '0'.toNat) (cs.drop 1)).bind fun (r, rest) =>
        (parts fuel rest).map (r :: ·)
    else if endsWord c then
      match c, cs with
      | '&', '&' :: rest => (parts fuel rest).map (.andThen :: ·)
      | '|', '|' :: rest => (parts fuel rest).map (.orElse :: ·)
      | _, _ => none
    else
      (wordPieces fuel [] (c :: cs)).bind fun (seen, rest) =>
        (parts fuel rest).map (.word seen.reverse :: ·)

/-- Adds a part to the command that is being read, or starts the next command. -/
def addPart : List Step × Step → Part → List Step × Step
  | (done, s), .word w => (done, { s with words := s.words ++ [w] })
  | (done, s), .duplicate source target =>
    (done, { s with redirections := s.redirections ++ [(source, some target)] })
  | (done, s), .toFile source =>
    (done, { s with redirections := s.redirections ++ [(source, none)] })
  | (done, s), .always => (done ++ [s], {})
  | (done, s), .andThen => (done ++ [s], { join := .andThen })
  | (done, s), .orElse => (done ++ [s], { join := .orElse })

/-- The commands of a script. -/
def parse? (script : List Char) : Option (List Step) :=
  (parts (2 * script.length + 2) script).map fun ps =>
    let (done, last) := ps.foldl addPart ([], {})
    (done ++ [last]).filter fun s => !s.words.isEmpty

end Highlight.Script
