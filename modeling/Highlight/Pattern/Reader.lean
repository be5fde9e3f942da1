import Highlight.Pattern.Basic
import Highlight.Text.Hex

/-!
# Reading patterns from text

The written form of patterns: literals, `.`, bracketed sets with ranges, negation and set
operations, groups with optional mode letters, alternatives, repetitions with `?`, `*`, `+` and
counts (reluctant with a further `?`), the places `^`, `$`, `\b` and their relatives. A closing
bracket or brace without an opening one stands for itself.

Reading refuses what has no meaning here, and says why: look-around and back references, a
repetition of nothing, counts that are missing, too large or in the wrong order, ranges in the wrong
order, brackets that do not pair, unknown escapes and unknown modes. Where the mode knows ASCII
characters only, it refuses what would match part of another character.

Alternatives that begin with the same parts are read as these parts with the alternatives behind
them, so that `a*a|a*b` is `a*(?:a|b)`: a part that can match in several ways is tried once, and the
alternatives at each place where it ends. Parts that remember what they match are never the same.

Every reader consumes its input from the front; the `fuel` of the recursive ones bounds the nesting,
and the length of the text is always enough.
-/

namespace Highlight

/-- Why a text is no pattern. -/
inductive PatternError where
  | unclosedGroup
  | unopenedGroup
  | lookAround
  | badGroupName
  | badMode
  | nothingToRepeat
  | badCount
  | unclosedSet
  | badRange
  | badEscape
  /-- The pattern would match part of a character. -/
  | noText
  | tooLarge
deriving Repr, DecidableEq

/-- Modes that a group can switch. -/
structure Mode where
  /-- Letters match without regard to case. -/
  caseless : Bool := false
  /-- `^` and `$` also match at the edges of inner lines. -/
  innerLines : Bool := false
  /-- `.` also matches a line feed. -/
  dotAll : Bool := false
  /-- Repetitions are reluctant unless marked. -/
  reluctant : Bool := false
  /-- Sets, word edges and case know the ASCII characters only. -/
  ascii : Bool := false

/-- The character is not an ASCII character. -/
def beyondAscii (c : Char) : Bool := 0x7F < c.toNat

/-- What an escape stands for. -/
inductive Escape where
  | char (c : Char)
  | set (s : CharSet)
  | assert (a : Assertion)

namespace Pattern

/-- A code point: `width` digits, or any number of them in braces. -/
def readCode (width : Nat) (cs : List Char) : Except PatternError (Escape × List Char) :=
  match cs with
  | '\x7b' :: inner =>
    let digits := inner.takeWhile (· != '\x7d')
    match Hex.number? digits >>= Hex.charOfCode?, inner.dropWhile (· != '\x7d') with
    | some c, _ :: rest => .ok (.char c, rest)
    | _, _ => .error .badEscape
  | _ =>
    if cs.length < width then .error .badEscape
    else match Hex.number? (cs.take width) >>= Hex.charOfCode? with
      | some c => .ok (.char c, cs.drop width)
      | none => .error .badEscape

/-- The kinds of word edge that can be named in braces. -/
def wordPlaceNamed? (name : List Char) : Option WordPlace :=
  if name == ['s', 't', 'a', 'r', 't'] then some .start
  else if name == ['e', 'n', 'd'] then some .stop
  else if name == ['s', 't', 'a', 'r', 't', '-', 'h', 'a', 'l', 'f'] then some .startHalf
  else if name == ['e', 'n', 'd', '-', 'h', 'a', 'l', 'f'] then some .stopHalf
  else none

/-- A word edge, possibly with its kind in braces; braces around anything but a name are a
repetition. -/
def readWordEdge (ascii : Bool) (cs : List Char) : Except PatternError (Escape × List Char) :=
  let nameChar (c : Char) : Bool := c.isAlpha || c == '-'
  match cs with
  | ['\x7b'] => .error .badEscape
  | '\x7b' :: c :: inner =>
    if nameChar c then
      let name := (c :: inner).takeWhile nameChar
      match wordPlaceNamed? name, (c :: inner).dropWhile nameChar with
      | some place, '\x7d' :: rest => .ok (.assert (.word place ascii), rest)
      | _, _ => .error .badEscape
    else .ok (.assert (.word .edge ascii), cs)
  | _ => .ok (.assert (.word .edge ascii), cs)

/-- Characters that an escape makes literal: those that are neither letters, digits nor angle
brackets. -/
def escapable (c : Char) : Bool :=
  c.toNat < 0x80 && !c.isAlphanum && c != '<' && c != '>'

/-- Set of the ASCII characters for which the test holds, as the union of its members. -/
def asciiSet (test : Char → Bool) : CharSet :=
  ((List.range 128).map Char.ofNat).foldl
    (fun s c => if test c then .union s (.single c) else s) .empty

/-- The character is a blank of ASCII. -/
def asciiSpace (c : Char) : Bool := c == ' ' || (0x9 ≤ c.toNat && c.toNat ≤ 0xD)

/-- The character is a word character of ASCII. -/
def asciiWord (c : Char) : Bool := c.isAlphanum || c == '_'

/-- A code point of two digits, which stands for a byte where the mode knows ASCII only. -/
def readByte (ascii : Bool) (cs : List Char) : Except PatternError (Escape × List Char) := do
  match ← readCode 2 cs with
  | (.char c, rest) =>
    if ascii && cs.head? != some '\x7b' && beyondAscii c then throw .noText
    else return (.char c, rest)
  | answer => return answer

/-- A set by its letter, or the characters that are not in it. -/
def readClass (ascii negated : Bool) (set : CharSet) (test : Char → Bool) (rest : List Char) :
    Except PatternError (Escape × List Char) :=
  match ascii, negated with
  | false, false => .ok (.set set, rest)
  | false, true => .ok (.set (.compl set), rest)
  | true, false => .ok (.set (asciiSet test), rest)
  | true, true => .error .noText

/-- Reads an escape after its backslash. -/
def readEscape (ascii : Bool) (cs : List Char) : Except PatternError (Escape × List Char) :=
  match cs with
  | [] => .error .badEscape
  | 'x' :: rest => readByte ascii rest
  | 'u' :: rest => readCode 4 rest
  | 'U' :: rest => readCode 8 rest
  | 'd' :: rest => readClass ascii false .digit Char.isDigit rest
  | 'D' :: rest => readClass ascii true .digit Char.isDigit rest
  | 's' :: rest => readClass ascii false .blank asciiSpace rest
  | 'S' :: rest => readClass ascii true .blank asciiSpace rest
  | 'w' :: rest => readClass ascii false .word asciiWord rest
  | 'W' :: rest => readClass ascii true .word asciiWord rest
  | 'a' :: rest => .ok (.char '\x07', rest)
  | 'f' :: rest => .ok (.char '\x0c', rest)
  | 't' :: rest => .ok (.char '\t', rest)
  | 'n' :: rest => .ok (.char '\n', rest)
  | 'r' :: rest => .ok (.char '\r', rest)
  | 'v' :: rest => .ok (.char '\x0b', rest)
  | 'A' :: rest => .ok (.assert .textStart, rest)
  | 'z' :: rest => .ok (.assert .textEnd, rest)
  | 'B' :: rest => .ok (.assert (.word .noEdge ascii), rest)
  | 'b' :: rest => readWordEdge ascii rest
  | '<' :: rest => .ok (.assert (.word .start ascii), rest)
  | '>' :: rest => .ok (.assert (.word .stop ascii), rest)
  | c :: rest => if escapable c then .ok (.char c, rest) else .error .badEscape

/-! ## Bracketed sets -/

/-- The named ASCII sets. -/
def asciiNamed? (name : List Char) : Option CharSet :=
  let blank (c : Char) : Bool := c == ' ' || c == '\t'
  let graph (c : Char) : Bool := 0x21 ≤ c.toNat && c.toNat ≤ 0x7E
  match String.ofList name with
  | "alnum" => some (asciiSet Char.isAlphanum)
  | "alpha" => some (asciiSet Char.isAlpha)
  | "ascii" => some (asciiSet fun _ => true)
  | "blank" => some (asciiSet blank)
  | "cntrl" => some (asciiSet fun c => c.toNat < 0x20 || c.toNat == 0x7F)
  | "digit" => some (asciiSet Char.isDigit)
  | "graph" => some (asciiSet graph)
  | "lower" => some (asciiSet Char.isLower)
  | "print" => some (asciiSet fun c => graph c || c == ' ')
  | "punct" => some (asciiSet fun c => graph c && !c.isAlphanum)
  | "space" => some (asciiSet asciiSpace)
  | "upper" => some (asciiSet Char.isUpper)
  | "word" => some (asciiSet asciiWord)
  | "xdigit" => some (asciiSet fun c => (Hex.digit? c).isSome)
  | _ => none

/-- A named ASCII set after its opening bracket, such as `:alpha:]` or `:^digit:]`, and whether it
is negated. -/
def readNamedSet? (cs : List Char) : Option (CharSet × Bool × List Char) :=
  match cs with
  | ':' :: inner =>
    let negated := inner.head? == some '^'
    let inner := if negated then inner.drop 1 else inner
    match asciiNamed? (inner.takeWhile (· != ':')), inner.dropWhile (· != ':') with
    | some s, ':' :: ']' :: rest => some (s, negated, rest)
    | _, _ => none
  | _ => none

/-- One member of a bracketed set: a character or an escape. -/
def readMember (ascii : Bool) (cs : List Char) : Except PatternError (Escape × List Char) := do
  let (member, rest) ←
    match cs with
    | [] => .error .unclosedSet
    | '\\' :: rest => readEscape ascii rest
    | c :: rest => .ok (.char c, rest)
  match member with
  | .char c => if ascii && beyondAscii c then throw .noText else return (member, rest)
  | _ => return (member, rest)

/-- A member as a set; places have no members. -/
def memberSet (e : Escape) : Except PatternError CharSet :=
  match e with
  | .char c => .ok (.single c)
  | .set s => .ok s
  | .assert _ => .error .badEscape

/-- A member or a range of characters. A dash before the closing bracket or another dash makes no
range. -/
def readRange (ascii : Bool) (cs : List Char) : Except PatternError (CharSet × List Char) := do
  let (low, rest) ← readMember ascii cs
  let single : Except PatternError (CharSet × List Char) := do return (← memberSet low, rest)
  match rest with
  | '-' :: ']' :: _ => single
  | '-' :: '-' :: _ => single
  | '-' :: more =>
    let (high, rest) ← readMember ascii more
    match low, high with
    | .char a, .char b => if a ≤ b then return (.range a b, rest) else throw .badRange
    | _, _ => throw .badRange
  | _ => single

/-- Operations between the parts of a bracketed set, all of one strength and read from the left. -/
inductive SetOperation where
  | inter
  | diff
  | symmDiff

/-- The part read last, joined to what stands before it. -/
def joinSets (earlier : Option (SetOperation × CharSet)) (last : CharSet) : CharSet :=
  match earlier with
  | none => last
  | some (.inter, s) => .inter s last
  | some (.diff, s) => s.diff last
  | some (.symmDiff, s) => s.symmDiff last

/-- The set with all case variants of its members, when case is to be ignored. -/
def variants (mode : Mode) (s : CharSet) : CharSet :=
  if !mode.caseless then s
  else if mode.ascii then .inter (.caseless s) (.range '\x00' '\x7f')
  else .caseless s

/-- The set, or the characters that are not in it. -/
def negate (mode : Mode) (negated : Bool) (s : CharSet) : Except PatternError CharSet :=
  if !negated then .ok s else if mode.ascii then .error .noText else .ok (.compl s)

mutual
/-- A bracketed set after its opening bracket. A closing bracket in first place is a member. -/
def readSet : Nat → Mode → List Char → Except PatternError (CharSet × List Char)
  | 0, _, _ => .error .unclosedSet
  | fuel + 1, mode, cs => do
    let negated := cs.head? == some '^'
    let cs := if negated then cs.drop 1 else cs
    let dashes := cs.head? == some '-'
    let cs := cs.dropWhile (· == '-')
    let bracket := !dashes && cs.head? == some ']'
    let cs := if bracket then cs.drop 1 else cs
    let members : CharSet :=
      if dashes then .single '-' else if bracket then .single ']' else .empty
    let (s, rest) ← readSetBody fuel mode none members cs
    return (← negate mode negated s, rest)

/-- The rest of a bracketed set: `earlier` is joined to the members read since. -/
def readSetBody : Nat → Mode → Option (SetOperation × CharSet) → CharSet → List Char →
    Except PatternError (CharSet × List Char)
  | 0, _, _, _, _ => .error .unclosedSet
  | fuel + 1, mode, earlier, members, cs =>
    let joined := joinSets earlier (variants mode members)
    match cs with
    | [] => .error .unclosedSet
    | ']' :: rest => .ok (joined, rest)
    | '&' :: '&' :: rest => readSetBody fuel mode (some (.inter, joined)) .empty rest
    | '-' :: '-' :: rest => readSetBody fuel mode (some (.diff, joined)) .empty rest
    | '~' :: '~' :: rest => readSetBody fuel mode (some (.symmDiff, joined)) .empty rest
    | '[' :: rest =>
      match readNamedSet? rest with
      | some (s, negated, rest) => do
        readSetBody fuel mode earlier (.union members (← negate mode negated s)) rest
      | none => do
        let (s, rest) ← readSet fuel mode rest
        readSetBody fuel mode earlier (.union members s) rest
    | _ => do
      let (s, rest) ← readRange mode.ascii cs
      readSetBody fuel mode earlier (.union members s) rest
end

/-! ## Repetitions -/

/-- The greatest count that can be written. -/
def maxCount : Nat := 4294967295

/-- A count with blanks around it; `none` without digits. -/
def readCount (cs : List Char) : Except PatternError (Option Nat × List Char) :=
  let cs := cs.dropWhile Unicode.isBlank
  let digits := cs.takeWhile Char.isDigit
  let rest := (cs.dropWhile Char.isDigit).dropWhile Unicode.isBlank
  let value := digits.foldl (fun n c => n * 10 + (c.toNat - '0'.toNat)) 0
  if digits.isEmpty then .ok (none, rest)
  else if value ≤ maxCount then .ok (some value, rest)
  else .error .badCount

/-- A counted repetition after its opening brace. -/
def readCounts (cs : List Char) : Except PatternError (Nat × Option Nat × List Char) := do
  match ← readCount cs with
  | (some least, '\x7d' :: rest) => return (least, some least, rest)
  | (some least, ',' :: '\x7d' :: rest) => return (least, none, rest)
  | (some least, ',' :: more) =>
    match ← readCount more with
    | (some most, '\x7d' :: rest) =>
      if least ≤ most then return (least, some most, rest) else throw .badCount
    | _ => throw .badCount
  | _ => throw .badCount

/-- The repetition operator at the front of the text, with the mark that turns its preference
around. -/
def readRepetition? (mode : Mode) (cs : List Char) :
    Option (Except PatternError (Repetition × List Char)) :=
  let marked (least : Nat) (most : Option Nat) (rest : List Char) : Repetition × List Char :=
    match rest with
    | '?' :: rest => (⟨least, most, mode.reluctant⟩, rest)
    | _ => (⟨least, most, !mode.reluctant⟩, rest)
  match cs with
  | '?' :: rest => some (.ok (marked 0 (some 1) rest))
  | '*' :: rest => some (.ok (marked 0 none rest))
  | '+' :: rest => some (.ok (marked 1 none rest))
  | '\x7b' :: rest => some do
    let (least, most, rest) ← readCounts rest
    return marked least most rest
  | _ => none

/-! ## Groups -/

/-- Sets one mode letter; unknown letters are refused. -/
def setMode (on : Bool) (mode : Mode) (c : Char) : Except PatternError Mode :=
  match c with
  | 'i' => .ok { mode with caseless := on }
  | 'm' => .ok { mode with innerLines := on }
  | 's' => .ok { mode with dotAll := on }
  | 'U' => .ok { mode with reluctant := on }
  | 'u' => .ok { mode with ascii := !on }
  | _ => .error .badMode

/-- The letter occurs twice. -/
def repeatsLetter : List Char → Bool
  | [] => false
  | c :: cs => cs.contains c || repeatsLetter cs

/-- Mode letters up to a colon or a closing parenthesis; letters after a dash are switched off. The
answer says whether any letter was written and which of the two ended the letters. -/
def readModes (mode : Mode) (cs : List Char) :
    Except PatternError (Mode × Bool × Char × List Char) := do
  let stops (c : Char) : Bool := c == ':' || c == ')'
  let written := cs.takeWhile fun c => !stops c
  let on := written.takeWhile (· != '-')
  let off := written.dropWhile (· != '-')
  if repeatsLetter (on ++ off.drop 1) || off.drop 1 == [] && off != [] then throw .badMode
  let mode ← on.foldlM (setMode true) mode
  let mode ← (off.drop 1).foldlM (setMode false) mode
  match cs.dropWhile fun c => !stops c with
  | stop :: rest => return (mode, !written.isEmpty, stop, rest)
  | [] => throw .badMode

/-- What an opening parenthesis starts. -/
inductive GroupHead where
  /-- A group with its own mode; it may remember what it matches. -/
  | group (mode : Mode) (remembers : Bool)
  /-- A switch of mode up to the end of the surrounding group. -/
  | switch (mode : Mode)

/-- A group's name after its opening angle bracket. -/
def readGroupName (cs : List Char) : Except PatternError (List Char) :=
  let first (c : Char) : Bool := c == '_' || (Unicode.isWord c && !Unicode.isDigit c)
  let later (c : Char) : Bool := Unicode.isWord c || c == '.' || c == '[' || c == ']'
  match cs with
  | c :: more =>
    match first c, more.dropWhile later with
    | true, '>' :: rest => .ok rest
    | _, _ => .error .badGroupName
  | [] => .error .badGroupName

/-- Reads a group's head after the opening parenthesis. -/
def readGroupHead (mode : Mode) (cs : List Char) : Except PatternError (GroupHead × List Char) := do
  match cs with
  | '?' :: '=' :: _ | '?' :: '!' :: _ | '?' :: '<' :: '=' :: _ | '?' :: '<' :: '!' :: _ =>
    throw .lookAround
  | '?' :: 'P' :: '<' :: rest | '?' :: '<' :: rest =>
    return (.group mode true, ← readGroupName rest)
  | '?' :: rest =>
    let (switched, some?, stop, rest) ← readModes mode rest
    if stop == ':' then return (.group switched false, rest)
    else if some? then return (.switch switched, rest)
    else throw .nothingToRepeat
  | _ => return (.group mode true, cs)

/-! ## Whole patterns -/

/-- The patterns one after another. -/
def concat : List Pattern → Pattern
  | [] => .empty
  | [p] => p
  | p :: ps => .seq p (concat ps)

/-- Every two neighbours as alternatives. -/
def pairUp : List Pattern → List Pattern
  | a :: b :: ps => .alt a b :: pairUp ps
  | ps => ps

theorem length_pairUp_le (ps : List Pattern) : (pairUp ps).length ≤ ps.length := by
  fun_induction pairUp ps with
  | case1 a b ps ih => exact Nat.succ_le_succ (Nat.le_succ_of_le ih)
  | case2 => exact Nat.le_refl _

/-- The patterns as alternatives, the first preferred. They are paired up until one is left, so that
no alternative lies behind more branchings than it has to. -/
def anyOf : List Pattern → Pattern
  | [] => .empty
  | [p] => p
  | a :: b :: ps => anyOf (.alt a b :: pairUp ps)
termination_by ps => ps.length
decreasing_by exact Nat.succ_lt_succ (Nat.lt_succ_of_le (length_pairUp_le ps))

/-- The pattern that matches exactly the given characters. -/
def literal (cs : List Char) : Pattern := concat (cs.map fun c => .set (.single c))

/-- A part of a sequence. -/
structure Part where
  pattern : Pattern
  /-- A group in the part remembers what it matches. -/
  remembers : Bool := false

/-- The parts are written alike, and neither remembers what it matches. -/
def Part.alike (a b : Part) : Bool := !a.remembers && !b.remembers && a.pattern == b.pattern

/-- One of the parts remembers what it matches. -/
def remember (parts : List Part) : Bool := parts.any (·.remembers)

/-- The parts one after another. -/
def sequence (parts : List Part) : Pattern := concat (parts.map (·.pattern))

/-- The parts that both sequences begin with. -/
def commonStart : List Part → List Part → List Part
  | a :: as, b :: bs => if a.alike b then a :: commonStart as bs else []
  | _, _ => []

/-- The parts of a group with the given alternatives. What all of them begin with is put in front,
if each has two parts or more. -/
def joinAlternatives : List (List Part) → List Part
  | [] => []
  | [parts] => parts
  | first :: others =>
    let all := first :: others
    let start := if all.all (2 ≤ ·.length) then others.foldl commonStart first else []
    let behind := all.map (·.drop start.length)
    start ++ [⟨anyOf (behind.map sequence), behind.any remember⟩]

/-- The parts of a repetition; one round is the repeated parts themselves. -/
def repeatParts (parts : List Part) (r : Repetition) : List Part :=
  if r.atLeast = 1 ∧ r.atMost = some 1 then parts
  else [⟨.many (sequence parts) r, remember parts⟩]

/-- The parts of a group. -/
def groupParts (remembers : Bool) (parts : List Part) : List Part :=
  if remembers then [⟨sequence parts, true⟩] else parts

/-- The set for a character that stands for itself. -/
def charPart (mode : Mode) (c : Char) : Part :=
  if mode.ascii && beyondAscii c then ⟨.set (.single c), false⟩
  else ⟨.set (variants mode (.single c)), false⟩

/-- The part for an escape outside brackets. -/
def escapePart (mode : Mode) (e : Escape) : Part :=
  match e with
  | .char c => charPart mode c
  | .set s => ⟨.set s, false⟩
  | .assert a => ⟨.assert a, false⟩

/-- The part for a character that stands for itself or for a place. -/
def plainPart (mode : Mode) (c : Char) : Except PatternError Part :=
  match c with
  | '.' =>
    if mode.ascii then .error .noText
    else .ok ⟨.set (if mode.dotAll then .compl .empty else .compl (.single '\n')), false⟩
  | '^' => .ok ⟨.assert (if mode.innerLines then .lineStart else .textStart), false⟩
  | '$' => .ok ⟨.assert (if mode.innerLines then .lineEnd else .textEnd), false⟩
  | c => .ok (charPart mode c)

/-- The parts of what can be repeated, or nothing where the mode was switched. -/
abbrev Item := Option (List Part)

/-- The parts of an alternative, whose items are given newest first. -/
def itemParts (items : List Item) : List Part := (items.reverse.filterMap id).flatten

/-- Reads alternatives up to the end of the text or an unpaired closing parenthesis, which is left
in place. `done` holds the finished alternatives and `items` the items of the current one, newest
first. -/
def readAlternatives : Nat → Mode → List (List Part) → List Item → List Char →
    Except PatternError (List Part × List Char)
  | 0, _, _, _, _ => .error .tooLarge
  | fuel + 1, mode, done, items, cs =>
    let close := joinAlternatives (itemParts items :: done).reverse
    match readRepetition? mode cs with
    | some found => do
      let (repetition, rest) ← found
      match items with
      | some parts :: items =>
        readAlternatives fuel mode done (some (repeatParts parts repetition) :: items) rest
      | _ => throw .nothingToRepeat
    | none =>
      match cs with
      | [] => .ok (close, [])
      | ')' :: _ => .ok (close, cs)
      | '|' :: rest => readAlternatives fuel mode (itemParts items :: done) [] rest
      | '(' :: rest => do
        match ← readGroupHead mode rest with
        | (.switch mode, rest) => readAlternatives fuel mode done (none :: items) rest
        | (.group inner remembers, rest) =>
          match ← readAlternatives fuel inner [] [] rest with
          | (parts, ')' :: rest) =>
            readAlternatives fuel mode done (some (groupParts remembers parts) :: items) rest
          | _ => throw .unclosedGroup
      | '[' :: rest => do
        let (s, rest) ← readSet fuel mode rest
        readAlternatives fuel mode done (some [⟨.set s, false⟩] :: items) rest
      | '\\' :: rest => do
        let (e, rest) ← readEscape mode.ascii rest
        readAlternatives fuel mode done (some [escapePart mode e] :: items) rest
      | c :: rest => do
        readAlternatives fuel mode done (some [← plainPart mode c] :: items) rest

/-- Number of steps of a pattern with every repetition written out. -/
def weight : Pattern → Nat
  | .empty | .set _ | .assert _ => 1
  | .seq a b | .alt a b => a.weight + b.weight
  | .many p r => p.weight * max 1 (max r.atLeast (r.atMost.getD 1))

/-- The greatest weight that is accepted. -/
def maxWeight : Nat := 262144

/-- Reads a pattern from its written form. -/
def parse (text : String) : Except PatternError Pattern := do
  let cs := text.toList
  match ← readAlternatives (2 * cs.length + 2) {} [] [] cs with
  | (parts, []) =>
    let p := sequence parts
    if p.weight ≤ maxWeight then return p else throw .tooLarge
  | _ => throw .unopenedGroup

/-- Reads a pattern, forgetting why a text is none. -/
def parse? (text : String) : Option Pattern := (parse text).toOption

end Pattern

end Highlight
