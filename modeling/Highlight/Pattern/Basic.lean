import Highlight.Text.Cursor
import Highlight.Unicode.Blank
import Highlight.Unicode.Case
import Highlight.Unicode.Digit
import Highlight.Unicode.Word

/-!
# Patterns and where they end

A pattern is matched at a cursor. `Pattern.ends` lists the ways through a pattern, **most preferred
first and at most one to each place**: alternatives prefer the left side, eager repetitions prefer
another round, reluctant ones prefer to stop. The match at a cursor is the head of that list.

A way that comes back to a branching at which it stood before, with nothing read in between, would
go on for ever, so it ends there (`Way.pass?`). This decides which rounds of a repetition may read
nothing: `(?:[a-z]*(?:[0-9]*|_))+` stops before the `_` of `a_b`, since behind the `a` the first
round leads through all of its branchings to the end of the round, and the next round begins with a
branching that was passed.

Because every list holds a place at most once, a pattern is never explored twice from the same place
by the same repetition, and nested repetitions cost a polynomial in the length of the text.
-/

namespace Highlight

/-- A set of characters. -/
inductive CharSet where
  | empty
  | range (first last : Char)
  | digit
  | blank
  | word
  | union (a b : CharSet)
  | inter (a b : CharSet)
  | compl (a : CharSet)
  /-- The characters that differ only in case from a member. -/
  | caseless (a : CharSet)
deriving Repr, DecidableEq

namespace CharSet

/-- The set of one character. -/
def single (c : Char) : CharSet := .range c c

/-- The character belongs to the set. -/
def mem : CharSet → Char → Bool
  | .empty, _ => false
  | .range first last, c => first ≤ c && c ≤ last
  | .digit, c => Unicode.isDigit c
  | .blank, c => Unicode.isBlank c
  | .word, c => Unicode.isWord c
  | .union a b, c => a.mem c || b.mem c
  | .inter a b, c => a.mem c && b.mem c
  | .compl a, c => !a.mem c
  | .caseless a, c => (Unicode.caseClass c).any a.mem

/-- The members of the first set that are not in the second. -/
def diff (a b : CharSet) : CharSet := .inter a (.compl b)

/-- The members of exactly one of the two sets. -/
def symmDiff (a b : CharSet) : CharSet := .union (diff a b) (diff b a)

end CharSet

/-- How a place lies to the words around it. -/
inductive WordPlace where
  | edge
  | noEdge
  | start
  | stop
  /-- What precedes is no word character. -/
  | startHalf
  /-- What follows is no word character. -/
  | stopHalf
deriving Repr, DecidableEq

/-- A condition on a place, met or not without consuming anything. -/
inductive Assertion where
  | textStart
  | textEnd
  | lineStart
  | lineEnd
  /-- A place at words, which are made of ASCII characters only if `ascii` is set. -/
  | word (place : WordPlace) (ascii : Bool)
deriving Repr, DecidableEq

namespace Assertion

/-- The nearest character of one side is a word character. -/
def wordSide (ascii : Bool) (side : List Char) : Bool :=
  match side with
  | [] => false
  | c :: _ => if ascii then c.isAlphanum || c == '_' else Unicode.isWord c

/-- The condition holds at the cursor. -/
def holds (a : Assertion) (c : Cursor) : Bool :=
  match a with
  | .textStart => c.before.isEmpty
  | .textEnd => c.rest.isEmpty
  | .lineStart => c.before.isEmpty || c.before.head? == some '\n'
  | .lineEnd => c.rest.isEmpty || c.rest.head? == some '\n'
  | .word place ascii =>
    let before := wordSide ascii c.before
    let behind := wordSide ascii c.rest
    match place with
    | .edge => before != behind
    | .noEdge => before == behind
    | .start => !before && behind
    | .stop => before && !behind
    | .startHalf => !before
    | .stopHalf => !behind

end Assertion

/-- How often a pattern is repeated, and whether further rounds are preferred to stopping. -/
structure Repetition where
  atLeast : Nat
  /-- Unbounded when absent. -/
  atMost : Option Nat
  eager : Bool := true
deriving Repr, DecidableEq

/-- A pattern over characters. -/
inductive Pattern where
  | empty
  | set (s : CharSet)
  | assert (a : Assertion)
  | seq (a b : Pattern)
  | alt (a b : Pattern)
  | many (p : Pattern) (r : Repetition)
deriving Repr, DecidableEq

/-! ## Ways through a pattern -/

/-- A branching of a pattern, by the steps that lead down to it, the last one first. -/
abbrev Address := List Nat

/-- A match under way: the place it has come to, and the branchings it has passed there since it
read a character. -/
structure Way where
  cursor : Cursor
  passed : List Address := []

namespace Way

/-- The way with the next character read. -/
def read (w : Way) : Way := ⟨w.cursor.next, []⟩

/-- The way behind a branching; it ends where it has passed the branching before. -/
def pass? (here : Address) (w : Way) : Option Way :=
  if here ∈ w.passed then none else some { w with passed := here :: w.passed }

/-- One of the ways has come to the same place. -/
def listed (w : Way) (ways : List Way) : Bool := ways.any (·.cursor.offset == w.cursor.offset)

end Way

namespace Pattern

/-- The ways of both lists, those of the first preferred; a way of the second to a place that the
first lists is dropped. -/
def merge (preferred others : List Way) : List Way :=
  preferred ++ others.filter fun w => !w.listed preferred

/-- The given ways, each taken one step further, in order. -/
def after (ways : List Way) (step : Way → List Way) : List Way :=
  ways.foldl (fun out w => merge out (step w)) []

/-- What lies behind a branching. -/
def branch (here : Address) (w : Way) (onward : Way → List Way) : List Way :=
  match w.pass? here with
  | none => []
  | some w => onward w

/-- Going further is preferred to stopping, or the other way round. -/
def prefer (eager : Bool) (further : List Way) (stopped : Way) : List Way :=
  if eager then merge further [stopped] else merge [stopped] further

/-! ## Repetitions -/

/-- The ways from the branching between two rounds, put in front of `out`, which is newest first. A
place that `out` lists has been explored. `fuel` bounds the rounds: every round that is followed by
another one reads a character, so one more than the number of characters left is enough. -/
def rounds (here : Address) (eager : Bool) (step : Way → List Way) :
    Nat → List Way → Way → List Way
  | 0, out, _ => out
  | fuel + 1, out, w =>
    match w.pass? here with
    | none => out
    | some w =>
      if w.listed out then out
      else if eager then w :: (step w).foldl (rounds here eager step fuel) out
      else (step w).foldl (rounds here eager step fuel) (w :: out)

/-- The ways through any number of rounds, from the branching between them on. -/
def anyRounds (here : Address) (eager : Bool) (step : Way → List Way) (w : Way) : List Way :=
  (rounds here eager step (w.cursor.rest.length + 1) [] w).reverse

/-- The ways through one or more rounds. -/
def someRounds (here : Address) (eager : Bool) (step : Way → List Way) (w : Way) : List Way :=
  ((step w).foldl (rounds here eager step (w.cursor.rest.length + 1)) []).reverse

/-- The ways through `n` copies, the first of them numbered 0. -/
def exactly (copy : Nat → Way → List Way) : Nat → Way → List Way
  | 0, w => [w]
  | n + 1, w => after (exactly copy n w) (copy n)

/-- The ways through at most `left` copies, the first of them numbered `k`. -/
def upTo (here : Address) (eager : Bool) (copy : Nat → Way → List Way) :
    Nat → Nat → Way → List Way
  | _, 0, w => [w]
  | k, left + 1, w =>
    branch (k :: here) w fun w =>
      prefer eager (after (copy k w) (upTo here eager copy (k + 1) left)) w

/-- The ways through a repetition of copies of one part. Where the part may read nothing, any number
of rounds is one or more of them, or none: a first round that reads nothing is then preferred to
none. -/
def repeated (here : Address) (r : Repetition) (filled : Bool) (copy : Nat → Way → List Way)
    (w : Way) : List Way :=
  match r.atMost, r.atLeast with
  | some most, least =>
    after (exactly copy least w) (upTo (0 :: here) r.eager copy least (most - least))
  | none, least + 1 => after (exactly copy least w) (someRounds here r.eager (copy least))
  | none, 0 =>
    if filled then anyRounds here r.eager (copy 0) w
    else branch (0 :: here) w fun w =>
      prefer r.eager (someRounds here r.eager (copy 0) w) w

/-! ## Matches -/

/-- Every match reads a character. -/
def reads : Pattern → Bool
  | .empty | .assert _ => false
  | .set _ => true
  | .seq a b => a.reads || b.reads
  | .alt a b => a.reads && b.reads
  | .many p r => r.atLeast != 0 && p.reads

/-- The ways through a pattern that stands at an address, most preferred first. -/
def ends : Pattern → Address → Way → List Way
  | .empty, _, w => [w]
  | .set s, _, w =>
    match w.cursor.rest with
    | ch :: _ => if s.mem ch then [w.read] else []
    | [] => []
  | .assert a, _, w => if a.holds w.cursor then [w] else []
  | .seq a b, here, w => after (a.ends (0 :: here) w) (b.ends (1 :: here))
  | .alt a b, here, w =>
    branch here w fun w => merge (a.ends (0 :: here) w) (b.ends (1 :: here) w)
  | .many p r, here, w => repeated here r p.reads (fun k => p.ends (k :: 1 :: here)) w

/-- Where the preferred match that starts at the cursor ends. -/
def matchAt? (p : Pattern) (c : Cursor) : Option Cursor := (p.ends [] ⟨c, []⟩).head?.map (·.cursor)

end Pattern

end Highlight
