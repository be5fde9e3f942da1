import Highlight.Data.Decimal
import Highlight.Text.Hex

/-!
# Numbers and times in TOML

Integers are signed with 64 bits, in base 10, 16, 8 or 2; single underscores may stand between
digits. A float has a fraction, an exponent or both, and may not overflow upwards. Dates and times
are those of the calendar and the clock, with a second for leap seconds.

The readers here say where such a token ends, or that there is none. No setting of this library is a
number or a time, so of the tokens only their form matters.
-/

namespace Highlight.Toml

/-- What may follow a digit: further digits, each perhaps after one underscore. An underscore
without a digit after it is refused. -/
def moreDigits? (isDigit : Char → Bool) : List Char → Option (List Char × List Char)
  | '_' :: c :: rest =>
    if isDigit c then (moreDigits? isDigit rest).map fun (ds, rest) => (c :: ds, rest) else none
  | c :: rest =>
    if isDigit c then (moreDigits? isDigit rest).map fun (ds, rest) => (c :: ds, rest)
    else if c == '_' then none
    else some ([], c :: rest)
  | [] => some ([], [])

/-- Digits with single underscores between them: the digits, and what follows. -/
def digitGroups? (isDigit : Char → Bool) (cs : List Char) : Option (List Char × List Char) :=
  match cs with
  | c :: rest =>
    if isDigit c then (moreDigits? isDigit rest).map fun (ds, rest) => (c :: ds, rest) else none
  | [] => none

/-- A sign, if there is one. -/
def sign (cs : List Char) : Bool × List Char :=
  match cs with
  | '-' :: rest => (true, rest)
  | '+' :: rest => (false, rest)
  | _ => (false, cs)

/-- Digits in base 10 that do not begin with a zero, unless zero is all of them. -/
def wholeDigits? (cs : List Char) : Option (List Char × List Char) :=
  match cs with
  | '0' :: rest => some (['0'], rest)
  | _ => digitGroups? Char.isDigit cs

/-- The greatest magnitude of a 64-bit integer of the given sign. -/
def integerBound (negative : Bool) : Nat :=
  if negative then 9223372036854775808 else 9223372036854775807

/-- An integer in another base after its mark. -/
def basedInteger? (base : Nat) (cs : List Char) : Option (List Char) := do
  let isDigit (c : Char) : Bool := (Hex.digit? c).any (· < base)
  let (digits, rest) ← digitGroups? isDigit cs
  let value := digits.foldl (fun n c => n * base + (Hex.digit? c).getD 0) 0
  if value ≤ integerBound false then return rest else none

/-- What follows an integer at the front of the text. -/
def integer? (cs : List Char) : Option (List Char) :=
  match cs with
  | '0' :: 'x' :: rest => basedInteger? 16 rest
  | '0' :: 'o' :: rest => basedInteger? 8 rest
  | '0' :: 'b' :: rest => basedInteger? 2 rest
  | _ => do
    let (negative, rest) := sign cs
    let (digits, rest) ← wholeDigits? rest
    if Decimal.natural digits ≤ integerBound negative then return rest else none

/-- An exponent: its value, and what follows. -/
def exponent? (cs : List Char) : Option (Int × List Char) := do
  let cs ←
    match cs with
    | 'e' :: rest => some rest
    | 'E' :: rest => some rest
    | _ => none
  let (negative, rest) := sign cs
  let (digits, rest) ← digitGroups? Char.isDigit rest
  let value : Int := Decimal.natural digits
  return (if negative then -value else value, rest)

/-- A fraction: its digits, and what follows. -/
def fraction? (cs : List Char) : Option (List Char × List Char) :=
  match cs with
  | '.' :: rest => digitGroups? Char.isDigit rest
  | _ => none

/-- The two floats without digits. -/
def specialFloat? (cs : List Char) : Option (List Char) :=
  match (sign cs).2 with
  | 'i' :: 'n' :: 'f' :: rest => some rest
  | 'n' :: 'a' :: 'n' :: rest => some rest
  | _ => none

/-- The text begins with a float that has digits: its value, and what follows. -/
def decimalFloat? (cs : List Char) : Option (Decimal × List Char) := do
  let (negative, rest) := sign cs
  let (whole, rest) ← wholeDigits? rest
  match fraction? rest with
  | some (fraction, rest) =>
    let (exponent, rest) := (exponent? rest).getD (0, rest)
    return (⟨negative, Decimal.natural (whole ++ fraction), exponent - fraction.length, false⟩,
      rest)
  | none =>
    let (exponent, rest) ← exponent? rest
    return (⟨negative, Decimal.natural whole, exponent, false⟩, rest)

/-- A number of exactly two digits between two bounds. -/
def twoDigits? (least most : Nat) (cs : List Char) : Option (Nat × List Char) :=
  match cs with
  | a :: b :: rest =>
    let n := Decimal.natural [a, b]
    if a.isDigit && b.isDigit && least ≤ n && n ≤ most then some (n, rest) else none
  | _ => none

/-- The text after an expected character. -/
def expect? (c : Char) (cs : List Char) : Option (List Char) :=
  match cs with
  | d :: rest => if c = d then some rest else none
  | [] => none

/-- Number of days of a month. -/
def monthDays (year month : Nat) : Nat :=
  if month = 2 then
    if (year % 4 = 0 ∧ year % 100 ≠ 0) ∨ year % 400 = 0 then 29 else 28
  else if month = 4 ∨ month = 6 ∨ month = 9 ∨ month = 11 then 30
  else 31

/-- What follows a date of the calendar. -/
def date? (cs : List Char) : Option (List Char) := do
  let year := cs.take 4
  if year.length < 4 || !year.all Char.isDigit then none
  else
    let rest ← expect? '-' (cs.drop 4)
    let (month, rest) ← twoDigits? 1 12 rest
    let rest ← expect? '-' rest
    let (_, rest) ← twoDigits? 1 (monthDays (Decimal.natural year) month) rest
    return rest

/-- What follows a time of the clock, with its fraction of a second. -/
def time? (cs : List Char) : Option (List Char) := do
  let (_, rest) ← twoDigits? 0 23 cs
  let rest ← expect? ':' rest
  let (_, rest) ← twoDigits? 0 59 rest
  let rest ← expect? ':' rest
  let (_, rest) ← twoDigits? 0 60 rest
  match rest with
  | '.' :: more =>
    let digits := more.takeWhile Char.isDigit
    return if digits.isEmpty then rest else more.drop digits.length
  | _ => return rest

/-- What follows an offset from universal time. -/
def timeOffset? (cs : List Char) : Option (List Char) :=
  let clock (cs : List Char) : Option (List Char) := do
    let (_, rest) ← twoDigits? 0 23 cs
    let rest ← expect? ':' rest
    let (_, rest) ← twoDigits? 0 59 rest
    return rest
  match cs with
  | 'Z' :: rest => some rest
  | 'z' :: rest => some rest
  | '+' :: rest => clock rest
  | '-' :: rest => clock rest
  | _ => none

/-- What follows a date, a time or both. -/
def dateTime? (cs : List Char) : Option (List Char) :=
  match date? cs with
  | some rest =>
    let clock (cs : List Char) : Option (List Char) :=
      (time? cs).map fun rest => (timeOffset? rest).getD rest
    match rest with
    | 'T' :: more => some ((clock more).getD rest)
    | 't' :: more => some ((clock more).getD rest)
    | ' ' :: more => some ((clock more).getD rest)
    | _ => some rest
  | none => time? cs

end Highlight.Toml
