import Highlight.Analyzer.Command
import Highlight.Analyzer.Script

/-!
# A small command shell

Runs scripts with the few programs that analyzers are glued together from: `cat`, `echo`, `printf`,
`basename`, `true`, `false`, `exit` and `kill`. `Shell.launch` is the launcher that knows `cat` and
the shell itself.
-/

namespace Highlight.Shell

/-- The name and the arguments of a running script. -/
structure Context where
  name : String
  arguments : List String

/-- How far a script has come. -/
structure Progress where
  /-- Status of the last command. -/
  status : Nat := 0
  /-- How the script ended, if it did. -/
  ended : Option ExitStatus := none
  output : List UInt8 := []
  errors : List UInt8 := []

/-- The number by which a script knows itself. -/
def ownNumber : String := "1"

/-- A finished command with a line on its error channel. -/
def complaint (status : Nat) (message : String) : Progress :=
  { status, errors := Utf8.bytes (message ++ "\n") }

/-- The value of a parameter. -/
def value (c : Context) (status : Nat) (name : List Char) : String :=
  match name with
  | ['#'] => toString c.arguments.length
  | ['$'] => ownNumber
  | ['?'] => toString status
  | ['@'] | ['*'] => " ".intercalate c.arguments
  | ['0'] => c.name
  | _ =>
    match (String.ofList name).toNat? with
    | some (i + 1) => (c.arguments[i]?).getD ""
    | _ => ""

/-- Fields of a word: those that are complete, last first, and the one that is being built. -/
structure Fields where
  complete : List String := []
  current : Option (List Char) := none

namespace Fields

/-- Adds text to the current field. -/
def add (f : Fields) (cs : List Char) : Fields :=
  { f with current := some (f.current.getD [] ++ cs) }

/-- Ends the current field. -/
def close (f : Fields) : Fields :=
  match f.current with
  | none => f
  | some cs => { complete := String.ofList cs :: f.complete }

/-- Adds text that is split at blanks. -/
def addSplit (f : Fields) (cs : List Char) : Fields :=
  cs.foldl (fun f c => if c == ' ' || c == '\t' || c == '\n' then f.close else f.add [c]) f

/-- All fields in order. -/
def toList (f : Fields) : List String := f.close.complete.reverse

end Fields

/-- The byte of up to three octal digits, and what follows them. -/
def octal (cs : List Char) : UInt8 × List Char :=
  let isOctal (c : Char) : Bool := '0' ≤ c && c ≤ '7'
  let digits := (cs.take 3).takeWhile isOctal
  (.ofNat (digits.foldl (fun n d => n * 8 + (d.toNat - '0'.toNat)) 0), cs.drop digits.length)

/-- The character that a backslash and a letter write. -/
def escaped? : Char → Option Char
  | 'a' => some '\x07'
  | 'b' => some '\x08'
  | 'f' => some '\x0c'
  | 'n' => some '\n'
  | 'r' => some '\r'
  | 't' => some '\t'
  | 'v' => some '\x0b'
  | '\\' => some '\\'
  | _ => none

/-- The bytes of a text. -/
def bytesOf (cs : List Char) : List UInt8 := Utf8.bytes (String.ofList cs)

/-- What `echo` writes for its joined arguments. -/
def echoed : (fuel : Nat) → List Char → List UInt8
  | 0, _ => []
  | _ + 1, [] => [10]
  | _ + 1, '\\' :: 'c' :: _ => []
  | fuel + 1, '\\' :: '0' :: cs => (octal cs).1 :: echoed fuel (octal cs).2
  | fuel + 1, '\\' :: c :: cs =>
    match escaped? c with
    | some d => bytesOf [d] ++ echoed fuel cs
    | none => bytesOf ['\\', c] ++ echoed fuel cs
  | fuel + 1, c :: cs => bytesOf [c] ++ echoed fuel cs

/-- One pass of `printf` over its format: what it writes, and the arguments left. -/
def formatOnce : (fuel : Nat) → List Char → List String → List UInt8 × List String
  | 0, _, args => ([], args)
  | _ + 1, [], args => ([], args)
  | fuel + 1, '%' :: '%' :: cs, args =>
    let (out, args) := formatOnce fuel cs args
    (bytesOf ['%'] ++ out, args)
  | fuel + 1, '%' :: 's' :: cs, args =>
    let (out, rest) := formatOnce fuel cs args.tail
    (Utf8.bytes (args.headD "") ++ out, rest)
  | fuel + 1, '%' :: 'd' :: cs, args =>
    let (out, rest) := formatOnce fuel cs args.tail
    (Utf8.bytes (toString (((args.headD "").toInt?).getD 0)) ++ out, rest)
  | fuel + 1, '\\' :: c :: cs, args =>
    if '0' ≤ c && c ≤ '7' then
      let (out, rest) := formatOnce fuel (octal (c :: cs)).2 args
      ((octal (c :: cs)).1 :: out, rest)
    else
      let (out, rest) := formatOnce fuel cs args
      (bytesOf (((escaped? c).map fun d => [d]).getD ['\\', c]) ++ out, rest)
  | fuel + 1, c :: cs, args =>
    let (out, rest) := formatOnce fuel cs args
    (bytesOf [c] ++ out, rest)

/-- What `printf` writes: the format is used again while it takes arguments and some are left. -/
def formatted : (fuel : Nat) → List Char → List String → List UInt8
  | 0, _, _ => []
  | fuel + 1, template, args =>
    let (out, rest) := formatOnce (template.length + 1) template args
    out ++ if rest.isEmpty || rest.length = args.length then [] else formatted fuel template rest

/-- The option letter that `cat` does not know. -/
def badOption? (argument : String) : Option Char :=
  match argument.toList with
  | '-' :: c :: cs => (c :: cs).find? fun c => !"AbeEnstTuv".toList.contains c
  | _ => none

/-- The files one after the other; the input is empty. -/
def concatenate : List String → Dialogue Progress
  | [] => return {}
  | path :: paths => do
    let here : Progress ←
      if path = "-" then pure {}
      else if path.startsWith "-" then pure {}
      else match ← Dialogue.file path with
        | some contents => pure { output := contents }
        | none => pure (complaint 1 ("cat: " ++ path ++ ": No such file or directory"))
    let rest ← concatenate paths
    return { status := max here.status rest.status, output := here.output ++ rest.output
             errors := here.errors ++ rest.errors }

/-- The program `cat`. -/
def cat (arguments : List String) : Dialogue Progress :=
  match arguments.findSome? badOption? with
  | some c => return complaint 1 ("cat: invalid option -- '" ++ String.ofList [c] ++
      "'\nTry 'cat --help' for more information.")
  | none => concatenate arguments

/-- The last part of a path, without an ending if that is given. -/
def baseName (path ending : String) : String :=
  let last :=
    ((Path.piecesFrom '/' [] path.toList).filter (· != [])).getLast?.getD (path.toList.take 1)
  let shorter := last.take (last.length - ending.length)
  String.ofList (if !shorter.isEmpty && shorter ++ ending.toList == last then shorter else last)

/-- Runs one command. -/
def perform (c : Context) (status : Nat) : List String → Dialogue Progress
  | [] => return {}
  | "true" :: _ | ":" :: _ => return {}
  | "false" :: _ => return { status := 1 }
  | "echo" :: "-n" :: args =>
    let line := " ".intercalate args
    return { output := (echoed (line.length + 2) line.toList).dropLast }
  | "echo" :: args =>
    let line := " ".intercalate args
    return { output := echoed (line.length + 2) line.toList }
  | "printf" :: template :: args =>
    return { output := formatted (args.length + 1) template.toList args }
  | ["basename", path] => return { output := Utf8.bytes (baseName path "" ++ "\n") }
  | ["basename", path, ending] => return { output := Utf8.bytes (baseName path ending ++ "\n") }
  | "cat" :: args => cat args
  | ["exit"] => return { status, ended := some (.code status) }
  | "exit" :: n :: _ =>
    match n.toNat? with
    | some n => return { status := n % 256, ended := some (.code (n % 256)) }
    | none =>
      let refusal := complaint 2 (c.name ++ ": 1: exit: Illegal number: " ++ n)
      return { refusal with ended := some (.code 2) }
  | ["kill", signal, target] =>
    if target = ownNumber then
      match ["-9", "-KILL", "-15", "-TERM"].idxOf? signal with
      | some i => return { ended := some (.signal (if i < 2 then 9 else 15)) }
      | none => return { status := 1 }
    else return { status := 1 }
  | name :: _ => return complaint 127 (c.name ++ ": 1: " ++ name ++ ": not found")

/-- Sends what a command wrote where its redirections say; a channel without a target goes
nowhere. -/
def redirect (redirections : List (Nat × Option Nat)) (p : Progress) : Progress :=
  let targets := redirections.foldl (fun (targets : Option Nat × Option Nat) (source, target) =>
    let goal := target.bind fun t => if t = 1 then targets.1 else if t = 2 then targets.2 else none
    if source = 1 then (goal, targets.2)
    else if source = 2 then (targets.1, goal)
    else targets) (some 1, some 2)
  let reaching (channel : Nat) : List UInt8 :=
    (if targets.1 = some channel then p.output else []) ++
      (if targets.2 = some channel then p.errors else [])
  { p with output := reaching 1, errors := reaching 2 }

/-- A text without the line feeds at its end. -/
def withoutLastFeeds (cs : List Char) : List Char := (cs.reverse.dropWhile (· = '\n')).reverse

/-- Adds a piece of a word to its fields; `inner` runs the scripts within it. -/
def expand (inner : List Char → Dialogue Progress) (c : Context) (status : Nat) (f : Fields) :
    Script.Piece → Dialogue Fields
  | .text cs => return f.add cs
  | .parameter name quoted =>
    let v := (value c status name).toList
    return if quoted then f.add v else f.addSplit v
  | .output script quoted => do
    let p ← inner script
    let v := withoutLastFeeds (Utf8.lenientText p.output).toList
    return if quoted then f.add v else f.addSplit v

/-- The command runs after the last one ended with this status. -/
def isDue (status : Nat) : Script.Join → Bool
  | .always => true
  | .andThen => status = 0
  | .orElse => status ≠ 0

/-- Runs a command when it is due, behind what was written so far. -/
def step (inner : List Char → Dialogue Progress) (c : Context) (p : Progress) (s : Script.Step) :
    Dialogue Progress := do
  if p.ended.isSome || !isDue p.status s.join then return p
  let fields ← s.words.mapM fun w => w.foldlM (expand inner c p.status) {}
  let q := redirect s.redirections (← perform c p.status (fields.flatMap Fields.toList))
  return { q with output := p.output ++ q.output, errors := p.errors ++ q.errors }

/-- Runs a script; `fuel` bounds how deep scripts are nested in it. -/
def run : (fuel : Nat) → Context → List Char → Dialogue Progress
  | 0, _, _ => return { status := 2 }
  | fuel + 1, c, script =>
    match Script.parse? script with
    | none => return complaint 2 (c.name ++ ": 1: Syntax error: Unterminated quoted string")
    | some steps => steps.foldlM (step (run fuel c) c) {}

/-- How a script has ended. -/
def finish (p : Progress) : Finished :=
  { status := p.ended.getD (.code p.status), output := p.output, errors := p.errors }

/-- Launches the programs that this shell knows. -/
def launch : Launcher := fun program arguments =>
  match program, arguments with
  | "cat", args => return some (finish (← cat args))
  | "sh", "-c" :: script :: rest => do
    let context : Context := ⟨rest.headD "sh", rest.tail⟩
    return some (finish (← run (script.length + 1) context script.toList))
  | _, _ => return none

end Highlight.Shell
