/-!
# File paths

A path is divided by slashes. Empty parts and single dots name nothing, so slashes and `/.` at the
end do not matter. The last part that names something is the file name, unless it is `..`. The
extension is what follows the last dot of the file name, and the stem what precedes it; a dot in
first place is part of the stem.
-/

namespace Highlight.Path

/-- The pieces of a text between occurrences of a character. -/
def piecesFrom (separator : Char) : List Char → List Char → List (List Char)
  | piece, [] => [piece.reverse]
  | piece, c :: cs =>
    if c = separator then piece.reverse :: piecesFrom separator [] cs
    else piecesFrom separator (c :: piece) cs

/-- The parts of a path that name something. -/
def parts (path : String) : List (List Char) :=
  (piecesFrom '/' [] path.toList).filter fun part => part != [] && part != ['.']

/-- The path ends in a name and not in a slash or a dot, which only directories allow. -/
def endsInName (path : String) : Bool :=
  match (piecesFrom '/' [] path.toList).getLast? with
  | none => false
  | some last => last != [] && last != ['.']

/-- The file name of a path. -/
def fileName? (path : String) : Option (List Char) :=
  (parts path).getLast?.filter (· != ['.', '.'])

/-- The file name divided at its last dot, if a name precedes that dot. -/
def splitName (name : List Char) : List Char × Option (List Char) :=
  let after := (name.reverse.takeWhile (· != '.')).reverse
  match name.reverse.dropWhile (· != '.') with
  | [] => (name, none)
  | [_] => (name, none)
  | _ :: before => (before.reverse, some after)

/-- The extension of a path's file name. -/
def extension? (path : String) : Option String :=
  (fileName? path).bind fun name => (splitName name).2.map String.ofList

/-- The file name of a path without its extension. -/
def stem? (path : String) : Option String :=
  (fileName? path).map fun name => String.ofList (splitName name).1

end Highlight.Path
