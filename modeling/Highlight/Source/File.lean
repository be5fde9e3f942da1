import Highlight.Failure
import Highlight.Source.Digest
import Highlight.Text.Hex
import Highlight.Text.Utf8

/-!
# Source files for analyzers

An analyzer reads a document from a file. The file is named for its contents, so that equal
documents share one, and for the language as the caller spells it.
-/

namespace Highlight

/-- A document as a file. -/
structure SourceFile where
  name : String
  contents : String
deriving Repr, DecidableEq

namespace SourceFile

/-- A byte as two hexadecimal digits. -/
def hexByte (b : UInt8) : List Char := [Hex.char (b.toNat / 16), Hex.char (b.toNat % 16)]

/-- The name of a document's file: the first four bytes of its digest, and the language. -/
def nameOf (text language : String) : String :=
  String.ofList (((Digest.sha256 (Utf8.bytes text)).take 4).flatMap hexByte) ++ "." ++ language

/-- A file of a directory can have the name: it is short enough and names no place outside. -/
def isWritable (name : String) : Bool :=
  (Utf8.bytes name).length ≤ 255 && name.toList.all fun c => c != '/' && c != '\x00'

/-- The file of a document, if it can be written. -/
def ofDocument (text language : String) : Except Failure SourceFile :=
  let name := nameOf text language
  if isWritable name then .ok ⟨name, text⟩ else .error .io

end SourceFile

end Highlight
