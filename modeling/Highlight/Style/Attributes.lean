import Highlight.Scope.Basic
import Highlight.Style.FontStyle

/-!
# Packed token words

A grammar describes a token's look by one 32-bit word:

```text
bits  0-7    language
bits  8-10   token type
bits 11-13   font style
bits 14-22   foreground slot of the palette
bits 23-31   background slot of the palette
```

`Attributes` is the word taken apart. Packing keeps of each field as many low bits as it has room
for, so no field reaches into another; unpacking reads the five fields back.
-/

namespace Highlight

/-- The broad class of a token. -/
inductive TokenType where
  | other
  | comment
  | string
  | regex
deriving Repr, DecidableEq

namespace TokenType

/-- The code of the class in a packed word. -/
def code : TokenType → UInt32
  | .other => 0
  | .comment => 1
  | .string => 2
  | .regex => 4

/-- The class with this code; codes without a class read as `other`. -/
def ofCode (code : UInt32) : TokenType :=
  if code = 1 then .comment else if code = 2 then .string else if code = 4 then .regex else .other

/-- The class of a scope, decided by its first segment. -/
def ofScope (scope : String) : TokenType :=
  let first := Scope.firstSegment scope
  if first = "comment" then .comment
  else if first = "string" then .string
  else if first = "regex" then .regex
  else .other

end TokenType

/-- The fields of a packed word. -/
structure Attributes where
  language : UInt32
  tokenType : TokenType
  fontStyle : FontStyle
  foreground : UInt32
  background : UInt32
deriving Repr, DecidableEq

/-- A field of a word: the place of its lowest bit, and the bits that it takes up. -/
structure Field where
  place : UInt32
  mask : UInt32

namespace Field

/-- The value at its place, without the bits that the field has no room for. -/
def put (f : Field) (value : UInt32) : UInt32 := (value <<< f.place) &&& f.mask

/-- The value of the field in a word. -/
def get (f : Field) (word : UInt32) : UInt32 := (word &&& f.mask) >>> f.place

def language : Field := ⟨0, 0x000000FF⟩

def tokenType : Field := ⟨8, 0x00000700⟩

def fontStyle : Field := ⟨11, 0x00003800⟩

def foreground : Field := ⟨14, 0x007FC000⟩

def background : Field := ⟨23, 0xFF800000⟩

end Field

namespace Attributes

/-- The greatest palette slot that a packed word can name. -/
def maxSlot : Nat := 511

/-- One word for all five fields. -/
def pack (a : Attributes) : UInt32 :=
  Field.language.put a.language ||| Field.tokenType.put a.tokenType.code |||
    Field.fontStyle.put a.fontStyle.bits ||| Field.foreground.put a.foreground |||
    Field.background.put a.background

/-- The five fields of a word. -/
def unpack (w : UInt32) : Attributes where
  language := Field.language.get w
  tokenType := .ofCode (Field.tokenType.get w)
  fontStyle := .ofBits (Field.fontStyle.get w)
  foreground := Field.foreground.get w
  background := Field.background.get w

end Attributes

end Highlight
