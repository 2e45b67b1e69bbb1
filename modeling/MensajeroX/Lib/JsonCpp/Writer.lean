import MensajeroX.Lib.JsonCpp.Value

/-!
# JsonCpp's styled writer

`Json::StyledWriter` on values without comments, and with it `Value::toStyledString`. The document is the text
written so far: indentation looks at its last byte. Strings are escaped byte by byte; a byte of 128 or more is a
negative `char`, no control character, and is written as it is. The escaping writer and the shortcut for strings
without special characters agree, so only the first is kept.
-/

namespace JsonCpp
open Bytes

/-! ## Strings -/

/-- The escape of one byte in `valueToQuotedStringN`. -/
def escapeByte (c : UInt8) : Cadena :=
  if c = 0x22 then [0x5c, 0x22]
  else if c = 0x5c then [0x5c, 0x5c]
  else if c = 0x08 then [0x5c, 0x62]
  else if c = 0x0c then [0x5c, 0x66]
  else if c = 0x0a then [0x5c, 0x6e]
  else if c = 0x0d then [0x5c, 0x72]
  else if c = 0x09 then [0x5c, 0x74]
  else if c ≤ 0x1f then [0x5c, 0x75, 0x30, 0x30, upperHexDigit (c.toNat / 16), upperHexDigit (c.toNat % 16)]
  else [c]

def escape (s : Cadena) : Cadena := s.flatMap escapeByte

def valueToQuotedStringN (s : Cadena) : Cadena := 0x22 :: (escape s ++ [0x22])

/-- `valueToQuotedString(name.c_str())`. -/
def valueToQuotedString (s : Cadena) : Cadena := valueToQuotedStringN (cstr s)

/-! ## The document -/

/-- `writeIndent` at an indentation of `indent` spaces. -/
def writeIndent (doc : Cadena) (indent : Nat) : Cadena :=
  match doc.getLast? with
  | none => doc ++ List.replicate indent 0x20
  | some last =>
    if last = 0x20 then doc
    else (if last ≠ 0x0a then doc ++ [0x0a] else doc) ++ List.replicate indent 0x20

def writeWithIndent (doc : Cadena) (indent : Nat) (text : Cadena) : Cadena := writeIndent doc indent ++ text

/-- The text that `pushValue` receives for a value without children. -/
def pushText [LibC] : Value → Cadena
  | .null => bytes "null"
  | .int z => intToString z
  | .uint n => uintToString n
  | .real d => LibC.toText d
  | .string s => valueToQuotedStringN s
  | .boolean b => boolToString b
  | .array _ => bytes "[]"
  | .object _ => bytes "\x7b\x7d"

def isNested : Value → Bool
  | .array vs => !vs.isEmpty
  | .object ms => !ms.isEmpty
  | _ => false

/-- `isMultineArray`, with `rightMargin_ = 74`. -/
def isMultineArray [LibC] (vs : List Value) : Bool :=
  decide (74 ≤ vs.length * 3) || vs.any isNested ||
    decide (74 ≤ 4 + (vs.length - 1) * 2 + (vs.map fun v => (pushText v).length).sum)

def inlineElems [LibC] : List Value → Cadena
  | [] => []
  | [v] => pushText v
  | v :: vs => pushText v ++ bytes ", " ++ inlineElems vs

mutual

def writeValue [LibC] (indent : Nat) (doc : Cadena) : Value → Cadena
  | .array [] => doc ++ bytes "[]"
  | .array (v :: vs) =>
    if isMultineArray (v :: vs) then
      writeWithIndent (writeElems (indent + 3) (writeWithIndent doc indent (bytes "[")) (v :: vs)) indent (bytes "]")
    else doc ++ (bytes "[ " ++ inlineElems (v :: vs) ++ bytes " ]")
  | .object [] => doc ++ bytes "\x7b\x7d"
  | .object (m :: ms) =>
    writeWithIndent (writeMembers (indent + 3) (writeWithIndent doc indent (bytes "\x7b")) (m :: ms)) indent
      (bytes "\x7d")
  | v => doc ++ pushText v

/-- The loop over the elements of a multi-line array. `childValues_` holds what `writeValue` would push. -/
def writeElems [LibC] (indent : Nat) (doc : Cadena) : List Value → Cadena
  | [] => doc
  | [v] => writeValue indent (writeIndent doc indent) v
  | v :: vs => writeElems indent (writeValue indent (writeIndent doc indent) v ++ bytes ",") vs

def writeMembers [LibC] (indent : Nat) (doc : Cadena) : List (Cadena × Value) → Cadena
  | [] => doc
  | [(k, v)] => writeValue indent (writeWithIndent doc indent (valueToQuotedString k) ++ bytes " : ") v
  | (k, v) :: ms =>
    writeMembers indent
      (writeValue indent (writeWithIndent doc indent (valueToQuotedString k) ++ bytes " : ") v ++ bytes ",") ms

end

/-- `Value::toStyledString`. -/
def Value.toStyledString [LibC] (v : Value) : Cadena := writeValue 0 [] v ++ [0x0a]

end JsonCpp
