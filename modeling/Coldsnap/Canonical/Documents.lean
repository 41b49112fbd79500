import Coldsnap.Foundation.Numerals
import Coldsnap.Foundation.Python
import Coldsnap.Foundation.Unicode

/-! # Canonical JSON

`CanonicalJSON` of `internal/canonicaljson/canonical.go`, and `json.loads` followed by
`_canonical_json` of `integrations/core/coldsnap_core/memory.py`, on documents whose
numbers are integers.
-/

namespace Coldsnap.Canonical

open Python Unicode Checked

inductive ShortEscape where
  | quote
  | backslash
  | slash
  | backspace
  | formFeed
  | newline
  | carriageReturn
  | tab
deriving DecidableEq, Repr

def ShortEscape.code : ShortEscape → Nat
  | .quote => 0x22
  | .backslash => 0x5C
  | .slash => 0x2F
  | .backspace => 0x08
  | .formFeed => 0x0C
  | .newline => 0x0A
  | .carriageReturn => 0x0D
  | .tab => 0x09

/-- A piece of a string between its quotes: a character, an escape such as `\n`, or
`\uXXXX`. -/
inductive StringItem where
  | literal (character : Char)
  | short (escape : ShortEscape)
  | unicode (unit : UInt16)
deriving DecidableEq, Repr

def StringItem.code : StringItem → Nat
  | .literal character => character.toNat
  | .short escape => escape.code
  | .unicode unit => unit.toNat

mutual
inductive Document where
  | null
  | boolean (value : Bool)
  | integer (negative : Bool) (digits : List (Fin 10))
  | text (items : List StringItem)
  | array (items : Documents)
  | object (members : Members)

inductive Documents where
  | nil
  | cons (head : Document) (tail : Documents)

/-- The members of an object in the order of the document; names may repeat. -/
inductive Members where
  | nil
  | cons (name : List StringItem) (value : Document) (tail : Members)
end

mutual
def Document.depth : Document → Nat
  | .array items => items.depth + 1
  | .object members => members.depth + 1
  | _ => 0

def Documents.depth : Documents → Nat
  | .nil => 0
  | .cons head tail => max head.depth tail.depth

def Members.depth : Members → Nat
  | .nil => 0
  | .cons _ value tail => max value.depth tail.depth
end

mutual
def Document.digits : Document → Nat
  | .integer _ digits => digits.length
  | .array items => items.digits
  | .object members => members.digits
  | _ => 0

def Documents.digits : Documents → Nat
  | .nil => 0
  | .cons head tail => max head.digits tail.digits

def Members.digits : Members → Nat
  | .nil => 0
  | .cons _ value tail => max value.digits tail.digits
end

abbrev Text := List Nat

mutual
inductive Value where
  | null
  | boolean (value : Bool)
  | integer (value : Int)
  | text (text : Text)
  | array (items : Values)
  | object (fields : Fields)

inductive Values where
  | nil
  | cons (head : Value) (tail : Values)

inductive Fields where
  | nil
  | cons (name : Text) (value : Value) (tail : Fields)
end

def Fields.names : Fields → List Text
  | .nil => []
  | .cons name _ tail => name :: tail.names

/-- Of members with one name the last one counts. The order of the fields plays no part,
since they are sorted when they are written. -/
def Fields.put (name : Text) (value : Value) (fields : Fields) : Fields :=
  if name ∈ fields.names then fields else .cons name value fields

def integerValue (negative : Bool) (digits : List (Fin 10)) : Int :=
  let magnitude : Nat := digits.foldl (fun sum digit => 10 * sum + digit.val) 0
  if negative then -magnitude else magnitude

mutual
def Document.parse (decode : List StringItem → Text) : Document → Value
  | .null => .null
  | .boolean value => .boolean value
  | .integer negative digits => .integer (integerValue negative digits)
  | .text items => .text (decode items)
  | .array items => .array (items.parse decode)
  | .object members => .object (members.parse decode)

def Documents.parse (decode : List StringItem → Text) : Documents → Values
  | .nil => .nil
  | .cons head tail => .cons (head.parse decode) (tail.parse decode)

def Members.parse (decode : List StringItem → Text) : Members → Fields
  | .nil => .nil
  | .cons name value tail => (tail.parse decode).put (decode name) (value.parse decode)
end

def pythonText : List StringItem → Text
  | [] => []
  | .unicode first :: .unicode second :: rest =>
    if isHigh first.toNat && isLow second.toNat then
      combine first.toNat second.toNat :: pythonText rest
    else first.toNat :: pythonText (.unicode second :: rest)
  | item :: rest => item.code :: pythonText rest

def replacement : Nat := 0xFFFD

def goText : List StringItem → Text
  | [] => []
  | .unicode first :: .unicode second :: rest =>
    if isSurrogate first.toNat then
      if isHigh first.toNat && isLow second.toNat then
        combine first.toNat second.toNat :: goText rest
      else replacement :: goText (.unicode second :: rest)
    else first.toNat :: goText (.unicode second :: rest)
  | .unicode unit :: rest =>
    (if isSurrogate unit.toNat then replacement else unit.toNat) :: goText rest
  | item :: rest => item.code :: goText rest

def unicodeEscape (unit : Nat) : List Char := '\\' :: 'u' :: Numerals.hexDigits unit

def goCharacter (code : Nat) : List Char :=
  if code = 0x22 ∨ code = 0x5C then ['\\', Char.ofNat code]
  else if code = 0x08 then ['\\', 'b']
  else if code = 0x0C then ['\\', 'f']
  else if code = 0x0A then ['\\', 'n']
  else if code = 0x0D then ['\\', 'r']
  else if code = 0x09 then ['\\', 't']
  else if 0x20 ≤ code ∧ code ≤ 0x7E then [Char.ofNat code]
  else if code ≤ 0xFFFF then unicodeEscape code
  else unicodeEscape (highOf code) ++ unicodeEscape (lowOf code)

def pythonCharacter (code : Nat) : List Char :=
  if 0x20 ≤ code ∧ code ≤ 0x7E ∧ code ≠ 0x5C ∧ code ≠ 0x22 then [Char.ofNat code]
  else if code = 0x5C then ['\\', '\\']
  else if code = 0x22 then ['\\', '"']
  else if code = 0x08 then ['\\', 'b']
  else if code = 0x0C then ['\\', 'f']
  else if code = 0x0A then ['\\', 'n']
  else if code = 0x0D then ['\\', 'r']
  else if code = 0x09 then ['\\', 't']
  else if 0x10000 ≤ code then unicodeEscape (highOf code) ++ unicodeEscape (lowOf code)
  else unicodeEscape code

def integerText (value : Int) : List Char :=
  if value < 0 then '-' :: Nat.toDigits 10 value.natAbs else Nat.toDigits 10 value.natAbs

/-- How a writer spells characters and arranges the fields of an object. -/
structure Style where
  character : Nat → List Char
  arrange : List (Text × List Char) → List (Text × List Char)

def Style.go : Style := ⟨goCharacter, sortedOn fun field => encode field.1⟩

def Style.python : Style := ⟨pythonCharacter, sortedOn Prod.fst⟩

def Style.quoted (style : Style) (text : Text) : List Char :=
  '"' :: (text.flatMap style.character ++ ['"'])

def joined (parts : List (List Char)) : List Char := [','].intercalate parts

mutual
def Value.write (style : Style) : Value → List Char
  | .null => ['n', 'u', 'l', 'l']
  | .boolean true => ['t', 'r', 'u', 'e']
  | .boolean false => ['f', 'a', 'l', 's', 'e']
  | .integer value => integerText value
  | .text text => style.quoted text
  | .array items => '[' :: (joined (items.writeEach style) ++ [']'])
  | .object fields =>
    '{' :: (joined ((style.arrange (fields.writeEach style)).map fun field =>
      style.quoted field.1 ++ ':' :: field.2) ++ ['}'])

def Values.writeEach (style : Style) : Values → List (List Char)
  | .nil => []
  | .cons head tail => head.write style :: tail.writeEach style

def Fields.writeEach (style : Style) : Fields → List (Text × List Char)
  | .nil => []
  | .cons name value tail => (name, value.write style) :: tail.writeEach style
end

def goCanonicalJSON (document : Document) : Except String (List Char) :=
  if 10000 < document.depth then .error "decode JSON: exceeded max depth"
  else .ok ((document.parse goText).write .go)

def pythonCanonicalJSON (recursionLimit : Nat) (document : Document) : Checked (List Char) := do
  require (document.depth ≤ recursionLimit) (runtimeError "maximum recursion depth exceeded")
  require (document.digits ≤ 4300)
    (valueError "Exceeds the limit (4300 digits) for integer string conversion")
  return (document.parse pythonText).write .python

end Coldsnap.Canonical
