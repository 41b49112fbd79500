import Coldsnap.Foundation.Go
import Coldsnap.Foundation.Numerals
import Coldsnap.Foundation.Python

/-! # Ports

The rotation of unprivileged ports, the explicit port map, and the ports which the adapter
and the rank controllers read from a command.
-/

namespace Coldsnap.Placement

open Go Python Numerals List

abbrev Port := Fin 65536

instance Port.neZero : NeZero 65536 := ⟨by decide⟩

instance Port.lawfulBEq : LawfulBEq Port := inferInstance

def portableTCPPortBase : Nat := 1024

def portableTCPPortCount : Nat := 65536 - portableTCPPortBase

def rotatePortableTCPPort (port : Port) (shift : Nat) : Port :=
  if port.val < portableTCPPortBase ∨ shift = 0 then port
  else
    ⟨portableTCPPortBase + (port.val - portableTCPPortBase + shift) % portableTCPPortCount, by
      have bound := Nat.mod_lt (port.val - portableTCPPortBase + shift)
        (show 0 < portableTCPPortCount by decide)
      simp only [portableTCPPortCount, portableTCPPortBase] at bound ⊢
      omega⟩

theorem rotate_val (port : Port) (shift : Nat) :
    (rotatePortableTCPPort port shift).val =
      if port.val < 1024 ∨ shift = 0 then port.val
      else 1024 + (port.val - 1024 + shift) % 64512 := by
  unfold rotatePortableTCPPort
  split
  · exact (if_pos (by assumption)).symm
  · exact (if_neg (by assumption)).symm

theorem rotate_zero (port : Port) : rotatePortableTCPPort port 0 = port :=
  if_pos (.inr rfl)

variable {port : Port}

theorem rotate_privileged (low : port.val < 1024) (shift : Nat) :
    rotatePortableTCPPort port shift = port :=
  if_pos (.inl low)

theorem rotate_injective (shift : Nat) :
    Function.Injective fun port => rotatePortableTCPPort port shift := by
  intro left right same
  have values := congrArg Fin.val same
  simp only [rotate_val] at values
  apply Fin.ext
  split at values <;> split at values <;> omega

theorem rotate_ne {shift : Nat} (high : 1024 ≤ port.val) (positive : 0 < shift)
    (bound : shift ≤ 64511) : rotatePortableTCPPort port shift ≠ port := by
  intro same
  have values := congrArg Fin.val same
  rw [rotate_val, if_neg (by omega)] at values
  omega

def shiftBetween (before after : Port) : Nat :=
  (after.val - portableTCPPortBase + portableTCPPortCount - (before.val - portableTCPPortBase)) %
    portableTCPPortCount

section

variable {before after : Port} (low : 1024 ≤ before.val) (high : 1024 ≤ after.val)

include low high

theorem shiftBetween_eq_zero : shiftBetween before after = 0 ↔ before = after := by
  rw [Fin.ext_iff]
  simp only [shiftBetween, portableTCPPortCount, portableTCPPortBase]
  omega

theorem rotate_shiftBetween : rotatePortableTCPPort before (shiftBetween before after) = after := by
  by_cases unmoved : shiftBetween before after = 0
  · rw [unmoved, rotate_zero]
    exact (shiftBetween_eq_zero low high).mp unmoved
  · apply Fin.ext
    rw [rotate_val, if_neg (by omega)]
    simp only [shiftBetween, portableTCPPortCount, portableTCPPortBase]
    omega

end

structure PortMapping where
  source : Port
  destination : Port
  sourceHigh : 1024 ≤ source.val
  destinationHigh : 1024 ≤ destination.val
  different : source ≠ destination
deriving DecidableEq

def parseTCPPortMap : Option (Port × Port) → Result (Option PortMapping)
  | none => .ok none
  | some (source, destination) =>
    if valid : 1024 ≤ source.val ∧ 1024 ≤ destination.val ∧ source ≠ destination then
      .ok (some ⟨source, destination, valid.1, valid.2.1, valid.2.2⟩)
    else
      .error s!"invalid --tcp-port-map \"{source.val}={destination.val}\""

theorem parseTCPPortMap_ok {value : Option (Port × Port)} {mapping : Option PortMapping}
    (parsed : parseTCPPortMap value = .ok mapping) :
    mapping.map (fun found => (found.source, found.destination)) = value := by
  cases value with
  | none =>
    cases parsed
    rfl
  | some pair =>
    simp only [parseTCPPortMap] at parsed
    split at parsed
    · cases parsed
      rfl
    · cases parsed

def goSpace (character : Char) : Bool :=
  character = ' ' || (0x09 ≤ character.toNat && character.toNat ≤ 0x0D)

def pythonSpace (character : Char) : Bool :=
  goSpace character || (0x1C ≤ character.toNat && character.toNat ≤ 0x1F) ||
    (0x2000 ≤ character.toNat && character.toNat ≤ 0x200A) ||
    character.toNat ∈ [0x85, 0xA0, 0x1680, 0x2028, 0x2029, 0x202F, 0x205F, 0x3000]

def digitsOf (text : List Char) : Option (List Char) :=
  let digits := text.takeWhile Char.isDigit
  if digits = [] then none else some digits

def quotedDigits (quote : Char) (text : List Char) : Option (List Char) := do
  let digits ← digitsOf text
  if (text.drop digits.length).head? = some quote then some digits else none

def apostrophe : Char := Char.ofNat 39

def portValue : List Char → Option (List Char)
  | first :: rest =>
    if first = apostrophe ∨ first = '"' then quotedDigits first rest
    else digitsOf (first :: rest)
  | [] => none

def afterSeparator (space : Char → Bool) : List Char → Option (List Char)
  | '=' :: rest => some rest
  | first :: rest => if space first then some (rest.dropWhile space) else none
  | [] => none

def findOption (space : Char → Bool) (name : List Char)
    (value : List Char → Option (List Char)) : Bool → List Char → Option (List Char)
  | _, [] => none
  | separated, first :: rest =>
    let found :=
      if separated && name.isPrefixOf (first :: rest) then
        (afterSeparator space ((first :: rest).drop name.length)).bind value
      else none
    match found with
    | some digits => some digits
    | none => findOption space name value (space first) rest

variable (command : List String)

def joinedCommand : List Char := (" ".intercalate command).toList

def portOr (default : Port) (number : Nat) : Port :=
  if valid : 0 < number ∧ number < 65536 then ⟨number, valid.2⟩ else default

def httpPort : Port :=
  match findOption goSpace "--port".toList portValue true (joinedCommand command) with
  | some digits => portOr 8000 (decimalValue digits)
  | none => 8000

def commandHttpPort : Checked Port :=
  match findOption pythonSpace "--port".toList portValue true (joinedCommand command) with
  | some digits =>
    if digits.length ≤ 4300 then .ok (portOr 8000 (decimalValue digits))
    else .error (valueError "Exceeds the limit (4300 digits) for integer string conversion")
  | none => .ok 8000

def delimitedDigits (text : List Char) : Option (List Char) := do
  let digits ← digitsOf text
  match text.drop digits.length with
  | [] => some digits
  | next :: _ => if goSpace next then some digits else none

def portBehind (text : List Char) : Option (List Char) :=
  match text with
  | ':' :: rest => delimitedDigits rest
  | _ => none

/-- The value of `--dist-init-addr`: a host, or an address in brackets, and a port. -/
def hostPort (text : List Char) : Option (List Char) :=
  let bracketed :=
    match text with
    | '[' :: rest =>
      let host := rest.takeWhile (· ≠ ']')
      if host = [] then none else portBehind ((rest.drop host.length).drop 1)
    | _ => none
  match bracketed with
  | some digits => some digits
  | none =>
    let host := text.takeWhile fun character => !goSpace character && character ≠ ':'
    if host = [] then none else portBehind (text.drop host.length)

def commandMasterPort : Port :=
  let text := joinedCommand command
  let named := findOption goSpace "--master-port".toList delimitedDigits true text
  let valid (digits : List Char) : Bool := 0 < decimalValue digits && decimalValue digits < 65536
  match named.filter valid with
  | some digits => portOr 25000 (decimalValue digits)
  | none =>
    match (findOption goSpace "--dist-init-addr".toList hostPort true text).filter valid with
    | some digits => portOr 25000 (decimalValue digits)
    | none => 25000

end Coldsnap.Placement
