import Coldsnap.Foundation.Go
import Mathlib.Algebra.Group.Int.Defs
import Mathlib.Data.String.Basic

/-! # Values of Go as JSON

`Marshal` and `Decode` of `encoding/json` for structures, slices, maps and pointers. A document
is its tree: blanks and the spelling of strings are left out. A value is read over another one,
which keeps what the document does not name.
-/

namespace Coldsnap.Marshal

open Go List

inductive Json where
  | null
  | boolean (value : Bool)
  | integer (value : Int)
  /-- A number with a fraction or an exponent. -/
  | decimal (mantissa exponent : Int)
  | text (value : String)
  | array (items : List Json)
  /-- The members in the order of the document; names may repeat. -/
  | object (members : List (String × Json))

abbrev Members := List (String × Json)

variable {α β : Type}

/-- How a type is written, and read over a value which is already there. -/
structure Codec (α : Type) where
  zero : α
  empty : α → Bool := fun _ => false
  encode : α → Json
  decode : α → Json → Result α

/-- What is written of one value is read over another one as a third. -/
def Codec.Reads (codec : Codec α) (base value target : α) : Prop :=
  codec.decode base (codec.encode value) = .ok target

/-- A value which is written is read back over another one. -/
abbrev Codec.Restores (codec : Codec α) (base value : α) : Prop := codec.Reads base value value

def mismatch : Result α := .error "json: cannot unmarshal"

/-- A text; like all simple types it is kept when the document says `null`. -/
def text : Codec String where
  zero := ""
  empty value := value = ""
  encode := .text
  decode
    | base, .null => .ok base
    | _, .text value => .ok value
    | _, _ => mismatch

def boolean : Codec Bool where
  zero := false
  empty value := !value
  encode := .boolean
  decode
    | base, .null => .ok base
    | _, .boolean value => .ok value
    | _, _ => mismatch

def bounded (zero : α) (value : α → Int) (ofInt : Int → α) (least greatest : Int) :
    Codec α where
  zero := zero
  empty number := value number = 0
  encode number := .integer (value number)
  decode
    | base, .null => .ok base
    | _, .integer number =>
      if least ≤ number ∧ number ≤ greatest then .ok (ofInt number) else mismatch
    | _, _ => mismatch

def int64 : Codec Int64 := bounded 0 Int64.toInt Int64.ofInt (-2 ^ 63) (2 ^ 63 - 1)

def uint64 : Codec UInt64 :=
  bounded 0 (fun value => value.toNat) (fun value => .ofNat value.toNat) 0 (2 ^ 64 - 1)

def uint32 : Codec UInt32 :=
  bounded 0 (fun value => value.toNat) (fun value => .ofNat value.toNat) 0 (2 ^ 32 - 1)

/-- Numbers of type `float64`, and how `strconv` prints and parses them: a number is a mantissa
and a power of ten. The two zeros are not told apart. -/
class DoubleFormat where
  Double : Type
  zero : Double
  isZero : Double → Bool
  isNegative : Double → Bool
  isFinite : Double → Bool
  equal : Double → Double → Bool
  print : Double → Int × Int
  parse : Int → Int → Option Double
  parse_print : ∀ value, parse (print value).1 (print value).2 = some value
  eq_zero : ∀ value, isZero value = true → value = zero

theorem eq_zero_of_decimal (value : Int × Int) (zero : decide (value = (0, 0)) = true) :
    value = (0, 0) :=
  of_decide_eq_true zero

theorem parse_print_decimal (value : Int × Int) : some (value.1, value.2) = some value := rfl

/-- Numbers as they are written. -/
@[reducible] def DoubleFormat.decimal : DoubleFormat where
  Double := Int × Int
  zero := (0, 0)
  isZero value := value = (0, 0)
  isNegative value := value.1 < 0
  isFinite _ := true
  equal left right := left = right
  print value := value
  parse mantissa exponent := some (mantissa, exponent)
  parse_print := parse_print_decimal
  eq_zero := eq_zero_of_decimal

def float64 [DoubleFormat] : Codec DoubleFormat.Double where
  zero := DoubleFormat.zero
  empty := DoubleFormat.isZero
  encode value :=
    let number := DoubleFormat.print value
    if number.2 = 0 then .integer number.1 else .decimal number.1 number.2
  decode
    | base, .null => .ok base
    | _, .integer number => (DoubleFormat.parse number 0).elim mismatch .ok
    | _, .decimal mantissa exponent => (DoubleFormat.parse mantissa exponent).elim mismatch .ok
    | _, _ => mismatch

def raw : Codec (Option Json) where
  zero := none
  empty := Option.isNone
  encode value := value.getD .null
  decode _ document := .ok (some document)

/-- The items of a slice, read over those which are already there. -/
def decodeItems (codec : Codec α) : List α → List Json → Result (List α)
  | _, [] => .ok []
  | present, item :: items => do
    let value ← codec.decode (present.headD codec.zero) item
    let values ← decodeItems codec present.tail items
    return value :: values

def slice (codec : Codec α) : Codec (List α) where
  zero := []
  empty := isEmpty
  encode values := .array (values.map codec.encode)
  decode
    | _, .null => .ok []
    | base, .array items => decodeItems codec base items
    | _, _ => mismatch

/-- A map from texts. The order of its entries plays no part. -/
@[ext] structure StringMap (α : Type) where
  entries : List (String × α)
  distinct : (entries.map Prod.fst).Nodup

theorem nodup_assign {entries : List (String × α)} (entry : String × α)
    (distinct : (entries.map Prod.fst).Nodup) : ((assign entries entry).map Prod.fst).Nodup := by
  rw [assign, map_append, map_cons, map_nil, nodup_append]
  refine ⟨distinct.sublist (filter_sublist.map _), nodup_singleton _, ?_⟩
  intro first listed second same equal
  rw [mem_singleton.mp same] at equal
  rcases mem_map.mp listed with ⟨other, member, rfl⟩
  exact of_decide_eq_true (mem_filter.mp member).2 equal

namespace StringMap

def nil : StringMap α := ⟨[], nodup_nil⟩

def assign (map : StringMap α) (entry : String × α) : StringMap α :=
  ⟨Go.assign map.entries entry, nodup_assign entry map.distinct⟩

end StringMap

def decodeEntry (codec : Codec α) (map : StringMap α) (member : String × Json) :
    Result (StringMap α) := do
  let value ← codec.decode codec.zero member.2
  return map.assign (member.1, value)

def mapOf (codec : Codec α) : Codec (StringMap α) where
  zero := .nil
  empty map := map.entries.isEmpty
  encode map := .object (map.entries.map fun entry => (entry.1, codec.encode entry.2))
  decode
    | _, .null => .ok .nil
    | base, .object members => forEach (decodeEntry codec) base members
    | _, _ => mismatch

def pointer (codec : Codec α) : Codec (Option α) where
  zero := none
  empty := Option.isNone
  encode
    | none => .null
    | some value => codec.encode value
  decode
    | _, .null => .ok none
    | base, document => do
      let value ← codec.decode (base.getD codec.zero) document
      return some value

def folded (character : Char) : Char :=
  if character = Char.ofNat 0x212A then 'k'
  else if character = Char.ofNat 0x17F then 's'
  else character.toLower

def names (key field : String) : Bool :=
  key.toList.map folded = field.toList.map folded

/-- The members which set a field, read over its value one after the other. -/
def field (members : Members) (name : String) (codec : Codec α) (base : α) : Result α :=
  forEach (fun value member =>
    if names member.1 name then codec.decode value member.2 else .ok value) base members

/-- A structure; `DisallowUnknownFields` refuses members which set no field. -/
def record (strict : Bool) (fields : List String) (base : α) (read : Members → Result α) :
    Json → Result α
  | .null => .ok base
  | .object members => do
    check (!strict || members.all fun member => fields.any (names member.1)) "json: unknown field"
    read members
  | _ => mismatch

/-- A field of a structure, under the name of its tag. -/
structure Slot (ρ : Type) where
  {content : Type}
  name : String
  codec : Codec content
  /-- With `omitempty` a field is left out where it is empty. -/
  omits : Bool
  get : ρ → content
  set : ρ → content → ρ

variable {ρ : Type}

namespace Slot

def always (name : String) (codec : Codec α) (get : ρ → α) (set : ρ → α → ρ) : Slot ρ :=
  ⟨name, codec, false, get, set⟩

def omitempty (name : String) (codec : Codec α) (get : ρ → α) (set : ρ → α → ρ) : Slot ρ :=
  ⟨name, codec, true, get, set⟩

def write (value : ρ) (slot : Slot ρ) : Members :=
  if slot.omits && slot.codec.empty (slot.get value) then []
  else [(slot.name, slot.codec.encode (slot.get value))]

/-- A field is read over what the structure had before any of them was read. -/
def read (members : Members) (base : ρ) (current : ρ) (slot : Slot ρ) : Result ρ := do
  let content ← field members slot.name slot.codec (slot.get base)
  return slot.set current content

end Slot

/-- A structure and its fields, in their order. -/
def struct (strict : Bool) (zero : ρ) (slots : List (Slot ρ)) : Codec ρ where
  zero
  encode value := .object (slots.flatMap (Slot.write value))
  decode base :=
    record strict (slots.map Slot.name) base fun members =>
      slots.foldlM (Slot.read members base) base

section Simple

@[simp] theorem text_restores (base value : String) : text.Restores base value := rfl

@[simp] theorem boolean_restores (base value : Bool) : boolean.Restores base value := rfl

theorem bounded_restores {zero : α} {value : α → Int} {ofInt : Int → α} {least greatest : Int}
    (number : α) (inverse : ofInt (value number) = number) (above : least ≤ value number)
    (below : value number ≤ greatest) (base : α) :
    (bounded zero value ofInt least greatest).Restores base number := by
  simp [Codec.Reads, bounded, above, below, inverse]

@[simp] theorem int64_restores (base value : Int64) : int64.Restores base value := by
  apply bounded_restores value (Int64.ofInt_toInt value)
  · exact value.le_toInt
  · exact Int.le_sub_one_of_lt value.toInt_lt

@[simp] theorem uint64_restores (base value : UInt64) : uint64.Restores base value := by
  apply bounded_restores value
  · simp
  · exact Int.natCast_nonneg _
  · have below := value.toNat_lt
    omega

@[simp] theorem uint32_restores (base value : UInt32) : uint32.Restores base value := by
  apply bounded_restores value
  · simp
  · exact Int.natCast_nonneg _
  · have below := value.toNat_lt
    omega

@[simp] theorem float64_restores [DoubleFormat] (base value : DoubleFormat.Double) :
    float64.Restores base value := by
  have parsed := DoubleFormat.parse_print value
  by_cases whole : (DoubleFormat.print value).2 = 0
  · rw [whole] at parsed
    simp [Codec.Reads, float64, whole, parsed]
  · simp [Codec.Reads, float64, whole, parsed]

@[simp] theorem raw_restores (base : Option Json) (value : Json) : raw.Restores base (some value) :=
  rfl

end Simple

variable {codec : Codec α} {values : List α}

theorem decodeItems_restores (restores : ∀ value ∈ values, codec.Restores codec.zero value) :
    decodeItems codec [] (values.map codec.encode) = .ok values := by
  induction values with
  | nil => rfl
  | cons value values induction =>
    have first := restores value mem_cons_self
    have others := induction (forall_mem_cons.mp restores).2
    rw [map_cons, decodeItems, headD_nil, first, tail_nil, others]
    rfl

@[simp] theorem slice_restores (restores : ∀ value ∈ values, codec.Restores codec.zero value) :
    (slice codec).Restores [] values :=
  decodeItems_restores restores

/-- Items which do not depend on what was there before are read back over any slice. -/
theorem slice_restores_over (restores : ∀ base, ∀ value ∈ values, codec.Restores base value)
    (base : List α) : (slice codec).Restores base values := by
  have items : ∀ present, decodeItems codec present (values.map codec.encode) = .ok values := by
    induction values with
    | nil => exact fun _ => rfl
    | cons value values induction =>
      intro present
      have first : codec.decode (present.headD codec.zero) (codec.encode value) = .ok value :=
        restores _ value mem_cons_self
      have others := induction
        (fun base other member => restores base other (mem_cons_of_mem _ member))
        present.tail
      rw [map_cons, decodeItems, first, others]
      rfl
  exact items base

@[simp] theorem mapOf_restores {map : StringMap α}
    (restores : ∀ entry ∈ map.entries, codec.Restores codec.zero entry.2) :
    (mapOf codec).Restores .nil map := by
  have each : ∀ (rest : List (String × α)) (known : StringMap α),
      ((known.entries ++ rest).map Prod.fst).Nodup →
      (∀ entry ∈ rest, codec.Restores codec.zero entry.2) →
      ∃ final, forEach (decodeEntry codec) known
        (rest.map fun entry => (entry.1, codec.encode entry.2)) = .ok final ∧
        final.entries = known.entries ++ rest := by
    intro rest
    induction rest with
    | nil => exact fun known _ _ => ⟨known, rfl, (append_nil _).symm⟩
    | cons entry rest induction =>
      intro known distinct restores
      have first := restores entry mem_cons_self
      have fresh : (known.assign entry).entries = known.entries ++ [entry] := by
        rw [map_append, nodup_append] at distinct
        have kept := filter_eq_self.mpr fun other member => decide_eq_true
            (distinct.2.2 _ (mem_map_of_mem member) _ mem_cons_self)
        exact congrArg (· ++ [entry]) kept
      have together : known.entries ++ entry :: rest = (known.assign entry).entries ++ rest := by
        rw [fresh, append_assoc, singleton_append]
      rw [together] at distinct ⊢
      rcases induction (known.assign entry) distinct (forall_mem_cons.mp restores).2
        with ⟨final, done, collected⟩
      refine ⟨final, ?_, collected⟩
      rw [map_cons, forEach, decodeEntry, first]
      exact done
  rcases each map.entries .nil map.distinct restores with ⟨final, done, collected⟩
  have equal := StringMap.ext collected
  rw [equal] at done
  exact done

variable {value : α}

theorem pointer_reads {document : Json} (filled : document ≠ .null)
    (read : codec.decode codec.zero document = .ok value) :
    (pointer codec).decode none document = .ok (some value) := by
  rw [pointer]
  cases document with
  | null => exact absurd rfl filled
  | _ =>
    simp only [Option.getD_none, read]
    rfl

theorem pointer_restores {value : Option α} (filled : ∀ content, codec.encode content ≠ .null)
    (restores : ∀ content ∈ value, codec.Restores codec.zero content) :
    (pointer codec).Restores none value := by
  cases value with
  | none => rfl
  | some content => exact pointer_reads (filled content) (restores content rfl)

theorem field_append (before after : Members) (name : String) (codec : Codec α) (base : α) :
    field (before ++ after) name codec base =
      field before name codec base >>= field after name codec := by
  induction before generalizing base with
  | nil => rfl
  | cons first before induction =>
    rw [cons_append, field, field, forEach, forEach]
    cases (if names first.1 name then codec.decode base first.2 else .ok base) with
    | error error => rfl
    | ok value => exact induction value

def Distinct (fields : List String) : Prop :=
  fields.Pairwise fun first second => names first second = false ∧ names second first = false

instance decidableDistinct (fields : List String) : Decidable (Distinct fields) :=
  inferInstanceAs (Decidable (Pairwise _ _))

section Structures

variable {σ : Type} {slot : Slot ρ} {slots : List (Slot ρ)} {name : String} (written : ρ)
  (codec : Codec α) (base : α)

theorem field_write :
    field (slot.write written) slot.name codec base =
      if slot.omits && slot.codec.empty (slot.get written) then .ok base
      else codec.decode base (slot.codec.encode (slot.get written)) := by
  have same : names slot.name slot.name = true := decide_eq_true rfl
  rw [Slot.write]
  split
  · rfl
  · rw [field, forEach, if_pos same]
    cases codec.decode base (slot.codec.encode (slot.get written)) with
    | error error => rfl
    | ok value => rfl

theorem field_write_other (different : names slot.name name = false) :
    field (slot.write written) name codec base = .ok base := by
  rw [Slot.write]
  split
  · rfl
  · rw [field, forEach, different]
    rfl

theorem field_others (different : ∀ slot ∈ slots, names slot.name name = false) :
    field (slots.flatMap (Slot.write written)) name codec base = .ok base := by
  induction slots with
  | nil => rfl
  | cons slot slots induction =>
    have both := forall_mem_cons.mp different
    rw [flatMap_cons, field_append, field_write_other _ _ _ both.1]
    exact induction both.2

/-- A field is read from the member which its slot wrote. -/
theorem field_slots (distinct : Distinct (slots.map Slot.name)) (member : slot ∈ slots) :
    field (slots.flatMap (Slot.write written)) slot.name codec base =
      field (slot.write written) slot.name codec base := by
  induction slots with
  | nil => cases member
  | cons first slots induction =>
    rw [map_cons, Distinct, pairwise_cons] at distinct
    rcases distinct with ⟨apart, distinct⟩
    rw [flatMap_cons, field_append]
    rcases mem_cons.mp member with rfl | later
    · cases field (slot.write written) slot.name codec base with
      | error error => rfl
      | ok value =>
        exact field_others written codec value
          fun other listed => (apart _ (mem_map_of_mem listed)).2
    · rw [field_write_other _ _ _ (apart _ (mem_map_of_mem later)).1]
      exact induction distinct later

variable {written} {base target : σ} {reader : Slot σ} {readers : List (Slot σ)} {strict lax : Bool}
  {zero : σ} {first : ρ}

/-- What a slot wrote is read over a structure as the field of another one. -/
def Slot.Reads (reader : Slot σ) (base target : σ) (slot : Slot ρ) (written : ρ) : Prop :=
  if slot.omits && slot.codec.empty (slot.get written) then reader.get base = reader.get target
  else reader.codec.decode (reader.get base) (slot.codec.encode (slot.get written)) =
    .ok (reader.get target)

theorem field_reads (distinct : Distinct (slots.map Slot.name)) (member : slot ∈ slots)
    (named : slot.name = reader.name) (reads : reader.Reads base target slot written) :
    field (slots.flatMap (Slot.write written)) reader.name reader.codec (reader.get base) =
      .ok (reader.get target) := by
  rw [← named, field_slots _ _ _ distinct member, field_write]
  rw [Slot.Reads] at reads
  split at reads
  · next omitted => rw [if_pos omitted, reads]
  · next kept => rw [if_neg kept, reads]

/-- A structure is read from the document of another one. -/
theorem struct_reads_from (distinct : Distinct (slots.map Slot.name))
    (recognized : strict = true → ∀ slot ∈ slots, slot.name ∈ readers.map Slot.name)
    (found : ∀ reader ∈ readers, ∃ slot ∈ slots, slot.name = reader.name ∧
      reader.Reads base target slot written)
    (whole : readers.foldl (fun current reader => reader.set current (reader.get target)) base =
      target) :
    (struct strict zero readers).decode base ((struct lax first slots).encode written) =
      .ok target := by
  have passes : (!strict || (slots.flatMap (Slot.write written)).all fun member =>
      (readers.map Slot.name).any (names member.1)) = true := by
    cases strict with
    | false => rfl
    | true =>
      apply all_eq_true.mpr
      intro entry listed
      rcases mem_flatMap.mp listed with ⟨slot, member, listed⟩
      rw [Slot.write] at listed
      split at listed
      · cases listed
      · rw [mem_singleton.mp listed]
        exact any_eq_true.mpr ⟨_, recognized rfl slot member, decide_eq_true rfl⟩
  have each : ∀ (rest : List (Slot σ)) (current : σ), (∀ reader ∈ rest, reader ∈ readers) →
      rest.foldlM (Slot.read (slots.flatMap (Slot.write written)) base) current =
        .ok (rest.foldl (fun current reader => reader.set current (reader.get target))
          current) := by
    intro rest
    induction rest with
    | nil => exact fun _ _ => rfl
    | cons reader rest induction =>
      intro current listed
      have both := forall_mem_cons.mp listed
      rcases found reader both.1 with ⟨slot, member, named, reads⟩
      rw [foldlM_cons, Slot.read, field_reads distinct member named reads]
      exact induction _ both.2
  simp only [struct, record, check, if_pos passes, each readers base fun _ => id, whole]
  rfl

variable {base value target : ρ} {zero : ρ}

theorem struct_reads (distinct : Distinct (slots.map Slot.name))
    (reads : ∀ slot ∈ slots, slot.Reads base target slot value)
    (whole : slots.foldl (fun current slot => slot.set current (slot.get target)) base = target) :
    (struct strict zero slots).decode base ((struct lax first slots).encode value) = .ok target :=
  struct_reads_from distinct (fun _ _ member => mem_map_of_mem member)
    (fun slot member => ⟨slot, member, rfl, reads slot member⟩) whole

/-- A value which is left out when it is empty, and then remains what it was. -/
def Codec.Omits (codec : Codec α) (base value target : α) : Prop :=
  if codec.empty value then base = target else codec.Reads base value target

@[simp] theorem always_reads {get : ρ → α} {set : ρ → α → ρ} :
    (Slot.always name codec get set).Reads base target (.always name codec get set) value ↔
      codec.Reads (get base) (get value) (get target) := by
  simp [Slot.Reads, Slot.always, Codec.Reads]

@[simp] theorem omitempty_reads {get : ρ → α} {set : ρ → α → ρ} :
    (Slot.omitempty name codec get set).Reads base target (.omitempty name codec get set) value ↔
      codec.Omits (get base) (get value) (get target) := by
  simp [Slot.Reads, Slot.omitempty, Codec.Omits, Codec.Reads]

@[simp] theorem struct_zero : (struct strict zero slots).zero = zero := rfl

end Structures

section Omitted

variable {base : α}

theorem omits_of (restores : codec.Restores base value)
    (omitted : codec.empty value = true → base = value) : codec.Omits base value value := by
  rw [Codec.Omits]
  split
  · next empty => exact omitted empty
  · exact restores

/-- A value which may be left out, read over one which then remains. -/
theorem omits_kept {omitted : Prop} [Decidable omitted]
    (empty : codec.empty value = true ↔ omitted) (restores : codec.Restores base value) :
    codec.Omits base value (if omitted then base else value) := by
  rw [Codec.Omits]
  by_cases held : omitted
  · rw [if_pos (empty.mpr held), if_pos held]
  · rw [if_neg (mt empty.mp held), if_neg held]
    exact restores

@[simp] theorem text_omits (value : String) : text.Omits "" value value :=
  omits_of (text_restores _ _) fun empty => (of_decide_eq_true empty).symm

@[simp] theorem boolean_omits (value : Bool) : boolean.Omits false value value :=
  omits_of (boolean_restores _ _) fun empty => by cases value <;> [rfl; cases empty]

@[simp] theorem int64_omits (value : Int64) : int64.Omits 0 value value := by
  apply omits_of (int64_restores _ _)
  intro empty
  have zero : value.toInt = 0 := of_decide_eq_true empty
  exact (Int64.toInt_inj.mp zero).symm

@[simp] theorem uint32_omits (value : UInt32) : uint32.Omits 0 value value := by
  apply omits_of (uint32_restores _ _)
  intro empty
  have zero : (value.toNat : Int) = 0 := of_decide_eq_true empty
  exact (UInt32.toNat_inj.mp (Int.natCast_eq_zero.mp zero)).symm

@[simp] theorem float64_omits [DoubleFormat] (value : DoubleFormat.Double) :
    float64.Omits DoubleFormat.zero value value :=
  omits_of (float64_restores _ _) fun empty => (DoubleFormat.eq_zero value empty).symm

@[simp] theorem slice_omits (restores : ∀ value ∈ values, codec.Restores codec.zero value) :
    (slice codec).Omits [] values values :=
  omits_of (slice_restores restores) fun empty => (isEmpty_iff.mp empty).symm

@[simp] theorem mapOf_omits {map : StringMap α}
    (restores : ∀ entry ∈ map.entries, codec.Restores codec.zero entry.2) :
    (mapOf codec).Omits .nil map map :=
  omits_of (mapOf_restores restores) fun empty => StringMap.ext (isEmpty_iff.mp empty).symm

theorem pointer_omits {value : Option α} (filled : ∀ content, codec.encode content ≠ .null)
    (restores : ∀ content ∈ value, codec.Restores codec.zero content) :
    (pointer codec).Omits none value value :=
  omits_of (pointer_restores filled restores) fun empty => (Option.isNone_iff_eq_none.mp empty).symm

end Omitted

end Coldsnap.Marshal
