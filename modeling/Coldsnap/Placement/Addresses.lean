import Coldsnap.Foundation.Go
import Mathlib.Data.String.Basic

/-! # Addresses and their mapping

Addresses as `net/netip` and the CRIU images have them, and `parseTCPAddressMap` of
`cmd/coldsnap-criu-rpc/internal/criurpc/runner.go`.
-/

namespace Coldsnap.Placement

open Go List

/-- A `netip.Addr` without a zone, in the words of a CRIU image: four bytes of the address
each, the first one lowest. -/
inductive Address where
  | ip4 (word : UInt32)
  | ip6 (first second third fourth : UInt32)
deriving DecidableEq, Repr

namespace Address

def byte (word : UInt32) (index : Nat) : Nat := word.toNat / 256 ^ index % 256

/-- The third word of the IPv6 addresses `::ffff:a.b.c.d`. -/
def mappedMark : UInt32 := 0xFFFF0000

def unmap : Address → Address
  | ip6 first second third fourth =>
    if first = 0 ∧ second = 0 ∧ third = mappedMark then ip4 fourth
    else ip6 first second third fourth
  | ip4 word => ip4 word

def is4 : Address → Bool
  | ip4 _ => true
  | ip6 .. => false

def isUnspecified : Address → Bool
  | ip4 word => word = 0
  | ip6 first second third fourth => first = 0 && second = 0 && third = 0 && fourth = 0

def isLoopback : Address → Bool
  | ip4 word => byte word 0 = 127
  | ip6 first second third fourth =>
    first = 0 && second = 0 && third = 0 && fourth = 0x01000000

def isMulticast : Address → Bool
  | ip4 word => byte word 0 / 16 = 14
  | ip6 first _ _ _ => byte first 0 = 255

def isLinkLocalUnicast : Address → Bool
  | ip4 word => byte word 0 = 169 && byte word 1 = 254
  | ip6 first _ _ _ => byte first 0 = 254 && byte first 1 / 64 = 2

theorem unmap_unmap (address : Address) : address.unmap.unmap = address.unmap := by
  cases address with
  | ip4 word => rfl
  | ip6 first second third fourth =>
    by_cases mapped : first = 0 ∧ second = 0 ∧ third = mappedMark
    · rw [unmap, if_pos mapped]
      rfl
    · rw [unmap, if_neg mapped, unmap, if_neg mapped]

end Address

open Address

def portablePlacementAddress (address : Address) : Bool :=
  !address.isUnspecified && !address.isLoopback && !address.isMulticast &&
    !address.isLinkLocalUnicast

def decodeCRIUAddress : List UInt32 → Option Address
  | [word] => some (.ip4 word)
  | [first, second, third, fourth] => some (.ip6 first second third fourth)
  | _ => none

def encodeCRIUAddress (address : Address) (words : Nat) : Result (List UInt32) :=
  if words = 1 then
    match address with
    | .ip4 word => .ok [word]
    | .ip6 .. => .error "cannot encode an IPv6 destination in an IPv4 CRIU socket"
  else if words = 4 then
    match address with
    | .ip4 word => .ok [0, 0, mappedMark, word]
    | .ip6 first second third fourth => .ok [first, second, third, fourth]
  else .error "CRIU socket address has an invalid word count"

/-- Printing and parsing of `net/netip`. Texts with a zone count as unparsable, since all
callers refuse them. -/
class Netip where
  parseAddr : String → Option Address
  text : Address → String
  parse_text : ∀ address, parseAddr (text address) = some address
  text_plain : ∀ address, '=' ∉ (text address).toList ∧ (text address).toList ≠ []

/-! ## The mapping -/

structure AddressMap where
  entries : List (Address × Address)
  sources : (entries.map Prod.fst).Nodup
  targets : (entries.map Prod.snd).Nodup
  family : ∀ entry ∈ entries, entry.1.is4 = entry.2.is4
  unmapped : ∀ entry ∈ entries, entry.1.unmap = entry.1 ∧ entry.2.unmap = entry.2
  portable : ∀ entry ∈ entries,
    portablePlacementAddress entry.1 = true ∧ portablePlacementAddress entry.2 = true

namespace AddressMap

def empty : AddressMap where
  entries := []
  sources := nodup_nil
  targets := nodup_nil
  family := by simp
  unmapped := by simp
  portable := by simp

def lookup (mapping : AddressMap) (address : Address) : Option Address :=
  mapping.entries.lookup address

variable {mapping : AddressMap} {source target : Address}

theorem lookup_iff : mapping.lookup source = some target ↔ (source, target) ∈ mapping.entries :=
  lookup_of_nodup mapping.sources

theorem lookup_inj {first second : Address} (left : mapping.lookup first = some target)
    (right : mapping.lookup second = some target) : first = second := by
  rw [lookup_iff] at left right
  have same := inj_on_of_nodup_map mapping.targets left right rfl
  exact congrArg Prod.fst same

theorem lookup_unmapped (found : mapping.lookup source = some target) :
    source.unmap = source ∧ target.unmap = target ∧ source.is4 = target.is4 := by
  have member := lookup_iff.mp found
  have plain := mapping.unmapped _ member
  exact ⟨plain.1, plain.2, mapping.family _ member⟩

end AddressMap

def cut (text : String) : Option (String × String) :=
  let before := text.toList.takeWhile (· ≠ '=')
  match text.toList.drop before.length with
  | [] => none
  | _ :: after => some (.ofList before, .ofList after)

def splitMapping (value : String) : Result (String × String) :=
  match cut value with
  | none => .error s!"invalid --tcp-address-map {quoted value}: expected OLD=NEW"
  | some (old, new) =>
    if old = "" ∨ new = "" ∨ '=' ∈ new.toList then
      .error s!"invalid --tcp-address-map {quoted value}: expected OLD=NEW"
    else .ok (old, new)

variable {value : String}

theorem splitMapping_cut {parts : String × String} (split : splitMapping value = .ok parts)
    : cut value = some parts := by
  rw [splitMapping] at split
  split at split
  · cases split
  · rename_i cutText
    split at split
    · cases split
    · rw [cutText, Except.ok.inj split]

def AddressMap.add (mapping : AddressMap) (value : String) (old new : Address) :
    Result AddressMap :=
  if refused : old.unmap.is4 ≠ new.unmap.is4 ∨ portablePlacementAddress old.unmap = false ∨
      portablePlacementAddress new.unmap = false then
    .error s!"unsafe or cross-family --tcp-address-map {quoted value}"
  else if known : old.unmap ∈ mapping.entries.map Prod.fst then
    .error s!"duplicate captured address in --tcp-address-map {quoted value}"
  else if used : new.unmap ∈ mapping.entries.map Prod.snd then
    .error s!"duplicate destination address in --tcp-address-map {quoted value}"
  else
    .ok {
      entries := (old.unmap, new.unmap) :: mapping.entries
      sources := nodup_cons.mpr ⟨known, mapping.sources⟩
      targets := nodup_cons.mpr ⟨used, mapping.targets⟩
      family := by
        rw [forall_mem_cons]
        exact ⟨by by_contra other; exact refused (.inl other), mapping.family⟩
      unmapped := by
        rw [forall_mem_cons]
        exact ⟨⟨unmap_unmap old, unmap_unmap new⟩, mapping.unmapped⟩
      portable := by
        rw [forall_mem_cons]
        refine ⟨⟨?_, ?_⟩, mapping.portable⟩
        · cases known : portablePlacementAddress old.unmap with
          | true => rfl
          | false => exact absurd (.inr (.inl known)) refused
        · cases known : portablePlacementAddress new.unmap with
          | true => rfl
          | false => exact absurd (.inr (.inr known)) refused }

variable {mapping next : AddressMap} {old new : Address}

theorem AddressMap.add_ok (added : mapping.add value old new = .ok next) :
    next.entries = (old.unmap, new.unmap) :: mapping.entries := by
  unfold add at added
  split at added
  · cases added
  · split at added
    · cases added
    · split at added
      · cases added
      · cases added
        rfl

open Netip

variable [Netip]

def addMapping (mapping : AddressMap) (value : String) : Result AddressMap := do
  let (oldText, newText) ← splitMapping value
  match parseAddr oldText with
  | none => .error s!"invalid captured address in --tcp-address-map {quoted value}"
  | some old =>
    match parseAddr newText with
    | none => .error s!"invalid destination address in --tcp-address-map {quoted value}"
    | some new => mapping.add value old new

def parseTCPAddressMap (values : List String) : Result AddressMap := do
  check (values.length ≤ 64) "--tcp-address-map exceeds 64 entries"
  forEach addMapping .empty values

def mappingText (old new : Address) : String := text old ++ "=" ++ text new

omit [Netip] in
theorem takeWhile_until {stop : Char} {before : List Char} (absent : stop ∉ before)
    (after : List Char) : (before ++ stop :: after).takeWhile (· ≠ stop) = before := by
  rw [takeWhile_append_of_pos]
  · simp
  · intro character member
    simp only [ne_eq, decide_not, Bool.not_eq_true', decide_eq_false_iff_not]
    exact fun equal => absent (equal ▸ member)

theorem splitMapping_text (old new : Address) :
    splitMapping (mappingText old new) = .ok (text old, text new) := by
  rcases text_plain old with ⟨oldPlain, oldSome⟩
  rcases text_plain new with ⟨newPlain, newSome⟩
  have whole : (mappingText old new).toList = (text old).toList ++ '=' :: (text new).toList := by
    simp [mappingText]
  have before : (mappingText old new).toList.takeWhile (· ≠ '=') = (text old).toList := by
    rw [whole, takeWhile_until oldPlain]
  have cutText : cut (mappingText old new) = some (text old, text new) := by
    simp only [cut, before]
    rw [whole, drop_left]
    simp
  have oldText : text old ≠ "" := fun equal => oldSome (by rw [equal]; rfl)
  have newText : text new ≠ "" := fun equal => newSome (by rw [equal]; rfl)
  simp [splitMapping, cutText, oldText, newText, newPlain]

/-- The two addresses which an entry names. -/
def Moves (value : String) (old new : Address) : Prop :=
  ∃ oldText newText, splitMapping value = .ok (oldText, newText) ∧
    parseAddr oldText = some old ∧ parseAddr newText = some new

theorem addMapping_ok (added : addMapping mapping value = .ok next) :
    ∃ old new, Moves value old new ∧ next.entries = (old.unmap, new.unmap) :: mapping.entries := by
  simp only [addMapping, bind_eq_ok] at added
  rcases added with ⟨⟨oldText, newText⟩, split, parsed⟩
  cases oldParsed : parseAddr oldText with
  | none =>
    rw [oldParsed] at parsed
    cases parsed
  | some old =>
    cases newParsed : parseAddr newText with
    | none =>
      rw [oldParsed, newParsed] at parsed
      cases parsed
    | some new =>
      rw [oldParsed, newParsed] at parsed
      exact ⟨old, new, ⟨oldText, newText, split, oldParsed, newParsed⟩, AddressMap.add_ok parsed⟩

theorem addMapping_keeps (added : addMapping mapping value = .ok next)
    : mapping.entries ⊆ next.entries := by
  rcases addMapping_ok added with ⟨_, _, _, entries⟩
  rw [entries]
  exact subset_cons_self _ _

variable {values : List String} (parsed : parseTCPAddressMap values = .ok mapping)

include parsed

theorem parseTCPAddressMap_reads (listed : value ∈ values) :
    ∃ old new, Moves value old new ∧ mapping.lookup old.unmap = some new.unmap := by
  simp only [parseTCPAddressMap, bind_eq_ok, check_eq_ok, decide_eq_true_eq] at parsed
  rcases parsed with ⟨_, _, looped⟩
  have established := forEach_establishes
    (fun (value : String) (state : AddressMap) => ∃ old new, Moves value old new ∧
      (old.unmap, new.unmap) ∈ state.entries)
    (fun added => by
      rcases addMapping_ok added with ⟨_, _, names, entries⟩
      refine ⟨_, _, names, ?_⟩
      rw [entries]
      exact mem_cons_self)
    (fun reached added => by
      rcases reached with ⟨_, _, names, inside⟩
      exact ⟨_, _, names, addMapping_keeps added inside⟩)
    looped
  rcases established value listed with ⟨_, _, names, inside⟩
  exact ⟨_, _, names, AddressMap.lookup_iff.mpr inside⟩

/-- Whatever the adapter lists, the mapping contains. -/
theorem parseTCPAddressMap_lookup (listed : mappingText old new ∈ values) :
    mapping.lookup old.unmap = some new.unmap := by
  rcases parseTCPAddressMap_reads parsed listed with
    ⟨readOld, readNew, ⟨oldText, newText, split, oldParsed, newParsed⟩, found⟩
  rw [splitMapping_text] at split
  cases split
  rw [parse_text] at oldParsed newParsed
  cases oldParsed
  cases newParsed
  exact found

end Coldsnap.Placement
