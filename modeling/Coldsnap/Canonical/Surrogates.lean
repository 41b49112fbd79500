import Coldsnap.Canonical.Agreement

/-! # Lone surrogates are visible

A written document can be scanned for its `\uXXXX` escapes. It shows an unpaired
surrogate exactly if a text of the value holds one, so a document with such a text is
written differently by Go and by Python.
-/

namespace Coldsnap.Canonical

open Python Unicode Numerals List Checked

/-- The `\uXXXX` escapes of a written document; everything else counts as `none`. -/
def scan : List Char → List (Option Nat)
  | '\\' :: 'u' :: first :: second :: third :: fourth :: rest =>
    some (fourHexValue first second third fourth) :: scan rest
  | '\\' :: _ :: rest => none :: scan rest
  | _ :: rest => none :: scan rest
  | [] => []

variable {character : Char}

theorem scan_other (free : character ≠ '\\') (rest : List Char) :
    scan (character :: rest) = none :: scan rest := by
  rw [scan]
  · intro first second third fourth others equal
    exact absurd equal free
  · intro other others equal
    exact absurd equal free

theorem scan_short (free : character ≠ 'u') (rest : List Char) :
    scan ('\\' :: character :: rest) = none :: scan rest := by
  rw [scan]
  intro first second third fourth others equal
  exact absurd equal free

theorem scan_escape {unit : Nat} (small : unit < 65536) (rest : List Char) :
    scan (unicodeEscape unit ++ rest) = some unit :: scan rest := by
  rw [unicodeEscape, hexDigits, cons_append, cons_append, cons_append, cons_append, cons_append,
    cons_append, nil_append, scan, fourHexValue_hexDigits small]

/-- Characters which are written without `\u`. -/
def Spelled (code : Nat) : Prop :=
  0x20 ≤ code ∧ code ≤ 0x7E ∨ code = 0x08 ∨ code = 0x0C ∨ code = 0x0A ∨ code = 0x0D ∨ code = 0x09

instance (code : Nat) : Decidable (Spelled code) := inferInstanceAs (Decidable (_ ∨ _))

def units (code : Nat) : List (Option Nat) :=
  if Spelled code then [none]
  else if code < 0x10000 then [some code]
  else [some (highOf code), some (lowOf code)]

variable {code : Nat}

theorem toNat_ofNat_printable (printable : code ≤ 0x7E) : (Char.ofNat code).toNat = code := by
  have all : ∀ small : Fin 0x7F, (Char.ofNat small.val).toNat = small.val := by decide
  exact all ⟨code, by omega⟩

theorem scan_character (code : Nat) (rest : List Char) :
    scan (pythonCharacter code ++ rest) = units code ++ scan rest := by
  have high := isHigh_iff.mp (highOf_high code)
  have low := isLow_iff.mp (lowOf_low code)
  have spelled : ∀ {spelling}, Spelled code → scan (spelling ++ rest) = none :: scan rest →
      scan (spelling ++ rest) = units code ++ scan rest := by
    intro spelling holds scanned
    rw [scanned, units, if_pos holds]
    rfl
  unfold Spelled at spelled
  unfold pythonCharacter
  split
  · next printable =>
      have free : Char.ofNat code ≠ '\\' := by
        intro equal
        have same := congrArg Char.toNat equal
        rw [toNat_ofNat_printable printable.2.1] at same
        exact printable.2.2.1 same
      exact spelled (by omega) (scan_other free rest)
  iterate 7
    split
    · exact spelled (by omega) (scan_short (by decide) rest)
  have unspelled : ¬Spelled code := by
    unfold Spelled
    omega
  rw [units, if_neg unspelled]
  split
  · rw [if_neg (by omega), append_assoc, scan_escape (by omega), scan_escape (by omega)]
    rfl
  · rw [if_pos (by omega), scan_escape (by omega)]
    rfl

/-- A surrogate which is not part of a pair. -/
def lone : List (Option Nat) → Bool
  | [] => false
  | none :: rest => lone rest
  | some unit :: some next :: rest =>
    if isHigh unit && isLow next then lone rest
    else isSurrogate unit || lone (some next :: rest)
  | some unit :: rest => isSurrogate unit || lone rest

theorem lone_unit {unit : Nat} {rest : List (Option Nat)}
    (unpaired : ∀ next others, rest = some next :: others → (isHigh unit && isLow next) = false) :
    lone (some unit :: rest) = (isSurrogate unit || lone rest) := by
  cases rest with
  | nil => rfl
  | cons first others =>
    cases first with
    | none => rfl
    | some next => rw [lone, if_neg (by simp [unpaired next others rfl])]

theorem lone_pair (code : Nat) (rest : List (Option Nat)) :
    lone (some (highOf code) :: some (lowOf code) :: rest) = lone rest := by
  rw [lone, if_pos (by simp [highOf_high, lowOf_low])]

/-- No high surrogate is followed by a low one: a pair is one code point. -/
def settled : Text → Bool
  | [] => true
  | [_] => true
  | first :: second :: rest => !(isHigh first && isLow second) && settled (second :: rest)

variable {text : Text}

theorem not_surrogate (outside : code < 0xD800 ∨ 0xDFFF < code) : isSurrogate code = false := by
  simp only [isSurrogate, Bool.and_eq_false_iff, decide_eq_false_iff_not]
  omega

theorem not_high (clean : isSurrogate code = false) (next : Nat) :
    (isHigh code && isLow next) = false := by
  cases high : isHigh code with
  | false => rfl
  | true =>
    rw [isSurrogate_iff.mpr (.inl high)] at clean
    cases clean

theorem not_low (clean : isSurrogate code = false) (before : Nat) :
    (isHigh before && isLow code) = false := by
  cases low : isLow code with
  | false => rw [Bool.and_false]
  | true =>
    rw [isSurrogate_iff.mpr (.inr low)] at clean
    cases clean

theorem settled_cons {first : Nat} (unpaired : ∀ second others, text = second :: others →
      (isHigh first && isLow second) = false)
    (rest : settled text = true) : settled (first :: text) = true := by
  cases text with
  | nil => rfl
  | cons second others => rw [settled, unpaired second others rfl, rest]; rfl

theorem settled_of_plain (clean : plain text = true) : settled text = true := by
  induction text with
  | nil => rfl
  | cons first rest induction =>
    simp only [plain, all_cons, Bool.and_eq_true, Bool.not_eq_true'] at clean
    exact settled_cons (fun second _ _ => not_high clean.1 second) (induction clean.2)

/-- The first code point of a string which begins with an escape: that unit, or the
pair it starts. -/
theorem pythonText_unicode (unit : UInt16) (rest : List StringItem) :
    ∃ code others, pythonText (.unicode unit :: rest) = code :: others ∧
      (code = unit.toNat ∨ 0x10000 ≤ code) := by
  cases rest with
  | nil => exact ⟨_, _, rfl, .inl rfl⟩
  | cons second rest =>
    cases second with
    | literal character => exact ⟨_, _, rfl, .inl rfl⟩
    | short escape => exact ⟨_, _, rfl, .inl rfl⟩
    | unicode second =>
      rw [pythonText]
      split
      · exact ⟨_, _, rfl, .inr (combine_large _ _)⟩
      · exact ⟨_, _, rfl, .inl rfl⟩

theorem settled_pythonText (items : List StringItem) : settled (pythonText items) = true := by
  induction items using pythonText.induct with
  | case1 => rfl
  | case2 first second rest pair induction =>
    rw [pythonText, if_pos pair]
    apply settled_cons _ induction
    intro next others _
    have large := combine_large first.toNat second.toNat
    exact not_high (not_surrogate (by omega)) next
  | case3 first second rest pair induction =>
    rw [pythonText, if_neg pair]
    apply settled_cons _ induction
    intro next others equal
    rcases pythonText_unicode second rest with ⟨code, later, begins, which⟩
    rw [begins] at equal
    cases equal
    rcases which with same | large
    · rw [same]
      simpa using pair
    · exact not_low (not_surrogate (by omega)) _
  | case4 item rest alone induction =>
    rw [pythonText]
    · apply settled_cons _ induction
      intro next others equal
      cases item with
      | literal character => exact not_high (literal_plain character) next
      | short escape => exact not_high (short_plain escape) next
      | unicode unit =>
        -- What follows the unit is not an escape, so it is no surrogate.
        cases rest with
        | nil => cases equal
        | cons second later =>
          cases second with
          | literal character =>
            cases equal
            exact not_low (literal_plain character) _
          | short escape =>
            cases equal
            exact not_low (short_plain escape) _
          | unicode second => exact (alone unit second later rfl rfl).elim
    · exact alone

/-- A quoted text shows an unpaired surrogate exactly if it holds one. -/
theorem lone_units (pairs : settled text = true) (rest : List (Option Nat)) :
    lone (text.flatMap units ++ none :: rest) = (!plain text || lone rest) := by
  induction text with
  | nil => rfl
  | cons code text induction =>
    have tail : settled text = true := by
      cases text with
      | nil => rfl
      | cons second others =>
        simp only [settled, Bool.and_eq_true] at pairs
        exact pairs.2
    have deeper := induction tail
    have split : plain (code :: text) = (!isSurrogate code && plain text) := rfl
    rw [flatMap_cons, append_assoc, split]
    by_cases spelled : Spelled code
    · rw [units, if_pos spelled, not_surrogate (by unfold Spelled at spelled; omega)]
      exact deeper
    · rw [units, if_neg spelled]
      by_cases small : code < 0x10000
      · rw [if_pos small, singleton_append, lone_unit, deeper]
        · cases isSurrogate code <;> rfl
        · intro next others equal
          cases text with
          | nil => cases equal
          | cons second later =>
            simp only [settled, Bool.and_eq_true, Bool.not_eq_true'] at pairs
            rw [flatMap_cons, append_assoc, units] at equal
            split at equal
            · cases equal
            · split at equal
              · cases equal
                exact pairs.1
              · have high := isHigh_iff.mp (highOf_high second)
                cases equal
                have notLow : isLow (highOf second) = false := by
                  simp only [isLow, Bool.and_eq_false_iff, decide_eq_false_iff_not]
                  omega
                rw [notLow, Bool.and_false]
      · rw [if_neg small, not_surrogate (by omega)]
        exact (lone_pair code _).trans deeper

def shows (written : List Char) : Bool := lone (scan written)

/-- A part which neither begins nor ends within a surrogate pair. -/
def Solid (part : List Char) : Prop := ∀ rest, shows (part ++ rest) = (shows part || shows rest)

theorem Solid.nil : Solid [] := fun _ => rfl

theorem Solid.append {left right : List Char} (first : Solid left) (second : Solid right) :
    Solid (left ++ right) := by
  intro rest
  rw [append_assoc, first, second, first, Bool.or_assoc]

theorem solid_other (free : character ≠ '\\') : Solid [character] ∧ shows [character] = false := by
  refine ⟨?_, ?_⟩
  · intro rest
    rw [shows, shows, singleton_append, scan_other free, scan_other free]
    rfl
  · rw [shows, scan_other free]
    rfl

variable {part : List Char}

theorem solid_free (free : ∀ character ∈ part, character ≠ '\\') :
    Solid part ∧ shows part = false := by
  induction part with
  | nil => exact ⟨.nil, rfl⟩
  | cons character part induction =>
    rcases solid_other (free character mem_cons_self) with ⟨first, quiet⟩
    rcases induction (forall_mem_cons.mp free).2 with ⟨rest, silent⟩
    refine ⟨first.append rest, ?_⟩
    exact (first part).trans (by rw [quiet, silent]; rfl)

theorem solid_of_all (free : (part.all fun character => character ≠ '\\') = true) :
    Solid part ∧ shows part = false := by
  apply solid_free
  intro character member
  exact of_decide_eq_true (all_eq_true.mp free character member)

theorem Solid.within {opening closing : Char} (solid : Solid part) (opens : opening ≠ '\\')
    (closes : closing ≠ '\\') :
    Solid (opening :: (part ++ [closing])) ∧
      shows (opening :: (part ++ [closing])) = shows part := by
  rcases solid_other opens with ⟨first, quiet⟩
  rcases solid_other closes with ⟨last, silent⟩
  refine ⟨first.append (solid.append last), ?_⟩
  refine (first (part ++ [closing])).trans ?_
  rw [quiet, solid, silent, Bool.or_false, Bool.false_or]

theorem joined_cons (part next : List Char) (parts : List (List Char)) :
    joined (part :: next :: parts) = part ++ ([','] ++ joined (next :: parts)) := by
  simp [joined, intercalate]

theorem solid_joined {parts : List (List Char)} (solid : ∀ part ∈ parts, Solid part) :
    Solid (joined parts) ∧ shows (joined parts) = parts.any shows := by
  induction parts with
  | nil => exact ⟨.nil, rfl⟩
  | cons part parts induction =>
    have first := solid part mem_cons_self
    cases parts with
    | nil =>
      have single : joined [part] = part := by simp [joined, intercalate]
      rw [single]
      exact ⟨first, by simp⟩
    | cons next parts =>
      rcases induction (forall_mem_cons.mp solid).2 with ⟨rest, shown⟩
      rcases @solid_other ',' (by decide) with ⟨comma, quiet⟩
      rw [joined_cons]
      refine ⟨first.append (comma.append rest), ?_⟩
      rw [first, comma, quiet, Bool.false_or, shown]
      rfl

theorem scan_text (text : Text) (rest : List Char) :
    scan (text.flatMap pythonCharacter ++ rest) = text.flatMap units ++ scan rest := by
  induction text with
  | nil => rfl
  | cons code text induction =>
    rw [flatMap_cons, append_assoc, scan_character, induction, flatMap_cons, append_assoc]

theorem solid_quoted (pairs : settled text = true) :
    Solid (Style.python.quoted text) ∧ shows (Style.python.quoted text) = !plain text := by
  have shown : ∀ rest, shows (Style.python.quoted text ++ rest) = (!plain text || shows rest) := by
    intro rest
    have written : Style.python.quoted text ++ rest =
        '"' :: (text.flatMap pythonCharacter ++ ('"' :: rest)) := by
      simp [Style.quoted, Style.python]
    rw [shows, written, scan_other (by decide), scan_text, scan_other (by decide), lone,
      lone_units pairs]
    rfl
  have alone : shows (Style.python.quoted text) = !plain text := by
    have nothing := shown []
    rwa [append_nil, shows, shows, scan, lone, Bool.or_false] at nothing
  exact ⟨fun rest => by rw [shown, alone], alone⟩

theorem integerText_free (value : Int) : ∀ character ∈ integerText value, character ≠ '\\' := by
  have digits : ∀ character ∈ Nat.toDigits 10 value.natAbs, character ≠ '\\' := by
    intro character member equal
    have digit := Nat.isDigit_of_mem_toDigits (by decide) (by decide) member
    rw [equal] at digit
    exact absurd digit (by decide)
  rw [integerText]
  split
  · exact forall_mem_cons.mpr ⟨by decide, digits⟩
  · exact digits

def spellField (field : Text × List Char) : List Char :=
  Style.python.quoted field.1 ++ ':' :: field.2

theorem solid_field {field : Text × List Char} (pairs : settled field.1 = true)
    (solid : Solid field.2) :
    Solid (spellField field) ∧ shows (spellField field) = (!plain field.1 || shows field.2) := by
  rcases solid_quoted pairs with ⟨name, shown⟩
  rcases @solid_other ':' (by decide) with ⟨colon, quiet⟩
  refine ⟨name.append (colon.append solid), ?_⟩
  have after : shows (':' :: field.2) = shows field.2 := by
    refine (colon field.2).trans ?_
    rw [quiet, Bool.false_or]
  refine (name (':' :: field.2)).trans ?_
  rw [shown, after]

mutual
/-- A written value shows an unpaired surrogate exactly if a text of it holds one. -/
theorem Value.write_shows : ∀ value : Value, value.every settled = true →
    Solid (value.write .python) ∧ shows (value.write .python) = !value.every plain
  | .null, _ => solid_of_all (by decide)
  | .boolean true, _ => solid_of_all (by decide)
  | .boolean false, _ => solid_of_all (by decide)
  | .integer value, _ => solid_free (integerText_free value)
  | .text _, pairs => solid_quoted pairs
  | .array items, pairs => by
    rcases Values.write_shows items pairs with ⟨solid, shown⟩
    rcases solid_joined solid with ⟨whole, found⟩
    rcases whole.within (show '[' ≠ '\\' by decide) (show ']' ≠ '\\' by decide) with
      ⟨bracketed, same⟩
    exact ⟨bracketed, same.trans (found.trans shown)⟩
  | .object fields, pairs => by
    rcases Fields.write_shows fields pairs with ⟨solid, shown⟩
    have perm := sortedOn_perm Prod.fst (fields.writeEach .python)
    have parts : ∀ part ∈ (sortedOn Prod.fst (fields.writeEach .python)).map spellField,
        Solid part := by
      rw [forall_mem_map]
      intro field inside
      exact (solid field (perm.mem_iff.mp inside)).1
    rcases solid_joined parts with ⟨whole, found⟩
    rcases whole.within (show '{' ≠ '\\' by decide) (show '}' ≠ '\\' by decide) with
      ⟨braced, same⟩
    refine ⟨braced, same.trans (found.trans ?_)⟩
    rw [(perm.map spellField).any_eq]
    exact shown

theorem Values.write_shows : ∀ values : Values, values.every settled = true →
    (∀ part ∈ values.writeEach .python, Solid part) ∧
      (values.writeEach .python).any shows = !values.every plain
  | .nil, _ => ⟨nofun, rfl⟩
  | .cons head tail, pairs => by
    simp only [Values.every, Bool.and_eq_true] at pairs
    rcases Value.write_shows head pairs.1 with ⟨first, shown⟩
    rcases Values.write_shows tail pairs.2 with ⟨rest, others⟩
    refine ⟨forall_mem_cons.mpr ⟨first, rest⟩, ?_⟩
    rw [Values.writeEach, any_cons, shown, others, Values.every, Bool.not_and]

theorem Fields.write_shows : ∀ fields : Fields, fields.every settled = true →
    (∀ field ∈ fields.writeEach .python, Solid (spellField field) ∧
      shows (spellField field) = (!plain field.1 || shows field.2)) ∧
      ((fields.writeEach .python).map spellField).any shows = !fields.every plain
  | .nil, _ => ⟨nofun, rfl⟩
  | .cons name value tail, pairs => by
    simp only [Fields.every, Bool.and_eq_true] at pairs
    rcases Value.write_shows value pairs.1.2 with ⟨solid, shown⟩
    rcases Fields.write_shows tail pairs.2 with ⟨rest, others⟩
    have first := @solid_field (name, value.write .python) pairs.1.1 solid
    refine ⟨forall_mem_cons.mpr ⟨first, rest⟩, ?_⟩
    rw [Fields.writeEach, map_cons, any_cons, others, first.2, shown, Fields.every, Bool.not_and,
      Bool.not_and]
end

/-- Python finds no lone surrogate in the document. -/
def Document.Plain (document : Document) : Prop :=
  (document.parse pythonText).every plain = true

theorem goCanonicalJSON_agrees (recursionLimit : Nat) (document : Document) (written : List Char)
    (canonical : goCanonicalJSON document = .ok written) :
    pythonCanonicalJSON recursionLimit document = .ok written ↔
      document.Plain ∧ document.depth ≤ recursionLimit ∧ document.digits ≤ 4300 := by
  have text : written = (document.parse goText).write .python := by
    rw [goCanonicalJSON, style_eq] at canonical
    split at canonical
    · cases canonical
    · cases canonical
      rfl
  simp only [pythonCanonicalJSON, bind_eq_ok, require_eq_ok, pure_eq_ok,
    decide_eq_true_eq, exists_const, text]
  constructor
  · intro agrees
    rcases agrees with ⟨shallow, short, same⟩
    have clean := Document.every_parse plain_goText document
    have goPairs :=
      Document.every_parse (fun items => settled_of_plain (plain_goText items)) document
    have pythonPairs := Document.every_parse settled_pythonText document
    have goShows := (Value.write_shows _ goPairs).2
    have pythonShows := (Value.write_shows _ pythonPairs).2
    rw [same, goShows, clean] at pythonShows
    have found : (document.parse pythonText).every plain = true := by
      simpa using pythonShows.symm
    exact ⟨found, shallow, short⟩
  · intro allowed
    rcases allowed with ⟨clean, shallow, short⟩
    exact ⟨shallow, short, by rw [Document.parse_agrees document clean]⟩

/-- Both sides write one text exactly if Python finds no lone surrogate and the limits of
both sides allow the document. -/
theorem canonicalJSON_agree_iff (recursionLimit : Nat) (document : Document) :
    (∃ written, goCanonicalJSON document = .ok written ∧
        pythonCanonicalJSON recursionLimit document = .ok written) ↔
      document.Plain ∧ document.depth ≤ 10000 ∧ document.depth ≤ recursionLimit ∧
        document.digits ≤ 4300 := by
  constructor
  · intro ⟨written, canonical, same⟩
    have found := (goCanonicalJSON_agrees recursionLimit document written canonical).mp same
    have shallow : document.depth ≤ 10000 := by
      by_contra deep
      rw [goCanonicalJSON, if_pos (Nat.lt_of_not_le deep)] at canonical
      cases canonical
    exact ⟨found.1, shallow, found.2⟩
  · intro ⟨clean, shallow, admitted⟩
    have canonical : goCanonicalJSON document = .ok ((document.parse goText).write .go) :=
      if_neg (Nat.not_lt.mpr shallow)
    exact ⟨_, canonical, (goCanonicalJSON_agrees recursionLimit document _ canonical).mpr
      ⟨clean, admitted⟩⟩

/-- A string which is a lone surrogate escape. -/
theorem canonicalJSON_surrogate :
    goCanonicalJSON (.text [.unicode 0xD800]) = .ok "\"\\ufffd\"".toList ∧
    pythonCanonicalJSON 100 (.text [.unicode 0xD800]) = .ok "\"\\ud800\"".toList := by
  decide +kernel

end Coldsnap.Canonical
