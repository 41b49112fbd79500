import Coldsnap.Canonical.Documents

/-! # When Go and Python agree

Both write a value in the same way. They read the same value as long as no surrogate
stands alone; where one does, Python keeps it and Go replaces it, and the written
documents differ.
-/

namespace Coldsnap.Canonical

open Python Unicode List

theorem goCharacter_eq : goCharacter = pythonCharacter := by
  funext code
  by_cases quote : code = 0x22
  · subst quote
    rfl
  by_cases backslash : code = 0x5C
  · subst backslash
    rfl
  unfold goCharacter pythonCharacter
  by_cases printable : 0x20 ≤ code ∧ code ≤ 0x7E
  · rw [if_neg (by omega), if_neg (by omega), if_neg (by omega), if_neg (by omega),
      if_neg (by omega), if_neg (by omega), if_pos printable, if_pos (by omega)]
  · rw [if_neg (by omega : ¬(code = 0x22 ∨ code = 0x5C)), if_neg printable,
      if_neg (by omega : ¬(0x20 ≤ code ∧ code ≤ 0x7E ∧ code ≠ 0x5C ∧ code ≠ 0x22)),
      if_neg backslash, if_neg quote]
    by_cases small : code ≤ 0xFFFF
    · rw [if_pos small, if_neg (by omega : ¬0x10000 ≤ code)]
    · rw [if_neg small, if_pos (by omega : 0x10000 ≤ code)]

/-- The bytes of the keys are ordered as their code points are. -/
theorem style_eq : Style.go = Style.python := by
  have arrange : (sortedOn fun field : Text × List Char => encode field.1) = sortedOn Prod.fst := by
    funext fields
    simp [sortedOn, encode_strictMono.le_iff_le]
  rw [Style.go, Style.python, goCharacter_eq, arrange]

mutual
def Value.every (test : Text → Bool) : Value → Bool
  | .text text => test text
  | .array items => items.every test
  | .object fields => fields.every test
  | _ => true

def Values.every (test : Text → Bool) : Values → Bool
  | .nil => true
  | .cons head tail => head.every test && tail.every test

def Fields.every (test : Text → Bool) : Fields → Bool
  | .nil => true
  | .cons name value tail => test name && value.every test && tail.every test
end

variable {test : Text → Bool} {fields : Fields} {value : Value} {name : Text}

theorem Fields.every_put (named : test name = true) (valued : value.every test = true)
    (others : fields.every test = true) : (fields.put name value).every test = true := by
  rw [Fields.put]
  split
  · exact others
  · simp [Fields.every, named, valued, others]

section Every

variable {decode : List StringItem → Text}

mutual
theorem Document.every_parse (decoded : ∀ items, test (decode items) = true) :
    ∀ document : Document, (document.parse decode).every test = true
  | .null => rfl
  | .boolean _ => rfl
  | .integer _ _ => rfl
  | .text items => decoded items
  | .array items => Documents.every_parse decoded items
  | .object members => Members.every_parse decoded members

theorem Documents.every_parse (decoded : ∀ items, test (decode items) = true) :
    ∀ documents : Documents, (documents.parse decode).every test = true
  | .nil => rfl
  | .cons head tail => by
    simp [Documents.parse, Values.every, Document.every_parse decoded head,
      Documents.every_parse decoded tail]

theorem Members.every_parse (decoded : ∀ items, test (decode items) = true) :
    ∀ members : Members, (members.parse decode).every test = true
  | .nil => rfl
  | .cons name value tail =>
    Fields.every_put (decoded name) (Document.every_parse decoded value)
      (Members.every_parse decoded tail)
end

end Every

/-- No surrogate stands alone in the text. -/
def plain (text : Text) : Bool := text.all fun code => !isSurrogate code

def scrub (code : Nat) : Nat := if isSurrogate code then replacement else code

theorem scrub_combine (high low : Nat) : scrub (combine high low) = combine high low := by
  have large := combine_large high low
  rw [scrub, if_neg]
  simp only [isSurrogate, Bool.and_eq_true, decide_eq_true_eq]
  omega

theorem literal_plain (character : Char) : isSurrogate character.toNat = false := by
  have valid := character.valid
  have value : character.toNat = character.val.toNat := rfl
  simp only [isSurrogate, value, Bool.and_eq_false_iff, decide_eq_false_iff_not]
  omega

theorem short_plain (escape : ShortEscape) : isSurrogate escape.code = false := by
  cases escape <;> rfl

variable (items : List StringItem)

/-- Go reads what Python reads, with the lone surrogates replaced. -/
theorem goText_eq : goText items = (pythonText items).map scrub := by
  induction items using pythonText.induct with
  | case1 => rfl
  | case2 first second rest pair induction =>
    have surrogate : isSurrogate first.toNat = true := by
      rw [Bool.and_eq_true] at pair
      exact isSurrogate_iff.mpr (.inl pair.1)
    rw [goText, if_pos surrogate, if_pos pair, pythonText, if_pos pair, map_cons,
      scrub_combine, induction]
  | case3 first second rest pair induction =>
    rw [goText, if_neg pair, pythonText, if_neg pair, map_cons, scrub, ← induction]
    cases isSurrogate first.toNat <;> rfl
  | case4 item rest alone induction =>
    rw [pythonText, map_cons, ← induction]
    · cases item with
      | literal character =>
        rw [goText, scrub, StringItem.code, literal_plain]
        all_goals simp
      | short escape =>
        rw [goText, scrub, StringItem.code, short_plain]
        all_goals simp
      | unicode unit =>
        rw [goText, scrub, StringItem.code]
        intro second others equal
        exact alone unit second others rfl equal
    · exact alone

theorem scrub_plain (code : Nat) : isSurrogate (scrub code) = false := by
  unfold scrub
  split
  · rfl
  · next alone => simpa using alone

theorem plain_goText : plain (goText items) = true := by
  simp [goText_eq, plain, scrub_plain]

theorem goText_of_plain {items : List StringItem} (clean : plain (pythonText items) = true) :
    goText items = pythonText items := by
  rw [goText_eq]
  conv_rhs => rw [← map_id (pythonText items)]
  apply map_congr_left
  intro code member
  have alone := all_eq_true.mp clean code member
  rw [scrub, if_neg (by simpa using alone)]
  rfl

theorem Fields.every_of_put (holds : (fields.put name value).every test = true) :
    fields.every test = true ∧
      (name ∉ fields.names → test name = true ∧ value.every test = true) := by
  rw [Fields.put] at holds
  split at holds
  · next present => exact ⟨holds, absurd present⟩
  · simp only [Fields.every, Bool.and_eq_true] at holds
    exact ⟨holds.2, fun _ => holds.1⟩

theorem Fields.test_of_mem : ∀ {fields : Fields} {name : Text},
    fields.every test = true → name ∈ fields.names → test name = true
  | .nil, _, _, member => nomatch member
  | .cons first _ tail, name, holds, member => by
    simp only [Fields.every, Bool.and_eq_true] at holds
    rcases mem_cons.mp member with equal | member
    · rw [equal]
      exact holds.1.1
    · exact Fields.test_of_mem holds.2 member

mutual
/-- Without lone surrogates both read the same value. A member which is overwritten may
hold some. -/
theorem Document.parse_agrees : ∀ document : Document,
    (document.parse pythonText).every plain = true →
      document.parse goText = document.parse pythonText
  | .null, _ => rfl
  | .boolean _, _ => rfl
  | .integer _ _, _ => rfl
  | .text _, clean => congrArg Value.text (goText_of_plain clean)
  | .array items, clean => congrArg Value.array (Documents.parse_agrees items clean)
  | .object members, clean => congrArg Value.object (Members.parse_agrees members clean)

theorem Documents.parse_agrees : ∀ documents : Documents,
    (documents.parse pythonText).every plain = true →
      documents.parse goText = documents.parse pythonText
  | .nil, _ => rfl
  | .cons head tail, clean => by
    simp only [Documents.parse, Values.every, Bool.and_eq_true] at clean
    rw [Documents.parse, Documents.parse, Document.parse_agrees head clean.1,
      Documents.parse_agrees tail clean.2]

theorem Members.parse_agrees : ∀ members : Members,
    (members.parse pythonText).every plain = true → members.parse goText = members.parse pythonText
  | .nil, _ => rfl
  | .cons name value tail, clean => by
    rcases Fields.every_of_put clean with ⟨others, own⟩
    have rest := Members.parse_agrees tail others
    rw [Members.parse, Members.parse, rest]
    by_cases present : pythonText name ∈ (tail.parse pythonText).names
    · have same := goText_of_plain (Fields.test_of_mem others present)
      rw [Fields.put, Fields.put, same, if_pos present, if_pos present]
    · rcases own present with ⟨named, valued⟩
      rw [goText_of_plain named, Document.parse_agrees value valued]
end

end Coldsnap.Canonical
