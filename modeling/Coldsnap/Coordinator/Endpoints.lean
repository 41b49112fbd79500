import Coldsnap.Placement.Ports
import Coldsnap.Snapshot.Receipt

/-! # Endpoints as texts

`internal/coord/endpoint.go`, and `Endpoint.parse` of `runtime/shared/coldsnap_coord.py`.
A printed endpoint is split on white space again. The check of an endpoint knows four such
characters, `unicode.IsSpace` more, and `str.isspace` more than that.
-/

namespace Coldsnap.Coordinator.Printed

open Go List Snapshot Placement

def endpointFormat : List Char := "coldsnap-coord-v1".toList

structure Endpoint where
  address : List Char
  scope : List Char
  token : List Char
deriving DecidableEq

def Endpoint.fields (endpoint : Endpoint) : List (List Char) :=
  [endpoint.address, endpoint.scope, endpoint.token]

/-- The characters which `Validate` knows. -/
def blanks : List Char := [' ', '\t', '\r', '\n']

def Endpoint.validate (endpoint : Endpoint) : Result Unit := do
  check (endpoint.fields.all (· ≠ [])) "coordinator endpoint requires address, scope, and token"
  for field in ["address", "scope", "token"].zip endpoint.fields do
    check (field.2.all fun character => !blanks.contains character)
      s!"coordinator {field.1} must not contain whitespace"

def Endpoint.string (endpoint : Endpoint) : List Char :=
  endpointFormat ++ ' ' :: endpoint.address ++ ' ' :: endpoint.scope ++ ' ' :: endpoint.token

def words (space : Char → Bool) : (word text : List Char) → List (List Char)
  | word, [] => if word = [] then [] else [word]
  | word, character :: text =>
    if space character then (if word = [] then [] else [word]) ++ words space [] text
    else words space (word ++ [character]) text

/-- Four words, of which the first one is the format, and the check of the other ones. -/
def parseWords {ε : Type} (space : Char → Bool) (invalid : ε) (validate : Endpoint → Except ε Unit)
    (value : List Char) : Except ε Endpoint :=
  match words space [] value with
  | [format, address, scope, token] =>
    if format = endpointFormat then (validate ⟨address, scope, token⟩).map fun _ =>
      ⟨address, scope, token⟩
    else .error invalid
  | _ => .error invalid

def parseEndpoint : List Char → Result Endpoint :=
  parseWords isSpace
    "invalid coordinator endpoint; expected \"coldsnap-coord-v1\" address scope token"
    Endpoint.validate

def Endpoint.parse : List Char → Python.Checked Endpoint :=
  parseWords pythonSpace (Python.valueError
      "invalid coordinator endpoint; expected 'coldsnap-coord-v1 address scope token'")
    fun endpoint => Python.Checked.require
      (endpoint.fields.all fun field => field ≠ [] && field.all fun character =>
        !pythonSpace character)
      (Python.valueError "coordinator endpoint fields must not contain whitespace")

def Endpoint.Plain (space : Char → Bool) (endpoint : Endpoint) : Prop :=
  ∀ field ∈ endpoint.fields, field ≠ [] ∧ ∀ character ∈ field, space character = false

variable {space : Char → Bool} {endpoint : Endpoint} {value : List Char}

theorem words_plain : ∀ {text word : List Char}, (∀ character ∈ word, space character = false) →
    ∀ found ∈ words space word text, found ≠ [] ∧ ∀ character ∈ found, space character = false := by
  have closed : ∀ {word : List Char}, (∀ character ∈ word, space character = false) →
      ∀ found ∈ (if word = [] then [] else [word]),
        found ≠ [] ∧ ∀ character ∈ found, space character = false := by
    intro word plain found member
    split at member
    · cases member
    · rename_i nonempty
      rw [mem_singleton.mp member]
      exact ⟨nonempty, plain⟩
  intro text
  induction text with
  | nil => exact closed
  | cons character text induction =>
    intro word plain found member
    rw [words] at member
    split at member
    · rcases mem_append.mp member with here | later
      · exact closed plain found here
      · exact induction (forall_mem_nil _) found later
    · rename_i other
      exact induction (forall_mem_append.mpr ⟨plain, by simpa using other⟩) found member

theorem words_run : ∀ {run word : List Char}, (∀ character ∈ run, space character = false) →
    words space word (run ++ value) = words space (word ++ run) value := by
  intro run
  induction run with
  | nil => simp
  | cons character run induction =>
    intro word plain
    rw [forall_mem_cons] at plain
    rw [cons_append, words, plain.1, if_neg Bool.false_ne_true, induction plain.2, append_assoc,
      singleton_append]

theorem plain_of_words (split : words space [] value = endpointFormat :: endpoint.fields) :
    endpoint.Plain space := by
  intro field member
  have found : field ∈ words space [] value := by
    rw [split]
    exact mem_cons_of_mem _ member
  exact words_plain (forall_mem_nil _) field found

/-- A printed endpoint is split into its fields exactly if they hold no white space. -/
theorem words_string (blank : space ' ' = true) (format : endpointFormat.any space = false) :
    words space [] endpoint.string = endpointFormat :: endpoint.fields ↔ endpoint.Plain space := by
  refine ⟨plain_of_words, fun plain => ?_⟩
  simp only [Endpoint.Plain, Endpoint.fields, forall_mem_cons] at plain
  rcases plain with ⟨⟨address, first⟩, ⟨scope, second⟩, ⟨token, third⟩, _⟩
  have last : words space [] endpoint.token = [endpoint.token] := by
    rw [← append_nil endpoint.token, words_run third, append_nil, nil_append, words, if_neg token]
  have known : endpointFormat ≠ [] := by decide
  have plain : ∀ character ∈ endpointFormat, space character = false := by simpa using format
  simp [Endpoint.string, Endpoint.fields, words_run plain, words_run first, words_run second, words,
    blank, known, address, scope, last]

theorem parseWords_ok {ε : Type} {invalid : ε} {validate : Endpoint → Except ε Unit}
    (passes : ∀ endpoint : Endpoint, endpoint.Plain space → validate endpoint = .ok ()) :
    parseWords space invalid validate value = .ok endpoint ↔
      words space [] value = endpointFormat :: endpoint.fields := by
  constructor
  · intro returned
    unfold parseWords at returned
    split at returned
    · rename_i format address scope token split
      split at returned
      · rename_i known
        cases checked : validate ⟨address, scope, token⟩ with
        | error failure =>
          rw [checked] at returned
          cases returned
        | ok value =>
          rw [checked] at returned
          cases returned
          rw [split, known]
          rfl
      · cases returned
    · cases returned
  · intro split
    have plain := plain_of_words split
    rw [parseWords, split]
    simp only [Endpoint.fields, if_true, passes _ plain]
    rfl

/-- What `strings.Fields` returns passes the check. -/
theorem validate_plain (endpoint : Endpoint) (plain : endpoint.Plain isSpace) :
    endpoint.validate = .ok () := by
  have spaces : blanks.all isSpace = true := by decide
  have passes : ∀ field ∈ endpoint.fields,
      (field.all fun character => !blanks.contains character) = true := by
    intro field member
    rw [all_eq_true]
    intro character inside
    rw [Bool.not_eq_true', ← Bool.not_eq_true, contains_iff_mem]
    intro blank
    have space := all_eq_true.mp spaces character blank
    rw [(plain field member).2 character inside] at space
    cases space
  have filled := all_eq_true.mpr fun field member => decide_eq_true (plain field member).1
  simp only [Endpoint.fields, forall_mem_cons] at passes
  rw [Endpoint.validate, filled]
  simp only [Endpoint.fields, zip_cons_cons, zip_nil_right, forIn_cons, passes, check, if_true]
  rfl

theorem isSpace_python {character : Char} (other : pythonSpace character = false) :
    isSpace character = false := by
  simp only [pythonSpace, goSpace, isSpace, Bool.or_eq_false_iff, Bool.and_eq_false_iff,
    decide_eq_false_iff_not, mem_cons, not_or] at other ⊢
  have blank : character.toNat ≠ 0x20 :=
    fun code => other.1.1.1.1 (Char.ext (UInt32.toNat.inj code))
  omega

/-- Printing and parsing an endpoint, in both languages, returns it exactly if no field holds
white space of Python. Whatever Go parses is printed in a form which it parses again. -/
theorem string_parse_iff (endpoint : Endpoint) (value : List Char) :
    (parseEndpoint endpoint.string = .ok endpoint ∧
        Endpoint.parse endpoint.string = .ok endpoint ↔ endpoint.Plain pythonSpace) ∧
      (parseEndpoint value >>= fun parsed => parseEndpoint parsed.string) =
        parseEndpoint value := by
  have go : ∀ endpoint : Endpoint, parseEndpoint endpoint.string = .ok endpoint ↔
      endpoint.Plain isSpace := fun endpoint =>
    (parseWords_ok validate_plain).trans (words_string (by decide) (by decide))
  have python : Endpoint.parse endpoint.string = .ok endpoint ↔ endpoint.Plain pythonSpace := by
    refine (parseWords_ok fun endpoint plain => ?_).trans (words_string (by decide) (by decide))
    rw [Python.Checked.require_eq_ok, all_eq_true]
    intro field member
    simpa using plain field member
  constructor
  · rw [go, python, and_iff_right_iff_imp]
    exact fun plain field member => ⟨(plain field member).1, fun character inside =>
      isSpace_python ((plain field member).2 character inside)⟩
  · cases parsed : parseEndpoint value with
    | error message => rfl
    | ok endpoint =>
      exact (go endpoint).mpr (plain_of_words ((parseWords_ok validate_plain).mp parsed))

def spaced (code : Char) : Endpoint := ⟨['a', code, 'b'], ['s'], ['t']⟩

theorem spaced_rejected :
    (spaced '\u00a0').validate = .ok () ∧
      (parseEndpoint (spaced '\u00a0').string).toOption = none ∧
      parseEndpoint (spaced '\x1c').string = .ok (spaced '\x1c') ∧
      (Endpoint.parse (spaced '\x1c').string).toOption = none := by
  decide +kernel

end Coldsnap.Coordinator.Printed
