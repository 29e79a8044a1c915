import LinkedSelect.Binary64.Shortest
import LinkedSelect.Text.Quoted

/-!
# What is wrong with a JSON text, and where

* `Cause` lists what can be wrong; `Cause.text` words it;
* a `Fault` is a cause and the number of octets that follow its place, which is what a reader of the rest knows;
  `Fault.before` puts it in front of the rest and `Fault.past` just behind the first octet of the rest;
* an `Error` is a cause with the line and the column that `Fault.locate` finds in the whole text.
-/

namespace LinkedSelect.Json

/-- A value as a message names it. -/
inductive Found
  | null
  | boolean (b : Bool)
  | integer (n : Int)
  | real (x : Binary64)
  | text (s : String)
  | list
  | object
  deriving DecidableEq, Repr

/-- A value by its kind, and a scalar other than null by its content. -/
def Found.name : Found → String
  | .null => "null"
  | .boolean b => "boolean `" ++ (if b then "true" else "false") ++ "`"
  | .integer n => "integer `" ++ toString n ++ "`"
  | .real x => "floating point `" ++ x.pointed ++ "`"
  | .text s => "string " ++ Quoted.encode s
  | .list => "sequence"
  | .object => "map"

/-- What a place of a choice list asks for. -/
inductive Wanted
  | choiceList
  | choices
  | choice
  | name
  deriving DecidableEq, Repr

/-- What was asked for, as a message names it. -/
def Wanted.text : Wanted → String
  | .choiceList => "struct ChoiceList"
  | .choices => "a sequence"
  | .choice => "struct Choice"
  | .name => "a string"

/-- What is wrong. -/
inductive Cause
  | endInValue
  | endInList
  | endInObject
  | endInText
  | expectedValue
  | expectedWord
  | expectedColon
  | expectedInList
  | expectedInObject
  | keyNotText
  | trailingComma
  | trailingCharacters
  | tooDeep
  | invalidNumber
  | numberOutOfRange
  | controlCharacter
  | invalidEscape
  | loneSurrogate
  | unfinishedPair
  | notUnicode
  | invalidType (found : Found) (wanted : Wanted)
  | missingMember (name : String)
  | repeatedMember (name : String)
  | emptyChoice
  | noId
  deriving DecidableEq, Repr

/-- The wording of a cause. -/
def Cause.text : Cause → String
  | .endInValue => "EOF while parsing a value"
  | .endInList => "EOF while parsing a list"
  | .endInObject => "EOF while parsing an object"
  | .endInText => "EOF while parsing a string"
  | .expectedValue => "expected value"
  | .expectedWord => "expected ident"
  | .expectedColon => "expected `:`"
  | .expectedInList => "expected `,` or `]`"
  | .expectedInObject => "expected `,` or `\x7d`"
  | .keyNotText => "key must be a string"
  | .trailingComma => "trailing comma"
  | .trailingCharacters => "trailing characters"
  | .tooDeep => "recursion limit exceeded"
  | .invalidNumber => "invalid number"
  | .numberOutOfRange => "number out of range"
  | .controlCharacter => "control character (\\u0000-\\u001F) found while parsing a string"
  | .invalidEscape => "invalid escape"
  | .loneSurrogate => "lone leading surrogate in hex escape"
  | .unfinishedPair => "unexpected end of hex escape"
  | .notUnicode => "invalid unicode code point"
  | .invalidType found wanted => "invalid type: " ++ found.name ++ ", expected " ++ wanted.text
  | .missingMember name => "missing field `" ++ name ++ "`"
  | .repeatedMember name => "duplicate field `" ++ name ++ "`"
  | .emptyChoice => "invalid length 0, expected struct Choice with 2 elements"
  | .noId => "data did not match any variant of untagged enum ChoiceId"

/-- A cause, placed by the number of octets that follow it. -/
structure Fault where
  cause : Cause
  remaining : Nat
  deriving DecidableEq, Repr

/-- The fault lies in front of the rest. -/
def Fault.before (cause : Cause) (rest : List UInt8) : Fault :=
  ⟨cause, rest.length⟩

/-- The fault lies just behind the first octet of the rest, or at the end if nothing is left. -/
def Fault.past (cause : Cause) (rest : List UInt8) : Fault :=
  ⟨cause, rest.length - 1⟩

/-- A cause with its place in the text: lines count from one, columns are octets since the line began. -/
structure Error where
  cause : Cause
  line : Nat
  column : Nat
  deriving DecidableEq, Repr

/-- The line and column of a fault in the text that was read. -/
def Fault.locate (text : List UInt8) (f : Fault) : Error :=
  let passed := text.take (text.length - f.remaining)
  { cause := f.cause
    line := 1 + passed.count 10
    column := (passed.reverse.takeWhile (· != 10)).length }

/-- The wording of an error, with its place. -/
def Error.message (e : Error) : String :=
  e.cause.text ++ " at line " ++ toString e.line ++ " column " ++ toString e.column

/-- What reading the front of a text gives: a value and the rest. -/
abbrev Parsed (α : Type) :=
  Except Fault (α × List UInt8)

/-- A sequence that succeeds has two parts that do. -/
theorem ok_of_bind {ε α β : Type} {x : Except ε α} {f : α → Except ε β} {b : β} (h : x >>= f = .ok b) :
    ∃ a, x = .ok a ∧ f a = .ok b := by
  cases x with
  | error e => cases h
  | ok a => exact ⟨a, rfl, h⟩

/-- A changed result comes from a result. -/
theorem ok_of_map {ε α β : Type} {x : Except ε α} {f : α → β} {b : β} (h : x.map f = .ok b) :
    ∃ a, x = .ok a ∧ f a = b := by
  cases x with
  | error e => cases h
  | ok a => cases h; exact ⟨a, rfl, rfl⟩

end LinkedSelect.Json
