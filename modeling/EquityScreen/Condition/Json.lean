import EquityScreen.Condition
import EquityScreen.Json.Reader
import EquityScreen.Json.Skip

/-! Conditions in JSON: an object with the members `field`, `operator` and `value`, or an array of
the three. A name is written as a string, and may also be read from an object whose only member has
that name and the value null. -/
namespace EquityScreen

namespace Condition

def toJson (c : Condition) : Json.Value :=
  .object [("field", .ofString c.field.identifier),
    ("operator", .string [c.operator.symbol]),
    ("value", .ofBinary64 c.value)]

/-- The value that a name stands for among named values. -/
def variantOfName (variants : List (String × α)) (name rest : List Char) :
    Except Json.Error (α × List Char) :=
  match variants.lookup (String.ofList name) with
  | some x => .ok (x, rest)
  | none => Json.errorAt (.unknownVariant name (variants.map Prod.fst)) rest

/-- Read a null that is expected. -/
def readNull (cs : List Char) : Except Json.Error (List Char) :=
  match Json.skipBlanks cs with
  | [] => Json.errorAt .endInValue []
  | 'n' :: rest => Json.word "ull".toList rest
  | rest => Json.wrongType "unit" rest

/-- Read the name of the member of an object, of which the opening brace has been taken. -/
def readMemberName : Json.Reader (List Char) := fun rest =>
  match Json.skipBlanks rest with
  | [] => Json.errorAt .endInObject []
  | '"' :: rest => Json.stringBody rest
  | '\x7d' :: rest => Json.errorOn .expectedValue ('\x7d' :: rest)
  | rest => Json.errorOn .keyNotString rest

/-- Read one of several named values. -/
def readVariant (variants : List (String × α)) : Json.Reader α := fun cs =>
  match Json.skipBlanks cs with
  | [] => Json.errorAt .endInValue []
  | '"' :: rest => do
    let (name, rest) ← Json.stringBody rest
    variantOfName variants name rest
  | '\x7b' :: rest => do
    let (name, rest) ← readMemberName rest
    let (x, rest) ← variantOfName variants name rest
    let rest ← readNull (← Json.colon rest)
    match Json.skipBlanks rest with
    | [] => Json.errorAt .endInObject []
    | '\x7d' :: rest => .ok (x, rest)
    | rest => Json.errorAt .expectedValue rest
  | rest => Json.errorOn .expectedValue rest

def readField : Json.Reader Metric := readVariant (Metric.all.map fun m => (m.identifier, m))

def readOperator : Json.Reader Operator :=
  readVariant (Operator.all.map fun op => (String.singleton op.symbol, op))

/-- Read a number that is expected. -/
def readNumber : Json.Reader Binary64 := fun cs =>
  match Json.skipBlanks cs with
  | [] => Json.errorAt .endInValue []
  | c :: rest =>
    if c = '-' ∨ c.isDigit then do
      let (n, rest) ← Json.number (c :: rest)
      .ok (n.toBinary64, rest)
    else Json.wrongType "f64" (c :: rest)

/-- The members of a condition that have been read. -/
structure Draft where
  field : Option Metric
  operator : Option Operator
  value : Option Binary64

def Draft.empty : Draft := ⟨none, none, none⟩

/-- Read one member of a condition. -/
def readMember (name : List Char) (draft : Draft) : Json.Reader Draft := fun rest => do
  let name := String.ofList name
  let duplicate : Except Json.Error (Draft × List Char) :=
    Json.errorAtClose (.duplicateField name) '\x7d' rest
  if name == "field" then
    if draft.field.isSome then duplicate
    else
      let (field, rest) ← readField (← Json.colon rest)
      .ok ({ draft with field := some field }, rest)
  else if name == "operator" then
    if draft.operator.isSome then duplicate
    else
      let (operator, rest) ← readOperator (← Json.colon rest)
      .ok ({ draft with operator := some operator }, rest)
  else if name == "value" then
    if draft.value.isSome then duplicate
    else
      let (value, rest) ← readNumber (← Json.colon rest)
      .ok ({ draft with value := some value }, rest)
  else .ok (draft, ← Json.skipValue (← Json.colon rest))

/-- Read a condition written as an object, of which the opening brace has been taken. -/
def readObject : Json.Reader Condition := fun rest => do
  let (draft, rest) ← Json.members readMember Draft.empty rest
  let missing (name : String) : Except Json.Error (Condition × List Char) :=
    Json.errorAtClose (.missingField name) '\x7d' rest
  match draft with
  | ⟨some field, some operator, some value⟩ =>
    .ok (⟨field, operator, value⟩, ← Json.closeObject rest)
  | ⟨none, _, _⟩ => missing "field"
  | ⟨_, none, _⟩ => missing "operator"
  | ⟨_, _, none⟩ => missing "value"

/-- Read element number `index` of a condition written as an array. -/
def readElement (index : Nat) (reader : Json.Reader α) : Json.Reader α := fun rest => do
  match ← Json.nextElement (index == 0) rest with
  | none => Json.errorAtClose (.invalidLength index "struct Condition with 3 elements") ']' rest
  | some rest => reader rest

/-- Read a condition written as an array, of which the opening bracket has been taken. -/
def readArray : Json.Reader Condition := fun rest => do
  let (field, rest) ← readElement 0 readField rest
  let (operator, rest) ← readElement 1 readOperator rest
  let (value, rest) ← readElement 2 readNumber rest
  .ok (⟨field, operator, value⟩, ← Json.closeArray rest)

def readJson : Json.Reader Condition := fun cs =>
  match Json.skipBlanks cs with
  | [] => Json.errorAt .endInValue []
  | '\x7b' :: rest => readObject rest
  | '[' :: rest => readArray rest
  | rest => Json.wrongType "struct Condition" rest

/-- The condition that a JSON text states. -/
def ofJson (text : List Char) : Except Json.Error Condition := Json.readAll readJson text

end Condition

end EquityScreen
