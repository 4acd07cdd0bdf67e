import EquityScreen.Json.Skip
import EquityScreen.Stock

/-! Stock records in JSON. A record is written as an object with the ticker first and the metrics in
table order, absent ones as null. Reading is lenient about metrics: any value that is no number
makes the metric absent, unknown members are passed over, and a record may also be an array of the
ticker and the metrics in order. -/
namespace EquityScreen

/-- The number that a value is, if it is one. -/
def Json.Value.number? : Json.Value → Option Binary64
  | .number n => some n.toBinary64
  | _ => none

namespace Stock

/-- The value of a metric in JSON. -/
def metricJson : Option Binary64 → Json.Value
  | some x => .ofBinary64 x
  | none => .null

def toJson (s : Stock) : Json.Value :=
  .object (("ticker", .ofString s.ticker)
    :: Metric.all.map fun m => (m.identifier, metricJson (s.metric m)))

/-- A list of stocks in JSON. -/
def listToJson (stocks : List Stock) : Json.Value := .array (stocks.map toJson)

/-- The members of a record that have been read. -/
structure Draft where
  ticker : Option String
  metrics : List (Metric × Option Binary64)

def Draft.empty : Draft := ⟨none, []⟩

/-- How deep the value of a metric may be nested, inside the list and its record. -/
def metricDepth : Nat := Json.maxDepth - 2

/-- Read one member of a record. -/
def readMember (name : List Char) (draft : Draft) : Json.Reader Draft := fun rest => do
  let name := String.ofList name
  if name == "ticker" then
    if draft.ticker.isSome then Json.errorAtClose (.duplicateField name) '\x7d' rest
    else
      let (ticker, rest) ← Json.string "a string" (← Json.colon rest)
      .ok ({ draft with ticker := some (String.ofList ticker) }, rest)
  else
    match Metric.ofIdentifier? name with
    | some m =>
      if draft.metrics.any fun entry => entry.1 == m then
        Json.errorAtClose (.duplicateField name) '\x7d' rest
      else
        let (v, rest) ← Json.value metricDepth (← Json.colon rest)
        .ok ({ draft with metrics := (m, v.number?) :: draft.metrics }, rest)
    | none => .ok (draft, ← Json.skipValue (← Json.colon rest))

/-- The stock with the metrics of a draft. -/
def ofDraft (ticker : String) (draft : Draft) : Stock :=
  draft.metrics.foldr (fun entry s => s.setMetric entry.1 entry.2) (ofTicker ticker)

/-- Read a record written as an object, of which the opening brace has been taken. -/
def readObject : Json.Reader Stock := fun rest => do
  let (draft, rest) ← Json.members readMember Draft.empty rest
  match draft.ticker with
  | none => Json.errorAtClose (.missingField "ticker") '\x7d' rest
  | some ticker => .ok (ofDraft ticker draft, ← Json.closeObject rest)

/-- Read the next element of a record written as an array into a metric, if there is one left. -/
def readElement (s : Stock) (m : Metric) : Json.Reader Stock := fun rest => do
  match ← Json.nextElement false rest with
  | none => .ok (s, rest)
  | some rest =>
    let (v, rest) ← Json.value metricDepth rest
    .ok (s.setMetric m v.number?, rest)

/-- Read a record written as an array, of which the opening bracket has been taken. -/
def readArray : Json.Reader Stock := fun rest => do
  match ← Json.nextElement true rest with
  | none => Json.errorAtClose (.invalidLength 0 "struct Stock with 10 elements") ']' rest
  | some rest =>
    let (ticker, rest) ← Json.string "a string" rest
    let (s, rest) ← Metric.all.foldlM (fun (s, rest) m => readElement s m rest)
      (ofTicker (String.ofList ticker), rest)
    .ok (s, ← Json.closeArray rest)

/-- Read one record. -/
def readJson : Json.Reader Stock := fun cs =>
  match Json.skipBlanks cs with
  | [] => Json.errorAt .endInValue []
  | '\x7b' :: rest => readObject rest
  | '[' :: rest => readArray rest
  | rest => Json.wrongType "struct Stock" rest

/-- Read a list of records. -/
def readList : Json.Reader (List Stock) := fun cs =>
  match Json.skipBlanks cs with
  | [] => Json.errorAt .endInValue []
  | '[' :: rest => do
    let (reversed, rest) ← Json.elements (fun before rest => do
      let (s, rest) ← readJson rest
      .ok (s :: before, rest)) [] rest
    .ok (reversed.reverse, rest)
  | rest => Json.wrongType "a sequence" rest

/-- The stocks that a JSON text lists. -/
def listOfJson (text : List Char) : Except Json.Error (List Stock) := Json.readAll readList text

end Stock

end EquityScreen
