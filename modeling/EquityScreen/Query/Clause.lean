import EquityScreen.Condition
import EquityScreen.Decimal.Numeral
import EquityScreen.Query.Diagnostic

/-! A clause of a query: a field label, an operator and a number. The last operator of the text is
the operator, since numbers hold none; what stands before it must be a label, and what stands after
it a number with nothing but white space around it. -/
namespace EquityScreen

/-- Why a text is no clause. -/
inductive ClauseFault where
  | missingOperator
  | missingField
  | missingNumber (found : Option (List Char))
  | trailingText (text : List Char)
  | unknownField (name : List Char)
deriving DecidableEq, Repr

/-- A fault and the place in the clause that it names. -/
structure ClauseError where
  fault : ClauseFault
  position : Nat
deriving DecidableEq, Repr

def ClauseFault.message : ClauseFault → String
  | missingOperator => "expected operator ('>', '<' or '='), found end of input"
  | missingField => "expected field name before operator"
  | missingNumber none => "expected number, found 'end of input'"
  | missingNumber (some token) => "expected number, found '" ++ String.ofList token ++ "'"
  | trailingText text => "unexpected input after number: '" ++ String.ofList text ++ "'"
  | unknownField name => "unknown field '" ++ String.ofList name ++ "'"

def ClauseError.diagnostic (e : ClauseError) : Diagnostic := ⟨e.fault.message, e.position⟩

namespace Clause

def isOperator (c : Char) : Bool := (Operator.ofChar? c).isSome

/-- The text before the last operator of a clause, that operator, and the text after it. -/
def splitAtOperator? (clause : List Char) : Option (List Char × Operator × List Char) :=
  match clause.reverse.dropWhile fun c => !isOperator c with
  | [] => none
  | c :: before =>
    (Operator.ofChar? c).map fun op =>
      (before.reverse, op, (clause.reverse.takeWhile fun c => !isOperator c).reverse)

/-- The text up to the next white space, if there is any. -/
def token? (cs : List Char) : Option (List Char) :=
  match cs.takeWhile fun c => !Text.isBlank c with
  | [] => none
  | token => some token

/-- Read a clause. Of several faults the first in reading order is named, except that the label is
looked up last. -/
def parse (clause : List Char) : Except ClauseError Condition :=
  match splitAtOperator? clause with
  | none => .error ⟨.missingOperator, Text.utf8Size clause⟩
  | some (before, operator, after) =>
    let name := Text.trim before
    if name.isEmpty then .error ⟨.missingField, Text.utf8Size before⟩
    else
      -- Positions after the operator are counted back from the end of the clause.
      let positionOf (rest : List Char) := Text.utf8Size clause - Text.utf8Size rest
      let numeral := Text.trimStart after
      let (whole, fraction, rest) := spanDecimal numeral
      if whole.isEmpty ∧ fraction.isEmpty then
        .error ⟨.missingNumber (token? numeral), positionOf numeral⟩
      else
        let rest := Text.trimStart rest
        if !rest.isEmpty then .error ⟨.trailingText rest, positionOf rest⟩
        else
          match Metric.ofLabel? before with
          | none =>
            .error ⟨.unknownField name, Text.utf8Size (before.takeWhile Text.isBlank)⟩
          | some field =>
            .ok ⟨field, operator, (Decimal.ofDigits whole fraction 0).toBinary64 false⟩

end Clause

end EquityScreen
