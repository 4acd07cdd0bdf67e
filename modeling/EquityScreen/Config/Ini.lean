import EquityScreen.Text.Blank
import EquityScreen.Text.Lowercase

/-! Configuration texts of sections with keys and values. Names of sections and keys are the same in
any case, sections of one name are merged, and of several values for a key the last one counts. -/
namespace EquityScreen.Config

/-- A key in a section, and its value if the line gives one. -/
structure Entry where
  sectionName : List Char
  key : List Char
  value : Option (List Char)
deriving DecidableEq, Repr

/-- The entries of a configuration text, the last one first. -/
abbrev Ini := List Entry

/-- Why a line cannot be read. -/
inductive IniFault where
  | unclosedSection
  | emptyKey (position : Nat)
deriving DecidableEq, Repr

/-- A fault, and the line it is in, counted from one. -/
structure IniError where
  line : Nat
  fault : IniFault
deriving DecidableEq, Repr

def IniError.message (e : IniError) : String :=
  match e.fault with
  | .unclosedSection =>
    "line " ++ toString e.line ++ ": Found opening bracket for section name but no closing bracket"
  | .emptyKey position =>
    "line " ++ toString e.line ++ ":" ++ toString position ++ ": Key cannot be empty"

/-- What a line says. -/
inductive Line where
  | nothing
  | openSection (name : List Char)
  | entry (key : List Char) (value : Option (List Char))
deriving DecidableEq, Repr

def isCommentMark (c : Char) : Bool := c == ';' || c == '#'

def isDelimiter (c : Char) : Bool := c == '=' || c == ':'

/-- The name between an opening bracket, which has been taken, and the last closing bracket. -/
def sectionName? (rest : List Char) : Option (List Char) :=
  match rest.reverse.dropWhile (· != ']') with
  | [] => none
  | _ :: name => some (Text.lowercase (Text.trim name.reverse))

/-- Read one line. Text from a comment mark on is passed over. -/
def parseLine (line : List Char) : Except IniFault Line :=
  let line := Text.trim ((Text.trim line).takeWhile fun c => !isCommentMark c)
  match line with
  | [] => .ok .nothing
  | '[' :: rest =>
    match sectionName? rest with
    | some name => .ok (.openSection name)
    | none => .error .unclosedSection
  | line =>
    let key := line.takeWhile fun c => !isDelimiter c
    match line.dropWhile fun c => !isDelimiter c with
    | [] => .ok (.entry (Text.lowercase (Text.trim key)) none)
    | _ :: value =>
      if (Text.trim key).isEmpty then .error (.emptyKey (Text.utf8Size key))
      else .ok (.entry (Text.lowercase (Text.trim key)) (some (Text.trim value)))

/-- The section of keys that stand before any section. -/
def defaultSection : List Char := "default".toList

/-- Read lines, numbered from `number`, inside a section, after the entries read before. -/
def parseLines (sectionName : List Char) (entries : Ini) :
    Nat → List (List Char) → Except IniError Ini
  | _, [] => .ok entries
  | number, line :: rest =>
    match parseLine line with
    | .error fault => .error ⟨number, fault⟩
    | .ok .nothing => parseLines sectionName entries (number + 1) rest
    | .ok (.openSection name) => parseLines name entries (number + 1) rest
    | .ok (.entry key value) =>
      parseLines sectionName (⟨sectionName, key, value⟩ :: entries) (number + 1) rest

namespace Ini

/-- A configuration in which every key is absent. -/
def empty : Ini := []

def parse (text : List Char) : Except IniError Ini :=
  parseLines defaultSection empty 1 (Text.lines text)

/-- The value of a key, if there is one. -/
def get? (ini : Ini) (sectionName key : String) : Option String :=
  let sectionName := Text.lowercase sectionName.toList
  let key := Text.lowercase key.toList
  match List.find? (fun e => e.sectionName == sectionName && e.key == key) ini with
  | some e => e.value.map String.ofList
  | none => none

end Ini

end EquityScreen.Config
