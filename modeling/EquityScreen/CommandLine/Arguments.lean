import EquityScreen.CommandLine.Terminal
import EquityScreen.Config.SocketAddress
import EquityScreen.Table.Order

/-! The arguments of the command line: a command with its options. Options have a long name and
perhaps a letter; a value follows its option as the next argument, or stands in the same one.
Arguments are read from left to right, and the first fault is reported. The value of an option given
as the next argument is looked at when the next option or the end is reached. -/
namespace EquityScreen.CommandLine

/-- A flag, or an option with a value. -/
inductive Switch where
  | verbose
  | help
  | json
  | config
  | data
  | query
  | sortKey
  | sortDirection
  | page
  | search
  | pageSize
  | listen
deriving DecidableEq, Repr

namespace Switch

def longName : Switch → String
  | verbose => "verbose"
  | help => "help"
  | json => "json"
  | config => "config"
  | data => "data"
  | query => "query"
  | sortKey => "sort-key"
  | sortDirection => "sort-direction"
  | page => "page"
  | search => "search"
  | pageSize => "page-size"
  | listen => "listen"

def letter? : Switch → Option Char
  | verbose => some 'v'
  | help => some 'h'
  | config => some 'c'
  | data => some 'd'
  | query => some 'q'
  | listen => some 'l'
  | _ => none

def takesValue : Switch → Bool
  | verbose | help | json => false
  | _ => true

/-- What the value of an option is called in messages. -/
def valueName (s : Switch) : String :=
  String.ofList (s.longName.toList.map fun c => if c == '-' then '_' else c.toUpper)

end Switch

/-- The commands of the program. -/
inductive CommandName where
  | screen
  | parse
  | fields
  | serve
deriving DecidableEq, Repr

namespace CommandName

def all : List CommandName := [screen, parse, fields, serve]

def name : CommandName → String
  | screen => "screen"
  | parse => "parse"
  | fields => "fields"
  | serve => "serve"

def ofName? (s : String) : Option CommandName := all.find? fun c => c.name == s

/-- The switches that may follow a command. -/
def switches : CommandName → List Switch
  | screen =>
    [.config, .data, .query, .sortKey, .sortDirection, .page, .search, .pageSize, .json, .verbose,
      .help]
  | parse => [.query, .verbose, .help]
  | fields => [.verbose, .help]
  | serve => [.config, .data, .listen, .verbose, .help]

end CommandName

/-- Why a number on the command line is refused. -/
inductive NumberFault where
  | empty
  | invalidDigit
  | tooLarge
  | zero
deriving DecidableEq, Repr

def NumberFault.message : NumberFault → String
  | empty => "cannot parse integer from empty string"
  | invalidDigit => "invalid digit found in string"
  | tooLarge => "number too large to fit in target type"
  | zero => "number would be zero for non-zero type"

/-- Why the value of an option is refused. -/
inductive ValueFault where
  | number (fault : NumberFault)
  | name (fault : UnknownName)
  | address
deriving DecidableEq, Repr

def ValueFault.message : ValueFault → String
  | number fault => fault.message
  | name fault => fault.message
  | address => Config.SocketAddress.faultMessage

/-- Why arguments give no command. Help is not given as a fault of the arguments, but it ends their
reading in the same way. -/
inductive UsageFault where
  | help
  | missingCommand
  | unknownArgument (argument : String)
  | missingValue (s : Switch)
  | unexpectedValue (s : Switch)
  | repeated (s : Switch)
  | missingOption (s : Switch)
  | invalidValue (s : Switch) (value : String) (fault : ValueFault)
deriving DecidableEq, Repr

/-- The report on a refused value, styled for terminals; other faults are told by the usage text
alone. -/
def UsageFault.report? : UsageFault → Option String
  | invalidValue s value fault =>
    some (styled .alarm "error:" ++ " invalid value '" ++ styled .doubtful value ++ "' for '"
      ++ styled .exact ("--" ++ s.longName ++ " <" ++ s.valueName ++ ">") ++ "': "
      ++ fault.message ++ "\n\nFor more information, try '" ++ styled .exact "--help" ++ "'.\n")
  | _ => none

/-- The plain report on a refused value. -/
def UsageFault.message? (fault : UsageFault) : Option String := fault.report?.map plainText

/-- Asking for help is no mistake. -/
def UsageFault.exitCode : UsageFault → Nat
  | help => 0
  | _ => 2

/-- Options of the command `screen`. -/
structure ScreenOptions where
  config : Option String
  data : Option String
  query : String
  sortKey : Option Column
  sortDirection : SortDirection
  page : Nat
  search : Option String
  pageSize : Option Nat
  json : Bool
deriving DecidableEq, Repr

/-- Options of the command `serve`. -/
structure ServeOptions where
  config : Option String
  data : Option String
  listen : Option Config.SocketAddress
deriving DecidableEq, Repr

inductive Command where
  | screen (options : ScreenOptions)
  | parse (query : String)
  | fields
  | serve (options : ServeOptions)
deriving DecidableEq, Repr

/-- Continue a 64-bit number with further digits. -/
def continueNumber (n : Nat) : List Char → Except NumberFault Nat
  | [] => .ok n
  | c :: rest =>
    if !c.isDigit then .error .invalidDigit
    else
      let n := 10 * n + (c.toNat - '0'.toNat)
      if n < 2 ^ 64 then continueNumber n rest else .error .tooLarge

/-- Read a positive 64-bit number. -/
def positiveNumber (value : String) : Except NumberFault Nat := do
  let n ←
    match value.toList with
    | [] => .error .empty
    | ['+'] => .error .invalidDigit
    | '+' :: rest => continueNumber 0 rest
    | rest => continueNumber 0 rest
  if n = 0 then .error .zero else .ok n

/-- Check the value of an option. -/
def checkValue (s : Switch) (value : String) : Except UsageFault Unit :=
  let refuse (fault : ValueFault) : Except UsageFault Unit := .error (.invalidValue s value fault)
  match s with
  | .page | .pageSize =>
    match positiveNumber value with
    | .ok _ => .ok ()
    | .error fault => refuse (.number fault)
  | .sortKey =>
    match Column.ofName value with
    | .ok _ => .ok ()
    | .error fault => refuse (.name fault)
  | .sortDirection =>
    match SortDirection.ofName value with
    | .ok _ => .ok ()
    | .error fault => refuse (.name fault)
  | .listen =>
    match Config.SocketAddress.parse? value.toList with
    | some _ => .ok ()
    | none => refuse .address
  | .config | .data => if value.isEmpty then .error (.missingValue s) else .ok ()
  | _ => .ok ()

/-- What has been read: switches with their values, and an option that waits to be looked at, with
its value if that has come. -/
structure Reading where
  given : List (Switch × String)
  pending : Option (Switch × Option String)
deriving DecidableEq, Repr

namespace Reading

def start : Reading := ⟨[], none⟩

/-- Enter a switch. None may be given twice. -/
def enter (r : Reading) (s : Switch) (value : String) : Except UsageFault Reading :=
  if r.given.any fun entry => entry.1 == s then .error (.repeated s)
  else do
    checkValue s value
    return { r with given := (s, value) :: r.given }

/-- Look at the option that waits. -/
def settle (r : Reading) : Except UsageFault Reading :=
  match r.pending with
  | none => .ok r
  | some (s, none) => .error (.missingValue s)
  | some (s, some value) => { r with pending := none }.enter s value

/-- Read a flag. -/
def flag (r : Reading) (s : Switch) : Except UsageFault Reading := do
  let r ← r.settle
  if s = .help then .error .help else r.enter s ""

/-- Read an option with the value that stands in the same argument, if there is one. -/
def option (r : Reading) (s : Switch) (value : Option String) : Except UsageFault Reading := do
  let r ← r.settle
  match value with
  | some value => r.enter s value
  | none => return { r with pending := some (s, none) }

/-- Read an argument that starts with two hyphens, which have been taken. -/
def long (r : Reading) (switches : List Switch) (body : List Char) : Except UsageFault Reading :=
  let name := String.ofList (body.takeWhile (· != '='))
  let value :=
    match body.dropWhile (· != '=') with
    | [] => none
    | _ :: value => some (String.ofList value)
  match switches.find? fun s => s.longName == name with
  | none => .error (.unknownArgument ("--" ++ String.ofList body))
  | some s =>
    if s.takesValue then r.option s value
    else if value.isSome then .error (.unexpectedValue s)
    else r.flag s

/-- Read the letters of an argument that starts with one hyphen. A letter that takes a value takes
the rest of the argument. -/
def letters (r : Reading) (switches : List Switch) : List Char → Except UsageFault Reading
  | [] => .ok r
  | c :: rest =>
    match switches.find? fun s => s.letter? == some c with
    | none => .error (.unknownArgument (String.ofList ['-', c]))
    | some s =>
      if s.takesValue then
        match rest with
        | [] => r.option s none
        | '=' :: value => r.option s (some (String.ofList value))
        | value => r.option s (some (String.ofList value))
      else do (← r.flag s).letters switches rest

/-- Read an argument that starts no option. It is the value of an option that waits for one. -/
def plain (r : Reading) (argument : String) : Except UsageFault Reading :=
  match r.pending with
  | some (s, none) => .ok { r with pending := some (s, some argument) }
  | _ => .error (.unknownArgument argument)

/-- Read the arguments of a command. Nothing may follow two hyphens that stand alone. -/
def arguments (switches : List Switch) (r : Reading) : List String → Except UsageFault Reading
  | [] => r.settle
  | argument :: rest =>
    match argument.toList with
    | ['-', '-'] =>
      match rest with
      | [] => r.settle
      | extra :: _ => .error (.unknownArgument extra)
    | '-' :: '-' :: body => do arguments switches (← r.long switches body) rest
    | '-' :: c :: body => do arguments switches (← r.letters switches (c :: body)) rest
    | _ => do arguments switches (← r.plain argument) rest

/-- The value of an option that was given. -/
def value? (r : Reading) (s : Switch) : Option String := r.given.lookup s

/-- The value of an option that must be given. -/
def required (r : Reading) (s : Switch) : Except UsageFault String :=
  match r.value? s with
  | some value => .ok value
  | none => .error (.missingOption s)

end Reading

/-- The number that an option gives, its text having been checked. -/
def numberOf (value : String) : Option Nat := (positiveNumber value).toOption

/-- The command that a name and its arguments stand for. -/
def Command.ofReading (name : CommandName) (r : Reading) : Except UsageFault Command :=
  match name with
  | .fields => .ok .fields
  | .parse => do return .parse (← r.required .query)
  | .serve =>
    .ok (.serve {
      config := r.value? .config
      data := r.value? .data
      listen := (r.value? .listen).bind fun v => Config.SocketAddress.parse? v.toList })
  | .screen => do
    let query ← r.required .query
    return .screen {
      config := r.value? .config
      data := r.value? .data
      query
      sortKey := (r.value? .sortKey).bind Column.ofIdentifier?
      sortDirection := ((r.value? .sortDirection).bind SortDirection.ofIdentifier?).getD .ascending
      page := ((r.value? .page).bind numberOf).getD 1
      search := r.value? .search
      pageSize := (r.value? .pageSize).bind numberOf
      json := (r.value? .json).isSome }

/-- Help on a command, which has none below it. -/
def helpOn : List String → UsageFault
  | [] => .help
  | [name] =>
    if name == "help" || (CommandName.ofName? name).isSome then .help else .unknownArgument name
  | name :: extra :: _ =>
    if name == "help" || (CommandName.ofName? name).isSome then .unknownArgument extra
    else .unknownArgument name

/-- The switches that may come before the command. -/
def topSwitches : List Switch := [.verbose, .help]

/-- Read arguments up to the command. -/
def Command.parseFrom (r : Reading) : List String → Except UsageFault Command
  | [] => .error .missingCommand
  | argument :: rest =>
    match argument.toList with
    | ['-', '-'] => .error .missingCommand
    | '-' :: '-' :: body => do Command.parseFrom (← r.long topSwitches body) rest
    | '-' :: c :: body => do Command.parseFrom (← r.letters topSwitches (c :: body)) rest
    | _ =>
      if argument == "help" then .error (helpOn rest)
      else
        match CommandName.ofName? argument with
        | none => .error (.unknownArgument argument)
        | some name => do Command.ofReading name (← Reading.start.arguments name.switches rest)

/-- The command that the arguments after the program's name stand for. -/
def Command.ofArguments (arguments : List String) : Except UsageFault Command :=
  Command.parseFrom .start arguments

end EquityScreen.CommandLine
