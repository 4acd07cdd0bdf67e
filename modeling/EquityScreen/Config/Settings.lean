import EquityScreen.Config.Ini
import EquityScreen.Config.SocketAddress
import EquityScreen.Failure
import EquityScreen.Source.File

/-! Settings of the program, from a configuration and from the command line. Every key of the
configuration may be absent; one that is present must make sense. -/
namespace EquityScreen.Config

/-- Lowest and highest signed 64-bit number. -/
def minInt64 : Int := -2 ^ 63
def maxInt64 : Int := 2 ^ 63 - 1

namespace Ini

/-- The value of a key as a signed 64-bit number, if it is one. -/
def int? (ini : Ini) (sectionName key : String) : Option Int :=
  (ini.get? sectionName key).bind fun v => boundedInt? minInt64 maxInt64 v.toList

/-- The value of a key as a signed 64-bit number, or else a default. -/
def getInt (ini : Ini) (sectionName key : String) (default : Int) : Int :=
  (ini.int? sectionName key).getD default

/-- The value of a key as a natural number, or else a default. -/
def getNat (ini : Ini) (sectionName key : String) (default : Nat) : Nat :=
  let n := ini.getInt sectionName key default
  if n < 0 then default else n.toNat

/-- The value of a key without white space around it, if anything is left. -/
def getNonBlank? (ini : Ini) (sectionName key : String) : Option String :=
  ((ini.get? sectionName key).map Text.trimString).filter fun v => !v.isEmpty

end Ini

/-- What the program runs with. No data path selects the bundled data. -/
structure Settings where
  dataPath : Option String
  pageSize : Nat
  listen : SocketAddress
deriving DecidableEq, Repr

def defaultPageSize : Nat := 10

def defaultListen : SocketAddress := .v4 [127, 0, 0, 1] 3000

def Settings.default : Settings := ⟨none, defaultPageSize, defaultListen⟩

/-- A data path must not be blank. -/
def validateDataPath (ini : Ini) : Except Failure Unit :=
  match ini.get? "data" "path" with
  | some path =>
    if (Text.trimString path).isEmpty then .error (.configMissing "data" "path") else .ok ()
  | none => .ok ()

/-- A page size must be a positive number. -/
def validatePageSize (ini : Ini) : Except Failure Unit :=
  match ini.get? "table" "page_size" with
  | none => .ok ()
  | some raw =>
    let raw := Text.trimString raw
    match boundedInt? minInt64 maxInt64 raw.toList with
    | none =>
      .error (.configInvalid "table" "page_size"
        ("page_size must be an integer, got '" ++ raw ++ "'"))
    | some n =>
      if n < 1 then .error (.configInvalid "table" "page_size" "page_size must be at least 1")
      else .ok ()

/-- The failure of a text that names no address to listen on. -/
def invalidListen (raw : String) : Failure :=
  .configInvalid "web" "listen"
    ("invalid socket address '" ++ raw ++ "': " ++ SocketAddress.faultMessage)

/-- An address to listen on must be a socket address. -/
def validateListen (ini : Ini) : Except Failure Unit :=
  match ini.get? "web" "listen" with
  | none => .ok ()
  | some raw =>
    let raw := Text.trimString raw
    match SocketAddress.parse? raw.toList with
    | some _ => .ok ()
    | none => .error (invalidListen raw)

/-- Check every key that is present. The first that makes no sense is named. -/
def validate (ini : Ini) : Except Failure Unit := do
  validateDataPath ini
  validatePageSize ini
  validateListen ini

namespace Settings

/-- The address to listen on that a configuration names, or else the default one. -/
def listenOfIni (ini : Ini) : Except Failure SocketAddress :=
  match ini.getNonBlank? "web" "listen" with
  | none => .ok defaultListen
  | some raw =>
    match SocketAddress.parse? raw.toList with
    | some address => .ok address
    | none =>
      .error (.configInvalid "web" "listen" ("invalid socket address '" ++ raw ++ "'"))

def ofIni (ini : Ini) : Except Failure Settings := do
  validate ini
  let listen ← listenOfIni ini
  return {
    dataPath := ini.getNonBlank? "data" "path"
    pageSize := ini.getNat "table" "page_size" defaultPageSize
    listen }

/-- Settings with those replaced that the command line gives. -/
def withOverrides (s : Settings) (dataPath : Option String) (pageSize : Option Nat)
    (listen : Option SocketAddress) : Settings where
  dataPath := dataPath.or s.dataPath
  pageSize := pageSize.getD s.pageSize
  listen := listen.getD s.listen

end Settings

/-- The failure of a configuration text that is not in a file. -/
def inlineFailure (e : IniError) : Failure := .configParse "<inline>" e.message

/-- The failure to read a configuration file. -/
def fileFailure (path reason : String) : Failure :=
  .configParse path ("couldn't read " ++ path ++ ": " ++ reason)

/-- The configuration in a text file. -/
def iniOfFile (path : String) : Except FileError (List Char) → Except Failure Ini
  | .error e => .error (fileFailure path e.message)
  | .ok text =>
    match Ini.parse text with
    | .ok ini => .ok ini
    | .error e => .error (fileFailure path e.message)

/-- Read the configuration file, if there is one, and take the settings from it. -/
def loadSettings [Monad m] (read : FileReader m) : Option String → m (Except Failure Settings)
  | none => pure (Settings.ofIni Ini.empty)
  | some path => do
    match iniOfFile path (← read.text path) with
    | .ok ini => return Settings.ofIni ini
    | .error e => return .error e

end EquityScreen.Config
