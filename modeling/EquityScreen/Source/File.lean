import EquityScreen.Text.Utf8

/-! Files as the rest of the library sees them: a name leads to bytes, or to the reason why there
are none. Whoever runs the library decides what a name leads to. -/
namespace EquityScreen

/-- Why a file gives no text. -/
inductive FileError where
  | notFound
  | isDirectory
  | notUtf8
  | other (reason : String)
deriving DecidableEq, Repr

def FileError.message : FileError → String
  | notFound => "No such file or directory (os error 2)"
  | isDirectory => "Is a directory (os error 21)"
  | notUtf8 => "stream did not contain valid UTF-8"
  | other reason => reason

/-- A way to read the bytes of a named file. -/
abbrev FileReader (m : Type → Type) := String → m (Except FileError (List UInt8))

/-- The text of a file, which must be UTF-8 throughout. -/
def textOfBytes (bytes : Except FileError (List UInt8)) : Except FileError (List Char) :=
  match bytes with
  | .error e => .error e
  | .ok bytes =>
    match Text.decodeUtf8? bytes with
    | some text => .ok text
    | none => .error .notUtf8

/-- Read a text file. -/
def FileReader.text [Monad m] (read : FileReader m) (path : String) :
    m (Except FileError (List Char)) := do
  return textOfBytes (← read path)

/-- The last part of a path that names a file. A path that ends in the parent directory names
none. -/
def fileName? (path : List Char) : Option (List Char) :=
  let parts := (path.splitOnP (· == '/')).filter fun part => !part.isEmpty && part != ['.']
  match parts.getLast? with
  | some ['.', '.'] => none
  | last => last

/-- The part of a file name behind its last point. A point in front starts no extension. -/
def extension? (path : List Char) : Option (List Char) :=
  match fileName? path with
  | none => none
  | some name =>
    match name.reverse.dropWhile (· != '.') with
    | [] | ['.'] => none
    | _ => some (name.reverse.takeWhile (· != '.')).reverse

end EquityScreen
