/-! What can go wrong outside queries: reading the configuration, reading stock data, and screening
with a query that states no condition. Each failure has a message, an exit code for the command line
and a status for web pages. -/
namespace EquityScreen

inductive Failure where
  | configParse (file reason : String)
  | configMissing (sectionName key : String)
  | configInvalid (sectionName key reason : String)
  | dataSource (path reason : String)
  | dataFormat (reason : String)
  | noValidConditions
  | io (reason : String)
deriving DecidableEq, Repr

namespace Failure

def message : Failure → String
  | configParse file reason => "config parse error in " ++ file ++ ": " ++ reason
  | configMissing sectionName key => "missing config key [" ++ sectionName ++ "] " ++ key
  | configInvalid sectionName key reason =>
    "invalid config value [" ++ sectionName ++ "] " ++ key ++ ": " ++ reason
  | dataSource path reason => "cannot read stock data from " ++ path ++ ": " ++ reason
  | dataFormat reason => "malformed stock data: " ++ reason
  | noValidConditions => "no valid conditions found"
  | io reason => reason

/-- The exit code of a command that ends in the failure. -/
def exitCode : Failure → Nat
  | io _ => 1
  | configParse _ _ | configMissing _ _ | configInvalid _ _ _ => 2
  | dataSource _ _ | dataFormat _ => 3
  | noValidConditions => 4

/-- The status of a web page that reports the failure. -/
def status : Failure → Nat
  | noValidConditions => 422
  | _ => 500

end Failure

end EquityScreen
