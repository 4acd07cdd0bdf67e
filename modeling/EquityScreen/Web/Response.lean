import EquityScreen.Failure
import EquityScreen.Json.Value
import EquityScreen.Page.Document

/-! Requests to the web server and its responses. -/
namespace EquityScreen.Web

/-- A request: its method, its target (a path and perhaps a query part) and its headers. -/
structure Request where
  method : String
  target : String
  headers : List (String × String)
deriving DecidableEq, Repr

structure Response where
  status : Nat
  contentType : Option String
  body : String
  /-- The methods that the path allows, where the request used another one. -/
  allow : Option String
deriving DecidableEq, Repr

namespace Request

/-- A character that the scheme of a target can hold. -/
def isSchemeChar (c : Char) : Bool := c.isAlphanum || c == '+' || c == '-' || c == '.' || c == '~'

/-- A target without the scheme and the host that may stand in front of its path. -/
def withoutHost (target : List Char) : List Char :=
  match target.dropWhile isSchemeChar with
  | ':' :: '/' :: '/' :: rest => rest.dropWhile fun c => c != '/' && c != '?'
  | _ => target

/-- The target without host and fragment. -/
def resource (r : Request) : List Char := withoutHost (r.target.toList.takeWhile (· != '#'))

/-- The path of the target. A target without one stands for the root. -/
def path (r : Request) : String :=
  match r.resource.takeWhile (· != '?') with
  | [] => "/"
  | path => String.ofList path

/-- The text behind the question mark of the target. -/
def queryText (r : Request) : String := String.ofList ((r.resource.dropWhile (· != '?')).drop 1)

/-- The request wants a page without the document around it. -/
def wantsFragment (r : Request) : Bool :=
  r.headers.any fun (name, _) => name.toLower == "hx-request"

/-- A page on its own or in a document, as the request wants it. -/
def framed (r : Request) (title : String) (content : Page.Html) : Page.Html :=
  if r.wantsFragment then content else Page.document title content

end Request

namespace Response

def html (status : Nat) (content : Page.Html) : Response :=
  ⟨status, some "text/html; charset=utf-8", String.ofList (Page.render content), none⟩

def json (status : Nat) (value : Json.Value) : Response :=
  ⟨status, some "application/json", String.ofList value.compact, none⟩

def plain (status : Nat) (body : String) : Response :=
  ⟨status, some "text/plain; charset=utf-8", body, none⟩

/-- A document that reports an error. -/
def error (status : Nat) (message : String) : Response :=
  html status (Page.document "Error" (Page.errorPage status message))

/-- A document that reports a failure. -/
def ofFailure (failure : Failure) : Response := error failure.status failure.message

def notFound (message : String) : Response := error 404 message

def internalError (message : String) : Response := error 500 message

/-- A JSON object with an error message. -/
def jsonError (status : Nat) (message : String) : Response :=
  json status (.object [("error", .ofString message)])

def withoutBody (r : Response) : Response := { r with body := "" }

end Response

end EquityScreen.Web
