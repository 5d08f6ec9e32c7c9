import Sift.Page.Basic
import Sift.Text.Decimal
import Sift.Text.Percent

/-!
# Requests

A request has a method, a target and a body. The target is a path and perhaps, after the first
question mark, a query, whose parameters say which page is asked for. Before the path a target may
name a scheme and a host, and after all a fragment, which do not count.

Main statements: `afterHost_of_slash`, a target that starts with a slash is all path and query, and
`ofQuery_none`, a request without a query asks for the page it gets by default.
-/

namespace Sift

inductive Method where
  | get
  | head
  | post
  | options
  | other (name : String)
  deriving DecidableEq

def Method.ofText : String → Method
  | "GET" => .get
  | "HEAD" => .head
  | "POST" => .post
  | "OPTIONS" => .options
  | name => .other name

/-- A request, its target and its body as they were sent. -/
structure Request where
  method : Method
  target : String
  body : List UInt8

namespace Request

def isSchemeChar (c : Char) : Bool := c.isAlphanum || c == '+' || c == '-' || c == '.'

/-- What follows the scheme and the host of a target, if it names them. After them, even a path that
is left out is the root. -/
def afterHost (target : List Char) : List Char :=
  match target.dropWhile isSchemeChar with
  | ':' :: '/' :: '/' :: rest =>
    match rest.dropWhile fun c => c != '/' && c != '?' with
    | '/' :: path => '/' :: path
    | query => '/' :: query
  | _ => target

/-- A target that starts with a slash names no host. -/
theorem afterHost_of_slash (cs : List Char) : afterHost ('/' :: cs) = '/' :: cs := rfl

def address (r : Request) : List Char := afterHost (r.target.toList.takeWhile (· != '#'))

def path (r : Request) : String := String.ofList (r.address.takeWhile (· != '?'))

def query (r : Request) : Option String :=
  match r.address.dropWhile (· != '?') with
  | [] => none
  | _ :: query => some (String.ofList query)

end Request

/-! ### Page parameters -/

inductive QueryFault where
  | notACount (name : String) (fault : Text.CountFault)
  | repeated (name : String)
  deriving DecidableEq

def QueryFault.message (f : QueryFault) : String :=
  "Failed to deserialize query string: " ++ match f with
    | .notACount name fault => name ++ ": " ++ fault.message
    | .repeated name => "duplicate field \x60" ++ name ++ "\x60"

namespace SearchParams

def none : SearchParams := ⟨.none, .none⟩

/-- The count that a parameter gives, which must be new. -/
def takeCount (name : String) (known : Option Nat) (value : String) : Except QueryFault Nat :=
  if known.isSome then .error (.repeated name)
  else (Text.readCount maxCount value).mapError (.notACount name)

/-- Takes one parameter into what is known. Parameters of other names are ignored. -/
def takeParam (known : SearchParams) : String × String → Except QueryFault SearchParams
  | ("page", value) => (takeCount "page" known.page value).map fun n => { known with page := n }
  | ("perPage", value) =>
    (takeCount "perPage" known.perPage value).map fun n => { known with perPage := n }
  | _ => .ok known

def ofQuery (query : Option String) : Except QueryFault SearchParams :=
  (Text.formParameters (query.getD "")).foldlM takeParam none

theorem ofQuery_none : ofQuery .none = .ok none := rfl

end SearchParams

end Sift
