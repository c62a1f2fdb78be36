import ApiCatalog.Error
import ApiCatalog.Login
import ApiCatalog.Server.Status
import ApiCatalog.Url.Absolute

/-! # Requests and responses -/

namespace ApiCatalog

structure Request where
  method : String
  /-- The path with the query, if there is one, or a whole URL. -/
  target : List Char
  headers : List (String × String) := []
  body : List UInt8 := []
  /-- What the userinfo endpoint replies to the token of the request. -/
  userinfo : UserinfoReply := .unreachable

inductive ResponseBody where
  | empty
  | json (value : Json)
  | text (content : String)
  deriving Repr

structure Response where
  status : Nat
  body : ResponseBody
  deriving Repr

namespace Request

/-- What follows the scheme and the authority of a target that states them. -/
def localPart (target : List Char) : List Char :=
  match target.dropWhile Url.isSchemeChar with
  | ':' :: '/' :: '/' :: rest => rest.dropWhile fun c => c != '/' && c != '?'
  | _ => target

/-- The path and the query of a request, without a fragment. -/
def split (request : Request) : List Char × List Char :=
  let (path, query) := (localPart (request.target.takeWhile (· != '#'))).span (· != '?')
  (path, query.drop 1)

def path (request : Request) : List Char := request.split.1

def query (request : Request) : List Char := request.split.2

def isReadable (value : String) : Bool :=
  value.toList.all fun c => c == '\t' || (' ' ≤ c && c ≤ '~')

/-- A header by its name, in any case, if it is readable. -/
def header? (request : Request) (name : String) : Option String :=
  ((request.headers.find? fun header => Text.sameIgnoringAsciiCase header.1 name).map (·.2)).filter
    isReadable

def actingUser? (request : Request) : Option String :=
  ((request.header? "x-acting-user").map Text.trim).filter fun user => !user.isEmpty

def hasToken (request : Request) : Bool :=
  match request.header? "authorization" with
  | none => false
  | some value =>
    "Bearer ".toList.isPrefixOf value.toList &&
      !(Text.trimChars (value.toList.drop "Bearer ".length)).isEmpty

end Request

namespace Response

def ofJson (status : Nat) (value : Json) : Response := ⟨status, .json value⟩

def ofError (e : Error) : Response :=
  ofJson e.status <|
    .ofFields
      [("error", .ofFields
        [("code", .int e.status), ("message", .str e.message), ("type", .str e.kind)])]

def ofResult (status : Nat) : Except Error Json → Response
  | .ok value => ofJson status value
  | .error e => ofError e

def withoutBody (response : Response) : Response := { response with body := .empty }

def isSuccess (response : Response) : Bool := Status.isSuccess response.status

end Response

end ApiCatalog
