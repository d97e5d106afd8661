/-
  Custody.Http.Message
  ────────────────────────────────
  **REQUESTS AND RESPONSES.**

  A request names a method and a target and carries headers and a body; a
  response carries a status and, unless it says nothing, a JSON body.  Only
  what may stand in a request makes one: a method is a token, a target has one
  of its forms, and a header value holds no control character but the tab.
-/
import Custody.Http.MediaType
import Custody.Http.Target
import Custody.Json

namespace Custody.Http

/-! ## §1. Requests. -/

/-- A request. -/
structure Request where
  method : String
  target : Target
  headers : List (String × String)
  body : String
deriving DecidableEq, Repr

/-- Whether a text may be the value of a header. -/
def isHeaderValue (text : String) : Bool :=
  text.toList.all fun c => c = '\t' || (0x20 ≤ c.toNat && c.toNat != 0x7f)

/-- Whether the value of a header is visible ASCII, blanks and tabs. -/
def isVisible (text : String) : Bool :=
  text.toList.all fun c => c = '\t' || (0x20 ≤ c.toNat && c.toNat < 0x7f)

namespace Request

/-- The request of a method, a target, headers and a body, if they may stand in one. -/
def ofParts? (method target : String) (headers : List (String × String)) (body : String) :
    Option Request := do
  let target ← Target.ofText? target
  if isToken method && headers.all (fun header => isHeaderValue header.2) then
    return { method, target, headers, body }
  else none

/-- The value of a header. -/
def header? (request : Request) (name : String) : Option String := request.headers.lookup name

/-- Whether the body is declared as JSON. -/
def declaresJson (request : Request) : Bool :=
  match request.header? "content-type" with
  | some value => isVisible value && isJson value
  | none => false

end Request

/-! ## §2. Responses. -/

/-- A response. -/
structure Response where
  status : Nat
  body : Option Json
deriving Repr

namespace Response

/-- A response that says nothing. -/
def bare (status : Nat) : Response := ⟨status, none⟩

/-- A response with a body. -/
def json (status : Nat) (body : Json) : Response := ⟨status, some body⟩

end Response

end Custody.Http
