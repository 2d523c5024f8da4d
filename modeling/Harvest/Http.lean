import Harvest.Error
import Harvest.Json.Basic
import Harvest.Url.Basic
/-!
Requests and what comes back for them.
-/

namespace Harvest.Http

inductive Method
  | get
  | post
  deriving DecidableEq, Repr

def Method.text : Method → String
  | .get => "GET"
  | .post => "POST"

/-- The value of a header field: a text, or a key that was never used before. -/
inductive Value
  | text (s : String)
  | freshKey
  deriving DecidableEq, Repr

/-- A request. Names of header fields are in lower case, and each occurs once. -/
structure Request where
  method : Method
  url : Url
  headers : List (String × Value)
  body : Option Json

/-- An answer, with the bytes of the header field that names the type of its body, if it has one;
    the body is a text, or the reason for which it cannot be read. -/
structure Response where
  status : Nat
  contentType : Option (List UInt8)
  body : Except String String

/-- Why a request is not answered. -/
inductive Failure
  | timeout
  | connection (text : String)
  | other (text : String)
  deriving DecidableEq, Repr

abbrev Reply := Except Failure Response

/-- The error that a failure is told as, given the time that requests have. -/
def Failure.error (timeout : Nat) : Failure → Error
  | .timeout => .timeout timeout
  | .connection text => .network ("Connection failed: " ++ text)
  | .other text => .http text

def Response.isSuccess (r : Response) : Bool := 200 ≤ r.status && r.status < 300

/-- The text of the body of an answer. -/
def Response.text (r : Response) : Except Error String :=
  match r.body with
  | .ok text => .ok text
  | .error reason => .error (.http ("Failed to read response body: " ++ reason))

/-- The error for an answer whose status is no success. -/
def statusError (status : Nat) (url : String) : Error :=
  .http ("HTTP " ++ toString status ++ " for " ++ url)

/-- Whether a character may stand in a header field; one that is not ASCII is sent as bytes, all
    of which may. -/
def isFieldChar (c : Char) : Bool :=
  c = '\t' || (32 ≤ c.toNat && c.toNat ≠ 127)

/-- A text as the value of a header field. -/
def Value.ofText (s : String) : Except Error Value :=
  if s.toList.all isFieldChar then .ok (.text s)
  else .error (.config "Invalid header value: failed to parse header value")

def isVisible (b : UInt8) : Bool := b = 9 || (32 ≤ b && b < 127)

/-- The text of a header field. Only visible characters of ASCII can be read. -/
def fieldText? (bytes : List UInt8) : Option String :=
  if bytes.all isVisible then some (String.ofList (bytes.map fun b => Char.ofNat b.toNat))
  else none

end Harvest.Http
