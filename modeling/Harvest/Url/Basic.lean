import Harvest.Url.Host
import Harvest.Url.Form
/-!
URLs by their parts, and their text. The text of every part is kept in its encoded form.
-/

namespace Harvest

/-- Segments behind slashes, or text of no further structure. -/
inductive Url.Path
  | segments (parts : List String)
  | rootless (text : String)
  deriving DecidableEq, Repr

structure Url where
  scheme : String
  username : String
  password : Option String
  /-- The host of an authority; a URL may have an authority whose host is empty. -/
  host : Option Url.Host
  port : Option Nat
  path : Url.Path
  query : Option String
  fragment : Option String
  deriving DecidableEq, Repr

namespace Url

def Path.text : Path → String
  | .segments parts => String.join (parts.map ("/" ++ ·))
  | .rootless text => text

def isSpecial (scheme : String) : Bool :=
  ["http", "https", "ws", "wss", "ftp", "file"].contains scheme

def defaultPort? (scheme : String) : Option Nat :=
  match scheme with
  | "http" => some 80
  | "ws" => some 80
  | "https" => some 443
  | "wss" => some 443
  | "ftp" => some 21
  | _ => none

/-- The text of the host, when there is one that is not empty. -/
def hostText? (u : Url) : Option String :=
  match u.host with
  | some h => if h.text = "" then none else some h.text
  | none => none

def pathText (u : Url) : String := u.path.text

def queryPairs (u : Url) : List (String × String) :=
  Form.decode (u.query.getD "")

def userinfoText (u : Url) : String :=
  match u.password with
  | some p => u.username ++ ":" ++ p ++ "@"
  | none => if u.username = "" then "" else u.username ++ "@"

def portText (u : Url) : String :=
  match u.port with
  | some p => ":" ++ toString p
  | none => ""

/-- Whether a path would be taken for an authority if it stood right behind the scheme. -/
def needsDot (u : Url) : Bool :=
  match u.host, u.path with
  | none, .segments ("" :: _ :: _) => true
  | _, _ => false

def authorityText (u : Url) : String :=
  match u.host with
  | some h => "//" ++ u.userinfoText ++ h.text ++ u.portText
  | none => if u.needsDot then "/." else ""

def withoutQuery (u : Url) : String :=
  u.scheme ++ ":" ++ u.authorityText ++ u.pathText

def text (u : Url) : String :=
  u.withoutQuery ++
    (match u.query with
    | some q => "?" ++ q
    | none => "") ++
    (match u.fragment with
    | some f => "#" ++ f
    | none => "")

end Url
end Harvest
