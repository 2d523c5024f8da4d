import Harvest.Http
import Harvest.Settings
import Harvest.Url.Reader
/-!
Fetching pages. Addresses of private networks are refused before anything is sent, unless they
are allowed; what comes back must be an HTML document.
-/

namespace Harvest.Fetch

/-- Whether the high bits of an address are those of a block: the addresses that agree with
    `base` but for the lowest `free` bits. -/
def inBlock (base free address : Nat) : Bool := address / Nat.pow 2 free = base / Nat.pow 2 free

/-- The number of an IPv4 address. -/
def v4 (a b c d : Nat) : Nat := ((a * 256 + b) * 256 + c) * 256 + d

/-- Whether an IPv4 address belongs to a private or reserved block. -/
def isPrivateV4 (address : Nat) : Bool :=
  inBlock (v4 127 0 0 0) 24 address || inBlock (v4 10 0 0 0) 24 address ||
    inBlock (v4 172 16 0 0) 20 address || inBlock (v4 192 168 0 0) 16 address ||
    inBlock (v4 169 254 0 0) 16 address || address = 0 || address = Nat.pow 2 32 - 1 ||
    inBlock (v4 192 0 2 0) 8 address || inBlock (v4 198 51 100 0) 8 address ||
    inBlock (v4 203 0 113 0) 8 address || inBlock (v4 100 64 0 0) 22 address

/-- Whether an IPv6 address, given by its pieces, is private or reserved, or stands for an IPv4
    address that is. -/
def isPrivateV6 : List Nat → Bool
  | [0, 0, 0, 0, 0, 0, 0, 1] => true
  | [0, 0, 0, 0, 0, 0, 0, 0] => true
  | [0, 0, 0, 0, 0, 0xFFFF, high, low] => isPrivateV4 (high * Nat.pow 2 16 + low)
  | first :: _ => inBlock 0xFE80 6 first || inBlock 0xFC00 9 first
  | [] => false

/-- An address of either version. -/
inductive Ip
  | v4 (address : Nat)
  | v6 (pieces : List Nat)
  deriving DecidableEq, Repr

/-- The address that a text is. One of version 4 has all its four numbers, in decimal. -/
def Ip.read? (s : List Char) : Option Ip :=
  match Url.Address.embedded? s with
  | some [high, low] => some (.v4 (high * Nat.pow 2 16 + low))
  | _ => (Url.Address.v6? s).map .v6

def Ip.isPrivate : Ip → Bool
  | .v4 a => isPrivateV4 a
  | .v6 ps => isPrivateV6 ps

/-- The text of a host without the brackets around an address. -/
def unbracketed (s : List Char) : List Char :=
  ((s.dropWhile (· = '[')).reverse.dropWhile (· = ']')).reverse

/-- Which addresses are fetched. -/
inductive Protection
  | publicOnly
  | any
  deriving DecidableEq, Repr

def isWeb (u : Url) : Bool := u.scheme = "http" || u.scheme = "https"

def blocked (h : Url.Host) : Error :=
  .http ("SSRF blocked: " ++ h.text ++ " is a private/reserved address")

/-- The error for which a host is refused, whose text is read once more for that. Names are not
    looked up. -/
def hostFault? (h : Url.Host) : Option Error :=
  match Ip.read? (unbracketed h.text.toList) with
  | some ip => if ip.isPrivate then some (blocked h) else none
  | none =>
    some (.network ("DNS resolution failed for " ++ h.text ++ ": names are not looked up"))

/-- A URL that may be fetched though private addresses are not allowed. -/
def publicUrl (text : String) : Except Error Url :=
  match Url.parse text with
  | .error fault => .error (.http ("Invalid URL: " ++ fault.message))
  | .ok u =>
    if !isWeb u then
      .error (.http ("URL scheme '" ++ u.scheme ++ "' is not allowed (only http/https)"))
    else
      match u.host with
      | none => .error (.http "URL has no host")
      | some h =>
        match hostFault? h with
        | some e => .error e
        | none => .ok u

def anyUrl (text : String) : Except Error Url :=
  match Url.parse text with
  | .error _ => .error (.http "builder error")
  | .ok u => .ok u

/-- The request for a page. -/
def request (protection : Protection) (userAgent url : String) : Except Error Http.Request :=
  let parsed :=
    match protection with
    | .publicOnly => publicUrl url
    | .any => anyUrl url
  parsed.map fun u =>
    ⟨.get, u, [("accept", "text/html,application/xhtml+xml"), ("user-agent", userAgent)].map
      fun (name, value) => (name, .text value), none⟩

/-- The media type of an answer in lower case; one that cannot be read counts as none. -/
def mediaType (r : Http.Response) : String :=
  match r.contentType.bind Http.fieldText? with
  | some t => Text.lowered t
  | none => ""

def isHtml (mediaType : String) : Bool :=
  mediaType = "" || Text.mentions "html".toList mediaType.toList

/-- The document that comes back for the URL of a request. -/
def document (timeout : Nat) (url : String) : Http.Reply → Except Error String
  | .error failure => .error (failure.error timeout)
  | .ok r =>
    if !r.isSuccess then .error (Http.statusError r.status url)
    else if !isHtml (mediaType r) then
      .error (.http ("Expected an HTML document from " ++ url ++ ", got " ++ mediaType r))
    else r.text

end Harvest.Fetch
