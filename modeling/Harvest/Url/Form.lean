import Harvest.Url.Percent
import Harvest.Text.Blank
/-!
Form encoding: names and values of a query, with `+` for a space.
-/

namespace Harvest.Url.Form

def isPlain (c : Char) : Bool :=
  c.isAlphanum || c = '*' || c = '-' || c = '.' || c = '_'

def encodeText (s : String) : String :=
  String.ofList (s.toList.flatMap fun c =>
    if isPlain c then [c]
    else if c = ' ' then ['+']
    else (Text.Utf8.encodeChar c).flatMap Percent.encodeByte)

def encode (pairs : List (String × String)) : String :=
  "&".intercalate (pairs.map fun (k, v) => encodeText k ++ "=" ++ encodeText v)

def decodeText (s : List Char) : String :=
  let plain := s.map fun c => if c = '+' then ' ' else c
  String.ofList (Text.Utf8.decode (Percent.decodeBytes (Text.Utf8.encode plain)))

/-- The pairs of a query in order; empty parts between ampersands are none. -/
def decode (query : String) : List (String × String) :=
  let parts := (Text.splitChars (· = '&') query.toList).filter fun p => !p.isEmpty
  parts.map fun p =>
    let (name, value) := Text.splitFirst '=' p
    (decodeText name, decodeText (value.getD []))

end Harvest.Url.Form
