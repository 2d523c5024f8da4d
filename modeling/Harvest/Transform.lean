import Harvest.Error
import Harvest.Json.Writer
import Harvest.Locale
import Harvest.Pass
import Harvest.Route
import Harvest.Url.Reader
/-!
Transformations of extracted values. They are applied from left to right; the first one that fails
ends the chain.
-/

namespace Harvest

namespace Transform

/-- The largest integer up to which all integers are exact. -/
def maxExact : Nat := 9007199254740991

/-- A number as JSON: an integer where it is exactly one. -/
def numberJson (x : Binary64) : Json :=
  match x.toInt? with
  | some n => if n.natAbs ≤ maxExact then .int n else .num (.float x)
  | none => .num (.float x)

/-- Runs of spaces become one space. -/
def collapseSpaces (inRun : Bool) : List Char → List Char
  | [] => []
  | ' ' :: r => if inRun then collapseSpaces true r else ' ' :: collapseSpaces true r
  | c :: r => c :: collapseSpaces false r

/-- What stands for a run of blanks: a line feed if it holds one. -/
def joinedRun (run : List Char) : List Char :=
  if run.contains '\n' then ['\n'] else run

/-- Runs of blanks with a line feed become one line feed; `run` is the run at hand. -/
def collapseBreaks (run : List Char) : List Char → List Char
  | [] => joinedRun run
  | c :: r =>
    if Text.isBlank c then collapseBreaks (run ++ [c]) r
    else joinedRun run ++ c :: collapseBreaks [] r

def collapseInside (s : List Char) : List Char :=
  collapseBreaks [] (collapseSpaces false s)

def trimmed (parts : List Resource.TrimPart) (s : String) : String :=
  let s := s.toList
  let s := if parts.contains .inside then collapseInside s else s
  String.ofList (if parts.contains .outside then Text.trim s else s)

/-- The text of a value, which must be one. -/
def expectText (step : Error.Step) : Json → Pass String
  | .str s => .pure s
  | v => .fail (.invalidValue step v.compact)

/-- The text with its first match replaced, or the first group of the match. -/
def regexText (pattern : String) (replacement : Option String) (s : String) : Pass Json :=
  match Regex.compile pattern with
  | .error fault => .fail (.invalidPattern pattern fault.message)
  | .ok r =>
    match replacement with
    | some template =>
      if template = "" then group r else .pure (.str (r.replaceFirst s template))
    | none => group r
where
  group (r : Regex) : Pass Json :=
    match (r.captures? s).bind (·.group? 1) with
    | some g => if g = "" then .fail (.regexNoMatch pattern) else .pure (.str g)
    | none => .fail (.regexNoMatch pattern)

/-- An absolute address, or a reference relative to the site. -/
def absolute (hostname s : String) : Except Error String :=
  match Url.parse s with
  | .ok u => .ok u.text
  | .error _ =>
    let invalid (fault : Url.Fault) : Error :=
      .invalidValue .castUrl (s ++ " (" ++ fault.message ++ ")")
    match Url.parse (originUrl hostname) with
    | .error fault => .error (invalid fault)
    | .ok base =>
      match Url.join base s with
      | .ok u => .ok u.text
      | .error fault => .error (invalid fault)

def notANumber (s : String) (l : Locale) : String :=
  "Could not parse '" ++ s ++ "' as a number with locale " ++ l.tag

/-- The number that a text stands for in a locale; a text that is none becomes null. -/
def number (l : Locale) (s : String) : Pass Json :=
  match l.parse? s with
  | some x => .pure (numberJson x)
  | none => .warn (notANumber s l) .null

def unrecognizedWarning : String :=
  "Invalid transformer kind: unrecognized transformer was ignored"

/-- The locale that the options of a cast ask for. -/
def chosenLocale (options : Option (Option String)) (page : Locale) : Locale :=
  match options with
  | some (some tag) => .ofTag tag
  | _ => page

/-- What transformations depend on. -/
structure Context where
  hostname : String
  locale : Locale

def apply (c : Context) (t : Resource.Transformer) (v : Json) : Pass Json :=
  match t with
  | .regex pattern replacement => (expectText .regex v).bind (regexText pattern replacement)
  | .toNumber options =>
    match v with
    | .num n => .pure (.num n)
    | .str s => number (chosenLocale options c.locale) s
    | _ => .fail (.invalidValue .castNumber v.compact)
  | .toUrl _ =>
    (expectText .castUrl v).bind fun s => .ofExcept ((absolute c.hostname s).map .str)
  | .fallback literal => .pure (if v matches .null then .str literal else v)
  | .trim parts => (expectText .trim v).bind fun s => .pure (.str (trimmed parts s))
  | .unrecognized => .warn unrecognizedWarning v

def applyAll (c : Context) : List Resource.Transformer → Json → Pass Json
  | [], v => .pure v
  | t :: r, v => (apply c t v).bind (applyAll c r)

end Transform
end Harvest
