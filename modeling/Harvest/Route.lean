import Harvest.Error
import Harvest.Json.Basic
import Harvest.Regex.Basic
import Harvest.Resource.Basic
import Harvest.Url.Basic
/-!
Routes. A template is a regular expression for whole paths in which `:name` stands for a group of
that name that matches one segment. A slash at the end of a template or of a path does not count.
-/

namespace Harvest

/-- A path without one slash at its end. -/
def normalizePath (path : String) : String :=
  match path.toList.reverse with
  | '/' :: r => String.ofList r.reverse
  | _ => path

/-- The address of a site. -/
def originUrl (hostname : String) : String :=
  "https://" ++ String.ofList (hostname.toList.dropWhile (· = '.'))

structure Route where
  regex : Regex

namespace Route

/-- The characters of segments and of names. -/
def inWord (c : Char) : Bool := c.isAlphanum || c = '_' || c = '-'

def group (name : List Char) : List Char :=
  "(?P<".toList ++ name ++ ">[a-zA-Z0-9_-]+)".toList

/-- Puts a group in the place of every colon with a name behind it. -/
def expand : List Char → List Char
  | [] => []
  | ':' :: r =>
    if (r.takeWhile inWord).isEmpty then ':' :: expand r
    else group (r.takeWhile inWord) ++ expand (r.dropWhile inWord)
  | c :: r => c :: expand r
termination_by s => s.length
decreasing_by
  all_goals simp_wf
  all_goals have := (List.dropWhile_suffix inWord (l := r)).length_le
  all_goals omega

/-- The regular expression of a template. -/
def expression (template : String) : String :=
  "^" ++ String.ofList (expand (normalizePath template).toList) ++ "$"

def compile (template : String) : Except Error Route :=
  match Regex.compile (expression template) with
  | .ok regex => .ok ⟨regex⟩
  | .error fault => .error (.invalidPattern template fault.message)

def isMatch (r : Route) (path : String) : Bool :=
  r.regex.isMatch (normalizePath path)

/-- The named groups of a path that matches, in the order of the template; a group that took no
    part in the match has no text. -/
def captures? (r : Route) (path : String) : Option (List (String × Option String)) :=
  (r.regex.captures? (normalizePath path)).map r.regex.namedGroups

end Route

namespace Resource

def textOrNull (s : Option String) : Json := Json.ofOption .str s

/-- The value of a variable that stands in the query, or its default. -/
def Variable.queryValue (v : Variable) (u : Url) : Option String :=
  match u.queryPairs.find? fun p => p.1 = v.identifier with
  | some p => some p.2
  | none => v.default

/-- The variables of a location whose path has the given groups. Those of the path override
    those of the query. -/
def variablesFrom (r : Resource) (u : Url) (groups : List (String × Option String)) : Members :=
  let query := (r.inputs.filter (·.kind = .query)).foldl
    (fun acc v => Members.insert v.outputName (textOrNull (v.queryValue u)) acc) []
  (r.inputs.filter (·.kind = .url)).foldl
    (fun acc v =>
      match groups.lookup v.identifier with
      | some captured => Members.insert v.outputName (textOrNull captured) acc
      | none => acc)
    query

/-- The variables of a location; none if its path does not match. -/
def readVariables (r : Resource) (u : Url) : Except Error (Option Members) :=
  match Route.compile r.urlPattern with
  | .error e => .error e
  | .ok route => .ok ((route.captures? u.pathText).map (r.variablesFrom u))

end Resource
end Harvest
