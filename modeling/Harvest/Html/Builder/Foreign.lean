import Harvest.Html.Builder.Formatting
import Harvest.Text.Blank
/-!
Elements of other vocabularies: the spelling of their names, and where HTML begins again inside of
them.
-/

namespace Harvest.Html.Builder

def svgNames : List String :=
  ["altGlyph", "altGlyphDef", "altGlyphItem", "animateColor", "animateMotion", "animateTransform",
   "clipPath", "feBlend", "feColorMatrix", "feComponentTransfer", "feComposite",
   "feConvolveMatrix", "feDiffuseLighting", "feDisplacementMap", "feDistantLight", "feDropShadow",
   "feFlood", "feFuncA", "feFuncB", "feFuncG", "feFuncR", "feGaussianBlur", "feImage", "feMerge",
   "feMergeNode", "feMorphology", "feOffset", "fePointLight", "feSpecularLighting", "feSpotLight",
   "feTile", "feTurbulence", "foreignObject", "glyphRef", "linearGradient", "radialGradient",
   "textPath"]

def svgAttributes : List String :=
  ["attributeName", "attributeType", "baseFrequency", "baseProfile", "calcMode", "clipPathUnits",
   "diffuseConstant", "edgeMode", "filterUnits", "glyphRef", "gradientTransform", "gradientUnits",
   "kernelMatrix", "kernelUnitLength", "keyPoints", "keySplines", "keyTimes", "lengthAdjust",
   "limitingConeAngle", "markerHeight", "markerUnits", "markerWidth", "maskContentUnits",
   "maskUnits", "numOctaves", "pathLength", "patternContentUnits", "patternTransform",
   "patternUnits", "pointsAtX", "pointsAtY", "pointsAtZ", "preserveAlpha", "preserveAspectRatio",
   "primitiveUnits", "refX", "refY", "repeatCount", "repeatDur", "requiredExtensions",
   "requiredFeatures", "specularConstant", "specularExponent", "spreadMethod", "startOffset",
   "stdDeviation", "stitchTiles", "surfaceScale", "systemLanguage", "tableValues", "targetX",
   "targetY", "textLength", "viewBox", "viewTarget", "xChannelSelector", "yChannelSelector",
   "zoomAndPan"]

/-- The spelling of a name in a list, whatever the letter case. -/
def spelled (names : List String) (name : String) : String :=
  (names.find? fun n => Text.lowered n = name).getD name

/-- Names of attributes that belong to a vocabulary of their own, with their local parts. -/
def qualifiedNames : List (String × String) :=
  [("xlink:actuate", "actuate"), ("xlink:arcrole", "arcrole"), ("xlink:href", "href"),
   ("xlink:role", "role"), ("xlink:show", "show"), ("xlink:title", "title"),
   ("xlink:type", "type"), ("xml:lang", "lang"), ("xml:space", "space"), ("xmlns", "xmlns"),
   ("xmlns:xlink", "xlink")]

def qualify (a : Attribute) : Attribute :=
  match qualifiedNames.lookup a.name with
  | some part => { a with name := part, qualified := true }
  | none => a

def attributesIn (v : Vocabulary) (attributes : List Attribute) : List Attribute :=
  let spell (a : Attribute) : Attribute :=
    match v with
    | .svg => { a with name := spelled svgAttributes a.name }
    | .math => if a.name = "definitionurl" then { a with name := "definitionURL" } else a
    | .html => a
  attributes.map fun a => qualify (spell a)

/-- Inserts an element of a vocabulary; one that closes itself is not left open. -/
def openForeign (b : Builder) (v : Vocabulary) (name : String) (attributes : List Attribute)
    (selfClosing : Bool) : Builder :=
  let name := if v = .svg then spelled svgNames name else name
  let b := b.openTag { vocabulary := v, name, attributes := attributesIn v attributes }
  if selfClosing then b.pop else b

def isMathText (t : Tag) : Bool :=
  t.vocabulary = .math && mathText.contains t.name

/-- Whether HTML begins again inside of an element. -/
def holdsHtml (t : Tag) : Bool :=
  t.vocabulary = .svg && ["foreignObject", "desc", "title"].contains t.name

/-- Whether a token belongs to a vocabulary other than HTML. -/
def isForeign (t : Token) (b : Builder) : Bool :=
  match b.currentTag? with
  | none => false
  | some around =>
    if around.vocabulary = .html then false
    else
      match t with
      | .ended => false
      | .characters .. => !(isMathText around || holdsHtml around)
      | .opening name _ _ =>
        !((isMathText around && name ≠ "mglyph" && name ≠ "malignmark") ||
          (around.vocabulary = .math && around.name = "annotation-xml" && name = "svg") ||
          holdsHtml around)
      | _ => true

/-- Tags that end foreign content. -/
def breakoutNames : List String :=
  ["b", "big", "blockquote", "body", "br", "center", "code", "dd", "div", "dl", "dt", "em",
   "embed", "h1", "h2", "h3", "h4", "h5", "h6", "head", "hr", "i", "img", "li", "listing", "menu",
   "meta", "nobr", "ol", "p", "pre", "ruby", "s", "small", "span", "strong", "strike", "sub",
   "sup", "table", "tt", "u", "ul", "var"]

def breaksOut (name : String) (attributes : List Attribute) : Bool :=
  breakoutNames.contains name ||
    (name = "font" && attributes.any fun a => ["color", "face", "size"].contains a.name)

/-- Closes foreign elements up to one where HTML is at home. -/
def leaveForeign (b : Builder) : Builder :=
  let isHome (i : Nat) : Bool :=
    match b.tag? i with
    | some t => t.vocabulary = .html || isMathText t || holdsHtml t
    | none => true
  { b with opened := b.opened.dropWhile fun i => !isHome i }

/-- What becomes of the token: it is dealt with, or it is left to the phase. -/
inductive Foreign
  | done (b : Builder)
  | left (b : Builder)

/-- Closes the nearest foreign element with a name; the first HTML element above ends the search. -/
def closeForeign (name : String) (b : Builder) : Foreign :=
  let rec look (first : Bool) : List Nat → Foreign
    | [] => .done b
    | [_] => .done b
    | i :: r =>
      match b.tag? i with
      | none => look false r
      | some t =>
        if !first && t.vocabulary = .html then .left b
        else if Text.lowered t.name = name then .done { b with opened := r }
        else look false r
  look true b.opened

def foreign (t : Token) (b : Builder) : Foreign :=
  match t with
  | .characters .null s => .done (b.insertText (String.ofList (s.toList.map fun _ => '\uFFFD')))
  | .characters .blank s => .done (b.insertText s)
  | .characters .solid s => .done (b.insertText s).refuseFrameset
  | .comment s => .done (b.insertComment s)
  | .doctype _ => .done b
  | .opening name attributes selfClosing =>
    if breaksOut name attributes then .left b.leaveForeign
    else
      match b.currentTag? with
      | some around => .done (b.openForeign around.vocabulary name attributes selfClosing)
      | none => .done b
  | .closing name =>
    if name = "br" || name = "p" then .left b.leaveForeign else closeForeign name b
  | .ended => .left b

end Harvest.Html.Builder
