import Gleaner.Html.Tree
/-!
# Foreign elements

Drawings and formulas stand inside of hypertext as elements of vocabularies of their own. Their tags
are read in lower case, and some of their names are restored.

* `foreignElement` is the element of a tag in a foreign vocabulary;
* `isTextPoint`, `isHypertextPoint` are the elements inside of which hypertext goes on;
* `leavesForeign` are the tags that end all foreign elements.
-/

namespace Gleaner
namespace Html

def drawingNames : List String :=
  ["altGlyph", "altGlyphDef", "altGlyphItem", "animateColor", "animateMotion", "animateTransform",
    "clipPath", "feBlend", "feColorMatrix", "feComponentTransfer", "feComposite",
    "feConvolveMatrix", "feDiffuseLighting", "feDisplacementMap", "feDistantLight", "feDropShadow",
    "feFlood", "feFuncA", "feFuncB", "feFuncG", "feFuncR", "feGaussianBlur", "feImage", "feMerge",
    "feMergeNode", "feMorphology", "feOffset", "fePointLight", "feSpecularLighting", "feSpotLight",
    "feTile", "feTurbulence", "foreignObject", "glyphRef", "linearGradient", "radialGradient",
    "textPath"]

def drawingAttributes : List String :=
  ["attributeName", "attributeType", "baseFrequency", "baseProfile", "calcMode", "clipPathUnits",
    "diffuseConstant", "edgeMode", "filterUnits", "glyphRef", "gradientTransform", "gradientUnits",
    "kernelMatrix", "kernelUnitLength", "keyPoints", "keySplines", "keyTimes", "lengthAdjust",
    "limitingConeAngle", "markerHeight", "markerUnits", "markerWidth", "maskContentUnits",
    "maskUnits", "numOctaves", "pathLength", "patternContentUnits", "patternTransform",
    "patternUnits", "pointsAtX", "pointsAtY", "pointsAtZ", "preserveAlpha", "preserveAspectRatio",
    "primitiveUnits", "refX", "refY", "repeatCount", "repeatDur", "requiredExtensions",
    "requiredFeatures", "specularConstant", "specularExponent", "spreadMethod", "startOffset",
    "stdDeviation", "stitchTiles", "surfaceScale", "systemLanguage", "tableValues", "targetX",
    "targetY", "textLength", "viewBox", "viewTarget", "xChannelSelector", "yChannelSelector",
    "zoomAndPan"]

/-- The name among those given that is the same in lower case, or the name itself. -/
def restored (names : List String) (name : String) : String :=
  (names.find? fun n => Text.asciiLower n == name).getD name

/-- The attributes of foreign elements that do not belong to the plain family. -/
def foreignAttributes : List (String × Family × String) :=
  (["actuate", "arcrole", "href", "role", "show", "title", "type"].map fun n =>
    (Family.link.front ++ n, .link, n)) ++
  (["lang", "space"].map fun n => (Family.markup.front ++ n, .markup, n)) ++
  [("xmlns", .declaration, "xmlns"), ("xmlns:xlink", .binding, "xlink")]

def foreignAttribute (vocabulary : Vocabulary) (name value : String) : Attribute :=
  match foreignAttributes.lookup name with
  | some (family, n) => ⟨family, n, value⟩
  | none =>
    match vocabulary with
    | .svg => .plain (restored drawingAttributes name) value
    | .math => .plain (restored ["definitionURL"] name) value
    | .html => .plain name value

def foreignElement (vocabulary : Vocabulary) (tag : Tag) : Element :=
  let name := if vocabulary = .svg then restored drawingNames tag.name else tag.name
  ⟨vocabulary, name, tag.attributes.map fun (n, v) => foreignAttribute vocabulary n v⟩

/-- The elements of formulas inside of which plain text of hypertext stands. -/
def isTextPoint (e : Element) : Bool :=
  e.vocabulary == .math && ["mi", "mo", "mn", "ms", "mtext"].contains e.name

def isHypertextPoint (e : Element) : Bool :=
  match e.vocabulary with
  | .html => false
  | .svg => ["foreignObject", "desc", "title"].contains e.name
  | .math =>
    e.name == "annotation-xml" &&
      match e.attribute? "encoding" with
      | some value => ["text/html", "application/xhtml+xml"].contains (Text.asciiLower value)
      | none => false

/-- The tags of hypertext that end all foreign elements around them. -/
def leavingNames : List String :=
  ["b", "big", "blockquote", "body", "br", "center", "code", "dd", "div", "dl", "dt", "em",
    "embed", "h1", "h2", "h3", "h4", "h5", "h6", "head", "hr", "i", "img", "li", "listing",
    "menu", "meta", "nobr", "ol", "p", "pre", "ruby", "s", "small", "span", "strong", "strike",
    "sub", "sup", "table", "tt", "u", "ul", "var"]

def leavesForeign (tag : Tag) : Bool :=
  leavingNames.contains tag.name ||
    (tag.name == "font" &&
      tag.attributes.any fun (n, _) => n == "color" || n == "face" || n == "size")

end Html
end Gleaner
