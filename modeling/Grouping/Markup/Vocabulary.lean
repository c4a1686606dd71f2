import Grouping.Markup.Token

/-! # Vocabularies

An element belongs to HTML or to one of the two vocabularies that may be embedded in it. Tokens spell
names in lower case; the embedded vocabularies have names of their own spelling, and attributes that
belong to other namespaces.
-/

namespace Grouping.Markup

inductive Vocabulary where
  | html
  | svg
  | math
  deriving DecidableEq, Inhabited

structure Element where
  vocabulary : Vocabulary
  name : String
  attributes : List Attribute := []
  /-- Attributes of other namespaces, by their local names. -/
  linked : List Attribute := []
  deriving DecidableEq, Inhabited

namespace Element

def value? (e : Element) (name : String) : Option String :=
  (e.attributes.find? fun a => a.name = name).map Attribute.value

def isHtml (e : Element) (name : String) : Bool := e.vocabulary = .html && e.name = name

def isHtmlIn (e : Element) (names : List String) : Bool :=
  e.vocabulary = .html && names.contains e.name

/-- Inside these, text and nearly all tags are HTML again. -/
def isTextIsland (e : Element) : Bool :=
  e.vocabulary = .math && ["mi", "mo", "mn", "ms", "mtext"].contains e.name

/-- Inside these, everything is HTML again. -/
def isHtmlIsland (e : Element) : Bool :=
  e.vocabulary = .svg && ["foreignObject", "desc", "title"].contains e.name

/-- Adds attributes that the element does not have yet. -/
def addMissing (e : Element) (attributes : List Attribute) : Element :=
  { e with
    attributes :=
      e.attributes ++ attributes.filter fun a => ! e.attributes.any fun b => b.name = a.name }

end Element

namespace Vocabulary

def svgElementNames : List String :=
  ["altGlyph", "altGlyphDef", "altGlyphItem", "animateColor", "animateMotion", "animateTransform",
    "clipPath", "feBlend", "feColorMatrix", "feComponentTransfer", "feComposite", "feConvolveMatrix",
    "feDiffuseLighting", "feDisplacementMap", "feDistantLight", "feDropShadow", "feFlood", "feFuncA",
    "feFuncB", "feFuncG", "feFuncR", "feGaussianBlur", "feImage", "feMerge", "feMergeNode",
    "feMorphology", "feOffset", "fePointLight", "feSpecularLighting", "feSpotLight", "feTile",
    "feTurbulence", "foreignObject", "glyphRef", "linearGradient", "radialGradient", "textPath"]

def svgAttributeNames : List String :=
  ["attributeName", "attributeType", "baseFrequency", "baseProfile", "calcMode", "clipPathUnits",
    "diffuseConstant", "edgeMode", "filterUnits", "glyphRef", "gradientTransform", "gradientUnits",
    "kernelMatrix", "kernelUnitLength", "keyPoints", "keySplines", "keyTimes", "lengthAdjust",
    "limitingConeAngle", "markerHeight", "markerUnits", "markerWidth", "maskContentUnits",
    "maskUnits", "numOctaves", "pathLength", "patternContentUnits", "patternTransform",
    "patternUnits", "pointsAtX", "pointsAtY", "pointsAtZ", "preserveAlpha", "preserveAspectRatio",
    "primitiveUnits", "refX", "refY", "repeatCount", "repeatDur", "requiredExtensions",
    "requiredFeatures", "specularConstant", "specularExponent", "spreadMethod", "startOffset",
    "stdDeviation", "stitchTiles", "surfaceScale", "systemLanguage", "tableValues", "targetX",
    "targetY", "textLength", "viewBox", "viewTarget", "xChannelSelector", "yChannelSelector",
    "zoomAndPan"]

def mathAttributeNames : List String := ["definitionURL"]

/-- Attributes of other namespaces, with their local names. -/
def linkedNames : List (String × String) :=
  [("xlink:actuate", "actuate"), ("xlink:arcrole", "arcrole"), ("xlink:href", "href"),
    ("xlink:role", "role"), ("xlink:show", "show"), ("xlink:title", "title"), ("xlink:type", "type"),
    ("xml:lang", "lang"), ("xml:space", "space"), ("xmlns", "xmlns"), ("xmlns:xlink", "xlink")]

/-- The spelling of a lower-case name. -/
def spell (names : List String) (name : String) : String :=
  (names.find? fun n => n.map Char.toLower = name).getD name

def elementName (v : Vocabulary) (name : String) : String :=
  match v with
  | svg => spell svgElementNames name
  | html | math => name

def attributeName (v : Vocabulary) (name : String) : String :=
  match v with
  | svg => spell svgAttributeNames name
  | math => spell mathAttributeNames name
  | html => name

def linkedName? (name : String) : Option String :=
  (linkedNames.find? fun p => p.1 = name).map Prod.snd

/-- The element of a tag; `name` is its name in the vocabulary. -/
def element (v : Vocabulary) (name : String) (attributes : List Attribute) : Element :=
  if v = html then ⟨v, name, attributes, []⟩
  else
    { vocabulary := v
      name := name
      attributes := (attributes.filter fun a => (linkedName? a.name).isNone).map fun a =>
        { a with name := v.attributeName a.name }
      linked := attributes.filterMap fun a => (linkedName? a.name).map fun n => ⟨n, a.value⟩ }

/-- Start tags that end the embedded content. -/
def breakingNames : List String :=
  ["b", "big", "blockquote", "body", "br", "center", "code", "dd", "div", "dl", "dt", "em", "embed",
    "h1", "h2", "h3", "h4", "h5", "h6", "head", "hr", "i", "img", "li", "listing", "menu", "meta",
    "nobr", "ol", "p", "pre", "ruby", "s", "small", "span", "strong", "strike", "sub", "sup", "table",
    "tt", "u", "ul", "var"]

/-- Does a start tag end the embedded content? -/
def breaks (t : Tag) : Bool :=
  breakingNames.contains t.name ||
    (t.name = "font" && t.attributes.any fun a => ["color", "face", "size"].contains a.name)

end Vocabulary

end Grouping.Markup
