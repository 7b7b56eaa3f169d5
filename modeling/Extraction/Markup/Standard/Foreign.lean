import Extraction.Markup.Tree
import Extraction.Text.Case

/-!
# Drawings and formulas in hypertext

Hypertext may hold drawings and formulas, whose elements and attributes have names in mixed case.
The reader lowers all names, so it has to restore these.

## Main definitions

* `Markup.Standard.hypertextSpace`, `Markup.Standard.drawingSpace`, `Markup.Standard.formulaSpace` :
  the namespaces.
* `Markup.Standard.drawingName`, `Markup.Standard.foreignAttributes` : names in their own case.
-/

namespace Extraction.Markup.Standard

open Text

/-- The namespace of hypertext. -/
def hypertextSpace : String := "http://www.w3.org/1999/xhtml"

/-- The namespace of drawings. -/
def drawingSpace : String := "http://www.w3.org/2000/svg"

/-- The namespace of formulas. -/
def formulaSpace : String := "http://www.w3.org/1998/Math/MathML"

/-- The names of elements of drawings that are in mixed case. -/
def drawingNames : List String := [
  "altGlyph", "altGlyphDef", "altGlyphItem", "animateColor", "animateMotion", "animateTransform",
  "clipPath", "feBlend", "feColorMatrix", "feComponentTransfer", "feComposite",
  "feConvolveMatrix", "feDiffuseLighting", "feDisplacementMap", "feDistantLight", "feFlood",
  "feFuncA", "feFuncB", "feFuncG", "feFuncR", "feGaussianBlur", "feImage", "feMerge",
  "feMergeNode", "feMorphology", "feOffset", "fePointLight", "feSpecularLighting", "feSpotLight",
  "feTile", "feTurbulence", "foreignObject", "glyphRef", "linearGradient", "radialGradient",
  "textPath"]

/-- The names of attributes of drawings that are in mixed case. -/
def drawingAttributes : List String := [
  "attributeName", "attributeType", "baseFrequency", "baseProfile", "calcMode", "clipPathUnits",
  "contentScriptType", "contentStyleType", "diffuseConstant", "edgeMode",
  "externalResourcesRequired", "filterRes", "filterUnits", "glyphRef", "gradientTransform",
  "gradientUnits", "kernelMatrix", "kernelUnitLength", "keyPoints", "keySplines", "keyTimes",
  "lengthAdjust", "limitingConeAngle", "markerHeight", "markerUnits", "markerWidth",
  "maskContentUnits", "maskUnits", "numOctaves", "pathLength", "patternContentUnits",
  "patternTransform", "patternUnits", "pointsAtX", "pointsAtY", "pointsAtZ", "preserveAlpha",
  "preserveAspectRatio", "primitiveUnits", "refX", "refY", "repeatCount", "repeatDur",
  "requiredExtensions", "requiredFeatures", "specularConstant", "specularExponent", "spreadMethod",
  "startOffset", "stdDeviation", "stitchTiles", "surfaceScale", "systemLanguage", "tableValues",
  "targetX", "targetY", "textLength", "viewBox", "viewTarget", "xChannelSelector",
  "yChannelSelector", "zoomAndPan"]

/-- A name in the case of a list of names. -/
def inCaseOf (names : List String) (name : String) : String :=
  (names.find? fun n => asciiLowerString n == name).getD name

/-- The name of an element of a drawing. -/
def drawingName (name : String) : String :=
  inCaseOf drawingNames name

/-- The attributes of an element of a drawing or a formula. -/
def foreignAttributes (space : String) (as : List Attribute) : List Attribute :=
  as.map fun a =>
    if space == drawingSpace then { a with name := inCaseOf drawingAttributes a.name }
    else if space == formulaSpace && a.name == "definitionurl" then
      { a with name := "definitionURL" }
    else a

/-- The elements of hypertext that end a drawing or a formula around them. -/
def breakoutNames : List String := [
  "b", "big", "blockquote", "body", "br", "center", "code", "dd", "div", "dl", "dt", "em",
  "embed", "h1", "h2", "h3", "h4", "h5", "h6", "head", "hr", "i", "img", "li", "listing", "menu",
  "meta", "nobr", "ol", "p", "pre", "ruby", "s", "small", "span", "strong", "strike", "sub", "sup",
  "table", "tt", "u", "ul", "var"]

/-- The elements of formulas that hold hypertext as their text. -/
def formulaTextNames : List String :=
  ["mi", "mo", "mn", "ms", "mtext"]

/-- Whether an element of a formula holds hypertext as its text. -/
def isFormulaText (t : Tag) : Bool :=
  t.space == some formulaSpace && formulaTextNames.contains t.name

/-- Whether an element of a drawing or a formula holds hypertext. -/
def holdsHypertext (t : Tag) : Bool :=
  (t.space == some drawingSpace && ["foreignObject", "desc", "title"].contains t.name) ||
    (t.space == some formulaSpace && t.name == "annotation-xml" &&
      ((t.get? "encoding").map asciiLowerString).any
        ["text/html", "application/xhtml+xml"].contains)

end Extraction.Markup.Standard
