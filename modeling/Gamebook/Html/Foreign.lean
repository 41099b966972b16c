import Gamebook.Html.Category

/-!
# Names in other vocabularies

Tags are read in lower case. In drawings and formulas some names have capitals, and some attributes
belong to a group of their own; these tables restore them.
-/

namespace Gamebook.Html.Foreign

/-- The names of drawing elements that are not in lower case. -/
def svgElements : List String :=
  ["altGlyph", "altGlyphDef", "altGlyphItem", "animateColor", "animateMotion", "animateTransform",
    "clipPath", "feBlend", "feColorMatrix", "feComponentTransfer", "feComposite",
    "feConvolveMatrix", "feDiffuseLighting", "feDisplacementMap", "feDistantLight", "feDropShadow",
    "feFlood", "feFuncA", "feFuncB", "feFuncG", "feFuncR", "feGaussianBlur", "feImage", "feMerge",
    "feMergeNode", "feMorphology", "feOffset", "fePointLight", "feSpecularLighting", "feSpotLight",
    "feTile", "feTurbulence", "foreignObject", "glyphRef", "linearGradient", "radialGradient",
    "textPath"]

/-- The names of drawing attributes that are not in lower case. -/
def svgAttributes : List String :=
  ["attributeName", "attributeType", "baseFrequency", "baseProfile", "calcMode", "clipPathUnits",
    "diffuseConstant", "edgeMode", "filterUnits", "glyphRef", "gradientTransform", "gradientUnits",
    "kernelMatrix", "kernelUnitLength", "keyPoints", "keySplines", "keyTimes", "lengthAdjust",
    "limitingConeAngle", "markerHeight", "markerUnits", "markerWidth", "maskContentUnits",
    "maskUnits", "numOctaves", "pathLength", "patternContentUnits", "patternTransform",
    "patternUnits", "pointsAtX", "pointsAtY", "pointsAtZ", "preserveAlpha", "preserveAspectRatio",
    "primitiveUnits", "refX", "refY", "repeatCount", "repeatDur", "requiredExtensions",
    "requiredFeatures", "specularConstant", "specularExponent", "spreadMethod", "startOffset",
    "stdDeviation", "stitchTiles", "surfaceScale", "systemLanguage", "tableValues", "targetX",
    "targetY", "textLength", "viewBox", "viewTarget", "xChannelSelector", "yChannelSelector",
    "zoomAndPan"]

/-- The attributes with a group, by their written name. -/
def groupedAttributes : List (String × String × String) :=
  [("xlink:actuate", "xlink", "actuate"), ("xlink:arcrole", "xlink", "arcrole"),
    ("xlink:href", "xlink", "href"), ("xlink:role", "xlink", "role"),
    ("xlink:show", "xlink", "show"), ("xlink:title", "xlink", "title"),
    ("xlink:type", "xlink", "type"), ("xml:lang", "xml", "lang"), ("xml:space", "xml", "space"),
    ("xmlns:xlink", "xmlns", "xlink")]

/-- The name of a list that is `name` in lower case, or `name` itself. -/
def restore (names : List String) (name : String) : String :=
  (names.find? fun n => String.ofList (Text.lower n.toList) == name).getD name

/-- The name of an attribute in a vocabulary. -/
def attributeName (v : Vocabulary) (name : String) : String :=
  match v with
  | .svg => restore svgAttributes name
  | .math => if name = "definitionurl" then "definitionURL" else name
  | .html => name

/-- An attribute in a vocabulary. -/
def ofAttribute (v : Vocabulary) (a : Attribute) : Attribute :=
  match groupedAttributes.lookup a.name with
  | some (group, name) => { a with name := name, group := group }
  | none => { a with name := attributeName v a.name }

/-- An element of a vocabulary as its tag is written; `inside` says that the tag stands in the
vocabulary already. -/
def ofTag (v : Vocabulary) (inside : Bool) (name : String) (attributes : List Attribute) :
    Element :=
  { vocabulary := v,
    name := if inside ∧ v = .svg then restore svgElements name else name,
    attributes := attributes.map (ofAttribute v) }

/-- The names of drawing elements. -/
def svgNames : List String :=
  ["a", "animate", "animateMotion", "animateTransform", "circle", "clipPath", "defs", "desc",
    "discard", "ellipse", "feBlend", "feColorMatrix", "feComponentTransfer", "feComposite",
    "feConvolveMatrix", "feDiffuseLighting", "feDisplacementMap", "feDistantLight", "feDropShadow",
    "feFlood", "feFuncA", "feFuncB", "feFuncG", "feFuncR", "feGaussianBlur", "feImage", "feMerge",
    "feMergeNode", "feMorphology", "feOffset", "fePointLight", "feSpecularLighting", "feSpotLight",
    "feTile", "feTurbulence", "filter", "foreignObject", "g", "image", "line", "linearGradient",
    "marker", "mask", "metadata", "mpath", "path", "pattern", "polygon", "polyline",
    "radialGradient", "rect", "script", "set", "stop", "style", "svg", "switch", "symbol", "text",
    "textPath", "title", "tspan", "use", "view"]

/-- The names of formula elements. -/
def mathNames : List String :=
  ["abs", "and", "annotation", "annotation-xml", "apply", "approx", "arccos", "arccosh", "arccot",
    "arccoth", "arccsc", "arccsch", "arcsec", "arcsech", "arcsin", "arcsinh", "arctan", "arctanh",
    "arg", "bind", "bvar", "card", "cartesianproduct", "cbytes", "ceiling", "cerror", "ci", "cn",
    "codomain", "complexes", "compose", "condition", "conjugate", "cos", "cosh", "cot", "coth",
    "cs", "csc", "csch", "csymbol", "curl", "declare", "degree", "determinant", "diff",
    "divergence", "divide", "domain", "domainofapplication", "emptyset", "eq", "equivalent",
    "eulergamma", "exists", "exp", "exponentiale", "factorial", "factorof", "false", "floor", "fn",
    "forall", "gcd", "geq", "grad", "gt", "ident", "image", "imaginary", "imaginaryi", "implies",
    "in", "infinity", "int", "integers", "intersect", "interval", "inverse", "lambda", "laplacian",
    "lcm", "leq", "limit", "list", "ln", "log", "logbase", "lowlimit", "lt", "maction",
    "maligngroup", "malignmark", "math", "matrix", "matrixrow", "max", "mean", "median", "menclose",
    "merror", "mfenced", "mfrac", "mglyph", "mi", "min", "minus", "mlabeledtr", "mlongdiv",
    "mmultiscripts", "mn", "mo", "mode", "moment", "momentabout", "mover", "mpadded", "mphantom",
    "mprescripts", "mroot", "mrow", "ms", "mscarries", "mscarry", "msgroup", "msline", "mspace",
    "msqrt", "msrow", "mstack", "mstyle", "msub", "msubsup", "msup", "mtable", "mtd", "mtext",
    "mtr", "munder", "munderover", "naturalnumbers", "neq", "none", "not", "notanumber", "notin",
    "notprsubset", "notsubset", "or", "otherwise", "outerproduct", "partialdiff", "pi", "piece",
    "piecewise", "plus", "power", "primes", "product", "prsubset", "quotient", "rationals", "real",
    "reals", "reln", "rem", "root", "scalarproduct", "sdev", "sec", "sech", "selector", "semantics",
    "sep", "set", "setdiff", "share", "sin", "sinh", "span", "subset", "sum", "tan", "tanh",
    "tendsto", "times", "transpose", "true", "union", "uplimit", "variance", "vector",
    "vectorproduct", "xor"]

/-- The names that drawings or formulas share with documents. -/
def sharedNames : List String := ["title", "style", "font", "a", "script", "span"]

/-- Whether a name belongs into a vocabulary. -/
def isName (v : Vocabulary) (name : String) : Bool :=
  match v with
  | .svg => svgNames.contains name
  | .math => mathNames.contains name
  | .html => !(svgNames.contains name || mathNames.contains name) || sharedNames.contains name

/-- Whether an element may stand in another: a vocabulary is entered by its own element and left
only through elements that hold ordinary text, and names belong to their vocabulary. -/
def mayStandIn (parent child : Element) : Bool :=
  match parent.vocabulary, child.vocabulary with
  | .html, .svg => child.name == "svg"
  | .html, .math => child.name == "math"
  | .math, .html => Category.isMathText parent && isName .html child.name
  | .math, .svg => Category.isMathText parent || parent.name == "annotation-xml"
  | .svg, .html => parent.name == "foreignObject" && isName .html child.name
  | .svg, .math => parent.name == "foreignObject"
  | _, v => isName v child.name

end Gamebook.Html.Foreign
