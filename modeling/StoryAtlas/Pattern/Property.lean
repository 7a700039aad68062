import StoryAtlas.Pattern.CharSet
import StoryAtlas.Text.Unicode.Category
import StoryAtlas.Text.Unicode.Script

/-! Named sets of characters.
The short classes for words, digits and blanks, the classes in brackets with colons, and the
properties of Unicode by their names.  Names of properties are compared without case, blanks,
hyphens and underscores.
-/

namespace StoryAtlas.Pattern

open StoryAtlas.Text.Unicode

/-- The blanks. -/
def blankSet : CharSet :=
  .ofRanges [(9, 13), (0x20, 0x20), (0x85, 0x85), (0xA0, 0xA0), (0x1680, 0x1680),
    (0x2000, 0x200A), (0x2028, 0x2029), (0x202F, 0x202F), (0x205F, 0x205F), (0x3000, 0x3000)]

/-- The members of some general categories. -/
def categorySet (categories : List String) : CharSet :=
  .ofRanges (rangesWhere categories.contains)

/-- The decimal digits. -/
def digitSet : CharSet := categorySet ["Nd"]

def letterCategories : List String := ["Lu", "Ll", "Lt", "Lm", "Lo"]

def alphabeticSet : CharSet :=
  .ofRanges (rangesWhere ("Nl" :: letterCategories).contains ++ otherAlphabetic)

/-- The characters of words: alphabetic ones, marks, digits, connectors and joiners. -/
def wordSet : CharSet :=
  .ofRanges (rangesWhere (["Nl", "Mn", "Mc", "Me", "Nd", "Pc"] ++ letterCategories).contains
    ++ otherAlphabetic ++ [(0x200C, 0x200D)])

/-- The characters of words below the first accented letter. -/
def asciiWordSet : CharSet :=
  ⟨[(0x30, 0x39), (0x41, 0x5A), (0x5F, 0x5F), (0x61, 0x7A)]⟩

def isWordChar (c : Char) : Bool :=
  wordSet.contains c

def isAsciiWordChar (c : Char) : Bool :=
  asciiWordSet.contains c

/-- The classes that are written between `[:` and `:]`. -/
def asciiClass? (name : String) : Option CharSet :=
  [("alnum", [(0x30, 0x39), (0x41, 0x5A), (0x61, 0x7A)]),
    ("alpha", [(0x41, 0x5A), (0x61, 0x7A)]),
    ("ascii", [(0, 0x7F)]),
    ("blank", [(9, 9), (0x20, 0x20)]),
    ("cntrl", [(0, 0x1F), (0x7F, 0x7F)]),
    ("digit", [(0x30, 0x39)]),
    ("graph", [(0x21, 0x7E)]),
    ("lower", [(0x61, 0x7A)]),
    ("print", [(0x20, 0x7E)]),
    ("punct", [(0x21, 0x2F), (0x3A, 0x40), (0x5B, 0x60), (0x7B, 0x7E)]),
    ("space", [(9, 13), (0x20, 0x20)]),
    ("upper", [(0x41, 0x5A)]),
    ("word", asciiWordSet.ranges),
    ("xdigit", [(0x30, 0x39), (0x41, 0x46), (0x61, 0x66)])].lookup name
    |>.map CharSet.ofRanges

/-- The general categories and their unions, by their names. -/
def categoryNames : List (List String × List String) := [
  (["l", "letter"], letterCategories),
  (["lc", "casedletter"], ["Lu", "Ll", "Lt"]),
  (["lu", "uppercaseletter"], ["Lu"]),
  (["ll", "lowercaseletter"], ["Ll"]),
  (["lt", "titlecaseletter"], ["Lt"]),
  (["lm", "modifierletter"], ["Lm"]),
  (["lo", "otherletter"], ["Lo"]),
  (["m", "mark", "combiningmark"], ["Mn", "Mc", "Me"]),
  (["mn", "nonspacingmark"], ["Mn"]),
  (["mc", "spacingmark"], ["Mc"]),
  (["me", "enclosingmark"], ["Me"]),
  (["n", "number"], ["Nd", "Nl", "No"]),
  (["nd", "decimalnumber", "digit"], ["Nd"]),
  (["nl", "letternumber"], ["Nl"]),
  (["no", "othernumber"], ["No"]),
  (["p", "punctuation", "punct"], ["Pc", "Pd", "Ps", "Pe", "Pi", "Pf", "Po"]),
  (["pc", "connectorpunctuation"], ["Pc"]),
  (["pd", "dashpunctuation"], ["Pd"]),
  (["ps", "openpunctuation"], ["Ps"]),
  (["pe", "closepunctuation"], ["Pe"]),
  (["pi", "initialpunctuation"], ["Pi"]),
  (["pf", "finalpunctuation"], ["Pf"]),
  (["po", "otherpunctuation"], ["Po"]),
  (["s", "symbol"], ["Sm", "Sc", "Sk", "So"]),
  (["sm", "mathsymbol"], ["Sm"]),
  (["sc", "currencysymbol"], ["Sc"]),
  (["sk", "modifiersymbol"], ["Sk"]),
  (["so", "othersymbol"], ["So"]),
  (["z", "separator"], ["Zs", "Zl", "Zp"]),
  (["zs", "spaceseparator"], ["Zs"]),
  (["zl", "lineseparator"], ["Zl"]),
  (["zp", "paragraphseparator"], ["Zp"]),
  (["c", "other"], ["Cc", "Cf", "Cn", "Co", "Cs"]),
  (["cc", "control", "cntrl"], ["Cc"]),
  (["cf", "format"], ["Cf"]),
  (["co", "privateuse"], ["Co"]),
  (["cn", "unassigned"], ["Cn"])]

/-- The set of a general category, or of all or all assigned code points. -/
def categoryByName? (name : String) : Option CharSet :=
  if name = "any" then some (.range 0 maxCode)
  else if name = "assigned" then some (categorySet ["Cn"] |>.complement maxCode)
  else if name = "ascii" then some (.range 0 0x7F)
  else (categoryNames.find? fun entry => entry.1.contains name).map fun entry =>
    categorySet entry.2

/-- The set of a property that a character has or lacks. -/
def binaryProperty? (name : String) : Option CharSet :=
  if ["alphabetic", "alpha"].contains name then some alphabeticSet
  else if ["lowercase", "lower"].contains name then
    some (.ofRanges (rangesWhere ["Ll"].contains ++ otherLowercase))
  else if ["uppercase", "upper"].contains name then
    some (.ofRanges (rangesWhere ["Lu"].contains ++ otherUppercase))
  else if name = "cased" then
    some (.ofRanges (rangesWhere ["Lu", "Ll", "Lt"].contains ++ otherLowercase
      ++ otherUppercase))
  else if ["whitespace", "wspace", "space"].contains name then some blankSet
  else if ["asciihexdigit", "ahex"].contains name then asciiClass? "xdigit"
  else none

/-- A name of a property in the form in which names are compared. -/
def normalizeName (name : List Char) : String :=
  let kept := (name.filter fun c => c.toNat < 0x80 && c != ' ' && c != '_' && c != '-').map
    Char.toLower
  match kept with
  | 'i' :: 's' :: rest => if rest = ['c'] then "isc" else String.ofList rest
  | kept => String.ofList kept

/-- The set of a property that is named alone. -/
def propertyByName? (name : List Char) : Option CharSet :=
  let name := normalizeName name
  let categoryFirst := ["cf", "sc", "lc"].contains name
  (if categoryFirst then none else binaryProperty? name)
    |>.or (categoryByName? name)
    |>.or ((scriptRanges? name).map CharSet.ofRanges)

/-- The set of a property that is named with its value. -/
def propertyByValue? (name value : List Char) : Option CharSet :=
  let name := normalizeName name
  let value := normalizeName value
  if ["gc", "generalcategory"].contains name then categoryByName? value
  else if ["sc", "script", "scx", "scriptextensions"].contains name then
    (scriptRanges? value).map CharSet.ofRanges
  else none

end StoryAtlas.Pattern
