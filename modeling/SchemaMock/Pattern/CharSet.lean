/-
# Sets of characters in patterns

A pattern tells characters by sets: ranges, the classes with names, and what unions, intersections,
differences and complements make of these.  A set is a tree, and membership follows the tree.

Where case is ignored, every set that is written out is closed under case first, and complements are
taken afterwards: `[^a]` without regard to case leaves out `A` as well.
-/
import SchemaMock.Text.Case

namespace SchemaMock

/-- A set of characters. -/
inductive CharSet where
  | nothing
  | range (first last : Char)
  /-- Characters in one of some tables. -/
  | listed (tables : List Text.CodePoints)
  /-- Characters that can stand in a name: letters, marks, decimal digits and connectors. -/
  | word
  /-- Decimal digits. -/
  | digit
  /-- Blanks. -/
  | space
  | union (a b : CharSet)
  | inter (a b : CharSet)
  | diff (a b : CharSet)
  /-- Characters in one of two sets only. -/
  | either (a b : CharSet)
  | compl (a : CharSet)
  /-- Characters that differ from a member in case at most. -/
  | anyCase (a : CharSet)

namespace CharSet

/-! ## 1. Membership -/

/-- Blanks beyond code point 127. -/
def wideBlanks : Text.CodePoints :=
  Text.CodePoints.ofText "85 A0 1680 2000-200A 2028-2029 202F 205F 3000"

/-- Whether a character is a blank. -/
def isBlank (c : Char) : Bool :=
  c = ' ' || ('\t' ≤ c && c ≤ '\r') || (!Text.isAscii c && wideBlanks.contains c)

/-- The joiners, which stand in names without being letters. -/
def isJoiner (c : Char) : Bool := c.toNat = 0x200C || c.toNat = 0x200D

/-- Whether a character is a decimal digit. -/
def isDecimal (c : Char) : Bool :=
  if Text.isAscii c then c.isDigit else Text.Category.decimalNumber.contains c

/-- Whether a character can stand in a name. -/
def isWord (c : Char) : Bool :=
  if Text.isAscii c then c.isAlphanum || c = '_'
  else Text.isAlphabetic c || isDecimal c || isJoiner c || Text.Category.connector.contains c
    || Text.Category.anyContains Text.Category.marks c

/-- Whether a character is in a set. -/
def contains : CharSet → Char → Bool
  | nothing, _ => false
  | range first last, c => first ≤ c && c ≤ last
  | listed tables, c => Text.Category.anyContains tables c
  | word, c => isWord c
  | digit, c => isDecimal c
  | space, c => isBlank c
  | union a b, c => a.contains c || b.contains c
  | inter a b, c => a.contains c && b.contains c
  | diff a b, c => a.contains c && !b.contains c
  | either a b, c => a.contains c != b.contains c
  | compl a, c => !a.contains c
  | anyCase a, c => (Text.caseVariants c).any fun d => a.contains d

/-! ## 2. Making sets -/

/-- The set of one character. -/
def single (c : Char) : CharSet := range c c

/-- The set of every character. -/
def everything : CharSet := compl nothing

/-- The union of some sets. -/
def unions : List CharSet → CharSet
  | [] => nothing
  | [a] => a
  | a :: rest => union a (unions rest)

/-- The complement of a set, if it is asked for. -/
def negateIf (negated : Bool) (a : CharSet) : CharSet := if negated then compl a else a

/-- A set closed under case, if that is asked for. -/
def foldIf (ignoreCase : Bool) (a : CharSet) : CharSet := if ignoreCase then anyCase a else a

/-! ## 3. Classes with names -/

/-- The classes of the first 128 characters, which are written `[:name:]`. -/
def asciiClass? : String → Option CharSet
  | "alnum" => some (unions [range '0' '9', range 'A' 'Z', range 'a' 'z'])
  | "alpha" => some (union (range 'A' 'Z') (range 'a' 'z'))
  | "ascii" => some (range '\x00' '\x7F')
  | "blank" => some (union (single '\t') (single ' '))
  | "cntrl" => some (union (range '\x00' '\x1F') (single '\x7F'))
  | "digit" => some (range '0' '9')
  | "graph" => some (range '!' '~')
  | "lower" => some (range 'a' 'z')
  | "print" => some (range ' ' '~')
  | "punct" => some (unions [range '!' '/', range ':' '@', range '[' '\x60', range '\x7B' '~'])
  | "space" => some (union (range '\t' '\r') (single ' '))
  | "upper" => some (range 'A' 'Z')
  | "word" => some (unions [range '0' '9', range 'A' 'Z', single '_', range 'a' 'z'])
  | "xdigit" => some (unions [range '0' '9', range 'A' 'F', range 'a' 'f'])
  | _ => none

/-- The letters for a general category, by every name that it has; in names of this list case,
blanks, hyphens and underscores do not count. -/
def categoryNames : List (String × String) :=
  [("l", "L"), ("letter", "L"), ("lu", "Lu"), ("uppercaseletter", "Lu"), ("ll", "Ll"),
   ("lowercaseletter", "Ll"), ("lt", "Lt"), ("titlecaseletter", "Lt"), ("lm", "Lm"),
   ("modifierletter", "Lm"), ("lo", "Lo"), ("otherletter", "Lo"), ("m", "M"), ("mark", "M"),
   ("combiningmark", "M"), ("mn", "Mn"), ("nonspacingmark", "Mn"), ("mc", "Mc"),
   ("spacingmark", "Mc"), ("me", "Me"), ("enclosingmark", "Me"), ("n", "N"), ("number", "N"),
   ("nd", "Nd"), ("decimalnumber", "Nd"), ("digit", "Nd"), ("nl", "Nl"), ("letternumber", "Nl"),
   ("no", "No"), ("othernumber", "No"), ("p", "P"), ("punctuation", "P"), ("punct", "P"),
   ("pc", "Pc"), ("connectorpunctuation", "Pc"), ("pd", "Pd"), ("dashpunctuation", "Pd"),
   ("ps", "Ps"), ("openpunctuation", "Ps"), ("pe", "Pe"), ("closepunctuation", "Pe"),
   ("pi", "Pi"), ("initialpunctuation", "Pi"), ("pf", "Pf"), ("finalpunctuation", "Pf"),
   ("po", "Po"), ("otherpunctuation", "Po"), ("s", "S"), ("symbol", "S"), ("sm", "Sm"),
   ("mathsymbol", "Sm"), ("sc", "Sc"), ("currencysymbol", "Sc"), ("sk", "Sk"),
   ("modifiersymbol", "Sk"), ("so", "So"), ("othersymbol", "So"), ("z", "Z"), ("separator", "Z"),
   ("zs", "Zs"), ("spaceseparator", "Zs"), ("zl", "Zl"), ("lineseparator", "Zl"), ("zp", "Zp"),
   ("paragraphseparator", "Zp"), ("cc", "Cc"), ("control", "Cc"), ("cntrl", "Cc"), ("cf", "Cf"),
   ("format", "Cf"), ("co", "Co"), ("privateuse", "Co")]

/-- The tables of a category: of one class for a single letter, else of one kind. -/
def categoryTables (letters : String) : List Text.CodePoints :=
  (Text.Category.tables.filter fun t => letters.toList.isPrefixOf t.1.toList).map Prod.snd

/-- A name without what does not count in it. -/
def looseName (name : List Char) : String :=
  let letters := name.filterMap fun c =>
    if Text.isAscii c && c != ' ' && c != '_' && c != '-' then some c.toLower else none
  match letters with
  | 'i' :: 's' :: rest => String.ofList (if rest = ['c'] then letters else rest)
  | _ => String.ofList letters

/-- The characters of a general category. -/
def category? (name : String) : Option CharSet :=
  match categoryNames.lookup name with
  | some letters => some (listed (categoryTables letters))
  | none =>
    match name with
    | "any" => some everything
    | "ascii" => some (range '\x00' '\x7F')
    | "assigned" => some (listed Text.Category.assigned)
    | "cn" | "unassigned" => some (compl (listed Text.Category.assigned))
    | "c" | "other" =>
      some (compl (unions (["L", "M", "N", "P", "S", "Z"].map fun l => listed (categoryTables l))))
    | "lc" | "casedletter" =>
      some (unions (["Lu", "Ll", "Lt"].map fun l => listed (categoryTables l)))
    | _ => none

/-- The characters with a property. -/
def property? (name : String) : Option CharSet :=
  match name with
  | "alphabetic" | "alpha" =>
    some (listed (Text.otherAlphabetic :: Text.Category.letterNumber :: Text.Category.letters))
  | "lowercase" | "lower" => some (listed [Text.Category.lowerLetter, Text.otherLowercase])
  | "uppercase" | "upper" => some (listed [Text.Category.upperLetter, Text.otherUppercase])
  | "whitespace" | "wspace" | "space" => some space
  | _ => category? name

/-- The set that a name in braces stands for: a property or a category, or a category with `gc`
before it. -/
def named? (name : List Char) : Option CharSet :=
  let ofCategory := fun (key value : List Char) =>
    if ["gc", "generalcategory"].contains (looseName key) then category? (looseName value) else none
  match Text.splitFirst '=' (name.map fun c => if c = ':' then '=' else c) with
  | (key, some value) =>
    if key.getLast? = some '!' then (ofCategory key.dropLast value).map compl
    else ofCategory key value
  | (_, none) => property? (looseName name)

end CharSet

end SchemaMock
