import Folio.Unicode.Age
import Folio.Unicode.Break

/-!
# Named sets of characters

Patterns name sets of characters by a property, or by a property and a value: `Alphabetic`, `Lu`,
`Greek`, `Script=Greek`, `Age=6.0`. Blanks, hyphens and underscores, the case of letters and a
leading "is" make no difference in a name.

* `plainName`: the spelling under which names are compared.
* `Category.named?`, `Script.named?`: the sets of categories and scripts.
* **`named?`**: the set of a name; **`valued?`**: the set of a property and a value. Both follow the
  earlier edition of the tables.
-/

namespace Folio.Unicode

/-- The edition that named sets are those of. -/
def namedEdition : Edition := .sixteen

/-- **The spelling under which names are compared.** A leading "is" is dropped, but for the one
abbreviation that has nothing else before its last letter. -/
def plainName (name : String) : String :=
  let cs := name.toList
  let isStart := (cs.take 2).map Char.toLower == ['i', 's']
  let body := (if isStart then cs.drop 2 else cs).filter fun c =>
    c.toNat < 0x80 && c != ' ' && c != '_' && c != '-'
  let body := body.map Char.toLower
  String.ofList (if isStart && body == ['c'] then ['i', 's', 'c'] else body)

/-! ## Categories -/

/-- The names of groups of categories, and further names of single ones. -/
def categoryGroups : List (List String × List Category) :=
  let cased : List Category := [.uppercaseLetter, .lowercaseLetter, .titlecaseLetter]
  [(["l", "letter"], cased ++ [.modifierLetter, .otherLetter]),
    (["lc", "casedletter"], cased),
    (["m", "mark", "combiningmark"], [.nonspacingMark, .spacingMark, .enclosingMark]),
    (["n", "number"], [.decimalNumber, .letterNumber, .otherNumber]),
    (["p", "punctuation", "punct"],
      [.connectorPunctuation, .dashPunctuation, .openPunctuation, .closePunctuation,
        .initialPunctuation, .finalPunctuation, .otherPunctuation]),
    (["s", "symbol"], [.mathSymbol, .currencySymbol, .modifierSymbol, .otherSymbol]),
    (["z", "separator"], [.spaceSeparator, .lineSeparator, .paragraphSeparator]),
    (["c", "other"], [.control, .format, .surrogate, .privateUse, .unassigned]),
    (["cntrl"], [.control]),
    (["digit"], [.decimalNumber])]

/-- The categories of a name; surrogates are no characters and have none. -/
def categoriesOf (name : String) : List Category :=
  match categoryGroups.find? fun group => group.1.contains name with
  | some group => group.2
  | none =>
    (Category.unassigned :: Category.assigned).filter fun category =>
      category != .surrogate &&
        (plainName category.abbreviation == name || plainName category.longName == name)

/-- The set of a category, or of a group of them. -/
def Category.named? (name : String) : Option CharSet :=
  match name with
  | "any" => some CharSet.all
  | "ascii" => some (CharSet.ofText ["0-7f"])
  | "assigned" => some (Category.unassigned.chars namedEdition).compl
  | _ =>
    match categoriesOf name with
    | [] => none
    | list => some (categories namedEdition list)

/-! ## Scripts -/

/-- The code of the script that a name or code means. -/
def scriptCode (name : String) : String :=
  match name with
  | "qaac" => "copt"
  | "qaai" => "zinh"
  | _ => name

/-- The script of a name or code. -/
def Script.named? (name : String) : Option Script :=
  scripts.find? fun script =>
    plainName script.name == name || plainName script.code == scriptCode name

/-! ## Properties -/

/-- The set of a binary property, by its short or its long name. -/
def Property.ofName? (name : String) : Option CharSet :=
  let long := (Property.aliases.lookup name).or
    ((Property.derivedNames ++ Property.listed.map Prod.fst).find? fun long =>
      plainName long == name)
  long.bind (Property.named? namedEdition)

/-- The edition that a value names: `6.0` is also written `V6_0`. -/
def editionOf (value : String) : Option String :=
  (ages.map Prod.fst).find? fun edition =>
    edition == value || "v" ++ String.ofList (edition.toList.filter (· != '.')) == value

/-- **The set of a name**: a binary property, a category or a script. -/
def named? (name : String) : Option CharSet :=
  let name := plainName name
  (Property.ofName? name).or ((Category.named? name).or ((Script.named? name).map Script.chars))

/-- **The set of a property and a value.** -/
def valued? (property value : String) : Option CharSet :=
  let value := plainName value
  match plainName property with
  | "generalcategory" | "gc" => Category.named? value
  | "script" | "sc" => (Script.named? value).map Script.chars
  | "scriptextensions" | "scx" => (Script.named? value).map Script.extension
  | "age" => (editionOf value).bind ofAge?
  | "graphemeclusterbreak" | "gcb" => Break.grapheme.named? value
  | "wordbreak" | "wb" => Break.word.named? value
  | "sentencebreak" | "sb" => Break.sentence.named? value
  | _ => none

end Folio.Unicode
