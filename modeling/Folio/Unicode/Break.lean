import Folio.Unicode.Property
import Folio.Unicode.Script

/-!
# Breaks

Characters have a value for each of three purposes: to find where graphemes, words and sentences
break.

* `Break`: the purposes.
* **`Break.chars?`**: the characters with a value. Values that no character has are refused.
-/

namespace Folio.Unicode

/-- What is broken into parts. -/
inductive Break
  | grapheme
  | word
  | sentence
  deriving DecidableEq, Inhabited, Repr

namespace Break

/-- The edition that values are given in. -/
def edition : Edition := .sixteen

/-- Format characters that neither attach to a number nor join or split words. -/
def plainFormat (kept : List String) : CharSet :=
  (Category.format.chars edition).diff
    ((CharSet.ofText kept).union (Property.listedChars edition "Prepended_Concatenation_Mark"))

/-! ## Graphemes -/

/-- Syllables that end in a vowel: every 28th one. -/
def openSyllables : CharSet :=
  ⟨((List.range 399).map fun i => ⟨0xAC00 + 28 * i, 0xAC00 + 28 * i⟩).toArray⟩

/-- Characters that extend the grapheme they follow. -/
def graphemeExtend : CharSet :=
  (Property.graphemeExtend edition).union (Property.listedChars edition "Emoji_Modifier")

/-- Marks that take room of their own. -/
def spacingMark : CharSet :=
  (((Category.spacingMark.chars edition).diff graphemeExtend).diff (CharSet.ofText
    ["102b-102c 1038 1062-1064 1067-106d 1083 1087-108c 108f 109a-109c 1a61 1a63-1a64 aa7b aa7d",
      "11720-11721"])).union (CharSet.ofText ["e33 eb3"])

/-- Characters that stand alone. -/
def graphemeControl : CharSet :=
  ((categories edition [.lineSeparator, .paragraphSeparator, .control, .format]).union
    ((Category.unassigned.chars edition).inter (Property.defaultIgnorable edition))).diff
      ((CharSet.ofText ["a d 200c-200d e0020-e007f"]).union
        (Property.listedChars edition "Prepended_Concatenation_Mark"))

/-- Characters that begin a grapheme with what follows them. -/
def graphemePrepend : CharSet :=
  (Property.listedChars edition "Prepended_Concatenation_Mark").union (CharSet.ofText
    ["d4e 111c2-111c3 113d1 1193f 11941 11a3a 11a84-11a89 11d46 11f02"])

/-- The characters with a value for graphemes. -/
def ofGrapheme? (value : String) : Option CharSet :=
  match value with
  | "CR" => some (CharSet.ofText ["d"])
  | "Control" => some graphemeControl
  | "Extend" => some graphemeExtend
  | "L" => some (CharSet.ofText ["1100-115f a960-a97c"])
  | "LF" => some (CharSet.ofText ["a"])
  | "LV" => some openSyllables
  | "LVT" => some ((CharSet.ofText ["ac00-d7a3"]).diff openSyllables)
  | "Prepend" => some graphemePrepend
  | "Regional_Indicator" => some (CharSet.ofText ["1f1e6-1f1ff"])
  | "SpacingMark" => some spacingMark
  | "T" => some (CharSet.ofText ["11a8-11ff d7cb-d7fb"])
  | "V" => some (CharSet.ofText ["1160-11a7 d7b0-d7c6 16d63 16d67-16d6a"])
  | "ZWJ" => some (CharSet.ofText ["200d"])
  | _ => none

/-! ## Words -/

/-- The characters of several scripts. -/
def scriptChars (names : List String) : CharSet :=
  CharSet.ofSpans ((scripts.filter fun script => names.contains script.name).flatMap fun script =>
    script.chars.spans.toList)

/-- Characters that extend the word they follow. -/
def wordExtend : CharSet :=
  (graphemeExtend.union (Category.spacingMark.chars edition)).diff (CharSet.ofText ["200d"])

def hebrewLetter : CharSet :=
  (scriptChars ["Hebrew"]).inter (Category.otherLetter.chars edition)

def katakana : CharSet :=
  (scriptChars ["Katakana"]).union (CharSet.ofText ["3031-3035 309b-309c 30a0 30fc ff70"])

/-- Scripts that are written without blanks between words. -/
def unspacedScripts : List String :=
  ["Ahom", "Khmer", "Lao", "Myanmar", "New_Tai_Lue", "Tai_Le", "Tai_Tham", "Tai_Viet", "Thai"]

/-- Letters of alphabets. -/
def alphabetLetter : CharSet :=
  ((Property.alphabetic edition).diff
    ((((Property.listedChars edition "Ideographic").union katakana).union
      ((scriptChars ("Hiragana" :: unspacedScripts)).union wordExtend)).union
        hebrewLetter)).union (CharSet.ofText
    ["2c2-2c5 2d2-2d7 2de-2df 2e5-2eb 2ed 2ef-2ff 55a-55c 55e 58a 5f3 70f a708-a716 a720-a721",
      "a789-a78a ab5b"])

/-- Digits, and signs that belong to a number. -/
def wordNumeric : CharSet :=
  (Category.decimalNumber.chars edition).union
    (CharSet.ofText ["600-605 66b 6dd 890-891 8e2 19da 110bd 110cd"])

/-- The characters with a value for words. -/
def ofWord? (value : String) : Option CharSet :=
  match value with
  | "ALetter" => some alphabetLetter
  | "CR" => some (CharSet.ofText ["d"])
  | "Double_Quote" => some (CharSet.ofText ["22"])
  | "Extend" => some wordExtend
  | "ExtendNumLet" =>
    some ((Category.connectorPunctuation.chars edition).union (CharSet.ofText ["202f"]))
  | "Format" => some (plainFormat ["200b-200d e0020-e007f"])
  | "Hebrew_Letter" => some hebrewLetter
  | "Katakana" => some katakana
  | "LF" => some (CharSet.ofText ["a"])
  | "MidLetter" => some (CharSet.ofText ["3a b7 387 55f 5f4 2027 fe13 fe55 ff1a"])
  | "MidNum" =>
    some (CharSet.ofText ["2c 3b 37e 589 60c-60d 66c 7f8 2044 fe50 fe54 ff0c ff1b"])
  | "MidNumLet" => some (CharSet.ofText ["2e 2018-2019 2024 fe52 ff07 ff0e"])
  | "Newline" => some (CharSet.ofText ["b-c 85 2028-2029"])
  | "Numeric" => some wordNumeric
  | "Regional_Indicator" => some (CharSet.ofText ["1f1e6-1f1ff"])
  | "Single_Quote" => some (CharSet.ofText ["27"])
  | "WSegSpace" => some (CharSet.ofText ["20 1680 2000-2006 2008-200a 205f 3000"])
  | "ZWJ" => some (CharSet.ofText ["200d"])
  | _ => none

/-! ## Sentences -/

/-- Full stops, which end sentences and stand in numbers. -/
def stop : CharSet :=
  CharSet.ofText ["2e 2024 fe52 ff0e"]

/-- Characters that extend the one they follow. -/
def sentenceExtend : CharSet :=
  ((Property.graphemeExtend edition).union (Category.spacingMark.chars edition)).union
    (CharSet.ofText ["200d"])

def sentenceLower : CharSet :=
  ((Property.lowercase edition).diff (Property.graphemeExtend edition)).diff
    (CharSet.ofText ["10d0-10fa 10fd-10ff"])

def sentenceUpper : CharSet :=
  ((Category.titlecaseLetter.chars edition).union (Property.uppercase edition)).diff
    (CharSet.ofText ["1c90-1cba 1cbd-1cbf"])

/-- Letters without case. -/
def otherLetter : CharSet :=
  ((Property.alphabetic edition).diff
    ((sentenceLower.union sentenceUpper).union sentenceExtend)).union (CharSet.ofText ["5f3"])

/-- Brackets and quotes. -/
def sentenceClose : CharSet :=
  (((categories edition [.openPunctuation, .closePunctuation, .initialPunctuation,
    .finalPunctuation]).union (Property.listedChars edition "Quotation_Mark")).diff
      (CharSet.ofText ["ff02 ff07"])).union
        (CharSet.ofText ["275b-2760 2e00-2e01 2e06-2e08 2e0b 1f676-1f678"])

/-- The characters with a value for sentences. -/
def ofSentence? (value : String) : Option CharSet :=
  match value with
  | "ATerm" => some stop
  | "CR" => some (CharSet.ofText ["d"])
  | "Close" => some sentenceClose
  | "Extend" => some sentenceExtend
  | "Format" => some ((plainFormat ["200c-200d e0020-e007f"]).union (CharSet.ofText ["70f"]))
  | "LF" => some (CharSet.ofText ["a"])
  | "Lower" => some sentenceLower
  | "Numeric" => some (wordNumeric.union (CharSet.ofText ["66c"]))
  | "OLetter" => some otherLetter
  | "SContinue" =>
    some (CharSet.ofText
      ["2c-2d 3a-3b 37e 55d 60c-60d 7f8 1802 1808 2013-2014 3001 fe10-fe11 fe13-fe14 fe31-fe32",
        "fe50-fe51 fe54-fe55 fe58 fe63 ff0c-ff0d ff1a-ff1b ff64"])
  | "STerm" => some ((Property.listedChars edition "Sentence_Terminal").diff stop)
  | "Sep" => some (CharSet.ofText ["85 2028-2029"])
  | "Sp" =>
    some ((Property.listedChars edition "White_Space").diff
      (CharSet.ofText ["a d 85 2028-2029"]))
  | "Upper" => some sentenceUpper
  | _ => none

/-- **The characters with a value.** -/
def chars? (kind : Break) (value : String) : Option CharSet :=
  match kind with
  | .grapheme => ofGrapheme? value
  | .word => ofWord? value
  | .sentence => ofSentence? value

/-- The names of the values, short and long. -/
def aliases : Break → List (String × String)
  | .grapheme =>
    [("cn", "Control"), ("control", "Control"), ("cr", "CR"), ("ex", "Extend"),
      ("extend", "Extend"), ("l", "L"), ("lf", "LF"), ("lv", "LV"), ("lvt", "LVT"),
      ("pp", "Prepend"), ("prepend", "Prepend"), ("regionalindicator", "Regional_Indicator"),
      ("ri", "Regional_Indicator"), ("sm", "SpacingMark"), ("spacingmark", "SpacingMark"),
      ("t", "T"), ("v", "V"), ("zwj", "ZWJ")]
  | .word =>
    [("aletter", "ALetter"), ("le", "ALetter"), ("cr", "CR"), ("doublequote", "Double_Quote"),
      ("dq", "Double_Quote"), ("extend", "Extend"), ("ex", "ExtendNumLet"),
      ("extendnumlet", "ExtendNumLet"), ("fo", "Format"), ("format", "Format"),
      ("hebrewletter", "Hebrew_Letter"), ("hl", "Hebrew_Letter"), ("ka", "Katakana"),
      ("katakana", "Katakana"), ("lf", "LF"), ("midletter", "MidLetter"), ("ml", "MidLetter"),
      ("midnum", "MidNum"), ("mn", "MidNum"), ("mb", "MidNumLet"), ("midnumlet", "MidNumLet"),
      ("newline", "Newline"), ("nl", "Newline"), ("nu", "Numeric"), ("numeric", "Numeric"),
      ("regionalindicator", "Regional_Indicator"), ("ri", "Regional_Indicator"),
      ("singlequote", "Single_Quote"), ("sq", "Single_Quote"), ("wsegspace", "WSegSpace"),
      ("zwj", "ZWJ")]
  | .sentence =>
    [("at", "ATerm"), ("aterm", "ATerm"), ("cl", "Close"), ("close", "Close"), ("cr", "CR"),
      ("ex", "Extend"), ("extend", "Extend"), ("fo", "Format"), ("format", "Format"),
      ("lf", "LF"), ("lo", "Lower"), ("lower", "Lower"), ("nu", "Numeric"),
      ("numeric", "Numeric"), ("le", "OLetter"), ("oletter", "OLetter"), ("sc", "SContinue"),
      ("scontinue", "SContinue"), ("st", "STerm"), ("sterm", "STerm"), ("se", "Sep"),
      ("sep", "Sep"), ("sp", "Sp"), ("up", "Upper"), ("upper", "Upper")]

/-- The characters with a value, by one of its names. -/
def named? (kind : Break) (name : String) : Option CharSet :=
  (kind.aliases.lookup name).bind kind.chars?

end Break

end Folio.Unicode
