import Retrieval.Unicode.Lowercase

/-!
# Languages and lemmatizers

A language is chosen by its English name in any mixture of ASCII cases.  Its lemmatizer lowers a
word and stems it.  The name `none` stands for the lemmatizer that leaves every word alone.

How words are stemmed is not fixed: whoever chooses a lemmatizer brings a stemmer for each language.
The rules of two of them are given by `English.stem` and `Russian.stem`.
-/

namespace Retrieval.Stem

/-- The languages that can be named. -/
inductive Language where
  | danish | dutch | english | finnish | french | german | hungarian | italian | norwegian
  | portuguese | romanian | russian | spanish | swedish | turkish
  deriving Repr, DecidableEq

namespace Language

/-- All languages. -/
def all : List Language :=
  [danish, dutch, english, finnish, french, german, hungarian, italian, norwegian, portuguese,
    romanian, russian, spanish, swedish, turkish]

/-- The name of a language, with a capital letter. -/
def name : Language → String
  | danish => "Danish"
  | dutch => "Dutch"
  | english => "English"
  | finnish => "Finnish"
  | french => "French"
  | german => "German"
  | hungarian => "Hungarian"
  | italian => "Italian"
  | norwegian => "Norwegian"
  | portuguese => "Portuguese"
  | romanian => "Romanian"
  | russian => "Russian"
  | spanish => "Spanish"
  | swedish => "Swedish"
  | turkish => "Turkish"

/-- Whether two names are equal up to the case of their ASCII letters. -/
def sameName (a b : String) : Bool :=
  a.toList.map Char.toLower == b.toList.map Char.toLower

/-- The language of a name in any ASCII case. -/
def ofName? (name : String) : Option Language :=
  all.find? fun language => sameName language.name name

end Language

/-- Stems words in lower case, those of each language in their own way. -/
abbrev Stemmer := Language → List Char → List Char

/-- Reduces a token to the form under which it is indexed and sought. -/
abbrev Lemmatizer := String → String

namespace Lemmatizer

/-- The lemmatizer that leaves every token alone. -/
def identity : Lemmatizer := id

/-- The lemmatizer over a function that stems lower-case words. -/
def ofStem (stem : List Char → List Char) : Lemmatizer := fun token =>
  String.ofList (stem (Unicode.lowercase token.toList))

/-- The lemmatizer of a language name, or of `none`. -/
def ofName? (stemmer : Stemmer) (name : String) : Option Lemmatizer :=
  if Language.sameName name "none" then some identity
  else (Language.ofName? name).map fun language => ofStem (stemmer language)

end Lemmatizer

end Retrieval.Stem
