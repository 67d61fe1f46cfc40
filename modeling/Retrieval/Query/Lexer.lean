import Retrieval.Distinct
import Retrieval.Query.Token
import Retrieval.Stem.Language
import Retrieval.Text.Words
import Retrieval.Unicode.WordCharacter

/-!
# From query text to tokens

The text falls into *pieces*: maximal runs of word characters, and every other character by itself.
A run that spells `AND` or `OR` is an operator, and so are the three delimiters `!`, `(` and `)`;
white space separates; what is left between those is glued together again into the words of the
query.  So `AND` is an operator exactly where no word character stands beside it.

Each word becomes a term: its lemma in lower case, unless that is empty.
-/

namespace Retrieval.Query

open Unicode (isWordCharacter isWhiteSpace lowercase)

/-- The pieces of a text. -/
def pieces (text : List Char) : List (List Char) :=
  text.splitBy fun a b => isWordCharacter a && isWordCharacter b

/-- The operator or parenthesis that a piece spells. -/
def delimiter? (piece : List Char) : Option Token :=
  if piece = ['A', 'N', 'D'] then some (.operator .and)
  else if piece = ['O', 'R'] then some (.operator .or)
  else if piece = ['!'] then some (.operator .not)
  else if piece = ['('] then some .leftParen
  else if piece = [')'] then some .rightParen
  else none

/-- A part of a query as it is written. -/
inductive Lexeme where
  | delimiter (token : Token)
  | word (text : List Char)
  deriving Repr, DecidableEq

/-- The word that the pieces read so far make up, the latest first; none if nothing was read. -/
def closedWord (read : List (List Char)) : List Lexeme :=
  if read.isEmpty then [] else [.word read.reverse.flatten]

/-- The parts that pieces make up, after the pieces of a word that is not yet at its end. -/
def lexemesFrom (read : List (List Char)) : List (List Char) → List Lexeme
  | [] => closedWord read
  | piece :: rest =>
    match delimiter? piece with
    | some token => closedWord read ++ .delimiter token :: lexemesFrom [] rest
    | none =>
      if piece.all isWhiteSpace then closedWord read ++ lexemesFrom [] rest
      else lexemesFrom (piece :: read) rest

/-- The parts of a query as they are written. -/
def lexemes (text : List Char) : List Lexeme :=
  lexemesFrom [] (pieces text)

/-- The term of a word. -/
def termOf (lemmatizer : Stem.Lemmatizer) (word : List Char) : List Char :=
  lowercase (lemmatizer (String.ofList word)).toList

/-- The token of a part, unless it is a word with an empty term. -/
def Lexeme.token? (lemmatizer : Stem.Lemmatizer) : Lexeme → Option Token
  | delimiter token => some token
  | word text =>
    let term := termOf lemmatizer text
    if term.isEmpty then none else some (.term (String.ofList term))

/-- The tokens of a query. -/
def tokenize (lemmatizer : Stem.Lemmatizer) (query : String) : List Token :=
  (lexemes query.toList).filterMap (Lexeme.token? lemmatizer)

/-- The terms among the tokens, each where it stands first. -/
def distinctTerms (tokens : List Token) : List String :=
  distinct (tokens.filterMap Token.term?)

example : tokenize id "Android AND(ORange OR_ -OR-!x" =
    [.term "android", .operator .and, .leftParen, .term "orange", .term "or_", .term "-",
      .operator .or, .term "-", .operator .not, .term "x"] := by
  decide +kernel

end Retrieval.Query
