import Retrieval.Url.Percent

/-!
# Request targets

The target of a request is a path and, after a question mark, a query; what follows a number sign is
not part of it.  A target may name a scheme and a host before its path, which do not matter for the
answer.  A query is a sequence of pairs of a name and a value, written as forms are: pairs are
separated by ampersands, the first equals sign of a pair ends its name, a plus sign stands for a
blank, and octets are percent-encoded.
-/

namespace Retrieval.Url

/-- A target taken apart. -/
structure Target where
  path : List Char
  query : List Char
  deriving Repr, DecidableEq

/-- Whether a character may stand in the name of a scheme. -/
def isSchemeChar (c : Char) : Bool :=
  c.isAlphanum || c = '+' || c = '-' || c = '.'

/-- A target without the scheme and the host that it may begin with: of `http://host/a?b` the rest
is `/a?b`. -/
def dropHost (text : List Char) : List Char :=
  match text.dropWhile isSchemeChar with
  | ':' :: '/' :: '/' :: rest => rest.dropWhile fun c => c ≠ '/' ∧ c ≠ '?'
  | _ => text

/-- Takes a target apart.  A path that is left out is `/`. -/
def Target.parse (text : List Char) : Target :=
  let text := dropHost (text.takeWhile (· ≠ '#'))
  let path := text.takeWhile (· ≠ '?')
  ⟨if path.isEmpty then ['/'] else path, (text.drop path.length).drop 1⟩

/-- The parts of a text between the occurrences of a character, after the characters `read`, the
latest first, of the first part. -/
def splitFrom (mark : Char) (read : List Char) : List Char → List (List Char)
  | [] => [read.reverse]
  | c :: rest => if c = mark then read.reverse :: splitFrom mark [] rest
    else splitFrom mark (c :: read) rest

/-- The parts of a text between the occurrences of a character. -/
def splitAt (mark : Char) (text : List Char) : List (List Char) :=
  splitFrom mark [] text

/-- What a name or a value of a form stands for. -/
def formDecode (text : List Char) : String :=
  let spaced := text.map fun c => if c = '+' then ' ' else c
  String.ofList (Utf8.decodeLossy (percentDecode (Utf8.encode spaced)))

/-- The pairs of a form. -/
def formPairs (form : List Char) : List (String × String) :=
  ((splitAt '&' form).filter (!·.isEmpty)).map fun pair =>
    let name := pair.takeWhile (· ≠ '=')
    (formDecode name, formDecode ((pair.drop name.length).drop 1))

end Retrieval.Url
