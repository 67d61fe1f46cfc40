/-!
# Paths

A path is a text of names joined by slashes.  `Path.join` appends a relative path to another;
`Path.parent?` and `Path.name?` take a path apart at its last name, where slashes at the end, double
slashes and names that are a single dot do not count, except for a dot at the very start.
-/

namespace Retrieval.Archive

/-- The text of a path. -/
abbrev Path := String

namespace Path

/-- The parts between slashes, among them empty ones. -/
def partsFrom (read : List Char) : List Char → List (List Char)
  | [] => [read.reverse]
  | c :: rest => if c = '/' then read.reverse :: partsFrom [] rest else partsFrom (c :: read) rest

/-- Whether the path starts at the root. -/
def isAbsolute (path : Path) : Bool :=
  path.toList.head? = some '/'

/-- The path with another appended; an absolute path stands as it is. -/
def join (path next : Path) : Path :=
  if next.isAbsolute then next
  else if path.isEmpty || path.toList.getLast? = some '/' then path ++ next
  else path ++ "/" ++ next

/-- The names on a path: its parts without empty ones and without dots after the start. -/
def names (path : Path) : List (List Char) :=
  match partsFrom [] path.toList with
  | [] => []
  | first :: rest =>
    (if first.isEmpty then [] else [first]) ++
      rest.filter fun part => !part.isEmpty && part != ['.']

/-- The path of names, at the root or not. -/
def ofNames (absolute : Bool) (names : List (List Char)) : Path :=
  String.ofList ((if absolute then ['/'] else []) ++ ['/'].intercalate names)

/-- The path without its last name.  The root and the empty path have no parent. -/
def parent? (path : Path) : Option Path :=
  if path.names.isEmpty then none else some (ofNames path.isAbsolute path.names.dropLast)

/-- The last name, unless it points elsewhere. -/
def name? (path : Path) : Option (List Char) :=
  match path.names.getLast? with
  | some name => if name = ['.'] ∨ name = ['.', '.'] then none else some name
  | none => none

/-- The path beside another under which a file is written before it takes its place. -/
def staging (path : Path) : Path :=
  match path.name? with
  | some name =>
    ((path.parent?).getD "").join (String.ofList (name ++ ['.', 't', 'm', 'p']))
  | none => path.join ".tmp"

end Path

/-- Where the four artifacts of an index are. -/
structure Paths where
  words : Path
  docs : Path
  postings : Path
  info : Path
  deriving Repr, DecidableEq

/-- The artifacts in a directory, by their usual names. -/
def Paths.ofRoot (root : Path) : Paths where
  words := root.join "words.dic"
  docs := root.join "docs.dic"
  postings := root.join "idx.idx"
  info := root.join "meta.json"

example : (Paths.ofRoot "a//b").words = "a//b/words.dic" := by decide +kernel
example : Path.staging "/idx/words.dic" = "/idx/words.dic.tmp" := by decide +kernel

end Retrieval.Archive
