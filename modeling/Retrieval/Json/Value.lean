import Retrieval.Json.Lexeme

/-!
# JSON values

A text is read as one value with nothing but blanks around it.  The reader keeps a stack of the
arrays and objects that are open, so values may nest to any depth, and it knows at each lexeme what
may come next.

Records are read from values: `fields?` takes an object by the names of its members, or an array by
the order of its elements.  Members with other names are passed over, but a name that is known may
not come twice.
-/

namespace Retrieval

/-- A JSON value. -/
inductive Json where
  | null
  | bool (value : Bool)
  /-- A number as it is written. -/
  | number (text : List Char)
  /-- A string; one with an unpaired surrogate has no text. -/
  | string (text? : Option String)
  | array (items : List Json)
  | object (members : List (Option String × Json))

namespace Json

/-! ## Reading a value -/

/-- An array or object that is open, with what it holds so far, the latest first.  An object also
holds the key of the member whose value is due. -/
inductive Container where
  | array (items : List Json)
  | object (members : List (Option String × Json)) (key? : Option String)

/-- What may come next. -/
inductive Due where
  /-- A value. -/
  | value
  /-- The first element of an array, or its end. -/
  | firstItem
  /-- The first key of an object, or its end. -/
  | firstKey
  /-- A further key of an object. -/
  | key
  /-- The colon after a key. -/
  | colon
  /-- A comma, or the end of what is open. -/
  | separator

/-- How far a text has been read. -/
structure Progress where
  due : Due := .value
  opened : List Container := []
  /-- The value, once it is complete. -/
  result? : Option Json := none

/-- A complete value in its place. -/
def Progress.complete (opened : List Container) (value : Json) : Progress :=
  match opened with
  | [] => ⟨.separator, [], some value⟩
  | .array items :: rest => ⟨.separator, .array (value :: items) :: rest, none⟩
  | .object members key? :: rest =>
    ⟨.separator, .object ((key?, value) :: members) none :: rest, none⟩

/-- The progress after the lexeme that begins a value. -/
def Progress.begin? (opened : List Container) : Lexeme → Option Progress
  | .null => some (complete opened .null)
  | .bool value => some (complete opened (.bool value))
  | .number text => some (complete opened (.number text))
  | .string text? => some (complete opened (.string text?))
  | .openArray => some ⟨.firstItem, .array [] :: opened, none⟩
  | .openObject => some ⟨.firstKey, .object [] none :: opened, none⟩
  | _ => none

/-- The progress after a lexeme. -/
def Progress.step? (progress : Progress) (lexeme : Lexeme) : Option Progress :=
  match progress.due, progress.opened, lexeme with
  | .value, opened, lexeme => begin? opened lexeme
  | .firstItem, .array _ :: rest, .closeArray => some (complete rest (.array []))
  | .firstItem, opened, lexeme => begin? opened lexeme
  | .firstKey, .object _ _ :: rest, .closeObject => some (complete rest (.object []))
  | .firstKey, .object members _ :: rest, .string key =>
    some ⟨.colon, .object members key :: rest, none⟩
  | .key, .object members _ :: rest, .string key =>
    some ⟨.colon, .object members key :: rest, none⟩
  | .colon, opened, .colon => some ⟨.value, opened, none⟩
  | .separator, .array items :: rest, .comma => some ⟨.value, .array items :: rest, none⟩
  | .separator, .array items :: rest, .closeArray => some (complete rest (.array items.reverse))
  | .separator, .object members key :: rest, .comma =>
    some ⟨.key, .object members key :: rest, none⟩
  | .separator, .object members _ :: rest, .closeObject =>
    some (complete rest (.object members.reverse))
  | _, _, _ => none

/-- The value of a sequence of lexemes. -/
def ofLexemes? (lexemes : List Lexeme) : Option Json := do
  (← lexemes.foldlM Progress.step? {}).result?

/-- The value of a text. -/
def parse? (text : List Char) : Option Json := do
  ofLexemes? (← lexemes text)

/-! ## Reading records -/

/-- The value of the member with a name, if there is one and only one. -/
def member? (members : List (String × Json)) (name : String) : Option (Option Json) :=
  match members.filter (·.1 = name) with
  | [] => some none
  | [(_, value)] => some (some value)
  | _ => none

/-- The fields of a record, each absent or given once. -/
def fields? (names : List String) : Json → Option (List (Option Json))
  | array items =>
    if items.length ≤ names.length then
      some (items.map some ++ List.replicate (names.length - items.length) none)
    else none
  | object members => do
    let members ← members.mapM fun (key?, value) => key?.map (·, value)
    names.mapM (member? members)
  | _ => none

/-- The text of a string. -/
def text? : Json → Option String
  | string text? => text?
  | _ => none

/-- The whole number that digits write. -/
def digitsValue (digits : List Char) : Nat :=
  digits.foldl (fun value c => value * 10 + (c.toNat - '0'.toNat)) 0

/-- A number of 32 bits, written without a sign, a fraction or an exponent. -/
def word? : Json → Option UInt32
  | number text =>
    if text.all Char.isDigit ∧ digitsValue text < UInt32.size then
      some (UInt32.ofNat (digitsValue text))
    else none
  | _ => none

/-- A name out of a closed list: a string, or an object whose only member has the name and no
value. -/
def variant? : Json → Option String
  | string text? => text?
  | object [(key?, null)] => key?
  | _ => none

end Json

end Retrieval
