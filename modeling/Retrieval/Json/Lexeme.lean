/-!
# JSON lexemes

JSON text is a sequence of lexemes: six punctuation marks, strings, and atoms, which are numbers
and the three literal names.  The scan goes over the characters once.  An atom ends where a blank,
a mark or a quote stands; only then is it judged as a whole.

A string may be written with escapes for UTF-16 code units, among them halves of surrogate pairs
without their other half.  Such a string has no text, but it is still a string.
-/

namespace Retrieval.Json

/-- A part of JSON text. -/
inductive Lexeme where
  | openArray
  | closeArray
  | openObject
  | closeObject
  | comma
  | colon
  | null
  | bool (value : Bool)
  /-- A number as it is written. -/
  | number (text : List Char)
  /-- A string; one with an unpaired surrogate has no text. -/
  | string (text? : Option String)
  deriving Repr, DecidableEq

/-- Whether the character may stand between lexemes. -/
def isBlank (c : Char) : Bool :=
  c = ' ' || c = '\n' || c = '\t' || c = '\r'

/-- The punctuation marks. -/
def mark? : Char → Option Lexeme
  | '[' => some .openArray
  | ']' => some .closeArray
  | '{' => some .openObject
  | '}' => some .closeObject
  | ',' => some .comma
  | ':' => some .colon
  | _ => none

/-! ## Atoms -/

/-- Whether the character can be part of a number or a literal name. -/
def isAtomic (c : Char) : Bool :=
  c.isAlphanum || c = '+' || c = '-' || c = '.'

/-- Whether the text is one or more digits. -/
def isDigits (text : List Char) : Bool :=
  !text.isEmpty && text.all Char.isDigit

/-- Whether the text is a whole number without a sign; only zero begins with a zero. -/
def isWhole (text : List Char) : Bool :=
  isDigits text && (text = ['0'] || text.head? != some '0')

/-- Whether the text is an exponent without its letter. -/
def isExponent : List Char → Bool
  | '+' :: rest => isDigits rest
  | '-' :: rest => isDigits rest
  | text => isDigits text

/-- Whether the text is what may follow the whole part of a number: a fraction, an exponent, both or
neither. -/
def isNumberTail : List Char → Bool
  | [] => true
  | '.' :: rest =>
    isDigits (rest.takeWhile Char.isDigit) &&
      match rest.dropWhile Char.isDigit with
      | [] => true
      | c :: exponent => (c = 'e' || c = 'E') && isExponent exponent
  | c :: exponent => (c = 'e' || c = 'E') && isExponent exponent

/-- Whether the text is a number. -/
def isNumber (text : List Char) : Bool :=
  let unsigned := match text with
    | '-' :: rest => rest
    | text => text
  isWhole (unsigned.takeWhile Char.isDigit) && isNumberTail (unsigned.dropWhile Char.isDigit)

/-- The lexeme that an atom is. -/
def atom? (text : List Char) : Option Lexeme :=
  if text = ['n', 'u', 'l', 'l'] then some .null
  else if text = ['t', 'r', 'u', 'e'] then some (.bool true)
  else if text = ['f', 'a', 'l', 's', 'e'] then some (.bool false)
  else if isNumber text then some (.number text)
  else none

/-! ## Strings -/

/-- What has been read of a string. -/
structure Content where
  /-- The characters, the latest first. -/
  chars : List Char := []
  /-- The first half of a surrogate pair that was read last. -/
  half? : Option Nat := none
  /-- Whether half of a surrogate pair stands by itself. -/
  broken : Bool := false
  deriving Repr, DecidableEq

namespace Content

/-- Adds a character. -/
def push (content : Content) (c : Char) : Content :=
  ⟨c :: content.chars, none, content.broken || content.half?.isSome⟩

/-- Adds a UTF-16 code unit. -/
def pushUnit (content : Content) (unit : Nat) : Content :=
  if 0xDC00 ≤ unit ∧ unit < 0xE000 then
    match content.half? with
    | some half =>
      let c := Char.ofNat (0x10000 + (half - 0xD800) * 0x400 + (unit - 0xDC00))
      ⟨c :: content.chars, none, content.broken⟩
    | none => ⟨content.chars, none, true⟩
  else if 0xD800 ≤ unit ∧ unit < 0xDC00 then
    ⟨content.chars, some unit, content.broken || content.half?.isSome⟩
  else content.push (Char.ofNat unit)

/-- The text of a string that is at its end. -/
def text? (content : Content) : Option String :=
  if content.broken || content.half?.isSome then none
  else some (String.ofList content.chars.reverse)

end Content

/-- The character that a letter stands for after a backslash. -/
def escaped? : Char → Option Char
  | '"' => some '"'
  | '\\' => some '\\'
  | '/' => some '/'
  | 'b' => some '\x08'
  | 'f' => some '\x0c'
  | 'n' => some '\n'
  | 'r' => some '\r'
  | 't' => some '\t'
  | _ => none

/-- The value of a hexadecimal digit. -/
def hexDigit? (c : Char) : Option Nat :=
  if c.isDigit then some (c.toNat - '0'.toNat)
  else if 'a' ≤ c ∧ c ≤ 'f' then some (c.toNat - 'a'.toNat + 10)
  else if 'A' ≤ c ∧ c ≤ 'F' then some (c.toNat - 'A'.toNat + 10)
  else none

/-! ## Scanning -/

/-- Where the scan stands. -/
inductive Scan where
  | between
  /-- In an atom, whose characters are held the latest first. -/
  | atom (read : List Char)
  | string (content : Content)
  /-- After a backslash in a string. -/
  | escape (content : Content)
  /-- In the digits of a code unit, of which some are missing. -/
  | unit (content : Content) (missing value : Nat)
  deriving Repr, DecidableEq

/-- Where the scan stands after a character between lexemes, and the lexeme that the character
is. -/
def Scan.begin? (c : Char) : Option (List Lexeme × Scan) :=
  if isBlank c then some ([], .between)
  else if c = '"' then some ([], .string {})
  else if isAtomic c then some ([], .atom [c])
  else (mark? c).map fun lexeme => ([lexeme], .between)

/-- Where the scan stands after a character, and the lexemes that end there. -/
def Scan.step? (scan : Scan) (c : Char) : Option (List Lexeme × Scan) :=
  match scan with
  | between => begin? c
  | atom read =>
    if isAtomic c then some ([], .atom (c :: read))
    else do
      let lexeme ← atom? read.reverse
      let (lexemes, scan) ← begin? c
      return (lexeme :: lexemes, scan)
  | string content =>
    if c = '"' then some ([.string content.text?], .between)
    else if c = '\\' then some ([], .escape content)
    else if c.toNat < 0x20 then none
    else some ([], .string (content.push c))
  | escape content =>
    if c = 'u' then some ([], .unit content 4 0)
    else (escaped? c).map fun c => ([], .string (content.push c))
  | unit content missing value => do
    let value := value * 16 + (← hexDigit? c)
    if missing ≤ 1 then return ([], .string (content.pushUnit value))
    else return ([], .unit content (missing - 1) value)

/-- The lexemes of a text from where the scan stands. -/
def lexemesFrom (scan : Scan) : List Char → Option (List Lexeme)
  | [] =>
    match scan with
    | .between => some []
    | .atom read => (atom? read.reverse).map ([·])
    | _ => none
  | c :: rest => do
    let (ended, scan) ← scan.step? c
    return ended ++ (← lexemesFrom scan rest)

/-- The lexemes of a text. -/
def lexemes (text : List Char) : Option (List Lexeme) :=
  lexemesFrom .between text

end Retrieval.Json
