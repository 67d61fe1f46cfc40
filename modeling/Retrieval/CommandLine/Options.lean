/-!
# Command line options

A command takes options that begin with two dashes.  The value of an option follows an equals sign
or is the next argument, which must then not look like an option itself.  Each option may be given
once, and nothing but options may be given; two dashes alone end the options and so may only stand
last.
-/

namespace Retrieval.CommandLine

/-- An option that a command knows. -/
structure Flag where
  name : String
  /-- Whether its value may be empty. -/
  allowsEmpty : Bool

/-- The options that were given, with their values. -/
abbrev Given := List (String × String)

/-- The name and the value, if there is one, of an argument that begins with two dashes. -/
def split? : List Char → Option (String × Option String)
  | '-' :: '-' :: rest =>
    let name := rest.takeWhile (· ≠ '=')
    match rest.drop name.length with
    | _ :: value => some (String.ofList name, some (String.ofList value))
    | [] => some (String.ofList name, none)
  | _ => none

/-- Whether an argument can be the value of the option before it. -/
def isValue (argument : String) : Bool :=
  argument = "-" || argument.toList.head? != some '-'

/-- The options given so far and one more, if it is known, new and not wrongly empty. -/
def add? (options : List Flag) (given : Given) (name value : String) : Option Given :=
  match options.find? (·.name = name) with
  | none => none
  | some option =>
    if (given.lookup name).isSome || (value.isEmpty && !option.allowsEmpty) then none
    else some ((name, value) :: given)

/-- Reads arguments after options that have been given. -/
def parseFrom? (options : List Flag) (given : Given) : List String → Option Given
  | [] => some given
  | [argument] =>
    if argument = "--" then some given
    else
      match split? argument.toList with
      | some (name, some value) => add? options given name value
      | _ => none
  | argument :: next :: rest =>
    match split? argument.toList with
    | some (name, some value) =>
      match add? options given name value with
      | some given => parseFrom? options given (next :: rest)
      | none => none
    | some (name, none) =>
      if isValue next then
        match add? options given name next with
        | some given => parseFrom? options given rest
        | none => none
      else none
    | none => none

/-- Reads arguments. -/
def parse? (options : List Flag) (arguments : List String) : Option Given :=
  parseFrom? options [] arguments

end Retrieval.CommandLine
