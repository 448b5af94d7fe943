/-!
# Words of a command line

A command line is a list of words.  A word that begins with a hyphen is an
option, up to a word of two hyphens alone; the others are arguments.  Options
have a long name, and some a short one of one letter; short names may be
written in one word, and the value of an option may follow it in the same word.
-/

namespace Typeface.Cli

structure Switch where
  name : String
  short : Option Char
  takesValue : Bool
deriving DecidableEq, Repr

/-- The options that a command knows, and whether they may come after its arguments. -/
structure Grammar where
  switches : List Switch
  mixed : Bool

/-- The options of a command line, in order and with their values, and its arguments. -/
structure Words where
  options : List (String × Option String)
  arguments : List String
deriving DecidableEq, Repr

namespace Words

def ofArguments (arguments : List String) : Words :=
  { options := [], arguments }

def withOptions (words : Words) (options : List (String × Option String)) : Words :=
  { words with options := options ++ words.options }

def withArgument (words : Words) (argument : String) : Words :=
  { words with arguments := argument :: words.arguments }

def has (words : Words) (name : String) : Bool :=
  words.options.any fun entry => entry.1 == name

/-- The value of an option, the last one counting. -/
def value? (words : Words) (name : String) : Option String :=
  (words.options.reverse.lookup name).join

end Words

namespace Grammar

/-- An option that takes a value, with the next word as its value. -/
def withNext (switch : Switch) : List String → Option (List (String × Option String) × List String)
  | value :: rest => some ([(switch.name, some value)], rest)
  | [] => none

/-- An option by its long name, and the words after it. -/
def long? (switch : Switch) (attached : Option String) (rest : List String) :
    Option (List (String × Option String) × List String) :=
  match switch.takesValue, attached with
  | true, some value => some ([(switch.name, some value)], rest)
  | true, none => withNext switch rest
  | false, some _ => none
  | false, none => some ([(switch.name, none)], rest)

/-- Options by their short names, and the words after them. -/
def cluster? (grammar : Grammar) :
    List Char → List String → Option (List (String × Option String) × List String)
  | [], rest => some ([], rest)
  | letter :: letters, rest =>
    match grammar.switches.find? fun switch => switch.short == some letter with
    | none => none
    | some switch =>
      if switch.takesValue then
        if letters.isEmpty then withNext switch rest
        else some ([(switch.name, some (String.ofList letters))], rest)
      else
        match grammar.cluster? letters rest with
        | some (others, left) => some ((switch.name, none) :: others, left)
        | none => none

/-- The options in a word that begins with a hyphen, and the words after them. -/
def options? (grammar : Grammar) (word : List Char) (rest : List String) :
    Option (List (String × Option String) × List String) :=
  let name := String.ofList (word.takeWhile (· != '='))
  let attached := match word.dropWhile (· != '=') with
    | _ :: value => some (String.ofList value)
    | [] => none
  match grammar.switches.find? fun switch => switch.name == name with
  | some switch => long? switch attached rest
  | none =>
    match word with
    | '-' :: '-' :: _ => none
    | _ => grammar.cluster? word.tail rest

/-- Reads words; the first argument bounds their number. -/
def read? (grammar : Grammar) : Nat → List String → Option Words
  | 0, rest => if rest.isEmpty then some (.ofArguments []) else none
  | _, [] => some (.ofArguments [])
  | steps + 1, word :: rest =>
    if word == "--" then some (.ofArguments rest)
    else
      match word.toList with
      | '-' :: letter :: letters =>
        match grammar.options? ('-' :: letter :: letters) rest with
        | none => none
        | some (options, left) => (grammar.read? steps left).map (·.withOptions options)
      | _ =>
        if grammar.mixed then (grammar.read? steps rest).map (·.withArgument word)
        else some (.ofArguments (word :: rest))

/-- The words of a command line, if it fits. -/
def words? (grammar : Grammar) (line : List String) : Option Words :=
  grammar.read? line.length line

end Grammar

end Typeface.Cli
