import Quartet.Machine.Run
import Quartet.Machine.Window
import Quartet.Text.Decimal

namespace Quartet

/-!
# The command line

There are two commands, each with its positional arguments:

* `assemble INPUT OUTPUT LOG`
* `interpret BINARY RESULT START END`, with the options `-v` or `--verbose` and
  `--layout reference` or `--layout canonical`.

Options may stand anywhere after the command, each at most once; after `--` everything is
positional.  `-h` and `--help` ask for help.

* `Command` — what the program is asked to do.
* `Request.ofArguments` — how arguments are understood.
-/

/-- What the program is asked to do. -/
inductive Command where
  | assemble (input output log : String)
  | interpret (binary result : String) (window : MemoryWindow) (options : RunOptions)
deriving DecidableEq

/-- How arguments are understood. -/
inductive Request where
  | run (command : Command)
  | help
  | misuse
deriving DecidableEq

/-- An argument after the command. -/
inductive Argument where
  | positional (text : String)
  | verbose
  | layout (name : String)
  | help
  /-- An option that does not exist, or that lacks its value. -/
  | unknown
deriving DecidableEq

namespace Argument

/-- An option of one letter. -/
def ofLetter : Char → Argument
  | 'v' => verbose
  | 'h' => help
  | _ => unknown

/-- Whether a text stands for an option and not for a value. -/
def isOption (text : String) : Bool :=
  match text.toList with
  | '-' :: _ :: _ => true
  | _ => false

/-- The arguments that an option's text stands for, if it does not take its value from the
    text after it. -/
def ofOption (text : String) : List Argument :=
  match text.toList with
  | '-' :: '-' :: _ =>
    if text = "--verbose" then [verbose]
    else if text = "--help" then [help]
    else
      match "--layout=".toList.isPrefixOf? text.toList with
      | some name => [layout (String.ofList name)]
      | none => [unknown]
  | _ :: letters => letters.map ofLetter
  | [] => [unknown]

/-- Reads the texts after a command. -/
def ofTexts : List String → List Argument
  | [] => []
  | text :: rest =>
    if text = "--" then rest.map positional
    else if text = "--layout" then
      match rest with
      | [] => [unknown]
      | name :: rest => if isOption name then [unknown] else layout name :: ofTexts rest
    else if isOption text then ofOption text ++ ofTexts rest
    else positional text :: ofTexts rest

end Argument

/-- What a command takes: a number of paths, then a number of numbers, and perhaps options. -/
structure Shape where
  paths : Nat
  numbers : Nat
  hasOptions : Bool

/-- The arguments of a command, as far as they have been taken. -/
structure Taken where
  paths : List String := []
  numbers : List Nat := []
  verbose : Bool := false
  layout : Option Layout := none

namespace Taken

/-- Takes a positional argument.  A path may not be empty. -/
def positional (shape : Shape) (taken : Taken) (text : String) : Except Request Taken :=
  if taken.paths.length < shape.paths then
    if text = "" then .error .misuse else .ok { taken with paths := taken.paths ++ [text] }
  else if taken.numbers.length < shape.numbers then
    match Text.unsigned? text with
    | some number => .ok { taken with numbers := taken.numbers ++ [number] }
    | none => .error .misuse
  else .error .misuse

/-- Takes one argument.  The first that cannot be taken decides. -/
def take (shape : Shape) (taken : Taken) : Argument → Except Request Taken
  | .positional text => taken.positional shape text
  | .verbose =>
    if shape.hasOptions && !taken.verbose then .ok { taken with verbose := true }
    else .error .misuse
  | .layout name =>
    match Layout.ofName? name with
    | some layout =>
      if shape.hasOptions && taken.layout.isNone then .ok { taken with layout := some layout }
      else .error .misuse
    | none => .error .misuse
  | .help => .error .help
  | .unknown => .error .misuse

end Taken

namespace Request

/-- The command that the arguments after `assemble` ask for. -/
def assemble (texts : List String) : Request :=
  match (Argument.ofTexts texts).foldlM (Taken.take ⟨3, 0, false⟩) {} with
  | .error request => request
  | .ok taken =>
    match taken.paths with
    | [input, output, log] => run (.assemble input output log)
    | _ => misuse

/-- The command that the arguments after `interpret` ask for. -/
def interpret (texts : List String) : Request :=
  match (Argument.ofTexts texts).foldlM (Taken.take ⟨2, 2, true⟩) {} with
  | .error request => request
  | .ok taken =>
    match taken.paths, taken.numbers with
    | [binary, result], [first, last] =>
      run (.interpret binary result ⟨first, last⟩
        ⟨taken.layout.getD .reference, taken.verbose⟩)
    | _, _ => misuse

/-- What stands behind the word `help`: nothing, or the name of a command. -/
def helpOn : List String → Request
  | [] => help
  | [name] => if name ∈ ["assemble", "interpret", "help"] then help else misuse
  | _ => misuse

/-- How the arguments of the program are understood. -/
def ofArguments : List String → Request
  | [] => misuse
  | name :: rest =>
    if name = "assemble" then assemble rest
    else if name = "interpret" then interpret rest
    else if name = "help" then helpOn rest
    else if name = "--help" || "-h".toList.isPrefixOf name.toList then help
    else misuse

end Request

end Quartet
