/-
Printlet.Script.Arguments — the words after the command.

`-a` or `--show-ast` asks for the outline of the program, `-b` or `--show-bytecode` for the listing of
its unit; `-u` or `--unit-name` names the unit. Short flags can be joined, and a name can follow its
flag as a word of its own, or directly, or after an equals sign. The remaining word is the path of the
script.
-/

namespace Printlet

/-- What the command is asked to do. -/
structure Options where
  showTree : Bool := false
  showCode : Bool := false
  unitName : String := "Program"
  deriving DecidableEq, Repr

/-- The options, and the script's path if it was given. -/
structure Arguments where
  options : Options := {}
  script : Option String := none
  deriving DecidableEq, Repr

namespace Arguments

/-- A name that follows its flag in the same word, with or without an equals sign. -/
def attached : List Char → String
  | '=' :: cs => String.ofList cs
  | cs => String.ofList cs

/-- Reads joined short flags. The flag in the result tells that the unit's name is the next word. -/
def readFlags (options : Options) : List Char → Option (Options × Bool)
  | [] => some (options, false)
  | 'a' :: cs => readFlags { options with showTree := true } cs
  | 'b' :: cs => readFlags { options with showCode := true } cs
  | ['u'] => some (options, true)
  | 'u' :: cs => some ({ options with unitName := attached cs }, false)
  | _ => none

/-- Reads a word that is not the value of a flag. -/
def readWord (arguments : Arguments) (word : String) : Option (Arguments × Bool) :=
  let options := arguments.options
  if word = "--show-ast" then some ({ arguments with options.showTree := true }, false)
  else if word = "--show-bytecode" then some ({ arguments with options.showCode := true }, false)
  else if word = "--unit-name" then some (arguments, true)
  else
    match word.splitOn "=", word.toList with
    | "--unit-name" :: _ :: _, cs =>
      let name := String.ofList (cs.drop "--unit-name=".length)
      some ({ arguments with options.unitName := name }, false)
    | _, '-' :: c :: cs =>
      (readFlags options (c :: cs)).map fun (options, pending) =>
        ({ arguments with options := options }, pending)
    | _, _ =>
      match arguments.script with
      | none => some ({ arguments with script := some word }, false)
      | some _ => none

/-- Reads all words. `pending` tells that the next one is the unit's name. -/
def readAll (arguments : Arguments) (pending : Bool) : List String → Option Arguments
  | [] => if pending then none else some arguments
  | word :: rest =>
    if pending then readAll { arguments with options.unitName := word } false rest
    else
      match readWord arguments word with
      | some (arguments, pending) => readAll arguments pending rest
      | none => none

/-- Reads the words after the command. -/
def parse (words : List String) : Option Arguments :=
  readAll {} false words

end Arguments

end Printlet
