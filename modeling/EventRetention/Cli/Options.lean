/-!
Options on a command line. A long option has its value after an equals sign or
in the next argument. Letters may be put together; the first of them that
takes a value has the rest of the argument, or the next one. After `--` every
argument is positional.
-/

namespace EventRetention.Cli

structure OptionForm where
  name : String
  letter : Option Char := none
  takesValue : Bool := false
deriving DecidableEq, Repr

inductive Misuse where
  | missingCommand
  | unknownCommand (name : String)
  | unknownOption (name : String)
  | missingValue (name : String)
  | unexpectedValue (name : String)
  | badValue (name value : String)
  | missingArgument (name : String)
  | unexpectedArgument (text : String)
deriving DecidableEq, Repr

def Misuse.message : Misuse → String
  | .missingCommand => "Missing command."
  | .unknownCommand name => "No such command '" ++ name ++ "'."
  | .unknownOption name => "No such option: " ++ name
  | .missingValue name => "Option '" ++ name ++ "' requires an argument."
  | .unexpectedValue name => "Option '" ++ name ++ "' does not take a value."
  | .badValue name value => "Invalid value for '" ++ name ++ "': " ++ value
  | .missingArgument name => "Missing argument '" ++ name ++ "'."
  | .unexpectedArgument text => "Got unexpected extra argument (" ++ text ++ ")"

inductive Expected where
  | anything
  | value (name : String)
  | positional
deriving DecidableEq, Repr

structure Scan where
  expected : Expected := .anything
  given : List (String × String) := []
  positional : List String := []
deriving DecidableEq, Repr

namespace Scan

def give (s : Scan) (name value : String) : Scan :=
  { s with expected := .anything, given := s.given ++ [(name, value)] }

def letters (forms : List OptionForm) (s : Scan) : List Char → Except Misuse Scan
  | [] => .ok s
  | c :: rest =>
      match forms.find? fun form => form.letter = some c with
      | none => .error (.unknownOption (String.ofList ['-', c]))
      | some form =>
          if !form.takesValue then letters forms (s.give form.name "") rest
          else if rest.isEmpty then .ok { s with expected := .value form.name }
          else .ok (s.give form.name (String.ofList rest))

def option (forms : List OptionForm) (s : Scan) (argument : List Char) : Except Misuse Scan :=
  let (name, value) := argument.span (· ≠ '=')
  match forms.find? fun form => form.name.toList = name, value with
  | some form, _ :: value =>
      if form.takesValue then .ok (s.give form.name (String.ofList value))
      else .error (.unexpectedValue form.name)
  | some form, [] =>
      if form.takesValue then .ok { s with expected := .value form.name }
      else .ok (s.give form.name "")
  | none, _ =>
      match argument with
      | '-' :: '-' :: _ => .error (.unknownOption (String.ofList name))
      | _ => letters forms s (argument.drop 1)

def take (forms : List OptionForm) (mixed : Bool) (s : Scan) (argument : String) :
    Except Misuse Scan :=
  let positional := { s with positional := s.positional ++ [argument] }
  match s.expected with
  | .positional => .ok positional
  | .value name => .ok (s.give name argument)
  | .anything =>
      match argument.toList with
      | ['-', '-'] => .ok { s with expected := .positional }
      | '-' :: c :: rest => option forms s ('-' :: c :: rest)
      | _ => .ok (if mixed then positional else { positional with expected := .positional })

def ofArguments (forms : List OptionForm) (mixed : Bool) (arguments : List String) :
    Except Misuse Scan := do
  let s ← arguments.foldlM (take forms mixed) {}
  match s.expected with
  | .value name => throw (.missingValue name)
  | _ => return s

def has (s : Scan) (name : String) : Bool := s.given.any fun option => option.1 = name

def value? (s : Scan) (name : String) : Option String := s.given.reverse.lookup name

end Scan

end EventRetention.Cli
