import ValueTypes.File.Path

/-! The arguments of the command line. They are read in order, and the first one that is in error, or
that asks for the version or for help, decides. -/

namespace ValueTypes

structure Options where
  input : String
  kind : Option Dialect
  includes : List Tag
  excludes : List Tag
  pretty : Bool
  verbosity : Nat

inductive Command where
  | generate (options : Options)
  | version
  | help

inductive UsageError where
  | missingInput
  | emptyInput
  | surplus (argument : String)
  | unknown (option : String)
  | repeated (option : String)
  | valueMissing (option : String)
  | valueUnneeded (option : String)
  | notAKind (value : String)
  deriving DecidableEq

def UsageError.message : UsageError → String
  | missingInput => "error: the declaration file is missing"
  | emptyInput => "error: the declaration file has an empty name"
  | surplus argument => "error: unexpected argument " ++ argument
  | unknown option => "error: unknown option " ++ option
  | repeated option => "error: " ++ option ++ " is given more than once"
  | valueMissing option => "error: " ++ option ++ " needs a value"
  | valueUnneeded option => "error: " ++ option ++ " takes no value"
  | notAKind value => "error: " ++ value ++ " is neither algebraic-type nor value-object"

namespace Command

structure Draft where
  input : Option String := none
  kind : Option Dialect := none
  includes : List Tag := []
  excludes : List Tag := []
  pretty : Bool := false
  verbosity : Nat := 0

inductive Setting where
  | kind
  | included
  | excluded

inductive Flag where
  | pretty
  | verbose
  | version
  | help

def setting? : String → Option Setting
  | "--kind" => some .kind
  | "--include" => some .included
  | "--exclude" => some .excluded
  | _ => none

def flag? : String → Option Flag
  | "--pretty" => some .pretty
  | "--verbose" => some .verbose
  | "--version" => some .version
  | "--help" => some .help
  | _ => none

def shortFlag? : Char → Option Flag
  | 'v' => some .verbose
  | 'V' => some .version
  | 'h' => some .help
  | _ => none

def kind? : String → Option Dialect
  | "algebraic-type" => some .algebraicType
  | "value-object" => some .valueObject
  | _ => none

inductive Shape where
  | separator
  | long (name : String) (value : Option String)
  | short (letters : List Char)
  | plain

def shape (argument : String) : Shape :=
  match argument.toList with
  | ['-', '-'] => .separator
  | '-' :: '-' :: rest =>
    let name := String.ofList ('-' :: '-' :: rest.takeWhile (· ≠ '='))
    match rest.dropWhile (· ≠ '=') with
    | [] => .long name none
    | _ :: value => .long name (some (String.ofList value))
  | '-' :: c :: rest => .short (c :: rest)
  | _ => .plain

namespace Draft

def addInput (d : Draft) (argument : String) : Except UsageError Draft :=
  if d.input.isSome then .error (.surplus argument)
  else if argument.isEmpty then .error .emptyInput
  else .ok { d with input := some argument }

def set (d : Draft) (setting : Setting) (value : String) : Except UsageError Draft :=
  match setting with
  | .included => .ok { d with includes := d.includes ++ [value] }
  | .excluded => .ok { d with excludes := d.excludes ++ [value] }
  | .kind =>
    if d.kind.isSome then .error (.repeated "--kind")
    else
      match kind? value with
      | some kind => .ok { d with kind := some kind }
      | none => .error (.notAKind value)

def raise (d : Draft) : Flag → Except UsageError (Draft ⊕ Command)
  | .verbose => .ok (.inl { d with verbosity := d.verbosity + 1 })
  | .pretty =>
    if d.pretty then .error (.repeated "--pretty") else .ok (.inl { d with pretty := true })
  | .version => .ok (.inr .version)
  | .help => .ok (.inr .help)

def raiseAll (d : Draft) : List Char → Except UsageError (Draft ⊕ Command)
  | [] => .ok (.inl d)
  | letter :: letters =>
    match shortFlag? letter with
    | none => .error (.unknown (String.ofList ['-', letter]))
    | some flag => do
      match ← d.raise flag with
      | .inl next => raiseAll next letters
      | .inr command => return .inr command

def finish (d : Draft) : Except UsageError Command :=
  match d.input with
  | none => .error .missingInput
  | some input => .ok (.generate { d with input })

end Draft

def parsePlain (d : Draft) : List String → Except UsageError Command
  | [] => d.finish
  | argument :: rest => do parsePlain (← d.addInput argument) rest

/-- The value of a setting stands behind `=` or is the next argument, which then has to be plain. -/
def parseFrom (d : Draft) : List String → Except UsageError Command
  | [] => d.finish
  | argument :: rest =>
    match shape argument with
    | .separator => parsePlain d rest
    | .plain => do parseFrom (← d.addInput argument) rest
    | .short letters => do
      match ← d.raiseAll letters with
      | .inl next => parseFrom next rest
      | .inr command => return command
    | .long name value =>
      match setting? name, flag? name, value, rest with
      | some setting, _, some value, rest => do parseFrom (← d.set setting value) rest
      | some setting, _, none, value :: rest =>
        match shape value with
        | .plain => do parseFrom (← d.set setting value) rest
        | _ => .error (.valueMissing name)
      | some _, _, none, [] => .error (.valueMissing name)
      | none, some flag, none, rest => do
        match ← d.raise flag with
        | .inl next => parseFrom next rest
        | .inr command => return command
      | none, some _, some _, _ => .error (.valueUnneeded name)
      | none, none, _, _ => .error (.unknown name)

def parse (arguments : List String) : Except UsageError Command := parseFrom {} arguments

end Command
end ValueTypes
