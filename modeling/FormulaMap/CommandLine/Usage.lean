import FormulaMap.Text.Pieces

/-!
# Reading a command line

A level of a command line has switches and either commands or one positional argument.  A switch
may take a value, which stands behind it or is attached to it.  A value is checked when the next
argument is understood, so that an argument that is not understood is reported first.
-/

namespace FormulaMap
namespace CommandLine

/-- What a switch does. -/
inductive Effect where
  | plain
  /-- It takes a value; the function refuses some, for a reason that may be told. -/
  | value (refuse : String → Option (Option String))
  /-- It takes a value that may be left out. -/
  | optionalValue (default : String) (refuse : String → Option (Option String))
  | showVersion
  | showHelp

/-- A switch: an argument that starts with hyphens. -/
structure Switch where
  name : String
  short : Option Char
  /-- What stands for the value in messages. -/
  placeholder : String
  effect : Effect

/-- Why a command line is refused. -/
inductive UsageFault where
  | unexpectedArgument (argument : String)
  | unknownCommand (name : String)
  | missingArguments
  | missingCommand
  | missingValue (option : String)
  | invalidValue (value option : String) (reason : Option String)
  | unneededValue (value option : String)
  | repeated (option : String)
  deriving DecidableEq, Repr

/-- The first line of a refusal. -/
def UsageFault.message : UsageFault → String
  | unexpectedArgument argument => "unexpected argument '" ++ argument ++ "' found"
  | unknownCommand name => "unrecognized subcommand '" ++ name ++ "'"
  | missingArguments => "the following required arguments were not provided:"
  | missingCommand => "'fmap' requires a subcommand but one was not provided"
  | missingValue option => "a value is required for '" ++ option ++ "' but none was supplied"
  | invalidValue value option reason =>
    "invalid value '" ++ value ++ "' for '" ++ option ++ "'" ++
      (match reason with
        | some text => ": " ++ text
        | none => "")
  | unneededValue value option =>
    "unexpected value '" ++ value ++ "' for '" ++ option ++ "' found; no more were expected"
  | repeated option => "the argument '" ++ option ++ "' cannot be used multiple times"

/-- Why reading a command line stops early. -/
inductive Stop where
  | fault (e : UsageFault)
  | version
  | help
  /-- There are no arguments at all. -/
  | nothing
  deriving DecidableEq, Repr

namespace Switch

/-- How a switch is named in messages. -/
def display (o : Switch) : String :=
  match o.effect with
  | .value _ => "--" ++ o.name ++ " <" ++ o.placeholder ++ ">"
  | .optionalValue _ _ => "--" ++ o.name ++ " [<" ++ o.placeholder ++ ">]"
  | _ => "--" ++ o.name

/-- Whether a switch takes a value. -/
def takesValue (o : Switch) : Bool :=
  match o.effect with
  | .value _ => true
  | .optionalValue _ _ => true
  | _ => false

end Switch

/-- What has been read of one level: the switches with their values, the positional argument, a
switch that waits for its value or for its value to be checked, and whether only positional
arguments may follow. -/
structure Reading where
  given : List (String × String)
  argument : Option String
  pending : Option (Switch × Option String)
  literal : Bool

/-- One level of a command line. -/
structure Level where
  switches : List Switch
  commands : List String

namespace Reading

/-- Nothing has been read. -/
def empty : Reading := ⟨[], none, none, false⟩

/-- Whether a switch waits for its value. -/
def isWaiting (r : Reading) : Bool :=
  match r.pending with
  | some (_, none) => true
  | _ => false

/-- Notes a switch with its value, if it is given for the first time and its value is fine. -/
def note (r : Reading) (o : Switch) (value : String)
    (refuse : String → Option (Option String)) : Except Stop Reading :=
  if (r.given.lookup o.name).isSome then .error (.fault (.repeated o.display))
  else
    match refuse value with
    | some reason =>
      if value.isEmpty && reason.isNone then .error (.fault (.missingValue o.display))
      else .error (.fault (.invalidValue value o.display reason))
    | none => .ok { r with given := r.given ++ [(o.name, value)] }

/-- Notes a switch. -/
def apply (r : Reading) (o : Switch) (value? : Option String) : Except Stop Reading :=
  match o.effect, value? with
  | .plain, _ => r.note o "true" fun _ => none
  | .value _, none => .error (.fault (.missingValue o.display))
  | .value refuse, some value => r.note o value refuse
  | .optionalValue default refuse, none => r.note o default refuse
  | .optionalValue _ refuse, some value => r.note o value refuse
  | .showVersion, _ => .error .version
  | .showHelp, _ => .error .help

/-- Notes the switch that was waiting, if there is one. -/
def settle (r : Reading) : Except Stop Reading :=
  match r.pending with
  | none => .ok r
  | some (o, value?) => { r with pending := none }.apply o value?

/-- A switch that takes a value has been met, with its value attached or not. -/
def meet (r : Reading) (o : Switch) (attached : Option String) : Except Stop Reading := do
  let r ← r.settle
  match attached with
  | some value => r.apply o (some value)
  | none => .ok { r with pending := some (o, none) }

/-- Reads an argument that starts with two hyphens, without them. -/
def long (level : Level) (r : Reading) (body : List Char) : Except Stop Reading :=
  let name := String.ofList (body.takeWhile (· != '='))
  let attached := match body.dropWhile (· != '=') with
    | _ :: value => some (String.ofList value)
    | [] => none
  match level.switches.find? fun o => o.name == name with
  | none => .error (.fault (.unexpectedArgument ("--" ++ name)))
  | some o =>
    if o.takesValue then r.meet o attached
    else
      match attached with
      | some value => .error (.fault (.unneededValue value o.display))
      | none => do (← r.settle).apply o none

/-- Reads an argument that starts with one hyphen, without it: switches, and at the end of them
perhaps one with its value attached. -/
def short (level : Level) : Reading → List Char → Except Stop Reading
  | r, [] => .ok r
  | r, c :: rest =>
    match level.switches.find? fun o => o.short == some c with
    | none => .error (.fault (.unexpectedArgument ("-" ++ String.ofList [c])))
    | some o =>
      if o.takesValue then
        match rest with
        | [] => r.meet o none
        | '=' :: value => r.meet o (some (String.ofList value))
        | value => r.meet o (some (String.ofList value))
      else do
        let r ← (← r.settle).apply o none
        short level r rest

/-- Reads an argument that is no switch. -/
def positional (level : Level) (r : Reading) (argument : String) : Except Stop Reading :=
  if level.commands.isEmpty && r.argument.isNone then do
    .ok { ← r.settle with argument := some argument }
  else if level.commands.isEmpty || (r.literal && level.commands.contains argument) then
    .error (.fault (.unexpectedArgument argument))
  else .error (.fault (.unknownCommand argument))

/-- Reads one argument that names no command. -/
def step (level : Level) (r : Reading) (argument : String) : Except Stop Reading :=
  if r.literal then r.positional level argument
  else
    match argument.toList with
    | ['-', '-'] => .ok { r with literal := true }
    | '-' :: '-' :: body => r.long level body
    | '-' :: c :: body => r.short level (c :: body)
    | _ =>
      match r.pending with
      | some (o, none) => .ok { r with pending := some (o, some argument) }
      | _ => r.positional level argument

/-- Reads the arguments of a level up to the first that names a command. -/
def run (level : Level) : Reading → List String →
    Except Stop (Reading × Option (String × List String))
  | r, [] => .ok (r, none)
  | r, argument :: rest =>
    if !r.literal && !r.isWaiting && level.commands.contains argument then
      .ok (r, some (argument, rest))
    else
      match r.step level argument with
      | .error e => .error e
      | .ok r => run level r rest

/-- The value of a switch. -/
def value? (r : Reading) (name : String) : Option String :=
  r.given.lookup name

/-- Whether a switch is given. -/
def has (r : Reading) (name : String) : Bool :=
  (r.value? name).isSome

end Reading
end CommandLine
end FormulaMap
