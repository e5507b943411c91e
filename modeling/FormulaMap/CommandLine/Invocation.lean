import FormulaMap.CommandLine.Usage
import FormulaMap.Json.Value
import FormulaMap.Policy
import FormulaMap.Settings.Variable

/-!
# Invocations

What a command line asks for: one of three commands on a source text, with what overrides the
settings, and how the answer is to be printed.
-/

namespace FormulaMap
namespace CommandLine

/-- How an answer is printed. -/
inductive Format where
  /-- In the indented form. -/
  | indented
  /-- In the compact form. -/
  | compact
  deriving DecidableEq, Repr

/-- Prints a value. -/
def Format.text : Format → Json.Value → String
  | indented, v => v.indented
  | compact, v => v.compact

/-- The source text and what overrides the settings of its reader. -/
structure Source where
  /-- The path of the source text; a hyphen stands for the standard input. -/
  path : String
  policy : Option VariablePolicy
  counters : Bool
  deriving DecidableEq, Repr

/-- What overrides the settings of the oracle. -/
structure Overrides where
  /-- Where the results are also written. -/
  out : Option String
  concurrency : Option Nat
  model : Option String
  endpoint : Option String
  contract : Option ContractPolicy
  deriving DecidableEq, Repr

/-- What is to be done with the methods of a source text. -/
inductive Command where
  /-- The oracle is asked about every one. -/
  | analyze (overrides : Overrides)
  /-- Their records are printed. -/
  | parse
  /-- The requests about them are printed, or the one about the method of a name. -/
  | prompt (method : Option String)
  deriving DecidableEq, Repr

/-- What a command line asks for. -/
structure Invocation where
  command : Command
  source : Source
  format : Format
  quiet : Bool
  verbose : Bool
  deriving DecidableEq, Repr

namespace Invocation

/-- The format of a name. -/
def format? (name : String) : Option Format :=
  if name = "json" then some .indented else if name = "raw" then some .compact else none

/-- Refuses what names no format. -/
def refuseFormat (text : String) : Option (Option String) :=
  if (format? text).isSome then none else some none

/-- Refuses what names no variable policy. -/
def refusePolicy (text : String) : Option (Option String) :=
  match VariablePolicy.read text with
  | .ok _ => none
  | .error e => some (some e.message)

/-- Refuses what names no contract policy. -/
def refuseContract (text : String) : Option (Option String) :=
  match ContractPolicy.read text with
  | .ok _ => none
  | .error e => some (some e.message)

/-- Refuses what is no count. -/
def refuseCount (text : String) : Option (Option String) :=
  let digits := match text.toList with
    | '+' :: rest => rest
    | rest => rest
  if text.isEmpty then some (some "cannot parse integer from empty string")
  else if digits.isEmpty || !digits.all Text.isAsciiDigit then
    some (some "invalid digit found in string")
  else if (Settings.naturalOf? text.toList).isNone then
    some (some "number too large to fit in target type")
  else none

/-- Refuses the empty text. -/
def refuseEmpty (text : String) : Option (Option String) :=
  if text.isEmpty then some none else none

/-- Refuses nothing. -/
def refuseNothing (_ : String) : Option (Option String) := none

/-- Where the results are written when no path is given. -/
def defaultOut : String := "analysis_results.json"

/-- The switches that may stand before and behind the command. -/
def commonSwitches : List Switch := [
  ⟨"format", some 'f', "FORMAT", .value refuseFormat⟩,
  ⟨"quiet", some 'q', "", .plain⟩,
  ⟨"verbose", some 'v', "", .plain⟩,
  ⟨"help", some 'h', "", .showHelp⟩]

/-- The switches about the source text. -/
def sourceSwitches : List Switch := [
  ⟨"policy", none, "POLICY", .value refusePolicy⟩,
  ⟨"loop-counters", none, "", .plain⟩]

/-- The switches of the command that asks the oracle. -/
def analyzeSwitches : List Switch := [
  ⟨"out", none, "OUT", .optionalValue defaultOut refuseEmpty⟩,
  ⟨"concurrency", none, "CONCURRENCY", .value refuseCount⟩,
  ⟨"model", none, "MODEL", .value refuseNothing⟩,
  ⟨"endpoint", none, "ENDPOINT", .value refuseNothing⟩,
  ⟨"on-unknown-symbol", none, "ON_UNKNOWN_SYMBOL", .value refuseContract⟩]

/-- The level before the command. -/
def outer : Level where
  switches := ⟨"version", some 'V', "", .showVersion⟩ :: commonSwitches
  commands := ["analyze", "parse", "prompt", "help"]

/-- The level behind a command. -/
def inner (command : String) : Level where
  switches := commonSwitches ++ sourceSwitches ++
    (if command = "analyze" then analyzeSwitches
      else if command = "prompt" then [⟨"method", none, "METHOD", .value refuseNothing⟩]
      else [])
  commands := []

/-- The command with what has been read behind it. -/
def commandOf (name : String) (r : Reading) : Command :=
  if name = "analyze" then
    .analyze {
      out := r.value? "out"
      concurrency := (r.value? "concurrency").bind fun text => Settings.naturalOf? text.toList
      model := r.value? "model"
      endpoint := r.value? "endpoint"
      contract := (r.value? "on-unknown-symbol").bind fun text =>
        (ContractPolicy.read text).toOption }
  else if name = "prompt" then .prompt (r.value? "method")
  else .parse

/-- Reads what stands behind the command that shows help. -/
def readHelp : List String → Stop
  | [] => .help
  | name :: rest =>
    if outer.commands.contains name then
      match rest with
      | [] => .help
      | other :: _ => .fault (.unknownCommand other)
    else .fault (.unknownCommand name)

/-- What the arguments of a command line ask for. -/
def read (arguments : List String) : Except Stop Invocation := do
  if arguments.isEmpty then .error .nothing
  let (before, command?) ← Reading.empty.run outer arguments
  match command? with
  | none => do
    let _ ← before.settle
    .error (.fault .missingCommand)
  | some ("help", rest) => .error (readHelp rest)
  | some (name, rest) => do
    let (behind, _) ← Reading.empty.run (inner name) rest
    let behind ← behind.settle
    match behind.argument with
    | none => .error (.fault .missingArguments)
    | some path => do
      let before ← before.settle
      let format := (behind.value? "format").or (before.value? "format")
      .ok {
        command := commandOf name behind
        source := {
          path := path
          policy := (behind.value? "policy").bind fun text => (VariablePolicy.read text).toOption
          counters := behind.has "loop-counters" }
        format := (format.bind format?).getD .indented
        quiet := before.has "quiet" || behind.has "quiet"
        verbose := before.has "verbose" || behind.has "verbose" }

end Invocation
end CommandLine
end FormulaMap
