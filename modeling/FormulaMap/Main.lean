import FormulaMap.CommandLine.Run

/-!
# The program

Reads what a run may need from the system, runs, and carries out what comes of it.  Posts are not
answered here.
-/

namespace FormulaMap
namespace CommandLine

/-- An error of the system as a fault. -/
def AccessFault.ofError (e : IO.Error) : AccessFault :=
  match e with
  | .noFileOrDirectory .. => .missing
  | .inappropriateType _ code text => .refused text code.toNat
  | .permissionDenied _ code text => .refused text code.toNat
  | _ => .notText ""

/-- Does something that the system may refuse. -/
def attempt (action : IO α) : IO (Except AccessFault α) := do
  match ← action.toBaseIO with
  | .ok value => pure (.ok value)
  | .error e => pure (.error (.ofError e))

/-- The whole lines at the start of some bytes, as far as they are text. -/
def textLines (begun : List UInt8) (text : String) : List UInt8 → String
  | [] => text
  | b :: rest =>
    let line := begun ++ [b]
    if b == 10 then
      match String.fromUTF8? ⟨line.toArray⟩ with
      | some more => textLines [] (text ++ more) rest
      | none => text
    else textLines line text rest

/-- Reads what is found under a path. -/
def readPath (path : String) : IO (Except AccessFault String) := do
  match ← attempt (IO.FS.readFile path) with
  | .error (.notText _) =>
    let bytes ← attempt (IO.FS.readBinFile path)
    pure (.error (.notText ((bytes.map fun b => textLines [] "" b.toList).toOption.getD "")))
  | found => pure found

/-- What stands under a path in a directory. -/
def standingOf (directory path : String) : IO Standing := do
  let full := if Settings.isAbsolute path then path else directory ++ "/" ++ path
  match ← attempt (((← IO.currentDir) / full).metadata) with
  | .ok found => pure (if found.type == .file then .file else .other)
  | .error fault => pure (if fault = .missing then .nothing else .hidden)

/-- The environment of the program. -/
def readEnvironment : IO (List (String × String)) := do
  match ← attempt (IO.FS.readFile "/proc/self/environ") with
  | .error _ => pure []
  | .ok text =>
    pure ((Text.splitAt '\x00' text.toList).map fun entry =>
      (String.ofList (entry.takeWhile (· != '=')),
        String.ofList ((entry.dropWhile (· != '=')).drop 1)))

/-- Reads what is found under some paths and what stands there. -/
def readPaths (directory : String) :
    List String → IO (List (String × Except AccessFault String × Standing))
  | [] => pure []
  | path :: rest => do
    let found ← readPath path
    let standing ← standingOf directory path
    pure ((path, found, standing) :: (← readPaths directory rest))

/-- The path of the source text and whether it stands for the standard input. -/
def sourceOf (arguments : List String) : String × Bool :=
  match Invocation.read arguments with
  | .error _ => ("", false)
  | .ok i => (i.source.path, i.source.path == "-")

/-- A world with what was found under some paths. -/
def World.showing (w : World) (found : List (String × Except AccessFault String × Standing)) :
    World :=
  { w with
    read := fun path => ((found.lookup path).map (·.1)).getD (w.read path)
    standing := fun path => ((found.lookup path).map (·.2)).getD (w.standing path) }

/-- The world as the system shows it before a run. -/
def readWorld (arguments : List String) : IO World := do
  let (path, fromInput) := sourceOf arguments
  let input ← if fromInput then attempt do (← IO.getStdin).readToEnd else pure (.ok "")
  let directory := (← IO.currentDir).toString
  let bare : World :=
    { read := fun _ => .error .missing
      writeFault? := fun _ => none
      input := input
      directory := directory
      environment := ← readEnvironment
      transport := fun _ => none }
  let project := Settings.projectPath
  let world := bare.showing (← readPaths directory
    ([path, project] ++ bare.outward Settings.variablesPath ++ bare.outward project))
  let user := (Settings.userPath? world.fullEnvironment).toList
  pure (world.showing (← readPaths directory (user ++ user.flatMap world.outward)))

/-- Says a remark. -/
def Remark.say (r : Remark) : IO Unit :=
  IO.eprintln r.text

/-- Carries out what comes of a run. -/
def Ending.carryOut (e : Ending) : IO UInt32 := do
  e.remarks.forM Remark.say
  IO.print e.output
  pure e.code.toUInt32

end CommandLine
end FormulaMap

open FormulaMap.CommandLine in
/-- Runs the command line that the arguments spell.  If the results cannot be written after all,
what counts is the run in the world in which they cannot. -/
def main (arguments : List String) : IO UInt32 := do
  let world ← readWorld arguments
  let ending := run world arguments
  match ending.written with
  | none => ending.carryOut
  | some (path, text) =>
    match ← attempt (IO.FS.writeFile path text) with
    | .ok () => ending.carryOut
    | .error fault => (run { world with writeFault? := fun _ => some fault } arguments).carryOut
