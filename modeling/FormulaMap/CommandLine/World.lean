import FormulaMap.Analysis.FanOut
import FormulaMap.Http.Exchange
import FormulaMap.Settings.Load
import FormulaMap.Settings.Location

/-!
# Worlds

All that a run depends on apart from its arguments: what is found under paths and whether
something can be put there, the standard input, the environment, whether a client for posts can be
built and how posts are answered, and in which order tasks take their turns.

Files that a run looks for on its own need not lie in the current directory.  The file of variables
and that of the project are also looked for in the directories around it, from the inside out.
-/

namespace FormulaMap
namespace CommandLine

/-- Why nothing can be read from a path or put there. -/
inductive AccessFault where
  /-- The system refuses, for a reason that has a text and a number. -/
  | refused (text : String) (number : Nat)
  /-- What is there is no text, but for some whole lines at its start. -/
  | notText (start : String)
  deriving DecidableEq, Repr

namespace AccessFault

/-- Nothing is there. -/
def missing : AccessFault := .refused "No such file or directory" 2

/-- The path leads through something that is no directory. -/
def notDirectory : AccessFault := .refused "Not a directory" 20

/-- A directory is there. -/
def directory : AccessFault := .refused "Is a directory" 21

/-- The wording of a fault. -/
def message : AccessFault → String
  | refused text number => text ++ " (os error " ++ Decimal.text number ++ ")"
  | notText _ => "stream did not contain valid UTF-8"

end AccessFault

/-- What stands under a path. -/
inductive Standing where
  | file
  /-- Something that is no file, such as a directory. -/
  | other
  | nothing
  /-- The system does not say. -/
  | hidden
  deriving DecidableEq, Repr

/-- What stands under a path, going by what is read from it. -/
def Standing.ofRead : Except AccessFault String → Standing
  | .ok _ => .file
  | .error (.notText _) => .file
  | .error (.refused text number) =>
    if AccessFault.refused text number = .missing then .nothing
    else if AccessFault.refused text number = .directory then .other
    else .hidden

/-- A world. -/
structure World where
  /-- What is read from a path. -/
  read : String → Except AccessFault String
  standing : String → Standing := fun path => .ofRead (read path)
  /-- Why a text cannot be put under a path, if it cannot. -/
  writeFault? : String → Option AccessFault
  /-- The standard input. -/
  input : Except AccessFault String
  /-- The path of the current directory. -/
  directory : String
  environment : List (String × String)
  /-- Why no client for posts can be built, if none can. -/
  clientFault? : Option String := none
  /-- How posts are answered. -/
  transport : Http.Transport
  /-- In which order the tasks that ask take their turns; nothing is said about those that are
  not named. -/
  turns : List Analysis.Action := []

namespace World

/-- The paths of a name in the current directory and in those around it, from the inside out. -/
def outward (w : World) (name : String) : List String :=
  let names := Settings.pathNames w.directory
  (List.range (names.length + 1)).reverse.map fun depth =>
    String.join ((names.take depth).map fun n => "/" ++ n) ++ "/" ++ name

/-- The first of some paths under which there is a file.  Nothing is found behind a path of which
the system does not say what stands there. -/
def firstFile? (w : World) : List String → Option String
  | [] => none
  | path :: rest =>
    match w.standing path with
    | .file => some path
    | .hidden => none
    | _ => w.firstFile? rest

/-- The environment with the variables from the file of variables.  Of a file that is no text the
lines before the first faulty one count. -/
def fullEnvironment (w : World) : List (String × String) :=
  match (w.firstFile? (w.outward Settings.variablesPath)).map w.read with
  | some (.ok text) => VariableFile.extend w.environment text
  | some (.error (.notText start)) => VariableFile.extend w.environment start
  | _ => w.environment

/-- The path under which a settings file is found.  Where something stands under a relative path
that is no file, the file is looked for in the directories around the current one. -/
def located? (w : World) (path : String) : Option String :=
  if w.standing path = .nothing ∨ w.standing path = .hidden then none
  else
    let paths := if Settings.isAbsolute path then [path] else w.outward path
    paths.find? fun path => w.standing path = .file

/-- What is found where a settings file may be, under the path that messages name. -/
def settingsFile (w : World) (path : String) : String × Settings.Found :=
  match w.located? path with
  | none => (path, .nothing)
  | some path =>
    let found : Settings.Found :=
      match w.read path with
      | .ok content => .text content
      | .error fault => .locked fault.message
    (Settings.shownPath w.directory path, found)

/-- Where settings come from, given the environment. -/
def sources (w : World) (environment : List (String × String)) : Settings.Sources where
  user := ((Settings.userPath? environment).map w.settingsFile).getD ("", .nothing)
  project := w.settingsFile Settings.projectPath
  environment := environment

end World
end CommandLine
end FormulaMap
