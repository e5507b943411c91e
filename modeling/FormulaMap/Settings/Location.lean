import FormulaMap.Text.Pieces

/-!
# Where settings are found

The file of the user lies in the directory for settings that the environment names, or else in
that of the home directory; the file of the project lies in the current directory.
-/

namespace FormulaMap
namespace Settings

/-- The path of the file of the project. -/
def projectPath : String := ".fmap/config.toml"

/-- The path of the file of variables. -/
def variablesPath : String := ".env"

/-- Whether a path starts from the root. -/
def isAbsolute (path : String) : Bool :=
  path.toList.head? == some '/'

/-- The path of the file of the user, if the environment says where it would be. -/
def userPath? (environment : List (String × String)) : Option String :=
  let home := (environment.lookup "HOME").filter fun path => !path.isEmpty
  let directory := ((environment.lookup "XDG_CONFIG_HOME").filter isAbsolute).or
    (home.map fun path => path ++ "/.config")
  directory.map fun path => path ++ "/fmap/config.toml"

/-- The names on a path, without those that lead nowhere. -/
def pathNames (path : String) : List String :=
  ((Text.splitAt '/' path.toList).map String.ofList).filter fun name => name ≠ "" ∧ name ≠ "."

/-- Drops the names that two paths start with in common. -/
def dropCommon : List String → List String → List String × List String
  | a :: as, b :: bs => if a = b then dropCommon as bs else (a :: as, b :: bs)
  | as, bs => (as, bs)

/-- A path as it is shown in a directory: the way to it from there, if that is shorter. -/
def shownPath (directory path : String) : String :=
  if isAbsolute path then
    let (up, down) := dropCommon (pathNames directory) (pathNames path)
    let way := up.map (fun _ => "..") ++ down
    if way.length < (pathNames path).length + 1 then "/".intercalate way else path
  else path

end Settings
end FormulaMap
