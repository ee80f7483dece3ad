import VpcMachines.Files
import VpcMachines.Settings.Basic
import VpcMachines.Yaml.Document

/-!
# Loading the settings

The settings are read from a file in the home directory. If it is missing, or if its content is not
valid, the defaults apply.
-/

namespace VpcMachines

namespace Settings

/-- The settings that a document says; an empty one says nothing. -/
def ofDocument (document : Yaml.Document) : Except Fault Settings :=
  let datum := if document.content.isFalsy then .record [] else Datum.ofYaml document
  match check datum with
  | .accepted settings => .ok settings
  | .rejected issues => .error (.invalid "OrchestratorConfig" issues)

def ofText (s : List Char) : Except Fault Settings :=
  match Yaml.read s with
  | .ok document => ofDocument document
  | .error fault => .error (.yaml fault)

/-- The settings in a file. -/
def ofFile (files : Files) (p : Path) : Except Fault Settings := do
  ofText (← files.readText p)

def pathIn (home : Path) : Path := (home.join "config").join "config.yaml"

/-- The home that is used unless another is given. -/
def usualHome : String := "~/.skcluster"

/-- The settings of a home directory. For a fault of the file's content the defaults apply. -/
def load (files : Files) (home : Path) : Except Fault Settings :=
  let p := pathIn home
  if (files.status p).isAbsent then .ok default
  else
    match ofFile files p with
    | .ok settings => .ok settings
    | .error fault => if fault.isOfContent then .ok default else .error fault

end Settings

end VpcMachines
