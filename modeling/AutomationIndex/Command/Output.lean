import AutomationIndex.Command.Form
import AutomationIndex.Json.Writer
import AutomationIndex.Project.Report

/-! What the commands print: tables for people, and JSON. -/

namespace AutomationIndex.Command

/-- A table: its title, whether the headings show, and the cells under each heading. -/
structure Table where
  title : String
  showHeadings : Bool
  columns : List (String × List String)
  deriving DecidableEq, Repr

/-- Something printed for people. -/
inductive Printed where
  | line (text : String)
  | table (table : Table)
  deriving DecidableEq, Repr

/-- What a run of the program comes to. -/
structure Outcome where
  exitCode : Nat
  /-- What is written to the standard output as it is. -/
  output : String := ""
  /-- What is written to the standard error output, if the command line ends the run. -/
  complaint : Option String := none
  printed : List Printed := []
  deriving DecidableEq, Repr

/-- The outcome where a command line ends the run. -/
def Stop.outcome : Stop → Outcome
  | .help form => { exitCode := 0, output := form.help, complaint := some "" }
  | .version => { exitCode := 0, output := versionText ++ "\n", complaint := some "" }
  | .wrong form message =>
    { exitCode := 2
      complaint := some (form.usage ++ "\n" ++ form.program ++ ": error: " ++ message ++ "\n") }

/-- A text, or a hyphen where there is none. -/
def orHyphen (text : String) : String :=
  if text == "" then "-" else text

/-- The names of a project's configurations, the active one with an asterisk. -/
def configurationList (p : Project) : String :=
  ", ".intercalate (p.configurations.map fun c =>
    if some c.name == p.activeName then c.name ++ "*" else c.name)

/-- A list of projects for people. -/
def projectsPrinted (projects : List Project) : Printed :=
  if projects.isEmpty then .line "No projects found."
  else
    -- A missing cell shows a hyphen.
    let column := fun (heading : String) (cell : Project → String) =>
      (heading, projects.map fun p => orHyphen (cell p))
    .table {
      title := "Automation Studio projects (" ++ toString projects.length ++ ")"
      showHeadings := true
      columns := [column "Project" Project.name, column "Root" fun p => p.root.text,
        column "Version" fun p => p.descriptor.version.getD "",
        column "Active" fun p => p.activeName.getD "", column "Configurations" configurationList] }

/-- A list of projects as JSON. -/
def projectsJson (projects : List Project) : Json :=
  .list (projects.map Project.toJson)

/-- The rows about build information. -/
def buildRows : Option BuildInfo → List (String × String)
  | none => [("Configuration", "-")]
  | some info =>
    [("Configuration", info.configuration), ("Module", orHyphen (info.moduleId.getD "")),
      -- An absent value is shown as a hyphen, as an empty one is.
      ("GCC", orHyphen (info.gccVersion.getD "")),
      ("Include dirs",
        orHyphen ("\n".intercalate (info.includeDirectories.map Location.text))),
      ("Build options", orHyphen (" ".intercalate info.options))]

/-- What is known about a location, for people. -/
def locationPrinted (l : Location) (p : Project) (info : Option BuildInfo) : Printed :=
  let rows := [("Project", p.name), ("Root", p.root.text)] ++ buildRows info
  .table {
    title := l.text
    showHeadings := false
    columns := [("Key", rows.map (·.1)), ("Value", rows.map (·.2))] }

/-- What is known about a location, as JSON. -/
def locationJson (l : Location) (p : Project) (info : Option BuildInfo) : Json :=
  .object [("location", .text l.text), ("project", .text p.name),
    ("project_root", .text p.root.text),
    ("configuration", .optionalText (info.map (·.configuration))),
    ("build", (info.map BuildInfo.toJson).getD .null)]

/-- A successful outcome: indented JSON, or what is printed for people. -/
def succeed (asJson : Bool) (json : Json) (printed : Printed) : Outcome :=
  if asJson then { exitCode := 0, output := json.page ++ "\n" }
  else { exitCode := 0, printed := [printed] }

end AutomationIndex.Command
