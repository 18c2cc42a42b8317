import AutomationIndex.Command.Option

/-! The command line of the program: its two commands, their options, and its help. -/

namespace AutomationIndex.Command

/-- Lines as one text. -/
def page (lines : List String) : String :=
  "\n".intercalate lines

/-- The option that asks for help. -/
def helpOption : OptionForm := ⟨["-h", "--help"], .help⟩

/-- The option for more messages. -/
def verboseOption : OptionForm := ⟨["-v", "--verbose"], .flag⟩

/-- The option for a file of messages. -/
def logFileOption : OptionForm := ⟨["--log-file"], .value⟩

/-- The option that asks for the version. -/
def versionOption : OptionForm := ⟨["--version"], .version⟩

/-- The option for settings. -/
def settingsOption : OptionForm := ⟨["-c", "--config"], .value⟩

/-- The option for machine-readable output. -/
def jsonOption : OptionForm := ⟨["--json"], .flag⟩

/-- The option for the root of a workspace. -/
def rootOption : OptionForm := ⟨["-r", "--root"], .value⟩

/-- The help of the program. -/
def mainHelp : String :=
  page [
    "usage: asindexer [-h] [-v] [--log-file LOG_FILE] [--version] \x7bscan,info\x7d ...",
    "",
    "Asindexer - Automation Studio project indexer",
    "",
    "positional arguments:",
    "  \x7bscan,info\x7d          Available commands",
    "    scan               Find projects in workspace roots and list their",
    "                       configurations",
    "    info               Show the project and C build information of a file or",
    "                       directory",
    "",
    "options:",
    "  -h, --help           show this help message and exit",
    "  -v, --verbose        Enable verbose logging",
    "  --log-file LOG_FILE  Output log to file (optional), in addition to the",
    "                       console.",
    "  --version            show program's version number and exit",
    ""]

/-- The help of the command that lists projects. -/
def scanHelp : String :=
  page [
    "usage: asindexer scan [-h] [-c CONFIG] [--json] ROOT [ROOT ...]",
    "",
    "positional arguments:",
    "  ROOT                  Workspace root directories to search for project files",
    "",
    "options:",
    "  -h, --help            show this help message and exit",
    "  -c CONFIG, --config CONFIG",
    "                        Optional indexer configuration. Can be a path to a",
    "                        TOML/JSON file or an inline TOML/JSON string. When",
    "                        omitted, built-in defaults are used.",
    "  --json                Print JSON instead of a table",
    ""]

/-- The help of the command that describes a location. -/
def infoHelp : String :=
  page [
    "usage: asindexer info [-h] [-r ROOT] [-c CONFIG] [--json] path",
    "",
    "positional arguments:",
    "  path                  File or directory inside a project",
    "",
    "options:",
    "  -h, --help            show this help message and exit",
    "  -r ROOT, --root ROOT  Workspace root (repeatable). Defaults to the nearest",
    "                        parent directory containing a project file.",
    "  -c CONFIG, --config CONFIG",
    "                        Optional indexer configuration. Can be a path to a",
    "                        TOML/JSON file or an inline TOML/JSON string. When",
    "                        omitted, built-in defaults are used.",
    "  --json                Print JSON instead of a table",
    ""]

/-- The form of the whole command line. -/
def mainForm : Form where
  program := "asindexer"
  usage := "usage: asindexer [-h] [-v] [--log-file LOG_FILE] [--version] \x7bscan,info\x7d ..."
  help := mainHelp
  options := [helpOption, verboseOption, logFileOption, versionOption]
  operand := "command"
  arity := .leadingWord
  required := false

/-- The form of the command that lists projects. -/
def scanForm : Form where
  program := "asindexer scan"
  usage := "usage: asindexer scan [-h] [-c CONFIG] [--json] ROOT [ROOT ...]"
  help := scanHelp
  options := [helpOption, settingsOption, jsonOption]
  operand := "ROOT"
  arity := .oneOrMore
  required := true

/-- The form of the command that describes a location. -/
def infoForm : Form where
  program := "asindexer info"
  usage := "usage: asindexer info [-h] [-r ROOT] [-c CONFIG] [--json] path"
  help := infoHelp
  options := [helpOption, rootOption, settingsOption, jsonOption]
  operand := "path"
  arity := .one
  required := true

/-- The version that the program tells. -/
def versionText : String :=
  "asindexer 0.1.0"

/-- A command with what it is told. -/
inductive Task where
  | scan (roots : List String)
  | info (location : String) (roots : List String)
  deriving DecidableEq, Repr

/-- A command line that is understood. -/
structure Request where
  verbose : Bool
  logFile : Option String
  settings : Option String
  json : Bool
  /-- The command, if one is given. -/
  task : Option Task
  deriving DecidableEq, Repr

namespace Given

/-- Whether an option is given. -/
def has (given : Given) (option : OptionForm) : Bool :=
  given.options.any fun entry => entry.1 == option

/-- The values that an option is given, in order. -/
def values (given : Given) (option : OptionForm) : List String :=
  (given.options.filter fun entry => entry.1 == option).filterMap (·.2)

/-- The last value that an option is given. -/
def value? (given : Given) (option : OptionForm) : Option String :=
  (given.values option).getLast?

end Given

/-- The form and the name of each command. -/
def commands : List (String × Form) :=
  [("scan", scanForm), ("info", infoForm)]

/-- The form of the command with a name. -/
def formOf (name : String) : Except Stop Form :=
  match commands.find? fun command => command.1 == name with
  | some command => .ok command.2
  | none =>
    .error (.wrong mainForm ("argument command: invalid choice: " ++ Text.quoted name ++
      " (choose from " ++ ", ".intercalate (commands.map fun command => Text.quoted command.1) ++
      ")"))

/-- What a command is told to do. -/
def taskOf (name : String) (given : Given) : Task :=
  if name == "scan" then .scan given.operands
  else .info (given.operands.headD "") (given.values rootOption)

/-- Refuses arguments that have no place. -/
def refuseExtras (extras : List String) : Except Stop Unit :=
  if extras.isEmpty then .ok ()
  else .error (.wrong mainForm ("unrecognized arguments: " ++ " ".intercalate extras))

/-- Reads a whole command line. -/
def readRequest (arguments : List String) : Except Stop Request := do
  let given ← mainForm.read arguments
  let verbose := given.has verboseOption
  let logFile := given.value? logFileOption
  match given.operands with
  | [] => do
    refuseExtras given.extras
    return ⟨verbose, logFile, none, false, none⟩
  | name :: rest => do
    let form ← formOf name
    let inner ← form.read rest
    -- What the first form left over is told in front of what the second did.
    refuseExtras (given.extras ++ inner.extras)
    return ⟨verbose, logFile, inner.value? settingsOption, inner.has jsonOption,
      some (taskOf name inner)⟩

end AutomationIndex.Command
