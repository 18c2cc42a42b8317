import AutomationIndex.Text.Digit
import AutomationIndex.Text.Quoted

/-! Command lines: options in their spellings, operands, and what is wrong with them. -/

namespace AutomationIndex.Command

/-- What an option is for. -/
inductive Purpose where
  | help
  | version
  | flag
  /-- The option takes a value. -/
  | value
  deriving DecidableEq, Repr

/-- An option with its spellings, short ones with one hyphen and long ones with two. -/
structure OptionForm where
  spellings : List String
  purpose : Purpose
  deriving DecidableEq, Repr

/-- How many operands there are. -/
inductive Arity where
  | one
  | oneOrMore
  /-- A word, which gives a meaning to everything after it. -/
  | leadingWord
  deriving DecidableEq, Repr

/-- The form of a command line. -/
structure Form where
  program : String
  usage : String
  help : String
  options : List OptionForm
  /-- What messages call the operands. -/
  operand : String
  arity : Arity
  /-- Whether there must be operands. -/
  required : Bool
  deriving DecidableEq, Repr

/-- What ends the reading of a command line. -/
inductive Stop where
  | help (form : Form)
  | version
  | wrong (form : Form) (message : String)
  deriving DecidableEq, Repr

/-- An option of a command line as far as it is understood. -/
structure Spelled where
  form : OptionForm
  /-- The spelling that it stands for. -/
  spelling : String
  /-- Whether an equals sign comes before the value. -/
  hasSign : Bool
  /-- The value in the same argument. -/
  value : Option (List Char)
  deriving DecidableEq, Repr

/-- What an argument is at first sight. -/
inductive Mark where
  | operand
  /-- Two hyphens, after which there are operands only. -/
  | separator
  | option (spelled : Option Spelled)
  deriving DecidableEq, Repr

/-- What a command line gives. -/
structure Given where
  options : List (OptionForm × Option String) := []
  operands : List String := []
  /-- Arguments that have no place. -/
  extras : List String := []
  deriving DecidableEq, Repr

namespace Form

/-- The spellings of all options with their options. -/
def spellings (form : Form) : List (String × OptionForm) :=
  form.options.flatMap fun option => option.spellings.map fun spelling => (spelling, option)

/-- The option with a spelling. -/
def option? (form : Form) (spelling : String) : Option OptionForm :=
  (form.spellings.find? fun entry => entry.1 == spelling).map (·.2)

end Form

/-- Whether an argument begins with two hyphens. -/
def isLong (chars : List Char) : Bool :=
  ['-', '-'].isPrefixOf chars

/-- An argument before and after its first equals sign. -/
def splitAtSign (chars : List Char) : List Char × Option (List Char) :=
  let before := chars.takeWhile (· != '=')
  -- Only the first sign splits: a value may hold further ones.
  match chars.drop before.length with
  | [] => (before, none)
  | _ :: after => (before, some after)

/-- The options whose spelling a long argument begins. -/
def longMatches (form : Form) (chars : List Char) : List Spelled :=
  let (before, value) := splitAtSign chars
  (form.spellings.filter fun entry => before.isPrefixOf entry.1.toList).map fun entry =>
    ⟨entry.2, entry.1, value.isSome, value⟩

/-- The short options with which an argument begins. -/
def shortMatches (form : Form) (chars : List Char) : List Spelled :=
  (form.spellings.filter fun entry => entry.1.toList == chars.take 2).map fun entry =>
    ⟨entry.2, entry.1, false, some (chars.drop 2)⟩

/-- Whether an argument is a hyphen and a decimal number in the digits of any script, after which a
line may end. -/
def isNegativeNumber : List Char → Bool
  | '-' :: chars =>
    -- One line end at the end of the argument does not count.
    let chars := if chars.getLast? == some '\n' then chars.dropLast else chars
    let whole := chars.takeWhile Text.isDecimalDigit
    match chars.drop whole.length with
    | [] => !whole.isEmpty
    | '.' :: decimals => !decimals.isEmpty && decimals.all Text.isDecimalDigit
    | _ => false
  | _ => false

/-- What an argument that begins with a hyphen is, where it is no spelling of an option. -/
def markUnspelled (form : Form) (argument : String) : Except Stop Mark :=
  let chars := argument.toList
  -- A beginning that is unlike any other stands for the whole spelling.
  let found := if isLong chars then longMatches form chars else shortMatches form chars
  match found with
  | [spelled] => .ok (.option (some spelled))
  | [] =>
    -- Unless it spells an option, a number is an operand, and so is what holds a blank.
    if isNegativeNumber chars || chars.contains ' ' then .ok .operand else .ok (.option none)
  | several =>
    .error (.wrong form ("ambiguous option: " ++ argument ++ " could match " ++
      ", ".intercalate (several.map (·.spelling))))

/-- What an argument is that comes before any separator. -/
def markOf (form : Form) (argument : String) : Except Stop Mark :=
  match argument.toList with
  | '-' :: rest =>
    match form.option? argument with
    | some option => .ok (.option (some ⟨option, argument, false, none⟩))
    | none =>
      if rest.isEmpty then .ok .operand
      else
        -- A spelling may carry its value behind an equals sign.
        let (before, value) := splitAtSign argument.toList
        match value, form.option? (String.ofList before) with
        | some value, some option =>
          .ok (.option (some ⟨option, String.ofList before, true, some value⟩))
        | _, _ => markUnspelled form argument
  | _ => .ok .operand

/-- The arguments with what they are at first sight. -/
def marked (form : Form) : List String → Except Stop (List (String × Mark))
  | [] => .ok []
  | argument :: rest =>
    if argument == "--" then
      -- Behind a double dash everything is an operand, further double dashes included.
      .ok ((argument, .separator) :: rest.map fun operand => (operand, .operand))
    else do
      let mark ← markOf form argument
      let others ← marked form rest
      return (argument, mark) :: others

/-- Something wrong with the value of an option. -/
def wrongOption (form : Form) (option : OptionForm) (message : String) : Stop :=
  .wrong form ("argument " ++ "/".intercalate option.spellings ++ ": " ++ message)

/-- A value given to an option that takes none. -/
def needlessValue (form : Form) (option : OptionForm) (value : List Char) : Stop :=
  wrongOption form option ("ignored explicit argument " ++ Text.quoted (String.ofList value))

/-- What an argument with options comes to: those that are complete, one that still needs a value,
and what has no place. -/
structure Cluster where
  complete : List (OptionForm × Option String) := []
  waiting : Option OptionForm := none
  extras : List String := []

/-- Puts an option without value in front. -/
def Cluster.cons (option : OptionForm) (cluster : Cluster) : Cluster :=
  { cluster with complete := (option, none) :: cluster.complete }

/-- Takes an argument with options apart: the value of a short option that takes none is read as
further short options. -/
def cluster (form : Form) : Nat → Spelled → Except Stop Cluster
  | 0, _ => .ok {}
  | fuel + 1, ⟨option, spelling, hasSign, value⟩ =>
    match option.purpose, value with
    | .value, none => .ok { waiting := some option }
    | .value, some value => .ok { complete := [(option, some (String.ofList value))] }
    | _, none => .ok { complete := [(option, none)] }
    | _, some [] => .error (needlessValue form option [])
    | _, some (c :: rest) =>
      -- Only the rest of a short option can be more options.
      if isLong spelling.toList || hasSign || c == '-' then
        .error (needlessValue form option (c :: rest))
      else
        let next := String.ofList ['-', c]
        match form.option? next with
        | none => .ok { complete := [(option, none)], extras := [String.ofList ('-' :: c :: rest)] }
        | some other =>
          let spelled : Spelled :=
            match rest with
            | [] => ⟨other, next, false, none⟩
            | '=' :: value => ⟨other, next, true, some value⟩
            | value => ⟨other, next, false, some value⟩
          (cluster form fuel spelled).map (·.cons option)

/-- Takes options into account, of which one for help or the version ends the reading. -/
def takeOptions (form : Form) (given : Given) :
    List (OptionForm × Option String) → Except Stop Given
  | [] => .ok given
  | (option, value) :: rest =>
    match option.purpose with
    -- Help and the version are asked for as soon as they are met, before the rest is looked at.
    | .help => .error (.help form)
    | .version => .error .version
    | _ => takeOptions form { given with options := given.options ++ [(option, value)] } rest

/-- How many of the arguments are operands of the form, from the first one on. -/
def operandCount (arity : Arity) (marks : List Mark) : Nat :=
  let leading := (marks.takeWhile (· == .separator)).length
  match marks.drop leading with
  | .operand :: rest =>
    match arity with
    | .one => leading + 1 + (rest.takeWhile (· == .separator)).length
    | .oneOrMore => leading + 1 + (rest.takeWhile fun mark =>
        mark == .operand || mark == .separator).length
    -- The command has options of its own, so everything after its name is left to it.
    | .leadingWord => marks.length
  | _ => 0

/-- The operands of arguments: the first separator is none, unless a word leads. -/
def operandsOf (arity : Arity) (arguments : List String) : List String :=
  match arity with
  | .leadingWord => arguments
  -- The first separator has done its work.
  | _ => arguments.erase "--"

/-- Whether an argument is an option, known or not. -/
def Mark.isOption : Mark → Bool
  | option _ => true
  | _ => false

/-- Takes the operands at the start of the arguments, if some are still due. -/
def takeOperands (form : Form) (given : Given) (arguments : List (String × Mark)) :
    Given × List (String × Mark) :=
  if given.operands.isEmpty then
    -- The operands are taken once, from the first run of arguments which can serve as such.
    let count := operandCount form.arity (arguments.map (·.2))
    ({ given with operands := operandsOf form.arity ((arguments.take count).map (·.1)) },
      arguments.drop count)
  else (given, arguments)

/-- Takes the option at the start of the arguments, and its value. -/
def takeOption (form : Form) (given : Given) (argument : String) (spelled : Option Spelled)
    (rest : List (String × Mark)) : Except Stop (Given × List (String × Mark)) :=
  match spelled with
  | none => .ok ({ given with extras := given.extras ++ [argument] }, rest)
  | some spelled => do
    let found ← cluster form (argument.length + 1) spelled
    let given := { given with extras := given.extras ++ found.extras }
    match found.waiting, rest with
    | none, rest => return (← takeOptions form given found.complete, rest)
    -- An option that waits for its value takes the next argument, if that is an operand.
    | some option, (value, .operand) :: rest =>
      return (← takeOptions form given (found.complete ++ [(option, some value)]), rest)
    | some option, _ => .error (wrongOption form option "expected one argument")

/-- Reads arguments from left to right, operands and options in turn. -/
def readMarked (form : Form) : Nat → Given → List (String × Mark) → Except Stop Given
  | 0, given, _ => .ok given
  | fuel + 1, given, arguments =>
    if arguments.any fun argument => argument.2.isOption then
      match arguments with
      | (argument, .option spelled) :: rest => do
        let (given, rest) ← takeOption form given argument spelled rest
        readMarked form fuel given rest
      | arguments =>
        let (given, rest) := takeOperands form given arguments
        if rest.length < arguments.length then readMarked form fuel given rest
        else
          -- Operands that no operand is due for have no place.
          let extras := arguments.takeWhile fun argument => !argument.2.isOption
          readMarked form fuel { given with extras := given.extras ++ extras.map (·.1) }
            (arguments.drop extras.length)
    else
      let (given, rest) := takeOperands form given arguments
      .ok { given with extras := given.extras ++ rest.map (·.1) }

/-- Reads a command line; operands that must be there are missed in the end. -/
def Form.read (form : Form) (arguments : List String) : Except Stop Given := do
  let marks ← marked form arguments
  -- Each round drops at least one argument, so the bound is never reached.
  let given ← readMarked form (2 * arguments.length + 1) {} marks
  if form.required && given.operands.isEmpty then
    .error (.wrong form ("the following arguments are required: " ++ form.operand))
  else return given

end AutomationIndex.Command
