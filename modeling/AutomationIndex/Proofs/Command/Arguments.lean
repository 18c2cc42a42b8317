import AutomationIndex.Command.Form
import AutomationIndex.Proofs.Logged

/-! The command lines that ask for a location and for a list of projects, whatever the roots, the
location and the settings are called. -/

namespace AutomationIndex.Command

/-- Whether an argument begins with no hyphen. -/
def IsPlain (argument : String) : Prop :=
  argument.toList.head? ≠ some '-'

instance (argument : String) : Decidable (IsPlain argument) :=
  inferInstanceAs (Decidable (_ ≠ _))

/-- The options that name roots. -/
def rootArguments (roots : List String) : List String :=
  roots.flatMap fun root => ["--root", root]

/-- The end of a command line that gives settings and asks for JSON. -/
def settingsArguments (config : String) : List String :=
  ["-c", config, "--json"]

variable {form : Form} {arguments roots : List String} {argument config path : String}

/-- A plain argument is no option. -/
theorem markOf_plain (plain : IsPlain argument) : markOf form argument = .ok .operand := by
  unfold markOf
  split
  · next rest line =>
    exact absurd (by rw [line]; rfl) plain
  · rfl

/-- A plain argument is an operand before others that are understood. -/
theorem marked_plain (plain : IsPlain argument) {marks : List (String × Mark)}
    (rest : marked form arguments = .ok marks) :
    marked form (argument :: arguments) = .ok ((argument, .operand) :: marks) := by
  -- A plain argument does not begin with a hyphen, so it is neither a mark nor an option.
  have other : (argument == "--") = false := by
    refine beq_eq_false_iff_ne.mpr ?_
    rintro rfl
    exact plain rfl
  rw [marked, other]
  simp only [Bool.false_eq_true, if_false, markOf_plain plain, rest]
  rfl

/-- An option is marked before others that are understood. -/
theorem marked_option {mark : Mark} (other : argument ≠ "--")
    (option : markOf form argument = .ok mark) {marks : List (String × Mark)}
    (rest : marked form arguments = .ok marks) :
    marked form (argument :: arguments) = .ok ((argument, mark) :: marks) := by
  rw [marked, beq_eq_false_iff_ne.mpr other]
  simp only [Bool.false_eq_true, if_false, option, rest]
  rfl

/-- Plain arguments are operands. -/
theorem marked_plains (plain : ∀ argument ∈ arguments, IsPlain argument) {rest : List String}
    {marks : List (String × Mark)} (others : marked form rest = .ok marks) :
    marked form (arguments ++ rest) = .ok (arguments.map (·, .operand) ++ marks) := by
  -- One plain argument after the other is marked as an operand, in front of the marks of the rest.
  induction arguments with
  | nil => exact others
  | cons argument arguments ih =>
    exact marked_plain (plain argument List.mem_cons_self)
      (ih fun other member => plain other (List.mem_cons_of_mem _ member))

/-- Marking keeps the arguments. -/
theorem marked_arguments {marks : List (String × Mark)}
    (understood : marked form arguments = .ok marks) : marks.map (·.1) = arguments := by
  induction arguments generalizing marks with
  | nil =>
    cases understood
    rfl
  | cons argument arguments ih =>
    -- Marking stops at a separator, after which all arguments are operands; else it goes on.
    rw [marked] at understood
    split at understood
    · cases understood
      simp [Function.comp_def]
    · obtain ⟨mark, -, understood⟩ := exceptBind_ok_iff.mp understood
      obtain ⟨others, rest, understood⟩ := exceptBind_ok_iff.mp understood
      cases understood
      rw [List.map_cons, ih rest]

/-- An option as its spelling alone marks it. -/
def asOption (option : OptionForm) (spelling : String) : Mark :=
  .option (some ⟨option, spelling, false, none⟩)

variable {given : Given} {option : OptionForm} {marks : List (String × Mark)}

/-- Reading ends where nothing is left and operands have been found. -/
theorem readMarked_nil (steps : Nat) (found : given.operands ≠ []) :
    readMarked form (steps + 1) given [] = .ok given := by
  have some : given.operands.isEmpty = false := by simpa using found
  simp [readMarked, takeOperands, some]

/-- An option takes the operand after it for its value. -/
theorem readMarked_value (steps : Nat) (takes : option.purpose = .value) (spelling value : String) :
    readMarked form (steps + 1) given
        ((spelling, asOption option spelling) :: (value, .operand) :: marks) =
      readMarked form steps { given with options := given.options ++ [(option, some value)] }
        marks := by
  simp [readMarked, asOption, Mark.isOption, takeOption, cluster, takes, takeOptions, Bind.bind,
    Except.bind, Pure.pure, Except.pure]

/-- A flag takes no value. -/
theorem readMarked_flag (steps : Nat) (flag : option.purpose = .flag) (spelling : String) :
    readMarked form (steps + 1) given ((spelling, asOption option spelling) :: marks) =
      readMarked form steps { given with options := given.options ++ [(option, none)] } marks := by
  simp [readMarked, asOption, Mark.isOption, takeOption, cluster, flag, takeOptions, Bind.bind,
    Except.bind, Pure.pure, Except.pure]

/-- Several options take the operands after them for their values. -/
theorem readMarked_values (steps : Nat) (takes : option.purpose = .value) (spelling : String)
    (values : List String) :
    readMarked form (steps + values.length) given ((values.flatMap fun value =>
        [(spelling, asOption option spelling), (value, .operand)]) ++ marks) =
      readMarked form steps { given with
        options := given.options ++ values.map fun value => (option, some value) } marks := by
  induction values generalizing given with
  | nil => simp
  | cons value values ih =>
    -- An option takes the operand after it, and one step is left over for each pair.
    rw [List.length_cons, ← Nat.add_assoc, List.flatMap_cons, List.append_assoc]
    simp only [List.cons_append, List.nil_append]
    rw [readMarked_value _ takes, ih]
    simp

/-- Operands are taken before an option. -/
theorem readMarked_operands (steps : Nat) {found : Given} {rest : List (String × Mark)}
    (taken : takeOperands form given ((argument, .operand) :: marks) = (found, rest))
    (shorter : rest.length ≤ marks.length)
    (more : marks.any (fun marked => marked.2.isOption) = true) :
    readMarked form (steps + 1) given ((argument, .operand) :: marks) =
      readMarked form steps found rest := by
  -- An option is still to come, so the operands before it are taken in one go.
  have among : ((argument, Mark.operand) :: marks).any (fun marked => marked.2.isOption) =
      true := by
    rw [List.any_cons, more, Bool.or_true]
  conv_lhs => unfold readMarked
  rw [if_pos among]
  simp only [taken, List.length_cons, Nat.lt_succ_iff, shorter, if_true]

/-- Where there are no options, operands are taken and the reading ends. -/
theorem readMarked_operandsOnly (steps : Nat) {found : Given}
    (taken : takeOperands form given ((argument, .operand) :: marks) = (found, []))
    (last : marks.any (fun marked => marked.2.isOption) = false) :
    readMarked form (steps + 1) given ((argument, .operand) :: marks) = .ok found := by
  -- No option is to come, so reading ends with the operands.
  have among : ((argument, Mark.operand) :: marks).any (fun marked => marked.2.isOption) =
      false := by
    rw [List.any_cons, last]
    rfl
  unfold readMarked
  rw [among]
  simp [taken]

/-- Everything after the name of a command is left to the command. -/
theorem mainForm_read {name : String} (plain : IsPlain name)
    (understood : marked mainForm arguments = .ok marks) :
    mainForm.read (name :: arguments) = .ok { operands := name :: arguments } := by
  -- The command takes its name and all arguments after it, marks included.
  have kept := marked_arguments understood
  have taken : takeOperands mainForm {} ((name, .operand) :: marks) =
      ({ operands := name :: arguments }, []) := by
    simp [takeOperands, operandCount, operandsOf, mainForm, ← kept]
  have read : readMarked mainForm (2 * arguments.length + 1 + 2) {} ((name, .operand) :: marks) =
      .ok { operands := name :: arguments } := by
    -- With or without options among them, all arguments are operands of the command.
    cases more : marks.any fun marked => marked.2.isOption with
    | true =>
      rw [readMarked_operands _ taken (Nat.zero_le _) more, readMarked_nil _ (List.cons_ne_nil _ _)]
    | false => exact readMarked_operandsOnly _ taken more
  have steps : 2 * (name :: arguments).length + 1 = 2 * arguments.length + 1 + 2 := by
    rw [List.length_cons]
    omega
  rw [Form.read, marked_plain plain understood, steps]
  simp only [Bind.bind, Except.bind, read]
  rfl

/-- The command line that asks for a location. -/
def infoArguments (path : String) (roots : List String) (config : String) : List String :=
  path :: rootArguments roots ++ settingsArguments config

/-- The command line that asks for the projects of roots. -/
def scanArguments (roots : List String) (config : String) : List String :=
  roots ++ settingsArguments config

/-- The marks of the options that name roots. -/
def rootMarks (roots : List String) : List (String × Mark) :=
  roots.flatMap fun root => [("--root", asOption rootOption "--root"), (root, .operand)]

/-- The marks of the end of a command line that gives settings and asks for JSON. -/
def settingsMarks (config : String) : List (String × Mark) :=
  [("-c", asOption settingsOption "-c"), (config, .operand),
    ("--json", asOption jsonOption "--json")]

/-- The command for a location understands its arguments. -/
theorem marked_info (plainPath : IsPlain path) (plainRoots : ∀ root ∈ roots, IsPlain root)
    (plainConfig : IsPlain config) : marked infoForm (infoArguments path roots config) =
      .ok ((path, .operand) :: rootMarks roots ++ settingsMarks config) := by
  -- The settings close the line: an option with its value, and a flag.
  have settings : marked infoForm (settingsArguments config) = .ok (settingsMarks config) :=
    marked_option (by decide) rfl (marked_plain plainConfig (marked_option (by decide) rfl rfl))
  refine marked_plain plainPath ?_
  induction roots with
  | nil => exact settings
  | cons root roots ih =>
    exact marked_option (by decide) rfl (marked_plain (plainRoots root List.mem_cons_self)
      (ih fun other member => plainRoots other (List.mem_cons_of_mem _ member)))

/-- The program passes over options that are not its own at the end of a command line. -/
theorem marked_main_settings (plainConfig : IsPlain config) :
    ∃ marks, marked mainForm (settingsArguments config) = .ok marks :=
  ⟨_, marked_option (by decide) rfl (marked_plain plainConfig (marked_option (by decide) rfl rfl))⟩

/-- The program passes over the options of a command line for a location. -/
theorem marked_main_info (plainPath : IsPlain path) (plainRoots : ∀ root ∈ roots, IsPlain root)
    (plainConfig : IsPlain config) :
    ∃ marks, marked mainForm (infoArguments path roots config) = .ok marks := by
  -- The path is an operand like the roots, so only the options are left to look at.
  suffices ∃ marks, marked mainForm (rootArguments roots ++ settingsArguments config) = .ok marks by
    obtain ⟨marks, rest⟩ := this
    exact ⟨_, marked_plain plainPath rest⟩
  induction roots with
  | nil => exact marked_main_settings plainConfig
  | cons root roots ih =>
    obtain ⟨others, rest⟩ := ih fun other member => plainRoots other (List.mem_cons_of_mem _ member)
    exact ⟨_, marked_option (by decide) rfl
      (marked_plain (plainRoots root List.mem_cons_self) rest)⟩

/-- What the end of a command line gives is added to what was given before it. -/
theorem readMarked_settings (steps : Nat) (found : given.operands ≠ []) :
    readMarked form (steps + 3) given (settingsMarks config) = .ok { given with
      options := given.options ++ [(settingsOption, some config), (jsonOption, none)] } := by
  rw [settingsMarks, readMarked_value _ rfl, readMarked_flag _ rfl]
  rw [readMarked_nil]
  · rw [List.append_assoc, List.singleton_append]
  · exact found

/-- A plain argument is no separator. -/
theorem ne_separator_of_isPlain (plain : IsPlain argument) : argument ≠ "--" := by
  rintro rfl
  exact plain rfl

/-- What the command line for a location gives. -/
theorem infoForm_read (plainPath : IsPlain path) (plainRoots : ∀ root ∈ roots, IsPlain root)
    (plainConfig : IsPlain config) :
    infoForm.read (infoArguments path roots config) = .ok {
      options := (roots.map fun root => (rootOption, some root)) ++
        [(settingsOption, some config), (jsonOption, none)]
      operands := [path] } := by
  -- The path comes first and is the only operand.
  have taken : takeOperands infoForm {} ((path, .operand) :: (rootMarks roots ++
      settingsMarks config)) =
        ({ operands := [path] }, rootMarks roots ++ settingsMarks config) := by
    cases roots <;> simp [takeOperands, operandCount, operandsOf, infoForm, rootMarks,
      settingsMarks, asOption, ne_separator_of_isPlain plainPath]
  -- The settings are always among the options.
  have more : (rootMarks roots ++ settingsMarks config).any (fun marked => marked.2.isOption) =
      true := by
    simp [settingsMarks, asOption, Mark.isOption]
  -- The limit of steps suffices for two arguments to a root and for the settings.
  have steps : 2 * (infoArguments path roots config).length + 1 =
      3 * roots.length + 5 + 3 + roots.length + 1 := by
    simp [infoArguments, rootArguments, settingsArguments]
    omega
  rw [Form.read, marked_info plainPath plainRoots plainConfig, steps]
  simp only [Bind.bind, Except.bind, List.cons_append]
  rw [readMarked_operands _ taken (Nat.le_refl _) more, rootMarks, readMarked_values _ rfl,
    readMarked_settings _ (List.cons_ne_nil _ _)]
  rfl

/-- The command for projects understands its arguments, and takes the roots first. -/
theorem scanForm_read (named : roots ≠ []) (plainRoots : ∀ root ∈ roots, IsPlain root)
    (plainConfig : IsPlain config) :
    scanForm.read (scanArguments roots config) = .ok {
      options := [(settingsOption, some config), (jsonOption, none)]
      operands := roots } := by
  -- The roots are operands here, and the settings follow them.
  have settings : marked scanForm (settingsArguments config) = .ok (settingsMarks config) :=
    marked_option (by decide) rfl (marked_plain plainConfig (marked_option (by decide) rfl rfl))
  have noSeparator : "--" ∉ roots := fun member =>
    ne_separator_of_isPlain (plainRoots _ member) rfl
  obtain ⟨first, others, rfl⟩ := List.exists_cons_of_ne_nil named
  have taken : takeOperands scanForm {} ((first, .operand) :: (others.map (·, .operand) ++
      settingsMarks config)) = ({ operands := first :: others }, settingsMarks config) := by
    -- All operands before the first option are counted.
    have count : operandCount .oneOrMore (((first, Mark.operand) :: (others.map (·, .operand) ++
        settingsMarks config)).map (·.2)) = (first :: others).length := by
      simp [operandCount, Function.comp_def, settingsMarks, asOption, Nat.add_comm]
    have arity : scanForm.arity = .oneOrMore := rfl
    simp only [takeOperands, arity, count]
    simp [operandsOf, Function.comp_def, List.erase_of_not_mem noSeparator]
  have more : (others.map (·, Mark.operand) ++ settingsMarks config).any
      (fun marked => marked.2.isOption) = true := by
    simp [settingsMarks, asOption, Mark.isOption]
  have steps : 2 * (scanArguments (first :: others) config).length + 1 =
      2 * others.length + 5 + 3 + 1 := by
    simp [scanArguments, settingsArguments]
    omega
  rw [Form.read, scanArguments, marked_plains plainRoots settings, ← scanArguments, steps]
  simp only [Bind.bind, Except.bind, List.map_cons, List.cons_append]
  rw [readMarked_operands _ taken (by simp) more, readMarked_settings _ (List.cons_ne_nil _ _)]
  rfl

/-- The values of the options that name roots are the roots, and no other option has them. -/
theorem values_roots (roots : List String) {more : List (OptionForm × Option String)}
    (other : ∀ entry ∈ more, entry.1 ≠ rootOption) (operands : List String) :
    ({ options := (roots.map fun root => (rootOption, some root)) ++ more
       operands := operands } : Given).values rootOption = roots := by
  -- The roots are given by their own option and by no other.
  have own : (roots.map fun root => (rootOption, some root)).filter (·.1 == rootOption) =
      roots.map fun root => (rootOption, some root) :=
    List.filter_eq_self.mpr (by simp)
  have none : more.filter (·.1 == rootOption) = [] :=
    List.filter_eq_nil_iff.mpr fun entry member => by simpa using other entry member
  rw [Given.values, List.filter_append, own, none, List.append_nil, List.filterMap_map]
  simp

/-- The options that give settings do so after those that name roots. -/
theorem value?_settings (roots : List String) (operands : List String) :
    ({ options := (roots.map fun root => (rootOption, some root)) ++
        [(settingsOption, some config), (jsonOption, none)]
       operands := operands } : Given).value? settingsOption = some config := by
  -- The options for the roots are other options than the one for the settings.
  have none : (roots.map fun root => (rootOption, some root)).filter (·.1 == settingsOption) = [] :=
    List.filter_eq_nil_iff.mpr fun entry member => by
      obtain ⟨root, -, rfl⟩ := List.mem_map.mp member
      have other : (rootOption == settingsOption) = false := by decide
      exact Bool.eq_false_iff.mp other
  rw [Given.value?, Given.values, List.filter_append, none]
  rfl

/-- The command line for a location asks for it in the named roots, with the given settings. -/
theorem readRequest_info (plainPath : IsPlain path) (plainRoots : ∀ root ∈ roots, IsPlain root)
    (plainConfig : IsPlain config) :
    readRequest ("info" :: infoArguments path roots config) =
      .ok ⟨false, none, some config, true, some (.info path roots)⟩ := by
  -- The main form leaves the arguments of the task to the form of the task.
  obtain ⟨_, understood⟩ := marked_main_info plainPath plainRoots plainConfig
  have form : formOf "info" = .ok infoForm := rfl
  have others : ∀ entry ∈ [(settingsOption, some config), (jsonOption, none)],
      entry.1 ≠ rootOption := by
    simp [settingsOption, jsonOption, rootOption]
  rw [readRequest, mainForm_read (by decide) understood]
  simp only [Bind.bind, Except.bind, form, infoForm_read plainPath plainRoots plainConfig,
    refuseExtras, value?_settings, taskOf, values_roots roots others]
  simp [Given.has, Given.value?, Given.values, Pure.pure, Except.pure]

/-- The command line for projects asks for those of the named roots, with the given settings. -/
theorem readRequest_scan (named : roots ≠ []) (plainRoots : ∀ root ∈ roots, IsPlain root)
    (plainConfig : IsPlain config) :
    readRequest ("scan" :: scanArguments roots config) =
      .ok ⟨false, none, some config, true, some (.scan roots)⟩ := by
  -- The roots come before the settings, so the operands are read first.
  obtain ⟨_, settings⟩ := marked_main_settings plainConfig
  have understood : marked mainForm (scanArguments roots config) = .ok _ :=
    marked_plains plainRoots settings
  have form : formOf "scan" = .ok scanForm := rfl
  rw [readRequest, mainForm_read (by decide) understood]
  simp only [Bind.bind, Except.bind, form, scanForm_read named plainRoots plainConfig,
    refuseExtras, taskOf]
  rfl

end AutomationIndex.Command
