import BuildAudit.Text.Integer

/-!
# The command line

The program has one command, `build`. Options may be written with two hyphens and a name or, some of
them, with one hyphen and a letter; letters may be run together. A value follows as the next
argument, after an equals sign, or right after the letter. Where an option is given several times
the last value counts, except for the options that pass arguments on, which are all kept.
-/

namespace BuildAudit.Command

/-- The options. -/
inductive OptionName where
  /-- The package to build. -/
  | package
  /-- Build only the dependencies of the package. -/
  | dependenciesOnly
  /-- Audit every package. -/
  | auditAll
  /-- An argument for the compiler. -/
  | compilerArgument
  /-- An argument for the backend. -/
  | backendArgument
  /-- The number of workers of the audit. -/
  | jobs
  /-- Print what is found as JSON. -/
  | json
  /-- The configuration file. -/
  | config
  /-- Tell everything. -/
  | verbose
  /-- Tell only errors. -/
  | quiet
  /-- Show the version. -/
  | version
  /-- Show the help. -/
  | help
deriving DecidableEq, Repr

/-- How an option is written. -/
structure OptionForm where
  /-- The option. -/
  name : OptionName
  /-- The name after two hyphens. -/
  long : String
  /-- The letter after one hyphen. -/
  short? : Option Char
  /-- Whether a value follows. -/
  takesValue : Bool
deriving DecidableEq, Repr

/-- The options in front of the command. -/
def programForms : List OptionForm := [
  { name := .version, long := "version", short? := none, takesValue := false },
  { name := .help, long := "help", short? := none, takesValue := false }]

/-- The options of the command. -/
def buildForms : List OptionForm := [
  { name := .package, long := "package", short? := some 'p', takesValue := true },
  { name := .dependenciesOnly, long := "deps-only", short? := none, takesValue := false },
  { name := .auditAll, long := "pedantic-packages", short? := none, takesValue := false },
  { name := .compilerArgument, long := "purs-args", short? := none, takesValue := true },
  { name := .backendArgument, long := "backend-args", short? := none, takesValue := true },
  { name := .jobs, long := "jobs", short? := some 'j', takesValue := true },
  { name := .json, long := "json-errors", short? := none, takesValue := false },
  { name := .config, long := "config", short? := some 'c', takesValue := true },
  { name := .verbose, long := "verbose", short? := some 'v', takesValue := false },
  { name := .quiet, long := "quiet", short? := some 'q', takesValue := false },
  { name := .help, long := "help", short? := none, takesValue := false }]

/-- An option with its value, if it takes one. -/
structure Given where
  /-- The option. -/
  name : OptionName
  /-- The value. -/
  value : String
deriving DecidableEq, Repr

/-- What an argument gives: options, and an option that waits for its value. -/
structure Reading where
  /-- The options that are complete. -/
  given : List Given
  /-- The option whose value is the next argument. -/
  waiting? : Option OptionName := none
deriving DecidableEq, Repr

/-- A switch that is on. -/
def switchOn (name : OptionName) : Given where
  name := name
  value := ""

/-- Reads the letters after one hyphen. -/
def readLetters (forms : List OptionForm) : List Char → Option Reading
  | [] => some { given := [] }
  | letter :: rest =>
    match forms.find? (·.short? == some letter) with
    | none => none
    | some form =>
      if form.takesValue then
        if rest.isEmpty then some { given := [], waiting? := some form.name }
        else some { given := [{ name := form.name, value := String.ofList rest }] }
      else
        (readLetters forms rest).map fun reading =>
          { reading with given := switchOn form.name :: reading.given }

/-- Reads what follows two hyphens. -/
def readLong (forms : List OptionForm) (text : List Char) : Option Reading :=
  let name := text.takeWhile (· ≠ '=')
  match forms.find? (·.long.toList == name) with
  | none => none
  | some form =>
    match text.drop name.length, form.takesValue with
    | [], true => some { given := [], waiting? := some form.name }
    | [], false => some { given := [switchOn form.name] }
    | _ :: value, true => some { given := [{ name := form.name, value := String.ofList value }] }
    | _ :: _, false => none

/-- Reads an argument that starts with a hyphen. -/
def readOption (forms : List OptionForm) : List Char → Option Reading
  | '-' :: '-' :: rest => readLong forms rest
  | '-' :: rest => readLetters forms rest
  | _ => none

/-- Whether an argument is an option. -/
def isOption (argument : String) : Bool :=
  match argument.toList with
  | '-' :: _ :: _ => true
  | _ => false

/-- Arguments told apart. -/
structure Arguments where
  /-- The options in order. -/
  given : List Given
  /-- The other arguments in order. -/
  others : List String
deriving DecidableEq, Repr

/-- Tells arguments apart. Two hyphens alone end the options; unless `mixed`, so does the first
argument that is no option. -/
def tellApart (forms : List OptionForm) (mixed : Bool) : List String → Option Arguments
  | [] => some { given := [], others := [] }
  | argument :: rest =>
    if argument = "--" then some { given := [], others := rest }
    else if isOption argument then
      match readOption forms argument.toList with
      | none => none
      | some { given, waiting? := none } =>
        (tellApart forms mixed rest).map fun found => { found with given := given ++ found.given }
      | some { given, waiting? := some name } =>
        match rest with
        | [] => none
        | value :: rest =>
          (tellApart forms mixed rest).map fun found =>
            { found with given := given ++ { name, value } :: found.given }
    else if mixed then
      (tellApart forms mixed rest).map fun found =>
        { found with others := argument :: found.others }
    else some { given := [], others := argument :: rest }

/-- The options of a build. -/
structure BuildArguments where
  /-- The package to build. -/
  package? : Option String
  /-- Whether only the dependencies of the package are built. -/
  dependenciesOnly : Bool
  /-- Whether every package is audited. -/
  auditAll : Bool
  /-- Further arguments for the compiler. -/
  compilerArguments : List String
  /-- Further arguments for the backend. -/
  backendArguments : List String
  /-- The number of workers of the audit. -/
  jobs? : Option Nat
  /-- Whether what is found is printed as JSON. -/
  json : Bool
  /-- The configuration file. -/
  config? : Option String
  /-- Whether everything is told. -/
  verbose : Bool
  /-- Whether only errors are told. -/
  quiet : Bool
deriving DecidableEq, Repr

/-- What a command line asks for. -/
inductive Invocation where
  /-- The version. -/
  | version
  /-- The help. -/
  | help
  /-- A build. -/
  | build (arguments : BuildArguments)
  /-- Nothing: it is not a command line of the program. -/
  | misuse
deriving DecidableEq, Repr

/-- The values of an option. -/
def valuesOf (given : List Given) (name : OptionName) : List String :=
  (given.filter (·.name == name)).map (·.value)

/-- Whether an option is given. -/
def isGiven (given : List Given) (name : OptionName) : Bool :=
  given.any (·.name == name)

/-- The most workers that may be asked for. -/
def maxJobs : Nat := 32

/-- The text before a decimal point with zeros after it, at least one and nothing else, or else all
of the text. -/
def dropZeroFraction (cs : List Char) : List Char :=
  match cs.dropWhile (· ≠ '.') with
  | '.' :: '0' :: zeros => if zeros.all (· = '0') then cs.takeWhile (· ≠ '.') else cs
  | _ => cs

/-- The text without the zeros at its start and the underscores among and after them. -/
def dropZeros : List Char → List Char
  | '0' :: rest => rest.dropWhile fun c => c = '0' || c = '_'
  | cs => cs

/-- The number of workers that a text asks for, from one to `maxJobs`. It may have a plus sign and
zeros in front and zeros after a decimal point; its digits are those of ASCII. -/
def jobsOf? (text : String) : Option Nat :=
  let body :=
    match Text.trimNumber text.toList with
    | '+' :: rest => rest
    | cs => cs
  let whole := dropZeros (dropZeroFraction body)
  match Text.digitRun? whole with
  | some (digits, []) =>
    let number := Text.ofDigits digits
    if whole.all (fun c => c.isDigit || c = '_') && number ≤ maxJobs then some number else none
  | _ => none

/-- The build that options ask for. -/
def buildOf (given : List Given) : Option BuildArguments := do
  let jobs? ←
    match (valuesOf given .jobs).getLast? with
    | none => some none
    | some text => (jobsOf? text).map some
  some {
    package? := (valuesOf given .package).getLast?
    dependenciesOnly := isGiven given .dependenciesOnly
    auditAll := isGiven given .auditAll
    compilerArguments := valuesOf given .compilerArgument
    backendArguments := valuesOf given .backendArgument
    jobs?
    json := isGiven given .json
    config? := (valuesOf given .config).getLast?
    verbose := isGiven given .verbose
    quiet := isGiven given .quiet }

/-- What the arguments of the command ask for. -/
def readBuild (arguments : List String) : Invocation :=
  match tellApart buildForms true arguments with
  | none => .misuse
  | some { given, others } =>
    if isGiven given .help then .help
    else if others.isEmpty then
      match buildOf given with
      | none => .misuse
      | some build => .build build
    else .misuse

/-- What the options in front of the command ask for: the first one counts. -/
def readProgram? : List Given → Option Invocation
  | [] => none
  | first :: _ => some (if first.name = .version then .version else .help)

/-- What a command line without the command asks for: options in front count even where something
else was read in their place. -/
def readOptionsOnly (arguments : List String) : Invocation :=
  ((tellApart programForms false arguments).bind (readProgram? ·.given)).getD .misuse

/-- What a command line asks for. -/
def readCommandLine (arguments : List String) : Invocation :=
  match tellApart programForms false arguments with
  | none => .misuse
  | some { given, others } =>
    match readProgram? given, others with
    | some invocation, _ => invocation
    | none, [] => .misuse
    | none, command :: rest =>
      if command = "build" then readBuild rest else readOptionsOnly (command :: rest)

end BuildAudit.Command
