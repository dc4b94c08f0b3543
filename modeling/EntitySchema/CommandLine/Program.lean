import EntitySchema.CommandLine.Parse
import EntitySchema.Command.Check

/-!
# The program's command line

The program takes `--debug` anywhere and one of three subcommands: `generate` writes models,
`check` reports on schemas, and `help` prints the help page of the program or of a subcommand.
Reading the command line either yields a command to run or stops with a page or a refusal;
a refusal exits with status 2, a command that fails with status 1 after printing what went
wrong and its causes.
-/

namespace EntitySchema.CommandLine

open EntitySchema.Workspace EntitySchema.Command EntitySchema.Project

def versionText : String := "modelgen 0.1.0\n"

def debugOption : OptionSpec :=
  { id := "debug", long := "debug", short := none, action := .flag,
    help := "Enable debug logging" }

def helpOption : OptionSpec :=
  { id := "help", long := "help", short := some 'h', action := .showHelp, help := "Print help" }

def versionOption : OptionSpec :=
  { id := "version", long := "version", short := some 'V', action := .showVersion,
    help := "Print version" }

def pathsArgument : PositionalSpec :=
  { id := "paths", valueName := "PATHS", help := "Schema files or directories of *.json files",
    refusesEmpty := true }

def configOption : OptionSpec :=
  { id := "config", long := "config", short := some 'c', action := .value "CONFIG" false,
    help := "Path to modelgen.yaml or its directory" }

def shadowingOption : OptionSpec :=
  { id := "allow_shadowing", long := "allow-shadowing", short := none, action := .flag,
    help := "Let derived entities redeclare inherited fields" }

def outputOption (id long valueName help : String) : OptionSpec :=
  { id, long, short := none, action := .value valueName false, help }

/-- The `generate` subcommand. -/
def generateSpec : CommandSpec :=
  { name := "generate", usageName := "modelgen generate",
    about := "Resolve schemas and write model sources",
    positional := some pathsArgument,
    options := [
      outputOption "cpp_path" "cpp-path" "CPP_PATH" "Output directory for C++ headers",
      debugOption,
      outputOption "cs_path" "cs-path" "CS_PATH" "Output directory for C# sources",
      outputOption "java_path" "java-path" "JAVA_PATH" "Output directory for Java sources",
      outputOption "rust_path" "rust-path" "RUST_PATH" "Output directory for Rust sources",
      shadowingOption,
      { id := "namespace", long := "namespace", short := none,
        action := .value "NAMESPACE" true,
        help := "Namespace or package for declarations that name none" },
      { id := "no_timestamp", long := "no-timestamp", short := none, action := .flag,
        help := "Leave the creation date out of generated headers" },
      configOption, helpOption],
    longOrder := ["cpp-path", "cs-path", "java-path", "rust-path", "allow-shadowing",
      "namespace", "no-timestamp", "config", "debug", "help"],
    subcommands := [], requiresSubcommand := false, offersHelp := true,
    ownArgs := ["paths", "cpp_path", "cs_path", "java_path", "rust_path", "allow_shadowing",
      "namespace", "no_timestamp", "config"] }

/-- The `check` subcommand. -/
def checkSpec : CommandSpec :=
  { name := "check", usageName := "modelgen check",
    about := "Resolve schemas and report errors without writing anything",
    positional := some pathsArgument,
    options := [debugOption,
      { id := "json", long := "json", short := none, action := .flag,
        help := "Print the report as JSON" },
      shadowingOption, configOption, helpOption],
    longOrder := ["json", "allow-shadowing", "config", "debug", "help"],
    subcommands := [], requiresSubcommand := false, offersHelp := true,
    ownArgs := ["paths", "json", "allow_shadowing", "config"] }

def helpAbout : String := "Print this message or the help of the given subcommand(s)"

def commandsArgument : PositionalSpec :=
  { id := "subcommand", valueName := "COMMAND", help := "Print help for the subcommand(s)",
    refusesEmpty := false }

/-- The `help` subcommand. -/
def helpSpec : CommandSpec :=
  { name := "help", usageName := "modelgen help", about := helpAbout,
    positional := some commandsArgument,
    options := [], longOrder := [],
    subcommands := [], requiresSubcommand := false, offersHelp := false }

def subcommandSpecs : List CommandSpec := [generateSpec, checkSpec, helpSpec]

/-- The program itself. -/
def programSpec : CommandSpec :=
  { name := "modelgen", usageName := "modelgen",
    about := "Generate C++, C#, Java and Rust data models from JSON entity schemas",
    positional := none, options := [debugOption, helpOption, versionOption],
    longOrder := ["debug", "help", "version"],
    subcommands := subcommandSpecs.map fun c => (c.name, c.about),
    requiresSubcommand := true, offersHelp := true }

/-- A command ready to run. -/
inductive Invocation where
  | generate (c : GenerateCommand)
  | check (c : CheckCommand)
  deriving Repr, BEq

/-- The `generate` command the given options describe. -/
def generateOf (m : Matches) : GenerateCommand :=
  { paths := m.valuesOf "paths",
    outputs := { cpp := m.value? "cpp_path", csharp := m.value? "cs_path",
                 java := m.value? "java_path", rust := m.value? "rust_path" },
    allowShadowing := m.has "allow_shadowing", namespaceName := m.value? "namespace",
    noTimestamp := m.has "no_timestamp", config := m.value? "config" }

def checkOf (m : Matches) : CheckCommand :=
  { paths := m.valuesOf "paths", json := m.has "json",
    allowShadowing := m.has "allow_shadowing", config := m.value? "config" }

def unknownSubcommand (c : CommandSpec) (word : String) : Stop :=
  .refused ({ message := "unrecognized subcommand '" ++ word ++ "'", tips := [],
              usage := some c.usage, offersHelp := c.offersHelp } : UsageError).text

/-- What `help` followed by the given words prints. -/
def helpPage (words : List String) : Stop :=
  match words with
  | [] => .shown programSpec.help
  | name :: more =>
    match subcommandSpecs.find? (·.name == name) with
    | none => unknownSubcommand programSpec name
    | some c =>
      match more with
      | [] => .shown c.help
      | word :: _ => unknownSubcommand c word

def missingSubcommand : Stop :=
  .refused ({ message := "'modelgen' requires a subcommand but one was not provided\n" ++
                "  [subcommands: " ++ ", ".intercalate (subcommandSpecs.map (·.name)) ++ "]",
              tips := [], usage := some programSpec.usage, offersHelp := true } : UsageError).text

/-- Reads the program's arguments into the command they ask for. -/
def parseArguments (args : List String) : Except Stop Invocation :=
  let subLongs := subcommandSpecs.map fun c => (c.name, c.longOrder)
  match programSpec.read versionText subLongs .initial args with
  | .stop why => .error why
  | .done m => if m.given.isEmpty then .error (.helpNeeded programSpec.help)
               else .error missingSubcommand
  | .enter _ name rest =>
    if name == helpSpec.name then .error (helpPage rest)
    else
      let c := if name == checkSpec.name then checkSpec else generateSpec
      match c.read versionText [] .initial rest with
      | .stop why => .error why
      | .done m | .enter m _ _ =>
        if name == checkSpec.name then .ok (.check (checkOf m)) else .ok (.generate (generateOf m))

variable {m : Type → Type} [Monad m] [Host m]

def Invocation.execute : Invocation → ExceptT Failure m Unit
  | .generate c => c.execute
  | .check c => c.execute

/-- Runs the program on its arguments and gives its exit status. -/
def runProgram (args : List String) : m Nat := do
  match parseArguments args with
  | .error (.shown text) => Host.putOut text; return 0
  | .error (.refused text) => Host.putErr text; return 2
  | .error (.helpNeeded text) => Host.putErr text; return 2
  | .ok command =>
    match ← (command.execute : ExceptT Failure m Unit).run with
    | .ok () => return 0
    | .error f => Host.putErr ("Error: " ++ f.report ++ "\n"); return 1

end EntitySchema.CommandLine
