/-!
# Describing a command line

A command is described by data: its name and one-line description, the options it takes, the
positional argument it collects and the commands under it. The same description drives the
parser, the help page, the usage line and the error messages, so they cannot drift apart.

An option is shown in messages as `--name` followed by `<VALUE>` when it takes a value; the
positional argument, which collects any number of values, as `[VALUE]...`. The help page lists
commands, arguments and options in sections whose second column starts two blanks after the
longest entry of the section.
-/

namespace EntitySchema.CommandLine

/-- What giving an option does. -/
inductive OptionAction where
  /-- Switches something on; it may be given once. -/
  | flag
  /-- Takes one value, shown as `<name>`; an empty value is refused unless it is text. -/
  | value (name : String) (acceptsEmpty : Bool)
  /-- Prints the help page and stops. -/
  | showHelp
  /-- Prints the program's name and version and stops. -/
  | showVersion
  deriving Repr, BEq

/-- An option, named by `--long` and maybe by `-s`. -/
structure OptionSpec where
  id : String
  long : String
  short : Option Char
  action : OptionAction
  help : String
  deriving Repr, BEq

/-- The positional argument of a command: any number of values. -/
structure PositionalSpec where
  id : String
  valueName : String
  help : String
  /-- Whether an empty value is refused. -/
  refusesEmpty : Bool
  deriving Repr, BEq

/-- A command: the program itself or one of its subcommands. -/
structure CommandSpec where
  name : String
  /-- How the usage line starts: the program's name and the command's. -/
  usageName : String
  about : String
  positional : Option PositionalSpec
  /-- The options in the order the help page lists them. -/
  options : List OptionSpec
  /-- The long names in the order they are looked up, which settles ties between equally
  similar suggestions. -/
  longOrder : List String
  /-- The names and descriptions of the subcommands. -/
  subcommands : List (String × String)
  /-- Whether the command must be followed by a subcommand. -/
  requiresSubcommand : Bool
  /-- Whether `--help` is offered. -/
  offersHelp : Bool
  /-- The ids of the arguments the command declares itself, in the order declared, the options
  every command shares left out. Together they form a group that a usage line can name as a
  whole. -/
  ownArgs : List String := []
  deriving Repr, BEq

/-- How an option appears in messages: `--long`, then `<VALUE>` when it takes one. -/
def OptionSpec.display (o : OptionSpec) : String :=
  match o.action with
  | .value name _ => "--" ++ o.long ++ " <" ++ name ++ ">"
  | _ => "--" ++ o.long

def PositionalSpec.display (p : PositionalSpec) : String := "[" ++ p.valueName ++ "]..."

/-- How the positional argument appears in a usage line once values were given for it. -/
def PositionalSpec.givenDisplay (p : PositionalSpec) : String := "<" ++ p.valueName ++ ">..."

def padTo (width : Nat) (s : String) : String :=
  s ++ String.ofList (List.replicate (width - s.length) ' ')

/-- A section of a help page: a heading and rows of two columns, the second column two blanks
after the longest first column. -/
def helpSection (heading : String) (rows : List (String × String)) : String :=
  let width := rows.foldl (fun w r => max w r.1.length) 0
  heading ++ "\n" ++ "\n".intercalate (rows.map fun (l, r) => "  " ++ padTo (width + 2) l ++ r)

/-- The left column of an option's row: `-s, ` or four blanks, then how it appears. -/
def OptionSpec.row (o : OptionSpec) : String × String :=
  let lead := match o.short with
    | some c => "-" ++ c.toString ++ ", "
    | none => "    "
  (lead ++ o.display, o.help)

namespace CommandSpec

def findLong (c : CommandSpec) (long : String) : Option OptionSpec :=
  c.options.find? (·.long == long)

def findShort (c : CommandSpec) (short : Char) : Option OptionSpec :=
  c.options.find? (·.short == some short)

def findId (c : CommandSpec) (id : String) : Option OptionSpec :=
  c.options.find? (·.id == id)

/-- Whether the usage line shows `[OPTIONS]`: some option besides help and version is
offered. -/
def showsOptions (c : CommandSpec) : Bool :=
  c.options.any fun o => match o.action with
    | .showHelp | .showVersion => false
    | _ => true

/-- The usage line: the command, `[OPTIONS]`, the positional argument and the subcommand. -/
def usage (c : CommandSpec) : String :=
  c.usageName ++ (if c.showsOptions then " [OPTIONS]" else "") ++
    (match c.positional with
      | some p => " " ++ p.display
      | none => "") ++
    (if c.subcommands.isEmpty then ""
     else if c.requiresSubcommand then " <COMMAND>" else " [COMMAND]")

/-- How an argument of the command appears in its group: the value name of the positional
argument, or the option as in messages. -/
def argDisplay? (c : CommandSpec) (id : String) : Option String :=
  match c.positional with
  | some p => if p.id == id then some p.valueName else (c.findId id).map (·.display)
  | none => (c.findId id).map (·.display)

def groupDisplay (c : CommandSpec) : String :=
  "<" ++ "|".intercalate (c.ownArgs.filterMap c.argDisplay?) ++ ">"

/-- The usage line naming what was given so far: the options given, then the command's group
when `wholeGroup` is set (its members are then not named one by one), then the positional
argument (shown as required when values were given for it), then the subcommand when one is
required. -/
def usageGiven (c : CommandSpec) (given : List String) (wholeGroup : Bool) : String :=
  let inGroup (id : String) : Bool := wholeGroup && c.ownArgs.contains id
  let options := ((given.filter fun id => !inGroup id).filterMap c.findId).map (·.display)
  let options := options.foldl (fun acc o => if acc.contains o then acc else acc ++ [o]) []
  let group := if wholeGroup then [c.groupDisplay] else []
  let positional := match c.positional with
    | some p =>
      if inGroup p.id then []
      else [if given.contains p.id then p.givenDisplay else p.display]
    | none => []
  c.usageName ++ String.join ((options ++ group ++ positional).map (" " ++ ·)) ++
    (if c.requiresSubcommand then " <COMMAND>" else "")

/-- The usage line after some arguments were given: the plain one when none was. -/
def usageAfter (c : CommandSpec) (given : List String) : String :=
  if given.isEmpty then c.usage else c.usageGiven given false

/-- The help page: the description, the usage line and the sections. -/
def help (c : CommandSpec) : String :=
  let commands := if c.subcommands.isEmpty then [] else [helpSection "Commands:" c.subcommands]
  let arguments := match c.positional with
    | some p => [helpSection "Arguments:" [(p.display, p.help)]]
    | none => []
  let options := if c.options.isEmpty then [] else [helpSection "Options:" (c.options.map (·.row))]
  c.about ++ "\n\nUsage: " ++ c.usage ++ "\n\n" ++
    "\n\n".intercalate (commands ++ arguments ++ options) ++ "\n"

end CommandSpec

end EntitySchema.CommandLine
