import EntitySchema.CommandLine.Spec
import EntitySchema.CommandLine.Similar

/-!
# Reading a command line

The arguments of a command are read left to right. `--name` and `--name=value` give an option
by its long name, `-abc` gives options by their short names, one after the other, and a short
option that takes a value takes the rest of the word, after an optional `=`, or else the next
word. Any other word is a value of the positional argument, or, for a command with
subcommands, the name of the subcommand that reads the rest. After `--` every word is a value.

Values are collected first and checked when the next option is met or the words run out: a
missing or empty value, and an option given twice, are refused then. A word that names no
option is refused with the most similar option name, when one is similar enough.
-/

namespace EntitySchema.CommandLine

/-- A refusal of the command line: the message, hints, and the usage line to show. -/
structure UsageError where
  message : String
  tips : List String
  usage : Option String
  /-- Whether to point at `--help`. -/
  offersHelp : Bool

/-- The text of a refusal as it is printed. -/
def UsageError.text (e : UsageError) : String :=
  "error: " ++ e.message ++
    (if e.tips.isEmpty then "" else "\n\n" ++ "\n".intercalate (e.tips.map ("  tip: " ++ ·))) ++
    (match e.usage with
      | some u => "\n\nUsage: " ++ u
      | none => "") ++
    (if e.offersHelp then "\n\nFor more information, try '--help'.\n" else "\n")

/-- Why reading stopped before a command could run. -/
inductive Stop where
  /-- The command line was refused; the text goes to standard error. -/
  | refused (text : String)
  /-- A page was asked for; the text goes to standard output. -/
  | shown (text : String)
  /-- Nothing was given; the help page goes to standard error. -/
  | helpNeeded (text : String)
  deriving Repr, BEq

/-- What was given to one command. -/
structure Matches where
  /-- The ids of the options and of the positional argument given, in the order first given. -/
  given : List String
  /-- Every group of values given, by id. -/
  values : List (String × List String)
  deriving Repr, BEq

namespace Matches

def empty : Matches := { given := [], values := [] }

def has (m : Matches) (id : String) : Bool := m.given.contains id

def valuesOf (m : Matches) (id : String) : List String :=
  (m.values.filter (·.1 == id)).flatMap (·.2)

def value? (m : Matches) (id : String) : Option String := (m.valuesOf id).head?

def add (m : Matches) (id : String) (vals : List String) : Matches :=
  { given := if m.given.contains id then m.given else m.given ++ [id],
    values := m.values ++ [(id, vals)] }

end Matches

/-- Values collected for an option or the positional argument, not checked yet. -/
structure Pending where
  id : String
  values : List String

/-- Where reading one command stands. -/
structure ReadState where
  seen : Matches
  pending : Option Pending
  /-- The option whose value is the next word, if any. -/
  awaiting : Option String
  /-- Whether `--` was met. -/
  trailing : Bool

def ReadState.initial : ReadState :=
  { seen := .empty, pending := none, awaiting := none, trailing := false }

namespace CommandSpec

def emptyValue (c : CommandSpec) (shown : String) : UsageError :=
  { message := "a value is required for '" ++ shown ++ "' but none was supplied", tips := [],
    usage := none, offersHelp := c.offersHelp }

def givenTwice (c : CommandSpec) (shown : String) : UsageError :=
  { message := "the argument '" ++ shown ++ "' cannot be used multiple times", tips := [],
    usage := some c.usage, offersHelp := c.offersHelp }

/-- The hint that a word meant as a value must follow `--`. -/
def valueTip (word : String) : String :=
  "to pass '" ++ word ++ "' as a value, use '-- " ++ word ++ "'"

/-- Checks collected values and records them. The state returned counts the id as given even
when its value is refused, as long as the number of values was right. -/
def commit (c : CommandSpec) (s : ReadState) (p : Pending) : ReadState × Option UsageError :=
  let positional := match c.positional with
    | some pos => if pos.id == p.id then some pos else none
    | none => none
  match positional with
  | some pos =>
    let s := { s with seen := s.seen.add p.id p.values }
    if pos.refusesEmpty && p.values.any (·.isEmpty) then (s, some (c.emptyValue pos.display))
    else (s, none)
  | none =>
    match c.findId p.id with
    | none => (s, none)
    | some o =>
      let acceptsEmpty := match o.action with
        | .value _ e => e
        | _ => true
      if p.values.isEmpty then (s, some (c.emptyValue o.display))
      else if s.seen.has o.id then (s, some (c.givenTwice o.display))
      else
        let s := { s with seen := s.seen.add p.id p.values }
        if !acceptsEmpty && p.values.any (·.isEmpty) then (s, some (c.emptyValue o.display))
        else (s, none)

def resolve (c : CommandSpec) (s : ReadState) : ReadState × Option UsageError :=
  match s.pending with
  | none => (s, none)
  | some p => c.commit { s with pending := none, awaiting := none } p

def settle (c : CommandSpec) (s : ReadState) : Except Stop ReadState :=
  match c.resolve s with
  | (s, none) => .ok s
  | (_, some e) => .error (.refused e.text)

/-- An option met on the command line with the values attached to it. -/
def giveOption (c : CommandSpec) (version : String) (s : ReadState) (o : OptionSpec)
    (attached : Option String) : Except Stop ReadState := do
  let s ← c.settle s
  match o.action, attached with
  | .value .., some v =>
    match c.commit s { id := o.id, values := [v] } with
    | (s, none) => return s
    | (_, some e) => throw (.refused e.text)
  | .value .., none =>
    return { s with pending := some { id := o.id, values := [] }, awaiting := some o.id }
  | .flag, _ =>
    if s.seen.has o.id then throw (.refused (c.givenTwice o.display).text)
    return { s with seen := s.seen.add o.id [] }
  | .showHelp, _ => throw (.shown c.help)
  | .showVersion, _ => throw (.shown version)

/-- The refusal of a value attached to an option that takes none. The usage line names what
was recorded before the option, values still being collected left out; once one of the
command's own arguments was recorded, it names the command's group as a whole. -/
def unexpectedValue (c : CommandSpec) (s : ReadState) (o : OptionSpec) (v : String) :
    UsageError :=
  { message := "unexpected value '" ++ v ++ "' for '" ++ o.display ++
      "' found; no more were expected",
    tips := [],
    usage := some (c.usageGiven (s.seen.given ++ [o.id]) (s.seen.given.any c.ownArgs.contains)),
    offersHelp := c.offersHelp }

/-- The refusal of `--name` that names no option. The most similar long name is suggested; a
command with subcommands also looks in the subcommands named later on the line. -/
def unknownLong (c : CommandSpec) (subLongs : List (String × List String)) (s : ReadState)
    (name : String) (rest : List String) : UsageError :=
  let (s, _) := c.resolve s
  let own := mostSimilar? name c.longOrder
  let inSub : Option (String × String) :=
    let found := subLongs.filterMap fun (sub, longs) =>
      match mostSimilar? name longs, rest.idxOf? sub with
      | some l, some place => some (place, l, sub)
      | _, _ => none
    let best := found.foldl (fun (acc : Option (Nat × String × String)) e =>
      match acc with
      | some a => if e.1 < a.1 then some e else some a
      | none => some e) none
    best.map fun (_, l, sub) => (l, sub)
  let given := match own.bind c.findLong with
    | some o => if s.seen.has o.id then s.seen.given else s.seen.given ++ [o.id]
    | none => s.seen.given
  let word := "--" ++ name
  let ownTip := match own with
    | some l => ["a similar argument exists: '--" ++ l ++ "'"]
    | none => []
  let suggested := own.isSome || inSub.isSome
  let valueTips :=
    if !suggested && !s.trailing && c.positional.isSome then [valueTip word] else []
  let subTip := match own, inSub with
    | none, some (l, sub) => ["'" ++ sub ++ " --" ++ l ++ "' exists"]
    | _, _ => []
  { message := "unexpected argument '" ++ word ++ "' found",
    tips := ownTip ++ valueTips ++ subTip, usage := some (c.usageAfter given),
    offersHelp := c.offersHelp }

/-- The refusal of `-x` that names no option. -/
def unknownShort (c : CommandSpec) (s : ReadState) (x : Char) : UsageError :=
  let word := "-" ++ x.toString
  { message := "unexpected argument '" ++ word ++ "' found",
    tips := if !s.trailing && c.positional.isSome then [valueTip word] else [],
    usage := some c.usage, offersHelp := c.offersHelp }

/-- Reads the options of a word `-abc`, one after the other. -/
def giveShorts (c : CommandSpec) (version : String) :
    ReadState → List Char → Except Stop ReadState
  | s, [] => .ok s
  | s, x :: rest =>
    match c.findShort x with
    | none =>
      let (s, _) := c.resolve s
      .error (.refused (c.unknownShort s x).text)
    | some o =>
      match o.action with
      | .value .. =>
        let attached := match rest with
          | [] => none
          | '=' :: v => some (String.ofList v)
          | v => some (String.ofList v)
        c.giveOption version s o attached
      | _ => do
        let s ← c.giveOption version s o none
        giveShorts c version s rest

/-- Reads a word `--name` or `--name=value`. -/
def giveLong (c : CommandSpec) (version : String) (subLongs : List (String × List String))
    (s : ReadState) (body : String) (rest : List String) : Except Stop ReadState :=
  let (name, attached) := match body.splitOn "=" with
    | [] => (body, none)
    | [n] => (n, none)
    | n :: vs => (n, some ("=".intercalate vs))
  match c.findLong name with
  | none => .error (.refused (c.unknownLong subLongs s name rest).text)
  | some o =>
    match o.action, attached with
    | .value .., _ => c.giveOption version s o attached
    | _, some v => .error (.refused (c.unexpectedValue s o v).text)
    | _, none => c.giveOption version s o none

/-- Records a value of the positional argument. -/
def givePositional (c : CommandSpec) (s : ReadState) (pos : PositionalSpec) (word : String) :
    Except Stop ReadState :=
  match s.pending with
  | some p =>
    if p.id == pos.id then .ok { s with pending := some { p with values := p.values ++ [word] } }
    else do
      let s ← c.settle s
      return { s with pending := some { id := pos.id, values := [word] } }
  | none => .ok { s with pending := some { id := pos.id, values := [word] } }

/-- The refusal of a word that is neither an option nor a value, for a command whose words
name subcommands. -/
def unknownWord (c : CommandSpec) (s : ReadState) (word : String) : UsageError :=
  let names := c.subcommands.map (·.1)
  if s.trailing && names.contains word then
    { message := "unexpected argument '" ++ word ++ "' found",
      tips := ["subcommand '" ++ word ++ "' exists; to use it, remove the '--' before it"],
      usage := some c.usage, offersHelp := c.offersHelp }
  else
    let similar := if names.isEmpty then [] else similarNames word names
    let tips := match similar with
      | [] => []
      | [one] => ["a similar subcommand exists: '" ++ one ++ "'"]
      | many => ["some similar subcommands exist: " ++ ", ".intercalate (many.map fun n => "'" ++ n ++ "'")]
    if !names.isEmpty || c.positional.isNone then
      { message := "unrecognized subcommand '" ++ word ++ "'", tips, usage := some c.usage,
        offersHelp := c.offersHelp }
    else
      { message := "unexpected argument '" ++ word ++ "' found", tips := [],
        usage := some c.usage, offersHelp := c.offersHelp }

end CommandSpec

/-- What reading one word did. -/
inductive Step where
  | next (s : ReadState)
  /-- The word names a subcommand, which reads the rest. -/
  | enter (name : String)
  | stop (why : Stop)

namespace CommandSpec

/-- Reads one word; `rest` are the words after it. -/
def step (c : CommandSpec) (version : String) (subLongs : List (String × List String))
    (s : ReadState) (word : String) (rest : List String) : Step :=
  let lift (r : Except Stop ReadState) : Step := match r with
    | .ok s => .next s
    | .error why => .stop why
  let asValue : Step :=
    match s.awaiting, s.pending with
    | some _, some p =>
      if !s.trailing then
        .next { s with pending := some { p with values := p.values ++ [word] },
                       awaiting := none }
      else
        match c.positional with
        | some pos => lift (c.givePositional s pos word)
        | none => .stop (.refused (c.unknownWord s word).text)
    | _, _ =>
      match c.positional with
      | some pos => lift (c.givePositional s pos word)
      | none =>
        let (s, _) := c.resolve s
        .stop (.refused (c.unknownWord s word).text)
  if s.trailing then asValue
  else if s.awaiting.isNone && c.subcommands.any (·.1 == word) then .enter word
  else if word == "--" then .next { s with trailing := true }
  else if word.startsWith "--" then lift (c.giveLong version subLongs s (word.drop 2).toString rest)
  else if word.startsWith "-" && word.length > 1 then
    lift (c.giveShorts version s (word.toList.drop 1))
  else asValue

/-- What reading a command's words ended in. -/
inductive Reading where
  | done (m : Matches)
  | enter (m : Matches) (name : String) (rest : List String)
  | stop (why : Stop)

/-- Reads the words of a command. -/
def read (c : CommandSpec) (version : String) (subLongs : List (String × List String)) :
    ReadState → List String → Reading
  | s, [] =>
    match c.resolve s with
    | (s, none) => .done s.seen
    | (_, some e) => .stop (.refused e.text)
  | s, word :: rest =>
    match c.step version subLongs s word rest with
    | .next s => read c version subLongs s rest
    | .enter name => .enter s.seen name rest
    | .stop why => .stop why

end CommandSpec

end EntitySchema.CommandLine
