import TenderClient.Cli.Help
import TenderClient.Cli.Similar
/-!
# Reading a command line

The words are read from left to right against a built command:

* a word that names a subcommand hands the rest to it (`help` shows the help of the
  subcommand the following words name);
* `--` makes every later word a value;
* `--name` and `--name=value` are long arguments, `-x` a cluster of short flags;
* an option's value is the next word when none is attached;
* any other word is the next positional value.

Values are checked when the argument is complete: when the next argument starts, at `--`,
and at the end. A command that needs a subcommand and got no word at all answers with its
help instead.

Every refusal has a cause, and the usage line and hint the program prints with it.
-/

set_option autoImplicit false

namespace TenderClient.Cli

/-- Why a command line is refused. -/
inductive ParseError where
  /-- An argument no command knows; a similar argument, and hints. -/
  | unknownArgument (arg : String) (similar : Option String) (tips : List String)
  | unrecognizedSubcommand (name : String) (similar : List String)
  | invalidValue (arg value reason : String)
  | emptyValue (arg : String)
  | missingRequired (args : List String)
  | missingSubcommand (path : String) (names : List String)
  | usedTwice (arg : String)
  /-- A value attached to a flag that takes none. -/
  | unexpectedValue (value arg : String)
deriving DecidableEq

/-- A refused command line: the cause, the usage line shown with it, and the help flag the
program points to. -/
structure Refusal where
  cause : ParseError
  usage : Option String := none
  hint : Option String := some "--help"

/-- The first line of a refusal. -/
def ParseError.headline : ParseError → String
  | .unknownArgument arg _ _ => "unexpected argument '" ++ arg ++ "' found"
  | .unrecognizedSubcommand name _ => "unrecognized subcommand '" ++ name ++ "'"
  | .invalidValue arg value reason =>
    "invalid value '" ++ value ++ "' for '" ++ arg ++ "': " ++ reason
  | .emptyValue arg => "a value is required for '" ++ arg ++ "' but none was supplied"
  | .missingRequired args =>
    "the following required arguments were not provided:" ++
      String.join (args.map ("\n  " ++ ·))
  | .missingSubcommand path names =>
    "'" ++ path ++ "' requires a subcommand but one was not provided\n  [subcommands: " ++
      ", ".intercalate names ++ "]"
  | .usedTwice arg => "the argument '" ++ arg ++ "' cannot be used multiple times"
  | .unexpectedValue value arg =>
    "unexpected value '" ++ value ++ "' for '" ++ arg ++ "' found; no more were expected"

/-- The hints below the first line. -/
def ParseError.hints : ParseError → String
  | .unknownArgument _ (some flag) _ => "\n\n  tip: a similar argument exists: '" ++ flag ++ "'"
  | .unknownArgument _ none tips =>
    if tips.isEmpty then "" else "\n" ++ String.join (tips.map ("\n  tip: " ++ ·))
  | .unrecognizedSubcommand _ [name] => "\n\n  tip: a similar subcommand exists: '" ++ name ++ "'"
  | .unrecognizedSubcommand _ [] => ""
  | .unrecognizedSubcommand _ names =>
    "\n\n  tip: some similar subcommands exist: " ++
      ", ".intercalate (names.map fun n => "'" ++ n ++ "'")
  | _ => ""

/-- The text of a refusal. -/
def Refusal.render (r : Refusal) : String :=
  "error: " ++ r.cause.headline ++ r.cause.hints ++
    (r.usage.elim "" fun u => "\n\nUsage: " ++ u) ++
    (r.hint.elim "\n" fun h => "\n\nFor more information, try '" ++ h ++ "'.\n")

/-- Why reading stopped before the command line was understood. -/
inductive Stop where
  /-- Help that was asked for. -/
  | help (text : String)
  /-- Help shown because a command that needs more got nothing. -/
  | helpInstead (text : String)
  | version (text : String)
  | refused (r : Refusal)

/-- A command line understood: the subcommands chosen, and the values of the arguments,
the deepest command's first. -/
structure Parsed where
  commands : List String
  values : List (String × List Value)

namespace Command

/-- The help flag a refusal points to. -/
def hint (c : Command) : Option String :=
  if !c.helpOnly then some "--help" else if !c.subcommands.isEmpty then some "help" else none

/-- A refusal in a command. -/
def refuse (c : Command) (e : ParseError) (usage : Option String) : Stop :=
  .refused { cause := e, usage, hint := c.hint }

end Command

/-- Reading the words of one command. -/
structure Level where
  cmd : Command
  /-- The arguments taken so far with their values, in the order taken. -/
  given : List (String × List Value) := []
  /-- The argument whose words are being collected, and its words. -/
  pending : Option (Arg × List String) := none
  /-- Whether the pending option still waits for its value. -/
  awaiting : Bool := false
  position : Nat := 0
  trailing : Bool := false

namespace Level

/-- Whether an argument was taken. -/
def has (lv : Level) (id : String) : Bool := lv.given.any (·.1 == id)

/-- Takes an argument with its words: the words must be there for an argument that takes
values, an argument taken before may only be taken again when it repeats, and each value
must read. The argument counts as taken even when a value does not read. -/
def take (lv : Level) (a : Arg) (words : List String) : Level × Option ParseError :=
  if a.takesValue && words.isEmpty then (lv, some (.emptyValue a.display))
  else if !a.repeated && lv.has a.id then (lv, some (.usedTwice a.display))
  else
    let pieces := if a.delimited then words.flatMap (·.splitOn ",") else words
    let (values, problem) := pieces.foldl (fun (acc : List Value × Option ParseError) p =>
      match acc.2 with
      | some _ => acc
      | none => match a.kind.read p with
        | .ok v => (acc.1 ++ [v], none)
        | .error reason => (acc.1, some (.invalidValue a.display p reason))) ([], none)
    let values := if a.takesValue then values else [.present]
    let given := match lv.given.find? (·.1 == a.id) with
      | some _ => lv.given.map fun g => if g.1 == a.id then (g.1, g.2 ++ values) else g
      | none => lv.given ++ [(a.id, values)]
    ({ lv with given }, problem)

/-- Completes the pending argument, if any. -/
def settle (lv : Level) : Level × Option ParseError :=
  match lv.pending with
  | none => (lv, none)
  | some (a, words) => take { lv with pending := none, awaiting := false } a words

/-- Completes the pending argument, refusing the command line if it is wrong. -/
def settled (lv : Level) : Except Stop Level :=
  match lv.settle with
  | (lv, none) => .ok lv
  | (lv, some e) => .error (lv.cmd.refuse e (match e with
    | .usedTwice _ => some lv.cmd.usage
    | _ => none))

/-- Takes an argument with its words once the pending one is complete. -/
def taking (lv : Level) (a : Arg) (words : List String) : Except Stop Level := do
  let lv ← lv.settled
  match lv.take a words with
  | (lv, none) => pure lv
  | (lv, some e) => throw (lv.cmd.refuse e (match e with
    | .usedTwice _ => some lv.cmd.usage
    | _ => none))

/-- The identifiers of the arguments taken. -/
def used (lv : Level) : List String := lv.given.map (·.1)

end Level

/-- The help of the command the words name, from a command down. -/
def helpOf (c : Command) : List String → Stop
  | [] => .help c.help
  | n :: rest => match c.find? n with
    | some s => helpOf s rest
    | none => c.refuse (.unrecognizedSubcommand n []) (some c.usage)

/-- Refuses a long argument no command knows: points to a similar one of this command, or
of a subcommand named later on the line, or to `--` when values may follow. -/
def unknownLong (lv : Level) (name : String) (rest : List String) : Stop :=
  let c := lv.cmd
  let lv := lv.settle.1
  let similar := mostSimilar name c.longs
  let viaSub : Option (String × String) := match similar with
    | some _ => none
    | none => c.subcommands.findSome? fun s =>
      match mostSimilar name s.longs with
      | some flag => if rest.contains s.name then some (s.name, flag) else none
      | none => none
  let used := match similar with
    | some flag => match c.findLong? flag with
      | some a => if lv.has a.id then lv.used else lv.used ++ [a.id]
      | none => lv.used
    | none => lv.used
  let arg := "--" ++ name
  let trailingTip :=
    if similar.isNone && !lv.trailing && !c.positionals.isEmpty then
      ["to pass '" ++ arg ++ "' as a value, use '-- " ++ arg ++ "'"]
    else []
  let subTip := match viaSub with
    | some (sub, flag) => ["'" ++ sub ++ " --" ++ flag ++ "' exists"]
    | none => []
  c.refuse (.unknownArgument arg (similar.map ("--" ++ ·)) (trailingTip ++ subTip))
    (some (c.errorUsage used))

/-- Refuses a word that is no argument of the command. -/
def unexpectedWord (lv : Level) (word : String) : Stop :=
  let c := lv.cmd
  if lv.trailing && c.subcommandNames.contains word then
    c.refuse (.unknownArgument word none
      ["subcommand '" ++ word ++ "' exists; to use it, remove the '--' before it"]) (some c.usage)
  else
    let similar := if c.subcommands.isEmpty then [] else similarWords word c.subcommandNames
    if !similar.isEmpty || (!c.subcommands.isEmpty && c.positionals.isEmpty) then
      c.refuse (.unrecognizedSubcommand word similar) (some c.usage)
    else c.refuse (.unknownArgument word none []) (some c.usage)

/-- Whether a word is `--name` or `--name=value`. -/
def longWord? (word : String) : Option (String × Option String) :=
  match word.toList with
  | '-' :: '-' :: rest@(_ :: _) =>
    match rest.span (· != '=') with
    | (name, []) => some (String.ofList name, none)
    | (name, _ :: value) => some (String.ofList name, some (String.ofList value))
  | _ => none

/-- The flags of a word `-xyz`. -/
def shortWord? (word : String) : Option (List Char) :=
  match word.toList with
  | '-' :: rest@(c :: _) => if c == '-' then none else some rest
  | _ => none

/-- Reads the words of one command until a subcommand takes over or the words end. -/
def scan (lv : Level) : List String → Except Stop (Level × Option (Command × List String))
  | [] => pure (lv, none)
  | word :: rest => do
    let c := lv.cmd
    if !lv.trailing then
      if let some sub := c.find? word then
        if sub.helpOnly then throw (helpOf c rest)
        return (lv, some (sub, rest))
      if word == "--" then
        let lv ← lv.settled
        return ← scan { lv with trailing := true } rest
      if let some (name, attached) := longWord? word then
        match c.findLong? name with
        | none => throw (unknownLong lv name rest)
        | some a =>
          match a.shape, attached with
          | .option _, some v => return ← scan (← lv.taking a [v]) rest
          | .option _, none =>
            let lv ← lv.settled
            return ← scan { lv with pending := some (a, []), awaiting := true } rest
          | _, some v =>
            let used := (lv.given.filter fun g =>
              !(c.args.any fun b => b.id == g.1 && b.required)).map (·.1) ++ [a.id]
            throw (c.refuse (.unexpectedValue v a.display) (some (c.errorUsage used)))
          | .help, none => let _ ← lv.settled; throw (.help c.help)
          | .version, none =>
            let _ ← lv.settled
            throw (.version (c.name ++ " " ++ (c.version.getD "") ++ "\n"))
          | _, none => return ← scan (← lv.taking a []) rest
      if let some flags := shortWord? word then
        let first := flags.headD ' '
        match c.findShort? first with
        | some a =>
          match a.shape with
          | .help => let _ ← lv.settled; throw (.help c.help)
          | .version =>
            let _ ← lv.settled
            throw (.version (c.name ++ " " ++ (c.version.getD "") ++ "\n"))
          | _ => return ← scan (← lv.taking a []) rest
        | none =>
          let arg := "-" ++ first.toString
          let tips := if !c.positionals.isEmpty then
              ["to pass '" ++ arg ++ "' as a value, use '-- " ++ arg ++ "'"] else []
          throw (c.refuse (.unknownArgument arg none tips) (some c.usage))
      if lv.awaiting then
        match lv.pending with
        | some (a, words) =>
          return ← scan { lv with pending := some (a, words ++ [word]), awaiting := false } rest
        | none => pure ()
    match c.positionals[lv.position]? with
    | some p =>
      match lv.pending with
      | some (q, words) =>
        if p.repeated && q.id == p.id then
          return ← scan { lv with pending := some (q, words ++ [word]) } rest
        else
          let lv ← lv.settled
          scan { lv with pending := some (p, [word]),
                         position := if p.repeated then lv.position else lv.position + 1 } rest
      | none =>
        scan { lv with pending := some (p, [word]),
                       position := if p.repeated then lv.position else lv.position + 1 } rest
    | none => throw (unexpectedWord lv.settle.1 word)

/-- Completes the reading of a command: the pending argument, the subcommand a command
needs, the positional values it requires, and the defaults of the options not given. -/
def finish (lv : Level) (chose : Bool) : Except Stop Level := do
  let lv ← lv.settled
  let c := lv.cmd
  if !chose && !c.subcommands.isEmpty then
    if lv.given.isEmpty then throw (.helpInstead c.help)
    throw (c.refuse (.missingSubcommand c.path c.subcommandNames) (some c.usage))
  let missing := c.positionals.filter fun p => p.required && !lv.has p.id
  if !missing.isEmpty then
    throw (c.refuse (.missingRequired (missing.map (·.display)))
      (some (c.errorUsage (lv.used ++ missing.map (·.id)))))
  let defaults := c.args.filterMap fun a =>
    match a.default with
    | some d =>
      if lv.has a.id then none
      else match a.kind.read d with
        | .ok v => some (a.id, [v])
        | .error _ => none
    | none => none
  pure { lv with given := lv.given ++ defaults }

/-- Reads the words of a command and of the subcommands they choose. -/
def readCommand : Nat → Command → List String → Except Stop Parsed
  | 0, _, _ => throw (.refused { cause := .missingRequired [] })
  | fuel + 1, c, words => do
    let (lv, sub) ← scan { cmd := c } words
    match sub with
    | none =>
      let lv ← finish lv false
      pure { commands := [], values := lv.given }
    | some (s, rest) =>
      let below ← readCommand fuel s rest
      let lv ← finish lv true
      pure { commands := s.name :: below.commands,
             values := below.values ++ lv.given.filter fun g => !below.values.any (·.1 == g.1) }

/-- Reads a command line against a program's built command. -/
def Command.read (c : Command) (words : List String) : Except Stop Parsed :=
  readCommand (words.length + 1) c words

namespace Parsed

/-- The values of an argument. -/
def get (p : Parsed) (id : String) : List Value := ((p.values.find? (·.1 == id)).map (·.2)).getD []

/-- The text of an argument, if given. -/
def text? (p : Parsed) (id : String) : Option String :=
  (p.get id).findSome? fun v => match v with
    | .text s => some s
    | _ => none

/-- The identifier of an argument, if given. -/
def ident? (p : Parsed) (id : String) : Option Ident :=
  (p.get id).findSome? fun v => match v with
    | .ident i => some i
    | _ => none

/-- All identifiers given for an argument. -/
def idents (p : Parsed) (id : String) : List Ident :=
  (p.get id).filterMap fun v => match v with
    | .ident i => some i
    | _ => none

/-- The switch of an argument, if given. -/
def switch? (p : Parsed) (id : String) : Option Bool :=
  (p.get id).findSome? fun v => match v with
    | .switch b => some b
    | _ => none

/-- The count of an argument, if given. -/
def count? (p : Parsed) (id : String) : Option Nat :=
  (p.get id).findSome? fun v => match v with
    | .count n => some n
    | _ => none

/-- Whether a flag was given. -/
def flag (p : Parsed) (id : String) : Bool := !(p.get id).isEmpty

end Parsed

end TenderClient.Cli
