import TenderClient.Ident
/-!
# Command-line grammars

A command has a name, a one-line description, arguments and subcommands. An argument is a
flag (`--json`), an option with a value (`--add <ADD>`), a positional value (`<TENDER>`),
or one of the two flags that ask for help and for the version. Values are read as they are
given: text, an identifier, an on/off switch, or a count of seconds.

A built command knows the words that lead to it (`tenderwatch followers edit`), carries
the global options of the commands above it, a help flag, and, when it has subcommands, a
`help` subcommand. Each option has a place in the help: options declared by a command are
numbered from zero in their order, global ones keep the number they have where they are
declared, and the help and version flags come last.
-/

set_option autoImplicit false

namespace TenderClient.Cli

/-- How the values of an argument are read. -/
inductive ValueKind where
  | text
  | ident
  /-- `on`, `true`, `yes` or `off`, `false`, `no`, in any case. -/
  | switch
  /-- An unsigned 64-bit count. -/
  | count
deriving DecidableEq, Repr

/-- A value read from the command line. -/
inductive Value where
  | text (s : String)
  | ident (i : Ident)
  | switch (b : Bool)
  | count (n : Nat)
  /-- A flag that was given. -/
  | present
deriving DecidableEq

/-- What kind of argument an argument is. -/
inductive ArgShape where
  | flag
  | option (valueName : String)
  | positional (valueName : String)
  | help
  | version
deriving DecidableEq, Repr

/-- An argument of a command. -/
structure Arg where
  id : String
  shape : ArgShape
  long : Option String := none
  short : Option Char := none
  help : String := ""
  kind : ValueKind := .text
  required : Bool := false
  /-- Whether the argument may be given more than once, its values collected. -/
  repeated : Bool := false
  /-- Whether one value holds several, separated by commas. -/
  delimited : Bool := false
  default : Option String := none
  /-- Whether the argument is also an argument of every subcommand. -/
  global : Bool := false
  /-- The place of the argument in the help. -/
  order : Nat := 999
deriving Repr

/-- A command of a command-line program. -/
structure Command where
  name : String
  about : String
  args : List Arg := []
  subcommands : List Command := []
  version : Option String := none
  /-- The words that lead to the command, the program's name first. -/
  path : String := ""
  /-- Whether the command only shows the help of other commands. -/
  helpOnly : Bool := false

namespace Arg

/-- Whether the argument is a positional value. -/
def isPositional (a : Arg) : Bool :=
  match a.shape with
  | .positional _ => true
  | _ => false

/-- Whether the argument takes a value. -/
def takesValue (a : Arg) : Bool :=
  match a.shape with
  | .option _ | .positional _ => true
  | _ => false

/-- The value placeholder of a positional value: `<NAME>` when required, `[NAME]`
otherwise, and `...` after it when it repeats. -/
def placeholder (a : Arg) (required : Bool) : String :=
  match a.shape with
  | .positional v | .option v =>
    (if a.isPositional && !required then "[" ++ v ++ "]" else "<" ++ v ++ ">") ++
      (if a.isPositional && a.repeated then "..." else "")
  | _ => ""

/-- The name of the flag: `--long`, or `-s` without a long name. -/
def flagName (a : Arg) : String :=
  match a.long, a.short with
  | some l, _ => "--" ++ l
  | none, some s => "-" ++ s.toString
  | none, none => ""

/-- The argument as errors and the help name it: `--add <ADD>`, `--json`, `<TENDER>`. -/
def display (a : Arg) : String :=
  match a.shape with
  | .positional _ => a.placeholder a.required
  | .option _ => a.flagName ++ " " ++ a.placeholder true
  | _ => a.flagName

end Arg

/-- Reads an unsigned 64-bit count: an optional `+`, then decimal digits. An empty text, a
character that is no digit and a number past 64 bits are refused, each with its reason,
checked from left to right. -/
def readCount (s : String) : Except String Nat :=
  let digits := match s.toList with
    | ['+'] => none
    | '+' :: rest => some rest
    | cs => some cs
  if s.isEmpty then .error "cannot parse integer from empty string"
  else match digits with
    | none => .error "invalid digit found in string"
    | some ds =>
      ds.foldlM (fun acc c =>
        if !c.isDigit then .error "invalid digit found in string"
        else
          let n := acc * 10 + (c.toNat - 48)
          if n ≥ Nat.pow 2 64 then .error "number too large to fit in target type" else .ok n) 0

/-- Reads an on/off switch. -/
def readSwitch (s : String) : Except String Bool :=
  let lower := s.toLower
  if lower == "on" || lower == "true" || lower == "yes" then .ok true
  else if lower == "off" || lower == "false" || lower == "no" then .ok false
  else .error ("unknown switch '" ++ lower ++ "'; expected: on, off")

/-- Reads one value of an argument, or says why it is not one. -/
def ValueKind.read : ValueKind → String → Except String Value
  | .text, s => .ok (.text s)
  | .ident, s => match Ident.ofText s with
    | .ok i => .ok (.ident i)
    | .error e => .error e.message
  | .switch, s => (readSwitch s).map .switch
  | .count, s => (readCount s).map .count

namespace Command

/-- The flag that asks for help. -/
def helpFlag : Arg :=
  { id := "help", shape := .help, long := some "help", short := some 'h', help := "Print help" }

/-- The flag that asks for the version. -/
def versionFlag : Arg :=
  { id := "version", shape := .version, long := some "version", short := some 'V',
    help := "Print version" }

/-- The subcommand that shows the help of others. -/
def helpCommand (path : String) : Command :=
  { name := "help", about := "Print this message or the help of the given subcommand(s)",
    args := [{ id := "subcommand", shape := .positional "COMMAND", repeated := true,
               help := "Print help for the subcommand(s)" }],
    path := path ++ " help", helpOnly := true }

/-- Numbers the options of a list of arguments from zero, in order; positional values keep
no number. -/
def numberOptions (args : List Arg) : List Arg :=
  (args.foldl (fun (acc : List Arg × Nat) a =>
    if a.isPositional then (acc.1 ++ [a], acc.2)
    else (acc.1 ++ [{ a with order := acc.2 }], acc.2 + 1)) ([], 0)).1

/-- Builds a command below a path: numbers its options, adds the global options it
inherits and the help flag, and builds its subcommands, adding a `help` subcommand when it
has any. -/
def build (path : String) (inherited : List Arg) : Nat → Command → Command
  | 0, c => c
  | fuel + 1, c =>
    let own := numberOptions c.args
    let fresh := inherited.filter fun g => !own.any (·.id == g.id)
    let args := own ++ fresh ++ [helpFlag] ++ (c.version.map fun _ => versionFlag).toList
    let path := if path.isEmpty then c.name else path ++ " " ++ c.name
    let globals := args.filter (·.global)
    let subs := c.subcommands.map (build path globals fuel)
    let subs := if subs.isEmpty then [] else subs ++ [helpCommand path]
    { c with args, path, subcommands := subs }

/-- The subcommand of a name. -/
def find? (c : Command) (name : String) : Option Command :=
  c.subcommands.find? (·.name == name)

/-- The positional values, in order. -/
def positionals (c : Command) : List Arg := c.args.filter (·.isPositional)

/-- The arguments that are not positional. -/
def options (c : Command) : List Arg := c.args.filter (!·.isPositional)

/-- The argument of a long name. -/
def findLong? (c : Command) (name : String) : Option Arg :=
  c.args.find? (·.long == some name)

/-- The argument of a short name. -/
def findShort? (c : Command) (ch : Char) : Option Arg :=
  c.args.find? (·.short == some ch)

/-- The long names of the arguments, in order. -/
def longs (c : Command) : List String := c.args.filterMap (·.long)

/-- The names of the subcommands. -/
def subcommandNames (c : Command) : List String := c.subcommands.map (·.name)

end Command

end TenderClient.Cli
