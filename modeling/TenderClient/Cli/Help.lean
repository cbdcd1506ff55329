import TenderClient.Cli.Grammar
/-!
# Help and usage texts

The help of a command is its description, its usage line, and then up to three sections,
each a heading and one line per entry: the subcommands, the positional values and the
options. In a section the descriptions start in one column, two spaces after the widest
entry; an option without a short name is indented as if it had one (`-h, `). Options are
listed by their place, ties by name (a short name counts as its lowercase letter); a
default value is shown after the description.

The usage line of the help is the command's words, `[OPTIONS]` when it has options other
than help and version, its positional values and `<COMMAND>` when it has subcommands. An
error names a shorter usage when some arguments were given: the command's words, the
options given, and the positional values.
-/

set_option autoImplicit false

namespace TenderClient.Cli

/-- Spaces. -/
def spaces (n : Nat) : String := String.ofList (List.replicate n ' ')

namespace Command

/-- Whether the usage line shows `[OPTIONS]`. -/
def needsOptionsTag (c : Command) : Bool :=
  c.options.any fun a =>
    match a.shape with
    | .help | .version => false
    | _ => !a.required

/-- The positional values as the usage line shows them. -/
def positionalUsage (c : Command) : String :=
  String.join (c.positionals.map fun a => " " ++ a.placeholder a.required)

/-- The usage line of the help. -/
def usage (c : Command) : String :=
  c.path ++ (if c.needsOptionsTag then " [OPTIONS]" else "") ++ c.positionalUsage ++
    (if c.subcommands.isEmpty then "" else " <COMMAND>")

/-- The usage line of an error after some arguments were given: the options among them, in
the order given, then the positional values. -/
def usageWith (c : Command) (given : List String) : String :=
  let opts := given.filterMap fun id =>
    (c.args.find? fun a => a.id == id && !a.isPositional).map fun a => " " ++ a.display
  c.path ++ String.join opts ++ c.positionalUsage ++
    (if c.subcommands.isEmpty then "" else " <COMMAND>")

/-- The usage line of an error: the short form once arguments were given. -/
def errorUsage (c : Command) (given : List String) : String :=
  if given.isEmpty then c.usage else c.usageWith given

/-- The key options are listed by: a short name as its lowercase letter and a mark for its
case, else the long name. -/
def sortKey (a : Arg) : String :=
  match a.short with
  | some s => s.toLower.toString ++ (if s.isLower then "0" else "1")
  | none => a.long.getD a.id

/-- Whether an option comes before another in the help. -/
def listedBefore (a b : Arg) : Bool :=
  a.order < b.order || (a.order == b.order && decide (sortKey a < sortKey b))

/-- Inserts an option into a list sorted for the help. -/
def insertListed (a : Arg) : List Arg → List Arg
  | [] => [a]
  | b :: bs => if listedBefore a b then a :: b :: bs else b :: insertListed a bs

/-- The description of an argument with its default value. -/
def describe (a : Arg) : String :=
  match a.default with
  | some d => a.help ++ (if a.help.isEmpty then "" else " ") ++ "[default: " ++ d ++ "]"
  | none => a.help

/-- The lines of the options section. -/
def optionLines (c : Command) : List String :=
  let opts := c.options.foldl (fun acc a => insertListed a acc) []
  let widest := opts.foldl (fun w a => max w a.display.length) 0
  opts.map fun a =>
    let lead := match a.short, a.long with
      | some s, some _ => "-" ++ s.toString ++ ", "
      | _, _ => "    "
    "  " ++ lead ++ a.display ++ spaces (widest - a.display.length + 2) ++ describe a

/-- The lines of the positional values section. -/
def positionalLines (c : Command) : List String :=
  let ps := c.positionals
  let widest := ps.foldl (fun w a => max w a.display.length) 0
  ps.map fun a => "  " ++ a.display ++ spaces (widest - a.display.length + 2) ++ describe a

/-- The lines of the subcommands section. -/
def subcommandLines (c : Command) : List String :=
  let widest := c.subcommands.foldl (fun w s => max w s.name.length) 0
  c.subcommands.map fun s => "  " ++ s.name ++ spaces (widest - s.name.length + 2) ++ s.about

/-- The help of a command. -/
def help (c : Command) : String :=
  let block (title : String) (lines : List String) : List String :=
    if lines.isEmpty then [] else [title ++ ":\n" ++ "\n".intercalate lines]
  let sections := block "Commands" c.subcommandLines ++
    block "Arguments" c.positionalLines ++ block "Options" c.optionLines
  c.about ++ "\n\nUsage: " ++ c.usage ++ "\n\n" ++ "\n\n".intercalate sections ++ "\n"

end Command

end TenderClient.Cli
