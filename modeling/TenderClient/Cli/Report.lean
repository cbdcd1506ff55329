import TenderClient.Config.Basic
import TenderClient.Sync.Error
/-!
# Failure reports

A command that fails reports a failure: a message, and the chain of causes below it. The
report is `Error: ` and the message, then `Caused by:` and the causes, each on its own
line indented by four spaces; when there are several they are numbered from zero, the
number right-aligned in five columns. Further lines of a cause are indented to line up.

A typed error gives its own chain: its message, then the messages of what caused it.
-/

set_option autoImplicit false

namespace TenderClient.Cli

/-- A failure of a command: its message and its causes, outermost first. -/
structure Failure where
  message : String
  causes : List String := []
deriving DecidableEq

/-- The chain of messages of a configuration error. -/
def configChain (e : ConfigError) : List String :=
  match e with
  | .io _ detail | .yaml detail | .parse _ detail => [e.message, detail]
  | _ => [e.message]

/-- The chain of messages of a session error. -/
def syncChain (e : Sync.SyncError) : List String :=
  match e with
  | .follower f => [e.message, f.message]
  | .tag t => [e.message, t.message]
  | .badResponse _ detail => [e.message, detail]
  | _ => [e.message]

namespace Failure

/-- A failure that only has a message. -/
def plain (message : String) : Failure := { message }

/-- A failure whose message is the head of a chain. -/
def ofChain (chain : List String) : Failure :=
  { message := chain.headD "", causes := chain.tail }

/-- A failure described in context, the chain below it. -/
def within (context : String) (chain : List String) : Failure :=
  { message := context, causes := chain }

/-- A cause as it is reported, numbered or not. -/
def indentCause (number : Option Nat) (cause : String) : String :=
  let lead := match number with
    | some n => let s := Nat.repr n; String.ofList (List.replicate (5 - s.length) ' ') ++ s ++ ": "
    | none => "    "
  let rest := match number with
    | some _ => "\n       "
    | none => "\n    "
  lead ++ rest.intercalate (cause.splitOn "\n")

/-- The report of a failure, ending in a line break. -/
def report (f : Failure) : String :=
  "Error: " ++ f.message ++
    (match f.causes with
      | [] => ""
      | [c] => "\n\nCaused by:\n" ++ indentCause none c
      | cs => "\n\nCaused by:" ++
          String.join (cs.zipIdx.map fun (c, i) => "\n" ++ indentCause (some i) c)) ++ "\n"

end Failure

end TenderClient.Cli
