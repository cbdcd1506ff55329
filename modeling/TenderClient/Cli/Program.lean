import TenderClient.Cli.Grammar
import TenderClient.Config.Basic
/-!
# The tender client's command line

`tenderwatch` manages the followers, favourites, seen flags, tags and deletion of
tenders, and its own configuration:

* `config init` writes the configuration, `config show` prints it;
* `followers list <TENDER>` and `followers edit <TENDER>` read and change followers;
* `favourite` and `seen` take a tender and an on/off switch, `tag` a tender and a name,
  `delete` a tender and `--yes`.

`--base-url` and `--cookie` are accepted by every command and override the configuration.
-/

set_option autoImplicit false

namespace TenderClient.Cli

/-- The base URL option. -/
def baseUrlArg : Arg :=
  { id := "base_url", shape := .option "URL", long := some "base-url", global := true,
    help := "Server base URL (e.g. https://tenders.example.org)" }

/-- The cookie option. -/
def cookieArg : Arg :=
  { id := "cookie", shape := .option "COOKIE", long := some "cookie", global := true,
    help := "Raw Cookie header carrying the session and CSRF cookies" }

/-- The tender a command is about. -/
def tenderArg : Arg :=
  { id := "tender", shape := .positional "TENDER", kind := .ident, required := true }

/-- An on/off switch. -/
def stateArg : Arg :=
  { id := "state", shape := .positional "STATE", kind := .switch, required := true,
    help := "on | off" }

/-- A list of users, repeated or separated by commas. -/
def usersArg (id : String) (help : String) : Arg :=
  { id, shape := .option id.toUpper, long := some id, kind := .ident, repeated := true,
    delimited := true, help }

/-- The commands of the configuration. -/
def configCommand : Command :=
  { name := "config", about := "Create or inspect the client configuration",
    subcommands := [
      { name := "init",
        about := "Write ~/.tenderwatch/config.yaml (use the global --base-url and --cookie flags)",
        args := [
          { id := "user_id", shape := .option "USER_ID", long := some "user-id", kind := .ident,
            help := "Your own user id, used for the \"followed by me\" indicator" },
          { id := "csrf_cookie", shape := .option "CSRF_COOKIE", long := some "csrf-cookie",
            help := "Name of the cookie holding the CSRF token", default := some defaultCsrfCookie },
          { id := "timeout_secs", shape := .option "TIMEOUT_SECS", long := some "timeout-secs",
            kind := .count, help := "Request timeout in seconds",
            default := some (Nat.repr defaultTimeout.toNat) },
          { id := "force", shape := .flag, long := some "force",
            help := "Overwrite an existing config file" }] },
      { name := "show", about := "Print the active configuration with the cookie redacted" }] }

/-- The commands on followers. -/
def followersCommand : Command :=
  { name := "followers", about := "List or edit the followers of a tender",
    subcommands := [
      { name := "list", about := "Show every user and whether they follow the tender",
        args := [tenderArg,
          { id := "json", shape := .flag, long := some "json", help := "Emit machine-readable JSON" }] },
      { name := "edit", about := "Add and remove followers in one batched save",
        args := [tenderArg,
          usersArg "add" "User ids to add as followers (repeat or comma-separate)",
          usersArg "remove" "User ids to remove from the followers (repeat or comma-separate)",
          { id := "dry_run", shape := .flag, long := some "dry-run",
            help := "Print the payload that would be sent without saving" }] }] }

/-- The program's command, built. -/
def program : Command :=
  Command.build "" [] 4
    { name := "tenderwatch", about := "Manage tender followers, favourites and seen flags",
      version := some "0.1.0", args := [baseUrlArg, cookieArg],
      subcommands := [configCommand, followersCommand,
        { name := "favourite", about := "Mark or unmark a tender as favourite",
          args := [tenderArg, stateArg] },
        { name := "seen", about := "Mark or unmark a tender as seen by you",
          args := [tenderArg, stateArg] },
        { name := "tag", about := "Attach a tag to a tender",
          args := [tenderArg,
            { id := "name", shape := .positional "NAME", required := true,
              help := "Tag name; surrounding whitespace is dropped" }] },
        { name := "delete", about := "Delete a tender",
          args := [tenderArg,
            { id := "yes", shape := .flag, long := some "yes", help := "Confirm the deletion" }] }] }

end TenderClient.Cli
