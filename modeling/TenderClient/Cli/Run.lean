import TenderClient.Cli.Parse
import TenderClient.Cli.Program
import TenderClient.Cli.Report
import TenderClient.Cli.Table
import TenderClient.Config.Yaml
import TenderClient.Sync.Session
/-!
# Running the tender client

A run reads the command line against the program's grammar and carries out the command
against a home directory's configuration file and a network. It answers with an exit
status, what was printed on standard output and standard error, the configuration file
afterwards, and the requests that reached a server.

* Help and the version are printed on standard output with status 0; a refused command
  line, or help shown instead of a command, on standard error with status 2.
* A command that fails prints its report on standard error with status 1.

The connection settings come from the configuration file, overridden by `--base-url` and
`--cookie`; without a file, `--base-url` alone is enough. Commands that talk to the server
check their arguments first, then the settings.
-/

set_option autoImplicit false

namespace TenderClient.Cli

open Sync

/-- What a run has printed and changed so far. -/
structure Console where
  out : String := ""
  err : String := ""
  configFile : Option String
  sent : List Web.Sent := []

/-- A command being carried out. -/
abbrev Run := ExceptT Failure (StateM Console)

/-- Prints a line on standard output. -/
def say (line : String) : Run Unit :=
  modify fun c => { c with out := c.out ++ line ++ "\n" }

/-- Prints a line on standard error. -/
def warn (line : String) : Run Unit :=
  modify fun c => { c with err := c.err ++ line ++ "\n" }

/-- Runs a session step; a failure is described in the given context. -/
def talk {α : Type} (context : String) (x : Exchange α) : Run α := do
  let (r, sent) := x.run
  modify fun c => { c with sent := c.sent ++ sent }
  match r with
  | .ok a => pure a
  | .error e => throw (Failure.within context (syncChain e))

/-- What a run needs from outside. -/
structure Setting where
  /-- The home directory, as messages name it. -/
  home : String
  network : Web.Network

/-- The configuration for talking to the server: the file's, or one made from `--base-url`
when there is no file, with the command line's base URL and cookie in place. -/
def connection (s : Setting) (p : Parsed) : Run ClientConfig := do
  let file := (← get).configFile
  let baseUrl := p.text? "base_url"
  let loaded ← match ClientConfig.load s.home file with
    | .ok c => pure c
    | .error (.notFound path) =>
      match baseUrl with
      | some url => match ClientConfig.ofBaseUrl url with
        | .ok c => pure c
        | .error e => throw (Failure.ofChain (configChain e))
      | none => throw (Failure.within "failed to load client config" (configChain (.notFound path)))
    | .error e => throw (Failure.within "failed to load client config" (configChain e))
  let c := { loaded with baseUrl := baseUrl.getD loaded.baseUrl,
                         cookie := (p.text? "cookie").orElse fun _ => loaded.cookie }
  match c.validate with
  | .ok () => pure c
  | .error e => throw (Failure.within "invalid connection settings" (configChain e))

/-- A session with the server the settings name. -/
def openSession (s : Setting) (p : Parsed) : Run Session := do
  let c ← connection s p
  pure { server := { config := c, network := s.network }, actingUser := c.userId }

/-- Carries out a command about the tender the command line names; every such command
requires one. -/
def withTender (p : Parsed) (k : Ident → Run Unit) : Run Unit :=
  match p.ident? "tender" with
  | some t => k t
  | none => pure ()

/-- `config init`: writes a configuration made from the command line. -/
def configInit (s : Setting) (p : Parsed) : Run Unit := do
  let path := configPath s.home
  if (← get).configFile.isSome && !p.flag "force" then
    throw (.plain ("config already exists at " ++ path ++ "; pass --force to overwrite"))
  let some baseUrl := p.text? "base_url"
    | throw (.plain "provide the server with --base-url")
  let c ← match ClientConfig.ofBaseUrl baseUrl with
    | .ok c => pure c
    | .error e => throw (Failure.ofChain (configChain e))
  let c := { c with cookie := p.text? "cookie",
                    csrfCookie := (p.text? "csrf_cookie").getD defaultCsrfCookie,
                    userId := p.ident? "user_id",
                    timeoutSecs := ((p.count? "timeout_secs").map Nat.toUInt64).getD defaultTimeout }
  match ClientConfig.save s.home c with
  | .error e => throw (Failure.within "failed to save config" (configChain e))
  | .ok (written, text) =>
    modify fun con => { con with configFile := some text }
    say ("✓ wrote " ++ written)

/-- `config show`: prints the configuration, the cookie hidden. -/
def configShow (s : Setting) : Run Unit := do
  match ClientConfig.load s.home (← get).configFile with
  | .error e => throw (Failure.within "failed to load client config" (configChain e))
  | .ok c =>
    say ("config:      " ++ configPath s.home)
    say ("base_url:    " ++ c.baseUrl)
    say ("cookie:      " ++ if c.cookie.isSome then "<set>" else "<none>")
    say ("csrf_cookie: " ++ c.csrfCookie)
    say ("user_id:     " ++ (c.userId.map Ident.render).getD "<none>")
    say ("timeout:     " ++ Nat.repr c.timeoutSecs.toNat ++ "s")
    say "endpoints:"
    say ("  followers: " ++ c.endpoints.followers)
    say ("  favourite: " ++ c.endpoints.favourite)
    say ("  seen:      " ++ c.endpoints.seen)
    say ("  delete:    " ++ c.endpoints.delete)

/-- `followers list`: the users of a tender, as a table or as JSON. -/
def followersList (s : Setting) (p : Parsed) (t : Ident) : Run Unit := do
  let session ← openSession s p
  let (users, _) ← talk ("failed to load followers of tender " ++ t.render) (session.openTender t)
  if p.flag "json" then say (Json.array (users.map UserRecord.toJson)).pretty
  else
    let followers := (users.filter (·.isFollower)).length
    say ("Tender " ++ t.render ++ " | " ++ Nat.repr users.length ++ " users | " ++
      Nat.repr followers ++ " followers")
    if users.isEmpty then say "No users returned by the server."
    else say (userTable users)

/-- Identifiers in ascending order without repeats. -/
def ascending (l : List Ident) : List Ident :=
  (l.foldl (fun acc i => IdSet.insert i acc) IdSet.empty).toList

/-- Ends an edit whose boxes are toggled: nothing to do when nothing is pending, the payload
printed on a dry run, and the save otherwise. -/
def finishEdit (p : Parsed) (t : Ident) (session : Session) : Run Unit := do
  if !session.hasPending t then
    say ("✓ tender " ++ t.render ++ " — followers already up to date")
    return
  let payload ← match session.store.serialize t with
    | .ok text => pure text
    | .error e => throw (Failure.within "failed to encode follower payload" [e.message])
  if p.flag "dry_run" then
    say ("[dry-run] would send: " ++ payload)
    return
  let (outcome, _) ← talk ("failed to save followers of tender " ++ t.render) (session.save t)
  say ("✓ tender " ++ t.render ++ " — " ++ Nat.repr outcome.totalFollowers ++ " follower(s)" ++
    (if outcome.followedByMe then ", including you" else ""))

/-- `followers edit`: adds and removes followers in one save. -/
def followersEdit (s : Setting) (p : Parsed) (t : Ident) : Run Unit := do
  let adds := ascending (p.idents "add")
  let removes := ascending (p.idents "remove")
  if let some both := adds.find? removes.contains then
    throw (.plain ("user " ++ both.render ++ " is in both --add and --remove"))
  if adds.isEmpty && removes.isEmpty then
    throw (.plain "nothing to do; pass --add and/or --remove")
  let session ← openSession s p
  let (users, session) ← talk ("failed to load followers of tender " ++ t.render) (session.openTender t)
  for u in adds ++ removes do
    if !users.any (·.id == u) then
      warn ("warning: user " ++ u.render ++ " is not in the server's user list")
  let session := adds.foldl (fun se u => (se.toggle t u true).2) session
  let session := removes.foldl (fun se u => (se.toggle t u false).2) session
  finishEdit p t session

/-- A switch as the client writes it. -/
def switchWord (b : Bool) : String := if b then "on" else "off"

/-- `favourite` and `seen`: sets a flag of a tender. -/
def setFlag (s : Setting) (p : Parsed) (favourite : Bool) (t : Ident) : Run Unit := do
  let session ← openSession s p
  let on := (p.switch? "state").getD false
  if favourite then
    talk ("failed to update favourite for tender " ++ t.render) (session.setFavourite t on)
    say ("✓ tender " ++ t.render ++ " — favourite " ++ switchWord on)
  else
    talk ("failed to update seen flag for tender " ++ t.render) (session.setSeen t on)
    say ("✓ tender " ++ t.render ++ " — seen " ++ switchWord on)

/-- `tag`: tags a tender. -/
def tagTender (s : Setting) (p : Parsed) (t : Ident) : Run Unit := do
  let session ← openSession s p
  let tag ← talk ("failed to tag tender " ++ t.render) (session.addTag t ((p.text? "name").getD ""))
  say ("✓ tender " ++ t.render ++ " — tagged '" ++ tag.text ++ "'")

/-- `delete`: deletes a tender once confirmed. -/
def deleteTender (s : Setting) (p : Parsed) (t : Ident) : Run Unit := do
  if !p.flag "yes" then
    throw (.plain ("refusing to delete tender " ++ t.render ++ " without --yes"))
  let session ← openSession s p
  let (redirect, _) ← talk ("failed to delete tender " ++ t.render) (session.deleteTender t)
  say ("✓ tender " ++ t.render ++ " deleted (server redirect: " ++ redirect ++ ")")

/-- Carries out a command line that was understood. -/
def execute (s : Setting) (p : Parsed) : Run Unit :=
  match p.commands with
  | ["config", "init"] => configInit s p
  | ["config", "show"] => configShow s
  | ["followers", "list"] => withTender p (followersList s p)
  | ["followers", "edit"] => withTender p (followersEdit s p)
  | ["favourite"] => withTender p (setFlag s p true)
  | ["seen"] => withTender p (setFlag s p false)
  | ["tag"] => withTender p (tagTender s p)
  | ["delete"] => withTender p (deleteTender s p)
  | _ => pure ()

/-- What a run of the program did. -/
structure Outcome where
  status : Nat
  stdout : String
  stderr : String
  configFile : Option String
  sent : List Web.Sent

/-- Runs the program on a command line, with the configuration file as it is. -/
def run (s : Setting) (configFile : Option String) (words : List String) : Outcome :=
  match program.read words with
  | .error (.help text) | .error (.version text) =>
    { status := 0, stdout := text, stderr := "", configFile, sent := [] }
  | .error (.helpInstead text) =>
    { status := 2, stdout := "", stderr := text, configFile, sent := [] }
  | .error (.refused r) =>
    { status := 2, stdout := "", stderr := r.render, configFile, sent := [] }
  | .ok p =>
    let (result, console) := (ExceptT.run (execute s p)).run { configFile }
    match result with
    | .ok () =>
      { status := 0, stdout := console.out, stderr := console.err,
        configFile := console.configFile, sent := console.sent }
    | .error f =>
      { status := 1, stdout := console.out, stderr := console.err ++ f.report,
        configFile := console.configFile, sent := console.sent }

end TenderClient.Cli
