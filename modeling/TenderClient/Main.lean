import TenderClient.Cli.Run
/-!
# The `tenderwatch` executable

Reads the configuration file under `$HOME`, runs the command line, prints what the run
printed, writes the configuration file back when the run changed it (readable by its owner
only), and exits with the run's status. No network is reachable from this build, so every
request fails as an unreachable one.
-/

section

open TenderClient

/-- Reads the configuration file, if it can be read. -/
def readConfigFile (path : String) : IO (Option String) := do
  try
    let text ← IO.FS.readFile path
    pure (some text)
  catch _ =>
    pure none

/-- Runs the client on the command line against the configuration file under `$HOME`. -/
def main (args : List String) : IO UInt32 := do
  let home := (← IO.getEnv "HOME").getD ""
  let path := configPath home
  let before ← readConfigFile path
  let outcome := Cli.run { home, network := Web.Network.unreachable } before args
  if outcome.configFile != before then
    if let some text := outcome.configFile then
      IO.FS.createDirAll (home ++ "/.tenderwatch")
      IO.FS.writeFile path text
      IO.setAccessRights path { user := { read := true, write := true } }
  IO.print outcome.stdout
  IO.eprint outcome.stderr
  pure outcome.status.toUInt32

end
