import Gateway.Command.Shell
import Gateway.CommandLine
import Gateway.Daemon

/-!
# The program

Reads the command line, loads the configuration that it or the environment names, checks it and says
which services the daemon runs with it. The shutdown command that a configuration has is run by the
shell among the standard files.
-/

namespace Gateway

/-- The variable of the environment that names the configuration file. -/
def configVariable : String := "GATEWAYD_CONFIG"

/-- How the program is used. -/
def usage : String :=
  "Usage: gatewayd [OPTIONS]\n\n" ++
  "  -c, --config <CONFIG>  configuration file\n" ++
  "  -d, --daemonize        detach from the terminal\n" ++
  "  -v, --verbose          log debug messages\n" ++
  "  -h, --help             print help\n" ++
  "  -V, --version          print version"

/-- The version of the program. -/
def versionText : String := "1.0.0"

/-- The files with the one at a path, if it can be read. -/
def withFile (files : Files) (path : String) : IO Files := do
  try
    let bytes ← IO.FS.readBinFile path
    let put := (files.makeDirectories (Path.parent path)).write path bytes.toList
    return put.toOption.getD files
  catch _ => return files

/-- Loads the configuration and names the services. -/
def describe (line : CommandLine) : IO UInt32 := do
  let named ← IO.getEnv configVariable
  let paths := line.config.toList ++ named.toList ++ [ConfigStore.standardPath]
  let files ← paths.foldlM withFile standardFiles
  match ConfigStore.load files line.config named with
  | .error fault =>
    IO.eprintln ("Error: " ++ fault.message)
    return 1
  | .ok store =>
    let parts := Daemon.parts files store (standardRunner []) versionText
    match Daemon.start parts with
    | .error fault =>
      IO.eprintln ("Error: " ++ fault.message)
      return 1
    | .ok device =>
      IO.println (", ".intercalate (device.services.map Service.name))
      return 0

end Gateway

/-- Runs the program with its arguments. -/
def main (arguments : List String) : IO UInt32 := do
  match Gateway.CommandLine.parse arguments with
  | .error .displayHelp =>
    IO.println Gateway.usage
    return 0
  | .error .displayVersion =>
    IO.println ("gatewayd " ++ Gateway.versionText)
    return 0
  | .error fault =>
    IO.eprintln ("error: " ++ fault.label)
    return 2
  | .ok line => Gateway.describe line
