import Gateway.Files

/-!
# External commands

A command line is a program and its arguments. Running it ends with an output and a status, or the
program cannot be run at all. On the way it may change files.
-/

namespace Gateway

/-- What a program that ended leaves: what it wrote, and its status, -1 if a signal ended it. -/
structure CommandOutput where
  stdout : String
  status : Int
deriving DecidableEq, Repr

/-- Whether a program ended well. -/
def CommandOutput.succeeded (o : CommandOutput) : Bool := o.status == 0

/-- What comes of running a command line. -/
inductive CommandResult where
  | ended (output : CommandOutput)
  /-- The program could not be run; what went wrong, and what was behind that. -/
  | failed (texts : List String)
  /-- Running it was broken off. -/
  | broken
deriving DecidableEq, Repr

/-- Something that runs programs with arguments on files, and leaves files. -/
abbrev Runner := String → List String → Files → CommandResult × Files

namespace Runner

/-- Runs a command line; there must be a program to run. -/
def runLine (run : Runner) (line : List String) (files : Files) : CommandResult × Files :=
  match line with
  | [] => (.failed ["empty command line"], files)
  | program :: arguments => run program arguments files

/-- A runner with the same result for every program. -/
def always (result : CommandResult) : Runner := fun _ _ files => (result, files)

end Runner

/-- What is noted of the command that shuts the device down. -/
def CommandResult.shutdownNote : CommandResult → String
  | ended output =>
    if output.succeeded then "Shutdown command accepted"
    else "Shutdown command exited with " ++ toString output.status
  | failed texts => "Shutdown command failed: " ++ ": ".intercalate texts
  | broken => "Shutdown task panicked"

end Gateway
