import Parley.Command.Run

/-!
# What the program prints

The program reads its arguments, runs the command on a disk, and tells what comes of it: a
`Response` has the lines for the standard output, those for the standard error, where warnings go,
and the exit code.
-/

namespace Parley

/-- What the program prints, and how it exits. -/
structure Response where
  /-- The lines on the standard output. -/
  output : List String := []
  /-- The lines on the standard error. -/
  notes : List String := []
  exitCode : UInt32
deriving DecidableEq, Repr, Inhabited

/-- An answer as it is printed. -/
def Answer.response (a : Answer) : Response :=
  { output := a.lines
    notes := (a.log.filter Event.isWarning).map fun event => event.toJson.render
    exitCode := a.exitCode }

namespace Program

/-- The lines of the help text. -/
def help : List String := [
  "Scripted dialog agent CLI",
  "",
  "Usage: dialogscript agent start <ADDRESS> --scripts-dir <DIR> [OPTIONS]",
  "       dialogscript agent say <ADDRESS> --text <TEXT>",
  "",
  "ADDRESS: --state-dir <DIR> --channel <ID> --conversation <ID> --user <ID>",
  "OPTIONS: --entry-dialog <ID> --thread <NAME>"]

/-- The response to arguments. -/
def respond {m : Type → Type} [Monad m] (disk : Disk m) (rounds : Nat) (clock : Nat → UInt32)
    (arguments : List String) : m Response := do
  match Arguments.read arguments with
  | .help => return { output := help, exitCode := 0 }
  | .mistake => return { notes := help, exitCode := 2 }
  | .value command =>
    match ← Command.run disk rounds clock command with
    | none => return { notes := ["the turn does not end"], exitCode := 3 }
    | some answer => return answer.response

end Program

end Parley
