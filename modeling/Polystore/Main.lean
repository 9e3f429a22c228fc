import Polystore.Cli.Program

/-!
# The program

The command line, the settings file of the user and the two streams. No native client is linked in,
so every call to one fails.
-/

namespace Polystore

def absentClient : Responder Unit where
  reply := fun _ _ => (.error ⟨.system, "No native client is linked in"⟩, ())

def userSettings : IO SettingsSource := do
  match ← IO.getEnv "HOME" with
  | none => return .missing
  | some home =>
    try
      let content ← IO.FS.readBinFile (home ++ "/.config/dbdeck/config.toml")
      return .file content.toList
    catch _ => return .missing

end Polystore

open Polystore in
/-- Run one command and end with its status. -/
def main (given : List String) : IO UInt32 := do
  match (Cli.run absentClient () (← userSettings) given).result with
  | .ok outcome =>
    outcome.messages.forM IO.eprintln
    IO.print outcome.output
    return outcome.status.toUInt32
  | .error f =>
    IO.eprintln f.message
    return 1
