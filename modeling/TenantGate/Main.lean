/-
The program: reads what its command needs, carries the command out, and
writes what comes of it. There is no network here, so a gateway that
would run is reported as one that cannot listen.
-/
import TenantGate.CommandLine
import TenantGate.Text.Utf8

namespace TenantGate.Main

open CommandLine (Command Outcome)
open Settings (File)

/-- What stands at a path. -/
def readFile (path : String) : IO File := do
  try
    let bytes ← IO.FS.readBinFile path
    return match Text.Utf8.text? bytes.toList with
      | some s => .text s
      | none => .unreadable
  catch e =>
    return match e with
      | .noFileOrDirectory .. => .missing path
      | _ => .unreadable

/-- The variables of a block in which each ends with a zero byte. -/
def settings (block : String) : List (String × String) :=
  (block.splitOn "\x00").filterMap fun entry =>
    match entry.splitOn "=" with
    | name :: value :: more => some (name, "=".intercalate (value :: more))
    | _ => none

/-- The environment, as far as it can be read. -/
def environment : IO (List (String × String)) := do
  try
    return settings (← IO.FS.readFile "/proc/self/environ")
  catch _ => return []

/-- Nothing answers, and no address can be had. -/
def network : Startup.Network :=
  ⟨{ Store.Server.start 0 with reachable := false }, fun _ => true⟩

/-- Carries out a command line. -/
def run (args : List String) : IO Outcome := do
  match Command.ofArgs? args with
  | none => return .misused
  | some command => do
      let file ← command.file?.mapM readFile
      return command.run network file (← environment)

end TenantGate.Main

def main (args : List String) : IO UInt32 := do
  let outcome ← TenantGate.Main.run args
  if let .shown text := outcome then IO.print text
  IO.eprint outcome.errorText
  return outcome.status.toUInt32
