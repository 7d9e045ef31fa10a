import ColumnFilter.CommandLine.Run

/-! # The program

Gathers what a run depends on, the variables, the files that the command
names and, where a scan reads it, the standard input, and prints the outcome.
-/

namespace ColumnFilter

/-- The system's number and wording of a failure to read a file. -/
def reasonOf : IO.Error → UInt32 × String
  | .noFileOrDirectory _ code text | .inappropriateType _ code text
  | .permissionDenied _ code text | .invalidArgument _ code text
  | .resourceExhausted _ code text | .noSuchThing _ code text
  | .otherError code text | .hardwareFault code text => (code, text)
  | e => (0, toString e)

/-- Some numbers come with a minus, in as many bits as there are. -/
def magnitude (code : UInt32) : Nat := if code ≤ 0x7FFFFFFF then code.toNat else (-code).toNat

def pathExists (path : String) : IO Bool := do
  try
    discard (IO.FS.realPath path)
    return true
  catch _ => return false

/-- What is under a path. -/
def probe (path : String) : IO File := do
  try
    return .bytes (← IO.FS.readBinFile path).toList
  catch failure =>
    let (code, text) := reasonOf failure
    let reason := FileError.ofCode (magnitude code) text
    return if ← pathExists path then .unreadable reason else .absent reason

partial def readAll (s : IO.FS.Stream) (read : ByteArray) : IO ByteArray := do
  let chunk ← s.read 65536
  if chunk.isEmpty then return read else readAll s (read ++ chunk)

/-- The file that a command reads, or nothing inside where that is the standard input. -/
def inputOf : CommandLine.Command → Option (Option String)
  | .scan _ input _ => some input
  | _ => none

def worldOf (i : CommandLine.Invocation) : IO CommandLine.World := do
  let environment : CommandLine.Environment := {
    configFile := ← IO.getEnv "RF_CONFIG"
    configHome := ← IO.getEnv "XDG_CONFIG_HOME"
    home := (← IO.getEnv "HOME").filter (· ≠ "")
    noColor := (← IO.getEnv "NO_COLOR").isSome }
  let source := inputOf i.command
  let paths := environment.configPath?.toList ++ (source.bind id).toList
  let files ← paths.mapM fun path => return (path, ← probe path)
  let input ← if source = some none then readAll (← IO.getStdin) .empty else pure .empty
  return ⟨environment, fun path => (files.lookup path).getD (.absent .missing), input.toList⟩

end ColumnFilter

open ColumnFilter in
def main (args : List String) : IO UInt32 := do
  let outcome ← match CommandLine.parse args with
    | .ok i => do pure (i.run (← worldOf i))
    | .error r => pure r.outcome
  IO.print outcome.output
  IO.eprint outcome.report
  return UInt32.ofNat outcome.exit
