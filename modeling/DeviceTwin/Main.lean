import DeviceTwin.CommandLine

/-!
The program: it reads the file that a command names, prints what comes of the command line and ends
with status 0 for success, 1 for a failure and 2 for arguments that make no command.
-/
open DeviceTwin

/-- What the system says about a file that cannot be read. -/
def fileFault : IO.Error → FileFault
  | .noFileOrDirectory _ number words => ⟨words, number.toNat⟩
  | .permissionDenied _ number words => ⟨words, number.toNat⟩
  | .inappropriateType _ number words => ⟨words, number.toNat⟩
  | .invalidArgument _ number words => ⟨words, number.toNat⟩
  | .resourceExhausted _ number words => ⟨words, number.toNat⟩
  | .hardwareFault number words => ⟨words, number.toNat⟩
  | .otherError number words => ⟨words, number.toNat⟩
  | other => ⟨other.toString, 0⟩

def load (file : String) : IO (Except FileFault Bytes) := do
  try
    return .ok (← IO.FS.readBinFile file).toList
  catch e => return .error (fileFault e)

/-- The files that a command line needs. -/
def filesFor (arguments : List String) : IO CommandLine.Files := do
  match (Call.read? none arguments).bind Call.file? with
  | none => return fun _ => .error .missing
  | some file =>
    let contents ← load file
    return fun _ => contents

def main (arguments : List String) : IO UInt32 := do
  match CommandLine.respond (← filesFor arguments) arguments with
  | .printed text =>
    (← IO.getStdout).putStr text
    return 0
  | .failed e =>
    (← IO.getStderr).putStr e.report
    return 1
  | .refused =>
    (← IO.getStderr).putStr "usage: pnp-twin [--prefix ROOT] classify|topic|walk|version|ack ...\n"
    return 2
