import ReplyActions.Command.Run
import ReplyActions.Json.Printer
import ReplyActions.Log.Timestamp

/-!
# The command line

The commands on the files of the machine.
-/

namespace ReplyActions.Command

/-- The reason of a failure, as the system words it where it has a number for it. -/
def reasonOf : IO.Error → String
  | .noFileOrDirectory _ code details | .alreadyExists _ code details
  | .inappropriateType _ code details | .permissionDenied _ code details
  | .invalidArgument _ code details | .resourceExhausted _ code details =>
    details ++ " (os error " ++ Number.natText code.toNat ++ ")"
  | error => toString error

/-- Something that can fail, with the reason. -/
def attempted {α : Type} (action : IO α) : IO (Except String α) := do
  try return .ok (← action)
  catch error => return .error (reasonOf error)

def currentTime : IO String := do
  let (_, path) ← IO.FS.createTempFile
  let moment := (← path.metadata).modified
  IO.FS.removeFile path
  return Log.timestamp moment.sec.toNat moment.nsec.toNat

def machine : Host IO where
  read? path := return (← attempted (IO.FS.readFile path)).toOption
  exists? path := return (← attempted (IO.FS.realPath path)).isOk
  write path text := attempted (IO.FS.writeFile path text)
  makeParents path := do
    let parents := parentNames path
    if parents.isEmpty then return .ok ()
    else attempted (IO.FS.createDirAll (pathText (isAbsolute path) parents))
  openLog path := attempted do
    let _ ← IO.FS.Handle.mk path .append
  log path record := do
    let line := Json.compact (record.stamped (← currentTime)) ++ "\n"
    let _ ← attempted do
      let handle ← IO.FS.Handle.mk path .append
      handle.putStr line
      handle.flush

end ReplyActions.Command

def main (args : List String) : IO UInt32 := do
  let output ← ReplyActions.Command.run ReplyActions.Command.machine args
  IO.print output.stdout
  IO.eprint output.stderr
  return output.code.toUInt32
