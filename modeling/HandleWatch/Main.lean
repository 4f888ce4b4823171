import HandleWatch.Command.Perform
import Std.Time.DateTime.Timestamp

/-!
# The command line

Performs commands in the world outside: with its files, its clock and its two
streams.
-/

namespace HandleWatch

/-- The number of an error of the system, whether it was told with a sign or
    not. -/
def errorNumber (code : UInt32) : Nat := min code.toNat (-code).toNat

/-- The fault that an error of the system is. -/
def FileFault.ofError (e : IO.Error) : FileFault :=
  match e with
  | .noFileOrDirectory _ _ _ => .notFound
  | .inappropriateType _ code _ =>
    if errorNumber code = 20 then .notADirectory
    else if errorNumber code = 21 then .isADirectory
    else .other (toString e)
  | .invalidArgument _ code _ =>
    if errorNumber code = 36 then .nameTooLong else .other (toString e)
  | _ => .other (toString e)

/-- The result of an action, or the fault by which it failed. -/
def attempt {α : Type} (action : IO α) : IO (Except FileFault α) := do
  match ← action.toBaseIO with
  | .ok a => return .ok a
  | .error e => return .error (.ofError e)

/-- A clock that shows the time. -/
def systemClock : IO Clock := do
  let now ← Std.Time.Timestamp.now
  return { reading := fun _ => ⟨now.val.second.val, now.val.nano.val.toNat⟩ }

/-- The world outside. -/
def systemWorld : World IO where
  read path := do
    match ← attempt (IO.FS.readBinFile path) with
    | .ok bytes => return decodeText bytes
    | .error fault => return .error fault
  write path text := attempt (IO.FS.writeFile path text)
  tell text := IO.print text
  remark text := IO.eprint text
  clock := systemClock
  adjust _ := systemClock

end HandleWatch

/-- Performs the command that the arguments ask for. -/
def main (args : List String) : IO UInt32 :=
  HandleWatch.Command.performArguments HandleWatch.systemWorld args
