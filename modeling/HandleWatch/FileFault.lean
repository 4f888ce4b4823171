import HandleWatch.Text.Quoted

/-!
# Faults of files

Why a file could not be read or written, with the two wordings of each fault: a
sentence (`message`), and a description of its parts (`describe`).
-/

namespace HandleWatch

/-- Why a file could not be read or written. -/
inductive FileFault where
  | notFound
  | notADirectory
  | isADirectory
  | nameTooLong
  /-- The bytes are no text. -/
  | notText
  /-- Anything else, in its own words. -/
  | other (message : String)
  deriving DecidableEq, Repr

namespace FileFault

/-- The number, the kind and the words of a fault that the system tells. -/
def system? : FileFault → Option (Nat × String × String)
  | notFound => some (2, "NotFound", "No such file or directory")
  | notADirectory => some (20, "NotADirectory", "Not a directory")
  | isADirectory => some (21, "IsADirectory", "Is a directory")
  | nameTooLong => some (36, "InvalidFilename", "File name too long")
  | notText => none
  | other _ => none

/-- What is wrong with bytes that are no text. -/
def notTextWords : String := "stream did not contain valid UTF-8"

/-- The sentence for a fault. -/
def message (f : FileFault) : String :=
  match f.system?, f with
  | some (code, _, words), _ => words ++ " (os error " ++ String.ofList (decimal code) ++ ")"
  | none, other message => message
  | none, _ => notTextWords

/-- The description of a fault. -/
def describe (f : FileFault) : String :=
  match f.system?, f with
  | some (code, kind, words), _ =>
    "Os \x7b code: " ++ String.ofList (decimal code) ++ ", kind: " ++ kind ++ ", message: " ++
      quoted words ++ " \x7d"
  | none, other message => "Custom \x7b kind: Other, error: " ++ quoted message ++ " \x7d"
  | none, _ => "Error \x7b kind: InvalidData, message: " ++ quoted notTextWords ++ " \x7d"

end FileFault

end HandleWatch
