import HandleWatch.Calendar
import HandleWatch.Directory

/-!
# Worlds

What a command needs of the world around it: files, a clock, and two places for
what it tells. A sandbox is such a world, made of a directory and texts.
-/

namespace HandleWatch

/-- The world around a command. -/
structure World (m : Type → Type) where
  /-- The text of a file. -/
  read : String → m (Except FileFault String)
  /-- Makes a text the contents of a file. -/
  write : String → String → m (Except FileFault Unit)
  /-- Tells a result. -/
  tell : String → m Unit
  /-- Tells how things go. -/
  remark : String → m Unit
  /-- A clock that is right. -/
  clock : m Clock
  /-- Sets a clock right that was right when it was last set. -/
  adjust : Clock → m Clock

/-- A directory, a clock, and what was told. -/
structure Sandbox where
  directory : Directory
  clock : Clock
  results : String := ""
  remarks : String := ""

namespace Sandbox

/-- Makes a text the contents of a file. -/
def write (path text : String) (s : Sandbox) : Except FileFault Unit × Sandbox :=
  match s.directory.write path text with
  | .ok directory => (.ok (), { s with directory })
  | .error fault => (.error fault, s)

/-- The world of a sandbox. Its clock moves only when it is read. -/
def world : World (StateM Sandbox) where
  read path := fun s => (s.directory.read path, s)
  write := write
  tell text := fun s => ((), { s with results := s.results ++ text })
  remark text := fun s => ((), { s with remarks := s.remarks ++ text })
  clock := fun s => (s.clock, s)
  adjust clock := fun s => (clock, s)

end Sandbox

end HandleWatch
