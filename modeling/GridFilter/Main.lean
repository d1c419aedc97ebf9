/-
The program.

All decisions are made by `Environment.run` on values. What is left here is to
find out what is on the disk where the run may look, to read the standard input
if it is wanted, and afterwards to print what was said and to write what is new.
-/
import GridFilter.CommandLine.Run

set_option autoImplicit false

namespace GridFilter.CommandLine

/-- The paths that an invocation may look at. -/
def Invocation.paths (home : Text) (i : Invocation) : List Text :=
  let table := match i.command with
    | .filter r => r.file.toList
    | _ => []
  i.config.getD (defaultConfigPath home) :: table

/-- Whether an invocation reads the standard input. -/
def Invocation.readsInput (i : Invocation) : Bool :=
  match i.command with
  | .filter r => r.file.isNone
  | _ => false

/-- The path of a place, from the root. -/
def pathOfPlace (p : Place) : String := String.ofList ('/' :: Text.join ['/'] p)

/-- Adds to a store what is on the disk along a path, name by name. -/
def addFromDisk (store : FileStore) (p : Place) : List Text → IO FileStore
  | [] => return store
  | name :: rest => do
    if name = [] ∨ name = ['.'] then addFromDisk store p rest
    else if name = ['.', '.'] then addFromDisk store p.dropLast rest
    else
      let p := p ++ [name]
      let path := (← IO.currentDir) / pathOfPlace p
      if ← path.isDir then addFromDisk (store.put p .directory) p rest
      else if ← path.pathExists then return store.put p (.file (← IO.FS.readBinFile path))
      else return store

/-- The part of the disk that an invocation may look at. -/
def readStore (home : Text) (i : Invocation) : IO FileStore := do
  let here := (← IO.currentDir).toString.toList
  let names := (Text.splitAll '/' here).filter fun name => !name.isEmpty
  let mut store ← addFromDisk { entries := [], workingDirectory := names } [] names
  for path in i.paths home do
    let start : Place := if path.head? == some '/' then [] else names
    store ← addFromDisk store start (Text.splitAll '/' path)
  return store

/-- Writes what a run added to the store. -/
def writeNew (before after : FileStore) : IO Unit := do
  for (p, e) in after.entries.reverse do
    if (before.get? p).isNone then
      match e with
      | .directory => IO.FS.createDirAll (pathOfPlace p)
      | .file bytes => IO.FS.writeBinFile (pathOfPlace p) bytes

/-- Carries out the program. -/
def runProgram (args : List Text) : IO UInt32 := do
  let home := ((← IO.getEnv "HOME").getD "").toList
  let (store, input) ← match readArguments args with
    | .ok i => do
      let store ← readStore home i
      let input ← if i.readsInput then (← IO.getStdin).readBinToEnd else pure .empty
      pure (store, input)
    | .error _ => pure ({ entries := [], workingDirectory := [] }, .empty)
  let done := { home, input, store : Environment }.runArguments args
  writeNew store done.store
  (← IO.getStdout).putStr (String.ofList done.output)
  (← IO.getStderr).putStr (String.ofList done.errors)
  return done.exitCode.toUInt32

end GridFilter.CommandLine

/-- The entry point. -/
def main (args : List String) : IO UInt32 :=
  GridFilter.CommandLine.runProgram (args.map String.toList)
