import StackMachine.Command.Conduct

/-!
# The command line

The outer layer: the system that the command is used on.  A run is taken a number of steps at a time,
so that lines appear as they are printed.
-/

namespace StackMachine.Command

/-- How the operating system words a failure. -/
def systemMessage : IO.Error → String
  | .noFileOrDirectory .. => "No such file or directory (os error 2)"
  | .inappropriateType _ code details =>
    -- The code comes with either sign.
    if code = 20 || code = 0 - 20 then "Not a directory (os error 20)"
    else if code = 21 || code = 0 - 21 then "Is a directory (os error 21)"
    else details
  | e => toString e

/-- What an attempt brings, its failure in words. -/
def attempt {α : Type} (action : IO α) : IO (Except String α) := do
  try
    return .ok (← action)
  catch e =>
    return .error (systemMessage e)

def readFile (path : String) : IO (List UInt8) := do
  return (← IO.FS.readBinFile path).data.toList

def printBytes (bytes : List UInt8) : IO Unit := do
  let out ← IO.getStdout
  out.write ⟨bytes.toArray⟩
  out.flush

def printText (text : String) : IO Unit := do
  let err ← IO.getStderr
  err.putStr text

def printEntries (entries : List String) : IO Unit := do
  for entry in entries do
    printText (entry ++ "\n")

/-- Takes a machine to where it stops, and passes on what it prints and logs on the way. -/
partial def drive (filter : EventFilter) (p : Program) (config : Config) (m : Machine) :
    IO Machine := do
  let m := m.settle p config 4096
  printBytes m.sink.content
  printEntries (logEntries filter m.events)
  let m := { m with sink := {}, log := [] }
  if m.Running then drive filter p config m else return m

def runProgram (filter : EventFilter) (p : Program) (config : Config) :
    IO (Machine × Except Fault Unit) := do
  let (m, result) := (← drive filter p config {}).conclude
  printEntries (logEntries filter m.events)
  return (m, result)

/-- The files and streams of the process. -/
def console : System IO where
  read path := attempt (readFile path)
  write path bytes := attempt (IO.FS.writeBinFile path ⟨bytes.toArray⟩)
  print := printBytes
  complain := printText
  record := printEntries
  run := runProgram

end StackMachine.Command

def main (args : List String) : IO UInt32 := do
  StackMachine.Command.invoke StackMachine.Command.console args (← IO.getEnv "MPVM_LOG")
