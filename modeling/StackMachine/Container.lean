import StackMachine.BinaryFormat.Reader
import StackMachine.Machine
import StackMachine.TextFormat.Reader

/-!
# Containers

A container is read as binary if it starts with the magic bytes of that format, and as text
otherwise.  A program, or a container that has to be loaded first, is run on a machine of its own.
The result is the globals it leaves behind, beside the machine as it was left.
-/

namespace StackMachine

namespace Container

/-- Loads a program from a container of either format. -/
def load (bytes : List UInt8) : Except LoadError Program :=
  if BinaryFormat.magic.isPrefixOf bytes then
    BinaryFormat.read bytes
  else
    TextFormat.read bytes

/-- The event of a program that was loaded. -/
def loadedEvent (p : Program) : Event :=
  .loaded p.code.size p.consts.size p.names.size

end Container

/-- Runs a program on a fresh machine. -/
def Program.run (p : Program) (cfg : Config) (sink : Sink) (log : List Event) (fuel : Nat) :
    Option (Machine × Except Fault Globals) :=
  (({ sink, log } : Machine).run p cfg fuel).map fun r => (r.1, r.2.map fun _ => r.1.globals)

/-- Loads a container and runs it on a fresh machine, which is untouched if loading fails. -/
def Container.run (bytes : List UInt8) (cfg : Config) (sink : Sink) (fuel : Nat) :
    Option (Machine × Except Fault Globals) :=
  match Container.load bytes with
  | .error e => some ({ sink }, .error (.load e))
  | .ok p => p.run cfg sink [loadedEvent p] fuel

end StackMachine
