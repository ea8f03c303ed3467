import StackMachine.BinaryFormat.Writer
import StackMachine.Command.Options
import StackMachine.Container
import StackMachine.EventFilter

/-!
# The command

The command loads a program and lists it, writes it in the binary format, or runs it.  `conduct` is
the whole of it.  Whatever it needs from outside, the files, the streams and the time that a run takes,
it gets from a `System`, so that the command that is used and the command that is reasoned about are
one and the same function.
-/

namespace StackMachine.Command

/-! ## Tasks -/

/-- What is left to do once the program is loaded. -/
inductive Task : Type where
  | list (text : String)
  | emit (path : String) (draft : Draft)
  | run (program : Program) (config : Config)

namespace Options

/-- The program in the file, given what reading the file brought. -/
def load (o : Options) (content : Except String (List UInt8)) : Except LoadError Program :=
  match content with
  | .ok bytes => Container.load bytes
  | .error message => .error (.io (o.file ++ ": " ++ message))

/-- What is to be done with a program. -/
def task (o : Options) (p : Program) : Task :=
  if o.disassemble then .list p.listing
  else match o.emitBinary with
    | some path => .emit path (BinaryFormat.write p)
    | none => .run p o.config

end Options

/-! ## Diagnostics -/

def loadDiagnostic (e : LoadError) : String :=
  "Error: " ++ (Fault.load e).message ++ "\n"

def writeDiagnostic (path message : String) : String :=
  s!"Error: failed to write {path}: {message}\n"

def runDiagnostic (ip : Nat) (f : Fault) : String :=
  let message := f.message
  s!"Runtime error at instruction {ip}: {message}\n"

def usageDiagnostic (e : UsageError) : String :=
  let message := e.message
  s!"error: {message}\n\nUsage: mpvm [OPTIONS] <FILE>\n"

def versionText : String :=
  "mpvm 0.1.0\n"

def helpText : String :=
  String.join [
    "Usage: mpvm [OPTIONS] <FILE>\n\n",
    "Options:\n",
    "  -d, --disassemble        Print a listing of the program instead of running it\n",
    "      --emit-binary <OUT>  Write the program to OUT in the binary format and exit\n",
    "      --max-stack <N>      Limit the stack to N values [default: 10000]\n",
    "  -w, --wrapping           Wrap on integer overflow instead of faulting\n",
    "  -v, --verbose            Log what is done\n",
    "  -h, --help               Print help\n",
    "  -V, --version            Print version\n"]

/-! ## The log -/

/-- The filter for the log.  A setting that makes sense goes before the options. -/
def logFilter (verbose : Bool) (setting : Option String) : EventFilter :=
  (setting.bind EventFilter.ofText?).getD (.upTo (if verbose then .debug else .error))

/-- The entries of a log. -/
def logEntries (filter : EventFilter) (events : List Event) : List String :=
  (events.filter filter.shows).map Event.render

/-! ## Systems -/

/-- What the command asks of the system it is used on. -/
structure System (M : Type → Type) where
  /-- Reads a file.  A failure is told in the words of the system. -/
  read : String → M (Except String (List UInt8))
  /-- Writes a file, be it new or not. -/
  write : String → List UInt8 → M (Except String Unit)
  /-- Prints on the standard output. -/
  print : List UInt8 → M Unit
  /-- Prints a diagnostic. -/
  complain : String → M Unit
  /-- Adds entries to the log. -/
  record : List String → M Unit
  /-- Runs a program on a new machine, up to its end or to a fault.  What the machine prints is
  printed, and what it logs is recorded as far as the filter shows it. -/
  run : EventFilter → Program → Config → M (Machine × Except Fault Unit)

/-! ## The whole command -/

section

variable {M : Type → Type} [Monad M]

/-- Writes a draft to a file, and tells if the file or the draft is the reason why it is not all
there. -/
def emit (sys : System M) (path : String) (draft : Draft) : M UInt32 := do
  match ← sys.write path draft.bytes with
  | .error message =>
    sys.complain (writeDiagnostic path message)
    return 1
  | .ok () =>
    match draft.refusal with
    | none => return 0
    | some r =>
      sys.complain (writeDiagnostic path r.message)
      return 1

/-- Runs a program, and tells if it came to a fault. -/
def execute (sys : System M) (filter : EventFilter) (p : Program) (config : Config) : M UInt32 := do
  let (m, result) ← sys.run filter p config
  sys.record (logEntries filter [.finished m.state m.executed])
  match result with
  | .ok () => return 0
  | .error f =>
    sys.complain (runDiagnostic m.ip f)
    return 1

def carryOut (sys : System M) (filter : EventFilter) : Task → M UInt32
  | .list text => do
    sys.print (Utf8.encode text)
    return 0
  | .emit path draft => emit sys path draft
  | .run p config => execute sys filter p config

/-- Loads the program and does what the options ask for.  The result is the exit code. -/
def conduct (sys : System M) (o : Options) (filter : EventFilter) : M UInt32 := do
  sys.record (logEntries filter [.loading o.file])
  match o.load (← sys.read o.file) with
  | .error e =>
    sys.complain (loadDiagnostic e)
    return 1
  | .ok p =>
    sys.record (logEntries filter [Container.loadedEvent p])
    carryOut sys filter (o.task p)

/-- Reads the arguments and does what they ask for.  `setting` is what the environment says about
the log. -/
def invoke (sys : System M) (args : List String) (setting : Option String) : M UInt32 := do
  match Options.ofArguments args with
  | .ok o => conduct sys o (logFilter o.verbose setting)
  | .error .help =>
    sys.print (Utf8.encode helpText)
    return 0
  | .error .version =>
    sys.print (Utf8.encode versionText)
    return 0
  | .error (.usage e) =>
    sys.complain (usageDiagnostic e)
    return 2

end

/-! ## Reports

To reason about the command, its system is taken to be a state: the files as they are by now, with
everything that was printed and logged. -/

/-- How files are read and written.  A write that fails may leave its traces. -/
structure Files (S : Type) where
  read : S → String → Except String (List UInt8)
  write : S → String → List UInt8 → S × Except String Unit

/-- What the command has brought about. -/
structure Report (S : Type) where
  stdout : List UInt8 := []
  /-- Diagnostics, apart from the log. -/
  stderr : String := ""
  log : List String := []
  /-- The files by now. -/
  files : S

namespace Files

variable {S : Type}

/-- The system on these files.  There is no result if a run takes more than `fuel` steps. -/
def system (fs : Files S) (fuel : Nat) : System (StateT (Report S) Option) where
  read path := fun r => some (fs.read r.files path, r)
  write path bytes := fun r =>
    let (files, result) := fs.write r.files path bytes
    some (result, { r with files })
  print bytes := modify fun r => { r with stdout := r.stdout ++ bytes }
  complain text := modify fun r => { r with stderr := r.stderr ++ text }
  record entries := modify fun r => { r with log := r.log ++ entries }
  run filter p config := fun r => do
    let (m, result) ← ({} : Machine).run p config fuel
    let stdout := r.stdout ++ m.sink.content
    let log := r.log ++ logEntries filter m.events
    return ((m, result), { r with stdout, log })

/-- One use of the command on these files: its exit code and its report. -/
def use (fs : Files S) (fuel : Nat) (o : Options) (filter : EventFilter) (files : S) :
    Option (UInt32 × Report S) :=
  (conduct (fs.system fuel) o filter).run { files }

end Files

end StackMachine.Command
