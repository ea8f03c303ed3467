import Mathlib.Data.List.Basic
import StackMachine.Command.Conduct
import StackMachine.Proofs.BinaryRoundTrip

/-!
# Binary files that stand for their sources

The command can write the program of a file, text or binary, to another file in the binary format.
The new file then stands for the old one: listed or run with the same options, both show the same.
The file that was written holds a container of the very program that was loaded (`Emits`), and from
there on the command looks at nothing but the program.  The paths of the two files come up in the log
only.

All that is asked of the files is that a file keeps what is written to it, and that no other file
changes (`Files.Keeps`).
-/

namespace StackMachine.Command

/-! ## Files that are read and written -/

namespace Files

/-- What is written to a path stays there until it is overwritten, and all other paths lead to what
they led to before, unless they lead to the same file. -/
structure Keeps {S : Type} (fs : Files S) (path : String) : Prop where
  read_of_write : ∀ {s s' : S} {bytes : List UInt8}, fs.write s path bytes = (s', .ok ()) →
    fs.read s' path = .ok bytes
  read_of_write_other : ∀ {s s' : S} {bytes content : List UInt8} {other : String},
    fs.write s path bytes = (s', .ok ()) → fs.read s other = .ok content →
      fs.read s' other = .ok content ∨ fs.read s' other = .ok bytes

/-- The file at a path holds a container of the program. -/
def Holds {S : Type} (fs : Files S) (s : S) (path : String) (p : Program) : Prop :=
  ∃ bytes, fs.read s path = .ok bytes ∧ Container.load bytes = .ok p

section

variable {S : Type} (fs : Files S) (fuel : Nat) (r : Report S)

@[simp] theorem run_read (path : String) :
    ((fs.system fuel).read path).run r = some (fs.read r.files path, r) := rfl

@[simp] theorem run_write (path : String) (bytes : List UInt8) :
    ((fs.system fuel).write path bytes).run r =
      some ((fs.write r.files path bytes).2,
        { r with files := (fs.write r.files path bytes).1 }) := rfl

@[simp] theorem run_print (bytes : List UInt8) :
    ((fs.system fuel).print bytes).run r = some ((), { r with stdout := r.stdout ++ bytes }) := rfl

@[simp] theorem run_complain (text : String) :
    ((fs.system fuel).complain text).run r = some ((), { r with stderr := r.stderr ++ text }) := rfl

@[simp] theorem run_record (entries : List String) :
    ((fs.system fuel).record entries).run r = some ((), { r with log := r.log ++ entries }) := rfl

end

end Files

/-! ## What the command does with a program -/

/-- What is to be seen of a use of the command: the exit code, what is printed and, with the entries of
the log, everything on the other stream. -/
def shown {S : Type} (outcome : UInt32 × Report S) : UInt32 × List UInt8 × String × List String :=
  (outcome.1, outcome.2.stdout, outcome.2.stderr, outcome.2.log)

/-- The outcome of a run that came to an end. -/
def outcomeOfRun {S : Type} (filter : EventFilter) (r : Report S) (ran : Machine × Except Fault Unit) :
    UInt32 × Report S :=
  let log := r.log ++ logEntries filter ran.1.events ++
    logEntries filter [.finished ran.1.state ran.1.executed]
  let stdout := r.stdout ++ ran.1.sink.content
  match ran.2 with
  | .ok () => (0, { r with stdout, log })
  | .error f => (1, { r with stdout, log, stderr := r.stderr ++ runDiagnostic ran.1.ip f })

/-- The report once the program is loaded. -/
def loaded {S : Type} (filter : EventFilter) (file : String) (p : Program) (files : S) : Report S where
  log := logEntries filter [.loading file] ++ logEntries filter [Container.loadedEvent p]
  files := files

section

variable {S : Type} {fs : Files S} {fuel : Nat} {o : Options} {filter : EventFilter} {s s' : S}
  {p : Program} {out : String}

theorem loaded_files (filter : EventFilter) (file : String) (p : Program) (s : S) :
    (loaded filter file p s).files = s := rfl

theorem load_eq_ok_iff : o.load (fs.read s o.file) = .ok p ↔ fs.Holds s o.file p := by
  unfold Options.load Files.Holds
  cases fs.read s o.file <;> simp

/-- Arguments that ask for an emission do not ask for a listing. -/
theorem disassemble_of_emitBinary {args : List String} (accepted : Options.ofArguments args = .ok o)
    (emit : o.emitBinary = some out) : o.disassemble = false := by
  unfold Options.ofArguments at accepted
  cases read : Choices.addArguments {} args with
  | error e =>
      rw [read] at accepted
      cases accepted
  | ok c =>
      rw [read] at accepted
      change c.options = .ok o at accepted
      unfold Choices.options at accepted
      split at accepted
      next => cases accepted
      next =>
        split at accepted
        next => cases accepted
        next apart =>
          cases accepted
          have emit : c.emitBinary = some out := emit
          simpa [emit] using apart

theorem use_of_error {e : LoadError} (h : o.load (fs.read s o.file) = .error e) :
    fs.use fuel o filter s =
      some (1, { log := logEntries filter [.loading o.file]
                 stderr := loadDiagnostic e
                 files := s }) := by
  simp [Files.use, conduct, h]

/-- Once the program is loaded, there is its task to do. -/
theorem use_of_holds (h : fs.Holds s o.file p) :
    fs.use fuel o filter s =
      (carryOut (fs.system fuel) filter (o.task p)).run (loaded filter o.file p s) := by
  rw [← load_eq_ok_iff] at h
  simp [Files.use, conduct, h, loaded]

theorem run_execute (fs : Files S) (fuel : Nat) (filter : EventFilter) (p : Program) (cfg : Config)
    (r : Report S) :
    (execute (fs.system fuel) filter p cfg).run r =
      (({} : Machine).run p cfg fuel).map (outcomeOfRun filter r) := by
  have ran : ((fs.system fuel).run filter p cfg).run r =
      (({} : Machine).run p cfg fuel).map fun ran =>
        (ran, { r with
          stdout := r.stdout ++ ran.1.sink.content
          log := r.log ++ logEntries filter ran.1.events }) := by
    cases ended : ({} : Machine).run p cfg fuel <;> simp [Files.system, StateT.run, ended]
  rw [execute, StateT.run_bind, ran]
  rcases ({} : Machine).run p cfg fuel with _ | ⟨m, _ | _⟩
  · rfl
  · simp [outcomeOfRun]
  · simp [outcomeOfRun]

/-! ## Emissions -/

/-- The program of one file is written to another. -/
structure Emits (fs : Files S) (s : S) (file out : String) (p : Program) (s' : S) : Prop where
  holds : fs.Holds s file p
  complete : (BinaryFormat.write p).refusal = none
  written : fs.write s out (BinaryFormat.write p).bytes = (s', .ok ())

theorem task_emit (unlisted : o.disassemble = false) (emit : o.emitBinary = some out) :
    o.task p = .emit out (BinaryFormat.write p) := by
  simp [Options.task, unlisted, emit]

/-- An emission fails if the file cannot be written, or else if the draft is not complete. -/
theorem run_emit (fs : Files S) (fuel : Nat) (filter : EventFilter) (out : String) (d : Draft)
    (r : Report S) :
    (carryOut (fs.system fuel) filter (.emit out d)).run r =
      let files := (fs.write r.files out d.bytes).1
      match (fs.write r.files out d.bytes).2, d.refusal with
      | .error message, _ =>
        some (1, { r with files, stderr := r.stderr ++ writeDiagnostic out message })
      | .ok (), some refusal =>
        some (1, { r with files, stderr := r.stderr ++ writeDiagnostic out refusal.message })
      | .ok (), none => some (0, { r with files }) := by
  rw [carryOut, Command.emit, StateT.run_bind, Files.run_write]
  cases (fs.write r.files out d.bytes).2 with
  | error message => rfl
  | ok => cases d.refusal <;> rfl

/-- To emit a program is to write it to a file, which may fail. -/
theorem use_emit (fuel : Nat) (filter : EventFilter) (h : fs.Holds s o.file p)
    (complete : (BinaryFormat.write p).refusal = none) (unlisted : o.disassemble = false)
    (emit : o.emitBinary = some out) :
    ∃ code r, fs.use fuel o filter s = some (code, r) ∧
      (code = 0 ↔ (fs.write s out (BinaryFormat.write p).bytes).2 = .ok ()) ∧
      r.files = (fs.write s out (BinaryFormat.write p).bytes).1 := by
  simp only [use_of_holds h, task_emit unlisted emit, run_emit, complete, loaded_files]
  cases (fs.write s out (BinaryFormat.write p).bytes).2 with
  | ok => exact ⟨0, _, rfl, by simp, rfl⟩
  | error message => exact ⟨1, _, rfl, by simp, rfl⟩

/-- A program is emitted successfully if all of it was written. -/
theorem emits_of_use {r : Report S} (unlisted : o.disassemble = false)
    (emit : o.emitBinary = some out) (h : fs.use fuel o filter s = some (0, r)) :
    ∃ p, Emits fs s o.file out p r.files := by
  cases read : o.load (fs.read s o.file) with
  | error e =>
      rw [use_of_error read] at h
      cases h
  | ok p =>
      have holds := load_eq_ok_iff.mp read
      cases complete : (BinaryFormat.write p).refusal with
      | none =>
          obtain ⟨code, r', used, code_eq, files_eq⟩ :=
            use_emit fuel filter holds complete unlisted emit
          cases used.symm.trans h
          exact ⟨p, holds, complete, Prod.ext files_eq.symm (code_eq.mp rfl)⟩
      | some refusal =>
          simp only [use_of_holds holds, task_emit unlisted emit, run_emit, complete, loaded_files] at h
          cases written : (fs.write s out (BinaryFormat.write p).bytes).2 <;> simp [written] at h

/-- The new file holds the program. -/
theorem Emits.holds_out {file : String} (h : Emits fs s file out p s') (keeps : fs.Keeps out) :
    fs.Holds s' out p :=
  ⟨_, keeps.read_of_write h.written, BinaryFormat.load_write_of_complete h.complete⟩

/-- The old file still holds the program, even if it is the new one. -/
theorem Emits.holds_file {file : String} (h : Emits fs s file out p s') (keeps : fs.Keeps out) :
    fs.Holds s' file p := by
  obtain ⟨bytes, before, loads⟩ := h.holds
  rcases keeps.read_of_write_other h.written before with same | new
  · exact ⟨bytes, same, loads⟩
  · exact ⟨_, new, BinaryFormat.load_write_of_complete h.complete⟩

/-! ## Files that stand for each other -/

theorem logEntries_of_quiet (quiet : ∀ e, filter.shows e = false) (events : List Event) :
    logEntries filter events = [] := by
  simp [logEntries, quiet]

/-- Where the log is off, the command shows the same for all files that hold the same program. -/
theorem shown_use_eq {file file' : String} (quiet : ∀ e, filter.shows e = false)
    (h : fs.Holds s file p) (h' : fs.Holds s' file' p) (unemitted : o.emitBinary = none) :
    (fs.use fuel { o with file := file' } filter s').map shown =
      (fs.use fuel { o with file } filter s).map shown := by
  -- With the log off, the path of the file has left no trace once the program is loaded.
  have start (file : String) (s : S) : loaded filter file p s = { files := s } := by
    simp [loaded, logEntries_of_quiet quiet]
  rw [use_of_holds (o := { o with file }) h, use_of_holds (o := { o with file := file' }) h',
    start, start]
  by_cases list : o.disassemble = true
  · simp [Options.task, list, carryOut, shown]
  · simp only [Options.task, list, unemitted, carryOut, Bool.false_eq_true, if_false, run_execute,
      Option.map_map]
    refine congrArg (Option.map · _) (funext fun ran => ?_)
    rcases ran with ⟨m, _ | _⟩ <;> rfl

end

/-- **An emitted binary stands for its source.**  Suppose that the program of a file, in either format,
was written to another file, which keeps what is written to it.  With the log off, and with any options
for a listing or a run, the command then shows the same for both files: the exit code, what is printed
and the diagnostics, and it comes to an end for both or for neither.  It does so whether the source is
looked at before or after; it may be the very file that was written.  To emit the new file again
succeeds wherever a file can be written, and gives the same bytes. -/
theorem emitted_binary_equivalent {S : Type} {fs : Files S} {fuel : Nat} {args : List String}
    {e : Options} {out : String} {filter : EventFilter} {s : S} {r : Report S}
    (accepted : Options.ofArguments args = .ok e) (emit : e.emitBinary = some out)
    (keeps : fs.Keeps out) (emitted : fs.use fuel e filter s = some (0, r)) :
    (∀ (fuel : Nat) (o : Options) (quiet : EventFilter),
      o.emitBinary = none → (∀ event, quiet.shows event = false) →
        let seen (file : String) (s : S) := (fs.use fuel { o with file } quiet s).map shown
        seen out r.files = seen e.file s ∧ seen e.file r.files = seen e.file s) ∧
    ∃ bytes, fs.read r.files out = .ok bytes ∧
      ∀ (fuel : Nat) (again : String) (filter : EventFilter), ∃ code r',
        fs.use fuel { e with file := out, emitBinary := some again } filter r.files = some (code, r') ∧
          (code = 0 ↔ (fs.write r.files again bytes).2 = .ok ()) ∧
          (code = 0 → fs.Keeps again → fs.read r'.files again = .ok bytes) := by
  have unlisted : e.disassemble = false := disassemble_of_emitBinary accepted emit
  obtain ⟨p, emits⟩ := emits_of_use unlisted emit emitted
  refine ⟨?_, _, keeps.read_of_write emits.written, ?_⟩
  · intro fuel o quiet unemitted off seen
    exact ⟨shown_use_eq off emits.holds (emits.holds_out keeps) unemitted,
      shown_use_eq off emits.holds (emits.holds_file keeps) unemitted⟩
  · intro fuel again filter
    obtain ⟨code, r', used, code_eq, files_eq⟩ :=
      use_emit (o := { e with file := out, emitBinary := some again }) fuel filter
        (emits.holds_out keeps) emits.complete unlisted rfl
    refine ⟨code, r', used, code_eq, ?_⟩
    intro succeeded keeps'
    rw [files_eq]
    exact keeps'.read_of_write (Prod.ext rfl (code_eq.mp succeeded))

/-- Files that are found by their paths and by nothing else. -/
def shelf : Files (List (String × List UInt8)) where
  read s path := match s.lookup path with
    | some bytes => .ok bytes
    | none => .error "No such file or directory (os error 2)"
  write s path bytes := (AssocList.insert path bytes s, .ok ())

theorem keeps_shelf (path : String) : shelf.Keeps path where
  read_of_write := by
    rintro s _ bytes ⟨⟩
    simp [shelf, AssocList.lookup_insert]
  read_of_write_other := by
    rintro s _ bytes content other ⟨⟩ before
    by_cases same : other = path
    · exact Or.inr (by simp [shelf, AssocList.lookup_insert, same])
    · refine Or.inl (Eq.trans ?_ before)
      simp [shelf, AssocList.lookup_insert, same]

/-- Prints a line, with an operand that means nothing, and comes to an instruction that no machine
knows. -/
def stray : Program where
  code := #[⟨.known .loadConst, 0⟩, ⟨.known .print, 7⟩, ⟨.unknown "FROB", 0⟩]
  consts := #[-5]
  names := #["a b"]

/-- A text of this program. -/
def strayText : String :=
  "+3\nLOAD_CONST\n PRINT 07\r\nFROB\n1\n-5\n1\na b\n\n"

/-- The text is emitted as `b`, and `b` is emitted over itself.  Both files fault with the same line
printed, the same diagnostic and the same exit code. -/
theorem emitted_binary_equivalent_stray :
    let quiet := logFilter false none
    let files := [("/tmp/a", Utf8.encode strayText)]
    ∃ e r, Options.ofArguments ["--emit-binary", "/tmp/b", "/tmp/a"] = .ok e ∧
      shelf.use 0 e quiet files = some (0, r) ∧ (∀ event, quiet.shows event = false) ∧
      (shelf.use 9 { file := "/tmp/a" } quiet files).map shown =
        some (1, Utf8.encode "-5\n", "Runtime error at instruction 2: unknown opcode: FROB\n", []) ∧
      (shelf.use 9 { file := "/tmp/b" } quiet r.files).map shown =
        some (1, Utf8.encode "-5\n", "Runtime error at instruction 2: unknown opcode: FROB\n", []) ∧
      ∃ bytes r', shelf.read r.files "/tmp/b" = .ok bytes ∧
        shelf.use 0 { file := "/tmp/b", emitBinary := some "/tmp/b" } quiet r.files = some (0, r') ∧
        shelf.read r'.files "/tmp/b" = .ok bytes := by
  intro quiet files
  have off : ∀ event, quiet.shows event = false := by
    intro event
    cases event <;> rfl
  have loads : Container.load (Utf8.encode strayText) = .ok stray := by
    rw [Container.load, TextFormat.read, Utf8.decode?_encode]
    decide +kernel
  have holds : shelf.Holds files "/tmp/a" stray := ⟨Utf8.encode strayText, rfl, loads⟩
  have accepted : Options.ofArguments ["--emit-binary", "/tmp/b", "/tmp/a"] =
      .ok { file := "/tmp/a", emitBinary := some "/tmp/b" } := by decide +kernel
  obtain ⟨code, r, emitted, succeeded, _⟩ :=
    use_emit (o := { file := "/tmp/a", emitBinary := some "/tmp/b" }) 0 quiet holds (by decide +kernel)
      rfl rfl
  obtain rfl : code = 0 := succeeded.mpr rfl
  obtain ⟨same, bytes, written, again⟩ :=
    emitted_binary_equivalent accepted rfl (keeps_shelf "/tmp/b") emitted
  have source : (shelf.use 9 { file := "/tmp/a" } quiet files).map shown =
      some (1, Utf8.encode "-5\n", "Runtime error at instruction 2: unknown opcode: FROB\n", []) := by
    rw [use_of_holds (o := { file := "/tmp/a" }) holds]
    decide +kernel
  obtain ⟨code, r', used, succeeded', identical⟩ := again 0 "/tmp/b" quiet
  obtain rfl : code = 0 := succeeded'.mpr rfl
  exact ⟨_, r, accepted, emitted, off, source,
    (same 9 { file := "/tmp/a" } quiet rfl off).1.trans source, bytes, r', written, used, identical rfl (keeps_shelf "/tmp/b")⟩

end StackMachine.Command
