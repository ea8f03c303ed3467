import StackMachine.Machine

/-!
# Command-line options

Arguments are read from left to right.  Flags and settings may stand anywhere before `--`; short
flags may share one dash; a setting takes its value after `=` or from the next argument.  Reading
ends at the first argument that cannot be accepted, or that asks for the help or the version.
-/

namespace StackMachine.Command

/-- What the command is asked to do. -/
structure Options : Type where
  file : String
  /-- Show the program instead of running it. -/
  disassemble : Bool := false
  /-- Write the program to this file in the binary format instead of running it. -/
  emitBinary : Option String := none
  maxStack : Nat := defaultMaxStack
  wrapping : Bool := false
  verbose : Bool := false
deriving DecidableEq, Repr

/-- Why arguments are not accepted. -/
inductive UsageError : Type where
  | unknownOption (name : String)
  | repeatedOption (name : String)
  | missingValue (name : String)
  | unexpectedValue (name : String)
  | emptyValue (name : String)
  | invalidSize (text : String)
  | unexpectedArgument (text : String)
  | missingFile
  | conflict
deriving DecidableEq, Repr

namespace UsageError

def message : UsageError → String
  | unknownOption name => s!"unknown option: {name}"
  | repeatedOption name => s!"option given twice: {name}"
  | missingValue name => s!"option needs a value: {name}"
  | unexpectedValue name => s!"option takes no value: {name}"
  | emptyValue name => s!"empty value: {name}"
  | invalidSize text => s!"not a size: {text}"
  | unexpectedArgument text => s!"unexpected argument: {text}"
  | missingFile => "no bytecode file given"
  | conflict => "--disassemble and --emit-binary exclude each other"

end UsageError

/-- How the reading of arguments ends early. -/
inductive Ending : Type where
  | help
  | version
  | usage (error : UsageError)
deriving DecidableEq, Repr

/-! ## Arguments -/

/-- An option without a value. -/
inductive Flag : Type where
  | disassemble
  | wrapping
  | verbose
  | help
  | version
deriving DecidableEq, Repr

/-- An option with a value. -/
inductive Setting : Type where
  | emitBinary
  | maxStack
deriving DecidableEq, Repr

namespace Flag

def ofLong? : String → Option Flag
  | "disassemble" => some disassemble
  | "wrapping" => some wrapping
  | "verbose" => some verbose
  | "help" => some help
  | "version" => some version
  | _ => none

def ofShort? : Char → Option Flag
  | 'd' => some disassemble
  | 'w' => some wrapping
  | 'v' => some verbose
  | 'h' => some help
  | 'V' => some version
  | _ => none

end Flag

namespace Setting

def ofLong? : String → Option Setting
  | "emit-binary" => some emitBinary
  | "max-stack" => some maxStack
  | _ => none

end Setting

/-- The form of an argument. -/
inductive Argument : Type where
  /-- `--` -/
  | endOfOptions
  /-- `--name` or `--name=value` -/
  | long (name : String) (value : Option String)
  /-- `-` and some letters -/
  | short (letters : List Char)
  /-- Everything else, a single `-` included. -/
  | plain (text : String)
deriving DecidableEq, Repr

namespace Argument

def ofText (s : String) : Argument :=
  match s.toList with
  | ['-', '-'] => endOfOptions
  | '-' :: '-' :: body =>
    let name := body.takeWhile (· ≠ '=')
    let value := match body.dropWhile (· ≠ '=') with
      | [] => none
      | _ :: value => some (String.ofList value)
    long (String.ofList name) value
  | '-' :: letter :: letters => short (letter :: letters)
  | _ => plain s

end Argument

/-! ## Reading -/

/-- What the arguments read so far have settled. -/
structure Choices : Type where
  file : Option String := none
  disassemble : Bool := false
  emitBinary : Option String := none
  maxStack : Option Nat := none
  wrapping : Bool := false
  verbose : Bool := false
deriving DecidableEq, Repr

namespace Choices

def addFlag (c : Choices) : Flag → Except Ending Choices
  | .disassemble =>
    if c.disassemble then .error (.usage (.repeatedOption "disassemble"))
    else .ok { c with disassemble := true }
  | .wrapping =>
    if c.wrapping then .error (.usage (.repeatedOption "wrapping"))
    else .ok { c with wrapping := true }
  | .verbose =>
    if c.verbose then .error (.usage (.repeatedOption "verbose"))
    else .ok { c with verbose := true }
  | .help => .error .help
  | .version => .error .version

def addLetter (c : Choices) (letter : Char) : Except Ending Choices :=
  match Flag.ofShort? letter with
  | some flag => c.addFlag flag
  | none => .error (.usage (.unknownOption (String.singleton letter)))

def addSetting (c : Choices) (value : String) : Setting → Except Ending Choices
  | .emitBinary =>
    if c.emitBinary.isSome then .error (.usage (.repeatedOption "emit-binary"))
    else if value = "" then .error (.usage (.emptyValue "emit-binary"))
    else .ok { c with emitBinary := some value }
  | .maxStack =>
    if c.maxStack.isSome then .error (.usage (.repeatedOption "max-stack"))
    else match Decimal.size? value.toList with
      | some n => .ok { c with maxStack := some n }
      | none => .error (.usage (.invalidSize value))

def addFile (c : Choices) (path : String) : Except Ending Choices :=
  if c.file.isSome then .error (.usage (.unexpectedArgument path))
  else if path = "" then .error (.usage (.emptyValue "file"))
  else .ok { c with file := some path }

/-- Whether an argument may be the value of the setting before it. -/
def mayBeValue (arg : String) : Bool :=
  arg = "-" || arg.toList.head? ≠ some '-'

/-- Reads arguments one after the other. -/
def addArguments (c : Choices) : List String → Except Ending Choices
  | [] => .ok c
  | arg :: rest =>
    match Argument.ofText arg with
    | .endOfOptions => rest.foldlM addFile c
    | .plain text => do addArguments (← c.addFile text) rest
    | .short letters => do addArguments (← letters.foldlM addLetter c) rest
    | .long name value =>
      match Flag.ofLong? name, Setting.ofLong? name, value with
      | some flag, _, none => do addArguments (← c.addFlag flag) rest
      | some _, _, some _ => .error (.usage (.unexpectedValue name))
      | none, some setting, some value => do addArguments (← c.addSetting value setting) rest
      | none, some setting, none =>
        match rest with
        | next :: rest =>
          if mayBeValue next then do addArguments (← c.addSetting next setting) rest
          else .error (.usage (.missingValue name))
        | [] => .error (.usage (.missingValue name))
      | none, none, _ => .error (.usage (.unknownOption name))

/-- The options chosen, if they make sense together. -/
def options (c : Choices) : Except Ending Options :=
  match c.file with
  | none => .error (.usage .missingFile)
  | some file =>
    if c.disassemble && c.emitBinary.isSome then
      .error (.usage .conflict)
    else
      .ok {
        file
        disassemble := c.disassemble
        emitBinary := c.emitBinary
        maxStack := c.maxStack.getD defaultMaxStack
        wrapping := c.wrapping
        verbose := c.verbose }

end Choices

namespace Options

/-- Reads the arguments of the command. -/
def ofArguments (args : List String) : Except Ending Options := do
  let choices ← Choices.addArguments {} args
  choices.options

/-- How the machine is to be set up. -/
def config (o : Options) : Config :=
  { maxStack := o.maxStack, overflow := if o.wrapping then .wrap else .fault }

end Options

end StackMachine.Command
