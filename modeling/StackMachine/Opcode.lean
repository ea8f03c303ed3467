/-!
# Opcodes

The instruction set.  Every opcode has a name, by which texts know it, and a byte, by which binary
containers know it; both are unique (`ofName?_name`, `ofByte?_byte`).
-/

namespace StackMachine

/-- The arithmetic operations. -/
inductive Arith : Type where
  | add
  | sub
  | mul
  | div
deriving DecidableEq, Repr

/-- The comparisons. -/
inductive Relation : Type where
  | lt
  | gt
  | le
  | ge
  | eq
  | ne
deriving DecidableEq, Repr

/-- The instruction set of the machine. -/
inductive Opcode : Type where
  /-- Pushes a constant. -/
  | loadConst
  /-- Pushes the value of a global. -/
  | loadName
  /-- Pops a value into a global. -/
  | storeName
  /-- Pops two values and pushes the result. -/
  | arith (op : Arith)
  /-- Pops two values and pushes whether they are so related. -/
  | compare (rel : Relation)
  /-- Goes on at another instruction. -/
  | jump
  /-- Pops a value and jumps if its truth is `sense`. -/
  | jumpIf (sense : Bool)
  /-- Drops the top value. -/
  | pop
  /-- Pops a value and writes it on a line of its own. -/
  | print
  /-- Ends the run. -/
  | halt
deriving DecidableEq, Repr

namespace Arith

/-- The name of the opcode that performs the operation. -/
def name : Arith → String
  | add => "ADD"
  | sub => "SUB"
  | mul => "MUL"
  | div => "DIV"

end Arith

namespace Opcode

/-- Every opcode, in the order of the bytes. -/
def all : List Opcode :=
  [loadConst, loadName, storeName,
    arith .add, arith .sub, arith .mul, arith .div,
    compare .lt, compare .gt, compare .le, compare .ge, compare .eq, compare .ne,
    jump, jumpIf false, jumpIf true, pop, print, halt]

theorem mem_all (op : Opcode) : op ∈ all := by
  rcases op with _ | _ | _ | op | rel | _ | sense | _ | _ | _ <;>
    first
      | decide
      | (cases op <;> decide)
      | (cases rel <;> decide)
      | (cases sense <;> decide)

/-- The name of an opcode. -/
def name : Opcode → String
  | loadConst => "LOAD_CONST"
  | loadName => "LOAD_NAME"
  | storeName => "STORE_NAME"
  | arith op => op.name
  | compare .lt => "CMP_LT"
  | compare .gt => "CMP_GT"
  | compare .le => "CMP_LE"
  | compare .ge => "CMP_GE"
  | compare .eq => "CMP_EQ"
  | compare .ne => "CMP_NEQ"
  | jump => "JUMP"
  | jumpIf false => "JUMP_IF_FALSE"
  | jumpIf true => "JUMP_IF_TRUE"
  | pop => "POP"
  | print => "PRINT"
  | halt => "HALT"

/-- The byte of an opcode. -/
def byte : Opcode → UInt8
  | loadConst => 0x01
  | loadName => 0x02
  | storeName => 0x03
  | arith .add => 0x10
  | arith .sub => 0x11
  | arith .mul => 0x12
  | arith .div => 0x13
  | compare .lt => 0x20
  | compare .gt => 0x21
  | compare .le => 0x22
  | compare .ge => 0x23
  | compare .eq => 0x24
  | compare .ne => 0x25
  | jump => 0x30
  | jumpIf false => 0x31
  | jumpIf true => 0x32
  | pop => 0x40
  | print => 0x41
  | halt => 0xF0

/-- Whether the operand of the opcode means something. -/
def takesOperand : Opcode → Bool
  | loadConst | loadName | storeName | jump | jumpIf _ => true
  | _ => false

/-- The number of values the opcode takes off the stack. -/
def pops : Opcode → Nat
  | arith _ | compare _ => 2
  | storeName | jumpIf _ | pop | print => 1
  | _ => 0

/-- The number of values the opcode leaves on the stack. -/
def pushes : Opcode → Nat
  | loadConst | loadName | arith _ | compare _ => 1
  | _ => 0

/-- The opcode of a name. -/
def ofName? (s : String) : Option Opcode :=
  all.find? fun op => op.name = s

/-- The opcode of a byte. -/
def ofByte? (b : UInt8) : Option Opcode :=
  all.find? fun op => op.byte = b

theorem ofName?_name (op : Opcode) : ofName? op.name = some op := by
  have h : ∀ op ∈ all, ofName? op.name = some op := by decide
  exact h op op.mem_all

theorem ofByte?_byte (op : Opcode) : ofByte? op.byte = some op := by
  have h : ∀ op ∈ all, ofByte? op.byte = some op := by decide
  exact h op op.mem_all

/-- A name determines its opcode. -/
theorem ofName?_eq_some_iff {s : String} {op : Opcode} : ofName? s = some op ↔ op.name = s := by
  constructor
  · intro h
    simpa using List.find?_some h
  · rintro rfl
    exact ofName?_name op

/-- A byte determines its opcode. -/
theorem ofByte?_eq_some_iff {b : UInt8} {op : Opcode} : ofByte? b = some op ↔ op.byte = b := by
  constructor
  · intro h
    simpa using List.find?_some h
  · rintro rfl
    exact ofByte?_byte op

end Opcode

end StackMachine
