import StackMachine.Fault

/-!
# Arithmetic

An operation computes its result in two ways.  The checked result is there only if a word can hold the
exact one; the wrapped result is the word that agrees with it modulo `2^64`.  The overflow policy
decides what becomes of the two (`OverflowPolicy.resolve`).  Sums, differences and products are this
and nothing else; a quotient is asked first whether there is anything to divide by.
-/

namespace StackMachine

/-- What becomes of a result that no word can hold. -/
inductive OverflowPolicy : Type where
  | fault
  | wrap
deriving DecidableEq, Repr

namespace OverflowPolicy

/-- The result of an operation, given its checked and its wrapped result. -/
def resolve (policy : OverflowPolicy) (op : Arith) (checked : Option Word) (wrapped : Word) :
    Except Fault Word :=
  match checked, policy with
  | some w, _ => .ok w
  | none, .wrap => .ok wrapped
  | none, .fault => .error (.arithmeticOverflow op)

end OverflowPolicy

namespace Word

def checkedAdd (a b : Word) : Option Word :=
  ofInt? (a.toInt + b.toInt)

def checkedSub (a b : Word) : Option Word :=
  ofInt? (a.toInt - b.toInt)

def checkedMul (a b : Word) : Option Word :=
  ofInt? (a.toInt * b.toInt)

/-- The quotient, cut toward zero. -/
def checkedDiv (a b : Word) : Option Word :=
  if b = 0 then none else ofInt? (a.toInt.tdiv b.toInt)

end Word

namespace Arith

/-- Computes with two words in both ways. -/
def arithmetic (policy : OverflowPolicy) (op : Arith) (checked : Word → Word → Option Word)
    (wrapping : Word → Word → Word) (a b : Word) : Except Fault Word :=
  policy.resolve op (checked a b) (wrapping a b)

/-- Divides a word by another, which must not be zero. -/
def divide (policy : OverflowPolicy) (a b : Word) : Except Fault Word :=
  if b = 0 then .error .divisionByZero
  else policy.resolve .div (a.checkedDiv b) (a / b)

/-- The result on words. -/
def eval (policy : OverflowPolicy) : Arith → Word → Word → Except Fault Word
  | add => arithmetic policy .add Word.checkedAdd (· + ·)
  | sub => arithmetic policy .sub Word.checkedSub (· - ·)
  | mul => arithmetic policy .mul Word.checkedMul (· * ·)
  | div => divide policy

end Arith

namespace Relation

/-- Whether two words are so related. -/
def holds : Relation → Word → Word → Bool
  | lt, a, b => a < b
  | gt, a, b => a > b
  | le, a, b => a ≤ b
  | ge, a, b => a ≥ b
  | eq, a, b => a = b
  | ne, a, b => a ≠ b

end Relation

end StackMachine
