import StackMachine.Proofs.Lockstep

/-!
# What a fault leaves behind

An instruction that fails has done a part of its work by then, and nothing is undone.  How large the
part is depends on the order in which the instruction goes about it: a store takes its value before it
resolves the name, a load resolves the name before it needs room for the value.  `Costs` lists the
faults of every instruction with the number of values that are gone from the stack.  A stack that runs
short is not on the list, since whatever it held is gone.

Nowhere else does a failed instruction leave a trace, but for a part of a line in the sink and for
itself in the count of instructions, which is one of 64 bits and starts again behind the largest number
they hold.
-/

namespace StackMachine

/-! ## Values that are gone -/

namespace Stack

/-- The stack `t` is the stack `s` without the `k` topmost values. -/
def Drops (s : Stack) (k : Nat) (t : Stack) : Prop :=
  ∃ top : List Word, top.length = k ∧ s.toList = t.toList ++ top

theorem drops_zero (s : Stack) : s.Drops 0 s :=
  ⟨[], rfl, (List.append_nil _).symm⟩

theorem drops_popMany (n : Nat) (s : Stack) : s.Drops (popMany n s).1.length (popMany n s).2 :=
  ⟨_, rfl, (toList_popMany n s).symm⟩

theorem eq_empty_of_depth {s : Stack} (h : s.depth = 0) : s = empty := by
  rcases s.eq_empty_or_push with empty | ⟨below, v, rfl⟩
  · exact empty
  · cases h

end Stack

namespace Machine

/-- The faults of each instruction for which the stack was deep enough, with the number of values that
are gone from the stack.  Only instructions that take nothing find the stack full. -/
inductive Costs : Instruction → Fault → Nat → Prop where
  | undecoded {text : String} {w : Word} : Costs ⟨.unknown text, w⟩ (.unknownOpcode text) 0
  | constant {w : Word} : Costs ⟨.known .loadConst, w⟩ (.invalidConstantIndex w) 0
  | loadName {w : Word} : Costs ⟨.known .loadName, w⟩ (.invalidNameIndex w) 0
  | unbound {w : Word} {name : String} : Costs ⟨.known .loadName, w⟩ (.unboundName name) 0
  | constantOverflow {w : Word} {limit : Nat} : Costs ⟨.known .loadConst, w⟩ (.stackOverflow limit) 0
  | nameOverflow {w : Word} {limit : Nat} : Costs ⟨.known .loadName, w⟩ (.stackOverflow limit) 0
  | jump {w : Word} : Costs ⟨.known .jump, w⟩ (.invalidJumpTarget w) 0
  | jumpIf {sense : Bool} {w : Word} : Costs ⟨.known (.jumpIf sense), w⟩ (.invalidJumpTarget w) 1
  | storeName {w : Word} : Costs ⟨.known .storeName, w⟩ (.invalidNameIndex w) 1
  | output {w : Word} {message : String} : Costs ⟨.known .print, w⟩ (.output message) 1
  | divisionByZero {w : Word} : Costs ⟨.known (.arith .div), w⟩ .divisionByZero 2
  | arithmeticOverflow {op : Arith} {w : Word} :
      Costs ⟨.known (.arith op), w⟩ (.arithmeticOverflow op) 2

/-- The fault `f` of the instruction `i` has made the machine `m'` of the machine `m`. -/
structure Footprint (cfg : Config) (i : Instruction) (f : Fault) (m m' : Machine) : Prop where
  ip : m'.ip = m.ip
  globals : m'.globals = m.globals
  /-- Nothing is written, unless it is the sink that failed. -/
  sink : (∀ message, f ≠ .output message) → m'.sink = m.sink
  /-- An instruction that fails counts as executed, as far as 64 bits can count. -/
  executed : (∀ text, f ≠ .unknownOpcode text) → m'.executed = m.executed + 1
  /-- One that the machine does not know does not. -/
  undecoded : ∀ text, f = .unknownOpcode text → m'.executed = m.executed
  /-- As many values are gone as the fault costs, or all if there were fewer than the opcode takes. -/
  stack : (∃ k, Costs i f k ∧ m.stack.Drops k m'.stack) ∨
    f = .stackUnderflow ∧ ∃ op, i.mnemonic = .known op ∧ m.stack.depth < op.pops ∧ m'.stack = .empty
  /-- A stack that overflows held exactly as much as it may, and that is what is reported. -/
  full : ∀ limit, f = .stackOverflow limit → m.stack.depth = cfg.maxStack ∧ limit = cfg.maxStack

section

variable {p : Program} {cfg : Config} {m m' : Machine} {op : Opcode} {w : Word} {f : Fault}

/-! ## One fault at a time -/

/-- What an opcode finds wrong costs all the operands it got. -/
theorem Refuses.costs {g : Globals} {args : List Word} (h : Refuses p cfg g op w args f) :
    Costs ⟨.known op, w⟩ f args.length := by
  cases h with
  | constant => exact .constant
  | loadName => exact .loadName
  | unbound => exact .unbound
  | storeName => exact .storeName
  | divisionByZero => exact .divisionByZero
  | arithmeticOverflow => exact .arithmeticOverflow
  | jump => exact .jump
  | jumpIf => exact .jumpIf

/-- These faults have nothing to do with decoding, with the sink or with the limit of the stack. -/
theorem Refuses.ne_outside {g : Globals} {args : List Word} (h : Refuses p cfg g op w args f) :
    (∀ text, f ≠ .unknownOpcode text) ∧ (∀ message, f ≠ .output message) ∧
      ∀ limit, f ≠ .stackOverflow limit := by
  cases h <;> exact ⟨nofun, nofun, nofun⟩

/-- The footprint where all operands were there. -/
theorem footprint_of_costs (sink : Sink) (cost : Costs ⟨.known op, w⟩ f (m.operands op).length)
    (decoded : ∀ text, f ≠ .unknownOpcode text)
    (unwritten : (∀ message, f ≠ .output message) → sink = m.sink)
    (full : ∀ limit, f = .stackOverflow limit → m.stack.depth = cfg.maxStack ∧ limit = cfg.maxStack) :
    Footprint cfg ⟨.known op, w⟩ f m ({ m.dispatched op w with sink }.fail f) where
  ip := rfl
  globals := rfl
  sink := unwritten
  executed := fun _ => rfl
  undecoded := fun text unknown => absurd unknown (decoded text)
  stack := Or.inl ⟨_, cost, Stack.drops_popMany op.pops m.stack⟩
  full := full

/-- The footprint where operands were missing. -/
theorem footprint_of_short (short : m.stack.depth < op.pops) :
    Footprint cfg ⟨.known op, w⟩ .stackUnderflow m ((m.dispatched op w).fail .stackUnderflow) where
  ip := rfl
  globals := rfl
  sink := fun _ => rfl
  executed := fun _ => rfl
  undecoded := nofun
  stack := by
    refine Or.inr ⟨rfl, op, rfl, short, ?_⟩
    apply Stack.eq_empty_of_depth
    rw [fail_stack, dispatched_depth]
    omega
  full := nofun

theorem footprint_undecoded (text : String) :
    Footprint cfg ⟨.unknown text, w⟩ (.unknownOpcode text) m (m.fail (.unknownOpcode text)) where
  ip := rfl
  globals := rfl
  sink := fun _ => rfl
  executed := fun decoded => absurd rfl (decoded text)
  undecoded := fun _ _ => rfl
  stack := Or.inl ⟨0, .undecoded, Stack.drops_zero m.stack⟩
  full := nofun

theorem footprint_refused (act : action p cfg m.globals op w (m.operands op) = .error f) :
    Footprint cfg ⟨.known op, w⟩ f m ((m.dispatched op w).fail f) := by
  by_cases full : (m.operands op).length = op.pops
  · have refuses := refuses_of_action full act
    obtain ⟨decoded, silent, roomy⟩ := refuses.ne_outside
    exact footprint_of_costs m.sink refuses.costs decoded (fun _ => rfl)
      fun limit overflow => absurd overflow (roomy limit)
  · rw [action_of_length_ne full] at act
    cases act
    rw [operands, Stack.length_popMany] at full
    exact footprint_of_short (by omega)

theorem footprint_unprinted {value : Word} (asks : Asks p cfg m op w (.print value)) (sink : Sink)
    (message : String) :
    Footprint cfg ⟨.known op, w⟩ (.output message) m
      ({ m.dispatched op w with sink }.fail (.output message)) := by
  refine footprint_of_costs sink ?_ nofun (fun silent => absurd rfl (silent message)) nofun
  obtain ⟨rfl, taken⟩ := asks.acts.eq_print
  rw [taken]
  exact .output

/-! ## Full stacks -/

/-- An instruction that pushes a result takes two operands for it, or it is a load and takes none. -/
theorem Acts.push_cases {g : Globals} {args : List Word} {value : Word}
    (h : Acts p cfg g op w args (.push value)) :
    (op = .loadConst ∨ op = .loadName) ∧ args = [] ∨ op.pops = 2 ∧ args.length = 2 := by
  cases h with
  | loadConst => exact Or.inl ⟨Or.inl rfl, rfl⟩
  | loadName => exact Or.inl ⟨Or.inr rfl, rfl⟩
  | arith | compare => exact Or.inr ⟨rfl, rfl⟩

/-- Within the limit only a load finds the stack full, and then it holds as much as it may. -/
theorem Asks.eq_load_of_full {value : Word} (asks : Asks p cfg m op w (.push value))
    (depth_le : m.stack.depth ≤ cfg.maxStack)
    (full : cfg.maxStack ≤ (m.dispatched op w).stack.depth) :
    (op = .loadConst ∨ op = .loadName) ∧ m.operands op = [] ∧ m.stack.depth = cfg.maxStack := by
  rw [dispatched_depth] at full
  rcases asks.acts.push_cases with ⟨load, none_taken⟩ | ⟨pops, two⟩
  · exact ⟨load, none_taken, by omega⟩
  · -- The result of two operands takes the place of one of them.
    rw [operands, Stack.length_popMany, pops] at two
    omega

theorem footprint_overflowed {value : Word} (asks : Asks p cfg m op w (.push value))
    (depth_le : m.stack.depth ≤ cfg.maxStack)
    (full : cfg.maxStack ≤ (m.dispatched op w).stack.depth) :
    Footprint cfg ⟨.known op, w⟩ (.stackOverflow cfg.maxStack) m
      ((m.dispatched op w).fail (.stackOverflow cfg.maxStack)) := by
  obtain ⟨load, none_taken, depth_eq⟩ := asks.eq_load_of_full depth_le full
  refine footprint_of_costs m.sink ?_ nofun (fun _ => rfl) ?_
  · rw [none_taken]
    rcases load with rfl | rfl
    · exact .constantOverflow
    · exact .nameOverflow
  · rintro limit ⟨⟩
    exact ⟨depth_eq, rfl⟩

/-! ## Every fault -/

theorem Step.footprint (h : Step p cfg m m') (running : m.Running)
    (depth_le : m.stack.depth ≤ cfg.maxStack) (faulted : m'.fault = some f) :
    ∃ i, p.code[m.ip]? = some i ∧ Footprint cfg i f m m' := by
  cases h with
  | ended | pushed | stored | printed | jumped | passed | halted =>
      cases running.fault.symm.trans faulted
  | undecoded fetch =>
      cases faulted
      exact ⟨_, fetch, footprint_undecoded _⟩
  | refused fetch act =>
      cases faulted
      exact ⟨_, fetch, footprint_refused act⟩
  | overflowed asks full =>
      cases faulted
      exact ⟨_, asks.fetch, footprint_overflowed asks depth_le full⟩
  | unprinted asks =>
      cases faulted
      exact ⟨_, asks.fetch, footprint_unprinted asks _ _⟩

theorem report_eq_error_iff : m.report = .error f ↔ m.fault = some f := by
  unfold report
  cases m.fault <;> simp

end

/-- Pushes a value and a zero, and then executes an instruction. -/
def pushTwoThen (i : Instruction) : Program where
  code := #[⟨.known .loadConst, 0⟩, ⟨.known .loadConst, 1⟩, i]
  consts := #[64, 0]
  names := #["x"]

end Machine

end StackMachine
