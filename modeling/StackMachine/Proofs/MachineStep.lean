import StackMachine.Machine

/-!
# What a step can do

`Machine.step` fetches, decodes, takes operands, works out an action and performs it, and may fail on
the way in several places.  `Acts` and `Refuses` list what an opcode can make of the operands it got,
and `Step` lists every way in which a step of a running machine can end, with what has to hold for
it.  What else is proved about steps follows from these lists, without a look into `step`.
-/

namespace StackMachine

/-! ## Taking operands -/

namespace Stack

theorem eq_empty_or_push (s : Stack) :
    s = empty ∨ ∃ (below : Stack) (v : Word), s = below.push v := by
  cases h : s.pop? with
  | none => exact Or.inl (pop?_eq_none_iff.mp h)
  | some popped => exact Or.inr ⟨popped.2, popped.1, pop?_eq_some_iff.mp h⟩

/-- Taking values off lowers the depth by as many, as far as there are any. -/
theorem depth_popMany (n : Nat) (s : Stack) : (popMany n s).2.depth = s.depth - n := by
  induction n generalizing s with
  | zero => rfl
  | succ n ih =>
      rcases s.eq_empty_or_push with rfl | ⟨below, v, rfl⟩
      · rw [popMany_empty]
        exact (Nat.zero_sub _).symm
      · rw [popMany_push, ih, depth_push]
        omega

theorem length_popMany (n : Nat) (s : Stack) : (popMany n s).1.length = min n s.depth := by
  induction n generalizing s with
  | zero => simp
  | succ n ih =>
      rcases s.eq_empty_or_push with rfl | ⟨below, v, rfl⟩
      · rw [popMany_empty]
        exact (Nat.min_zero _).symm
      · rw [popMany_push, List.length_append, ih, depth_push]
        simp

/-- What was taken off lay on top of what is left. -/
theorem toList_popMany (n : Nat) (s : Stack) :
    (popMany n s).2.toList ++ (popMany n s).1 = s.toList := by
  induction n generalizing s with
  | zero => simp
  | succ n ih =>
      rcases s.eq_empty_or_push with rfl | ⟨below, v, rfl⟩
      · simp
      · rw [popMany_push, toList_push, ← List.append_assoc, ih]

end Stack

namespace Machine

/-! ## What an opcode asks for -/

/-- The actions that opcodes ask for, with what has to hold of their operands. -/
inductive Acts (p : Program) (cfg : Config) (g : Globals) :
    Opcode → Word → List Word → Action → Prop where
  | loadConst {w v : Word} (value : p.constant w = .ok v) : Acts p cfg g .loadConst w [] (.push v)
  | loadName {w v : Word} {name : String} (named : p.nameAt w = .ok name)
      (bound : g.load name = .ok v) : Acts p cfg g .loadName w [] (.push v)
  | storeName {w v : Word} {name : String} (named : p.nameAt w = .ok name) :
      Acts p cfg g .storeName w [v] (.store name v)
  | arith {op : Arith} {w a b v : Word} (value : op.eval cfg.overflow a b = .ok v) :
      Acts p cfg g (.arith op) w [a, b] (.push v)
  | compare {rel : Relation} {w a b : Word} :
      Acts p cfg g (.compare rel) w [a, b] (.push (Word.ofBool (rel.holds a b)))
  | jump {w : Word} {target : Nat} (target_ok : p.jumpTarget w = .ok target) :
      Acts p cfg g .jump w [] (.jump target)
  | taken {sense : Bool} {w v : Word} {target : Nat} (truth : v.truthy = sense)
      (target_ok : p.jumpTarget w = .ok target) : Acts p cfg g (.jumpIf sense) w [v] (.jump target)
  | untaken {sense : Bool} {w v : Word} (truth : v.truthy ≠ sense) :
      Acts p cfg g (.jumpIf sense) w [v] .next
  | pop {w v : Word} : Acts p cfg g .pop w [v] .next
  | print {w v : Word} : Acts p cfg g .print w [v] (.print v)
  | halt {w : Word} : Acts p cfg g .halt w [] .halt

section

variable {p : Program} {cfg : Config} {g : Globals} {op : Opcode} {w : Word} {args : List Word}

theorem Acts.nameAt_eq {name : String} {v : Word} (h : Acts p cfg g op w args (.store name v)) :
    p.nameAt w = .ok name := by
  cases h
  assumption

theorem Acts.jumpTarget_eq {target : Nat} (h : Acts p cfg g op w args (.jump target)) :
    p.jumpTarget w = .ok target := by
  cases h <;> assumption

theorem Acts.eq_halt (h : Acts p cfg g op w args .halt) : op = .halt := by
  cases h
  rfl

theorem Acts.eq_print {v : Word} (h : Acts p cfg g op w args (.print v)) :
    op = .print ∧ args = [v] := by
  cases h
  exact ⟨rfl, rfl⟩

end

/-! ## What an opcode refuses

An opcode that got all its operands never finds the stack short.  Whether there is room for a result
is not its business either. -/

theorem constant_eq_error {p : Program} {w : Word} {f : Fault} (h : p.constant w = .error f) :
    f = .invalidConstantIndex w := by
  unfold Program.constant at h
  split at h
  next => cases h
  next =>
    cases h
    rfl

theorem nameAt_eq_error {p : Program} {w : Word} {f : Fault} (h : p.nameAt w = .error f) :
    f = .invalidNameIndex w := by
  unfold Program.nameAt at h
  split at h
  next => cases h
  next =>
    cases h
    rfl

theorem jumpTarget_eq_error {p : Program} {w : Word} {f : Fault} (h : p.jumpTarget w = .error f) :
    f = .invalidJumpTarget w := by
  unfold Program.jumpTarget at h
  split at h
  next => cases h
  next =>
    cases h
    rfl

theorem load_eq_error {g : Globals} {name : String} {f : Fault} (h : g.load name = .error f) :
    f = .unboundName name := by
  unfold Globals.load at h
  split at h
  next => cases h
  next =>
    cases h
    rfl

/-- A policy has one fault to find. -/
theorem resolve_eq_error {policy : OverflowPolicy} {op : Arith} {checked : Option Word}
    {wrapped : Word} {f : Fault} (h : policy.resolve op checked wrapped = .error f) :
    f = .arithmeticOverflow op := by
  unfold OverflowPolicy.resolve at h
  split at h
  next => cases h
  next => cases h
  next =>
    cases h
    rfl

theorem eval_eq_error {policy : OverflowPolicy} {op : Arith} {a b : Word} {f : Fault}
    (h : op.eval policy a b = .error f) :
    (f = .divisionByZero ∧ op = .div ∧ b = 0) ∨ f = .arithmeticOverflow op := by
  cases op with
  | add | sub | mul => exact Or.inr (resolve_eq_error h)
  | div =>
      by_cases zero : b = 0
      · rw [Arith.eval, Arith.divide, if_pos zero] at h
        cases h
        exact Or.inl ⟨rfl, rfl, zero⟩
      · rw [Arith.eval, Arith.divide, if_neg zero] at h
        exact Or.inr (resolve_eq_error h)

/-- The faults that an opcode finds although it got all its operands. -/
inductive Refuses (p : Program) (cfg : Config) (g : Globals) :
    Opcode → Word → List Word → Fault → Prop where
  | constant {w : Word} (missing : p.constant w = .error (.invalidConstantIndex w)) :
      Refuses p cfg g .loadConst w [] (.invalidConstantIndex w)
  | loadName {w : Word} (missing : p.nameAt w = .error (.invalidNameIndex w)) :
      Refuses p cfg g .loadName w [] (.invalidNameIndex w)
  | unbound {w : Word} {name : String} (named : p.nameAt w = .ok name)
      (absent : g.load name = .error (.unboundName name)) :
      Refuses p cfg g .loadName w [] (.unboundName name)
  | storeName {w v : Word} (missing : p.nameAt w = .error (.invalidNameIndex w)) :
      Refuses p cfg g .storeName w [v] (.invalidNameIndex w)
  | divisionByZero {w a : Word} : Refuses p cfg g (.arith .div) w [a, 0] .divisionByZero
  | arithmeticOverflow {op : Arith} {w a b : Word}
      (unfit : op.eval cfg.overflow a b = .error (.arithmeticOverflow op)) :
      Refuses p cfg g (.arith op) w [a, b] (.arithmeticOverflow op)
  | jump {w : Word} (outside : p.jumpTarget w = .error (.invalidJumpTarget w)) :
      Refuses p cfg g .jump w [] (.invalidJumpTarget w)
  | jumpIf {sense : Bool} {w v : Word} (truth : v.truthy = sense)
      (outside : p.jumpTarget w = .error (.invalidJumpTarget w)) :
      Refuses p cfg g (.jumpIf sense) w [v] (.invalidJumpTarget w)

/-! ## What comes of the operands -/

/-- An answer of an opcode that got its operands is one of the listed actions or faults. -/
def Answers (p : Program) (cfg : Config) (g : Globals) (op : Opcode) (w : Word) (args : List Word) :
    Except Fault Action → Prop
  | .ok a => Acts p cfg g op w args a
  | .error f => Refuses p cfg g op w args f

section

variable {p : Program} {cfg : Config} {g : Globals} {op : Opcode} {w : Word} {args : List Word}

theorem Answers.bind {α : Type} {x : Except Fault α} {k : α → Except Fault Action}
    (ok : ∀ a, x = .ok a → Answers p cfg g op w args (k a))
    (error : ∀ f, x = .error f → Refuses p cfg g op w args f) :
    Answers p cfg g op w args (x >>= k) := by
  cases x with
  | ok a => exact ok a rfl
  | error f => exact error f rfl

/-- With any other number of operands the stack ran out. -/
theorem action_of_length_ne (short : args.length ≠ op.pops) :
    action p cfg g op w args = .error .stackUnderflow := by
  cases op with
  | loadConst | loadName | jump | halt =>
      match args with
      | [] => exact absurd rfl short
      | _ :: _ => rfl
  | storeName | jumpIf | pop | print =>
      match args with
      | [] => rfl
      | [_] => exact absurd rfl short
      | _ :: _ :: _ => rfl
  | arith | compare =>
      match args with
      | [] => rfl
      | [_] => rfl
      | [_, _] => exact absurd rfl short
      | _ :: _ :: _ :: _ => rfl

theorem answers_jumpIf {sense : Bool} {v : Word} :
    Answers p cfg g (.jumpIf sense) w [v] (action p cfg g (.jumpIf sense) w [v]) := by
  by_cases truth : v.truthy = sense
  · have hjump : action p cfg g (.jumpIf sense) w [v] =
        (p.jumpTarget w >>= fun target => .ok (.jump target)) := if_pos truth
    rw [hjump]
    refine Answers.bind (fun target target_ok => .taken truth target_ok) ?_
    intro f outside
    cases jumpTarget_eq_error outside
    exact .jumpIf truth outside
  · have hnext : action p cfg g (.jumpIf sense) w [v] = .ok .next := if_neg truth
    rw [hnext]
    exact Acts.untaken truth

theorem answers_action (full : args.length = op.pops) :
    Answers p cfg g op w args (action p cfg g op w args) := by
  cases op with
  | loadConst =>
      obtain rfl := List.length_eq_zero_iff.mp full
      refine Answers.bind (x := p.constant w) (fun v value => .loadConst value) ?_
      intro f missing
      cases constant_eq_error missing
      exact .constant missing
  | loadName =>
      obtain rfl := List.length_eq_zero_iff.mp full
      refine Answers.bind (x := p.nameAt w) ?_ ?_
      · intro name named
        refine Answers.bind (x := g.load name) (fun v bound => .loadName named bound) ?_
        intro f absent
        cases load_eq_error absent
        exact .unbound named absent
      · intro f missing
        cases nameAt_eq_error missing
        exact .loadName missing
  | storeName =>
      obtain ⟨v, rfl⟩ := List.length_eq_one_iff.mp full
      refine Answers.bind (x := p.nameAt w) (fun name named => .storeName named) ?_
      intro f missing
      cases nameAt_eq_error missing
      exact .storeName missing
  | arith op =>
      match args, full with
      | [a, b], _ =>
          refine Answers.bind (x := op.eval cfg.overflow a b) (fun v value => .arith value) ?_
          intro f unfit
          rcases eval_eq_error unfit with ⟨rfl, rfl, rfl⟩ | rfl
          · exact .divisionByZero
          · exact .arithmeticOverflow unfit
  | compare rel =>
      match args, full with
      | [a, b], _ => exact Acts.compare
  | jump =>
      obtain rfl := List.length_eq_zero_iff.mp full
      refine Answers.bind (x := p.jumpTarget w) (fun target target_ok => .jump target_ok) ?_
      intro f outside
      cases jumpTarget_eq_error outside
      exact .jump outside
  | jumpIf sense =>
      obtain ⟨v, rfl⟩ := List.length_eq_one_iff.mp full
      exact answers_jumpIf
  | pop =>
      obtain ⟨v, rfl⟩ := List.length_eq_one_iff.mp full
      exact Acts.pop
  | print =>
      obtain ⟨v, rfl⟩ := List.length_eq_one_iff.mp full
      exact Acts.print
  | halt =>
      obtain rfl := List.length_eq_zero_iff.mp full
      exact Acts.halt

theorem acts_of_action {a : Action} (h : action p cfg g op w args = .ok a) :
    Acts p cfg g op w args a := by
  by_cases full : args.length = op.pops
  · have answers : Answers p cfg g op w args (action p cfg g op w args) := answers_action full
    rw [h] at answers
    exact answers
  · rw [action_of_length_ne full] at h
    cases h

theorem refuses_of_action {f : Fault} (full : args.length = op.pops)
    (h : action p cfg g op w args = .error f) : Refuses p cfg g op w args f := by
  have answers : Answers p cfg g op w args (action p cfg g op w args) := answers_action full
  rw [h] at answers
  exact answers

/-- The listed actions are what the opcodes answer. -/
theorem Acts.action_eq {a : Action} (h : Acts p cfg g op w args a) :
    action p cfg g op w args = .ok a := by
  cases h with
  | loadConst value =>
      show (p.constant w >>= _) = _
      rw [value]
      rfl
  | @loadName _ v name named bound =>
      show (p.nameAt w >>= fun name => g.load name >>= _) = _
      rw [named]
      show (g.load name >>= _) = _
      rw [bound]
      rfl
  | storeName named =>
      show (p.nameAt w >>= _) = _
      rw [named]
      rfl
  | @arith op _ a b _ value =>
      show (op.eval cfg.overflow a b >>= _) = _
      rw [value]
      rfl
  | compare | pop | print | halt => rfl
  | jump target_ok =>
      show (p.jumpTarget w >>= _) = _
      rw [target_ok]
      rfl
  | taken truth target_ok =>
      refine (if_pos truth).trans ?_
      show (p.jumpTarget w >>= _) = _
      rw [target_ok]
      rfl
  | untaken truth => exact if_neg truth

/-- So are the listed faults. -/
theorem Refuses.action_eq {f : Fault} (h : Refuses p cfg g op w args f) :
    action p cfg g op w args = .error f := by
  cases h with
  | constant missing =>
      show (p.constant w >>= _) = _
      rw [missing]
      rfl
  | loadName missing | storeName missing =>
      show (p.nameAt w >>= _) = _
      rw [missing]
      rfl
  | @unbound _ name named absent =>
      show (p.nameAt w >>= fun name => g.load name >>= _) = _
      rw [named]
      show (g.load name >>= _) = _
      rw [absent]
      rfl
  | divisionByZero => rfl
  | @arithmeticOverflow op _ a b unfit =>
      show (op.eval cfg.overflow a b >>= _) = _
      rw [unfit]
      rfl
  | jump outside =>
      show (p.jumpTarget w >>= _) = _
      rw [outside]
      rfl
  | jumpIf truth outside =>
      refine (if_pos truth).trans ?_
      show (p.jumpTarget w >>= _) = _
      rw [outside]
      rfl

/-- An opcode acts on as many operands as it takes. -/
theorem Acts.length_eq {a : Action} (h : Acts p cfg g op w args a) : args.length = op.pops := by
  cases h <;> rfl

end

/-! ## Actions that can fail -/

theorem perform_push_of_lt {cfg : Config} {m : Machine} (value : Word)
    (room : m.stack.depth < cfg.maxStack) :
    m.perform cfg (.push value) = { m with stack := m.stack.push value, ip := m.ip + 1 } := by
  simp only [perform, Stack.pushWithin, if_pos room]

theorem perform_push_of_le {cfg : Config} {m : Machine} (value : Word)
    (full : cfg.maxStack ≤ m.stack.depth) :
    m.perform cfg (.push value) = m.fail (.stackOverflow cfg.maxStack) := by
  simp only [perform, Stack.pushWithin, if_neg (Nat.not_lt.mpr full)]

theorem perform_print_of_none {cfg : Config} {m : Machine} {value : Word} {sink : Sink}
    (write : m.sink.write (Utf8.encode (Decimal.ofWord value ++ "\n")) = (sink, none)) :
    m.perform cfg (.print value) = { m with sink, ip := m.ip + 1 } := by
  simp only [perform, write]

theorem perform_print_of_some {cfg : Config} {m : Machine} {value : Word} {sink : Sink}
    {e : SinkError}
    (write : m.sink.write (Utf8.encode (Decimal.ofWord value ++ "\n")) = (sink, some e)) :
    m.perform cfg (.print value) = { m with sink }.fail (.output e.message) := by
  simp only [perform, write]

/-! ## The ways a step can end -/

/-- The operands that an opcode finds on the stack. -/
def operands (m : Machine) (op : Opcode) : List Word :=
  (m.stack.popMany op.pops).1

/-- The machine with the operands of an instruction taken off, about to act on them. -/
def dispatched (m : Machine) (op : Opcode) (operand : Word) : Machine :=
  { m with
    stack := (m.stack.popMany op.pops).2
    executed := m.executed + 1
    log := .dispatch m.ip op operand :: m.log }

/-- The machine stands at an instruction, and with the operands found for it the instruction asks for
an action. -/
structure Asks (p : Program) (cfg : Config) (m : Machine) (op : Opcode) (operand : Word)
    (a : Action) : Prop where
  fetch : p.code[m.ip]? = some ⟨.known op, operand⟩
  acts : Acts p cfg m.globals op operand (m.operands op) a

/-- How a step of a running machine can end. -/
inductive Step (p : Program) (cfg : Config) (m : Machine) : Machine → Prop where
  /-- There is no instruction left. -/
  | ended (fetch : p.code[m.ip]? = none) : Step p cfg m { m with state := .halted }
  /-- The instruction is none that the machine knows. -/
  | undecoded {text : String} {operand : Word}
      (fetch : p.code[m.ip]? = some ⟨.unknown text, operand⟩) :
      Step p cfg m (m.fail (.unknownOpcode text))
  /-- The opcode can do nothing with its operands. -/
  | refused {op : Opcode} {operand : Word} {f : Fault}
      (fetch : p.code[m.ip]? = some ⟨.known op, operand⟩)
      (act : action p cfg m.globals op operand (m.operands op) = .error f) :
      Step p cfg m ((m.dispatched op operand).fail f)
  /-- A value is pushed. -/
  | pushed {op : Opcode} {operand value : Word} (asks : Asks p cfg m op operand (.push value))
      (room : (m.dispatched op operand).stack.depth < cfg.maxStack) :
      Step p cfg m { m.dispatched op operand with
        stack := (m.dispatched op operand).stack.push value, ip := m.ip + 1 }
  /-- A value should be pushed, but the stack is full. -/
  | overflowed {op : Opcode} {operand value : Word} (asks : Asks p cfg m op operand (.push value))
      (full : cfg.maxStack ≤ (m.dispatched op operand).stack.depth) :
      Step p cfg m ((m.dispatched op operand).fail (.stackOverflow cfg.maxStack))
  /-- A value is stored. -/
  | stored {op : Opcode} {operand value : Word} {name : String}
      (asks : Asks p cfg m op operand (.store name value)) :
      Step p cfg m { m.dispatched op operand with
        globals := m.globals.store name value, ip := m.ip + 1 }
  /-- A value is printed. -/
  | printed {op : Opcode} {operand value : Word} {sink : Sink}
      (asks : Asks p cfg m op operand (.print value))
      (write : m.sink.write (Utf8.encode (Decimal.ofWord value ++ "\n")) = (sink, none)) :
      Step p cfg m { m.dispatched op operand with sink, ip := m.ip + 1 }
  /-- A value should be printed, but the sink fails. -/
  | unprinted {op : Opcode} {operand value : Word} {sink : Sink} {e : SinkError}
      (asks : Asks p cfg m op operand (.print value))
      (write : m.sink.write (Utf8.encode (Decimal.ofWord value ++ "\n")) = (sink, some e)) :
      Step p cfg m ({ m.dispatched op operand with sink }.fail (.output e.message))
  /-- The machine goes on elsewhere. -/
  | jumped {op : Opcode} {operand : Word} {target : Nat}
      (asks : Asks p cfg m op operand (.jump target)) :
      Step p cfg m { m.dispatched op operand with ip := target }
  /-- The machine goes on with the next instruction. -/
  | passed {op : Opcode} {operand : Word} (asks : Asks p cfg m op operand .next) :
      Step p cfg m { m.dispatched op operand with ip := m.ip + 1 }
  /-- The machine halts. -/
  | halted {op : Opcode} {operand : Word} (asks : Asks p cfg m op operand .halt) :
      Step p cfg m { m.dispatched op operand with state := .halted }

theorem execute_of_ok {p : Program} {cfg : Config} {m : Machine} {op : Opcode} {operand : Word}
    {a : Action} (act : action p cfg m.globals op operand (m.operands op) = .ok a) :
    m.execute p cfg op operand = (m.dispatched op operand).perform cfg a := by
  rw [operands] at act
  simp only [execute, act]
  rfl

theorem execute_of_error {p : Program} {cfg : Config} {m : Machine} {op : Opcode} {operand : Word}
    {f : Fault} (act : action p cfg m.globals op operand (m.operands op) = .error f) :
    m.execute p cfg op operand = (m.dispatched op operand).fail f := by
  rw [operands] at act
  simp only [execute, act]
  rfl

/-- An instruction whose action is worked out ends in one of the listed ways. -/
theorem step_perform {p : Program} {cfg : Config} {m : Machine} {op : Opcode} {operand : Word}
    {a : Action} (asks : Asks p cfg m op operand a) :
    Step p cfg m ((m.dispatched op operand).perform cfg a) := by
  cases a with
  | push value =>
      by_cases room : (m.dispatched op operand).stack.depth < cfg.maxStack
      · rw [perform_push_of_lt value room]
        exact .pushed asks room
      · rw [perform_push_of_le value (Nat.le_of_not_lt room)]
        exact .overflowed asks (Nat.le_of_not_lt room)
  | store name value => exact .stored asks
  | print value =>
      cases write : (m.dispatched op operand).sink.write
          (Utf8.encode (Decimal.ofWord value ++ "\n")) with
      | mk sink failure =>
          cases failure with
          | none =>
              rw [perform_print_of_none write]
              exact .printed asks write
          | some e =>
              rw [perform_print_of_some write]
              exact .unprinted asks write
  | jump target => exact .jumped asks
  | next => exact .passed asks
  | halt => exact .halted asks

/-- Every step of a running machine ends in one of the listed ways. -/
theorem step_of_running {p : Program} {cfg : Config} {m : Machine} (running : m.Running) :
    Step p cfg m (m.step p cfg) := by
  rw [step, if_pos running]
  cases fetch : p.code[m.ip]? with
  | none => exact .ended fetch
  | some i =>
      obtain ⟨mnemonic, operand⟩ := i
      cases mnemonic with
      | unknown text => exact .undecoded fetch
      | known op =>
          show Step p cfg m (m.execute p cfg op operand)
          cases act : action p cfg m.globals op operand (m.operands op) with
          | error f =>
              rw [execute_of_error act]
              exact .refused fetch act
          | ok a =>
              rw [execute_of_ok act]
              exact step_perform ⟨fetch, acts_of_action act⟩

/-! ## Parts of the machine that are left alone -/

@[simp] theorem dispatched_ip (m : Machine) (op : Opcode) (operand : Word) :
    (m.dispatched op operand).ip = m.ip := rfl

@[simp] theorem dispatched_globals (m : Machine) (op : Opcode) (operand : Word) :
    (m.dispatched op operand).globals = m.globals := rfl

@[simp] theorem dispatched_state (m : Machine) (op : Opcode) (operand : Word) :
    (m.dispatched op operand).state = m.state := rfl

@[simp] theorem dispatched_fault (m : Machine) (op : Opcode) (operand : Word) :
    (m.dispatched op operand).fault = m.fault := rfl

@[simp] theorem dispatched_sink (m : Machine) (op : Opcode) (operand : Word) :
    (m.dispatched op operand).sink = m.sink := rfl

@[simp] theorem dispatched_depth (m : Machine) (op : Opcode) (operand : Word) :
    (m.dispatched op operand).stack.depth = m.stack.depth - op.pops :=
  Stack.depth_popMany op.pops m.stack

@[simp] theorem fail_ip (m : Machine) (f : Fault) : (m.fail f).ip = m.ip := rfl

@[simp] theorem fail_stack (m : Machine) (f : Fault) : (m.fail f).stack = m.stack := rfl

@[simp] theorem fail_globals (m : Machine) (f : Fault) : (m.fail f).globals = m.globals := rfl

@[simp] theorem fail_state (m : Machine) (f : Fault) : (m.fail f).state = .faulted := rfl

@[simp] theorem fail_fault (m : Machine) (f : Fault) : (m.fail f).fault = some f := rfl

theorem lt_size_of_fetch {p : Program} {m : Machine} {i : Instruction}
    (fetch : p.code[m.ip]? = some i) : m.ip < p.size :=
  (Array.getElem?_eq_some_iff.mp fetch).1

end Machine

end StackMachine
