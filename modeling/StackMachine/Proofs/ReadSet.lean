import Mathlib.Data.List.Basic
import StackMachine.Proofs.Lockstep

/-!
# What a run reads of its program

Nothing is checked before it is used.  A step reads the instruction it comes to, its operand only if
the opcode makes use of it, and an entry of a table only if the operand is resolved there.  `Alike`
says that another program holds the same at all these places.  A step of the two programs is then the
same (`step_alike`), and by induction so are their runs, apart from the operands in the log.

So whatever a run never comes to may be replaced at will: instructions, operands that are ignored or
belong to branches not taken, and entries of the tables.
-/

namespace StackMachine

namespace Machine

/-! ## What an instruction looks at -/

/-- Whether an opcode that got these values off the stack looks at its operand.  A conditional jump
does if it is taken, and no opcode does if the stack ran out. -/
def looksAtOperand : Opcode → List Word → Bool
  | .loadConst, [] | .loadName, [] | .storeName, [_] | .jump, [] => true
  | .jumpIf sense, [value] => value.truthy = sense
  | _, _ => false

/-- No operand is looked at that is not declared to mean something. -/
theorem takesOperand_of_looksAtOperand {op : Opcode} {args : List Word}
    (h : looksAtOperand op args = true) : op.takesOperand = true := by
  cases op with
  | loadConst | loadName | storeName | jump | jumpIf => rfl
  | arith | compare | pop | print | halt =>
      have never : false = true := h
      cases never

theorem jumpTarget_eq_of_size {p q : Program} (size : q.size = p.size) (w : Word) :
    q.jumpTarget w = p.jumpTarget w := by
  unfold Program.jumpTarget
  rw [size]

/-- An opcode gives the same answer in another program if its operand is the same as far as it is
looked at, and refers to the same. -/
theorem action_alike {p q : Program} {cfg : Config} {g : Globals} {op : Opcode} {w w' : Word}
    {args : List Word} (size : q.size = p.size)
    (operand : looksAtOperand op args = true → w' = w)
    (constant : op = .loadConst → q.constant w = p.constant w)
    (name : op = .loadName ∨ op = .storeName → args.length = op.pops → q.nameAt w = p.nameAt w) :
    action q cfg g op w' args = action p cfg g op w args := by
  by_cases full : args.length = op.pops
  · cases op with
    | loadConst =>
        obtain rfl := List.length_eq_zero_iff.mp full
        obtain rfl := operand rfl
        show (q.constant w' >>= _) = (p.constant w' >>= _)
        rw [constant rfl]
    | loadName =>
        obtain rfl := List.length_eq_zero_iff.mp full
        obtain rfl := operand rfl
        show (q.nameAt w' >>= _) = (p.nameAt w' >>= _)
        rw [name (Or.inl rfl) full]
    | storeName =>
        obtain ⟨v, rfl⟩ := List.length_eq_one_iff.mp full
        obtain rfl := operand rfl
        show (q.nameAt w' >>= _) = (p.nameAt w' >>= _)
        rw [name (Or.inr rfl) full]
    | arith | compare =>
        obtain ⟨a, b, rfl⟩ := List.length_eq_two.mp full
        rfl
    | jump =>
        obtain rfl := List.length_eq_zero_iff.mp full
        obtain rfl := operand rfl
        show (q.jumpTarget w' >>= _) = (p.jumpTarget w' >>= _)
        rw [jumpTarget_eq_of_size size]
    | jumpIf sense =>
        obtain ⟨v, rfl⟩ := List.length_eq_one_iff.mp full
        show (if v.truthy = sense then q.jumpTarget w' >>= _ else _) =
          if v.truthy = sense then p.jumpTarget w >>= _ else _
        by_cases truth : v.truthy = sense
        · obtain rfl := operand (decide_eq_true truth)
          rw [if_pos truth, if_pos truth, jumpTarget_eq_of_size size]
        · rw [if_neg truth, if_neg truth]
    | pop | print =>
        obtain ⟨v, rfl⟩ := List.length_eq_one_iff.mp full
        rfl
    | halt =>
        obtain rfl := List.length_eq_zero_iff.mp full
        rfl
  · rw [action_of_length_ne full, action_of_length_ne full]

/-! ## What a step reads -/

/-- The instruction at hand resolves its operand to a name.  A store does so only when it has got a
value. -/
def ResolvesName (p : Program) (m : Machine) (w : Word) : Prop :=
  Fetches p m .loadName w ∨ Fetches p m .storeName w ∧ m.stack ≠ .empty

/-- Another program holds the same at the places that a step of this machine reads. -/
structure Alike (p q : Program) (m : Machine) : Prop where
  size : q.size = p.size
  mnemonic : ∀ i, p.code[m.ip]? = some i → ∃ operand, q.code[m.ip]? = some { i with operand }
  operand : ∀ op w, Fetches p m op w → looksAtOperand op (m.operands op) = true →
    q.code[m.ip]? = some ⟨.known op, w⟩
  constant : ∀ w, Fetches p m .loadConst w → q.constant w = p.constant w
  name : ∀ w, ResolvesName p m w → q.nameAt w = p.nameAt w

theorem stack_ne_empty_of_length {m : Machine} {op : Opcode}
    (full : (m.operands op).length = op.pops) (pops : op.pops ≠ 0) : m.stack ≠ .empty := by
  intro empty
  rw [operands, empty, Stack.popMany_empty] at full
  exact pops full.symm

/-- In a program that is alike, the instruction at hand gives the same answer. -/
theorem Alike.action_eq {p q : Program} {cfg : Config} {m : Machine} {op : Opcode} {w w' : Word}
    (h : Alike p q m) (here : Fetches p m op w) (there : q.code[m.ip]? = some ⟨.known op, w'⟩) :
    action q cfg m.globals op w' (m.operands op) = action p cfg m.globals op w (m.operands op) := by
  apply action_alike h.size
  · intro looked
    have same := h.operand op w here looked
    rw [there] at same
    cases same
    rfl
  · rintro rfl
    exact h.constant w here
  · rintro (rfl | rfl) full
    · exact h.name w (Or.inl here)
    · exact h.name w (Or.inr ⟨here, stack_ne_empty_of_length full (by decide)⟩)

/-! ## Machines that differ in their logs -/

/-- Nothing but the log tells the second machine from the first. -/
def SameButLog (m m' : Machine) : Prop :=
  ∃ log, m' = { m with log }

theorem SameButLog.agrees {m m' : Machine} (h : SameButLog m m') : Agrees m' m := by
  obtain ⟨log, rfl⟩ := h
  exact ⟨rfl, rfl, rfl, rfl, rfl, rfl, rfl⟩

theorem SameButLog.fail {m m' : Machine} (h : SameButLog m m') (f : Fault) :
    SameButLog (m.fail f) (m'.fail f) := by
  obtain ⟨log, rfl⟩ := h
  exact ⟨_, rfl⟩

theorem SameButLog.dispatched {m m' : Machine} (h : SameButLog m m') (op : Opcode) (w w' : Word) :
    SameButLog (m.dispatched op w) (m'.dispatched op w') := by
  obtain ⟨log, rfl⟩ := h
  exact ⟨_, rfl⟩

theorem SameButLog.perform {m m' : Machine} (h : SameButLog m m') (cfg : Config) (a : Action) :
    SameButLog (m.perform cfg a) (m'.perform cfg a) := by
  obtain ⟨log, rfl⟩ := h
  cases a with
  | store | jump | next | halt => exact ⟨log, rfl⟩
  | push value =>
      by_cases room : m.stack.depth < cfg.maxStack
      · rw [perform_push_of_lt value room]
        exact ⟨log, perform_push_of_lt value room⟩
      · have full := Nat.le_of_not_lt room
        rw [perform_push_of_le value full]
        exact ⟨_, perform_push_of_le value full⟩
  | print value =>
      cases write : m.sink.write (Utf8.encode (Decimal.ofWord value ++ "\n")) with
      | mk sink failure =>
          cases failure with
          | none =>
              rw [perform_print_of_none write]
              exact ⟨log, perform_print_of_none write⟩
          | some e =>
              rw [perform_print_of_some write]
              exact ⟨_, perform_print_of_some write⟩

section

variable {p q : Program} {cfg : Config} {m m' : Machine} {sink : Sink} {n : Nat}

/-- A step is the same in a program that is alike. -/
theorem step_alike (same : SameButLog m m') (h : m.Running → Alike p q m) :
    SameButLog (m.step p cfg) (m'.step q cfg) := by
  obtain ⟨log, rfl⟩ := same
  by_cases running : m.Running
  · have running' : ({ m with log } : Machine).Running := ⟨running.state, running.fault⟩
    have alike := h running
    cases fetch : p.code[m.ip]? with
    | none =>
        have past : q.code[m.ip]? = none := by
          rw [Array.getElem?_eq_none_iff] at fetch ⊢
          exact Nat.le_trans (Nat.le_of_eq alike.size) fetch
        rw [step_of_fetch_none running fetch]
        exact ⟨log, step_of_fetch_none running' past⟩
    | some i =>
        obtain ⟨w', there⟩ := alike.mnemonic i fetch
        obtain ⟨mnemonic, w⟩ := i
        cases mnemonic with
        | unknown text =>
            rw [step_of_unknown running fetch, step_of_unknown running' there]
            exact SameButLog.fail ⟨log, rfl⟩ _
        | known op =>
            have here : Fetches p m op w := ⟨running, fetch⟩
            have other : Fetches q { m with log } op w' := ⟨running', there⟩
            have answer : action q cfg m.globals op w' (m.operands op) = _ :=
              alike.action_eq here there
            cases act : action p cfg m.globals op w (m.operands op) with
            | error f =>
                rw [here.step_eq_fail act, other.step_eq_fail (answer.trans act)]
                exact SameButLog.fail (SameButLog.dispatched ⟨log, rfl⟩ op w w') f
            | ok a =>
                rw [here.step_eq_perform act, other.step_eq_perform (answer.trans act)]
                exact SameButLog.perform (SameButLog.dispatched ⟨log, rfl⟩ op w w') cfg a
  · have stopped : ¬ ({ m with log } : Machine).Running :=
      fun running' => running ⟨running'.state, running'.fault⟩
    rw [step_of_not_running running]
    exact ⟨log, step_of_not_running stopped⟩

/-- A run is the same in a program that is alike wherever the run comes. -/
theorem after_alike
    (h : ∀ k < n, (after p cfg sink k).Running → Alike p q (after p cfg sink k)) :
    SameButLog (after p cfg sink n) (after q cfg sink n) := by
  induction n with
  | zero => exact ⟨[], rfl⟩
  | succ n ih =>
      rw [after_succ, after_succ]
      exact step_alike (ih fun k lt => h k (Nat.lt_succ_of_lt lt)) (h n (Nat.lt_succ_self n))

end

/-! ## What a run reads -/

/-- The run is at this position at some time before it ends. -/
def Visits (p : Program) (cfg : Config) (sink : Sink) (i : Nat) : Prop :=
  ∃ n, (after p cfg sink n).Running ∧ (after p cfg sink n).ip = i

/-- The run pushes the constant that this operand refers to, or finds that there is none. -/
def ConstantResolved (p : Program) (cfg : Config) (sink : Sink) (w : Word) : Prop :=
  ∃ n, Fetches p (after p cfg sink n) .loadConst w

/-- The run looks for the name that this operand refers to. -/
def NameResolved (p : Program) (cfg : Config) (sink : Sink) (w : Word) : Prop :=
  ∃ n, ResolvesName p (after p cfg sink n) w

/-- The run looks at the operand at this position. -/
def OperandRead (p : Program) (cfg : Config) (sink : Sink) (i : Nat) : Prop :=
  ∃ n op w, (after p cfg sink n).ip = i ∧ Fetches p (after p cfg sink n) op w ∧
    looksAtOperand op ((after p cfg sink n).operands op) = true

/-- The second program holds what the run of the first fetches and resolves: the same mnemonics,
with the same operands where these mean something, and the same results, be they entries or
failures. -/
structure SameWhereRead (p q : Program) (cfg : Config) (sink : Sink) : Prop where
  size : q.size = p.size
  fetched : ∀ i ins, Visits p cfg sink i → p.code[i]? = some ins →
    ∃ operand, q.code[i]? = some { ins with operand } ∧
      ∀ op, ins.mnemonic = .known op → op.takesOperand = true → operand = ins.operand
  constants : ∀ w, ConstantResolved p cfg sink w →
    (q.constant w).toOption = (p.constant w).toOption
  names : ∀ w, NameResolved p cfg sink w → (q.nameAt w).toOption = (p.nameAt w).toOption

/-- The second program differs from the first only where the run of the first does not look: at
positions it never comes to, in operands it never reads, and in entries it never resolves. -/
structure DiffersUnread (p q : Program) (cfg : Config) (sink : Sink) : Prop where
  size : q.size = p.size
  code : ∀ i, q.code[i]? ≠ p.code[i]? → ¬ Visits p cfg sink i ∨
    ¬ OperandRead p cfg sink i ∧
      q.code[i]?.map Instruction.mnemonic = p.code[i]?.map Instruction.mnemonic
  consts : ∀ j, q.consts[j]? ≠ p.consts[j]? →
    ∀ w, ConstantResolved p cfg sink w → w.index? ≠ some j
  names : ∀ j, q.names[j]? ≠ p.names[j]? → ∀ w, NameResolved p cfg sink w → w.index? ≠ some j

/-! ### Tables -/

/-- Results whose failures say nothing new are the same if they agree where they succeed. -/
theorem eq_of_toOption_eq {α : Type} {x y : Except Fault α} {f : Fault}
    (hx : ∀ g, x = .error g → g = f) (hy : ∀ g, y = .error g → g = f)
    (h : x.toOption = y.toOption) : x = y := by
  cases x with
  | ok a =>
      cases y with
      | ok b => exact congrArg Except.ok (Option.some.inj h)
      | error g => cases h
  | error g =>
      cases y with
      | ok b => cases h
      | error g' => rw [hx g rfl, hy g' rfl]

theorem entry?_eq_of_index {α : Type} {table table' : Array α} {w : Word}
    (h : ∀ j, w.index? = some j → table'[j]? = table[j]?) :
    Program.entry? table' w = Program.entry? table w := by
  unfold Program.entry?
  cases index : w.index? with
  | none => rfl
  | some j => exact h j index

/-! ### Programs that are alike on a run -/

section

variable {p q : Program} {cfg : Config} {sink : Sink} {n : Nat}

theorem SameWhereRead.alike (h : SameWhereRead p q cfg sink)
    (running : (after p cfg sink n).Running) : Alike p q (after p cfg sink n) where
  size := h.size
  mnemonic := by
    intro i fetch
    obtain ⟨operand, there, _⟩ := h.fetched _ i ⟨n, running, rfl⟩ fetch
    exact ⟨operand, there⟩
  operand := by
    intro op w here looked
    obtain ⟨operand, there, same⟩ := h.fetched _ _ ⟨n, running, rfl⟩ here.fetch
    rw [there, same op rfl (takesOperand_of_looksAtOperand looked)]
  constant := by
    intro w here
    exact eq_of_toOption_eq (fun _ => constant_eq_error) (fun _ => constant_eq_error)
      (h.constants w ⟨n, here⟩)
  name := by
    intro w resolved
    exact eq_of_toOption_eq (fun _ => nameAt_eq_error) (fun _ => nameAt_eq_error)
      (h.names w ⟨n, resolved⟩)

theorem DiffersUnread.alike (h : DiffersUnread p q cfg sink)
    (running : (after p cfg sink n).Running) : Alike p q (after p cfg sink n) where
  size := h.size
  mnemonic := by
    intro i fetch
    by_cases same : q.code[(after p cfg sink n).ip]? = p.code[(after p cfg sink n).ip]?
    · exact ⟨i.operand, same.trans fetch⟩
    · rcases h.code _ same with unvisited | ⟨_, mnemonics⟩
      · exact absurd ⟨n, running, rfl⟩ unvisited
      · rw [fetch, Option.map_some, Option.map_eq_some_iff] at mnemonics
        obtain ⟨⟨mnemonic, operand⟩, there, rfl⟩ := mnemonics
        exact ⟨operand, there⟩
  operand := by
    intro op w here looked
    by_contra different
    rw [← here.fetch] at different
    rcases h.code _ different with unvisited | ⟨unread, _⟩
    · exact unvisited ⟨n, running, rfl⟩
    · exact unread ⟨n, op, w, rfl, here, looked⟩
  constant := by
    intro w here
    have same : Program.entry? q.consts w = Program.entry? p.consts w := by
      apply entry?_eq_of_index
      intro j index
      by_contra different
      exact h.consts j different w ⟨n, here⟩ index
    rw [Program.constant, Program.constant, same]
  name := by
    intro w resolved
    have same : Program.entry? q.names w = Program.entry? p.names w := by
      apply entry?_eq_of_index
      intro j index
      by_contra different
      exact h.names j different w ⟨n, resolved⟩ index
    rw [Program.nameAt, Program.nameAt, same]

end

/-- **Validation is lazy.**  A run is the same run of any program that holds what it fetches and
resolves.  Hence nothing else has an influence on it: instructions that are never fetched, known or
not, the targets of branches that are not taken, operands that are ignored and entries of the tables
that are never used may differ at will. -/
theorem run_determined_by_reads (p q : Program) (cfg : Config) (sink : Sink) :
    (SameWhereRead p q cfg sink → ∀ n, Agrees (after q cfg sink n) (after p cfg sink n)) ∧
      (DiffersUnread p q cfg sink → ∀ n, Agrees (after q cfg sink n) (after p cfg sink n)) := by
  constructor
  · intro same n
    exact (after_alike fun k _ running => same.alike running).agrees
  · intro differs n
    exact (after_alike fun k _ running => differs.alike running).agrees

/-- Passes a branch whose target does not exist, stores a value and halts in front of an instruction
that no machine knows. -/
def untaken : Program where
  code := #[⟨.known .loadConst, 0⟩, ⟨.known (.jumpIf true), 99⟩, ⟨.known .loadConst, 0⟩,
    ⟨.known .storeName, 1⟩, ⟨.known .halt, 0⟩, ⟨.unknown "FROB", 0⟩]
  consts := #[0]
  names := #["y", "x"]

/-- The same with another operand of the last instruction that is executed, another instruction behind
it and other entries in the tables. -/
def untakenVariant : Program where
  code := #[⟨.known .loadConst, 0⟩, ⟨.known (.jumpIf true), 99⟩, ⟨.known .loadConst, 0⟩,
    ⟨.known .storeName, 1⟩, ⟨.known .halt, 7⟩, ⟨.known .print, -1⟩]
  consts := #[0, 5]
  names := #["", "x"]

/-- The same with another target of the branch, too. -/
def untakenRetargeted : Program :=
  { untakenVariant with code := untakenVariant.code.set! 1 ⟨.known (.jumpIf true), 0⟩ }

theorem untaken_ip {n : Nat} (running : (after untaken {} {} n).Running) :
    n < 5 ∧ (after untaken {} {} n).ip = n := by
  have halts : ¬ (after untaken {} {} 5).Running := by decide +kernel
  have ips : ∀ n < 5, (after untaken {} {} n).ip = n := by decide +kernel
  have lt : n < 5 := by
    by_contra past
    rw [after_eq_of_le (Nat.le_of_not_lt past) halts] at running
    exact halts running
  exact ⟨lt, ips n lt⟩

theorem untaken_fetch {n : Nat} {op : Opcode} {w : Word}
    (here : Fetches untaken (after untaken {} {} n) op w) :
    n < 5 ∧ untaken.code[n]? = some ⟨.known op, w⟩ := by
  obtain ⟨lt, ip⟩ := untaken_ip here.running
  exact ⟨lt, ip ▸ here.fetch⟩

theorem untaken_constant {w : Word} (h : ConstantResolved untaken {} {} w) : w = 0 := by
  obtain ⟨n, here⟩ := h
  obtain ⟨lt, fetch⟩ := untaken_fetch here
  have constants : ∀ n < 5, ∀ i ∈ untaken.code[n]?, i.mnemonic = .known .loadConst →
      i.operand = 0 := by decide
  exact constants n lt _ fetch rfl

theorem untaken_name {w : Word} (h : NameResolved untaken {} {} w) : w = 1 := by
  have names : ∀ n < 5, ∀ i ∈ untaken.code[n]?,
      i.mnemonic = .known .loadName ∨ i.mnemonic = .known .storeName → i.operand = 1 := by decide
  obtain ⟨n, here | ⟨here, _⟩⟩ := h
  · obtain ⟨lt, fetch⟩ := untaken_fetch here
    exact names n lt _ fetch (Or.inl rfl)
  · obtain ⟨lt, fetch⟩ := untaken_fetch here
    exact names n lt _ fetch (Or.inr rfl)

theorem untaken_sameWhereRead : SameWhereRead untaken untakenVariant {} {} where
  size := rfl
  fetched := by
    have code : ∀ n < 5, untakenVariant.code[n]? = untaken.code[n]? ∨
        untaken.code[n]? = some ⟨.known .halt, 0⟩ ∧
          untakenVariant.code[n]? = some ⟨.known .halt, 7⟩ := by decide
    rintro i ins ⟨n, running, rfl⟩ fetch
    obtain ⟨lt, ip⟩ := untaken_ip running
    rw [ip] at fetch ⊢
    rcases code n lt with same | ⟨halt, other⟩
    · exact ⟨ins.operand, same.trans fetch, fun _ _ _ => rfl⟩
    · rw [halt] at fetch
      cases fetch
      exact ⟨7, other, by rintro op ⟨⟩ ⟨⟩⟩
  constants := by
    intro w resolved
    rw [untaken_constant resolved]
    rfl
  names := by
    intro w resolved
    rw [untaken_name resolved]
    rfl

theorem untaken_differsUnread : DiffersUnread untaken untakenRetargeted {} {} where
  size := rfl
  code := by
    intro i different
    have ignored : ∀ n < 5, untakenRetargeted.code[n]? ≠ untaken.code[n]? →
        (n = 1 ∨ n = 4) ∧ untakenRetargeted.code[n]?.map Instruction.mnemonic =
          untaken.code[n]?.map Instruction.mnemonic := by decide
    by_cases lt : i < 5
    · obtain ⟨position, mnemonics⟩ := ignored i lt different
      refine Or.inr ⟨?_, mnemonics⟩
      rintro ⟨n, op, w, rfl, here, looked⟩
      obtain ⟨_, fetch⟩ := untaken_fetch here
      rw [(untaken_ip here.running).2] at position
      rcases position with rfl | rfl
      · cases fetch
        revert looked
        decide +kernel
      · cases fetch
        cases looked
    · left
      rintro ⟨n, running, rfl⟩
      obtain ⟨lt', ip⟩ := untaken_ip running
      exact lt (ip.symm ▸ lt')
  consts := by
    rintro j different w resolved index
    rw [untaken_constant resolved] at index
    cases index
    exact different rfl
  names := by
    rintro j different w resolved index
    rw [untaken_name resolved] at index
    cases index
    exact different rfl

theorem run_determined_by_reads_untaken :
    SameWhereRead untaken untakenVariant {} {} ∧
      DiffersUnread untaken untakenRetargeted {} {} ∧
      (∀ n, Agrees (after untakenVariant {} {} n) (after untaken {} {} n)) ∧
      ∀ n, Agrees (after untakenRetargeted {} {} n) (after untaken {} {} n) :=
  ⟨untaken_sameWhereRead, untaken_differsUnread,
    (run_determined_by_reads untaken untakenVariant {} {}).1 untaken_sameWhereRead,
    (run_determined_by_reads untaken untakenRetargeted {} {}).2 untaken_differsUnread⟩

end Machine

end StackMachine
