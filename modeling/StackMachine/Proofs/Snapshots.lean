import StackMachine.Proofs.Lockstep

/-!
# Runs between snapshots

To follow a known program step by step it is enough to know what the machine shows of itself: where it
stands, what is on its stack and in its globals, and what its sink has taken.  `Runs` says that so many
instructions lead from one such snapshot to another, whichever machine it was taken of.  There is one
rule for all instructions (`runs_of_acts`): the operands are on top of the stack, the opcode makes an
action of them, and the action does not fail.  Runs are put together with `Runs.trans`.
-/

namespace StackMachine

/-! ## Snapshots -/

/-- What a machine shows of itself, but for its log and the number of instructions executed. -/
structure Snapshot : Type where
  state : RunState
  fault : Option Fault
  ip : Nat
  /-- The values on the stack, the bottom one first. -/
  stack : List Word
  globals : Globals
  sink : Sink

namespace Snapshot

/-- What an action makes of a machine if it does not fail. -/
def perform (c : Snapshot) : Action → Snapshot
  | .push value => { c with stack := c.stack ++ [value], ip := c.ip + 1 }
  | .store name value => { c with globals := c.globals.store name value, ip := c.ip + 1 }
  | .print value =>
    { c with sink := (c.sink.write (Utf8.encode (Decimal.ofWord value ++ "\n"))).1, ip := c.ip + 1 }
  | .jump target => { c with ip := target }
  | .next => { c with ip := c.ip + 1 }
  | .halt => { c with state := .halted }

/-- There is room for what the action pushes or prints. -/
def Allows (cfg : Config) (c : Snapshot) : Action → Prop
  | .push _ => c.stack.length < cfg.maxStack
  | .print value => (c.sink.write (Utf8.encode (Decimal.ofWord value ++ "\n"))).2 = none
  | .store _ _ | .jump _ | .next | .halt => True

end Snapshot

namespace Stack

theorem length_toList (s : Stack) : s.toList.length = s.depth := by
  rw [toList, List.length_reverse, s.depth_eq]

/-- Values that are known to be on top are the ones taken off. -/
theorem popMany_of_toList {s : Stack} {rest args : List Word} (h : s.toList = rest ++ args) :
    (popMany args.length s).1 = args ∧ (popMany args.length s).2.toList = rest := by
  have whole := (toList_popMany args.length s).trans h
  have enough : args.length ≤ s.depth := by
    rw [← length_toList, h, List.length_append]
    omega
  have length_eq : (popMany args.length s).1.length = args.length := by
    rw [length_popMany, Nat.min_eq_left enough]
  obtain ⟨below, taken⟩ := List.append_inj' whole length_eq
  exact ⟨taken, below⟩

end Stack

namespace Machine

def snapshot (m : Machine) : Snapshot where
  state := m.state
  fault := m.fault
  ip := m.ip
  stack := m.stack.toList
  globals := m.globals
  sink := m.sink

section

variable {p : Program} {m : Machine} {op : Opcode} {w : Word} {ip : Nat} {values : List Word}
  {g : Globals} {s : Sink}

theorem fetches_of_snapshot (looks : m.snapshot = ⟨.running, none, ip, values, g, s⟩)
    (fetch : p.code[ip]? = some ⟨.known op, w⟩) : Fetches p m op w := by
  obtain ⟨state, fault, rfl, -, -, -⟩ := Snapshot.mk.inj looks
  exact ⟨⟨state, fault⟩, fetch⟩

theorem toList_of_snapshot (looks : m.snapshot = ⟨.running, none, ip, values, g, s⟩) :
    m.stack.toList = values :=
  (Snapshot.mk.inj looks).2.2.2.1

end

/-- From every machine that looks like `c`, executing `n` instructions leads to one that looks
like `c'`. -/
structure Runs (p : Program) (cfg : Config) (n : Nat) (c c' : Snapshot) : Prop where
  leads : ∀ m : Machine, m.snapshot = c →
    ((step p cfg)^[n] m).snapshot = c' ∧
      ((step p cfg)^[n] m).executed = m.executed + UInt64.ofNat n

section

variable {p : Program} {cfg : Config} {j k : Nat} {c c' c'' : Snapshot}

theorem Runs.refl (p : Program) (cfg : Config) (c : Snapshot) : Runs p cfg 0 c c :=
  ⟨fun m here => ⟨here, (UInt64.add_zero m.executed).symm⟩⟩

theorem Runs.trans (h : Runs p cfg j c c') (h' : Runs p cfg k c' c'') : Runs p cfg (j + k) c c'' := by
  constructor
  intro m here
  obtain ⟨between, first⟩ := h.leads m here
  obtain ⟨there, second⟩ := h'.leads _ between
  rw [Nat.add_comm, Function.iterate_add_apply]
  refine ⟨there, ?_⟩
  rw [second, first, UInt64.add_assoc, ← UInt64.ofNat_add, Nat.add_comm]

/-! ## One instruction -/

/-- An action for which there is room does what it does to a snapshot. -/
theorem snapshot_perform {m : Machine} {a : Action} (allows : m.snapshot.Allows cfg a) :
    (m.perform cfg a).snapshot = m.snapshot.perform a ∧ (m.perform cfg a).executed = m.executed := by
  cases a with
  | store | jump | next | halt => exact ⟨rfl, rfl⟩
  | push value =>
      have room : m.stack.depth < cfg.maxStack := by
        rw [← Stack.length_toList]
        exact allows
      rw [perform_push_of_lt value room]
      simp [snapshot, Snapshot.perform]
  | print value =>
      have write : m.sink.write (Utf8.encode (Decimal.ofWord value ++ "\n")) = (_, none) :=
        Prod.ext rfl allows
      rw [perform_print_of_none write]
      exact ⟨rfl, rfl⟩

/-- **The rule of an instruction.**  Its operands `args` are on top of the stack, they make it ask for
the action `a`, and there is room for what the action pushes or prints. -/
theorem runs_of_acts {op : Opcode} {w : Word} {ip : Nat} {args : List Word} {g : Globals} {s : Sink}
    {a : Action} (rest : List Word) (fetch : p.code[ip]? = some ⟨.known op, w⟩)
    (acts : Acts p cfg g op w args a)
    (allows : Snapshot.Allows cfg ⟨.running, none, ip, rest, g, s⟩ a) :
    Runs p cfg 1 ⟨.running, none, ip, rest ++ args, g, s⟩
      (Snapshot.perform ⟨.running, none, ip, rest, g, s⟩ a) := by
  constructor
  intro m looks
  have here : Fetches p m op w := fetches_of_snapshot looks fetch
  obtain ⟨state, fault, rfl, stack_eq, rfl, rfl⟩ := Snapshot.mk.inj looks
  obtain ⟨taken, below⟩ := Stack.popMany_of_toList stack_eq
  rw [acts.length_eq] at taken below
  have dispatched_eq : (m.dispatched op w).snapshot =
      ⟨.running, none, m.ip, rest, m.globals, m.sink⟩ := by
    rw [← state, ← fault, ← below]
    rfl
  have act : action p cfg m.globals op w (m.operands op) = .ok a := by
    rw [operands, taken, acts.action_eq]
  have allows' : (m.dispatched op w).snapshot.Allows cfg a := by rwa [dispatched_eq]
  obtain ⟨performed, executed⟩ := snapshot_perform allows'
  rw [Function.iterate_one, here.step_eq_perform act, performed, dispatched_eq, executed]
  exact ⟨rfl, rfl⟩

/-- The rule with the sink that a line leads to. -/
theorem runs_print {ip : Nat} {w v : Word} {g : Globals} {s s' : Sink} (rest : List Word)
    (fetch : p.code[ip]? = some ⟨.known .print, w⟩)
    (write : s.write (Utf8.encode (Decimal.ofWord v ++ "\n")) = (s', none)) :
    Runs p cfg 1 ⟨.running, none, ip, rest ++ [v], g, s⟩ ⟨.running, none, ip + 1, rest, g, s'⟩ := by
  have rule : Runs p cfg 1 ⟨.running, none, ip, rest ++ [v], g, s⟩ _ :=
    runs_of_acts rest fetch .print (congrArg Prod.snd write)
  rwa [Snapshot.perform, write] at rule

end

end Machine

end StackMachine
