import StackMachine.Proofs.MachineStep

/-!
# The machines that calls lead to

A machine is driven from outside: single steps, whole runs and looks at the top of the stack follow
each other in any order, each with a sink of the caller's choice.  `Invariant` says what is true of
every machine that can come about so.  A step keeps it on all its ways, those that end in a fault
included; a run keeps it because it is made of steps.
-/

namespace StackMachine

/-! ## Names that are bound -/

/-- An insertion adds no name but its own. -/
theorem AssocList.fst_of_mem_insert {α : Type} {name : String} {value : α}
    {entries : List (String × α)} {entry : String × α} (h : entry ∈ insert name value entries) :
    entry.1 = name ∨ ∃ old ∈ entries, old.1 = entry.1 := by
  induction entries with
  | nil =>
      rw [insert, List.mem_singleton] at h
      exact Or.inl (congrArg Prod.fst h)
  | cons head rest ih =>
      obtain ⟨n, v⟩ := head
      rw [insert] at h
      split at h
      next hn =>
        rcases List.mem_cons.mp h with rfl | h
        · exact Or.inl hn
        · exact Or.inr ⟨entry, List.mem_cons_of_mem _ h, rfl⟩
      next =>
        rcases List.mem_cons.mp h with rfl | h
        · exact Or.inr ⟨(n, v), List.mem_cons_self, rfl⟩
        · rcases ih h with hname | ⟨old, hold, heq⟩
          · exact Or.inl hname
          · exact Or.inr ⟨old, List.mem_cons_of_mem _ hold, heq⟩

/-- Only names of the program are found for operands. -/
theorem Program.mem_names_of_nameAt {p : Program} {w : Word} {name : String}
    (h : p.nameAt w = .ok name) : name ∈ p.names := by
  unfold nameAt at h
  split at h
  next found hentry =>
    cases h
    obtain ⟨i, -, hi⟩ := Option.bind_eq_some_iff.mp hentry
    exact Array.mem_of_getElem? hi
  next => cases h

namespace Machine

/-! ## Calls -/

/-- The machines that calls lead to, from a new one on.  A look at the top of the stack changes
nothing and needs no rule of its own. -/
inductive Reachable (p : Program) (cfg : Config) : Machine → Prop where
  /-- A new machine. -/
  | fresh (sink : Sink) (log : List Event) : Reachable p cfg { sink, log }
  /-- The next call is given another sink. -/
  | redirect {m : Machine} (sink : Sink) : Reachable p cfg m → Reachable p cfg { m with sink }
  /-- A single step. -/
  | step {m : Machine} : Reachable p cfg m → Reachable p cfg (m.step p cfg)
  /-- A run that comes to its end or to a fault. -/
  | run {m m' : Machine} {result : Except Fault Unit} (fuel : Nat) :
      Reachable p cfg m → m.run p cfg fuel = some (m', result) → Reachable p cfg m'

/-- An instruction raises a fault: it cannot be decoded, or its execution fails. -/
def Raises (p : Program) (cfg : Config) (m : Machine) (i : Instruction) (f : Fault) : Prop :=
  i.decode = .error f ∨
    ∃ op, i.decode = .ok op ∧ (m.execute p cfg op i.operand).fault = some f

/-- The fault of a machine comes from the instruction that the machine stands at: calls had led to a
machine that was about to execute it, that instruction raised the fault, and the machine has been
left as it was after that step, whatever its sink and log are by now. -/
def RaisedHere (p : Program) (cfg : Config) (m : Machine) (f : Fault) : Prop :=
  ∃ before i, Reachable p cfg before ∧ before.Running ∧ before.ip = m.ip ∧
    p.code[m.ip]? = some i ∧ Raises p cfg before i f ∧
    m = { before.step p cfg with sink := m.sink, log := m.log }

theorem RaisedHere.ip_lt {p : Program} {cfg : Config} {m : Machine} {f : Fault}
    (h : RaisedHere p cfg m f) : m.ip < p.size := by
  obtain ⟨_, _, _, _, _, fetch, _⟩ := h
  exact lt_size_of_fetch fetch

/-- What is true of every machine that calls lead to. -/
structure Invariant (p : Program) (cfg : Config) (m : Machine) : Prop where
  /-- The position is in the code or right behind it. -/
  ip_le : m.ip ≤ p.size
  depth_le : m.stack.depth ≤ cfg.maxStack
  /-- Only names of the program are bound. -/
  named : ∀ b ∈ m.globals.bindings, b.1 ∈ p.names
  /-- A machine that has faulted has a fault on record, and no other has. -/
  recorded : m.state = .faulted ↔ ∃ f, m.fault = some f
  /-- A fault is raised inside the code, at the position of the machine, and never by loading. -/
  raised : ∀ f, m.fault = some f → m.ip < p.size ∧ RaisedHere p cfg m f ∧ f.isLoad = false
  /-- A machine halts behind the code or at an instruction to halt. -/
  ended : m.state = .halted →
    m.ip = p.size ∨ ∃ operand, p.code[m.ip]? = some ⟨.known .halt, operand⟩

/-! ## What a step keeps -/

section

variable {p : Program} {cfg : Config} {m m' : Machine}

theorem Step.ip_le (h : Step p cfg m m') (hip : m.ip ≤ p.size) : m'.ip ≤ p.size := by
  cases h with
  | ended | undecoded | refused | overflowed | unprinted | halted => exact hip
  | pushed asks | stored asks | printed asks | passed asks => exact lt_size_of_fetch asks.fetch
  | jumped asks => exact Nat.le_of_lt (Program.jumpTarget_lt_size asks.acts.jumpTarget_eq)

theorem Step.depth_le (h : Step p cfg m m') (hdepth : m.stack.depth ≤ cfg.maxStack) :
    m'.stack.depth ≤ cfg.maxStack := by
  cases h with
  | ended | undecoded => exact hdepth
  | pushed asks room => exact room
  | refused | overflowed | stored | printed | unprinted | jumped | passed | halted =>
      -- Operands are off the stack, whatever came of them.
      simp
      omega

theorem Step.named (h : Step p cfg m m') (hnamed : ∀ b ∈ m.globals.bindings, b.1 ∈ p.names) :
    ∀ b ∈ m'.globals.bindings, b.1 ∈ p.names := by
  cases h with
  | ended | undecoded | refused | pushed | overflowed | printed | unprinted | jumped | passed |
    halted => exact hnamed
  | stored asks =>
      intro b hb
      rcases AssocList.fst_of_mem_insert hb with hname | ⟨old, hold, heq⟩
      · rw [hname]
        exact Program.mem_names_of_nameAt asks.acts.nameAt_eq
      · rw [← heq]
        exact hnamed old hold

/-- State and fault are set together, though in two places. -/
theorem Step.recorded (h : Step p cfg m m') (running : m.Running) :
    m'.state = .faulted ↔ ∃ f, m'.fault = some f := by
  cases h with
  | undecoded | refused | overflowed | unprinted => simp
  | ended | pushed | stored | printed | jumped | passed | halted =>
      simp [running.state, running.fault]

/-- A machine that was running and has halted came to the end of the code or to an instruction to
halt. -/
theorem Step.ended_of_halted (h : Step p cfg m m') (running : m.Running)
    (hip : m.ip ≤ p.size) (halted : m'.state = .halted) :
    m'.ip = p.size ∨ ∃ operand, p.code[m'.ip]? = some ⟨.known .halt, operand⟩ := by
  cases h with
  | ended fetch => exact Or.inl (Nat.le_antisymm hip (Array.getElem?_eq_none_iff.mp fetch))
  | undecoded | refused | overflowed | unprinted => cases halted
  | pushed | stored | printed | jumped | passed => cases running.state.symm.trans halted
  | @halted op operand asks =>
      obtain rfl := asks.acts.eq_halt
      exact Or.inr ⟨operand, asks.fetch⟩

/-- A machine that was running and has a fault has not moved. -/
theorem Step.fetch_of_faulted {f : Fault} (h : Step p cfg m m') (running : m.Running)
    (faulted : m'.fault = some f) : m'.ip = m.ip ∧ ∃ i, p.code[m.ip]? = some i := by
  cases h with
  | undecoded fetch | refused fetch => exact ⟨rfl, _, fetch⟩
  | overflowed asks | unprinted asks => exact ⟨rfl, _, asks.fetch⟩
  | ended | pushed | stored | printed | jumped | passed | halted =>
      cases running.fault.symm.trans faulted

/-- No opcode answers that the program could not be loaded. -/
theorem isLoad_of_action {g : Globals} {op : Opcode} {w : Word} {args : List Word} {f : Fault}
    (act : action p cfg g op w args = .error f) : f.isLoad = false := by
  by_cases full : args.length = op.pops
  · cases refuses_of_action full act <;> rfl
  · rw [action_of_length_ne full] at act
    cases act
    rfl

theorem Step.isLoad_of_faulted {f : Fault} (h : Step p cfg m m') (running : m.Running)
    (faulted : m'.fault = some f) : f.isLoad = false := by
  cases h with
  | undecoded | overflowed | unprinted =>
      cases faulted
      rfl
  | refused _ act =>
      cases faulted
      exact isLoad_of_action act
  | ended | pushed | stored | printed | jumped | passed | halted =>
      cases running.fault.symm.trans faulted

theorem raises_of_step {f : Fault} {i : Instruction} (running : m.Running)
    (fetch : p.code[m.ip]? = some i) (faulted : (m.step p cfg).fault = some f) :
    Raises p cfg m i f := by
  cases hdecode : i.decode with
  | error f' =>
      have hstep : m.step p cfg = m.fail f' := by simp [step, running, fetch, hdecode]
      rw [hstep] at faulted
      cases faulted
      exact Or.inl hdecode
  | ok op =>
      have hstep : m.step p cfg = m.execute p cfg op i.operand := by
        simp [step, running, fetch, hdecode]
      rw [hstep] at faulted
      exact Or.inr ⟨op, hdecode, faulted⟩

end

/-! ## What calls keep -/

section

variable {p : Program} {cfg : Config} {m : Machine}

/-- A run leaves the machine as its last step did, but for the sink and the log. -/
theorem run_eq_some {fuel : Nat} {m' : Machine} {result : Except Fault Unit}
    (h : m.run p cfg fuel = some (m', result)) :
    ∃ sink log, m' = { m.settle p cfg fuel with sink, log } := by
  unfold run at h
  dsimp only at h
  split at h
  next => cases h
  next stopped =>
    have hconclude := Option.some.inj h
    unfold conclude at hconclude
    split at hconclude
    next =>
      cases hconclude
      exact ⟨_, _, rfl⟩
    next =>
      split at hconclude
      all_goals
        cases hconclude
        exact ⟨_, _, rfl⟩

/-- What a step keeps is kept by any number of them. -/
theorem Reachable.settle_holds {P : Machine → Prop}
    (stepped : ∀ m, Reachable p cfg m → P m → P (m.step p cfg)) (fuel : Nat)
    (reach : Reachable p cfg m) (hm : P m) : P (m.settle p cfg fuel) := by
  induction fuel generalizing m with
  | zero => exact hm
  | succ fuel ih =>
      rw [settle]
      split
      next => exact ih reach.step (stepped m reach hm)
      next => exact hm

/-- What a new machine has and steps keep is true of every machine that calls lead to, if it does
not depend on the sink and the log. -/
theorem Reachable.holds {P : Machine → Prop} (fresh : P {})
    (output : ∀ m sink log, P m → P { m with sink, log })
    (step : ∀ m, Reachable p cfg m → m.Running → Step p cfg m (m.step p cfg) → P m →
      P (m.step p cfg))
    (h : Reachable p cfg m) : P m := by
  have stepped : ∀ m, Reachable p cfg m → P m → P (m.step p cfg) := by
    intro m reach hm
    by_cases running : m.Running
    · exact step m reach running (step_of_running running) hm
    · rw [step_of_not_running running]
      exact hm
  induction h with
  | fresh sink log => exact output {} sink log fresh
  | @redirect m sink _ ih => exact output m sink m.log ih
  | step reach ih => exact stepped _ reach ih
  | run fuel reach hrun ih =>
      -- A run is made of steps, and its end touches nothing but the sink and the log.
      obtain ⟨sink, log, rfl⟩ := run_eq_some hrun
      exact output _ sink log (reach.settle_holds stepped fuel ih)

theorem Reachable.ip_le (h : Reachable p cfg m) : m.ip ≤ p.size :=
  h.holds (P := fun m => m.ip ≤ p.size) (Nat.zero_le _) (fun _ _ _ hip => hip)
    (fun _ _ _ hstep hip => hstep.ip_le hip)

theorem Reachable.depth_le (h : Reachable p cfg m) : m.stack.depth ≤ cfg.maxStack :=
  h.holds (P := fun m => m.stack.depth ≤ cfg.maxStack) (Nat.zero_le _) (fun _ _ _ hdepth => hdepth)
    (fun _ _ _ hstep hdepth => hstep.depth_le hdepth)

theorem Reachable.named (h : Reachable p cfg m) : ∀ b ∈ m.globals.bindings, b.1 ∈ p.names := by
  refine h.holds (P := fun m => ∀ b ∈ m.globals.bindings, b.1 ∈ p.names) ?_
    (fun _ _ _ hnamed => hnamed) (fun _ _ _ hstep hnamed => hstep.named hnamed)
  intro b hb
  cases hb

theorem Reachable.recorded (h : Reachable p cfg m) :
    m.state = .faulted ↔ ∃ f, m.fault = some f := by
  refine h.holds (P := fun m => m.state = .faulted ↔ ∃ f, m.fault = some f) (by simp)
    (fun _ _ _ hrecorded => hrecorded) ?_
  intro m _ running hstep _
  exact hstep.recorded running

theorem Reachable.fault_eq_none (h : Reachable p cfg m) (sound : m.state ≠ .faulted) :
    m.fault = none := by
  cases recorded : m.fault with
  | none => rfl
  | some f => exact absurd (h.recorded.mpr ⟨f, recorded⟩) sound

/-- Of the machines that calls lead to, those whose state is that of a run take another step. -/
theorem Reachable.running (h : Reachable p cfg m) (state : m.state = .running) : m.Running :=
  ⟨state, h.fault_eq_none (by simp [state])⟩

/-- The others have halted, or have a fault on record. -/
theorem Reachable.stopped (h : Reachable p cfg m) (stopped : ¬ m.Running) :
    m.state = .halted ∧ m.fault = none ∨ ∃ f, m.state = .faulted ∧ m.fault = some f := by
  cases state : m.state with
  | running => exact absurd (h.running state) stopped
  | halted => exact Or.inl ⟨rfl, h.fault_eq_none (by simp [state])⟩
  | faulted =>
      obtain ⟨f, recorded⟩ := h.recorded.mp state
      exact Or.inr ⟨f, rfl, recorded⟩

theorem Reachable.ended (h : Reachable p cfg m) (halted : m.state = .halted) :
    m.ip = p.size ∨ ∃ operand, p.code[m.ip]? = some ⟨.known .halt, operand⟩ := by
  refine h.holds (P := fun m => m.state = .halted →
    m.ip = p.size ∨ ∃ operand, p.code[m.ip]? = some ⟨.known .halt, operand⟩) ?_
    (fun _ _ _ hended => hended) ?_ halted
  · intro hfresh
    cases hfresh
  · intro m reach running hstep _
    exact hstep.ended_of_halted running reach.ip_le

theorem Reachable.isLoad_of_fault {f : Fault} (h : Reachable p cfg m) (faulted : m.fault = some f) :
    f.isLoad = false := by
  refine h.holds (P := fun m => m.fault = some f → f.isLoad = false) nofun
    (fun _ _ _ hsound => hsound) ?_ faulted
  intro m _ running hstep _
  exact hstep.isLoad_of_faulted running

theorem Reachable.raised {f : Fault} (h : Reachable p cfg m) (faulted : m.fault = some f) :
    RaisedHere p cfg m f := by
  refine h.holds (P := fun m => m.fault = some f → RaisedHere p cfg m f) ?_ ?_ ?_ faulted
  · intro hfresh
    cases hfresh
  · intro m sink log hraised hfaulted
    obtain ⟨before, i, reach, running, hip, fetch, raises, heq⟩ := hraised hfaulted
    refine ⟨before, i, reach, running, hip, fetch, raises, ?_⟩
    exact congrArg (fun after : Machine => { after with sink, log }) heq
  · intro m reach running hstep _ hfaulted
    obtain ⟨hip, i, fetch⟩ := hstep.fetch_of_faulted running hfaulted
    exact ⟨m, i, reach, running, hip.symm, hip ▸ fetch, raises_of_step running fetch hfaulted, rfl⟩

/-- **The invariant of the machine** holds after any calls, in any order and with any sinks. -/
theorem invariant_of_reachable (h : Reachable p cfg m) : Invariant p cfg m where
  ip_le := h.ip_le
  depth_le := h.depth_le
  named := h.named
  recorded := h.recorded
  raised := by
    intro f faulted
    have raised : RaisedHere p cfg m f := h.raised faulted
    exact ⟨raised.ip_lt, raised, h.isLoad_of_fault faulted⟩
  ended := h.ended

end

/-- Stores a constant and then drops a value that is not there. -/
def oneTooMany : Program where
  code := #[⟨.known .loadConst, 0⟩, ⟨.known .storeName, 0⟩, ⟨.known .pop, 0⟩]
  consts := #[7]
  names := #["x"]

/-- The invariant after three steps, the last of which finds no value, and a change of sink. -/
theorem invariant_of_reachable_oneTooMany :
    ∃ m, Reachable oneTooMany {} m ∧ m.state = .faulted ∧ m.fault = some .stackUnderflow ∧
      m.ip = 2 ∧ m.globals.bindings = [("x", 7)] ∧ Invariant oneTooMany {} m := by
  have reach : Reachable oneTooMany {} _ :=
    .redirect { room := some 1 } (.step (.step (.step (.fresh {} []))))
  exact ⟨_, reach, by decide, by decide, by decide, by decide, invariant_of_reachable reach⟩

end Machine

end StackMachine
