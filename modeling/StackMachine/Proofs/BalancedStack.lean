import StackMachine.Proofs.Reachability

/-!
# Balanced programs

A program is balanced if one can write a depth beside each of its instructions, and one behind the
last, such that every instruction finds the operands it takes and leads, by its own effect on the
stack, to a depth that agrees with what is written at the instructions it may lead to.  Nothing is
asked of the order in which instructions are executed: loops and joining branches are covered,
because they lead back to a depth that is already written.

The depth of the stack is then known without executing anything.  `depth_eq_of_reachable` says that
it is the one written at the position of the machine, and the rest follows from that.
-/

namespace StackMachine

namespace Opcode

/-- Whether the opcode may go on at the instruction its operand refers to. -/
def jumps : Opcode → Bool
  | jump | jumpIf _ => true
  | _ => false

end Opcode

namespace Action

/-- The number of values an action puts on the stack. -/
def pushed : Action → Nat
  | push _ => 1
  | _ => 0

end Action

namespace Program

/-! ## Depths beside the instructions -/

/-- The depths `d` agree with the effect of the instruction at position `i`. -/
structure Fits (p : Program) (d : Nat → Nat) (i : Nat) (op : Opcode) (operand : Word) : Prop where
  pops_le : op.pops ≤ d i
  /-- The next instruction finds what this one leaves. -/
  next : op ≠ .jump → op ≠ .halt → d (i + 1) = d i - op.pops + op.pushes
  /-- So does the one that is jumped to, if it is in the code. -/
  target : op.jumps = true → ∀ t, p.jumpTarget operand = .ok t → d t = d i - op.pops

/-- The depths `d` start at an empty stack and agree with every instruction of a known opcode.  Only
positions up to the end of the code matter. -/
structure Balanced (p : Program) (d : Nat → Nat) : Prop where
  start : d 0 = 0
  fits : ∀ i op operand, p.code[i]? = some ⟨.known op, operand⟩ → Fits p d i op operand

/-- A jump target is in the code, and the operand names it. -/
theorem jumpTarget_eq_ok_iff {p : Program} {operand : Word} {t : Nat} :
    p.jumpTarget operand = .ok t ↔ operand.index? = some t ∧ t < p.size := by
  unfold jumpTarget
  constructor
  · intro h
    split at h
    next found hfound =>
      cases h
      simpa using Option.filter_eq_some_iff.mp hfound
    next => cases h
  · rintro ⟨hindex, hlt⟩
    have hfound : operand.index?.filter (· < p.size) = some t :=
      Option.filter_eq_some_iff.mpr ⟨hindex, decide_eq_true hlt⟩
    rw [hfound]

instance (p : Program) (d : Nat → Nat) (i : Nat) (op : Opcode) (operand : Word) :
    Decidable (Fits p d i op operand) :=
  decidable_of_iff
    (op.pops ≤ d i ∧ (op ≠ .jump → op ≠ .halt → d (i + 1) = d i - op.pops + op.pushes) ∧
      (op.jumps = true → ∀ t < p.size, operand.index? = some t → d t = d i - op.pops))
    ⟨fun ⟨pops_le, next, target⟩ => ⟨pops_le, next, fun hop t ht =>
        target hop t (jumpTarget_eq_ok_iff.mp ht).2 (jumpTarget_eq_ok_iff.mp ht).1⟩,
      fun ⟨pops_le, next, target⟩ => ⟨pops_le, next, fun hop t hlt hindex =>
        target hop t (jumpTarget_eq_ok_iff.mpr ⟨hindex, hlt⟩)⟩⟩

/-- Whether the depths agree with the instruction at position `i`, if it is one to be looked at. -/
def fitsAt (p : Program) (d : Nat → Nat) (i : Nat) : Bool :=
  match p.code[i]? with
  | some ⟨.known op, operand⟩ => decide (Fits p d i op operand)
  | _ => true

theorem fitsAt_iff {p : Program} {d : Nat → Nat} {i : Nat} :
    fitsAt p d i = true ↔
      ∀ op operand, p.code[i]? = some ⟨.known op, operand⟩ → Fits p d i op operand := by
  unfold fitsAt
  split
  next op operand fetch =>
    rw [decide_eq_true_iff]
    constructor
    · intro fits op' operand' fetch'
      cases fetch.symm.trans fetch'
      exact fits
    · intro h
      exact h op operand fetch
  next unknown =>
    constructor
    · intro _ op operand fetch
      exact absurd fetch (unknown op operand)
    · intro _
      rfl

instance (p : Program) (d : Nat → Nat) : Decidable (Balanced p d) :=
  decidable_of_iff (d 0 = 0 ∧ ∀ i < p.size, fitsAt p d i = true)
    ⟨fun ⟨start, fits⟩ => ⟨start, fun i op operand fetch =>
        fitsAt_iff.mp (fits i (Array.getElem?_eq_some_iff.mp fetch).1) op operand fetch⟩,
      fun ⟨start, fits⟩ => ⟨start, fun i _ => fitsAt_iff.mpr (fits i)⟩⟩

end Program

namespace Machine

/-! ## What an action tells of the depth -/

section

variable {p : Program} {cfg : Config} {g : Globals} {op : Opcode} {w : Word} {args : List Word}
  {a : Action}

/-- An action that goes on with the next instruction pushes what its opcode does. -/
theorem Acts.pushes_eq (h : Acts p cfg g op w args a) (hjump : ∀ t, a ≠ .jump t)
    (hhalt : a ≠ .halt) : op ≠ .jump ∧ op ≠ .halt ∧ op.pushes = a.pushed := by
  cases h with
  | jump | taken => exact absurd rfl (hjump _)
  | halt => exact absurd rfl hhalt
  | loadConst | loadName | storeName | arith | compare | untaken | pop | print =>
      exact ⟨nofun, nofun, rfl⟩

theorem Acts.jumps_eq {t : Nat} (h : Acts p cfg g op w args (.jump t)) : op.jumps = true := by
  cases h <;> rfl

/-- No fault of the stack is among those an opcode finds in its operands. -/
theorem Refuses.stack_kept {f : Fault} (h : Refuses p cfg g op w args f) :
    f ≠ .stackUnderflow ∧ ∀ limit, f ≠ .stackOverflow limit := by
  cases h <;> exact ⟨nofun, nofun⟩

end

/-! ## The depth that is kept -/

section

variable {p : Program} {cfg : Config} {d : Nat → Nat} {m m' : Machine}

/-- Going on to the next instruction leads to the depth written there. -/
theorem Asks.next_depth {op : Opcode} {operand : Word} {a : Action} (balanced : p.Balanced d)
    (asks : Asks p cfg m op operand a) (hjump : ∀ t, a ≠ .jump t) (hhalt : a ≠ .halt) :
    d (m.ip + 1) = d m.ip - op.pops + a.pushed := by
  obtain ⟨notJump, notHalt, hpushes⟩ := asks.acts.pushes_eq hjump hhalt
  rw [← hpushes]
  exact (balanced.fits _ _ _ asks.fetch).next notJump notHalt

/-- So does a jump. -/
theorem Asks.target_depth {op : Opcode} {operand : Word} {t : Nat} (balanced : p.Balanced d)
    (asks : Asks p cfg m op operand (.jump t)) : d t = d m.ip - op.pops :=
  (balanced.fits _ _ _ asks.fetch).target asks.acts.jumps_eq t asks.acts.jumpTarget_eq

/-- A step that raises no fault keeps the written depth. -/
theorem Step.depth_eq (balanced : p.Balanced d) (h : Step p cfg m m')
    (hdepth : m.stack.depth = d m.ip) (sound : m'.fault = none) :
    m'.stack.depth = d m'.ip := by
  cases h with
  | ended => exact hdepth
  | undecoded | refused | overflowed | unprinted => cases sound
  | pushed asks =>
      have hnext := asks.next_depth balanced nofun nofun
      simp only [Stack.depth_push, dispatched_depth, hdepth, hnext, Action.pushed]
  | stored asks | printed asks | passed asks =>
      have hnext := asks.next_depth balanced nofun nofun
      simp only [dispatched_depth, hdepth, hnext, Action.pushed, Nat.add_zero]
  | jumped asks =>
      simp only [dispatched_depth]
      rw [hdepth, asks.target_depth balanced]
  | halted asks =>
      obtain rfl := asks.acts.eq_halt
      simpa [Opcode.pops] using hdepth

/-- At the written depth every opcode gets all its operands. -/
theorem length_operands (balanced : p.Balanced d) {op : Opcode} {operand : Word}
    (fetch : p.code[m.ip]? = some ⟨.known op, operand⟩) (hdepth : m.stack.depth = d m.ip) :
    (m.operands op).length = op.pops := by
  have hpops : op.pops ≤ m.stack.depth := hdepth ▸ (balanced.fits _ _ _ fetch).pops_le
  rw [operands, Stack.length_popMany]
  exact Nat.min_eq_left hpops

theorem Step.not_underflow (balanced : p.Balanced d) (h : Step p cfg m m')
    (running : m.Running) (hdepth : m.stack.depth = d m.ip) :
    m'.fault ≠ some .stackUnderflow := by
  intro faulted
  cases h with
  | undecoded | overflowed | unprinted => cases faulted
  | ended | pushed | stored | printed | jumped | passed | halted =>
      cases running.fault.symm.trans faulted
  | refused fetch act =>
      have full := length_operands balanced fetch hdepth
      have refuses := refuses_of_action full act
      cases faulted
      exact refuses.stack_kept.1 rfl

/-- Where the written depths stay within the limit, a push finds room. -/
theorem Step.not_overflow (balanced : p.Balanced d) (h : Step p cfg m m')
    (running : m.Running) (hdepth : m.stack.depth = d m.ip)
    (within : ∀ i ≤ p.size, d i ≤ cfg.maxStack) (limit : Nat) :
    m'.fault ≠ some (.stackOverflow limit) := by
  intro faulted
  cases h with
  | undecoded | unprinted => cases faulted
  | ended | pushed | stored | printed | jumped | passed | halted =>
      cases running.fault.symm.trans faulted
  | refused fetch act =>
      have full := length_operands balanced fetch hdepth
      have refuses := refuses_of_action full act
      cases faulted
      exact refuses.stack_kept.2 limit rfl
  | @overflowed op operand value asks full =>
      -- The depth after the push is written at the next position, so it is within the limit.
      have hnext : d (m.ip + 1) = d m.ip - op.pops + 1 := asks.next_depth balanced nofun nofun
      have hlimit : d (m.ip + 1) ≤ cfg.maxStack := within _ (lt_size_of_fetch asks.fetch)
      rw [dispatched_depth, hdepth] at full
      omega

/-! ## Every machine that calls lead to -/

/-- Without a fault, the stack has the depth written at the position of the machine. -/
theorem depth_eq_of_reachable (balanced : p.Balanced d) (h : Reachable p cfg m)
    (sound : m.fault = none) : m.stack.depth = d m.ip := by
  refine h.holds (P := fun m => m.fault = none → m.stack.depth = d m.ip) ?_
    (fun _ _ _ hdepth => hdepth) ?_ sound
  · intro _
    exact balanced.start.symm
  · intro m _ running hstep ih sound
    have hdepth : m.stack.depth = d m.ip := ih running.fault
    exact hstep.depth_eq balanced hdepth sound

theorem not_underflow_of_reachable (balanced : p.Balanced d) (h : Reachable p cfg m) :
    m.fault ≠ some .stackUnderflow := by
  refine h.holds (P := fun m => m.fault ≠ some .stackUnderflow) nofun
    (fun _ _ _ hsound => hsound) ?_
  intro m reach running hstep _
  have hdepth := depth_eq_of_reachable balanced reach running.fault
  exact hstep.not_underflow balanced running hdepth

theorem not_overflow_of_reachable (balanced : p.Balanced d) (h : Reachable p cfg m)
    (within : ∀ i ≤ p.size, d i ≤ cfg.maxStack) (limit : Nat) :
    m.fault ≠ some (.stackOverflow limit) := by
  refine h.holds (P := fun m => m.fault ≠ some (.stackOverflow limit)) nofun
    (fun _ _ _ hsound => hsound) ?_
  intro m reach running hstep _
  have hdepth := depth_eq_of_reachable balanced reach running.fault
  exact hstep.not_overflow balanced running hdepth within limit

/-- A machine halts at depth zero, if that is what is written wherever it may halt. -/
theorem depth_eq_zero_of_halted (balanced : p.Balanced d) (h : Reachable p cfg m)
    (halted : m.state = .halted) (hend : d p.size = 0)
    (hhalt : ∀ i operand, p.code[i]? = some ⟨.known .halt, operand⟩ → d i = 0) :
    m.stack.depth = 0 := by
  rw [depth_eq_of_reachable balanced h (h.fault_eq_none (by simp [halted]))]
  rcases h.ended halted with hip | ⟨operand, fetch⟩
  · rw [hip]
    exact hend
  · exact hhalt _ operand fetch

/-- **Balanced programs are safe for the stack.**  After any calls the stack is as deep as is written
at the position of a running machine, and it never runs short.  It never grows beyond a limit that
the written depths respect, and it is empty whenever the machine has halted, if nothing is left
where the code ends and where it halts. -/
theorem stack_safe_of_balanced (balanced : p.Balanced d) (h : Reachable p cfg m) :
    (m.state = .running → m.stack.depth = d m.ip) ∧
      m.fault ≠ some .stackUnderflow ∧
      ((∀ i ≤ p.size, d i ≤ cfg.maxStack) → ∀ limit, m.fault ≠ some (.stackOverflow limit)) ∧
      (d p.size = 0 → (∀ i operand, p.code[i]? = some ⟨.known .halt, operand⟩ → d i = 0) →
        m.state = .halted → m.stack.toList = []) := by
  refine ⟨?_, not_underflow_of_reachable balanced h, not_overflow_of_reachable balanced h, ?_⟩
  · intro running
    exact depth_eq_of_reachable balanced h (h.running running).fault
  · intro hend hhalt halted
    have hdepth := depth_eq_zero_of_halted balanced h halted hend hhalt
    rw [m.stack.depth_eq, List.length_eq_zero_iff] at hdepth
    rw [Stack.toList, hdepth, List.reverse_nil]

end

/-- Counts a global down to zero in a loop. -/
def countdown : Program where
  code := #[⟨.known .loadConst, 0⟩, ⟨.known .storeName, 0⟩,
    ⟨.known .loadName, 0⟩, ⟨.known (.jumpIf false), 9⟩,
    ⟨.known .loadName, 0⟩, ⟨.known .loadConst, 1⟩, ⟨.known (.arith .sub), 0⟩,
    ⟨.known .storeName, 0⟩, ⟨.known .jump, 2⟩, ⟨.known .halt, 0⟩]
  consts := #[2, 1]
  names := #["n"]

/-- The depths at the instructions of `countdown`. -/
def countdownDepths (i : Nat) : Nat :=
  [0, 1, 0, 1, 0, 1, 2, 1, 0].getD i 0

/-- The loop is run to its end on a stack with room for the two values it needs. -/
theorem stack_safe_of_balanced_countdown :
    countdown.Balanced countdownDepths ∧
      ∃ m, Reachable countdown { maxStack := 2 } m ∧ m.state = .halted ∧ m.stack.toList = [] ∧
        ∀ limit, m.fault ≠ some (.stackOverflow limit) := by
  have balanced : countdown.Balanced countdownDepths := by decide +kernel
  have halts : (({} : Machine).run countdown { maxStack := 2 } 20).map (·.1.state) =
      some .halted := by decide +kernel
  obtain ⟨⟨m, result⟩, hrun, halted⟩ := Option.map_eq_some_iff.mp halts
  have reach : Reachable countdown { maxStack := 2 } m := .run 20 (.fresh {} []) hrun
  obtain ⟨_, _, hlimit, hempty⟩ := stack_safe_of_balanced balanced reach
  have within : ∀ i ≤ countdown.size, countdownDepths i ≤ 2 := by decide
  have hhalt : ∀ i operand, countdown.code[i]? = some ⟨.known .halt, operand⟩ →
      countdownDepths i = 0 := by
    intro i operand fetch
    have hcode : ∀ i < countdown.size, countdown.code[i]?.map (·.mnemonic) = some (.known .halt) →
        countdownDepths i = 0 := by decide
    exact hcode i (Array.getElem?_eq_some_iff.mp fetch).1 (by rw [fetch]; rfl)
  exact ⟨balanced, m, reach, halted, hempty (by decide) hhalt halted, hlimit within⟩

end Machine

end StackMachine
