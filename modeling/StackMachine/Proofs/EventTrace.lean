import StackMachine.Proofs.LimitedOutput

/-!
# The log as a trace of the run

A machine logs each instruction before it executes it, its fault if it comes to one, and the end of each
run that succeeds.  `Logged` says what a step adds to the log, in each of the ways it can end.  `Traced`
is what the whole log looks like: an entry for each instruction that was executed, the fault, and the
ends of the runs.  A step keeps it (`Traced.step`), so does the end of a run (`Traced.conclude`), and a
change of sink does not touch it, so it holds after any session.

The entry behind `k` others is for the instruction that a new machine comes to after `k` steps if
nothing hinders it from printing.  Everything about the order of the entries follows from that.
-/

namespace StackMachine

/-! ## Visits -/

/-- An instruction that a run came to: its position and what is stored there. -/
structure Visit : Type where
  ip : Nat
  op : Opcode
  operand : Word
deriving DecidableEq

namespace Visit

/-- The entry of a visit in the log. -/
def event (v : Visit) : Event :=
  .dispatch v.ip v.op v.operand

/-- The position that a run may go on with.  An unconditional jump has its target only, and nothing
comes behind a halt. -/
def Leads (p : Program) (v : Visit) (next : Nat) : Prop :=
  match v.op with
  | .halt => False
  | .jump => p.jumpTarget v.operand = .ok next
  | .jumpIf _ => next = v.ip + 1 ∨ p.jumpTarget v.operand = .ok next
  | _ => next = v.ip + 1

/-- The machine is about to execute the instruction of the visit. -/
structure At (v : Visit) (p : Program) (m : Machine) : Prop where
  ip : v.ip = m.ip
  fetches : Machine.Fetches p m v.op v.operand

end Visit

/-- The visit that an event is the entry of, if it is one. -/
def Event.visit? : Event → Option Visit
  | .dispatch ip op operand => some ⟨ip, op, operand⟩
  | _ => none

namespace Machine

/-- The entry for the fault, if the machine has come to one. -/
def ending (m : Machine) : List Event :=
  match m.fault with
  | some f => [.faulted m.ip f]
  | none => []

/-- The call was a run that succeeded. -/
def Answer.succeeded : Answer → Bool
  | .ran (.ok _) => true
  | .ran (.error _) | .stepped _ => false

/-- Calls one after another, each with a sink of its own. -/
inductive Session (p : Program) (cfg : Config) :
    Machine → List (Sink × Call) → Machine → List Answer → Prop where
  | done {m : Machine} : Session p cfg m [] m []
  | call {m between m' : Machine} {c : Call} {answer : Answer} {cs : List (Sink × Call)}
      {answers : List Answer} (sink : Sink) (made : Calls p cfg { m with sink } [c] between [answer])
      (rest : Session p cfg between cs m' answers) :
      Session p cfg m ((sink, c) :: cs) m' (answer :: answers)

theorem ending_of_fault {m : Machine} {f : Fault} (h : m.fault = some f) :
    m.ending = [.faulted m.ip f] := by
  simp [ending, h]

theorem ending_of_sound {m : Machine} (h : m.fault = none) : m.ending = [] := by
  simp [ending, h]

section

variable {p : Program} {cfg : Config} {m m' : Machine}

/-! ## What a step logs -/

theorem Acts.leads_next {g : Globals} {op : Opcode} {w : Word} {args : List Word} {a : Action}
    (h : Acts p cfg g op w args a) (stays : a ≠ .halt) (straight : ∀ target, a ≠ .jump target)
    (ip : Nat) : Visit.Leads p ⟨ip, op, w⟩ (ip + 1) := by
  cases h with
  | loadConst | loadName | storeName | arith | compare | pop | print => exact rfl
  | jump | taken => exact absurd rfl (straight _)
  | untaken => exact Or.inl rfl
  | halt => exact absurd rfl stays

theorem Acts.leads_target {g : Globals} {op : Opcode} {w : Word} {args : List Word} {target : Nat}
    (h : Acts p cfg g op w args (.jump target)) (ip : Nat) : Visit.Leads p ⟨ip, op, w⟩ target := by
  cases h with
  | jump target_ok => exact target_ok
  | taken _ target_ok => exact Or.inr target_ok

theorem action_ne_unknownOpcode {g : Globals} {op : Opcode} {w : Word} {args : List Word}
    (text : String) : action p cfg g op w args ≠ .error (.unknownOpcode text) := by
  intro act
  by_cases full : args.length = op.pops
  · cases refuses_of_action full act
  · rw [action_of_length_ne full] at act
    cases act

/-- What a step of a running machine adds to its log. -/
inductive Logged (p : Program) (m m' : Machine) : Prop where
  /-- An instruction is executed.  If it fails, the fault is its own. -/
  | dispatched (v : Visit) (here : v.At p m) (executed : m'.executed = m.executed + 1)
      (events : m'.events = m.events ++ v.event :: m'.ending)
      (leads : m'.Running → v.Leads p m'.ip)
      (fault : ∀ f, m'.fault = some f → m'.ip = m.ip ∧ ∀ text, f ≠ .unknownOpcode text)
  /-- There is no instruction left. -/
  | ended (state : m'.state = .halted) (sound : m'.fault = none) (executed : m'.executed = m.executed)
      (events : m'.events = m.events)
  /-- The instruction is none that the machine knows. -/
  | undecoded (text : String) (operand : Word)
      (fetch : p.code[m'.ip]? = some ⟨.unknown text, operand⟩)
      (fault : m'.fault = some (.unknownOpcode text)) (executed : m'.executed = m.executed)
      (events : m'.events = m.events ++ m'.ending)

/-- An instruction that is executed without a fault adds its own entry. -/
theorem logged_dispatched {op : Opcode} {operand : Word} (here : Fetches p m op operand)
    (executed : m'.executed = m.executed + 1) (log : m'.log = .dispatch m.ip op operand :: m.log)
    (sound : m'.fault = none)
    (leads : m'.Running → Visit.Leads p ⟨m.ip, op, operand⟩ m'.ip) : Logged p m m' := by
  refine .dispatched ⟨m.ip, op, operand⟩ ⟨rfl, here⟩ executed ?_ leads ?_
  · rw [ending_of_sound sound, events, log, List.reverse_cons]
    rfl
  · intro f faulted
    cases sound.symm.trans faulted

/-- One that fails adds the fault to it. -/
theorem logged_failed {op : Opcode} {operand : Word} {f : Fault} (here : Fetches p m op operand)
    (decoded : ∀ text, f ≠ .unknownOpcode text) (sink : Sink) :
    Logged p m ({ m.dispatched op operand with sink }.fail f) := by
  refine .dispatched ⟨m.ip, op, operand⟩ ⟨rfl, here⟩ rfl ?_ ?_ ?_
  · rw [ending_of_fault rfl]
    simp [events, fail, Machine.dispatched, Visit.event]
  · intro running
    cases running.fault
  · intro f' faulted
    cases faulted
    exact ⟨rfl, decoded⟩

theorem Step.logged (h : Step p cfg m m') (running : m.Running) : Logged p m m' := by
  have sound : m.fault = none := running.fault
  cases h with
  | ended => exact .ended rfl sound rfl rfl
  | @undecoded text operand fetch =>
      refine .undecoded text operand fetch rfl rfl ?_
      rw [ending_of_fault rfl, events, fail, List.reverse_cons]
      rfl
  | refused fetch act =>
      refine logged_failed ⟨running, fetch⟩ ?_ m.sink
      rintro text rfl
      exact action_ne_unknownOpcode text act
  | overflowed asks | unprinted asks =>
      refine logged_failed ⟨running, asks.fetch⟩ ?_ _
      intro text unknown
      cases unknown
  | pushed asks | stored asks | printed asks | passed asks =>
      exact logged_dispatched ⟨running, asks.fetch⟩ rfl rfl sound
        fun _ => asks.acts.leads_next nofun nofun m.ip
  | jumped asks =>
      exact logged_dispatched ⟨running, asks.fetch⟩ rfl rfl sound
        fun _ => asks.acts.leads_target m.ip
  | halted asks =>
      refine logged_dispatched ⟨running, asks.fetch⟩ rfl rfl sound ?_
      intro goes_on
      cases goes_on.state

end

/-! ## Steps with another sink -/

section

variable {p : Program} {cfg : Config}

/-- An action that raises no fault is the same with any sink, if the other one has no limit. -/
theorem exists_perform_eq {m : Machine} {a : Action} (unlimited : m.sink.room = none) (sink : Sink)
    (log : List Event) (sound : (({ m with sink, log } : Machine).perform cfg a).fault = none) :
    ∃ sink' log', ({ m with sink, log } : Machine).perform cfg a =
      { m.perform cfg a with sink := sink', log := log' } := by
  cases a with
  | store | jump | next | halt => exact ⟨_, _, rfl⟩
  | push value =>
      by_cases room : m.stack.depth < cfg.maxStack
      · rw [perform_push_of_lt value room]
        exact ⟨_, _, perform_push_of_lt value room⟩
      · have full := Nat.le_of_not_lt room
        rw [perform_push_of_le value full]
        exact ⟨_, _, perform_push_of_le value full⟩
  | print value =>
      rw [perform_print_of_none (Sink.write_unlimited unlimited _)]
      cases write : sink.write (Utf8.encode (Decimal.ofWord value ++ "\n")) with
      | mk sink' failure =>
          cases failure with
          | none => exact ⟨_, _, perform_print_of_none write⟩
          | some e =>
              have failed : ({ m with sink, log } : Machine).perform cfg (.print value) = _ :=
                perform_print_of_some write
              rw [failed] at sound
              cases sound

/-- So is a step. -/
theorem exists_step_eq {m : Machine} (unlimited : m.sink.room = none) (sink : Sink)
    (log : List Event) (sound : (({ m with sink, log } : Machine).step p cfg).fault = none) :
    ∃ sink' log', ({ m with sink, log } : Machine).step p cfg =
      { m.step p cfg with sink := sink', log := log' } := by
  by_cases running : m.Running
  · have running' : ({ m with sink, log } : Machine).Running := ⟨running.state, running.fault⟩
    cases fetch : p.code[m.ip]? with
    | none =>
        rw [step_of_fetch_none running fetch]
        exact ⟨sink, log, step_of_fetch_none running' fetch⟩
    | some i =>
        obtain ⟨mnemonic, operand⟩ := i
        cases mnemonic with
        | unknown text =>
            rw [step_of_unknown running' fetch] at sound
            cases sound
        | known op =>
            have here : Fetches p m op operand := ⟨running, fetch⟩
            have there : Fetches p { m with sink, log } op operand := ⟨running', fetch⟩
            cases act : action p cfg m.globals op operand (m.operands op) with
            | error f =>
                rw [there.step_eq_fail act] at sound
                cases sound
            | ok a =>
                rw [there.step_eq_perform act] at sound ⊢
                rw [here.step_eq_perform act]
                exact exists_perform_eq (m := m.dispatched op operand) unlimited sink _ sound
  · have stopped : ¬ ({ m with sink, log } : Machine).Running :=
      fun running' => running ⟨running'.state, running'.fault⟩
    rw [step_of_not_running running, step_of_not_running stopped]
    exact ⟨_, _, rfl⟩

end

/-! ## The trace of a session -/

section

variable {p : Program} {cfg : Config} {sink : Sink} {m : Machine} {visits : List Visit}
  {ends n : Nat}

theorem logged_after (running : (after p cfg sink n).Running) :
    Logged p (after p cfg sink n) (after p cfg sink (n + 1)) := by
  rw [after_succ]
  exact (step_of_running running).logged running

/-- The log of a machine is made of these visits, with its fault behind them, and the ends of so many
runs.  The visit behind `k` others is what a new machine comes to after `k` steps. -/
structure Traced (p : Program) (cfg : Config) (m : Machine) (visits : List Visit) (ends : Nat) :
    Prop where
  reach : Reachable p cfg m
  events : m.events = visits.map Visit.event ++ m.ending ++
    List.replicate ends (.halted m.executed m.stack.depth m.globals.size)
  ended : ends ≠ 0 → m.state = .halted
  executed : m.executed = UInt64.ofNat visits.length
  visited : ∀ (k : Nat) (v : Visit), visits[k]? = some v → v.At p (after p cfg {} k)
  /-- As long as it runs, the machine is that of a run without hindrance. -/
  current : m.Running → ∃ sink log, m = { after p cfg {} visits.length with sink, log }
  /-- A fault belongs to the last visit, unless the instruction is none that the machine knows. -/
  blamed : ∀ f, m.fault = some f →
    (∃ text operand, f = .unknownOpcode text ∧ p.code[m.ip]? = some ⟨.unknown text, operand⟩) ∨
      (∀ text, f ≠ .unknownOpcode text) ∧ ∃ v, visits.getLast? = some v ∧ v.ip = m.ip

theorem traced_new (p : Program) (cfg : Config) : Traced p cfg {} [] 0 where
  reach := .fresh {} []
  events := rfl
  ended := absurd rfl
  executed := rfl
  visited := nofun
  current := fun _ => ⟨{}, [], rfl⟩
  blamed := nofun

/-- A run that goes on has not ended yet. -/
theorem Traced.events_of_running (h : Traced p cfg m visits ends) (running : m.Running) :
    ends = 0 ∧ m.events = visits.map Visit.event := by
  have unended : ends = 0 := by
    by_contra some_ended
    cases running.state.symm.trans (h.ended some_ended)
  refine ⟨unended, ?_⟩
  rw [h.events, ending_of_sound running.fault, unended]
  simp

/-- A step that executes an instruction adds a visit of it. -/
theorem Traced.dispatched {v : Visit} (h : Traced p cfg m visits ends) (running : m.Running)
    (here : v.At p m) (executed : (m.step p cfg).executed = m.executed + 1)
    (events : (m.step p cfg).events = m.events ++ v.event :: (m.step p cfg).ending)
    (fault : ∀ f, (m.step p cfg).fault = some f →
      (m.step p cfg).ip = m.ip ∧ ∀ text, f ≠ .unknownOpcode text) :
    Traced p cfg (m.step p cfg) (visits ++ [v]) ends := by
  obtain ⟨unended, before⟩ := h.events_of_running running
  obtain ⟨sink, log, current⟩ := h.current running
  subst unended
  refine ⟨h.reach.step, ?_, absurd rfl, ?_, ?_, ?_, ?_⟩
  · rw [events, before, List.map_append]
    simp
  · rw [executed, h.executed, List.length_append, UInt64.ofNat_add]
    rfl
  · intro k w found
    rw [List.getElem?_append] at found
    split at found
    next => exact h.visited k w found
    next =>
      rw [List.getElem?_singleton] at found
      split at found
      next =>
        -- The new visit is of where the run without hindrance is by now, too.
        cases found
        have now : k = visits.length := by omega
        rw [now]
        rw [current] at here
        exact ⟨here.ip, ⟨here.fetches.running.state, here.fetches.running.fault⟩, here.fetches.fetch⟩
      next => cases found
  · intro goes_on
    rw [List.length_append, List.length_singleton, after_succ]
    rw [current] at goes_on ⊢
    exact exists_step_eq (room_after rfl _) sink log goes_on.fault
  · intro f faulted
    obtain ⟨ip, decoded⟩ := fault f faulted
    exact Or.inr ⟨decoded, v, List.getLast?_concat, here.ip.trans ip.symm⟩

/-- **A step keeps the trace.** -/
theorem Traced.step (h : Traced p cfg m visits ends) :
    ∃ visits, Traced p cfg (m.step p cfg) visits ends := by
  by_cases running : m.Running
  · obtain ⟨unended, before⟩ := h.events_of_running running
    have ending : Step p cfg m (m.step p cfg) := step_of_running running
    cases ending.logged running with
    | dispatched v here executed events _ fault =>
        exact ⟨visits ++ [v], h.dispatched running here executed events fault⟩
    | ended state sound executed events =>
        refine ⟨visits, h.reach.step, ?_, fun _ => state, executed.trans h.executed, h.visited, ?_, ?_⟩
        · rw [events, before, ending_of_sound sound, unended]
          simp
        · intro goes_on
          cases state.symm.trans goes_on.state
        · intro f faulted
          cases sound.symm.trans faulted
    | undecoded text operand fetch fault executed events =>
        refine ⟨visits, h.reach.step, ?_, ?_, executed.trans h.executed, h.visited, ?_, ?_⟩
        · rw [events, before, unended]
          simp
        · intro some_ended
          exact absurd unended some_ended
        · intro goes_on
          cases goes_on.fault.symm.trans fault
        · intro f faulted
          cases fault.symm.trans faulted
          exact Or.inl ⟨text, operand, rfl, fetch⟩
  · rw [step_of_not_running running]
    exact ⟨visits, h⟩

theorem Traced.iterate (h : Traced p cfg m visits ends) (n : Nat) :
    ∃ visits, Traced p cfg ((Machine.step p cfg)^[n] m) visits ends := by
  induction n with
  | zero => exact ⟨visits, h⟩
  | succ n ih =>
      obtain ⟨visits, traced⟩ := ih
      rw [Function.iterate_succ_apply']
      exact traced.step

theorem Traced.redirect (h : Traced p cfg m visits ends) (sink : Sink) :
    Traced p cfg { m with sink } visits ends where
  reach := h.reach.redirect sink
  events := h.events
  ended := h.ended
  executed := h.executed
  visited := h.visited
  current := by
    intro running
    obtain ⟨_, log, current⟩ := h.current ⟨running.state, running.fault⟩
    exact ⟨sink, log, congrArg (fun m : Machine => { m with sink }) current⟩
  blamed := h.blamed

/-- The end of a run that succeeds is the one that is logged. -/
theorem successes_one (s : Sink) :
    s.successes 1 = [Answer.ran (flushResult s)].countP Answer.succeeded := by
  cases failure : s.flushError s.flushes <;>
    simp [Sink.successes, flushResult, failure, Answer.succeeded]

/-- **The end of a run keeps the trace.** -/
theorem Traced.conclude (h : Traced p cfg m visits ends) (stopped : ¬ m.Running) :
    Traced p cfg m.conclude.1 visits (ends + [Answer.ran m.conclude.2].countP Answer.succeeded) := by
  have reach : Reachable p cfg m.conclude.1 := .run 0 h.reach (run_of_not_running 0 stopped)
  rcases h.reach.stopped stopped with ⟨halted, sound⟩ | ⟨f, _, faulted⟩
  · rw [conclude_of_sound sound] at reach ⊢
    refine ⟨reach, ?_, fun _ => halted, h.executed, h.visited, ?_, h.blamed⟩
    · have log : (m.flushed 1).events = m.events ++
          List.replicate (m.sink.successes 1) (.halted m.executed m.stack.depth m.globals.size) := by
        simp [Machine.events, flushed]
      rw [log, h.events, successes_one, List.append_assoc, List.replicate_append_replicate]
      rfl
    · intro running
      exact absurd ⟨running.state, running.fault⟩ stopped
  · rw [conclude_of_fault faulted]
    exact h

/-- Whatever calls are made, the log is a trace, with an end for each run that succeeded. -/
theorem Calls.traced {cs : List Call} {answers : List Answer} {m' : Machine}
    (calls : Calls p cfg m cs m' answers) (h : Traced p cfg m visits ends) :
    ∃ visits, Traced p cfg m' visits (ends + answers.countP Answer.succeeded) := by
  induction calls generalizing visits ends with
  | done => exact ⟨visits, h⟩
  | step rest ih =>
      obtain ⟨_, stepped⟩ := h.step
      exact ih stepped
  | @run m after m' result cs answers fuel ran rest ih =>
      obtain ⟨_, settled⟩ := h.iterate fuel
      obtain ⟨stopped, concluded⟩ := run_eq_some_iff.mp ran
      have ended := settled.conclude stopped
      rw [concluded] at ended
      obtain ⟨visits, traced⟩ := ih ended
      rw [Nat.add_assoc, ← List.countP_append] at traced
      exact ⟨visits, traced⟩

theorem Session.traced {cs : List (Sink × Call)} {answers : List Answer} {m' : Machine}
    (session : Session p cfg m cs m' answers) (h : Traced p cfg m visits ends) :
    ∃ visits, Traced p cfg m' visits (ends + answers.countP Answer.succeeded) := by
  induction session generalizing visits ends with
  | done => exact ⟨visits, h⟩
  | call sink made rest ih =>
      obtain ⟨_, called⟩ := made.traced (h.redirect sink)
      obtain ⟨visits, traced⟩ := ih called
      rw [Nat.add_assoc, ← List.countP_append] at traced
      exact ⟨visits, traced⟩

/-! ## The order of visits -/

/-- A machine is about to execute one instruction only. -/
theorem eq_of_at {v w : Visit} (hv : v.At p m) (hw : w.At p m) : v = w := by
  obtain ⟨ip, op, operand⟩ := v
  obtain ⟨ip', op', operand'⟩ := w
  obtain ⟨rfl, here⟩ := hv
  obtain ⟨rfl, there⟩ := hw
  cases here.fetch.symm.trans there.fetch
  rfl

theorem Traced.stored (h : Traced p cfg m visits ends) {v : Visit} (mem : v ∈ visits) :
    p.code[v.ip]? = some ⟨.known v.op, v.operand⟩ := by
  obtain ⟨k, found⟩ := List.mem_iff_getElem?.mp mem
  have here := h.visited k v found
  rw [here.ip]
  exact here.fetches.fetch

/-- Each visit is of an instruction that the one before it leads to. -/
theorem Traced.leads (h : Traced p cfg m visits ends) {k : Nat} {v w : Visit}
    (found : visits[k]? = some v) (next : visits[k + 1]? = some w) : v.Leads p w.ip := by
  have here := h.visited k v found
  have there := h.visited (k + 1) w next
  have running := there.fetches.running
  cases logged_after here.fetches.running with
  | dispatched v' here' _ _ leads =>
      rw [eq_of_at here here', there.ip]
      exact leads running
  | ended state => cases state.symm.trans running.state
  | undecoded _ _ _ fault => cases running.fault.symm.trans fault

theorem Traced.eq_none_of_halt (h : Traced p cfg m visits ends) {k : Nat} {v : Visit}
    (found : visits[k]? = some v) (halt : v.op = .halt) : visits[k + 1]? = none := by
  cases next : visits[k + 1]? with
  | none => rfl
  | some w =>
      have leads := h.leads found next
      unfold Visit.Leads at leads
      rw [halt] at leads
      exact leads.elim

/-! ## The log of a session -/

/-- Of the parts of a log only the first is made of visits. -/
theorem Traced.filterMap_visit? (h : Traced p cfg m visits ends) :
    m.events.filterMap Event.visit? = visits := by
  have visit : visits.filterMap (Event.visit? ∘ Visit.event) = visits := List.filterMap_some
  have fault : m.ending.filterMap Event.visit? = [] := by
    unfold ending
    split <;> rfl
  have halted : (List.replicate ends (Event.halted m.executed m.stack.depth
      m.globals.size)).filterMap Event.visit? = [] := List.filterMap_replicate_of_none rfl
  rw [h.events, List.filterMap_append, List.filterMap_append, List.filterMap_map, visit, fault, halted,
    List.append_nil, List.append_nil]

/-- The instruction that an unknown mnemonic stands for is never visited. -/
theorem Traced.ip_ne_of_unknown (h : Traced p cfg m visits ends) {text : String}
    (faulted : m.fault = some (.unknownOpcode text)) {v : Visit} (mem : v ∈ visits) :
    v.ip ≠ m.ip := by
  intro same
  rcases h.blamed _ faulted with ⟨_, _, _, fetch⟩ | ⟨decoded, _⟩
  · rw [← same] at fetch
    cases (h.stored mem).symm.trans fetch
  · exact decoded text rfl

/-- The entry for the fault is there if the machine has faulted. -/
theorem Reachable.ending_ne_nil_iff (h : Reachable p cfg m) : m.ending ≠ [] ↔ m.state = .faulted := by
  rw [h.recorded, ending]
  cases m.fault <;> simp

/-- A count that has not overflowed is exact. -/
theorem Traced.toNat_executed (h : Traced p cfg m visits ends) (lt : visits.length < UInt64.size) :
    m.executed.toNat = visits.length := by
  rw [h.executed, UInt64.toNat_ofNat_of_lt' lt]

end

/-- Takes a conditional jump forward and an unconditional one back, to an instruction that the machine
does not know. -/
def detour : Program where
  code := #[⟨.known .loadConst, 0⟩, ⟨.known (.jumpIf true), 4⟩, ⟨.known .halt, 0⟩,
    ⟨.unknown "FROB", 7⟩, ⟨.known .loadConst, 0⟩, ⟨.known .pop, 9⟩, ⟨.known .jump, 3⟩]
  consts := #[1]
  names := #[]

end Machine

end StackMachine
