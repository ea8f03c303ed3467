import Mathlib.Data.Nat.Find
import StackMachine.Proofs.Lockstep

/-!
# Output to a limited sink

A machine is run twice, with a sink without a limit and with one that has room for a limited number of
bytes.  As long as the room suffices the second run is the first, seen through `capped`: nothing but
the room that is left tells them apart.  The step that prints beyond the limit is the last of the
second run.  It faults in the middle of a line, or between a number and the end of its line, and what
the sink has taken is the beginning of the unlimited output, up to the last byte that fits.
-/

namespace StackMachine

/-! ## Sinks that fill up -/

namespace Sink

section

variable {s s' s'' : Sink} {limit : Nat} {bytes : List UInt8}

/-- The sink has taken more bytes, and nothing else has become of it. -/
def Extends (s s' : Sink) : Prop :=
  ∃ bytes : List UInt8, s' = { s with taken := bytes.reverse ++ s.taken }

theorem Extends.refl (s : Sink) : s.Extends s :=
  ⟨[], rfl⟩

theorem Extends.trans (h : s.Extends s') (h' : s'.Extends s'') : s.Extends s'' := by
  obtain ⟨bytes, rfl⟩ := h
  obtain ⟨bytes', rfl⟩ := h'
  exact ⟨bytes ++ bytes', by simp⟩

theorem Extends.room_eq (h : s.Extends s') : s'.room = s.room := by
  obtain ⟨bytes, rfl⟩ := h
  rfl

theorem Extends.overrun_eq (h : s.Extends s') : s'.overrun = s.overrun := by
  obtain ⟨bytes, rfl⟩ := h
  rfl

theorem Extends.content_isPrefix (h : s.Extends s') : s.content <+: s'.content := by
  obtain ⟨bytes, rfl⟩ := h
  exact ⟨bytes, by simp [content]⟩

/-- The sink with room for `limit` bytes in all, those it has taken already among them. -/
def capped (limit : Nat) (s : Sink) : Sink :=
  { s with room := some (limit - s.taken.length) }

theorem length_content (s : Sink) : s.content.length = s.taken.length :=
  List.length_reverse

/-- What fits is taken as if there were no limit. -/
theorem write_capped_of_le (fits : (s.content ++ bytes).length ≤ limit) :
    (s.capped limit).write bytes =
      ({ s with taken := bytes.reverse ++ s.taken }.capped limit, none) := by
  rw [List.length_append, length_content] at fits
  have whole : bytes.take (limit - s.taken.length) = bytes := List.take_of_length_le (by omega)
  have left : limit - s.taken.length - bytes.length = limit - (bytes.length + s.taken.length) := by
    omega
  simp [write, admits, capped, whole, left]

/-- What does not fit is taken up to the limit. -/
theorem write_capped_of_lt (held : s.content.length ≤ limit)
    (exceeds : limit < (s.content ++ bytes).length) :
    ((s.capped limit).write bytes).2 = some s.overrun ∧
      ((s.capped limit).write bytes).1.content = (s.content ++ bytes).take limit := by
  constructor
  · rw [length_content] at held
    rw [List.length_append, length_content] at exceeds
    refine if_neg ?_
    show (bytes.take (limit - s.taken.length)).length ≠ bytes.length
    rw [List.length_take]
    omega
  · rw [content_write, List.take_append, List.take_of_length_le held, length_content]
    rfl

end

end Sink

namespace Machine

section

variable {p : Program} {cfg : Config} {m m' : Machine} {s : Sink} {limit k n : Nat}

/-! ## What a step prints -/

/-- A step leaves the sink alone, unless it prints. -/
theorem Step.sink_cases (h : Step p cfg m m') :
    m'.sink = m.sink ∨
      ∃ operand value, p.code[m.ip]? = some ⟨.known .print, operand⟩ ∧
        m.operands .print = [value] ∧
        m'.sink = (m.sink.write (Utf8.encode (Decimal.ofWord value ++ "\n"))).1 := by
  cases h with
  | ended | undecoded | refused | pushed | overflowed | stored | jumped | passed | halted =>
      exact Or.inl rfl
  | printed asks write | unprinted asks write =>
      obtain ⟨rfl, operands_eq⟩ := asks.acts.eq_print
      exact Or.inr ⟨_, _, asks.fetch, operands_eq, (congrArg Prod.fst write).symm⟩

/-- Without a limit the sink takes whatever is printed. -/
theorem extends_step (unlimited : m.sink.room = none) : m.sink.Extends (m.step p cfg).sink := by
  by_cases running : m.Running
  · have ending : Step p cfg m (m.step p cfg) := step_of_running running
    rcases ending.sink_cases with same | ⟨_, value, _, _, printed⟩
    · rw [same]
      exact .refl _
    · rw [printed, Sink.write_unlimited unlimited]
      exact ⟨_, rfl⟩
  · rw [step_of_not_running running]
    exact .refl _

theorem room_after (unlimited : s.room = none) (n : Nat) : (after p cfg s n).sink.room = none := by
  induction n with
  | zero => exact unlimited
  | succ n ih =>
      rw [after_succ, (extends_step ih).room_eq]
      exact ih

theorem extends_after (unlimited : s.room = none) (le : k ≤ n) :
    (after p cfg s k).sink.Extends (after p cfg s n).sink := by
  induction n, le using Nat.le_induction with
  | base => exact .refl _
  | succ n _ ih =>
      rw [after_succ]
      exact ih.trans (extends_step (room_after unlimited n))

/-! ## Within the limit -/

/-- The machine with a sink that has room for `limit` bytes in all. -/
def capped (limit : Nat) (m : Machine) : Machine :=
  { m with sink := m.sink.capped limit }

theorem View.capped (limit : Nat) : View (capped limit) :=
  ⟨fun _ => rfl, fun _ => rfl, fun _ => rfl, fun _ => rfl, fun _ => rfl, fun _ => rfl,
    fun _ _ => rfl, fun _ _ _ => rfl⟩

theorem agrees_capped (limit : Nat) (m : Machine) : Agrees (m.capped limit) m :=
  ⟨rfl, rfl, rfl, rfl, rfl, rfl, rfl⟩

/-- A step whose output fits is the same with a limit. -/
theorem step_capped_of_le (unlimited : m.sink.room = none)
    (fits : (m.step p cfg).sink.content.length ≤ limit) :
    (m.capped limit).step p cfg = (m.step p cfg).capped limit := by
  refine (View.capped limit).step_eq (fun _ _ _ => rfl) ?_
  intro op operand a here act
  cases a with
  | store | jump | next | halt => rfl
  | push value => exact perform_push_comm (capped limit) value rfl rfl fun _ => rfl
  | print value =>
      have printed : (m.dispatched op operand).perform cfg (.print value) = _ :=
        perform_print_of_none (Sink.write_unlimited unlimited _)
      rw [here.step_eq_perform act, printed] at fits
      rw [printed]
      refine perform_print_of_none (Sink.write_capped_of_le ?_)
      simpa [Sink.content] using fits

/-- A run whose output fits is the same with a limit. -/
theorem after_capped_eq (unlimited : s.room = none)
    (fits : (after p cfg s n).sink.content.length ≤ limit) (le : k ≤ n) :
    after p cfg (s.capped limit) k = (after p cfg s k).capped limit := by
  refine after_lockstep (capped limit) rfl ?_ le
  intro k lt
  apply step_capped_of_le
  · exact room_after unlimited k
  · rw [← after_succ]
    exact Nat.le_trans (extends_after unlimited lt).content_isPrefix.length_le fits

/-! ## Beyond the limit -/

/-- A step whose output does not fit prints, and stops the machine with what fits. -/
theorem step_capped_of_lt (unlimited : m.sink.room = none) (held : m.sink.content.length ≤ limit)
    (exceeds : limit < (m.step p cfg).sink.content.length) :
    (∃ operand, p.code[m.ip]? = some ⟨.known .print, operand⟩) ∧
      ((m.capped limit).step p cfg).fault = some (.output m.sink.overrun.message) ∧
      ((m.capped limit).step p cfg).ip = m.ip ∧
      ((m.capped limit).step p cfg).sink.content = (m.step p cfg).sink.content.take limit := by
  have running : m.Running := by
    by_contra stopped
    rw [step_of_not_running stopped] at exceeds
    omega
  have ending : Step p cfg m (m.step p cfg) := step_of_running running
  rcases ending.sink_cases with same | ⟨operand, value, fetch, operands_eq, printed⟩
  · rw [same] at exceeds
    omega
  · have here : Fetches p (m.capped limit) .print operand :=
      ⟨⟨running.state, running.fault⟩, fetch⟩
    have act : action p cfg m.globals .print operand (m.operands .print) = .ok (.print value) := by
      rw [operands_eq]
      rfl
    have content_eq : (m.step p cfg).sink.content =
        m.sink.content ++ Utf8.encode (Decimal.ofWord value ++ "\n") := by
      rw [printed, Sink.content_write, Sink.admits, unlimited]
    rw [content_eq] at exceeds
    obtain ⟨failed, taken⟩ := Sink.write_capped_of_lt held exceeds
    rw [here.step_eq_perform act, perform_print_of_some (Prod.ext rfl failed), content_eq]
    exact ⟨⟨operand, fetch⟩, rfl, rfl, taken⟩

/-- Output that exceeds a limit does so at some step for the first time. -/
theorem exists_exceeding_step (start : s.content.length ≤ limit)
    (exceeds : limit < (after p cfg s n).sink.content.length) :
    ∃ k < n, (∀ j ≤ k, (after p cfg s j).sink.content.length ≤ limit) ∧
      limit < (after p cfg s (k + 1)).sink.content.length := by
  have somewhere : ∃ n, limit < (after p cfg s n).sink.content.length := ⟨n, exceeds⟩
  obtain ⟨k, first⟩ : ∃ k, Nat.find somewhere = k + 1 := by
    apply Nat.exists_eq_succ_of_ne_zero
    intro zero
    have now := Nat.find_spec somewhere
    rw [zero] at now
    exact absurd start (Nat.not_le.mpr now)
  refine ⟨k, ?_, ?_, ?_⟩
  · have le : k + 1 ≤ n := first ▸ Nat.find_min' somewhere exceeds
    omega
  · intro j le
    exact Nat.le_of_not_lt (Nat.find_min somewhere (by omega))
  · exact first ▸ Nat.find_spec somewhere

/-- From the step on that exceeds the limit, the machine stands at that instruction with what fits. -/
theorem after_capped_of_lt {j : Nat} (unlimited : s.room = none)
    (held : (after p cfg s k).sink.content.length ≤ limit)
    (beyond : limit < (after p cfg s (k + 1)).sink.content.length) (later : k < j) :
    (∃ operand, p.code[(after p cfg s k).ip]? = some ⟨.known .print, operand⟩) ∧
      (after p cfg (s.capped limit) j).fault = some (.output s.overrun.message) ∧
      (after p cfg (s.capped limit) j).ip = (after p cfg s k).ip ∧
      (after p cfg (s.capped limit) j).sink.content =
        (after p cfg s (k + 1)).sink.content.take limit := by
  have before : after p cfg (s.capped limit) k = (after p cfg s k).capped limit :=
    after_capped_eq unlimited held (Nat.le_refl k)
  have same_sink : s.Extends (after p cfg s k).sink := extends_after unlimited (Nat.zero_le k)
  rw [after_succ] at beyond
  obtain ⟨prints, fault, ip, content⟩ :=
    step_capped_of_lt (room_after unlimited k) held beyond
  rw [← before, ← after_succ] at fault ip content
  rw [after_eq_of_le later (not_running_of_fault fault), after_succ p cfg s]
  rw [same_sink.overrun_eq] at fault
  exact ⟨prints, fault, ip, content⟩

end

/-- **A limited sink sees exactly a beginning.**  Let one machine print without a limit and another
into a sink that takes so many bytes and then fails, in any way.  If the output of a number of steps
fits, the two agree throughout.  Otherwise the second stops, at the first instruction that prints
beyond the limit, agrees with the first before that, and its output is the beginning of the other's
that fits. -/
theorem limited_sink_takes_beginning (p : Program) (cfg : Config) (limit : Nat) (overrun : SinkError)
    (flushError : Nat → Option SinkError) (n : Nat) :
    let unlimited : Sink := { overrun, flushError }
    let limited : Sink := { room := some limit, overrun, flushError }
    ((after p cfg unlimited n).sink.content.length ≤ limit →
      ∀ k ≤ n, Agrees (after p cfg limited k) (after p cfg unlimited k)) ∧
    (limit < (after p cfg unlimited n).sink.content.length →
      ∃ k < n, (∀ j ≤ k, Agrees (after p cfg limited j) (after p cfg unlimited j)) ∧
        (∀ j ≤ k, (after p cfg unlimited j).sink.content.length ≤ limit) ∧
        limit < (after p cfg unlimited (k + 1)).sink.content.length ∧
        (∃ operand, p.code[(after p cfg unlimited k).ip]? = some ⟨.known .print, operand⟩) ∧
        ∀ j, k < j →
          (after p cfg limited j).fault = some (.output overrun.message) ∧
          (after p cfg limited j).ip = (after p cfg unlimited k).ip ∧
          (after p cfg limited j).sink.content =
            (after p cfg unlimited n).sink.content.take limit) := by
  intro unlimited limited
  have no_limit : unlimited.room = none := rfl
  have limited_eq : limited = unlimited.capped limit := rfl
  have agrees : ∀ {k n}, (after p cfg unlimited n).sink.content.length ≤ limit → k ≤ n →
      Agrees (after p cfg limited k) (after p cfg unlimited k) := by
    intro k n fits le
    rw [limited_eq, after_capped_eq no_limit fits le]
    exact agrees_capped limit _
  refine ⟨fun fits k le => agrees fits le, ?_⟩
  intro exceeds
  obtain ⟨k, lt, held, beyond⟩ := exists_exceeding_step (Nat.zero_le limit) exceeds
  have here := held k (Nat.le_refl k)
  have prints := (after_capped_of_lt no_limit here beyond (Nat.lt_succ_self k)).1
  refine ⟨k, lt, fun j le => agrees here le, held, beyond, prints, ?_⟩
  intro j later
  obtain ⟨_, fault, ip, content⟩ := after_capped_of_lt no_limit here beyond later
  refine ⟨fault, ip, ?_⟩
  -- What is printed after the limit was passed is beyond it.
  have grown : (after p cfg unlimited (k + 1)).sink.Extends (after p cfg unlimited n).sink :=
    extends_after no_limit lt
  obtain ⟨rest, more⟩ := grown.content_isPrefix
  rw [limited_eq, content, ← more, List.take_append_of_le_length (Nat.le_of_lt beyond)]

/-- Prints two constants on lines of their own. -/
def twoLines : Program where
  code := #[⟨.known .loadConst, 0⟩, ⟨.known .print, 0⟩, ⟨.known .loadConst, 1⟩, ⟨.known .print, 0⟩]
  consts := #[42, -7]
  names := #[]

/-- A sink that is exactly full in the end takes both lines.  One that fails a byte earlier stops the
machine between the second number and the end of its line. -/
theorem limited_sink_takes_beginning_twoLines :
    (after twoLines {} {} 5).sink.content.length ≤ 6 ∧
      (after twoLines {} {} 5).state = .halted ∧
      Agrees (after twoLines {} { room := some 6 } 5) (after twoLines {} {} 5) ∧
      5 < (after twoLines {} { overrun := .failed "sink full" } 5).sink.content.length ∧
      (after twoLines {} { room := some 5, overrun := .failed "sink full" } 5).fault =
        some (.output "sink full") ∧
      (after twoLines {} { room := some 5, overrun := .failed "sink full" } 5).sink.content =
        Utf8.encode "42\n-7" := by
  have fits : (after twoLines {} {} 5).sink.content.length ≤ 6 := by decide +kernel
  have exceeds : 5 < (after twoLines {} { overrun := .failed "sink full" } 5).sink.content.length := by
    decide +kernel
  have beginning : (after twoLines {} { overrun := .failed "sink full" } 5).sink.content.take 5 =
      Utf8.encode "42\n-7" := by decide +kernel
  have agrees := (limited_sink_takes_beginning twoLines {} 6 .stalled (fun _ => none) 5).1 fits
  obtain ⟨k, lt, _, _, _, _, stopped⟩ :=
    (limited_sink_takes_beginning twoLines {} 5 (.failed "sink full") (fun _ => none) 5).2 exceeds
  obtain ⟨fault, _, content⟩ := stopped 5 lt
  exact ⟨fits, by decide +kernel, agrees 5 (Nat.le_refl 5), exceeds, fault,
    content.trans beginning⟩

end Machine

end StackMachine
