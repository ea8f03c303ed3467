import Mathlib.Data.Set.Function
import StackMachine.Proofs.StoreHistory

/-!
# Names do not matter

A machine asks of two names only whether they are the same.  If every name of a program is replaced by
another, so that different names stay different, then the run of the new program is the run of the old
one with its names replaced: in the globals, and in the one fault that speaks of a name.  An instruction
asks for the replaced action (`Acts.rename`), and to perform it on the renamed machine is to
rename what was performed (`perform_rename`).  Both rest on the invariant that only names of the program
are ever bound, since nothing is known of the renaming on other names.
-/

namespace StackMachine

/-! ## Renaming -/

/-- Only a fault about a global speaks of a name. -/
def Fault.rename (f : String → String) : Fault → Fault
  | .unboundName name => .unboundName (f name)
  | fault => fault

def Event.rename (f : String → String) : Event → Event
  | .faulted ip fault => .faulted ip (fault.rename f)
  | event => event

/-- The globals with their names replaced, each with its value. -/
def Globals.rename (f : String → String) (g : Globals) : Globals :=
  ⟨g.bindings.map (Prod.map f id)⟩

/-- The program with every entry of its name table replaced. -/
def Program.rename (f : String → String) (p : Program) : Program :=
  { p with names := p.names.map f }

def Action.rename (f : String → String) : Action → Action
  | .store name value => .store (f name) value
  | action => action

/-- The machine with names replaced where it speaks of any. -/
def Machine.rename (f : String → String) (m : Machine) : Machine :=
  { m with
    globals := m.globals.rename f
    fault := m.fault.map (Fault.rename f)
    log := m.log.map (Event.rename f) }

/-! ## Named values -/

namespace AssocList

variable {α : Type} {f : String → String} {name : String} {entries : List (String × α)}

/-- A value is found under the new name as under the old one, if no other name became the same. -/
theorem lookup_map (apart : ∀ entry ∈ entries, f entry.1 = f name → entry.1 = name) :
    (entries.map (Prod.map f id)).lookup (f name) = entries.lookup name := by
  induction entries with
  | nil => rfl
  | cons entry rest ih =>
      obtain ⟨n, v⟩ := entry
      have ih := ih fun entry mem => apart entry (List.mem_cons_of_mem _ mem)
      have here : f n = f name → n = name := apart (n, v) List.mem_cons_self
      rw [List.map_cons, List.lookup_cons, List.lookup_cons, ih]
      by_cases same : n = name
      · subst same
        simp
      · have other : (f name == f n) = false := beq_eq_false_iff_ne.mpr fun eq => same (here eq.symm)
        have old : (name == n) = false := beq_eq_false_iff_ne.mpr (Ne.symm same)
        rw [old]
        exact other ▸ rfl

theorem map_insert (apart : ∀ entry ∈ entries, f entry.1 = f name → entry.1 = name) (value : α) :
    (insert name value entries).map (Prod.map f id) =
      insert (f name) value (entries.map (Prod.map f id)) := by
  induction entries with
  | nil => rfl
  | cons entry rest ih =>
      obtain ⟨n, v⟩ := entry
      have ih := ih fun entry mem => apart entry (List.mem_cons_of_mem _ mem)
      have here : f n = f name → n = name := apart (n, v) List.mem_cons_self
      by_cases same : n = name
      · subst same
        simp [insert]
      · have other : f n ≠ f name := fun eq => same (here eq)
        simp [insert, same, other, ih]

end AssocList

namespace Program

theorem nameAt_rename (f : String → String) (p : Program) (w : Word) :
    (p.rename f).nameAt w = (p.nameAt w).map f := by
  have entry : entry? (p.names.map f) w = ( entry? p.names w).map f := by
    unfold entry?
    cases w.index? with
    | none => rfl
    | some i => simp
  unfold nameAt
  rw [rename, entry]
  cases entry? p.names w <;> rfl

end Program

namespace Machine

section

variable {p : Program} {cfg : Config} {f : String → String} {g : Globals} {op : Opcode} {w : Word}
  {args : List Word}
variable (inj : Set.InjOn f {name | name ∈ p.names}) (named : ∀ b ∈ g.bindings, b.1 ∈ p.names)
include inj named

/-- The names of a program that are bound stay apart from any name of the program. -/
theorem apart_of_injOn {name : String} (mem : name ∈ p.names) :
    ∀ b ∈ g.bindings, f b.1 = f name → b.1 = name :=
  fun b bound same => inj (named b bound) mem same

theorem load_rename {name : String} (mem : name ∈ p.names) :
    (g.rename f).load (f name) = (g.load name).mapError (Fault.rename f) := by
  have found : (g.rename f).get? (f name) = g.get? name :=
    AssocList.lookup_map (apart_of_injOn inj named mem)
  unfold Globals.load
  rw [found]
  cases g.get? name <;> rfl

theorem store_rename {name : String} (mem : name ∈ p.names) (value : Word) :
    (g.rename f).store (f name) value = (g.store name value).rename f :=
  congrArg Globals.mk (AssocList.map_insert (apart_of_injOn inj named mem) value).symm

/-! ## Answers -/

/-- The action that an instruction asks for is renamed with the program. -/
theorem Acts.rename {a : Action} (h : Acts p cfg g op w args a) :
    Acts (p.rename f) cfg (g.rename f) op w args (a.rename f) := by
  cases h with
  | loadConst value => exact .loadConst value
  | loadName at_name bound =>
      refine .loadName (by rw [Program.nameAt_rename, at_name]; rfl) ?_
      rw [load_rename inj named (Program.mem_names_of_nameAt at_name), bound]
      rfl
  | storeName at_name => exact .storeName (by rw [Program.nameAt_rename, at_name]; rfl)
  | arith value => exact .arith value
  | compare => exact .compare
  | jump target_ok => exact .jump target_ok
  | taken truth target_ok => exact .taken truth target_ok
  | untaken truth => exact .untaken truth
  | pop => exact .pop
  | print => exact .print
  | halt => exact .halt

/-- So is the fault that it finds instead. -/
theorem Refuses.rename {fault : Fault} (h : Refuses p cfg g op w args fault) :
    Refuses (p.rename f) cfg (g.rename f) op w args (fault.rename f) := by
  cases h with
  | constant missing => exact .constant missing
  | loadName missing => exact .loadName (by rw [Program.nameAt_rename, missing]; rfl)
  | storeName missing => exact .storeName (by rw [Program.nameAt_rename, missing]; rfl)
  | unbound at_name absent =>
      refine .unbound (by rw [Program.nameAt_rename, at_name]; rfl) ?_
      rw [load_rename inj named (Program.mem_names_of_nameAt at_name), absent]
      rfl
  | divisionByZero => exact .divisionByZero
  | arithmeticOverflow unfit => exact .arithmeticOverflow unfit
  | jump outside => exact .jump outside
  | jumpIf truth outside => exact .jumpIf truth outside

theorem action_rename_of_error {fault : Fault} (h : action p cfg g op w args = .error fault) :
    action (p.rename f) cfg (g.rename f) op w args = .error (fault.rename f) := by
  by_cases full : args.length = op.pops
  · exact ((refuses_of_action full h).rename inj named).action_eq
  · -- The stack ran out, and the names were not even looked at.
    rw [action_of_length_ne full] at h
    cases h
    exact action_of_length_ne full

end

/-! ## Steps -/

section

variable {p : Program} {cfg : Config} {f : String → String} {m : Machine}

/-- To perform a renamed action on a renamed machine is to rename what the action does. -/
theorem perform_rename (a : Action)
    (store : ∀ name value, a = .store name value →
      (m.globals.rename f).store (f name) value = (m.globals.store name value).rename f) :
    (m.rename f).perform cfg (a.rename f) = (m.perform cfg a).rename f := by
  cases a with
  | jump | next | halt => rfl
  | store name value =>
      exact congrArg (fun globals => { m.rename f with globals, ip := m.ip + 1 })
        (store name value rfl)
  | push value => exact perform_push_comm (rename f) value rfl rfl fun _ => rfl
  | print value => exact perform_print_comm (rename f) value rfl (fun _ => rfl) fun _ _ => rfl

theorem running_rename_iff : (m.rename f).Running ↔ m.Running :=
  ⟨fun running => ⟨running.state, Option.map_eq_none_iff.mp running.fault⟩,
    fun running => ⟨running.state, Option.map_eq_none_iff.mpr running.fault⟩⟩

/-- A step of the renamed program does what the step of the program does, under other names. -/
theorem step_rename (inj : Set.InjOn f {name | name ∈ p.names})
    (named : ∀ b ∈ m.globals.bindings, b.1 ∈ p.names) :
    (m.rename f).step (p.rename f) cfg = (m.step p cfg).rename f := by
  by_cases running : m.Running
  · have running' : (m.rename f).Running := running_rename_iff.mpr running
    have fetch_eq : (p.rename f).code[(m.rename f).ip]? = p.code[m.ip]? := rfl
    cases fetch : p.code[m.ip]? with
    | none =>
        rw [step_of_fetch_none running fetch, step_of_fetch_none running' (fetch_eq.trans fetch)]
        rfl
    | some i =>
        obtain ⟨mnemonic, operand⟩ := i
        cases mnemonic with
        | unknown text =>
            rw [step_of_unknown running fetch, step_of_unknown running' (fetch_eq.trans fetch)]
            rfl
        | known op =>
            have here : Fetches p m op operand := ⟨running, fetch⟩
            have there : Fetches (p.rename f) (m.rename f) op operand :=
              ⟨running', fetch_eq.trans fetch⟩
            cases act : action p cfg m.globals op operand (m.operands op) with
            | error fault =>
                rw [here.step_eq_fail act,
                  there.step_eq_fail (action_rename_of_error inj named act)]
                rfl
            | ok a =>
                have acts := acts_of_action act
                rw [here.step_eq_perform act,
                  there.step_eq_perform (acts.rename inj named).action_eq]
                refine perform_rename (m := m.dispatched op operand) a ?_
                rintro name value rfl
                exact store_rename inj named (Program.mem_names_of_nameAt acts.nameAt_eq) value
  · have stopped : ¬ (m.rename f).Running := mt running_rename_iff.mp running
    rw [step_of_not_running running, step_of_not_running stopped]

end

/-! ## Runs -/

section

variable {p : Program} {f : String → String}

/-- The run of the renamed program is the run of the program, under other names. -/
theorem after_rename (inj : Set.InjOn f {name | name ∈ p.names}) (cfg : Config) (sink : Sink)
    (n : Nat) : after (p.rename f) cfg sink n = (after p cfg sink n).rename f := by
  induction n with
  | zero => rfl
  | succ n ih =>
      have named := (reachable_after p cfg sink n).named
      rw [after_succ, after_succ, ih, step_rename inj named]

/-- A name that is bound in the renamed globals is the new name of one of the program. -/
theorem exists_of_get?_rename {g : Globals} (named : ∀ b ∈ g.bindings, b.1 ∈ p.names)
    {key : String} (bound : (g.rename f).get? key ≠ none) : ∃ name ∈ p.names, f name = key := by
  have mem : key ∈ (g.rename f).names := not_not.mp (mt Globals.get?_eq_none_iff.mpr bound)
  obtain ⟨entry, entry_mem, rfl⟩ := List.mem_map.mp mem
  obtain ⟨old, old_mem, rfl⟩ := List.mem_map.mp entry_mem
  exact ⟨old.1, named old old_mem, rfl⟩

/-- **Names do not matter.**  If the names of a program are replaced, and different names by different
ones, then after any number of steps the machines of the two programs have the same position, stack,
count and output.  The new machine has the globals of the old one under the new names, and no others,
and its state is the same, and its fault but for the name in one about an unbound name. -/
theorem renaming_invariant (p : Program) (cfg : Config) (sink : Sink) (f : String → String)
    (inj : Set.InjOn f {name | name ∈ p.names}) (n : Nat) :
    let m := after p cfg sink n
    let m' := after (p.rename f) cfg sink n
    m'.state = m.state ∧ m'.fault = m.fault.map (Fault.rename f) ∧
      m'.ip = m.ip ∧ m'.stack = m.stack ∧ m'.executed = m.executed ∧ m'.sink = m.sink ∧
      m'.globals.bindings = m.globals.bindings.map (Prod.map f id) ∧
      (∀ name ∈ p.names, m'.globals.get? (f name) = m.globals.get? name) ∧
      ∀ key, m'.globals.get? key ≠ none → ∃ name ∈ p.names, f name = key := by
  intro m m'
  have renamed : m' = m.rename f := after_rename inj cfg sink n
  have named : ∀ b ∈ m.globals.bindings, b.1 ∈ p.names := (reachable_after p cfg sink n).named
  clear_value m m'
  subst renamed
  refine ⟨rfl, rfl, rfl, rfl, rfl, rfl, rfl, ?_, ?_⟩
  · intro name mem
    exact AssocList.lookup_map (apart_of_injOn inj named mem)
  · intro key bound
    exact exists_of_get?_rename named bound

end

/-- Gives `x` the name that was that of `y`, takes the name of `y` away, and confuses all others. -/
def shift (name : String) : String :=
  if name = "x" then "y" else if name = "y" then "" else "z"

/-- A renaming may take up an old name for something else, and nothing is asked of it on names that do
not occur. -/
theorem renaming_invariant_shift :
    Set.InjOn shift {name | name ∈ aliases.names} ∧ shift "u" = shift "v" ∧
      (after aliases {} {} 6).fault = some (.unboundName "y") ∧
      (after (aliases.rename shift) {} {} 6).fault = some (.unboundName "") ∧
      (after aliases {} {} 6).globals.get? "x" = some 11 ∧
      (after (aliases.rename shift) {} {} 6).globals.get? "y" = some 11 ∧
      (after (aliases.rename shift) {} {} 6).stack = (after aliases {} {} 6).stack := by
  have inj : Set.InjOn shift {name | name ∈ aliases.names} := by
    have table : ∀ a ∈ ["x", "y"], ∀ b ∈ ["x", "y"], shift a = shift b → a = b := by decide
    intro a ha b hb same
    have listed : ∀ name, name ∈ aliases.names → name ∈ ["x", "y"] := by
      intro name mem
      simpa [aliases] using mem
    exact table a (listed a ha) b (listed b hb) same
  have unbound : (after aliases {} {} 6).fault = some (.unboundName "y") := by decide +kernel
  have bound : (after aliases {} {} 6).globals.get? "x" = some 11 := by decide +kernel
  obtain ⟨_, fault, _, stack, _, _, _, values, _⟩ := renaming_invariant aliases {} {} shift inj 6
  rw [unbound] at fault
  have value := values "x" (by simp [aliases])
  rw [bound] at value
  exact ⟨inj, rfl, unbound, fault, bound, value, stack⟩

end Machine

end StackMachine
