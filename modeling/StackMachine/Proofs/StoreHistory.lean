import Mathlib.Data.Finset.Card
import StackMachine.Proofs.Lockstep

/-!
# Globals and the history of stores

The globals of a machine are what its stores have left behind.  `Stores` says what it is for a step to
store a value under a name, in terms of the instruction, the name table and the stack, and without a
look at the globals.  A step that stores changes just this name, and no other step changes any
(`globals_step`).  By induction over the steps, the value of a name is that of its last store, however
often and through whichever entries of the name table it was stored before.
-/

namespace StackMachine

/-! ## Names that are bound -/

/-- An insertion keeps the names as they are, unless its own is new. -/
theorem AssocList.keys_insert {α : Type} (name : String) (value : α) (entries : List (String × α)) :
    (insert name value entries).map Prod.fst =
      if name ∈ entries.map Prod.fst then entries.map Prod.fst
      else entries.map Prod.fst ++ [name] := by
  induction entries with
  | nil => rfl
  | cons entry rest ih =>
      obtain ⟨n, v⟩ := entry
      by_cases hn : n = name
      · simp [insert, hn]
      · rw [insert, if_neg hn, List.map_cons, ih, List.map_cons]
        by_cases hrest : name ∈ rest.map Prod.fst
        · rw [if_pos hrest, if_pos (List.mem_cons_of_mem n hrest)]
        · have hmem : name ∉ n :: rest.map Prod.fst := by
            rw [List.mem_cons, not_or]
            exact ⟨Ne.symm hn, hrest⟩
          rw [if_neg hrest, if_neg hmem]
          rfl

namespace Globals

/-- The names that are bound, in the order in which they were. -/
def names (g : Globals) : List String :=
  g.bindings.map Prod.fst

theorem names_store (g : Globals) (name : String) (value : Word) :
    (g.store name value).names = if name ∈ g.names then g.names else g.names ++ [name] :=
  AssocList.keys_insert name value g.bindings

theorem length_names (g : Globals) : g.names.length = g.size :=
  List.length_map _

theorem get?_eq_none_iff {g : Globals} {name : String} : g.get? name = none ↔ name ∉ g.names := by
  rw [get?, names, List.lookup_eq_none_iff]
  constructor
  · intro unbound bound
    obtain ⟨entry, mem, rfl⟩ := List.mem_map.mp bound
    simpa using unbound entry mem
  · intro unbound entry mem
    rw [bne_iff_ne]
    rintro rfl
    exact unbound (List.mem_map_of_mem mem)

/-- No store binds a name twice. -/
theorem nodup_names_store {g : Globals} (h : g.names.Nodup) (name : String) (value : Word) :
    (g.store name value).names.Nodup := by
  rw [names_store]
  by_cases bound : name ∈ g.names
  · rwa [if_pos bound]
  · rw [if_neg bound, ← List.concat_eq_append]
    exact h.concat bound

end Globals

namespace Machine

/-! ## Steps that store -/

/-- The next step of the machine stores a value under a name: it executes an instruction to store,
whose operand refers to the name in any of its places, it takes the value off the stack, and it
succeeds. -/
structure Stores (p : Program) (cfg : Config) (m : Machine) (name : String) (value : Word) :
    Prop where
  resolves : ∃ operand, Fetches p m .storeName operand ∧ p.nameAt operand = .ok name
  pops : ∃ below : Stack, m.stack = below.push value
  succeeds : (m.step p cfg).Running

section

variable {p : Program} {cfg : Config} {m : Machine} {name : String} {value : Word}

theorem Stores.globals_step (h : Stores p cfg m name value) :
    (m.step p cfg).globals = m.globals.store name value := by
  obtain ⟨operand, here, named⟩ := h.resolves
  obtain ⟨below, pushed⟩ := h.pops
  have taken : m.operands .storeName = [value] := by
    rw [operands, pushed]
    rfl
  have act : action p cfg m.globals .storeName operand (m.operands .storeName) =
      .ok (.store name value) := by
    rw [taken]
    exact (Acts.storeName named).action_eq
  rw [here.step_eq_perform act]
  rfl

theorem Acts.eq_storeName {g : Globals} {op : Opcode} {w : Word} {args : List Word}
    (h : Acts p cfg g op w args (.store name value)) :
    op = .storeName ∧ args = [value] := by
  cases h
  exact ⟨rfl, rfl⟩

theorem exists_push_of_operands {op : Opcode} (one : op.pops = 1) (h : m.operands op = [value]) :
    ∃ below : Stack, m.stack = below.push value := by
  rw [operands, one] at h
  rcases m.stack.eq_empty_or_push with empty | ⟨below, v, pushed⟩
  · rw [empty, Stack.popMany_empty] at h
    cases h
  · rw [pushed] at h
    cases h
    exact ⟨below, pushed⟩

/-- A step that stores changes the value of one name, and any other step leaves the globals alone. -/
theorem globals_step (p : Program) (cfg : Config) (m : Machine) :
    (∃ name value, Stores p cfg m name value ∧
        (m.step p cfg).globals = m.globals.store name value) ∨
      (∀ name value, ¬ Stores p cfg m name value) ∧ (m.step p cfg).globals = m.globals := by
  by_cases some_store : ∃ name value, Stores p cfg m name value
  · obtain ⟨name, value, stores⟩ := some_store
    exact Or.inl ⟨name, value, stores, stores.globals_step⟩
  · have silent : ∀ name value, ¬ Stores p cfg m name value :=
      fun name value stores => some_store ⟨name, value, stores⟩
    refine Or.inr ⟨silent, ?_⟩
    by_cases running : m.Running
    · have ending : Step p cfg m (m.step p cfg) := step_of_running running
      generalize after_eq : m.step p cfg = m' at ending
      cases ending with
      | ended | undecoded | refused | pushed | overflowed | printed | unprinted | jumped | passed |
        halted => rfl
      | @stored op operand value name asks =>
          obtain ⟨rfl, taken⟩ := asks.acts.eq_storeName
          refine absurd ⟨⟨operand, ⟨running, asks.fetch⟩, asks.acts.nameAt_eq⟩,
            exists_push_of_operands rfl taken, ?_⟩ (silent name value)
          rw [after_eq]
          exact ⟨running.state, running.fault⟩
    · rw [step_of_not_running running]

/-- A step stores one value under one name, if any. -/
theorem Stores.unique {other : String} {value' : Word} (h : Stores p cfg m name value)
    (h' : Stores p cfg m other value') : other = name ∧ value' = value := by
  obtain ⟨w, here, named⟩ := h.resolves
  obtain ⟨w', here', named'⟩ := h'.resolves
  obtain ⟨below, pushed⟩ := h.pops
  obtain ⟨below', pushed'⟩ := h'.pops
  cases here.fetch.symm.trans here'.fetch
  cases named.symm.trans named'
  have popped : (below.push value).pop? = some (value', below') :=
    Stack.pop?_eq_some_iff.mpr (pushed.symm.trans pushed')
  cases popped
  exact ⟨rfl, rfl⟩

/-! ## Steps that load -/

theorem action_loadName {w : Word} (named : p.nameAt w = .ok name) :
    action p cfg m.globals .loadName w (m.operands .loadName) =
      (m.globals.load name >>= fun value => .ok (.push value)) := by
  show (p.nameAt w >>= _) = _
  rw [named]
  rfl

/-- To load a name that is bound is to push its value. -/
theorem step_loadName_of_some {w : Word} (here : Fetches p m .loadName w)
    (named : p.nameAt w = .ok name) (bound : m.globals.get? name = some value) :
    (m.stack.depth < cfg.maxStack →
      (m.step p cfg).Running ∧ (m.step p cfg).stack = m.stack.push value) ∧
    (cfg.maxStack ≤ m.stack.depth →
      (m.step p cfg).fault = some (.stackOverflow cfg.maxStack)) := by
  have act : action p cfg m.globals .loadName w (m.operands .loadName) = .ok (.push value) := by
    rw [action_loadName named, Globals.load, bound]
    rfl
  rw [here.step_eq_perform act]
  constructor
  · intro room
    have room' : (m.dispatched .loadName w).stack.depth < cfg.maxStack := room
    rw [perform_push_of_lt value room']
    exact ⟨⟨here.running.state, here.running.fault⟩, rfl⟩
  · intro full
    have full' : cfg.maxStack ≤ (m.dispatched .loadName w).stack.depth := full
    rw [perform_push_of_le value full']
    rfl

/-- To load a name fails for want of a value if the name has none, and only then. -/
theorem step_loadName_unbound_iff {w : Word} (here : Fetches p m .loadName w)
    (named : p.nameAt w = .ok name) :
    (m.step p cfg).fault = some (.unboundName name) ↔ m.globals.get? name = none := by
  cases bound : m.globals.get? name with
  | none =>
      have act : action p cfg m.globals .loadName w (m.operands .loadName) =
          .error (.unboundName name) := by
        rw [action_loadName named, Globals.load, bound]
        rfl
      rw [here.step_eq_fail act]
      exact ⟨fun _ => rfl, fun _ => rfl⟩
  | some value =>
      refine ⟨fun unbound => ?_, nofun⟩
      rcases Nat.lt_or_ge m.stack.depth cfg.maxStack with room | full
      · have pushes := (step_loadName_of_some here named bound).1 room
        cases pushes.1.fault.symm.trans unbound
      · have overflows := (step_loadName_of_some here named bound).2 full
        cases overflows.symm.trans unbound

end

/-! ## Histories -/

/-- A new machine after a number of steps, each with a sink of its caller's choice.  The machine has
been given the sink of its next step. -/
def stepped (p : Program) (cfg : Config) (sinks : Nat → Sink) : Nat → Machine
  | 0 => { sink := sinks 0 }
  | n + 1 => { (stepped p cfg sinks n).step p cfg with sink := sinks (n + 1) }

/-- The step behind `k` others stores a value under a name. -/
def StoresAt (p : Program) (cfg : Config) (sinks : Nat → Sink) (k : Nat) (name : String)
    (value : Word) : Prop :=
  Stores p cfg (stepped p cfg sinks k) name value

/-- One of the first `n` steps stores something under a name. -/
def IsStored (p : Program) (cfg : Config) (sinks : Nat → Sink) (n : Nat) (name : String) : Prop :=
  ∃ k < n, ∃ value, StoresAt p cfg sinks k name value

/-- Among the first `n` steps, the last one that stores anything under a name stores this value. -/
def LastStore (p : Program) (cfg : Config) (sinks : Nat → Sink) (n : Nat) (name : String)
    (value : Word) : Prop :=
  ∃ k < n, StoresAt p cfg sinks k name value ∧
    ∀ j, k < j → j < n → ∀ later, ¬ StoresAt p cfg sinks j name later

section

variable {p : Program} {cfg : Config} {sinks : Nat → Sink} {n : Nat} {name : String} {value : Word}

/-- A run with one sink is one of these histories. -/
theorem after_eq_stepped (p : Program) (cfg : Config) (sink : Sink) (n : Nat) :
    after p cfg sink n = stepped p cfg (fun k => (after p cfg sink k).sink) n := by
  induction n with
  | zero => rfl
  | succ n ih => rw [stepped, ← ih, ← after_succ]

theorem lastStore_succ_iff :
    LastStore p cfg sinks (n + 1) name value ↔
      StoresAt p cfg sinks n name value ∨
        LastStore p cfg sinks n name value ∧ ∀ later, ¬ StoresAt p cfg sinks n name later := by
  constructor
  · rintro ⟨k, lt, stores, last⟩
    by_cases now : k = n
    · subst now
      exact Or.inl stores
    · have before : k < n := by omega
      exact Or.inr ⟨⟨k, before, stores, fun j kj jn => last j kj (by omega)⟩,
        last n before (Nat.lt_succ_self n)⟩
  · rintro (stores | ⟨⟨k, lt, stores, last⟩, silent⟩)
    · exact ⟨n, Nat.lt_succ_self n, stores, by omega⟩
    · refine ⟨k, by omega, stores, ?_⟩
      intro j kj jn
      by_cases now : j = n
      · subst now
        exact silent
      · exact last j kj (by omega)

/-- What was stored at all was stored for a last time. -/
theorem isStored_iff_exists_lastStore :
    IsStored p cfg sinks n name ↔ ∃ value, LastStore p cfg sinks n name value := by
  constructor
  · rintro ⟨k, lt, value, stores⟩
    -- The induction goes from the store on, and any later store takes its place.
    induction n, lt using Nat.le_induction with
    | base => exact ⟨value, lastStore_succ_iff.mpr (Or.inl stores)⟩
    | succ n _ ih =>
        obtain ⟨value, last⟩ := ih
        by_cases again : ∃ later, StoresAt p cfg sinks n name later
        · obtain ⟨later, stores⟩ := again
          exact ⟨later, lastStore_succ_iff.mpr (Or.inl stores)⟩
        · exact ⟨value, lastStore_succ_iff.mpr (Or.inr ⟨last, not_exists.mp again⟩)⟩
  · rintro ⟨value, k, lt, stores, _⟩
    exact ⟨k, lt, value, stores⟩

/-! ## What a history leaves behind -/

/-- A name has the value of its last store. -/
theorem get?_eq_some_iff_lastStore :
    (stepped p cfg sinks n).globals.get? name = some value ↔
      LastStore p cfg sinks n name value := by
  induction n with
  | zero =>
      constructor
      · intro h
        cases h
      · rintro ⟨k, lt, _⟩
        exact absurd lt (Nat.not_lt_zero k)
  | succ n ih =>
      rw [lastStore_succ_iff]
      show ((stepped p cfg sinks n).step p cfg).globals.get? name = some value ↔ _
      rcases globals_step p cfg (stepped p cfg sinks n) with
        ⟨stored, v, stores, globals_eq⟩ | ⟨silent, globals_eq⟩
      · rw [globals_eq, Globals.get?_store]
        by_cases same : name = stored
        · subst same
          rw [if_pos rfl]
          constructor
          · intro h
            cases h
            exact Or.inl stores
          · rintro (again | ⟨_, silent⟩)
            · rw [(stores.unique again).2]
            · exact absurd stores (silent v)
        · have silent : ∀ later, ¬ StoresAt p cfg sinks n name later :=
            fun later again => same (stores.unique again).1
          rw [if_neg same, ih]
          exact ⟨fun last => Or.inr ⟨last, silent⟩, fun h => (h.resolve_left (silent value)).1⟩
      · rw [globals_eq, ih]
        exact ⟨fun last => Or.inr ⟨last, silent name⟩,
          fun h => (h.resolve_left (silent name value)).1⟩

/-- A name has no value if nothing was stored under it. -/
theorem get?_eq_none_iff_not_isStored :
    (stepped p cfg sinks n).globals.get? name = none ↔ ¬ IsStored p cfg sinks n name := by
  rw [isStored_iff_exists_lastStore, Option.eq_none_iff_forall_ne_some, not_exists]
  exact forall_congr' fun value => not_congr get?_eq_some_iff_lastStore

theorem nodup_names_stepped (p : Program) (cfg : Config) (sinks : Nat → Sink) (n : Nat) :
    (stepped p cfg sinks n).globals.names.Nodup := by
  induction n with
  | zero => exact List.nodup_nil
  | succ n ih =>
      show ((stepped p cfg sinks n).step p cfg).globals.names.Nodup
      rcases globals_step p cfg (stepped p cfg sinks n) with
        ⟨stored, v, _, globals_eq⟩ | ⟨_, globals_eq⟩
      · rw [globals_eq]
        exact Globals.nodup_names_store ih stored v
      · rw [globals_eq]
        exact ih

/-- There are as many names bound as names under which something was stored. -/
theorem exists_names_stored (p : Program) (cfg : Config) (sinks : Nat → Sink) (n : Nat) :
    ∃ names : Finset String, (∀ name, name ∈ names ↔ IsStored p cfg sinks n name) ∧
      (stepped p cfg sinks n).globals.size = names.card := by
  refine ⟨(stepped p cfg sinks n).globals.names.toFinset, ?_, ?_⟩
  · intro name
    rw [List.mem_toFinset, ← not_iff_not, ← Globals.get?_eq_none_iff, get?_eq_none_iff_not_isStored]
  · rw [List.toFinset_card_of_nodup (nodup_names_stepped p cfg sinks n), Globals.length_names]

/-- **Globals hold the last store of the history.**  After any number of steps, with any sinks, a name
has the value that its last store took off the stack, through whichever entry of the name table, and
none if there was no store.  There are as many names bound as names stored.  To load a name is to push
that value, for which the stack must have room, and it fails for want of a value exactly if nothing
was stored. -/
theorem globals_hold_last_store (p : Program) (cfg : Config) (sinks : Nat → Sink) (n : Nat) :
    let m := stepped p cfg sinks n
    (∀ name value, m.globals.get? name = some value ↔ LastStore p cfg sinks n name value) ∧
    (∀ name, m.globals.get? name = none ↔ ¬ IsStored p cfg sinks n name) ∧
    (∃ names : Finset String, (∀ name, name ∈ names ↔ IsStored p cfg sinks n name) ∧
      m.globals.size = names.card) ∧
    ∀ operand name, Fetches p m .loadName operand → p.nameAt operand = .ok name →
      (∀ value, LastStore p cfg sinks n name value →
        (m.stack.depth < cfg.maxStack →
          (m.step p cfg).Running ∧ (m.step p cfg).stack = m.stack.push value) ∧
        (cfg.maxStack ≤ m.stack.depth →
          (m.step p cfg).fault = some (.stackOverflow cfg.maxStack))) ∧
      ((m.step p cfg).fault = some (.unboundName name) ↔ ¬ IsStored p cfg sinks n name) := by
  intro m
  refine ⟨fun _ _ => get?_eq_some_iff_lastStore, fun _ => get?_eq_none_iff_not_isStored,
    exists_names_stored p cfg sinks n, ?_⟩
  intro operand name here named
  refine ⟨fun value last => ?_, ?_⟩
  · exact step_loadName_of_some here named (get?_eq_some_iff_lastStore.mpr last)
  · rw [step_loadName_unbound_iff here named, get?_eq_none_iff_not_isStored]

end

/-- Two entries of the name table are the same name.  A value is stored through each of them, loaded
through the first, and then a name is loaded that was never stored. -/
def aliases : Program where
  code := #[⟨.known .loadConst, 0⟩, ⟨.known .storeName, 0⟩, ⟨.known .loadConst, 1⟩,
    ⟨.known .storeName, 1⟩, ⟨.known .loadName, 0⟩, ⟨.known .loadName, 2⟩]
  consts := #[10, 11]
  names := #["x", "x", "y"]

/-- The sinks of a run that passes one sink on from step to step. -/
def aliasesSinks (k : Nat) : Sink :=
  (after aliases {} {} k).sink

/-- The store through the second entry is what the load through the first one finds, and it is the
only name. -/
theorem globals_hold_last_store_aliases :
    (∀ n, after aliases {} {} n = stepped aliases {} aliasesSinks n) ∧
      LastStore aliases {} aliasesSinks 4 "x" 11 ∧
      Fetches aliases (stepped aliases {} aliasesSinks 4) .loadName 0 ∧
      ((stepped aliases {} aliasesSinks 4).step aliases {}).stack = Stack.empty.push 11 ∧
      (∃ names : Finset String, (∀ name, name ∈ names ↔ IsStored aliases {} aliasesSinks 4 name) ∧
        names.card = 1) ∧
      Fetches aliases (stepped aliases {} aliasesSinks 5) .loadName 2 ∧
      ((stepped aliases {} aliasesSinks 5).step aliases {}).fault = some (.unboundName "y") ∧
      ¬ IsStored aliases {} aliasesSinks 5 "y" := by
  have here : Fetches aliases (stepped aliases {} aliasesSinks 4) .loadName 0 :=
    ⟨by decide +kernel, by decide +kernel⟩
  have next : Fetches aliases (stepped aliases {} aliasesSinks 5) .loadName 2 :=
    ⟨by decide +kernel, by decide +kernel⟩
  have unbound : ((stepped aliases {} aliasesSinks 5).step aliases {}).fault =
      some (.unboundName "y") := by decide +kernel
  have empty : (stepped aliases {} aliasesSinks 4).stack = .empty := by decide +kernel
  have size : (stepped aliases {} aliasesSinks 4).globals.size = 1 := by decide +kernel
  have bound : (stepped aliases {} aliasesSinks 4).globals.get? "x" = some 11 := by decide +kernel
  obtain ⟨values, _, ⟨names, stored, card⟩, loads⟩ :=
    globals_hold_last_store aliases {} aliasesSinks 4
  obtain ⟨_, _, _, loads'⟩ := globals_hold_last_store aliases {} aliasesSinks 5
  have last := (values "x" 11).mp bound
  have room : (stepped aliases {} aliasesSinks 4).stack.depth < defaultMaxStack := by
    rw [empty]
    decide
  have pushed := (((loads 0 "x" here rfl).1 11 last).1 room).2
  exact ⟨after_eq_stepped aliases {} {}, last, here, empty ▸ pushed,
    ⟨names, stored, card.symm.trans size⟩, next, unbound, (loads' 2 "y" next rfl).2.mp unbound⟩

end Machine

end StackMachine
