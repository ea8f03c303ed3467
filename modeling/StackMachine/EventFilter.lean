import StackMachine.Event
import StackMachine.Text.Alphanumeric
import StackMachine.Text.Blank

/-!
# Event filters

A filter decides which events are shown.  It is a list of directives, each about some events, with
the rank up to which these are shown.  An event goes by the most specific directive about it; among
directives about the same events the last one counts.  What no directive is about is not shown.

A filter is written as its directives with commas between them.  A directive is a level (`warn`), the
beginning of a source (`mpvm_core`), or a source and a level (`mpvm_core=trace`); where the level is
left out, everything is shown.  Brackets in front of `=` narrow it down to what happens in a span,
`[name]`, or to events with a field, as in `mpvm[{path}]=debug`.
-/

namespace StackMachine

/-- The events of its sources that a directive is about. -/
inductive Selection : Type where
  | all
  /-- Those that have a field. -/
  | withField (name : String)
  /-- Those inside a span.  A machine opens no spans, so there are none. -/
  | inSpan
deriving DecidableEq, Repr

structure Directive : Type where
  /-- What the source of an event begins with. -/
  source : Option String := none
  selection : Selection := .all
  /-- The least important rank that is shown. -/
  rank : Nat
deriving DecidableEq, Repr

namespace Selection

def includes (s : Selection) (e : Event) : Bool :=
  match s with
  | all => true
  | withField name => name = "message" || e.fields.any (·.1 = name)
  | inSpan => false

/-- One field is more specific than none, and of two fields the one later in the alphabet is taken to
be. -/
def exceeds : Selection → Selection → Bool
  | withField a, withField b => b < a
  | withField _, _ => true
  | _, _ => false

end Selection

namespace Directive

/-- Whether a directive is about an event. -/
def concerns (d : Directive) (e : Event) : Bool :=
  (match d.source with
    | none => true
    | some source => source.toList.isPrefixOf e.source.toList) && d.selection.includes e

/-- How specific the source is. -/
def sourceWeight (d : Directive) : Nat :=
  match d.source with
  | none => 0
  | some source => source.utf8ByteSize + 1

/-- Whether a directive is more specific than another. -/
def exceeds (d e : Directive) : Bool :=
  if d.sourceWeight = e.sourceWeight then d.selection.exceeds e.selection
  else e.sourceWeight < d.sourceWeight

/-- The more specific of two directives, the later one if neither is. -/
def prefer (earlier later : Directive) : Directive :=
  if earlier.exceeds later then earlier else later

end Directive

structure EventFilter : Type where
  directives : List Directive
deriving DecidableEq, Repr

namespace EventFilter

/-- The filter that shows the events of a level and of all levels above it. -/
def upTo (level : Level) : EventFilter :=
  ⟨[{ rank := level.rank }]⟩

/-- The directive that an event goes by. -/
def directiveFor? (f : EventFilter) (e : Event) : Option Directive :=
  match f.directives.filter (·.concerns e) with
  | [] => none
  | first :: others => some (others.foldl Directive.prefer first)

/-- Whether an event is shown. -/
def shows (f : EventFilter) (e : Event) : Bool :=
  match f.directiveFor? e with
  | none => false
  | some d => e.level.rank ≤ d.rank

@[simp] theorem shows_upTo (level : Level) (e : Event) :
    (upTo level).shows e = decide (e.level.rank ≤ level.rank) := rfl

end EventFilter

/-! ## Reading -/

namespace Level

/-- Reads the rank of a level, by name in upper or lower case or by number; zero shows nothing. -/
def rankOfText? (cs : List Char) : Option Nat :=
  match Decimal.size? cs with
  | some n => if n ≤ trace.rank then some n else none
  | none =>
    match (String.ofList cs).toLower with
    | "off" => some 0
    | "error" => some error.rank
    | "warn" => some warn.rank
    | "info" => some info.rank
    | "debug" => some debug.rank
    | "trace" => some trace.rank
    | _ => none

end Level

/-! A directive is read off its text without the blanks around it, its shape, but the pieces are cut
out of the text as it stands: blanks behind it belong to its last piece, and blanks in front shift
every piece. -/

namespace Directive

/-- Reads the level behind `=`. -/
def rankBehind? (cs : List Char) : Option Nat :=
  if cs = [] then some Level.trace.rank else Level.rankOfText? cs

/-- Reads what follows the brackets, from a position on. -/
def ofEnd? (text shape : List Char) (source : Option String) (selection : Selection)
    (position : Nat) : Option Directive :=
  match shape.drop position with
  | [] => some { source, selection, rank := Level.trace.rank }
  | '=' :: _ =>
    (rankBehind? (text.drop (position + 1))).map fun rank => { source, selection, rank }
  | _ => none

/-- Reads what follows the opening bracket, from a position on. -/
def ofBrackets? (text shape : List Char) (source : Option String) (position : Nat) :
    Option Directive :=
  let inside := shape.drop position
  let span := inside.takeWhile fun c => c ≠ ']' && c ≠ '\x7b'
  let behind := position + span.length + 1
  match inside.drop span.length with
  | ']' :: _ => ofEnd? text shape source .inSpan behind
  | '\x7b' :: more =>
    let size := (more.takeWhile (· ≠ '\x7d')).length
    let field := (text.drop behind).take size
    match more.drop size with
    | '\x7d' :: ']' :: _ =>
      if field = [] then none
      else
        let plain := span = [] ∧ '=' ∉ field
        let selection := if plain then .withField (String.ofList field) else .inSpan
        ofEnd? text shape source selection (behind + size + 2)
    | _ => none
  | _ => none

/-- Whether a source may begin with a character. -/
def startsSource (c : Char) : Bool :=
  c = '-' || c = ':' || c = '_' || Text.isAlphanumeric c

/-- Reads a directive. -/
def ofText? (text : List Char) : Option Directive :=
  let shape := Text.trim text
  match shape with
  | [] => none
  | '[' :: _ => ofBrackets? text shape none 1
  | c :: _ =>
    if startsSource c then
      let size := (shape.takeWhile fun c => c ≠ '=' && c ≠ '[').length
      let source := String.ofList (text.take size)
      match shape.drop size with
      | '=' :: _ => (rankBehind? (text.drop (size + 1))).map fun rank => { source, rank }
      | '[' :: _ => ofBrackets? text shape source (size + 1)
      | _ =>
        match Level.rankOfText? text with
        | some rank => some { rank }
        | none => some { source := String.ofList text, rank := Level.trace.rank }
    else
      none

end Directive

/-- Reads a filter.  Nothing between two commas is no directive; one directive that cannot be read
spoils the whole filter. -/
def EventFilter.ofText? (s : String) : Option EventFilter :=
  (((s.toList.splitOn ',').filter (· ≠ [])).mapM Directive.ofText?).map EventFilter.mk

end StackMachine
