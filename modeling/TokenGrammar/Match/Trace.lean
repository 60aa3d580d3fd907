import TokenGrammar.Match.Machine
import TokenGrammar.Text.Palette

/-!
# Printed traces

One line an event, indented by the number of rules that are being tried. How much is shown depends on
the verbosity; what is shown never changes with it, nor does its indentation.
-/
namespace TokenGrammar

inductive Verbosity
  /-- Rules and top-level expressions. -/
  | rules
  /-- Also alternatives and backtracking. -/
  | alternatives
  /-- Also every literal and class reference. -/
  | symbols
  deriving DecidableEq, Repr

def Verbosity.level : Verbosity → Nat
  | rules => 0
  | alternatives => 1
  | symbols => 2

namespace Event

/-- The least verbosity that shows the event. -/
def verbosity : Event → Verbosity
  | enter .. | leave .. | expression .. => .rules
  | alternative .. | backtrack .. => .alternatives
  | literalMatched .. | literalFailed .. | tokensMatched .. | tokensFailed .. => .symbols

/-- The event's line without its indentation. -/
def describe (p : Palette) : Event → String
  | enter rule offset => s!"→ {p.blue}{rule}{p.reset} {p.dim}@{offset}{p.reset}"
  | leave rule (some width) =>
    s!"← {p.blue}{rule}{p.reset} {p.green}matched {width}{p.reset}"
  | leave rule none => s!"← {p.blue}{rule}{p.reset} {p.red}no match{p.reset}"
  | alternative _ index => s!"{p.dim}alternative {index}{p.reset}"
  | backtrack rule index => s!"{p.dim}backtrack {rule} alternative {index}{p.reset}"
  | literalMatched token => s!"{p.green}✓{p.reset} {token.describe}"
  | literalFailed _ text _ found =>
    let found := match found with
      | some token => token.describe
      | none => "end of input"
    s!"{p.red}✗{p.reset} expected {quoted text}, found {found}"
  | tokensMatched kind count => s!"{p.green}✓{p.reset} .{kind} ×{count}"
  | tokensFailed _ kind count least _ _ =>
    s!"{p.red}✗{p.reset} .{kind} ×{count}, need {least}"
  | expression rule offset width =>
    s!"■ {p.blue}{rule}{p.reset} {p.dim}[{offset}..{offset + width}]{p.reset}"

end Event

/-- Lines printed so far, the last one first, and the number of open rules. -/
structure Trace where
  reversed : List String
  depth : Nat

namespace Trace

def empty : Trace := ⟨[], 0⟩

def lines (t : Trace) : List String := t.reversed.reverse

def print (v : Verbosity) (p : Palette) (t : Trace) (e : Event) : Trace :=
  if e.verbosity.level ≤ v.level then
    { t with reversed := (indentation t.depth ++ e.describe p) :: t.reversed }
  else t

/-- A rule's first line stands outside of it, and so does its last. -/
def note (v : Verbosity) (p : Palette) (t : Trace) : Event → Trace
  | .enter rule offset =>
    let t := t.print v p (.enter rule offset)
    { t with depth := t.depth + 1 }
  | .leave rule width => { t with depth := t.depth - 1 }.print v p (.leave rule width)
  | e => t.print v p e

end Trace

def Observer.ofTrace (v : Verbosity) (p : Palette) : Observer Trace := ⟨Trace.note v p, fun _ => none⟩

end TokenGrammar
