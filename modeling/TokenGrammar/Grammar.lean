import TokenGrammar.Recognizer.Compile

/-!
# Grammars

Three namespaces of recognizers, each in the order in which its names were first declared. A later
declaration of a name takes the place of the earlier one.
-/
namespace TokenGrammar

inductive Namespace
  | ignorations
  | definitions
  | rules
  deriving DecidableEq, Repr

namespace Namespace

def all : List Namespace := [ignorations, definitions, rules]

/-- The word that starts a statement of a grammar file. -/
def keyword : Namespace → String
  | ignorations => "ignore"
  | definitions => "define"
  | rules => "rule"

def noun : Namespace → String
  | ignorations => "ignoration"
  | definitions => "definition"
  | rules => "rule"

def plural (n : Namespace) : String := n.noun ++ "s"

def ofKeyword? (word : String) : Option Namespace := all.find? (·.keyword = word)

end Namespace

/-- The recognizers of one namespace in order, under distinct names. -/
abbrev Table := List Recognizer

namespace Table

def find? (t : Table) (name : String) : Option Recognizer := List.find? (·.name = name) t

/-- A new name goes to the end; a known one keeps its position. -/
def insert : Table → Recognizer → Table
  | [], r => [r]
  | s :: rest, r => if s.name = r.name then r :: rest else s :: insert rest r

end Table

/-- A line that is to be declared in a namespace. -/
structure Attempt where
  space : Namespace
  origin : Place
  line : List Char

structure Grammar where
  ignorations : Table
  definitions : Table
  rules : Table
  warnings : List Diagnostic

namespace Grammar

def empty : Grammar := ⟨[], [], [], []⟩

def table (g : Grammar) : Namespace → Table
  | .ignorations => g.ignorations
  | .definitions => g.definitions
  | .rules => g.rules

def setTable (g : Grammar) (n : Namespace) (t : Table) : Grammar :=
  match n with
  | .ignorations => { g with ignorations := t }
  | .definitions => { g with definitions := t }
  | .rules => { g with rules := t }

def lookup (g : Grammar) (n : Namespace) (name : String) : Option Recognizer :=
  (g.table n).find? name

def isEmpty (g : Grammar) : Bool :=
  g.ignorations.isEmpty && g.definitions.isEmpty && g.rules.isEmpty

/-- Compiles a line into a namespace, and keeps its warnings if there is no error. -/
def define (g : Grammar) (n : Namespace) (origin : Place) (line : List Char) :
    Except CompileError (Recognizer × Grammar) :=
  let compiled := Recognizer.ofLine origin line
  match compiled.result with
  | .error e => .error e
  | .ok r =>
    let g := { g with warnings := g.warnings ++ compiled.warnings }
    .ok (r, g.setTable n ((g.table n).insert r))

/-- Declares a line: what the caller is told, and the grammar afterwards. An error leaves it as it was. -/
def attempt (g : Grammar) (a : Attempt) : Except CompileError Recognizer × Grammar :=
  match g.define a.space a.origin a.line with
  | .error e => (.error e, g)
  | .ok (r, g') => (.ok r, g')

/-- The grammar as the statements of a grammar file, one a line. -/
def render (g : Grammar) : String :=
  String.join (Namespace.all.flatMap fun n =>
    (g.table n).map fun r => n.keyword ++ " " ++ r.render ++ "\n")

end Grammar

end TokenGrammar
