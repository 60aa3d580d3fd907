import TokenGrammar.Match.Machine

/-!
# Parsing whole programs

Where an expression has to start, the rules are tried from the last declared to the first. The first
that consumes a token gives the expression; when none does, the program ends with an error at that
token. All attempts share the fuel and the log.
-/
namespace TokenGrammar.Machine

variable {σ : Type}

/-- The first of the rules that consumes at least one token. -/
def firstAdvance (m : Machine σ) (offset : Nat) (input : List Token) (fuel : Nat) (log : σ) :
    List Recognizer → Run σ (Option (Recognizer × Matched))
  | [] => ⟨.ok none, fuel, log⟩
  | r :: others =>
    let run := m.invoke r offset input fuel log
    match run.outcome with
    | .error e => ⟨.error e, run.fuel, run.log⟩
    | .ok (some matched) =>
      if matched.width = 0 then m.firstAdvance offset input run.fuel run.log others
      else ⟨.ok (some (r, matched)), run.fuel, run.log⟩
    | .ok none => m.firstAdvance offset input run.fuel run.log others

/-- Expressions of the tokens from `offset` on, behind those already found (the last one first). -/
def parseFrom (m : Machine σ) (offset : Nat) (found : List Subtree) (fuel : Nat) (log : σ) :
    List Token → Run σ Program
  | [] => ⟨.ok ⟨found.reverse⟩, fuel, log⟩
  | token :: rest =>
    let run := m.firstAdvance offset (token :: rest) fuel log m.grammar.rules.reverse
    match run.outcome with
    | .error e => ⟨.error e, run.fuel, run.log⟩
    | .ok none => ⟨.error (.unexpectedToken token (m.observer.furthest? run.log)), run.fuel, run.log⟩
    | .ok (some (r, matched)) =>
      let log := m.observer.note run.log (.expression r.name offset matched.width)
      m.parseFrom (offset + matched.width) (⟨some r.name, matched.width, matched.nodes⟩ :: found)
        run.fuel log (rest.drop (matched.width - 1))
termination_by tokens => tokens.length
decreasing_by simp only [List.length_drop, List.length_cons]; omega

def parse (m : Machine σ) (tokens : List Token) (log : σ) : Run σ Program :=
  m.parseFrom 0 [] m.limits.fuel log tokens

end TokenGrammar.Machine
