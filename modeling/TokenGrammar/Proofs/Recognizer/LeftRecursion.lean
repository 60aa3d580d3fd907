import TokenGrammar.Proofs.Recognizer.Depth

/-!
# Left recursion

A rule whose alternative starts by naming the rule itself is refused, by the first token of the
alternative. An empty group makes no symbol, so a self-reference behind one becomes the first symbol
without being the first token. Main statement: this is the only way for it to get there.
-/
namespace TokenGrammar

/-- The symbol is one of those by which a rule would invoke itself. -/
def Symbol.IsSelfReference (rule : String) : Symbol → Prop
  | .literal text => text = rule
  | .tokens kind _ explicit => explicit = false ∧ kind = rule
  | .subrule name => name = rule
  | _ => False

def StartsWithItself (rule : String) : Alternative → Prop
  | [] => False
  | symbol :: _ => symbol.IsSelfReference rule

namespace Recognizer

/-- What stands behind the empty groups at the front. -/
def dropEmptyGroups : List Notation.Token → List Notation.Token
  | opening :: close :: rest =>
    if opening.kind = .groupOpen ∧ close.kind = .groupClose then dropEmptyGroups rest
    else opening :: close :: rest
  | tokens => tokens

variable {header : Notation.Token}

theorem dropEmptyGroups_of_ne_groupOpen {t : Notation.Token} (h : t.kind ≠ .groupOpen)
    (rest : List Notation.Token) : dropEmptyGroups (t :: rest) = t :: rest := by
  cases rest with
  | nil => rfl
  | cons close rest => rw [dropEmptyGroups, if_neg fun both => h both.1]

/-- A group with contents is not skipped. -/
theorem dropEmptyGroups_of_splitGroup {opening close : Notation.Token}
    {rest inner after : List Notation.Token} (hs : splitGroup 0 rest = some (inner, close, after))
    (hi : inner ≠ []) : dropEmptyGroups (opening :: rest) = opening :: rest := by
  cases rest with
  | nil => rfl
  | cons t rest =>
      rw [dropEmptyGroups, if_neg]
      rintro ⟨-, ht⟩
      exact head_of_splitGroup hs hi t rfl ht

theorem isLeftRecursive_of_stray {t : Notation.Token} (h : t.kind.isStray = true) (rule : String)
    (rest : List Notation.Token) : isLeftRecursive rule (t :: rest) = false := by
  rw [isLeftRecursive]
  cases hk : t.kind <;> rw [hk] at h <;> first | rfl | cases h

/-- Of the two forms of a class reference, the bare one may name the rule. -/
theorem isLeftRecursive_class {t : Notation.Token} (h : t.kind = .classRef ∨ t.kind = .name)
    (rule : String) (rest : List Notation.Token) :
    isLeftRecursive rule (t :: rest) = true ↔ t.kind ≠ .classRef ∧ t.name = rule := by
  rcases h with hk | hk <;> simp [isLeftRecursive, hk]

theorem isLeftRecursive_groupOpen {t : Notation.Token} (h : t.kind = .groupOpen) (rule : String)
    (rest : List Notation.Token) : isLeftRecursive rule (t :: rest) = false := by
  rw [isLeftRecursive, h]

theorem Stands.kind_ne_groupOpen {t : Notation.Token} {symbol : Symbol} {own : List Diagnostic}
    (h : Stands t symbol own) : t.kind ≠ .groupOpen := by
  intro ho
  cases h with
  | literal hk | subrule hk | definition hk => cases ho.symm.trans hk
  | stray hk =>
      rw [ho] at hk
      cases hk

theorem Stands.isSelfReference_iff {t : Notation.Token} {symbol : Symbol} {own : List Diagnostic}
    (h : Stands t symbol own) (rule : String) (rest : List Notation.Token) :
    symbol.IsSelfReference rule ↔ isLeftRecursive rule (t :: rest) = true := by
  cases h with
  | literal hk | subrule hk => simp only [Symbol.IsSelfReference, isLeftRecursive, hk, decide_eq_true_eq]
  | definition hk => simp only [Symbol.IsSelfReference, isLeftRecursive, hk, Bool.false_eq_true]
  | stray hk =>
      rw [isLeftRecursive_of_stray hk]
      exact iff_of_false id Bool.false_ne_true

theorem ne_groupOpen_of_class {t : Notation.Token} (h : t.kind = .classRef ∨ t.kind = .name) :
    t.kind ≠ .groupOpen := by
  rcases h with hk | hk <;> rw [hk] <;> decide

/-- The first symbol of an alternative refers to the rule exactly if the first token does that is not
of an empty group. -/
theorem SymbolsYield.startsWithItself_iff {tokens : List Notation.Token} {symbols : List Symbol}
    {warnings : List Diagnostic} (h : SymbolsYield header tokens symbols warnings)
    (clean : ∀ t ∈ tokens, t.kind.isTrivia = false) (rule : String) :
    StartsWithItself rule symbols ↔ isLeftRecursive rule (dropEmptyGroups tokens) = true := by
  match h with
  | .nil => exact iff_of_false id Bool.false_ne_true
  | .single hs _ =>
      rw [dropEmptyGroups_of_ne_groupOpen hs.kind_ne_groupOpen]
      exact hs.isSelfReference_iff rule _
  | .tokens hk _ =>
      rw [dropEmptyGroups_of_ne_groupOpen (ne_groupOpen_of_class hk), isLeftRecursive_class hk]
      exact and_congr_left' decide_eq_false_iff_not
  | .emptyGroup ho hc hr =>
      rw [dropEmptyGroups, if_pos ⟨ho, hc⟩]
      refine hr.startsWithItself_iff (fun t member => clean t ?_) rule
      exact List.mem_cons_of_mem _ (List.mem_cons_of_mem _ member)
  | .group ho hs hi _ _ =>
      rw [dropEmptyGroups_of_splitGroup hs hi, isLeftRecursive_groupOpen ho]
      exact iff_of_false id Bool.false_ne_true
  | .trivia ht _ => cases ht.symm.trans (clean _ List.mem_cons_self)

/-- Where the empty groups make a difference, the tokens start with one, and it is warned of. -/
theorem SymbolsYield.emptyGroup_of_dropEmptyGroups_ne {tokens : List Notation.Token}
    {symbols : List Symbol} {warnings : List Diagnostic}
    (h : SymbolsYield header tokens symbols warnings) (hd : dropEmptyGroups tokens ≠ tokens) :
    ∃ opening close behind, tokens = opening :: close :: behind ∧ opening.kind = .groupOpen ∧
      close.kind = .groupClose ∧ emptyGroupWarning opening close ∈ warnings := by
  match h with
  | .nil => exact absurd rfl hd
  | .single hs _ => exact absurd (dropEmptyGroups_of_ne_groupOpen hs.kind_ne_groupOpen _) hd
  | .tokens hk _ => exact absurd (dropEmptyGroups_of_ne_groupOpen (ne_groupOpen_of_class hk) _) hd
  | .emptyGroup ho hc _ => exact ⟨_, _, _, rfl, ho, hc, List.mem_cons_self⟩
  | .group _ hs hi _ _ => exact absurd (dropEmptyGroups_of_splitGroup hs hi) hd
  | .trivia ht _ =>
      refine absurd (dropEmptyGroups_of_ne_groupOpen ?_ _) hd
      intro ho
      rw [ho] at ht
      cases ht

/-- Without a warning the first symbol and the first token tell the same. -/
theorem SymbolsYield.isLeftRecursive_iff {tokens : List Notation.Token} {symbols : List Symbol}
    (h : SymbolsYield header tokens symbols []) (clean : ∀ t ∈ tokens, t.kind.isTrivia = false)
    (rule : String) : isLeftRecursive rule tokens = true ↔ StartsWithItself rule symbols := by
  have kept : dropEmptyGroups tokens = tokens := by
    by_cases same : dropEmptyGroups tokens = tokens
    · exact same
    · obtain ⟨_, _, _, -, -, -, warned⟩ := h.emptyGroup_of_dropEmptyGroups_ne same
      cases warned
  rw [h.startsWithItself_iff clean rule, kept]

theorem isTrivia_of_mem_scan {origin : Place} {text : List Char} {t : Notation.Token}
    (h : t ∈ Notation.scan origin text) : t.kind.isTrivia = false := by
  have kept := (List.mem_filter.mp h).2
  simpa using kept

theorem lineYields_of_ofLine {origin : Place} {line : List Char} {r : Recognizer}
    (h : (ofLine origin line).result = .ok r) :
    LineYields (Notation.scan origin line) r (ofLine origin line).warnings :=
  ofTokens_eq_iff.mp (congrArg (Compiled.mk _) h)

/-- In a compiled line, an alternative starts with a reference to its own rule only if it is written
with empty groups in front and the reference behind them; and these are warned of. -/
theorem emptyGroup_of_startsWithItself {origin : Place} {line : List Char} {r : Recognizer}
    (h : (ofLine origin line).result = .ok r) {symbols : Alternative}
    (ha : HasAlternative r.alternatives symbols) (hs : StartsWithItself r.name symbols) :
    ∃ opening close behind, opening :: close :: behind <:+: Notation.scan origin line ∧
      opening.kind = .groupOpen ∧ close.kind = .groupClose ∧
      isLeftRecursive r.name (dropEmptyGroups behind) = true ∧
      emptyGroupWarning opening close ∈ (ofLine origin line).warnings := by
  obtain ⟨header, a, own, -, part, front, hy, sub⟩ := (lineYields_of_ofLine h).alternative ha
  have clean : ∀ t ∈ a, t.kind.isTrivia = false := fun t member =>
    isTrivia_of_mem_scan (part.subset member)
  have exposed := (hy.startsWithItself_iff clean r.name).mp hs
  have skipped : dropEmptyGroups a ≠ a := by
    intro same
    rw [same, front] at exposed
    cases exposed
  obtain ⟨opening, close, behind, rfl, ho, hc, warned⟩ := hy.emptyGroup_of_dropEmptyGroups_ne skipped
  rw [dropEmptyGroups, if_pos ⟨ho, hc⟩] at exposed
  exact ⟨opening, close, behind, part, ho, hc, exposed, sub warned⟩

/-- The line `A = () @A;` -/
theorem ofLine_emptyGroup_selfReference :
    (ofLine .start "A = () @A;".toList).result = .ok ⟨"A", [[.subrule "A"]]⟩ := by
  have scanned : Notation.scan .start "A = () @A;".toList =
      [⟨.name, "A", ⟨⟨0, 1⟩, ⟨1, 1⟩⟩⟩, ⟨.assignment, "=", ⟨⟨2, 3⟩, ⟨1, 3⟩⟩⟩,
        ⟨.groupOpen, "(", ⟨⟨4, 5⟩, ⟨1, 5⟩⟩⟩, ⟨.groupClose, ")", ⟨⟨5, 6⟩, ⟨1, 6⟩⟩⟩,
        ⟨.subruleRef, "@A", ⟨⟨7, 9⟩, ⟨1, 8⟩⟩⟩, ⟨.terminator, ";", ⟨⟨9, 10⟩, ⟨1, 10⟩⟩⟩] := by
    decide +kernel
  rw [ofLine, scanned]
  generalize (Place.after .start _).covering [] = stop
  cbv

theorem emptyGroup_in_front_of_selfReference :
    ∃ opening close behind,
      opening :: close :: behind <:+: Notation.scan .start "A = () @A;".toList ∧
      opening.kind = .groupOpen ∧ close.kind = .groupClose ∧
      isLeftRecursive "A" (dropEmptyGroups behind) = true ∧
      emptyGroupWarning opening close ∈ (ofLine .start "A = () @A;".toList).warnings :=
  emptyGroup_of_startsWithItself ofLine_emptyGroup_selfReference (.here List.mem_cons_self) rfl

/-- So a compiled alternative may invoke its own rule before it takes a token. -/
theorem startsWithItself_of_compiled :
    ¬ ∀ (origin : Place) (line : List Char) (r : Recognizer), (ofLine origin line).result = .ok r →
      ∀ symbols, HasAlternative r.alternatives symbols → ¬ StartsWithItself r.name symbols := by
  intro never
  exact never _ _ _ ofLine_emptyGroup_selfReference [.subrule "A"] (.here List.mem_cons_self) rfl

end Recognizer

end TokenGrammar
