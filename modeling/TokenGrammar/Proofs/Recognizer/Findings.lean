import TokenGrammar.Proofs.Notation.Scanned
import TokenGrammar.Proofs.Recognizer.Depth

/-!
# What compilation finds

Whether a line compiles or not, each of its warnings is about tokens of the line, and its error points at
tokens of the line or at the line's end. The stray symbols of what it compiles to are tokens of the line.
-/
namespace TokenGrammar

variable {stop : Location} {line : List Notation.Token}

/-- A warning about tokens of the line. -/
inductive Diagnostic.WarnsOf (line : List Notation.Token) : Diagnostic → Prop
  | stray {t} : t ∈ line → WarnsOf line (Recognizer.strayWarning t)
  | emptyGroup {opening close} :
      opening ∈ line → close ∈ line → WarnsOf line (Recognizer.emptyGroupWarning opening close)

/-- An error that points at tokens of the line, or at its end if a token is missing there. -/
inductive CompileError.PointsAt (stop : Location) (line : List Notation.Token) : CompileError → Prop
  | unexpectedCharacters {t} : t ∈ line → PointsAt stop line (.unexpectedCharacters t.text t.location)
  | expectedRuleName {t} : t ∈ line → PointsAt stop line (.expectedRuleName (some t.kind) t.location)
  | missingRuleName : PointsAt stop line (.expectedRuleName none stop)
  | expectedAssignment {t} : t ∈ line → PointsAt stop line (.expectedAssignment (some t.kind) t.location)
  | missingAssignment : PointsAt stop line (.expectedAssignment none stop)
  | leftRecursion {header first} :
      header ∈ line → first ∈ line →
      PointsAt stop line (.leftRecursion header.text first.location header.location)
  | illegalIgnorationReference {header t} :
      header ∈ line → t ∈ line →
      PointsAt stop line (.illegalIgnorationReference t.name header.text t.location)
  | unclosedGroup {header opening} :
      header ∈ line → opening ∈ line → PointsAt stop line (.unclosedGroup header.text opening.location)

/-- Where the error points, and what else it points at. -/
def CompileError.locations : CompileError → List Location
  | leftRecursion _ l declared => [l, declared]
  | e => [e.location]

theorem CompileError.location_mem_locations (e : CompileError) : e.location ∈ e.locations := by
  cases e <;> exact List.mem_cons_self

theorem CompileError.PointsAt.of_mem_locations {e : CompileError} (h : e.PointsAt stop line) {l : Location}
    (member : l ∈ e.locations) : l = stop ∨ ∃ t ∈ line, l = t.location := by
  cases h with
  | missingRuleName | missingAssignment => exact .inl (List.mem_singleton.mp member)
  | unexpectedCharacters h | expectedRuleName h | expectedAssignment h =>
      exact .inr ⟨_, h, List.mem_singleton.mp member⟩
  | illegalIgnorationReference _ h | unclosedGroup _ h => exact .inr ⟨_, h, List.mem_singleton.mp member⟩
  | leftRecursion named first =>
      rcases List.mem_cons.mp member with rfl | declared
      · exact .inr ⟨_, first, rfl⟩
      · exact .inr ⟨_, named, List.mem_singleton.mp declared⟩

theorem Diagnostic.WarnsOf.isWarning {w : Diagnostic} (h : w.WarnsOf line) : w.isWarning = true := by
  cases h <;> rfl

/-- What is warned of and what is refused is found in the line. -/
structure Compiled.Finds {α : Type} (stop : Location) (line : List Notation.Token) (x : Compiled α) :
    Prop where
  warnings : ∀ w ∈ x.warnings, w.WarnsOf line
  error : ∀ e, x.result = .error e → e.PointsAt stop line

namespace Compiled.Finds

variable {α β : Type}

theorem pure (a : α) : Finds stop line (Pure.pure a) := ⟨nofun, nofun⟩

theorem fail {e : CompileError} (h : e.PointsAt stop line) :
    Finds stop line (Compiled.fail e : Compiled α) := by
  refine ⟨nofun, fun e' same => ?_⟩
  cases same
  exact h

theorem warned {warnings : List Diagnostic} (h : ∀ w ∈ warnings, w.WarnsOf line) (a : α) :
    Finds stop line ⟨warnings, .ok a⟩ := ⟨h, nofun⟩

theorem bind {x : Compiled α} {f : α → Compiled β} (hx : x.Finds stop line)
    (hf : ∀ a, (f a).Finds stop line) : (x >>= f).Finds stop line := by
  rw [bind_eq]
  split
  · next refused =>
      refine ⟨hx.warnings, fun e same => hx.error e ?_⟩
      rw [refused, Except.error.inj same]
  · next a _ => exact ⟨List.forall_mem_append.mpr ⟨hx.warnings, (hf a).warnings⟩, (hf a).error⟩

theorem map {x : Compiled α} (hx : x.Finds stop line) (f : α → β) :
    (x >>= fun a => Pure.pure (f a)).Finds stop line :=
  hx.bind fun _ => .pure _

end Compiled.Finds

namespace Recognizer

theorem Stands.warnsOf {t : Notation.Token} {symbol : Symbol} {warnings : List Diagnostic}
    (h : Stands t symbol warnings) (member : t ∈ line) : ∀ w ∈ warnings, w.WarnsOf line := by
  cases h with
  | literal | subrule | definition => exact nofun
  | stray => exact List.forall_mem_singleton.mpr (.stray member)

theorem finds_single {header t : Notation.Token} {symbol : Symbol} {warnings : List Diagnostic}
    {rest : List Notation.Token} (h : Stands t symbol warnings) (sub : t :: rest ⊆ line)
    (ih : rest ⊆ line → (compileSymbols header rest).Finds stop line) :
    (compileSymbols header (t :: rest)).Finds stop line := by
  obtain ⟨member, more⟩ := List.cons_subset.mp sub
  rw [compileSymbols_single h]
  exact .bind (.warned (h.warnsOf member) ()) fun _ => (ih more).map _

theorem finds_tokens {header t : Notation.Token} {rest : List Notation.Token}
    (h : t.kind = .classRef ∨ t.kind = .name) (sub : t :: rest ⊆ line)
    (ih : (takeQuantifier rest).2 ⊆ line → (compileSymbols header (takeQuantifier rest).2).Finds stop line) :
    (compileSymbols header (t :: rest)).Finds stop line := by
  rw [compileSymbols_tokens h]
  exact (ih fun _ behind => sub (List.mem_cons_of_mem t ((takeQuantifier_suffix rest).subset behind))).map _

theorem finds_compileBody {header : Notation.Token} (named : header ∈ line) :
    (∀ body, body ⊆ line → (compileBody header body).Finds stop line) ∧
    (∀ parts, (∀ part ∈ parts, part ⊆ line) → (compileAlternatives header parts).Finds stop line) ∧
    ∀ tokens, tokens ⊆ line → (compileSymbols header tokens).Finds stop line := by
  apply compileBody.mutual_induct header
  case case1 =>
    intro body first tail recursive sub
    have part := infix_of_mem_alternativesOf (List.mem_of_find?_eq_some recursive)
    rw [compileBody, recursive]
    exact .fail (.leftRecursion named (sub (part.subset List.mem_cons_self)))
  case case2 =>
    intro body front ih sub
    rw [compileBody]
    split
    · next first tail recursive => exact (front first tail recursive).elim
    · exact ih fun part member _ inside => sub ((infix_of_mem_alternativesOf member).subset inside)
  case case3 =>
    intro _
    rw [compileAlternatives]
    exact .pure []
  case case4 =>
    intro a rest iha ihr sub
    obtain ⟨first, others⟩ := List.forall_mem_cons.mp sub
    rw [compileAlternatives]
    exact (iha first).bind fun _ => (ihr others).map _
  case case5 =>
    intro _
    rw [compileSymbols]
    exact .pure []
  case case6 => exact fun t rest hk ih sub => finds_single (.literal hk) sub ih
  case case7 => exact fun t rest hk ih sub => finds_tokens (.inl hk) sub ih
  case case8 => exact fun t rest hk ih sub => finds_tokens (.inr hk) sub ih
  case case9 => exact fun t rest hk ih sub => finds_single (.subrule hk) sub ih
  case case10 => exact fun t rest hk ih sub => finds_single (.definition hk) sub ih
  case case11 =>
    intro t rest hk sub
    rw [compileSymbols, hk]
    exact .fail (.illegalIgnorationReference named (sub List.mem_cons_self))
  case case12 =>
    intro opening rest ho unclosed sub
    rw [compileSymbols_unclosed ho unclosed]
    exact .fail (.unclosedGroup named (sub List.mem_cons_self))
  case case13 =>
    intro opening rest ho close after hs ih sub
    obtain ⟨rfl, hc⟩ := splitGroup_nil_iff.mp hs
    obtain ⟨first, more⟩ := List.cons_subset.mp sub
    obtain ⟨second, behind⟩ := List.cons_subset.mp more
    rw [compileSymbols_emptyGroup ho hc]
    exact .bind (.warned (List.forall_mem_singleton.mpr (.emptyGroup first second)) ()) fun _ => ih behind
  case case14 =>
    intro opening rest ho inner close after hi hs ihb ihr sub
    obtain ⟨-, more⟩ := List.cons_subset.mp sub
    rw [splitGroup_eq hs] at more
    obtain ⟨inside, more⟩ := List.append_subset.mp more
    rw [compileSymbols_group ho hs hi]
    exact (ihb inside).bind fun _ => (ihr (List.cons_subset.mp more).2).map _
  case case22 =>
    intro t rest hk sub
    rw [compileSymbols, hk]
    exact .fail (.unexpectedCharacters (sub List.mem_cons_self))
  case case23 | case24 =>
    intro t rest hk ih sub
    rw [compileSymbols_trivia (by rw [hk]; rfl)]
    exact ih (List.cons_subset.mp sub).2
  -- What is left are the seven kinds that stray.
  all_goals exact fun t rest hk ih sub => finds_single (.stray (by rw [hk]; rfl)) sub ih

theorem pointsAt_of_splitHeader {e : CompileError} (h : splitHeader stop line = .error e) :
    e.PointsAt stop line := by
  rcases line with _ | ⟨header, _ | ⟨assignment, body⟩⟩ <;> rw [splitHeader] at h
  · cases h
    exact .missingRuleName
  · split at h
    · cases h
      exact .expectedRuleName List.mem_cons_self
    · cases h
      exact .missingAssignment
  · split at h
    · cases h
      exact .expectedRuleName List.mem_cons_self
    · split at h
      · cases h
        exact .expectedAssignment (List.mem_cons_of_mem header List.mem_cons_self)
      · cases h

/-- Whatever compiling a line has to say is about tokens of the line. -/
theorem finds_ofTokens (stop : Location) (line : List Notation.Token) :
    (ofTokens stop line).Finds stop line := by
  unfold ofTokens
  split
  · next t found => exact .fail (.unexpectedCharacters (List.mem_of_find?_eq_some found))
  · split
    · next refused => exact .fail (pointsAt_of_splitHeader refused)
    · next header body found =>
        obtain ⟨-, assignment, -, rfl⟩ := splitHeader_eq_ok.mp found
        have sub : dropTerminator body ⊆ header :: assignment :: body := fun _ inside =>
          List.mem_cons_of_mem _ (List.mem_cons_of_mem _ ((dropTerminator_isPrefix body).subset inside))
        exact ((finds_compileBody List.mem_cons_self).1 _ sub).map _

theorem locates_of_ofLine {origin : Place} {text : List Char} {e : CompileError} {l : Location}
    (h : (ofLine origin text).result = .error e) (member : l ∈ e.locations) :
    ∃ piece, origin.Locates text piece l := by
  rcases ((finds_ofTokens _ _).error e h).of_mem_locations member with rfl | ⟨t, found, rfl⟩
  · exact ⟨[], text, [], by simp only [List.append_nil], rfl⟩
  · exact ⟨_, Notation.locates_of_mem_scan found⟩

theorem LineYields.warnsOf {r : Recognizer} {warnings : List Diagnostic} (h : LineYields line r warnings) :
    ∀ w ∈ warnings, w.WarnsOf line := by
  have found := (finds_ofTokens (Place.start.covering []) line).warnings
  rwa [ofTokens_eq_iff.mpr h] at found

theorem SymbolsYield.stray_mem {header : Notation.Token} {tokens : List Notation.Token} {symbols : List Symbol}
    {warnings : List Diagnostic} (h : SymbolsYield header tokens symbols warnings) {t : Notation.Token}
    (ht : .stray t ∈ symbols) : t ∈ tokens := by
  match h with
  | .nil => cases ht
  | .single hs hr =>
      rcases List.mem_cons.mp ht with rfl | later
      · cases hs
        exact List.mem_cons_self
      · exact List.mem_cons_of_mem _ (hr.stray_mem later)
  | .tokens _ hr =>
      rcases List.mem_cons.mp ht with h | later
      · cases h
      · exact List.mem_cons_of_mem _ ((takeQuantifier_suffix _).subset (hr.stray_mem later))
  | .emptyGroup _ _ hr => exact List.mem_cons_of_mem _ (List.mem_cons_of_mem _ (hr.stray_mem ht))
  | .group _ hs _ _ hr =>
      rcases List.mem_cons.mp ht with h | later
      · cases h
      · rw [splitGroup_eq hs]
        exact List.mem_cons_of_mem _ (List.mem_append_right _ (List.mem_cons_of_mem _ (hr.stray_mem later)))
  | .trivia _ hr => exact List.mem_cons_of_mem _ (hr.stray_mem ht)

theorem LineYields.stray_mem {tokens : List Notation.Token} {r : Recognizer} {warnings : List Diagnostic}
    (h : LineYields tokens r warnings) {t : Notation.Token} (ht : Occurs (.stray t) r.alternatives) :
    t ∈ tokens := by
  obtain ⟨symbols, ha, hs⟩ := ht
  obtain ⟨header, a, own, -, part, -, hy, -⟩ := h.alternative ha
  exact part.subset (hy.stray_mem hs)

end Recognizer

end TokenGrammar
