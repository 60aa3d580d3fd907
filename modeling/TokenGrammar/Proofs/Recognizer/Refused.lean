import TokenGrammar.Proofs.Recognizer.Acceptance

/-!
# Why a body is refused

The errors that end the compilation of a body, as a relation beside the one for what bodies compile to: an
alternative that starts with the rule itself, or a symbol that cannot be built, in the body or in the contents
of a group at any depth. Inside of a group brackets match, so a group that seems unclosed stands in none.
Main statement: either it is not closed in the body either, or the body was cut in the middle of it, at an
alternator that has as many opening as closing brackets in front.
-/
namespace TokenGrammar

namespace Compiled

variable {α β : Type}

theorem result_bind_eq_error {x : Compiled α} {f : α → Compiled β} {e : CompileError} :
    (x >>= f).result = .error e ↔
      x.result = .error e ∨ ∃ a, x.result = .ok a ∧ (f a).result = .error e := by
  rw [bind_eq]
  cases hx : x.result with
  | error e' => simp
  | ok a => simp

end Compiled

namespace Recognizer

variable {header opening close : Notation.Token} {body ts us inner after : List Notation.Token}
  {e : CompileError}

mutual

/-- The error may end the compilation of the body. -/
inductive BodyRefused (header : Notation.Token) : List Notation.Token → CompileError → Prop
  | leftRecursion {body t rest} : t :: rest ∈ alternativesOf body → NamesRule header.text t →
      BodyRefused header body (.leftRecursion header.text t.location header.location)
  | alternative {body a e} : a ∈ alternativesOf body → SymbolsRefused header a e →
      BodyRefused header body e

inductive SymbolsRefused (header : Notation.Token) : List Notation.Token → CompileError → Prop
  | ignoration {ts t} : t ∈ ts → t.kind = .ignorationRef →
      SymbolsRefused header ts (.illegalIgnorationReference t.name header.text t.location)
  | unexpected {ts t} : t ∈ ts → t.kind = .unexpectedFragment →
      SymbolsRefused header ts (.unexpectedCharacters t.text t.location)
  | unclosed {ts opening rest} : opening :: rest <:+ ts → opening.kind = .groupOpen →
      splitGroup 0 rest = none →
      SymbolsRefused header ts (.unclosedGroup header.text opening.location)
  | group {ts opening rest inner close after e} : opening :: rest <:+ ts → opening.kind = .groupOpen →
      splitGroup 0 rest = some (inner, close, after) → BodyRefused header inner e →
      SymbolsRefused header ts e

end

/-- What refuses the last of some tokens refuses all of them. -/
theorem SymbolsRefused.mono (h : SymbolsRefused header ts e) (part : ts <:+ us) :
    SymbolsRefused header us e := by
  cases h with
  | ignoration member hk => exact .ignoration (part.subset member) hk
  | unexpected member hk => exact .unexpected (part.subset member) hk
  | unclosed own ho hs => exact .unclosed (own.trans part) ho hs
  | group own ho hs hb => exact .group (own.trans part) ho hs hb

/-- Behind a token that is compiled by itself. -/
theorem refused_of_single {t : Notation.Token} {symbol : Symbol} {warnings : List Diagnostic}
    (hs : Stands t symbol warnings)
    (ih : (compileSymbols header ts).result = .error e → SymbolsRefused header ts e)
    (h : (compileSymbols header (t :: ts)).result = .error e) : SymbolsRefused header (t :: ts) e := by
  rw [compileSymbols_single hs] at h
  obtain own | ⟨_, _, h⟩ := Compiled.result_bind_eq_error.mp h
  · cases own
  · obtain own | ⟨_, _, h⟩ := Compiled.result_bind_eq_error.mp h
    · exact (ih own).mono (List.suffix_cons t ts)
    · cases h

theorem refused_of_tokens {t : Notation.Token} (hk : t.kind = .classRef ∨ t.kind = .name)
    (ih : (compileSymbols header (takeQuantifier ts).2).result = .error e →
      SymbolsRefused header (takeQuantifier ts).2 e)
    (h : (compileSymbols header (t :: ts)).result = .error e) : SymbolsRefused header (t :: ts) e := by
  rw [compileSymbols_tokens hk] at h
  obtain own | ⟨_, _, h⟩ := Compiled.result_bind_eq_error.mp h
  · exact (ih own).mono ((takeQuantifier_suffix ts).trans (List.suffix_cons t ts))
  · cases h

/-- Whatever error ends compilation, there is a reason for it. -/
theorem refused_of_compile (header : Notation.Token) :
    (∀ body e, (compileBody header body).result = .error e → BodyRefused header body e) ∧
    (∀ parts e, (compileAlternatives header parts).result = .error e →
      ∃ a ∈ parts, SymbolsRefused header a e) ∧
    ∀ tokens e, (compileSymbols header tokens).result = .error e → SymbolsRefused header tokens e := by
  apply compileBody.mutual_induct header
  case case1 =>
    intro body first tail recursive e h
    rw [compileBody, recursive] at h
    cases h
    exact .leftRecursion (List.mem_of_find?_eq_some recursive)
      ((isLeftRecursive_iff_namesRule _ _ tail).mp (List.find?_some recursive))
  case case2 =>
    intro body front ih e h
    rw [compileBody] at h
    split at h
    · next first tail recursive => exact (front first tail recursive).elim
    · obtain ⟨a, member, refused⟩ := ih e h
      exact .alternative member refused
  case case3 =>
    intro e h
    rw [compileAlternatives] at h
    cases h
  case case4 =>
    intro a rest iha ihr e h
    rw [compileAlternatives] at h
    obtain own | ⟨_, _, h⟩ := Compiled.result_bind_eq_error.mp h
    · exact ⟨a, List.mem_cons_self, iha e own⟩
    · obtain later | ⟨_, _, h⟩ := Compiled.result_bind_eq_error.mp h
      · obtain ⟨b, member, refused⟩ := ihr e later
        exact ⟨b, List.mem_cons_of_mem a member, refused⟩
      · cases h
  case case5 =>
    intro e h
    rw [compileSymbols] at h
    cases h
  case case6 => exact fun t rest hk ih e => refused_of_single (.literal hk) (ih e)
  case case7 => exact fun t rest hk ih e => refused_of_tokens (.inl hk) (ih e)
  case case8 => exact fun t rest hk ih e => refused_of_tokens (.inr hk) (ih e)
  case case9 => exact fun t rest hk ih e => refused_of_single (.subrule hk) (ih e)
  case case10 => exact fun t rest hk ih e => refused_of_single (.definition hk) (ih e)
  case case11 =>
    intro t rest hk e h
    rw [compileSymbols, hk] at h
    cases h
    exact .ignoration List.mem_cons_self hk
  case case12 =>
    intro opening rest ho hs e h
    rw [compileSymbols_unclosed ho hs] at h
    cases h
    exact .unclosed (List.suffix_refl _) ho hs
  case case13 =>
    intro opening rest ho close after hs ih e h
    obtain ⟨rfl, hc⟩ := splitGroup_nil_iff.mp hs
    rw [compileSymbols_emptyGroup ho hc] at h
    obtain own | ⟨_, _, h⟩ := Compiled.result_bind_eq_error.mp h
    · cases own
    · exact (ih e h).mono ((List.suffix_cons close after).trans (List.suffix_cons opening _))
  case case14 =>
    intro opening rest ho inner close after hi hs ihb ihr e h
    rw [compileSymbols_group ho hs hi] at h
    obtain own | ⟨_, _, h⟩ := Compiled.result_bind_eq_error.mp h
    · exact .group (List.suffix_refl _) ho hs (ihb e own)
    · obtain later | ⟨_, _, h⟩ := Compiled.result_bind_eq_error.mp h
      · exact (ihr e later).mono ((suffix_of_splitGroup hs).trans (List.suffix_cons opening rest))
      · cases h
  case case22 =>
    intro t rest hk e h
    rw [compileSymbols, hk] at h
    cases h
    exact .unexpected List.mem_cons_self hk
  case case23 | case24 =>
    intro t rest hk ih e h
    rw [compileSymbols_trivia (by rw [hk]; rfl)] at h
    exact (ih e h).mono (List.suffix_cons t rest)
  -- What is left are the seven kinds that stray.
  all_goals exact fun t rest hk ih e => refused_of_single (.stray (by rw [hk]; rfl)) (ih e)

/-- The token behind these tokens is the first of its alternative: nothing stands in front of it, or an
opening bracket, or an alternator that separates. -/
def Foremost (front : List Notation.Token) : Prop :=
  ∀ before u, front = before ++ [u] →
    u.kind = .groupOpen ∨ u.kind = .alternator ∧ Separates before

/-- Behind these tokens a body is cut: they are followed by nothing, or by an alternator at depth zero. -/
def CutBehind (depth : Int) (front behind : List Notation.Token) : Prop :=
  ∀ bar ∈ behind.head?, bar.kind = .alternator ∧ Level depth front

/-- Each part of a body goes from one cut up to the next one. -/
theorem Cuts.exists_append {depth : Int} {parts : List (List Notation.Token)} (h : Cuts depth parts body)
    {a : List Notation.Token} (ha : a ∈ parts) :
    ∃ front behind, body = front ++ (a ++ behind) ∧
      (∀ before u, front = before ++ [u] → u.kind = .alternator ∧ Level depth before) ∧
      CutBehind depth (front ++ a) behind := by
  induction h with
  | last _ =>
      cases List.mem_singleton.mp ha
      exact ⟨[], [], (List.append_nil a).symm, fun before u own => by simp at own, nofun⟩
  | @cons depth first bar parts body _ hb level _ ih =>
      rcases List.mem_cons.mp ha with rfl | later
      · refine ⟨[], bar :: body, rfl, fun before u own => by simp at own, ?_⟩
        rintro _ ⟨⟩
        exact ⟨hb, level⟩
      · obtain ⟨front, behind, rfl, cut, next⟩ := ih later
        have passed : Level depth (first ++ [bar]) := level.append_iff.mpr (by simp [Level, hb])
        refine ⟨first ++ [bar] ++ front, behind, by simp, ?_, ?_⟩
        · intro before u own
          rcases List.eq_nil_or_concat' front with rfl | ⟨tail, v, rfl⟩
          · rw [List.append_nil] at own
            obtain ⟨rfl, same⟩ := List.append_inj' own rfl
            cases same
            exact ⟨hb, level⟩
          · rw [← List.append_assoc] at own
            obtain ⟨rfl, same⟩ := List.append_inj' own rfl
            cases same
            obtain ⟨hu, later⟩ := cut tail _ rfl
            exact ⟨hu, passed.append_iff.mpr later⟩
        · intro u own
          obtain ⟨hu, later⟩ := next u own
          rw [List.append_assoc]
          exact ⟨hu, passed.append_iff.mpr later⟩

theorem exists_cut {a : List Notation.Token} (h : a ∈ alternativesOf body) :
    ∃ front behind, body = front ++ (a ++ behind) ∧ Foremost front ∧ CutBehind 0 (front ++ a) behind := by
  obtain ⟨front, behind, whole, cut, next⟩ := (cuts_alternativesOf body).exists_append h
  refine ⟨front, behind, whole, ?_, next⟩
  intro before u own
  obtain ⟨hu, level⟩ := cut before u own
  refine .inr ⟨hu, fun none => allOpened_iff.mpr ?_⟩
  unfold Level at level
  omega

mutual

/-- Where brackets match, nothing is refused for an unclosed group. -/
theorem BodyRefused.kind_ne_unclosedGroup {body : List Notation.Token} {e : CompileError}
    (h : BodyRefused header body e) (hn : Nested true body) : e.kind ≠ .unclosedGroup := by
  match h with
  | .leftRecursion _ _ => exact nofun
  | .alternative member hs => exact hs.kind_ne_unclosedGroup (hn.nested_of_mem_alternativesOf member)

theorem SymbolsRefused.kind_ne_unclosedGroup {ts : List Notation.Token} {e : CompileError}
    (h : SymbolsRefused header ts e) (hn : Nested false ts) : e.kind ≠ .unclosedGroup := by
  match h with
  | .ignoration _ _ => exact nofun
  | .unexpected _ _ => exact nofun
  | .unclosed own ho hs => exact absurd hs (hn.splitGroup_ne_none own ho)
  | .group _ _ hs hb => exact hb.kind_ne_unclosedGroup (nested_of_splitGroup _ hs)

end

theorem kind_of_splitHeader {stop : Location} {tokens : List Notation.Token}
    (h : splitHeader stop tokens = .error e) : e.kind ∈ [.expectedRuleName, .expectedAssignment] := by
  rcases tokens with _ | ⟨header, _ | ⟨assignment, body⟩⟩ <;> simp only [splitHeader] at h
  · cases h
    exact List.mem_cons_self
  · split at h <;> cases h <;> simp [CompileError.kind]
  · split at h
    · cases h
      exact List.mem_cons_self
    · split at h <;> cases h
      exact List.mem_cons_of_mem _ List.mem_cons_self

/-- What a line is refused for, if it is cut into a name and a body, is in the body. -/
theorem bodyRefused_of_ofTokens {stop : Location} {tokens : List Notation.Token}
    (h : (ofTokens stop tokens).result = .error e)
    (hk : e.kind ∉ [.unexpectedCharacters, .expectedRuleName, .expectedAssignment]) :
    ∃ header body, IsRule header body tokens ∧ BodyRefused header body e := by
  unfold ofTokens at h
  split at h
  · cases h
    exact absurd List.mem_cons_self hk
  · split at h
    · next refused =>
        cases h
        exact absurd (List.mem_cons_of_mem _ (kind_of_splitHeader refused)) hk
    · next header body found =>
        obtain ⟨hn, assignment, ha, rfl⟩ := splitHeader_eq_ok.mp found
        obtain own | ⟨_, _, h⟩ := Compiled.result_bind_eq_error.mp h
        · exact ⟨header, _, ⟨assignment, body, rfl, hn, ha, rfl⟩, (refused_of_compile header).1 _ _ own⟩
        · cases h

/-- A cut between a bracket and its counterpart is at an alternator of the group. -/
theorem exists_alternator_of_cut {front rest behind : List Notation.Token}
    (ho : opening.kind = .groupOpen) (unclosed : splitGroup 0 rest = none)
    (cut : CutBehind 0 (front ++ opening :: rest) behind) (hi : IsContents inner (rest ++ behind)) :
    ¬ AllOpened front ∧ ∃ before bar after, inner = before ++ bar :: after ∧ bar.kind = .alternator ∧
      (front ++ opening :: before).countP (·.kind = .groupOpen) =
        (front ++ opening :: before).countP (·.kind = .groupClose) := by
  obtain ⟨close, after, whole, hc, hn⟩ := hi
  have other : close.kind ≠ .alternator := ne_of_eq_of_ne hc (by decide)
  rcases List.append_eq_append_iff.mp whole with ⟨x, rfl, rfl⟩ | ⟨x, rfl, he⟩
  · cases x with
    | nil => exact absurd (cut close rfl).1 other
    | cons bar tail =>
        obtain ⟨hb, level⟩ := cut bar rfl
        unfold Level at level
        have opened := hn.allOpened rest (List.prefix_append _ _)
        refine ⟨fun all => ?_, rest, bar, tail, rfl, hb, by omega⟩
        have counts := all front (List.prefix_refl _)
        simp only [List.countP_append, List.countP_cons, ho] at level
        simp at level
        omega
  · cases x with
    | nil =>
        rw [List.nil_append] at he
        exact absurd (cut close (by rw [← he]; rfl)).1 other
    | cons found tail =>
        rw [List.cons_append] at he
        obtain ⟨rfl, -⟩ := List.cons_eq_cons.mp he
        have closed := (show Nested true inner from hn).splitGroup_eq_some hc tail
        cases unclosed.symm.trans closed

/-- A group that is refused as unclosed is not closed in the body either, or the body is cut inside of it.
Then a bracket that nothing opened stands in front of the group, and it is cut at an alternator in it that has
as many opening as closing brackets in front. -/
theorem cut_of_unclosedGroup {origin : Place} {line : List Char} {rule : String} {l : Location}
    (h : (ofLine origin line).result = .error (.unclosedGroup rule l)) :
    ∃ header body front opening behind, IsRule header body (Notation.scan origin line) ∧
      rule = header.text ∧ body = front ++ opening :: behind ∧ opening.kind = .groupOpen ∧
      l = opening.location ∧
      ∀ inner, IsContents inner behind → ¬ AllOpened front ∧
        ∃ before bar after, inner = before ++ bar :: after ∧ bar.kind = .alternator ∧
          (front ++ opening :: before).countP (·.kind = .groupOpen) =
            (front ++ opening :: before).countP (·.kind = .groupClose) := by
  obtain ⟨header, body, line, refused⟩ := bodyRefused_of_ofTokens h (by simp [CompileError.kind])
  cases refused with
  | alternative member refused =>
      obtain ⟨front, behind, whole, -, cut⟩ := exists_cut member
      cases refused with
      | @unclosed _ opening rest own ho hs =>
          obtain ⟨before, rfl⟩ := own
          rw [← List.append_assoc] at cut
          refine ⟨header, body, front ++ before, opening, rest ++ behind, line, rfl, ?_, ho, rfl,
            fun inner => exists_alternator_of_cut ho hs cut⟩
          rw [whole, List.append_assoc, List.append_assoc, List.cons_append]
      | group _ _ hs hb => exact absurd rfl (hb.kind_ne_unclosedGroup (nested_of_splitGroup _ hs))

/-- The tokens of the line `A = ) ( .x | .y );` -/
theorem scan_cutGroup : Notation.scan .start "A = ) ( .x | .y );".toList =
    [⟨.name, "A", ⟨⟨0, 1⟩, ⟨1, 1⟩⟩⟩, ⟨.assignment, "=", ⟨⟨2, 3⟩, ⟨1, 3⟩⟩⟩,
      ⟨.groupClose, ")", ⟨⟨4, 5⟩, ⟨1, 5⟩⟩⟩, ⟨.groupOpen, "(", ⟨⟨6, 7⟩, ⟨1, 7⟩⟩⟩,
      ⟨.classRef, ".x", ⟨⟨8, 10⟩, ⟨1, 9⟩⟩⟩, ⟨.alternator, "|", ⟨⟨11, 12⟩, ⟨1, 12⟩⟩⟩,
      ⟨.classRef, ".y", ⟨⟨13, 15⟩, ⟨1, 14⟩⟩⟩, ⟨.groupClose, ")", ⟨⟨16, 17⟩, ⟨1, 17⟩⟩⟩,
      ⟨.terminator, ";", ⟨⟨17, 18⟩, ⟨1, 18⟩⟩⟩] := by
  decide +kernel

theorem ofLine_cutGroup : (ofLine .start "A = ) ( .x | .y );".toList).result =
    .error (.unclosedGroup "A" ⟨⟨6, 7⟩, ⟨1, 7⟩⟩) := by
  rw [ofLine, scan_cutGroup]
  generalize (Place.after .start _).covering [] = stop
  cbv

/-- The group of the line is closed, but a bracket in front of it is not opened. -/
theorem cut_of_unclosedGroup_cutGroup :
    ∃ header body front opening behind,
      IsRule header body (Notation.scan .start "A = ) ( .x | .y );".toList) ∧
      "A" = header.text ∧ body = front ++ opening :: behind ∧ opening.kind = .groupOpen ∧
      ⟨⟨6, 7⟩, ⟨1, 7⟩⟩ = opening.location ∧
      ∀ inner, IsContents inner behind → ¬ AllOpened front ∧
        ∃ before bar after, inner = before ++ bar :: after ∧ bar.kind = .alternator ∧
          (front ++ opening :: before).countP (·.kind = .groupOpen) =
            (front ++ opening :: before).countP (·.kind = .groupClose) :=
  cut_of_unclosedGroup ofLine_cutGroup

/-- So a group may be refused as unclosed although it is closed. -/
theorem isContents_of_unclosedGroup :
    ¬ ∀ (origin : Place) (line : List Char) (rule : String) (l : Location),
      (ofLine origin line).result = .error (.unclosedGroup rule l) →
      ∀ header body front opening behind, IsRule header body (Notation.scan origin line) →
        body = front ++ opening :: behind → opening.kind = .groupOpen → opening.location = l →
        ¬ ∃ inner, IsContents inner behind := by
  intro never
  refine never _ _ _ _ ofLine_cutGroup _ _ [_] _ [_, _, _, _] ⟨_, _, scan_cutGroup, rfl, rfl, rfl⟩
    rfl rfl rfl ⟨[_, _, _], _, [], rfl, rfl, ?_⟩
  refine .plain ?_ ?_ (fun _ => rfl) (.plain ?_ ?_ (fun _ => rfl) (.single ?_ ?_ fun _ => rfl)) <;> decide

end Recognizer

end TokenGrammar
