import TokenGrammar.Lexer
import TokenGrammar.Proofs.Text.LineIndex

/-!
# Lexing tiles the text

What a rule matches is any function from a place in the text to a number of bytes. A rule takes a piece if
its match is that piece, the piece is not empty and the match ends between two characters. A text is tiled
when each piece is taken by the first rule that takes one there. Main statement: a lexer answers with the
tokens of a tiling of the whole text, or it complains of the character at which a tiling is stuck. All that it
tells of is where a table of line starts has it.
-/
namespace TokenGrammar.LexRule

variable {π : Type} (matchBytes? : π → List Char → List Char → Option Nat)

/-- At the place between the texts `before` and `text`, the rule has a match that can become a token. -/
structure Takes (rule : LexRule π) (before text piece : List Char) : Prop where
  matched : matchBytes? rule.pattern before.reverse text = some (byteLength piece)
  ne_nil : piece ≠ []
  front : piece <+: text

def Stuck (rules : List (LexRule π)) (before text : List Char) : Prop :=
  ∀ rule ∈ rules, ∀ piece, ¬ rule.Takes matchBytes? before text piece

def FirstTakes (rules : List (LexRule π)) (rule : LexRule π) (before text piece : List Char) : Prop :=
  ∃ earlier later, rules = earlier ++ rule :: later ∧ Stuck matchBytes? earlier before text ∧
    rule.Takes matchBytes? before text piece

/-- The pieces that are taken one behind the other from a place on, and what is left behind them. -/
inductive Tiles (rules : List (LexRule π)) :
    List Char → List Char → List (LexRule π × List Char) → List Char → Prop
  | nil {before rest} : Tiles rules before rest [] rest
  | cons {before rule piece text pieces rest} :
      FirstTakes matchBytes? rules rule before (piece ++ text) piece →
      Tiles rules (before ++ piece) text pieces rest →
      Tiles rules before (piece ++ text) ((rule, piece) :: pieces) rest

/-- The tokens of pieces that stand behind a text, without those of rules that skip. -/
def tokensOf (before : List Char) : List (LexRule π × List Char) → List Token
  | [] => []
  | (rule, piece) :: rest =>
    let tokens := tokensOf (before ++ piece) rest
    if rule.skips then tokens
    else ⟨rule.name, String.ofList piece, Position.counted before, byteLength before⟩ :: tokens

variable {matchBytes?} {rule : LexRule π} {rules : List (LexRule π)} {before text piece rest : List Char}
  {pieces : List (LexRule π × List Char)}

theorem takes_iff : rule.Takes matchBytes? before text piece ↔
    ∃ n, (matchBytes? rule.pattern before.reverse text).bind (characterCount? text) = some (n + 1) ∧
      piece = text.take (n + 1) := by
  constructor
  · intro taken
    obtain ⟨n, long⟩ := Nat.exists_eq_add_one.mpr (List.length_pos_iff.mpr taken.ne_nil)
    have piece_eq : piece = text.take (n + 1) := long ▸ List.prefix_iff_eq_take.mp taken.front
    refine ⟨n, ?_, piece_eq⟩
    rw [taken.matched, Option.bind_some, characterCount?_eq_some, ← long,
      ← List.prefix_iff_eq_take.mp taken.front]
    exact ⟨taken.front.length_le, rfl⟩
  · rintro ⟨n, counted, rfl⟩
    obtain ⟨bytes, matched, count⟩ := Option.bind_eq_some_iff.mp counted
    obtain ⟨fits, rfl⟩ := characterCount?_eq_some.mp count
    refine ⟨matched, fun empty => ?_, List.take_prefix _ _⟩
    have long := List.length_take_of_le fits
    rw [empty] at long
    cases long

/-- A rule that is passed over takes nothing. -/
theorem not_takes (passed : ∀ n,
      (matchBytes? rule.pattern before.reverse text).bind (characterCount? text) = some (n + 1) → False)
    (piece : List Char) : ¬ rule.Takes matchBytes? before text piece := by
  intro taken
  obtain ⟨n, counted, -⟩ := takes_iff.mp taken
  exact passed n counted

theorem stuck_of_first?_eq_none (h : first? matchBytes? before.reverse text rules = none) :
    Stuck matchBytes? rules before text := by
  induction rules with
  | nil => exact List.forall_mem_nil _
  | cons rule rules ih =>
      rw [first?] at h
      split at h
      · cases h
      · next passed => exact List.forall_mem_cons.mpr ⟨not_takes passed, ih h⟩

theorem firstTakes_of_first?_eq_some {n : Nat}
    (h : first? matchBytes? before.reverse text rules = some (rule, n)) :
    FirstTakes matchBytes? rules rule before text (text.take n) := by
  induction rules with
  | nil => cases h
  | cons r rules ih =>
      rw [first?] at h
      split at h
      · next n counted =>
          obtain ⟨rfl, rfl⟩ := Prod.mk.inj (Option.some.inj h)
          exact ⟨[], rules, rfl, List.forall_mem_nil _, takes_iff.mpr ⟨n, counted, rfl⟩⟩
      · next passed =>
          obtain ⟨earlier, later, rfl, stuck, taken⟩ := ih h
          exact ⟨r :: earlier, later, rfl, List.forall_mem_cons.mpr ⟨not_takes passed, stuck⟩, taken⟩

theorem first?_append {earlier later : List (LexRule π)} (h : Stuck matchBytes? earlier before text) :
    first? matchBytes? before.reverse text (earlier ++ later) =
      first? matchBytes? before.reverse text later := by
  induction earlier with
  | nil => rfl
  | cons r earlier ih =>
      obtain ⟨own, others⟩ := List.forall_mem_cons.mp h
      rw [List.cons_append, first?]
      split
      · next n counted => exact absurd (takes_iff.mpr ⟨n, counted, rfl⟩) (own _)
      · exact ih others

theorem FirstTakes.first?_eq_some (h : FirstTakes matchBytes? rules rule before text piece) :
    first? matchBytes? before.reverse text rules = some (rule, piece.length) := by
  obtain ⟨earlier, later, rfl, stuck, taken⟩ := h
  obtain ⟨n, counted, rfl⟩ := takes_iff.mp taken
  obtain ⟨bytes, -, count⟩ := Option.bind_eq_some_iff.mp counted
  rw [first?_append stuck, first?, counted, List.length_take_of_le (characterCount?_eq_some.mp count).1]

theorem Stuck.first?_eq_none (h : Stuck matchBytes? rules before text) :
    first? matchBytes? before.reverse text rules = none := by
  rw [← List.append_nil rules, first?_append h, first?]

/-- One step: the tiling goes on, or it is stuck. -/
theorem exists_firstTakes_or_stuck (rules : List (LexRule π)) (before text : List Char) :
    (∃ rule piece rest, text = piece ++ rest ∧ FirstTakes matchBytes? rules rule before text piece) ∨
    Stuck matchBytes? rules before text := by
  cases found : first? matchBytes? before.reverse text rules with
  | none => exact .inr (stuck_of_first?_eq_none found)
  | some answer =>
      exact .inl ⟨answer.1, _, _, (List.take_append_drop answer.2 text).symm,
        firstTakes_of_first?_eq_some found⟩

/-- Every text is tiled up to its end or up to a place at which no rule takes anything. -/
theorem exists_tiles (rules : List (LexRule π)) (before text : List Char) :
    ∃ pieces rest, Tiles matchBytes? rules before text pieces rest ∧
      (rest = [] ∨ Stuck matchBytes? rules (before ++ pieces.flatMap Prod.snd) rest) := by
  -- A piece is not empty, so less text is left behind it.
  induction long : text.length using Nat.strongRecOn generalizing before text with
  | ind size ih =>
      rcases exists_firstTakes_or_stuck rules before text with ⟨rule, piece, text, rfl, first⟩ | stuck
      · obtain ⟨earlier, later, -, -, taken⟩ := id first
        have some := List.length_pos_iff.mpr taken.ne_nil
        have less : text.length < size := by
          rw [← long, List.length_append]
          omega
        obtain ⟨pieces, rest, tiles, ends⟩ := ih _ less (before ++ piece) text rfl
        refine ⟨(rule, piece) :: pieces, rest, .cons first tiles, ?_⟩
        rwa [List.flatMap_cons, ← List.append_assoc]
      · exact ⟨[], text, .nil, .inr (by rwa [List.flatMap_nil, List.append_nil])⟩

theorem Tiles.append_rest (h : Tiles matchBytes? rules before text pieces rest) :
    pieces.flatMap Prod.snd ++ rest = text := by
  induction h with
  | nil => rfl
  | cons _ _ ih => rw [List.flatMap_cons, List.append_assoc, ih]

theorem FirstTakes.lexFrom_eq (h : FirstTakes matchBytes? rules rule before (piece ++ text) piece)
    (found : List Token) :
    lexFrom matchBytes? rules (Place.start.after before) before.reverse found (piece ++ text) =
      lexFrom matchBytes? rules (Place.start.after (before ++ piece)) (before ++ piece).reverse
        ((tokensOf before [(rule, piece)]).reverse ++ found) text := by
  obtain ⟨earlier, later, -, -, taken⟩ := id h
  have first := h.first?_eq_some
  cases piece with
  | nil => exact absurd rfl taken.ne_nil
  | cons c cs =>
      rw [List.cons_append] at first ⊢
      rw [lexFrom, first]
      have place : (Place.start.after before).position = Position.counted before := Position.start_after before
      have offset : (Place.start.after before).offset = byteLength before := Nat.zero_add _
      simp only [List.length_cons, Nat.add_sub_cancel, List.take_left, List.drop_left, Place.after_append,
        List.reverse_append, place, offset, tokensOf]
      cases rule.skips <;> rfl

theorem Stuck.lexFrom_eq {c : Char} (h : Stuck matchBytes? rules before (c :: text)) (found : List Token) :
    lexFrom matchBytes? rules (Place.start.after before) before.reverse found (c :: text) =
      .error (.unexpectedCharacter c ⟨byteLength before, Position.counted before⟩) := by
  rw [lexFrom, h.first?_eq_none, Place.after, ← Position.start_after]
  simp only [Place.start, Nat.zero_add]

theorem tokensOf_cons : tokensOf before ((rule, piece) :: pieces) =
    tokensOf before [(rule, piece)] ++ tokensOf (before ++ piece) pieces := by
  simp only [tokensOf]
  cases rule.skips <;> rfl

/-- Lexing goes on behind a tiling, with the tokens of its pieces found. -/
theorem Tiles.lexFrom_eq (h : Tiles matchBytes? rules before text pieces rest) (found : List Token) :
    lexFrom matchBytes? rules (Place.start.after before) before.reverse found text =
      lexFrom matchBytes? rules (Place.start.after (before ++ pieces.flatMap Prod.snd))
        (before ++ pieces.flatMap Prod.snd).reverse ((tokensOf before pieces).reverse ++ found) rest := by
  induction h generalizing found with
  | nil => rw [List.flatMap_nil, List.append_nil]; rfl
  | @cons before rule piece text pieces rest first _ ih =>
      have more : tokensOf before ((rule, piece) :: pieces) = _ := tokensOf_cons
      rw [first.lexFrom_eq, ih, more, List.flatMap_cons, ← List.append_assoc before, ← List.append_assoc,
        ← List.reverse_append]

/-- A lexer comes to an end. The text is tiled by what its rules take and the answer is the tokens of the
pieces, or a front of the text is tiled and the character behind it, where no rule takes anything, is
reported with its place. -/
theorem lex_tiles (matchBytes? : π → List Char → List Char → Option Nat) (rules : List (LexRule π))
    (source : List Char) :
    (∃ pieces, Tiles matchBytes? rules [] source pieces [] ∧ pieces.flatMap Prod.snd = source ∧
      lex matchBytes? rules source = .ok (tokensOf [] pieces)) ∨
    ∃ pieces consumed found rest, Tiles matchBytes? rules [] source pieces (found :: rest) ∧
      pieces.flatMap Prod.snd = consumed ∧ consumed ++ found :: rest = source ∧
      Stuck matchBytes? rules consumed (found :: rest) ∧
      lex matchBytes? rules source =
        .error (.unexpectedCharacter found ⟨byteLength consumed, Position.counted consumed⟩) := by
  obtain ⟨pieces, rest, tiles, ends⟩ : ∃ pieces rest, Tiles matchBytes? rules [] source pieces rest ∧ _ :=
    exists_tiles rules [] source
  have whole := tiles.append_rest
  have lexed : lex matchBytes? rules source = _ := tiles.lexFrom_eq []
  rw [List.nil_append, List.append_nil] at lexed
  cases rest with
  | nil =>
      refine .inl ⟨pieces, tiles, by rwa [List.append_nil] at whole, ?_⟩
      rw [lexed, lexFrom, List.reverse_reverse]
  | cons found rest =>
      have stuck := ends.resolve_left (List.cons_ne_nil _ _)
      rw [List.nil_append] at stuck
      exact .inr ⟨pieces, _, found, rest, tiles, rfl, whole, stuck, lexed.trans (stuck.lexFrom_eq _)⟩

/-- A pattern is the number of bytes it matches here. An empty match is passed over, and half a character. -/
example : lex (fun bytes _ _ => some bytes)
    [⟨"empty", false, 0⟩, ⟨"narrow", true, 1⟩, ⟨"wide", false, 2⟩] ['é', ' ', '\n', 'é'] =
    .ok [⟨"wide", "é", ⟨1, 1⟩, 0⟩, ⟨"wide", "é", ⟨2, 1⟩, 4⟩] := by
  cbv

/-- From a place in the text on, all that a lexer tells of is in the text. -/
theorem isIn_of_lexFrom {source back : List Char} {place : Place} {found : List Token}
    (here : source = back.reverse ++ text) (place_eq : place = Place.start.after back.reverse)
    (known : ∀ t ∈ found, Place.IsIn ⟨t.offset, t.position⟩ source) :
    (∀ tokens, lexFrom matchBytes? rules place back found text = .ok tokens →
      ∀ t ∈ tokens, Place.IsIn ⟨t.offset, t.position⟩ source) ∧
    ∀ c at_, lexFrom matchBytes? rules place back found text = .error (.unexpectedCharacter c at_) →
      at_.IsIn source := by
  fun_induction lexFrom matchBytes? rules place back found text with
  | case1 place back found =>
      refine ⟨?_, nofun⟩
      rintro tokens ⟨⟩ t member
      exact known t (List.mem_reverse.mp member)
  | case2 place back found c cs none =>
      refine ⟨nofun, ?_⟩
      rintro c' at_ ⟨⟩
      exact ⟨back.reverse, c :: cs, here, place_eq⟩
  | case3 place back found c cs rule n first piece found' ih =>
      -- Place and front move on by the piece, which starts where a token of it would be told of.
      have reached : (piece.reverse ++ back).reverse = back.reverse ++ piece := by
        rw [List.reverse_append, List.reverse_reverse]
      have rest : source = (piece.reverse ++ back).reverse ++ cs.drop (n - 1) := by
        rw [here, reached, List.append_assoc]
        exact congrArg (back.reverse ++ c :: ·) (List.take_append_drop (n - 1) cs).symm
      refine ih rest ?_ ?_
      · rw [reached, Place.after_append, place_eq]
      · change ∀ t ∈ if rule.skips then found else ⟨rule.name, String.ofList piece, place.position,
          place.offset⟩ :: found, _
        split
        · exact known
        · exact List.forall_mem_cons.mpr ⟨⟨back.reverse, c :: cs, here, place_eq⟩, known⟩

/-- The tokens of a text are in it, and so is the character that a lexer complains of. -/
theorem isIn_of_lex (matchBytes? : π → List Char → List Char → Option Nat) (rules : List (LexRule π))
    (source : List Char) :
    (∀ tokens, lex matchBytes? rules source = .ok tokens →
      ∀ t ∈ tokens, Place.IsIn ⟨t.offset, t.position⟩ source) ∧
    ∀ found place, lex matchBytes? rules source = .error (.unexpectedCharacter found place) →
      place.IsIn source :=
  isIn_of_lexFrom rfl rfl (List.forall_mem_nil _)

/-- What a lexer tells of has the position that its offset is looked up to have in the text. -/
theorem position?_of_lex (matchBytes? : π → List Char → List Char → Option Nat) (rules : List (LexRule π))
    (source : List Char) :
    (∀ tokens, lex matchBytes? rules source = .ok tokens →
      ∀ t ∈ tokens, (LineIndex.ofText source).position? t.offset = some t.position) ∧
    ∀ found place, lex matchBytes? rules source = .error (.unexpectedCharacter found place) →
      (LineIndex.ofText source).position? place.offset = some place.position := by
  obtain ⟨tokens, complaint⟩ := isIn_of_lex matchBytes? rules source
  exact ⟨fun found lexed t member => LineIndex.position?_of_isIn (tokens found lexed t member),
    fun found place stuck => LineIndex.position?_of_isIn (complaint found place stuck)⟩

end TokenGrammar.LexRule
