import TokenGrammar.Proofs.Notation.Scanned

/-!
# How tokens cover a text

A text is cut into words and fragments, of which blanks and comments are dropped. What is kept says where it
stands, and there is nothing but blanks and comments in between. Main statement: each token is the longest
match at its start, or no rule matches where it starts, and the gaps between the tokens hold what has no
meaning.
-/
namespace TokenGrammar.Notation

/-- A row of blanks and comments in front of the text `behind`. -/
inductive Gap : List Char → List Char → Prop
  | nil {behind : List Char} : Gap [] behind
  | cons {kind : Kind} {word gap behind : List Char} :
      kind.isTrivia = true → Longest kind word (gap ++ behind) → Gap gap behind → Gap (word ++ gap) behind

/-- The token is what is read in front of the text `behind`. A fragment starts where nothing can be read. -/
structure Token.StandsBefore (t : Token) (behind : List Char) : Prop where
  nonempty : t.text ≠ ""
  kept : t.kind.isTrivia = false
  longest : t.kind ≠ .unexpectedFragment → Longest t.kind t.text.toList behind
  unmatched : t.kind = .unexpectedFragment → Unmatched (t.text.toList ++ behind)

/-- The first token ends in front of the second one, and they do not touch if both are fragments. -/
structure Token.Precedes (t u : Token) : Prop where
  stop_le : t.location.span.stop ≤ u.location.span.start
  apart : t.kind = .unexpectedFragment → u.kind = .unexpectedFragment →
    t.location.span.stop < u.location.span.start

/-- The text from a place on is a gap, a token, a gap and so on, and a gap at the end. -/
inductive Covers : Place → List Char → List Token → Prop
  | gap {place : Place} {gap : List Char} : Gap gap [] → Covers place gap []
  | token {place : Place} {gap behind : List Char} {t : Token} {ts : List Token} :
      Gap gap (t.text.toList ++ behind) → t.StandsBefore behind →
      t.location = (place.after gap).covering t.text.toList → (∀ u ∈ ts, t.Precedes u) →
      Covers (place.after (gap ++ t.text.toList)) behind ts →
      Covers place (gap ++ t.text.toList ++ behind) (t :: ts)

/-- Each piece is the longest match at its start, or it is a fragment with no other directly behind it. -/
inductive Cut : List Piece → Prop
  | nil : Cut []
  | word {p : Piece} {ps : List Piece} :
      Longest p.kind p.text (ps.flatMap (·.text)) → Cut ps → Cut (p :: ps)
  | fragment {p : Piece} {ps : List Piece} :
      p.kind = .unexpectedFragment → p.text ≠ [] → Unmatched (p.text ++ ps.flatMap (·.text)) →
      (∀ q ∈ ps.head?, q.kind ≠ .unexpectedFragment) → Cut ps → Cut (p :: ps)

theorem Cut.text_ne_nil {p : Piece} {ps : List Piece} (h : Cut (p :: ps)) : p.text ≠ [] := by
  cases h with
  | word hl _ => exact hl.spells.ne_nil
  | fragment _ some _ _ _ => exact some

theorem Cut.tail {p : Piece} {ps : List Piece} (h : Cut (p :: ps)) : Cut ps := by
  cases h with
  | word _ hm => exact hm
  | fragment _ _ _ _ hm => exact hm

/-- A fragment takes in the one behind it. -/
theorem Cut.join {p : Piece} {ps : List Piece} (hk : p.kind = .unexpectedFragment) (some : p.text ≠ [])
    (hu : Unmatched (p.text ++ ps.flatMap (·.text))) (h : Cut (joinUnexpected ps)) :
    Cut (joinUnexpected (p :: ps)) := by
  rw [← flatMap_text_joinUnexpected] at hu
  rw [joinUnexpected]
  split
  · next none =>
      rw [none] at hu
      refine .fragment hk some hu ?_ .nil
      rintro _ ⟨⟩
  · next q more joined =>
      rw [joined] at h hu
      split
      · next both =>
          cases h with
          | word hl _ => exact absurd both.2 hl.spells.kind_ne
          | fragment _ _ _ other hm =>
              rw [List.flatMap_cons, ← List.append_assoc] at hu
              exact .fragment rfl (List.append_ne_nil_of_left_ne_nil some q.text) hu other hm
      · next apart =>
          refine .fragment hk some hu ?_ h
          rintro _ ⟨⟩ hq
          exact apart ⟨hk, hq⟩

theorem cut_joinUnexpected_pieces (text : List Char) : Cut (joinUnexpected (pieces text)) := by
  induction text using pieces.induct with
  | case1 =>
      rw [pieces]
      exact .nil
  | case2 c cs ih =>
      have whole := flatMap_text_pieces (cs.drop (extent c cs).2)
      rw [pieces]
      by_cases unexpected : (extent c cs).1 = .unexpectedFragment
      · refine .join unexpected (List.cons_ne_nil _ _) ?_ ih
        rw [whole, List.cons_append, List.take_append_drop]
        exact unmatched_of_extent unexpected
      · have first := longest_extent unexpected
        rw [← whole, ← flatMap_text_joinUnexpected] at first
        rw [joinUnexpected_cons unexpected]
        exact .word first ih

theorem Covers.cons_gap {place : Place} {kind : Kind} {word text : List Char} {ts : List Token}
    (hk : kind.isTrivia = true) (hw : Longest kind word text) (h : Covers (place.after word) text ts) :
    Covers place (word ++ text) ts := by
  cases h with
  | gap hg =>
      refine .gap (.cons hk ?_ hg)
      rwa [List.append_nil]
  | @token _ gap behind t ts hg hs hl hp rest =>
      rw [List.append_assoc] at hw
      rw [← Place.after_append] at hl rest
      rw [← List.append_assoc, ← List.append_assoc]
      rw [← List.append_assoc] at rest
      exact .token (.cons hk hw hg) hs hl hp rest

theorem Covers.cons_token {place : Place} {behind : List Char} {t : Token} {ts : List Token}
    (hs : t.StandsBefore behind) (hl : t.location = place.covering t.text.toList)
    (hp : ∀ u ∈ ts, t.Precedes u) (h : Covers (place.after t.text.toList) behind ts) :
    Covers place (t.text.toList ++ behind) (t :: ts) :=
  @Covers.token place [] behind t ts .nil hs hl hp h

theorem start_le_of_mem_locate {place : Place} {ps : List Piece} {t : Token} (h : t ∈ locate place ps) :
    place.offset ≤ t.location.span.start :=
  (locates_of_mem_locate h).span.1

section

variable {place : Place} {p : Piece} {ps : List Piece}

theorem Cut.standsBefore (h : Cut (p :: ps)) (kept : p.kind.isTrivia = false) (l : Location) :
    Token.StandsBefore ⟨p.kind, String.ofList p.text, l⟩ (ps.flatMap (·.text)) where
  nonempty := fun none => h.text_ne_nil (String.ofList_eq_empty_iff.mp none)
  kept := kept
  longest := by
    intro token
    cases h with
    | word hl _ => rwa [String.toList_ofList]
    | fragment hk _ _ _ _ => exact absurd hk token
  unmatched := by
    intro fragment
    cases h with
    | word hl _ => exact absurd fragment hl.spells.kind_ne
    | fragment _ _ hu _ _ => rwa [String.toList_ofList]

theorem Cut.precedes (h : Cut (p :: ps)) {u : Token} (member : u ∈ locate (place.after p.text) ps) :
    Token.Precedes ⟨p.kind, String.ofList p.text, place.covering p.text⟩ u where
  stop_le := start_le_of_mem_locate member
  apart := by
    intro hp hu
    cases h with
    | word hl _ => exact absurd hp hl.spells.kind_ne
    | @fragment _ ps _ _ _ other hm =>
        -- What stands directly behind is no fragment and keeps those that follow apart.
        cases ps with
        | nil => cases member
        | cons q more =>
            rcases List.mem_cons.mp member with rfl | later
            · exact absurd hu (other q rfl)
            · have behind := start_le_of_mem_locate later
              have long := byteLength_pos hm.text_ne_nil
              simp only [Place.after, Place.covering] at behind ⊢
              omega

theorem Cut.covers (h : Cut ps) (place : Place) :
    Covers place (ps.flatMap (·.text)) ((locate place ps).filter (!·.kind.isTrivia)) := by
  induction ps generalizing place with
  | nil => exact .gap .nil
  | cons p ps ih =>
      have rest := ih h.tail (place.after p.text)
      rw [locate, List.flatMap_cons]
      by_cases trivia : p.kind.isTrivia = true
      · rw [List.filter_cons_of_neg (by simp [trivia])]
        cases h with
        | word hw _ => exact rest.cons_gap trivia hw
        | fragment hk _ _ _ _ =>
            rw [hk] at trivia
            cases trivia
      · rw [List.filter_cons_of_pos (by simp [trivia])]
        have kept := h.standsBefore (eq_false_of_ne_true trivia) (place.covering p.text)
        have text : (String.ofList p.text).toList = p.text := String.toList_ofList
        have covered := Covers.cons_token kept (by rw [text])
          (fun u member => h.precedes (List.mem_filter.mp member).1) (by rwa [text])
        rwa [text] at covered

end

theorem covers_scan (origin : Place) (text : List Char) : Covers origin text (scan origin text) := by
  have covered := (cut_joinUnexpected_pieces text).covers origin
  rwa [flatMap_text_joinUnexpected, flatMap_text_pieces] at covered

/-- Some of the tokens end where the gap in front of the others starts. -/
theorem Covers.split {place : Place} {text : List Char} {front back : List Token}
    (h : Covers place text (front ++ back)) :
    ∃ before behind, text = before ++ behind ∧ Covers (place.after before) behind back ∧
      (place.after before).offset = (front.getLast?.map (·.location.span.stop)).getD place.offset := by
  induction front generalizing place text with
  | nil => exact ⟨[], text, rfl, h, rfl⟩
  | cons t front ih =>
      cases h with
      | @token _ gap behind _ _ hg hs hl hp rest =>
          obtain ⟨before, behind, rfl, hb, stop⟩ := ih rest
          refine ⟨gap ++ t.text.toList ++ before, behind, ?_, ?_, ?_⟩
          · rw [List.append_assoc, List.append_assoc, List.append_assoc]
          · rwa [Place.after_append]
          · rw [Place.after_append, stop, List.getLast?_cons]
            cases front.getLast? with
            | none =>
                rw [Place.after_append, Option.map_some, Option.getD_none, hl]
                rfl
            | some u => rfl

theorem Covers.pairwise {place : Place} {text : List Char} {ts : List Token} (h : Covers place text ts) :
    ts.Pairwise Token.Precedes := by
  induction h with
  | gap _ => exact .nil
  | token _ _ _ hp _ ih => exact .cons hp ih

theorem standsBefore_of_mem_scan {origin : Place} {text : List Char} {t : Token} (h : t ∈ scan origin text) :
    ∃ before behind, text = before ++ t.text.toList ++ behind ∧
      t.location = (origin.after before).covering t.text.toList ∧ t.StandsBefore behind := by
  have covered := covers_scan origin text
  obtain ⟨front, back, whole⟩ := List.append_of_mem h
  rw [whole] at covered
  obtain ⟨before, behind, rfl, rest, -⟩ := covered.split
  cases rest with
  | @token _ gap behind _ _ _ hs hl _ _ =>
      refine ⟨before ++ gap, behind, ?_, ?_, hs⟩
      · simp only [List.append_assoc]
      · rwa [Place.after_append]

theorem start_lt_stop_of_mem_scan {origin : Place} {text : List Char} {t : Token} (h : t ∈ scan origin text) :
    t.location.span.start < t.location.span.stop := by
  obtain ⟨_, _, -, located, stands⟩ := standsBefore_of_mem_scan h
  have some : t.text.toList ≠ [] := fun none => stands.nonempty (String.toList_eq_nil_iff.mp none)
  rw [located]
  exact Nat.lt_add_of_pos_right (byteLength_pos some)

theorem pairwise_start_scan (origin : Place) (text : List Char) :
    (scan origin text).Pairwise fun t u => t.location.span.start < u.location.span.start := by
  refine (covers_scan origin text).pairwise.imp_of_mem fun member _ precedes => ?_
  exact Nat.lt_of_lt_of_le (start_lt_stop_of_mem_scan member) precedes.stop_le

/-- A piece holds a name where its kind says so. -/
def Piece.Named (p : Piece) : Prop :=
  (p.kind = .name → IsName p.text ∧ p.text ≠ ['o', 'r']) ∧
    (p.kind.isReference = true → IsName (p.text.drop 1))

theorem Piece.Named.of_other {p : Piece} (hn : p.kind ≠ .name) (hr : p.kind.isReference = false) :
    p.Named := by
  refine ⟨fun h => absurd h hn, fun h => ?_⟩
  rw [hr] at h
  cases h

theorem Spells.named {kind : Kind} {word : List Char} (h : Spells kind word)
    (alternator : word = ['o', 'r'] → kind = .alternator) : Piece.Named ⟨kind, word⟩ := by
  have marks : ∀ mark ∈ Notation.punctuation, mark.2 ≠ .name ∧ mark.2.isReference = false := by decide
  have references : ∀ sigil ∈ sigils, sigil.2 ≠ .name := by decide
  cases h with
  | punctuation h => exact .of_other (marks _ h).1 (marks _ h).2
  | reference h hn => exact ⟨fun hk => absurd hk (references _ h), fun _ => hn⟩
  | name hn => exact ⟨fun _ => ⟨hn, fun same => nomatch alternator same⟩, nofun⟩
  | or | literal | whitespace | lineComment => exact .of_other nofun rfl

theorem named_of_mem_scan {origin : Place} {text : List Char} {t : Token} (h : t ∈ scan origin text) :
    t.piece.Named := by
  obtain ⟨_, behind, -, -, stands⟩ := standsBefore_of_mem_scan h
  by_cases token : t.kind = .unexpectedFragment
  · exact .of_other (fun name => nomatch token.symm.trans name) (congrArg Kind.isReference token)
  · have longest := stands.longest token
    exact longest.spells.named longest.or

/-- Where the last of the tokens ends, or where the text starts if there is none. -/
def endOf (ts : List Token) : Nat := (ts.getLast?.map (·.location.span.stop)).getD 0

/-- Where the first of the tokens starts, or where the text ends if there is none. -/
def startOf (text : List Char) (ts : List Token) : Nat :=
  (ts.head?.map (·.location.span.start)).getD (byteLength text)

theorem gap_of_scan {text : List Char} {front back : List Token} (h : scan .start text = front ++ back) :
    ∃ before gap behind, text = before ++ gap ++ behind ∧ byteLength before = endOf front ∧
      byteLength (before ++ gap) = startOf text back ∧ Gap gap behind := by
  have covered := covers_scan .start text
  rw [h] at covered
  obtain ⟨before, behind, rfl, rest, stop⟩ := covered.split
  rw [Place.after, Place.start, Nat.zero_add] at stop
  cases rest with
  | gap hg => exact ⟨before, behind, [], by rw [List.append_nil], stop, rfl, hg⟩
  | @token _ gap behind t ts hg hs hl _ _ =>
      refine ⟨before, gap, t.text.toList ++ behind, by simp only [List.append_assoc], stop, ?_, hg⟩
      rw [startOf, List.head?_cons, Option.map_some, Option.getD_some, hl, byteLength_append]
      simp only [Place.covering, Place.after, Place.start, Nat.zero_add]

/-- A token is some characters of the text at its span, and it is the longest word that a rule allows there,
under the kind of that rule, or a fragment where no rule allows any. The tokens follow one another, and what
is in front of them, between them and behind them are blanks and comments. -/
theorem tokens_cover_text (text : List Char) :
    (∀ t ∈ scan .start text,
      (∃ before behind, text = before ++ t.text.toList ++ behind ∧
        t.location.span = ⟨byteLength before, byteLength (before ++ t.text.toList)⟩ ∧
        t.StandsBefore behind) ∧
      t.location.span.start < t.location.span.stop ∧
      t.location.position = Position.ofOffset text t.location.span.start) ∧
    (scan .start text).Pairwise Token.Precedes ∧
    ∀ front back, scan .start text = front ++ back →
      ∃ before gap behind, text = before ++ gap ++ behind ∧ byteLength before = endOf front ∧
        byteLength (before ++ gap) = startOf text back ∧ Gap gap behind := by
  refine ⟨fun t member => ?_, (covers_scan .start text).pairwise, fun front back => gap_of_scan⟩
  obtain ⟨before, behind, rfl, hl, hs⟩ := standsBefore_of_mem_scan member
  have place := Place.inText_append before (t.text.toList ++ behind)
  rw [← List.append_assoc] at place
  refine ⟨⟨before, behind, rfl, ?_, hs⟩, start_lt_stop_of_mem_scan member, ?_⟩
  · rw [hl, ← place, byteLength_append]
    rfl
  · rw [hl, ← place]
    rfl

/-- Here a fragment touches a literal and a name. -/
def mixture : List Char := "or\t// ~é\n\"a//\\\"\"é$order".toList

theorem scan_mixture : scan .start mixture =
    [⟨.alternator, "or", ⟨⟨0, 2⟩, ⟨1, 1⟩⟩⟩, ⟨.literal, "\"a//\\\"\"", ⟨⟨10, 17⟩, ⟨2, 1⟩⟩⟩,
      ⟨.unexpectedFragment, "é$", ⟨⟨17, 20⟩, ⟨2, 8⟩⟩⟩, ⟨.name, "order", ⟨⟨20, 25⟩, ⟨2, 10⟩⟩⟩] := by
  decide +kernel

theorem tokens_cover_mixture :
    (∃ before behind, mixture = before ++ "order".toList ++ behind ∧ Longest .name "order".toList behind) ∧
    (∃ before behind, mixture = before ++ "é$".toList ++ behind ∧ Unmatched ("é$".toList ++ behind)) ∧
    (∃ before gap behind, mixture = before ++ gap ++ behind ∧ byteLength before = 2 ∧
      byteLength (before ++ gap) = 10 ∧ Gap gap behind) ∧
    Position.ofOffset mixture 20 = ⟨2, 10⟩ := by
  obtain ⟨tokens, -, gaps⟩ := tokens_cover_text mixture
  rw [scan_mixture] at tokens gaps
  obtain ⟨⟨before, behind, whole, -, name⟩, -, position⟩ :=
    tokens ⟨.name, "order", ⟨⟨20, 25⟩, ⟨2, 10⟩⟩⟩ (by simp)
  obtain ⟨⟨before', behind', whole', -, fragment⟩, -⟩ :=
    tokens ⟨.unexpectedFragment, "é$", ⟨⟨17, 20⟩, ⟨2, 8⟩⟩⟩ (by simp)
  exact ⟨⟨before, behind, whole, name.longest nofun⟩, ⟨before', behind', whole', fragment.unmatched rfl⟩,
    gaps [⟨.alternator, "or", ⟨⟨0, 2⟩, ⟨1, 1⟩⟩⟩] _ rfl, position.symm⟩

end TokenGrammar.Notation
