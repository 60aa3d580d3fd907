import TokenGrammar.Text.Position

/-!
# Places by counting

A position can be had in three ways: by walking over the text in front of it, by searching the whole text
for a byte offset, and by counting line feeds and the characters behind the last of them. Main statements:
the three agree. A location is that of a piece of a text if it starts where walking over the text in front
of the piece leads.
-/
namespace TokenGrammar

theorem byteLength_pos {text : List Char} (h : text ≠ []) : 0 < byteLength text := by
  cases text with
  | nil => exact absurd rfl h
  | cons c cs => exact Nat.lt_of_lt_of_le c.utf8Size_pos (Nat.le_add_right _ _)

/-- Of two fronts of a text the longer one goes on from the other. -/
theorem exists_between {front back front' back' : List Char} (same : front ++ back = front' ++ back')
    (order : byteLength front < byteLength front') : ∃ piece, piece ≠ [] ∧ front' = front ++ piece := by
  rcases List.append_eq_append_iff.mp same with ⟨piece, rfl, -⟩ | ⟨piece, rfl, -⟩
  · refine ⟨piece, fun none => ?_, rfl⟩
    rw [none, List.append_nil] at order
    exact Nat.lt_irrefl _ order
  · rw [byteLength_append] at order
    omega

theorem characterCount?_eq_some {text : List Char} {bytes n : Nat} :
    characterCount? text bytes = some n ↔ n ≤ text.length ∧ byteLength (text.take n) = bytes := by
  induction text generalizing bytes n with
  | nil =>
      cases bytes with
      | zero =>
          simp only [characterCount?, Option.some.injEq, List.length_nil, Nat.le_zero, List.take_nil,
            byteLength, and_true]
          exact eq_comm
      | succ bytes => simp [characterCount?, byteLength]
  | cons c cs ih =>
      have positive := c.utf8Size_pos
      cases n with
      | zero =>
          cases bytes with
          | zero => simp [characterCount?, byteLength]
          | succ bytes =>
              simp only [characterCount?, List.take_zero, byteLength]
              split <;> simp
      | succ n =>
          cases bytes with
          | zero =>
              simp only [characterCount?, List.take_succ_cons, byteLength]
              refine iff_of_false (by simp) fun h => ?_
              omega
          | succ bytes =>
              simp only [characterCount?, List.take_succ_cons, byteLength, List.length_cons]
              split
              · next fits =>
                  simp only [Option.map_eq_some_iff, Nat.add_right_cancel_iff, exists_eq_right, ih]
                  omega
              · next short =>
                  refine iff_of_false (by simp) fun h => ?_
                  omega

namespace Position

/-- A line for each line feed, and a column for each character since the last of them. -/
def counted (before : List Char) : Position :=
  ⟨before.count '\n' + 1, (before.reverse.takeWhile (· ≠ '\n')).length + 1⟩

theorem counted_concat (before : List Char) (c : Char) :
    counted (before ++ [c]) = (counted before).next c := by
  by_cases h : c = '\n' <;> simp [counted, next, h]

theorem start_after (text : List Char) : start.after text = counted text := by
  suffices walk : ∀ before, (counted before).after text = counted (before ++ text) from walk []
  induction text with
  | nil => simp [after]
  | cons c cs ih =>
      intro before
      have stepped := ih (before ++ [c])
      rw [counted_concat, List.append_assoc, List.singleton_append] at stepped
      exact stepped

theorem after_of_not_mem {text : List Char} (h : '\n' ∉ text) (p : Position) :
    p.after text = ⟨p.line, p.column + text.length⟩ := by
  induction text generalizing p with
  | nil => rfl
  | cons c cs ih =>
      rw [List.mem_cons, not_or] at h
      have first : p.after (c :: cs) = (p.next c).after cs := rfl
      rw [first, ih h.2, next, if_neg (Ne.symm h.1), List.length_cons, Nat.add_assoc, Nat.add_comm 1]

theorem after_newline {text : List Char} (h : '\n' ∉ text) (p : Position) :
    p.after (text ++ ['\n']) = ⟨p.line + 1, 1⟩ := by
  rw [after_append, after_of_not_mem h]
  rfl

theorem ofOffset_go_append (p : Position) (lineBytes : Nat) (before behind : List Char) :
    ofOffset.go p lineBytes (before ++ behind) (byteLength before) = p.after before := by
  induction before generalizing p lineBytes with
  | nil => cases behind <;> rfl
  | cons c cs ih =>
      have positive := c.utf8Size_pos
      have some : ¬ c.utf8Size + byteLength cs = 0 := by omega
      have far : ¬ c.utf8Size + byteLength cs < c.utf8Size := by omega
      rw [List.cons_append, ofOffset.go, byteLength, if_neg some, if_neg far, Nat.add_sub_cancel_left, ih]
      rfl

/-- The position of an offset is where walking over the bytes in front of it leads. -/
theorem ofOffset_append (before behind : List Char) :
    ofOffset (before ++ behind) (byteLength before) = start.after before :=
  ofOffset_go_append start 0 before behind

end Position

namespace Place

/-- In a text that starts at the origin, a piece of the text is located there. -/
def Locates (origin : Place) (text piece : List Char) (l : Location) : Prop :=
  ∃ front back, text = front ++ piece ++ back ∧ l = (origin.after front).covering piece

variable {origin : Place} {text piece : List Char} {l : Location}

theorem Locates.span (h : origin.Locates text piece l) :
    origin.offset ≤ l.span.start ∧ l.span.start ≤ l.span.stop ∧
      l.span.stop ≤ origin.offset + byteLength text := by
  obtain ⟨front, back, rfl, rfl⟩ := h
  simp only [covering, after, byteLength_append]
  omega

/-- The piece has the same location in any text around. -/
theorem Locates.widen {before : List Char} (h : (origin.after before).Locates text piece l)
    (behind : List Char) : origin.Locates (before ++ text ++ behind) piece l := by
  obtain ⟨front, back, rfl, rfl⟩ := h
  refine ⟨before ++ front, back ++ behind, ?_, ?_⟩
  · simp only [List.append_assoc]
  · rw [after_append]

/-- Walking over a front of the text leads to the place. -/
def IsIn (p : Place) (text : List Char) : Prop := ∃ front back, text = front ++ back ∧ p = start.after front

/-- The place of a byte offset in a text. -/
def inText (whole : List Char) (offset : Nat) : Place := ⟨offset, Position.ofOffset whole offset⟩

theorem inText_append (before behind : List Char) :
    inText (before ++ behind) (byteLength before) = start.after before := by
  rw [inText, Position.ofOffset_append, after]
  simp only [start, Nat.zero_add]

end Place

/-- The location is that of a piece of the text: its span is where the piece is, and its position is the
position of the span's start. -/
def Location.Marks (l : Location) (piece whole : List Char) : Prop :=
  ∃ before behind, whole = before ++ piece ++ behind ∧
    l.span = ⟨byteLength before, byteLength before + byteLength piece⟩ ∧
    l.position = Position.ofOffset whole l.span.start

theorem Place.Locates.marks {whole piece : List Char} {l : Location} (h : start.Locates whole piece l) :
    l.Marks piece whole := by
  obtain ⟨front, back, rfl, rfl⟩ := h
  have place := inText_append front (piece ++ back)
  rw [← List.append_assoc] at place
  rw [← place]
  exact ⟨front, back, rfl, rfl, rfl⟩

end TokenGrammar
