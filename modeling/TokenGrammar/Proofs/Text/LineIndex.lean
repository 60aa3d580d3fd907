import Mathlib.Data.List.Induction
import TokenGrammar.Proofs.Text.Places
import TokenGrammar.Text.LineIndex

/-!
# Looking up positions

What a table of line starts tells of an offset is what walking over the text in front of it tells. Main
statement: the search always finds a line, the position it leads to is that of the offset, by counting line
feeds and characters, and positions are in the order of the offsets between characters.
-/
namespace TokenGrammar

theorem bisect_eq {p : Nat → Bool} {lo hi k : Nat} (low : lo ≤ k) (high : k ≤ hi)
    (before : ∀ i < k, p i = true) (behind : ∀ i, k ≤ i → i < hi → p i = false) : bisect p lo hi = k := by
  fun_induction bisect p lo hi with
  | case1 lo hi some mid left ih =>
      have inside : mid < hi := by omega
      have passed : mid < k := by
        refine Nat.lt_of_not_le fun reached => ?_
        rw [behind mid reached inside] at left
        cases left
      exact ih passed high behind
  | case2 lo hi some mid right ih =>
      have inside : mid < hi := by omega
      have reached : k ≤ mid := Nat.le_of_not_lt fun passed => right (before mid passed)
      exact ih low reached fun i from_ upTo => behind i from_ (Nat.lt_trans upTo inside)
  | case3 lo hi none => omega

theorem searchSorted_append {front back : List Nat} {n : Nat} (less : ∀ x ∈ front, x < n)
    (more : ∀ x ∈ back, n ≤ x) :
    searchSorted (front ++ back).toArray n =
      if back.head? = some n then .ok front.length else .error front.length := by
  have found : bisect (fun i => (front ++ back).toArray[i]?.any (· < n)) 0 (front ++ back).toArray.size =
      front.length := by
    apply bisect_eq (Nat.zero_le _) (by simp)
    · intro i early
      rw [List.getElem?_toArray, List.getElem?_append_left early, List.getElem?_eq_getElem early]
      simpa using less _ (List.getElem_mem early)
    · intro i late inside
      simp only [List.size_toArray, List.length_append] at inside
      have member : back[i - front.length] ∈ back := List.getElem_mem (by omega)
      simpa [List.getElem?_append_right late, List.getElem?_eq_getElem (show i - front.length < back.length by omega)]
        using more _ member
  rw [searchSorted, found, List.getElem?_toArray, List.getElem?_append_right (Nat.le_refl _), Nat.sub_self,
    List.head?_eq_getElem?]

theorem openedLineStarts_append (offset : Nat) (s t : List Char) :
    openedLineStarts offset (s ++ t) =
      openedLineStarts offset s ++ openedLineStarts (offset + byteLength s) t := by
  induction s generalizing offset with
  | nil => rfl
  | cons c s ih =>
      simp only [List.cons_append, openedLineStarts, byteLength, ih, ← Nat.add_assoc]
      split <;> rfl

theorem openedLineStarts_of_not_mem {text : List Char} (h : '\n' ∉ text) (offset : Nat) :
    openedLineStarts offset text = [] := by
  induction text generalizing offset with
  | nil => rfl
  | cons c cs ih =>
      rw [List.mem_cons, not_or] at h
      rw [openedLineStarts, if_neg (Ne.symm h.1), ih h.2]

theorem length_openedLineStarts (offset : Nat) (text : List Char) :
    (openedLineStarts offset text).length = text.count '\n' := by
  induction text generalizing offset with
  | nil => rfl
  | cons c cs ih =>
      rw [openedLineStarts]
      by_cases h : c = '\n'
      · simp [h, ih]
      · simp [h, ih]

theorem bounds_of_mem_openedLineStarts {offset x : Nat} {text : List Char}
    (h : x ∈ openedLineStarts offset text) : offset < x ∧ x ≤ offset + byteLength text := by
  induction text generalizing offset with
  | nil => cases h
  | cons c cs ih =>
      have positive := c.utf8Size_pos
      have later (h : x ∈ openedLineStarts (offset + c.utf8Size) cs) :
          offset < x ∧ x ≤ offset + byteLength (c :: cs) := by
        obtain ⟨low, high⟩ := ih h
        rw [byteLength]
        omega
      rw [openedLineStarts] at h
      split at h
      · rcases List.mem_cons.mp h with rfl | h
        · rw [byteLength]
          omega
        · exact later h
      · exact later h

/-- What stands in front of a line: nothing, or lines with their line feeds. -/
def FullLines (text : List Char) : Prop := text = [] ∨ ∃ front, text = front ++ ['\n']

theorem exists_fullLines (text : List Char) :
    ∃ lines current, text = lines ++ current ∧ FullLines lines ∧ '\n' ∉ current := by
  induction text using List.reverseRecOn with
  | nil => exact ⟨[], [], rfl, .inl rfl, List.not_mem_nil⟩
  | append_singleton text c ih =>
      by_cases h : c = '\n'
      · subst h
        exact ⟨text ++ ['\n'], [], (List.append_nil _).symm, .inr ⟨text, rfl⟩, List.not_mem_nil⟩
      · obtain ⟨lines, current, rfl, full, clean⟩ := ih
        refine ⟨lines, current ++ [c], List.append_assoc .., full, ?_⟩
        rw [List.mem_append, List.mem_singleton, not_or]
        exact ⟨clean, Ne.symm h⟩

/-- The last of the lines' starts is that of the line behind them. -/
theorem FullLines.starts {lines : List Char} (h : FullLines lines) :
    ∃ firsts, 0 :: openedLineStarts 0 lines = firsts ++ [byteLength lines] ∧
      (∀ x ∈ firsts, x < byteLength lines) ∧ firsts.length = lines.count '\n' := by
  rcases h with rfl | ⟨front, rfl⟩
  · exact ⟨[], rfl, nofun, rfl⟩
  · refine ⟨0 :: openedLineStarts 0 front, ?_, ?_, ?_⟩
    · rw [openedLineStarts_append, byteLength_append, Nat.zero_add, List.cons_append]
      rfl
    · have some : byteLength (front ++ ['\n']) = byteLength front + 1 := by
        rw [byteLength_append]
        rfl
      rw [some]
      intro x member
      rcases List.mem_cons.mp member with rfl | member
      · exact Nat.succ_pos _
      · have bounds := bounds_of_mem_openedLineStarts member
        omega
    · rw [List.length_cons, length_openedLineStarts]
      simp

/-- The offset points between two characters of a text, or at its end, or behind the first byte of a character
that the rest starts with. -/
def PointsInto (k : Nat) (rest : List Char) : Prop := k = 0 ∨ ∃ c cs, rest = c :: cs ∧ k < c.utf8Size

theorem PointsInto.lt_openedLineStarts {k : Nat} {rest : List Char} (h : PointsInto k rest) (offset : Nat) :
    ∀ x ∈ openedLineStarts offset rest, offset + k < x := by
  intro x member
  rcases h with rfl | ⟨c, cs, rfl, inside⟩
  · exact (bounds_of_mem_openedLineStarts member).1
  · rw [openedLineStarts] at member
    split at member
    · next newline =>
        -- A line feed is a single byte, so nothing points behind its first one.
        subst newline
        have size : '\n'.utf8Size = 1 := rfl
        rcases List.mem_cons.mp member with rfl | later
        · omega
        · have bounds := bounds_of_mem_openedLineStarts later
          omega
    · have bounds := bounds_of_mem_openedLineStarts member
      omega

theorem exists_pointsInto {text : List Char} {offset : Nat} (h : offset ≤ byteLength text) :
    ∃ before rest k, text = before ++ rest ∧ offset = byteLength before + k ∧ PointsInto k rest := by
  induction text generalizing offset with
  | nil => exact ⟨[], [], 0, rfl, by simpa [byteLength] using h, .inl rfl⟩
  | cons c cs ih =>
      by_cases inside : offset < c.utf8Size
      · exact ⟨[], c :: cs, offset, rfl, (Nat.zero_add _).symm, .inr ⟨c, cs, rfl, inside⟩⟩
      · rw [byteLength] at h
        obtain ⟨before, rest, k, rfl, same, points⟩ := ih (show offset - c.utf8Size ≤ byteLength cs by omega)
        refine ⟨c :: before, rest, k, rfl, ?_, points⟩
        rw [byteLength]
        omega

theorem characterCount?_append (s t : List Char) (k : Nat) :
    characterCount? (s ++ t) (byteLength s + k) = (characterCount? t k).map (· + s.length) := by
  induction s with
  | nil => simp [byteLength]
  | cons c s ih =>
      have positive := c.utf8Size_pos
      have bytes : byteLength (c :: s) + k = (c.utf8Size + byteLength s + k - 1) + 1 := by
        rw [byteLength]
        omega
      have behind : c.utf8Size + byteLength s + k - 1 + 1 - c.utf8Size = byteLength s + k := by omega
      have counted : characterCount? (c :: (s ++ t)) (c.utf8Size + byteLength s + k - 1 + 1) =
          (characterCount? (s ++ t) (c.utf8Size + byteLength s + k - 1 + 1 - c.utf8Size)).map (· + 1) :=
        if_pos (by omega)
      rw [bytes, List.cons_append, counted, behind, ih, Option.map_map, List.length_cons]
      rfl

theorem characterCount?_inside {c : Char} {k : Nat} (some : 0 < k) (inside : k < c.utf8Size) (cs : List Char) :
    characterCount? (c :: cs) k = none := by
  cases k with
  | zero => cases some
  | succ k => exact if_neg (Nat.not_le_of_lt inside)

namespace Position

/-- The bytes of the last line of a text, if its first line goes on from so many. -/
def lineBytesAfter (lineBytes : Nat) (text : List Char) : Nat :=
  text.foldl (fun n c => if c = '\n' then 0 else n + c.utf8Size) lineBytes

theorem lineBytesAfter_fullLines {lines : List Char} (h : FullLines lines) : lineBytesAfter 0 lines = 0 := by
  rcases h with rfl | ⟨front, rfl⟩
  · rfl
  · rw [lineBytesAfter, List.foldl_append]
    rfl

theorem lineBytesAfter_of_not_mem {text : List Char} (h : '\n' ∉ text) (lineBytes : Nat) :
    lineBytesAfter lineBytes text = lineBytes + byteLength text := by
  induction text generalizing lineBytes with
  | nil => rfl
  | cons c cs ih =>
      rw [List.mem_cons, not_or] at h
      have further := ih h.2 (lineBytes + c.utf8Size)
      rw [lineBytesAfter] at further ⊢
      rw [List.foldl_cons, if_neg (Ne.symm h.1), further, byteLength, Nat.add_assoc]

theorem ofOffset_go_add (p : Position) (lineBytes : Nat) (s t : List Char) (k : Nat) :
    ofOffset.go p lineBytes (s ++ t) (byteLength s + k) =
      ofOffset.go (p.after s) (lineBytesAfter lineBytes s) t k := by
  induction s generalizing p lineBytes with
  | nil =>
      rw [byteLength, Nat.zero_add]
      rfl
  | cons c s ih =>
      have positive := c.utf8Size_pos
      have some : ¬ c.utf8Size + byteLength s + k = 0 := by omega
      have far : ¬ c.utf8Size + byteLength s + k < c.utf8Size := by omega
      have behind : c.utf8Size + byteLength s + k - c.utf8Size = byteLength s + k := by omega
      rw [List.cons_append, ofOffset.go, byteLength, if_neg some, if_neg far, behind, ih]
      rfl

/-- From the end of a text on there is one position. -/
theorem ofOffset_of_le {text : List Char} {offset : Nat} (h : byteLength text ≤ offset) :
    ofOffset text offset = start.after text := by
  obtain ⟨k, rfl⟩ := Nat.exists_eq_add_of_le h
  have walked := ofOffset_go_add start 0 text [] k
  rw [List.append_nil] at walked
  exact walked

theorem lt_trans {p q r : Position} (h : p < q) (h' : q < r) : p < r := by
  change p.lt q at h
  change q.lt r at h'
  change p.lt r
  unfold lt at *
  omega

theorem lt_irrefl (p : Position) : ¬ p < p := by
  change ¬ p.lt p
  unfold lt
  omega

theorem lt_next (p : Position) (c : Char) : p < p.next c := by
  change p.lt (p.next c)
  unfold lt next
  split
  · exact .inl (Nat.lt_succ_self _)
  · exact .inr ⟨rfl, Nat.lt_succ_self _⟩

theorem lt_after (p : Position) {text : List Char} (some : text ≠ []) : p < p.after text := by
  induction text generalizing p with
  | nil => exact absurd rfl some
  | cons c cs ih =>
      cases cs with
      | nil => exact p.lt_next c
      | cons d cs => exact lt_trans (p.lt_next c) (ih (p.next c) (List.cons_ne_nil d cs))

end Position

namespace LineIndex

variable {lines current rest : List Char} {k : Nat}

section

variable (full : FullLines lines) (clean : '\n' ∉ current) (points : PointsInto k rest)
include full clean points

/-- The line of an offset is the one behind as many line feeds as there are in front of it. -/
theorem line?_of_fullLines :
    (ofText (lines ++ (current ++ rest))).line? (byteLength lines + (byteLength current + k)) =
        some (lines.count '\n') ∧
      (ofText (lines ++ (current ++ rest))).starts[lines.count '\n']? = some (byteLength lines) := by
  obtain ⟨firsts, own, less, length⟩ := full.starts
  have later := points.lt_openedLineStarts (byteLength lines + byteLength current)
  have starts : 0 :: openedLineStarts 0 (lines ++ (current ++ rest)) =
      firsts ++ byteLength lines :: openedLineStarts (byteLength lines + byteLength current) rest := by
    rw [openedLineStarts_append, openedLineStarts_append, openedLineStarts_of_not_mem clean, Nat.zero_add,
      List.nil_append, ← List.cons_append, own, List.append_assoc, List.singleton_append]
  generalize openedLineStarts (byteLength lines + byteLength current) rest = others at later starts
  rw [← Nat.add_assoc, line?, ofText, starts, ← length]
  refine ⟨?_, by simp⟩
  by_cases first : byteLength lines + byteLength current + k = byteLength lines
  · -- The offset is the start of its line, which the search hits.
    rw [first] at later ⊢
    rw [searchSorted_append less]
    · simp
    · exact List.forall_mem_cons.mpr ⟨Nat.le_refl _, fun x member => Nat.le_of_lt (later x member)⟩
  · -- Otherwise it would have to be put in behind that start.
    have behind : byteLength lines < byteLength lines + byteLength current + k := by omega
    rw [List.append_cons, searchSorted_append]
    · have missed : others.head? ≠ some (byteLength lines + byteLength current + k) :=
        fun hit => Nat.lt_irrefl _ (later _ (List.mem_of_mem_head? hit))
      simp [missed]
    · intro x member
      rcases List.mem_append.mp member with early | last
      · exact Nat.lt_trans (less x early) behind
      · rwa [List.mem_singleton.mp last]
    · exact fun x member => Nat.le_of_lt (later x member)

theorem position?_of_fullLines :
    (ofText (lines ++ (current ++ rest))).position? (byteLength lines + (byteLength current + k)) =
      some (Position.ofOffset (lines ++ (current ++ rest)) (byteLength lines + (byteLength current + k))) := by
  obtain ⟨line, start⟩ := line?_of_fullLines full clean points
  have inside : byteLength lines + (byteLength current + k) ≤ byteLength (lines ++ (current ++ rest)) := by
    rw [byteLength_append, byteLength_append]
    rcases points with rfl | ⟨c, cs, rfl, within⟩
    · omega
    · rw [byteLength]
      omega
  have counted := characterCount?_append lines (current ++ rest) 0
  rw [Nat.add_zero, show characterCount? (current ++ rest) 0 = some 0 by cases current ++ rest <;> rfl,
    Option.map_some, Nat.zero_add] at counted
  have text : (ofText (lines ++ (current ++ rest))).text = lines ++ (current ++ rest) := rfl
  have ahead : Position.start.after (lines ++ current) =
      ⟨lines.count '\n' + 1, current.length + 1⟩ := by
    rw [Position.after_append, Position.after_of_not_mem clean]
    rcases full with rfl | ⟨front, rfl⟩
    · rw [List.count_nil, Nat.add_comm]
      rfl
    · rw [Position.start_after, Position.counted_concat]
      simp [Position.counted, Position.next, Nat.add_comm]
  rw [position?, text, Nat.min_eq_left inside, line]
  simp only [Option.bind_eq_bind, Option.bind_some, start, Nat.le_add_right, if_true, charactersBetween?, counted,
    List.drop_left, Nat.add_sub_cancel_left, characterCount?_append]
  rw [Position.ofOffset, Position.ofOffset_go_add, Position.ofOffset_go_add, ← Position.after_append, ahead,
    Position.lineBytesAfter_fullLines full, Position.lineBytesAfter_of_not_mem clean, Nat.zero_add]
  by_cases between : k = 0
  · subst between
    cases rest <;> simp [characterCount?, Position.ofOffset.go]
  · rcases points with none | ⟨c, cs, rfl, within⟩
    · exact absurd none between
    · rw [characterCount?_inside (Nat.pos_of_ne_zero between) within, Position.ofOffset.go, if_neg between,
        if_pos within]
      rfl

end

theorem position?_of_le {text : List Char} {offset : Nat} (h : byteLength text ≤ offset) :
    (ofText text).position? offset = (ofText text).position? (byteLength text) := by
  have own : (ofText text).text = text := rfl
  simp only [position?, own, Nat.min_eq_right h, Nat.min_self]

/-- Looking an offset up never fails, and gives the position that walking over the text gives. -/
theorem position?_ofText (text : List Char) (offset : Nat) :
    (ofText text).position? offset = some (Position.ofOffset text offset) := by
  have inside {offset : Nat} (h : offset ≤ byteLength text) :
      (ofText text).position? offset = some (Position.ofOffset text offset) := by
    obtain ⟨before, rest, k, rfl, rfl, points⟩ := exists_pointsInto h
    obtain ⟨lines, current, rfl, full, clean⟩ := exists_fullLines before
    rw [byteLength_append, List.append_assoc, Nat.add_assoc]
    exact position?_of_fullLines full clean points
  by_cases h : offset ≤ byteLength text
  · exact inside h
  · have past : byteLength text ≤ offset := Nat.le_of_not_le h
    rw [position?_of_le past, inside (Nat.le_refl _), Position.ofOffset_of_le past,
      Position.ofOffset_of_le (Nat.le_refl _)]

theorem position?_append (before behind : List Char) :
    (ofText (before ++ behind)).position? (byteLength before) = some (Position.start.after before) := by
  rw [position?_ofText, Position.ofOffset_append]

/-- A place in the text has the position that its offset is looked up to have. -/
theorem position?_of_isIn {text : List Char} {p : Place} (h : p.IsIn text) :
    (ofText text).position? p.offset = some p.position := by
  obtain ⟨front, back, rfl, rfl⟩ := h
  rw [Place.after, Place.start, Nat.zero_add]
  exact position?_append front back

/-- A location of a piece of the text has the position that its start is looked up to have. -/
theorem position?_of_marks {piece whole : List Char} {l : Location} (h : l.Marks piece whole) :
    (ofText whole).position? l.span.start = some l.position := by
  obtain ⟨before, behind, -, -, position⟩ := h
  rw [position, position?_ofText]

/-- The line of the offset is in the table, and starts at or in front of it. -/
theorem exists_line (text : List Char) (offset : Nat) :
    ∃ line start, (ofText text).line? (min offset (byteLength text)) = some line ∧
      (ofText text).starts[line]? = some start ∧ start ≤ min offset (byteLength text) := by
  obtain ⟨before, rest, k, split, same, points⟩ := exists_pointsInto (Nat.min_le_right offset (byteLength text))
  obtain ⟨lines, current, rfl, full, clean⟩ := exists_fullLines before
  rw [byteLength_append, Nat.add_assoc] at same
  rw [List.append_assoc] at split
  rw [same, split]
  obtain ⟨line, start⟩ := line?_of_fullLines full clean points
  exact ⟨_, _, line, start, Nat.le_add_right _ _⟩

/-- The offset is between two characters of the text, or at its start or end. -/
def IsBoundary (text : List Char) (offset : Nat) : Prop :=
  ∃ before behind, text = before ++ behind ∧ offset = byteLength before

theorem lt_of_isBoundary {text : List Char} {offset offset' : Nat} (h : IsBoundary text offset)
    (h' : IsBoundary text offset') (order : offset < offset') :
    ∃ p q, (ofText text).position? offset = some p ∧ (ofText text).position? offset' = some q ∧ p < q := by
  obtain ⟨front, back, split, rfl⟩ := h
  obtain ⟨front', back', split', rfl⟩ := h'
  obtain ⟨piece, some, reach⟩ := exists_between (split.symm.trans split') order
  refine ⟨_, _, split ▸ position?_append front back, split' ▸ position?_append front' back', ?_⟩
  rw [reach, Position.after_append]
  exact Position.lt_after _ some

/-- The table of line starts tells where every offset of a text is: there is always a line to count from, the
position between characters is by counting, and it grows with the offset up to the end of the text. -/
theorem positions_of_offsets (text : List Char) :
    (∀ offset, ∃ line start, (ofText text).line? (min offset (byteLength text)) = some line ∧
        (ofText text).starts[line]? = some start ∧ start ≤ min offset (byteLength text) ∧
        (ofText text).position? offset = some (Position.ofOffset text offset)) ∧
      (∀ before behind, text = before ++ behind → (ofText text).position? (byteLength before) =
        some ⟨before.count '\n' + 1, (before.reverse.takeWhile (· ≠ '\n')).length + 1⟩) ∧
      (∀ offset offset', IsBoundary text offset → IsBoundary text offset' →
        (offset < offset' → ∃ p q, (ofText text).position? offset = some p ∧
          (ofText text).position? offset' = some q ∧ p < q) ∧
        ((ofText text).position? offset = (ofText text).position? offset' → offset = offset')) ∧
      ∀ offset, byteLength text ≤ offset →
        (ofText text).position? offset = (ofText text).position? (byteLength text) := by
  refine ⟨fun offset => ?_, ?_, fun offset offset' h h' => ⟨lt_of_isBoundary h h', fun same => ?_⟩,
    fun _ => position?_of_le⟩
  · obtain ⟨line, start, found, listed, reached⟩ := exists_line text offset
    exact ⟨line, start, found, listed, reached, position?_ofText text offset⟩
  · rintro before behind rfl
    rw [position?_append, Position.start_after]
    rfl
  · -- Of two different boundaries one is in front, and its position is smaller.
    have not_lt {o o' : Nat} (h : IsBoundary text o) (h' : IsBoundary text o')
        (same : (ofText text).position? o = (ofText text).position? o') : ¬ o < o' := by
      intro order
      obtain ⟨p, q, first, second, less⟩ := lt_of_isBoundary h h' order
      rw [same, second] at first
      obtain rfl := Option.some.inj first
      exact Position.lt_irrefl _ less
    exact Nat.le_antisymm (Nat.le_of_not_lt (not_lt h' h same.symm)) (Nat.le_of_not_lt (not_lt h h' same))

theorem positions_of_offsets_emptyLine :
    (∃ p q, (ofText ['ß', '\n', '\n', 'x', 'é']).position? 3 = some p ∧
        (ofText ['ß', '\n', '\n', 'x', 'é']).position? 4 = some q ∧ p < q) ∧
      (ofText ['ß', '\n', '\n', 'x', 'é']).position? 4 = some ⟨3, 1⟩ ∧
      (ofText ['ß', '\n', '\n', 'x', 'é']).position? 9 =
        (ofText ['ß', '\n', '\n', 'x', 'é']).position? 7 := by
  obtain ⟨-, counted, boundaries, clamped⟩ := positions_of_offsets ['ß', '\n', '\n', 'x', 'é']
  exact ⟨(boundaries 3 4 ⟨['ß', '\n'], _, rfl, rfl⟩ ⟨['ß', '\n', '\n'], _, rfl, rfl⟩).1 (by decide),
    counted ['ß', '\n', '\n'] _ rfl, clamped 9 (by decide)⟩

end LineIndex

end TokenGrammar
