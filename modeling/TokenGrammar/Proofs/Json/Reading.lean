import TokenGrammar.Json.Basic
import TokenGrammar.Json.Reader

/-!
# Written values are read back

A reader is given what was written with something behind it. It gives the value back and stops in front of
that, wherever in a text the value stands.
-/
namespace TokenGrammar.Json.Reader

variable {α β : Type}

/-- From `text` on, the reader gives `value` and leaves `rest`, whatever line and column it starts at. -/
def Gives (reader : Reader α) (text : List Char) (value : α) (rest : List Char) : Prop :=
  ∀ line column, ∃ line' column', reader ⟨line, column, text⟩ = .ok (value, ⟨line', column', rest⟩)

theorem Gives.pure (value : α) (text : List Char) : Gives (Pure.pure value) text value text :=
  fun line column => ⟨line, column, rfl⟩

theorem Gives.bind {reader : Reader α} {more : α → Reader β} {text middle rest : List Char} {value : α}
    {result : β} (h : Gives reader text value middle) (hm : Gives (more value) middle result rest) :
    Gives (reader >>= more) text result rest := by
  intro line column
  obtain ⟨line', column', first⟩ := h line column
  obtain ⟨line'', column'', second⟩ := hm line' column'
  refine ⟨line'', column'', ?_⟩
  change (reader ⟨line, column, text⟩ >>= fun p => more p.1 p.2) = _
  rw [first]
  exact second

/-- To look at what is left takes nothing. -/
theorem Gives.look {more : Cursor → Reader α} {text rest : List Char} {value : α}
    (h : ∀ cursor, cursor.rest = text → Gives (more cursor) text value rest) :
    Gives (get >>= more) text value rest :=
  fun line column => h ⟨line, column, text⟩ rfl line column

theorem gives_next (c : Char) (rest : List Char) : Gives next? (c :: rest) (some c) (c :: rest) :=
  fun line column => ⟨line, column, rfl⟩

theorem gives_head (text : List Char) : Gives next? text text.head? text :=
  fun line column => ⟨line, column, rfl⟩

theorem gives_skip (c : Char) (rest : List Char) : Gives skip (c :: rest) () rest := by
  intro line column
  by_cases newline : c = '\n'
  · exact ⟨line + 1, 0, congrArg (fun cursor => Except.ok ((), cursor)) (if_pos newline)⟩
  · exact ⟨line, column + c.utf8Size, congrArg (fun cursor => Except.ok ((), cursor)) (if_neg newline)⟩

theorem gives_nextBehindSpaces {c : Char} (h : Cursor.isSpace c = false) (rest : List Char) :
    Gives nextBehindSpaces? (c :: rest) (some c) (c :: rest) := by
  have visible : c ≠ '\n' := by
    rintro rfl
    cases h
  intro line column
  refine ⟨line, column, ?_⟩
  change Except.ok ((Cursor.skipSpaces.go line column (c :: rest)).rest.head?,
    Cursor.skipSpaces.go line column (c :: rest)) = _
  simp [Cursor.skipSpaces.go, visible, h]

/-- The characters are passed over between the parts of a value. -/
def Blank (text : List Char) : Prop := ∀ c ∈ text, Cursor.isSpace c = true

theorem Blank.nil : Blank [] := List.forall_mem_nil _

theorem skipSpaces_append {blanks : List Char} (blank : Blank blanks) (line column : Nat) (text : List Char) :
    ∃ line' column', Cursor.skipSpaces.go line column (blanks ++ text) =
      Cursor.skipSpaces.go line' column' text := by
  induction blanks generalizing line column with
  | nil => exact ⟨line, column, rfl⟩
  | cons c blanks ih =>
      obtain ⟨space, others⟩ := List.forall_mem_cons.mp blank
      rw [List.cons_append, Cursor.skipSpaces.go]
      by_cases newline : c = '\n'
      · rw [if_pos newline]
        exact ih others (line + 1) 0
      · rw [if_neg newline, if_pos space]
        exact ih others line (column + 1)

/-- A reader that first looks behind spaces gives behind blanks what it gives without them. -/
theorem Gives.behindBlanks {more : Option Char → Reader α} {text rest : List Char} {value : α}
    (h : Gives (nextBehindSpaces? >>= more) text value rest) {blanks : List Char} (blank : Blank blanks) :
    Gives (nextBehindSpaces? >>= more) (blanks ++ text) value rest := by
  intro line column
  obtain ⟨line', column', same⟩ := skipSpaces_append blank line column text
  obtain ⟨line'', column'', given⟩ := h line' column'
  refine ⟨line'', column'', ?_⟩
  rw [← given]
  exact congrArg (fun cursor : Cursor => more cursor.rest.head? cursor) same

/-- Behind the line feed that ends a text there is nothing. -/
theorem gives_nextBehindSpaces_newline : Gives nextBehindSpaces? ['\n'] none [] :=
  fun line _ => ⟨line + 1, 0, rfl⟩

theorem length_le_utf8ByteSize (text : List Char) : text.length ≤ (String.ofList text).utf8ByteSize := by
  induction text with
  | nil => exact Nat.zero_le _
  | cons c text ih =>
      have some := c.utf8Size_pos
      rw [String.ofList_cons, String.utf8ByteSize_append, String.utf8ByteSize_singleton, List.length_cons]
      omega

theorem gives_codeUnit {a b c d : Char} {n : Nat} (h : hexNumber? [a, b, c, d] = some n)
    (rest : List Char) : Gives codeUnit (a :: b :: c :: d :: rest) n rest := by
  have long : ¬ (String.ofList [a, b, c, d]).utf8ByteSize < 4 :=
    Nat.not_lt.mpr (length_le_utf8ByteSize [a, b, c, d])
  refine .look fun cursor here => ?_
  rw [here]
  simp only [List.take_succ_cons, List.take_zero, long, h, if_false]
  exact .bind (gives_skip a _) (.bind (gives_skip b _) (.bind (gives_skip c _) (.bind (gives_skip d _)
    (.pure n rest))))

theorem hexNumber_of_lt : ∀ n < 0x20, hexNumber? ['0', '0', hexDigit (n / 16), hexDigit n] = some n := by
  decide

theorem gives_codePoint {c : Char} (h : c.toNat < 0x20) (rest : List Char) :
    Gives codePoint ('0' :: '0' :: hexDigit (c.toNat / 16) :: hexDigit c.toNat :: rest) c rest := by
  refine .bind (gives_codeUnit (hexNumber_of_lt c.toNat h) rest) ?_
  have single : ¬ (0xDC00 ≤ c.toNat ∧ c.toNat ≤ 0xDFFF) := by omega
  have low : c.toNat < 0xD800 ∨ 0xDBFF < c.toNat := by omega
  simp only [single, low, if_false, if_true, Char.ofNat_toNat]
  exact .pure c rest

theorem gives_escape_sign {sign c : Char} (h : escaped? sign = some c) (rest : List Char) :
    Gives (escape true) (sign :: rest) c rest := by
  have short : sign ≠ 'u' := by
    rintro rfl
    cases h
  refine .bind (gives_next sign rest) ?_
  split
  · contradiction
  · next heq => exact absurd (Option.some.inj heq) short
  · next heq =>
      cases heq
      rw [h]
      exact .bind (gives_skip sign rest) (.pure c rest)

/-- A character is written as it is, or as a backslash and what is read behind one as that character. -/
theorem escape_cases (c : Char) :
    (Json.escape c = [c] ∧ c ≠ '"' ∧ c ≠ '\\' ∧ ¬ c.toNat < 0x20) ∨
    ∃ code, Json.escape c = '\\' :: code ∧ ∀ rest, Gives (escape true) (code ++ rest) c rest := by
  have signed {sign d : Char} (h : escaped? sign = some d) (same : c = d) (rest : List Char) :
      Gives (escape true) (sign :: rest) c rest := same ▸ gives_escape_sign h rest
  fun_cases Json.escape c
  · next same => exact .inr ⟨['"'], rfl, signed rfl same⟩
  · next same => exact .inr ⟨['\\'], rfl, signed rfl same⟩
  · next same => exact .inr ⟨['b'], rfl, signed rfl same⟩
  · next same => exact .inr ⟨['t'], rfl, signed rfl same⟩
  · next same => exact .inr ⟨['n'], rfl, signed rfl same⟩
  · next same => exact .inr ⟨['f'], rfl, signed rfl same⟩
  · next same => exact .inr ⟨['r'], rfl, signed rfl same⟩
  · next control =>
      refine .inr ⟨_, rfl, fun rest => ?_⟩
      exact .bind (gives_next 'u' _) (.bind (gives_skip 'u' _) (gives_codePoint control rest))
  · next quote backslash _ _ _ _ _ plain => exact .inl ⟨rfl, quote, backslash, plain⟩

theorem gives_textBody_cons (c : Char) {reversed text rest : List Char} {rounds : Nat} {s : String}
    (h : Gives (textBody true (c :: reversed) rounds) text s rest) :
    Gives (textBody true reversed (rounds + 1)) (Json.escape c ++ text) s rest := by
  rcases escape_cases c with ⟨plain, quote, backslash, visible⟩ | ⟨code, escaped, reads⟩
  · rw [plain]
    refine .bind (gives_next c text) ?_
    split
    · contradiction
    · next heq => exact absurd (Option.some.inj heq) quote
    · next heq => exact absurd (Option.some.inj heq) backslash
    · next heq =>
        cases heq
        rw [if_neg visible]
        exact .bind (gives_skip c text) h
  · rw [escaped]
    exact .bind (gives_next '\\' _) (.bind (gives_skip '\\' _) (.bind (reads text) h))

theorem gives_textBody (chars reversed rest : List Char) {rounds : Nat} (h : chars.length < rounds) :
    Gives (textBody true reversed rounds) (chars.flatMap Json.escape ++ '"' :: rest)
      (String.ofList (reversed.reverse ++ chars)) rest := by
  induction chars generalizing reversed rounds with
  | nil =>
      obtain ⟨rounds, rfl⟩ := Nat.exists_eq_add_one.mpr h
      rw [List.append_nil]
      exact .bind (gives_next '"' rest) (.bind (gives_skip '"' rest) (.pure _ rest))
  | cons c chars ih =>
      obtain ⟨rounds, rfl⟩ := Nat.exists_eq_add_one.mpr (Nat.zero_lt_of_lt h)
      have behind := ih (c :: reversed) (Nat.lt_of_succ_lt_succ h)
      rw [List.reverse_cons, List.append_assoc] at behind
      rw [List.flatMap_cons, List.append_assoc]
      exact gives_textBody_cons c behind

/-- A written text is read back behind its opening quote. -/
theorem gives_textBody_toList (s : String) (rest : List Char) {rounds : Nat} (h : s.length < rounds) :
    Gives (textBody true [] rounds) (s.toList.flatMap Json.escape ++ '"' :: rest) s rest := by
  have read := gives_textBody s.toList [] rest (String.length_toList ▸ h)
  rwa [List.reverse_nil, List.nil_append, String.ofList_toList] at read

theorem gives_text (s : String) (rest : List Char) {rounds : Nat} (h : s.length < rounds) :
    Gives (text rounds) (writeText s rest) s rest :=
  .bind (gives_nextBehindSpaces rfl _) (.bind (gives_skip '"' _) (gives_textBody_toList s rest h))

/-- A number ends in front of this. -/
def EndsNumber (rest : List Char) : Prop :=
  ∀ c ∈ rest.head?, c.isDigit = false ∧ c ≠ '.' ∧ c ≠ 'e' ∧ c ≠ 'E'

theorem endsNumber_nil : EndsNumber [] := by
  rintro c ⟨⟩

theorem endsNumber_comma (text : List Char) : EndsNumber (',' :: text) := by
  rintro c ⟨⟩
  decide

theorem endsNumber_brace (text : List Char) : EndsNumber ('\x7d' :: text) := by
  rintro c ⟨⟩
  decide

theorem EndsNumber.behindBlanks {rest : List Char} (h : EndsNumber rest) {blanks : List Char}
    (blank : Blank blanks) : EndsNumber (blanks ++ rest) := by
  cases blanks with
  | nil => exact h
  | cons c blanks =>
      rintro c ⟨⟩
      have space := blank c List.mem_cons_self
      simp only [Cursor.isSpace, Bool.or_eq_true, decide_eq_true_eq] at space
      rcases space with ((rfl | rfl) | rfl) | rfl
      all_goals decide

def digitValue (c : Char) : Nat := c.toNat - '0'.toNat

theorem gives_digits {ds rest : List Char} (h : ∀ c ∈ ds, c.isDigit = true) (ends : EndsNumber rest) :
    Gives digits (ds ++ rest) (ds.map digitValue) rest := by
  have none : rest.takeWhile Char.isDigit = [] := by
    cases rest with
    | nil => rfl
    | cons c rest => exact List.takeWhile_cons_of_neg (by simp [(ends c rfl).1])
  have taken : (ds ++ rest).takeWhile Char.isDigit = ds := by
    rw [List.takeWhile_append_of_pos h, none, List.append_nil]
  refine .look fun cursor here => ?_
  rw [here, taken]
  have moved : Gives (modify fun c => ⟨c.line, c.column + ds.length, c.rest.drop ds.length⟩)
      (ds ++ rest) () rest := by
    intro line column
    refine ⟨line, column + ds.length, ?_⟩
    exact congrArg (fun left => Except.ok ((), (⟨line, column + ds.length, left⟩ : Cursor)))
      List.drop_left
  exact .bind moved (.pure _ rest)

/-- The number that goes on with these digits. -/
def valueFrom (n : Nat) (ds : List Nat) : Nat := ds.foldl (fun m d => m * 10 + d) n

theorem le_valueFrom (n : Nat) (ds : List Nat) : n ≤ valueFrom n ds := by
  induction ds generalizing n with
  | nil => exact Nat.le_refl n
  | cons d ds ih => exact Nat.le_trans (by omega) (ih (n * 10 + d))

/-- Digits are all taken if their number fits, since then those in front fit too. -/
theorem extend_eq (n : Nat) (ds : List Nat) (h : valueFrom n ds ≤ wordMax) :
    extend n ds = (valueFrom n ds, 0) := by
  induction ds generalizing n with
  | nil => rfl
  | cons d ds ih =>
      have fits : n * 10 + d ≤ wordMax := Nat.le_trans (le_valueFrom _ ds) h
      rw [extend, if_pos fits]
      exact ih (n * 10 + d) h

theorem valueFrom_toDigits (n : Nat) : valueFrom 0 ((Nat.toDigits 10 n).map digitValue) = n := by
  have same : (fun m c => m * 10 + digitValue c) = fun m c => 10 * m + (c.toNat - '0'.toNat) := by
    funext m c
    rw [Nat.mul_comm, digitValue]
  rw [valueFrom, List.foldl_map, same, ← Nat.ofDigitChars_eq_foldl, Nat.ofDigitChars_ten_toDigits]

/-- Only zero is written with a zero in front. -/
theorem eq_zero_of_head_toDigits {n : Nat} {ds : List Char} (h : Nat.toDigits 10 n = '0' :: ds) :
    n = 0 := by
  induction n using Nat.strongRecOn generalizing ds with
  | ind n ih =>
      by_cases single : n < 10
      · rw [Nat.toDigits_of_lt_base single] at h
        have digit := Nat.toNat_digitChar_of_lt_ten single
        rw [(List.cons.inj h).1] at digit
        exact (Nat.add_left_cancel digit).symm
      · have more := Nat.le_of_not_lt single
        rw [Nat.toDigits_of_base_le (by omega) more] at h
        obtain ⟨c, front, front_eq⟩ := List.exists_cons_of_ne_nil (Nat.toDigits_ne_nil (n := n / 10) (b := 10))
        rw [front_eq] at h
        rw [(List.cons.inj h).1] at front_eq
        have := ih (n / 10) (by omega) front_eq
        omega

/-- The digits of a number, the first of them apart. -/
theorem toDigits_cases (n : Nat) :
    ∃ c ds, Nat.toDigits 10 n = c :: ds ∧ c.isDigit = true ∧ ¬ (c = '0' ∧ 1 < (c :: ds).length) := by
  obtain ⟨c, ds, written⟩ := List.exists_cons_of_ne_nil (Nat.toDigits_ne_nil (n := n) (b := 10))
  refine ⟨c, ds, written, ?_, ?_⟩
  · exact Nat.isDigit_of_mem_toDigits (by decide) (by decide) (written ▸ List.mem_cons_self)
  · rintro ⟨rfl, long⟩
    have zero := eq_zero_of_head_toDigits written
    rw [zero, Nat.toDigits_zero] at written
    rw [← written] at long
    exact absurd long (by decide)

theorem EndsNumber.following {rest : List Char} (h : EndsNumber rest) :
    rest.head? ≠ some '.' ∧ isExponentSign rest.head? = false := by
  cases rest with
  | nil => exact ⟨nofun, rfl⟩
  | cons c rest =>
      obtain ⟨-, point, small, large⟩ := h c rfl
      refine ⟨fun same => point (Option.some.inj same), ?_⟩
      simp [isExponentSign, small, large]

theorem gives_number (n : Nat) (fits : n ≤ wordMax) {rest : List Char} (ends : EndsNumber rest) :
    Gives (number false) (Nat.toDigits 10 n ++ rest) (.natural n) rest := by
  have digital : ∀ c ∈ Nat.toDigits 10 n, c.isDigit = true :=
    fun c => Nat.isDigit_of_mem_toDigits (by decide) (by decide)
  have taken := extend_eq 0 ((Nat.toDigits 10 n).map digitValue)
  rw [valueFrom_toDigits] at taken
  have read := gives_digits digital ends
  obtain ⟨point, sign⟩ := ends.following
  obtain ⟨c, ds, written, digit, single⟩ := toDigits_cases n
  rw [written] at read taken ⊢
  refine .bind (gives_next c _) ?_
  simp only [digit, Bool.not_true, Bool.false_eq_true, if_false]
  refine .look fun cursor here => .bind read ?_
  rw [List.length_map, if_neg single, taken fits]
  refine .bind (gives_head rest) ?_
  simp only [point, sign, Bool.false_eq_true, if_false, Nat.lt_irrefl, Bool.not_false, if_true]
  exact .pure _ rest

theorem isSpace_of_isDigit {c : Char} (h : c.isDigit = true) : Cursor.isSpace c = false := by
  rw [Bool.eq_false_iff]
  intro space
  simp only [Cursor.isSpace, Bool.or_eq_true, decide_eq_true_eq] at space
  rcases space with ((rfl | rfl) | rfl) | rfl <;> exact absurd h (by decide)

/-- A written number is read back if it fits into a word of the type that is read. -/
theorem gives_natural {n bound : Nat} (h : n < bound) (fits : n ≤ wordMax) (rounds : Nat)
    (expected : String) {rest : List Char} (ends : EndsNumber rest) :
    Gives (natural rounds bound expected) ((Nat.repr n).toList ++ rest) n rest := by
  have read := gives_number n fits ends
  obtain ⟨c, ds, written, digit, -⟩ := toDigits_cases n
  have positive : c ≠ '-' := by
    rintro rfl
    cases digit
  rw [Nat.toList_repr]
  rw [written] at read ⊢
  refine .bind (gives_nextBehindSpaces (isSpace_of_isDigit digit) _) ?_
  simp only [positive, digit, if_false, if_true]
  refine .bind read ?_
  simp only [h, if_true]
  exact .pure n rest

end TokenGrammar.Json.Reader
