import TokenGrammar.Proofs.Json.Reading
import TokenGrammar.TokenFile

/-!
# Token files are read back

Tokens are written as an array of objects, in whatever layout, and read back from it one field and one token at
a time, in front of what is left of the array.
-/
namespace TokenGrammar

namespace Json

mutual

/-- A value is written the same whatever follows it. -/
theorem writeIn_append (l : Layout) (depth : Nat) (value : Json) (text rest : List Char) :
    value.writeIn l depth (text ++ rest) = value.writeIn l depth text ++ rest := by
  match value with
  | .number n => simp only [writeIn, List.append_assoc]
  | .text s => simp only [writeIn, writeText, List.append_assoc, List.cons_append]
  | .array [] => rfl
  | .array (item :: items) =>
      have closes : l.lineBreak depth ++ ']' :: (text ++ rest) = l.lineBreak depth ++ ']' :: text ++ rest :=
        (List.append_assoc _ (']' :: text) rest).symm
      rw [writeIn, closes, writeItemsIn_append l _ items, writeIn_append l _ item]
      simp only [writeIn, List.append_assoc, List.cons_append]
  | .object [] => rfl
  | .object ((name, value) :: fields) =>
      have closes : l.lineBreak depth ++ '\x7d' :: (text ++ rest) = l.lineBreak depth ++ '\x7d' :: text ++ rest :=
        (List.append_assoc _ ('\x7d' :: text) rest).symm
      rw [writeIn, closes, writeFieldsIn_append l _ fields, writeIn_append l _ value]
      simp only [writeIn, writeText, List.append_assoc, List.cons_append]

theorem writeItemsIn_append (l : Layout) (depth : Nat) (items : List Json) (text rest : List Char) :
    writeItemsIn l depth (text ++ rest) items = writeItemsIn l depth text items ++ rest := by
  match items with
  | [] => rfl
  | item :: items =>
      rw [writeItemsIn, writeItemsIn_append l _ items, writeIn_append l _ item]
      simp only [writeItemsIn, List.append_assoc, List.cons_append]

theorem writeFieldsIn_append (l : Layout) (depth : Nat) (fields : List (String × Json)) (text rest : List Char) :
    writeFieldsIn l depth (text ++ rest) fields = writeFieldsIn l depth text fields ++ rest := by
  match fields with
  | [] => rfl
  | (name, value) :: fields =>
      rw [writeFieldsIn, writeFieldsIn_append l _ fields, writeIn_append l _ value]
      simp only [writeFieldsIn, writeText, List.append_assoc, List.cons_append]

end

theorem length_escape_pos (c : Char) : 0 < (escape c).length := by
  fun_cases escape c <;> exact Nat.zero_lt_succ _

/-- Every character of a text takes at least one. -/
theorem length_le_flatMap_escape (chars : List Char) : chars.length ≤ (chars.flatMap escape).length := by
  induction chars with
  | nil => exact Nat.le_refl 0
  | cons c chars ih =>
      have first := length_escape_pos c
      rw [List.flatMap_cons, List.length_append, List.length_cons]
      omega

variable (l : Layout) (depth : Nat)

theorem length_writeItemsIn_cons (item : Json) (items : List Json) (rest : List Char) :
    (writeItemsIn l depth rest (item :: items)).length = 1 + (l.lineBreak depth).length +
      (item.writeIn l depth []).length + (writeItemsIn l depth rest items).length := by
  rw [writeItemsIn, ← List.nil_append (writeItemsIn l depth rest items), writeIn_append]
  simp only [List.length_cons, List.length_append, List.nil_append]
  omega

/-- Every item takes at least its comma. -/
theorem length_le_writeItemsIn (items : List Json) (rest : List Char) :
    items.length + rest.length ≤ (writeItemsIn l depth rest items).length := by
  induction items with
  | nil => simp [writeItemsIn]
  | cons item items ih =>
      rw [length_writeItemsIn_cons, List.length_cons]
      omega

theorem length_writeIn_le_writeItemsIn {item : Json} {items : List Json} (h : item ∈ items)
    (rest : List Char) : (item.writeIn l depth []).length ≤ (writeItemsIn l depth rest items).length := by
  induction items with
  | nil => cases h
  | cons first items ih =>
      rw [length_writeItemsIn_cons]
      rcases List.mem_cons.mp h with rfl | later
      · omega
      · have := ih later
        omega

namespace Layout

theorem blank_lineBreak : Reader.Blank (l.lineBreak depth) := l.isSpace_of_mem_lineBreak depth

theorem blank_gap : Reader.Blank l.gap := l.isSpace_of_mem_gap

end Layout

end Json

namespace TokenFile

open Json (Reader writeText)
open Json.Reader

theorem gives_hasField_quote (text : List Char) : Gives (hasField true) ('"' :: text) true ('"' :: text) :=
  .bind (gives_nextBehindSpaces rfl text) (.pure true _)

theorem gives_hasField_comma {blanks : List Char} (blank : Blank blanks) (text : List Char) :
    Gives (hasField false) (',' :: (blanks ++ '"' :: text)) true ('"' :: text) :=
  .bind (gives_nextBehindSpaces rfl _) (.bind (gives_skip ',' _)
    (.behindBlanks (.bind (gives_nextBehindSpaces rfl text) (.pure true _)) blank))

theorem gives_hasField_brace (first : Bool) (text : List Char) :
    Gives (hasField first) ('\x7d' :: text) false ('\x7d' :: text) :=
  .bind (gives_nextBehindSpaces rfl text) (.pure false _)

theorem gives_once {α : Type} {value : Reader α} {v : α} {text rest : List Char} (name : String)
    (h : Gives value text v rest) : Gives (once name none value) (':' :: text) (some v) rest :=
  .bind (.bind (gives_nextBehindSpaces rfl text) (gives_skip ':' text)) (.bind h (.pure (some v) rest))

/-- What is read behind the name of a field. -/
def behindName (rounds n : Nat) (f : Fields) : String → Reader Fields
  | "kind" => do objectFields rounds false { f with kind := ← once "kind" f.kind (text rounds) } n
  | "lexeme" => do objectFields rounds false { f with lexeme := ← once "lexeme" f.lexeme (text rounds) } n
  | "line" => do objectFields rounds false { f with line := ← once "line" f.line (lineNumber rounds) } n
  | "column" => do
    objectFields rounds false { f with column := ← once "column" f.column (lineNumber rounds) } n
  | "offset" => do
    objectFields rounds false { f with offset := ← once "offset" f.offset (byteOffset rounds) } n
  | _ => do
    colon
    skipValue rounds
    objectFields rounds false f n

theorem objectFields_succ (rounds n : Nat) (first : Bool) (f : Fields) :
    objectFields rounds first f (n + 1) = (do
      if !(← hasField first) then return f
      skip
      behindName rounds n f (← textBody true [] rounds)) :=
  rfl

theorem gives_objectFields_name {rounds n : Nat} {first : Bool} {f result : Fields} {name : String}
    {front text rest : List Char} (opens : Gives (hasField first) front true (writeText name text))
    (short : name.length < rounds) (h : Gives (behindName rounds n f name) text result rest) :
    Gives (objectFields rounds first f (n + 1)) front result rest := by
  rw [objectFields_succ]
  refine .bind opens ?_
  simp only [Bool.not_true, Bool.false_eq_true, if_false]
  exact .bind (gives_skip _ _) (.bind (gives_textBody_toList name text short) h)

theorem gives_objectFields_brace (rounds n : Nat) (first : Bool) (f : Fields) {blanks : List Char}
    (blank : Blank blanks) (rest : List Char) :
    Gives (objectFields rounds first f (n + 1)) (blanks ++ '\x7d' :: rest) f ('\x7d' :: rest) := by
  rw [objectFields_succ]
  refine .bind ((gives_hasField_brace first rest).behindBlanks blank) ?_
  simp only [Bool.not_false, if_true]
  exact .pure f _

/-- The numbers of a token fit into the words that a token file has for them. -/
structure Fits (t : Token) : Prop where
  line : t.position.line < Nat.pow 2 32
  column : t.position.column < Nat.pow 2 32
  offset : t.offset < Nat.pow 2 64

/-- The texts of a token and the names of its fields are shorter than a number of rounds. -/
structure Short (t : Token) (rounds : Nat) : Prop where
  kind : t.kind.length < rounds
  lexeme : t.lexeme.length < rounds
  name : 6 < rounds

theorem gives_lineNumber {n : Nat} (h : n < Nat.pow 2 32) (rounds : Nat) {rest : List Char}
    (ends : EndsNumber rest) : Gives (lineNumber rounds) ((Nat.repr n).toList ++ rest) n rest :=
  gives_natural h (Nat.le_trans (Nat.le_of_lt h) (by decide)) rounds "u32" ends

theorem gives_byteOffset {n : Nat} (h : n < Nat.pow 2 64) (rounds : Nat) {rest : List Char}
    (ends : EndsNumber rest) : Gives (byteOffset rounds) ((Nat.repr n).toList ++ rest) n rest :=
  gives_natural h (Nat.le_pred_of_lt h) rounds "usize" ends

variable (l : Json.Layout) (depth : Nat)

theorem write_token (t : Token) (rest : List Char) :
    t.json.writeIn l depth rest = '\x7b' :: (l.lineBreak (depth + 1) ++
      writeText "kind" (':' :: (l.gap ++ writeText t.kind (',' :: (l.lineBreak (depth + 1) ++
      writeText "lexeme" (':' :: (l.gap ++ writeText t.lexeme (',' :: (l.lineBreak (depth + 1) ++
      writeText "line" (':' :: (l.gap ++ ((Nat.repr t.position.line).toList ++ (',' :: (l.lineBreak (depth + 1) ++
      writeText "column" (':' :: (l.gap ++ ((Nat.repr t.position.column).toList ++ (',' :: (l.lineBreak (depth + 1) ++
      writeText "offset" (':' :: (l.gap ++ ((Nat.repr t.offset).toList ++
        (l.lineBreak depth ++ '\x7d' :: rest))))))))))))))))))))))) :=
  rfl

/-- The fields of a token are read one behind the other, in the order in which they were written. -/
theorem gives_objectFields {t : Token} {rounds n : Nat} (fits : Fits t) (short : Short t rounds)
    (enough : 6 ≤ n) (rest : List Char) :
    Gives (objectFields rounds true ⟨none, none, none, none, none⟩ n) (t.json.writeIn l depth rest).tail
      ⟨some t.kind, some t.lexeme, some t.position.line, some t.position.column, some t.offset⟩
      ('\x7d' :: rest) := by
  have brief (name : String) (h : name.length ≤ 6) : name.length < rounds :=
    Nat.lt_of_le_of_lt h short.name
  have lines := l.blank_lineBreak (depth + 1)
  have brace := (endsNumber_brace rest).behindBlanks (l.blank_lineBreak depth)
  -- A round for each of the five fields, and one for the brace behind them.
  obtain ⟨n, rfl⟩ := Nat.exists_eq_add_of_le' enough
  rw [write_token, List.tail_cons]
  refine gives_objectFields_name ((gives_hasField_quote _).behindBlanks lines) (brief "kind" (by decide))
    (.bind (gives_once "kind" ((gives_text t.kind _ short.kind).behindBlanks l.blank_gap)) ?_)
  refine gives_objectFields_name (gives_hasField_comma lines _) (brief "lexeme" (by decide))
    (.bind (gives_once "lexeme" ((gives_text t.lexeme _ short.lexeme).behindBlanks l.blank_gap)) ?_)
  refine gives_objectFields_name (gives_hasField_comma lines _) (brief "line" (by decide))
    (.bind (gives_once "line" ((gives_lineNumber fits.line rounds (endsNumber_comma _)).behindBlanks l.blank_gap)) ?_)
  refine gives_objectFields_name (gives_hasField_comma lines _) (brief "column" (by decide))
    (.bind (gives_once "column"
      ((gives_lineNumber fits.column rounds (endsNumber_comma _)).behindBlanks l.blank_gap)) ?_)
  refine gives_objectFields_name (gives_hasField_comma lines _) (brief "offset" (by decide))
    (.bind (gives_once "offset" ((gives_byteOffset fits.offset rounds brace).behindBlanks l.blank_gap)) ?_)
  exact gives_objectFields_brace rounds n false _ (l.blank_lineBreak depth) rest

theorem gives_token {t : Token} {rounds : Nat} (fits : Fits t) (short : Short t rounds)
    (rest : List Char) : Gives (token rounds) (t.json.writeIn l depth rest) t rest := by
  have fields := gives_objectFields l depth fits short (Nat.le_of_lt short.name) rest
  exact .bind (gives_nextBehindSpaces rfl _) (.bind (gives_skip '\x7b' _)
    (.bind fields (.bind (gives_skip '\x7d' rest) (.pure t rest))))

theorem short_of_written (t : Token) {rounds : Nat} (h : (t.json.writeIn l depth []).length < rounds) :
    Short t rounds := by
  have kind := Json.length_le_flatMap_escape t.kind.toList
  have lexeme := Json.length_le_flatMap_escape t.lexeme.toList
  rw [String.length_toList] at kind lexeme
  rw [write_token] at h
  simp only [writeText, List.length_cons, List.length_append] at h
  exact ⟨by omega, by omega, by omega⟩

theorem gives_hasItem_brace (text : List Char) :
    Gives (hasItem true) ('\x7b' :: text) true ('\x7b' :: text) :=
  .bind (gives_nextBehindSpaces rfl text) (.pure true _)

theorem gives_hasItem_comma {blanks : List Char} (blank : Blank blanks) (text : List Char) :
    Gives (hasItem false) (',' :: (blanks ++ '\x7b' :: text)) true ('\x7b' :: text) :=
  .bind (gives_nextBehindSpaces rfl _) (.bind (gives_skip ',' _)
    (.behindBlanks (.bind (gives_nextBehindSpaces rfl text) (.pure true _)) blank))

theorem gives_hasItem_bracket (first : Bool) (text : List Char) :
    Gives (hasItem first) (']' :: text) false (']' :: text) :=
  .bind (gives_nextBehindSpaces rfl text) (.pure false _)

theorem gives_items_cons {t : Token} {rounds n : Nat} (fits : Fits t) (short : Short t rounds)
    {front text rest : List Char} {reversed ts : List Token}
    (opens : Gives (hasItem reversed.isEmpty) front true (t.json.writeIn l depth text))
    (h : Gives (items rounds (t :: reversed) n) text ts rest) :
    Gives (items rounds reversed (n + 1)) front ts rest :=
  .bind opens (.bind (gives_token l depth fits short text) h)

theorem gives_items_nil (rounds n : Nat) (reversed : List Token) {blanks : List Char} (blank : Blank blanks)
    (rest : List Char) :
    Gives (items rounds reversed (n + 1)) (blanks ++ ']' :: rest) reversed.reverse (']' :: rest) :=
  .bind ((gives_hasItem_bracket reversed.isEmpty rest).behindBlanks blank) (.pure _ _)

/-- Further tokens are read behind those that were read, each behind its comma. -/
theorem gives_items {rounds : Nat} {blanks : List Char} (blank : Blank blanks) (rest : List Char)
    (ts reversed : List Token) (n : Nat) (h : ∀ t ∈ ts, Fits t ∧ Short t rounds) (enough : ts.length < n)
    (behind : reversed ≠ []) :
    Gives (items rounds reversed n) (Json.writeItemsIn l depth (blanks ++ ']' :: rest) (ts.map Token.json))
      (reversed.reverse ++ ts) (']' :: rest) := by
  induction ts generalizing reversed n with
  | nil =>
      obtain ⟨n, rfl⟩ := Nat.exists_eq_add_one.mpr enough
      rw [List.append_nil]
      exact gives_items_nil rounds n reversed blank rest
  | cons t ts ih =>
      obtain ⟨n, rfl⟩ := Nat.exists_eq_add_one.mpr (Nat.zero_lt_of_lt enough)
      obtain ⟨fits, short⟩ := h t List.mem_cons_self
      have later := ih (t :: reversed) n (fun u hu => h u (List.mem_cons_of_mem t hu))
        (Nat.lt_of_succ_lt_succ enough) (List.cons_ne_nil t reversed)
      rw [List.reverse_cons, List.append_assoc] at later
      refine gives_items_cons l depth fits short ?_ later
      rw [List.isEmpty_eq_false_iff.mpr behind]
      exact gives_hasItem_comma (l.blank_lineBreak depth) _

theorem gives_tokens {rounds : Nat} {ts : List Token} (h : ∀ t ∈ ts, Fits t ∧ Short t rounds)
    (enough : ts.length < rounds) : Gives (tokens rounds) ((tokensJson ts).writeIn l 0 ['\n']) ts [] := by
  have inside (n : Nat) (enough : ts.length < n) : ∃ text, (tokensJson ts).writeIn l 0 ['\n'] = '[' :: text ∧
      Gives (items rounds [] n) text ts [']', '\n'] := by
    obtain ⟨n, rfl⟩ := Nat.exists_eq_add_one.mpr (Nat.zero_lt_of_lt enough)
    cases ts with
    | nil => exact ⟨_, rfl, gives_items_nil rounds n [] .nil ['\n']⟩
    | cons t ts =>
        obtain ⟨fits, short⟩ := h t List.mem_cons_self
        have later := gives_items l 1 (l.blank_lineBreak 0) ['\n'] ts [t] n
          (fun u hu => h u (List.mem_cons_of_mem t hu)) (Nat.lt_of_succ_lt_succ enough) (List.cons_ne_nil t [])
        refine ⟨_, rfl, gives_items_cons l 1 fits short ?_ later⟩
        exact (gives_hasItem_brace _).behindBlanks (l.blank_lineBreak 1)
  obtain ⟨text, written, read⟩ := inside rounds enough
  rw [written]
  exact .bind (gives_nextBehindSpaces rfl text) (.bind (gives_skip '[' text) (.bind read
    (.bind (gives_skip ']' _) (.bind gives_nextBehindSpaces_newline (.pure ts [])))))

/-- The characters of a token file are more than its tokens, and no fewer than those of each of them. -/
theorem length_lt_written (ts : List Token) :
    ts.length < ((tokensJson ts).writeIn l 0 ['\n']).length ∧
    ∀ t ∈ ts, (t.json.writeIn l 1 []).length ≤ ((tokensJson ts).writeIn l 0 ['\n']).length := by
  cases ts with
  | nil => exact ⟨Nat.zero_lt_succ _, nofun⟩
  | cons t ts =>
      -- The array opens with a bracket where the items would have their first comma.
      have array : ((tokensJson (t :: ts)).writeIn l 0 ['\n']).length =
          (Json.writeItemsIn l 1 (l.lineBreak 0 ++ [']', '\n']) ((t :: ts).map Token.json)).length := rfl
      rw [array]
      constructor
      · have items := Json.length_le_writeItemsIn l 1 ((t :: ts).map Token.json) (l.lineBreak 0 ++ [']', '\n'])
        rw [List.length_map, List.length_append] at items
        exact Nat.lt_of_lt_of_le (Nat.lt_add_of_pos_right (Nat.add_pos_right _ (by decide))) items
      · intro u member
        exact Json.length_writeIn_le_writeItemsIn l 1 (List.mem_map_of_mem member) _

/-- A written array of tokens is read back as these tokens, behind which a line feed makes no difference. -/
theorem parse_written (ts : List Token) (h : ∀ t ∈ ts, Fits t) :
    parse ((tokensJson ts).renderIn l ++ "\n") = .ok ts := by
  have source : ((tokensJson ts).renderIn l ++ "\n").toList = (tokensJson ts).writeIn l 0 ['\n'] := by
    rw [Json.renderIn, String.toList_append, String.toList_ofList]
    exact (Json.writeIn_append l 0 (tokensJson ts) [] ['\n']).symm
  obtain ⟨enough, each⟩ := length_lt_written l ts
  rw [← source, String.length_toList] at enough each
  have good (t : Token) (member : t ∈ ts) :
      Fits t ∧ Short t (((tokensJson ts).renderIn l ++ "\n").length + 1) :=
    ⟨h t member, short_of_written l 1 t (Nat.lt_succ_of_le (each t member))⟩
  obtain ⟨line, column, read⟩ := gives_tokens l good (Nat.lt_succ_of_lt enough) 1 0
  rw [parse, source]
  change (tokens _ _).map Prod.fst = _
  rw [read]
  rfl

end TokenFile

end TokenGrammar
