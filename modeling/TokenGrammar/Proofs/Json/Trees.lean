import TokenGrammar.Proofs.Json.Reading

/-!
# The tree behind its JSON

It is told from a text where each value in it ends and which one it is, as the first character of a value gives
its form away and the blanks of a layout stand at known places. And the fields of an object tell tokens, groups and
named subtrees apart. Main statement: programs with the same JSON, in whatever layout, are the same.
-/
namespace TokenGrammar

namespace Json

open Reader (Gives EndsNumber endsNumber_nil endsNumber_comma)

/-- From one text, a reader gives one value. -/
theorem Reader.Gives.unique {α : Type} {reader : Reader α} {text rest rest' : List Char} {v w : α}
    (h : Gives reader text v rest) (h' : Gives reader text w rest') : v = w ∧ rest = rest' := by
  obtain ⟨line, column, first⟩ := h 0 0
  obtain ⟨line', column', second⟩ := h' 0 0
  cases first.symm.trans second
  exact ⟨rfl, rfl⟩

theorem writeText_inj {s t : String} {rest rest' : List Char} (h : writeText s rest = writeText t rest') :
    s = t ∧ rest = rest' := by
  have first := Reader.gives_text s rest (show s.length < s.length + t.length + 1 by omega)
  have second := Reader.gives_text t rest' (show t.length < s.length + t.length + 1 by omega)
  rw [h] at first
  exact first.unique second

theorem repr_append_inj {m n : Nat} {rest rest' : List Char} (ends : EndsNumber rest)
    (ends' : EndsNumber rest')
    (h : (Nat.repr m).toList ++ rest = (Nat.repr n).toList ++ rest') : m = n ∧ rest = rest' := by
  have digital (k : Nat) : ∀ c ∈ Nat.toDigits 10 k, c.isDigit = true :=
    fun c => Nat.isDigit_of_mem_toDigits (by decide) (by decide)
  rw [Nat.toList_repr, Nat.toList_repr] at h
  have first := Reader.gives_digits (digital m) ends
  rw [h] at first
  obtain ⟨digits, behind⟩ := first.unique (Reader.gives_digits (digital n) ends')
  have value := congrArg (Reader.valueFrom 0) digits
  rw [Reader.valueFrom_toDigits, Reader.valueFrom_toDigits] at value
  exact ⟨value, behind⟩

/-- The sign that a value begins with; all digits count as one. -/
def sign (c : Char) : Char := if c.isDigit then '0' else c

def firstSign : Json → Char
  | .number _ => '0'
  | .text _ => '"'
  | .array _ => '['
  | .object _ => '\x7b'

theorem sign_head_writeIn (l : Layout) (depth : Nat) (rest : List Char) (value : Json) :
    (value.writeIn l depth rest).head?.map sign = some value.firstSign := by
  cases value with
  | number n =>
      obtain ⟨c, ds, written, digit, -⟩ := Reader.toDigits_cases n
      rw [writeIn, Nat.toList_repr, written]
      exact congrArg some (if_pos digit)
  | text s => rfl
  | array items =>
      cases items with
      | nil => rfl
      | cons item items => rfl
  | object fields =>
      cases fields with
      | nil => rfl
      | cons field fields => rfl

theorem firstSign_eq {l : Layout} {depth : Nat} {rest rest' : List Char} {v w : Json}
    (h : v.writeIn l depth rest = w.writeIn l depth rest') : v.firstSign = w.firstSign := by
  have first := sign_head_writeIn l depth rest v
  rw [h, sign_head_writeIn] at first
  exact (Option.some.inj first).symm

/-- Behind the last item or field: blanks, and a closing bracket behind them. -/
def Closes (text : List Char) : Prop := ∀ c ∈ text.head?, Cursor.isSpace c = true ∨ c = ']' ∨ c = '\x7d'

theorem Closes.endsNumber {text : List Char} (h : Closes text) : EndsNumber text := by
  intro c first
  have outside := h c first
  simp only [Cursor.isSpace, Bool.or_eq_true, decide_eq_true_eq] at outside
  rcases outside with (((rfl | rfl) | rfl) | rfl) | rfl | rfl
  all_goals decide

theorem Closes.ne_comma {rest : List Char} (h : Closes rest) (text : List Char) : rest ≠ ',' :: text := by
  rintro rfl
  rcases h ',' rfl with blank | bracket | brace
  · cases blank
  · exact absurd bracket (by decide)
  · exact absurd brace (by decide)

namespace Layout

variable (l : Layout) (depth : Nat)

theorem head_lineBreak_append {text : List Char} {c : Char}
    (h : (l.lineBreak depth ++ text).head? = some c) : Cursor.isSpace c = true ∨ text.head? = some c := by
  cases hb : l.lineBreak depth with
  | nil =>
      rw [hb] at h
      exact .inr h
  | cons blank blanks =>
      rw [hb] at h
      cases h
      exact .inl (l.isSpace_of_mem_lineBreak depth _ (hb ▸ List.mem_cons_self))

theorem closes_append {bracket : Char} (hb : bracket = ']' ∨ bracket = '\x7d') (rest : List Char) :
    Closes (l.lineBreak depth ++ bracket :: rest) := by
  intro c first
  rcases l.head_lineBreak_append depth first with blank | closing
  · exact .inl blank
  · cases closing
    exact .inr hb

/-- An array that is closed at once has no item. -/
theorem bracket_ne_item (item : Json) (rest rest' : List Char) :
    ']' :: rest ≠ l.lineBreak depth ++ item.writeIn l depth rest' := by
  intro h
  rcases l.head_lineBreak_append depth (congrArg List.head? h).symm with blank | first
  · cases blank
  · have begins := sign_head_writeIn l depth rest' item
    rw [first] at begins
    have other : item.firstSign = ']' := (Option.some.inj begins).symm
    cases item with
    | number | text | array | object => simp [firstSign] at other

/-- An object that is closed at once has no field. -/
theorem brace_ne_field (name : String) (rest rest' : List Char) :
    '\x7d' :: rest ≠ l.lineBreak depth ++ writeText name rest' := by
  intro h
  rcases l.head_lineBreak_append depth (congrArg List.head? h).symm with blank | first
  · cases blank
  · exact absurd (Option.some.inj first) (by decide)

end Layout

theorem endsNumber_items {l : Layout} {depth : Nat} {rest : List Char} (h : Closes rest)
    (items : List Json) : EndsNumber (writeItemsIn l depth rest items) := by
  cases items with
  | nil => exact h.endsNumber
  | cons item items => exact endsNumber_comma _

theorem endsNumber_fields {l : Layout} {depth : Nat} {rest : List Char} (h : Closes rest)
    (fields : List (String × Json)) : EndsNumber (writeFieldsIn l depth rest fields) := by
  cases fields with
  | nil => exact h.endsNumber
  | cons field fields => exact endsNumber_comma _

mutual

/-- It is told where a value ends, and which one it is. -/
theorem writeIn_inj {l : Layout} {depth : Nat} {rest rest' : List Char} (ends : EndsNumber rest)
    (ends' : EndsNumber rest') (v w : Json)
    (h : v.writeIn l depth rest = w.writeIn l depth rest') : v = w ∧ rest = rest' := by
  -- Values of different forms begin with different signs, so both are of one form.
  have same := firstSign_eq h
  match v, w with
  | .number m, .number n =>
      obtain ⟨rfl, behind⟩ := repr_append_inj ends ends' h
      exact ⟨rfl, behind⟩
  | .text s, .text t =>
      obtain ⟨rfl, behind⟩ := writeText_inj h
      exact ⟨rfl, behind⟩
  | .array [], .array [] => exact ⟨rfl, (List.cons.inj (List.cons.inj h).2).2⟩
  | .array [], .array (item :: items) =>
      exact absurd (List.cons.inj h).2 (l.bracket_ne_item _ item _ _)
  | .array (item :: items), .array [] =>
      exact absurd (List.cons.inj h).2.symm (l.bracket_ne_item _ item _ _)
  | .array (a :: as), .array (b :: bs) =>
      have closes (rest : List Char) := l.closes_append depth (.inl rfl) rest
      obtain ⟨rfl, further⟩ := writeIn_inj (endsNumber_items (closes rest) as)
        (endsNumber_items (closes rest') bs) a b (List.append_cancel_left (List.cons.inj h).2)
      obtain ⟨rfl, closed⟩ := writeItemsIn_inj (closes rest) (closes rest') as bs further
      exact ⟨rfl, (List.cons.inj (List.append_cancel_left closed)).2⟩
  | .object [], .object [] => exact ⟨rfl, (List.cons.inj (List.cons.inj h).2).2⟩
  | .object [], .object ((name, value) :: fields) =>
      exact absurd (List.cons.inj h).2 (l.brace_ne_field _ name _ _)
  | .object ((name, value) :: fields), .object [] =>
      exact absurd (List.cons.inj h).2.symm (l.brace_ne_field _ name _ _)
  | .object ((name, a) :: as), .object ((name', b) :: bs) =>
      have closes (rest : List Char) := l.closes_append depth (.inr rfl) rest
      obtain ⟨rfl, colon⟩ := writeText_inj (List.append_cancel_left (List.cons.inj h).2)
      obtain ⟨rfl, further⟩ := writeIn_inj (endsNumber_fields (closes rest) as)
        (endsNumber_fields (closes rest') bs) a b (List.append_cancel_left (List.cons.inj colon).2)
      obtain ⟨rfl, closed⟩ := writeFieldsIn_inj (closes rest) (closes rest') as bs further
      exact ⟨rfl, (List.cons.inj (List.append_cancel_left closed)).2⟩

theorem writeItemsIn_inj {l : Layout} {depth : Nat} {rest rest' : List Char} (closes : Closes rest)
    (closes' : Closes rest') (as bs : List Json)
    (h : writeItemsIn l depth rest as = writeItemsIn l depth rest' bs) : as = bs ∧ rest = rest' := by
  match as, bs with
  | [], [] => exact ⟨rfl, h⟩
  | [], b :: bs => exact absurd h (closes.ne_comma _)
  | a :: as, [] => exact absurd h.symm (closes'.ne_comma _)
  | a :: as, b :: bs =>
      obtain ⟨rfl, further⟩ := writeIn_inj (endsNumber_items closes as) (endsNumber_items closes' bs) a b
        (List.append_cancel_left (List.cons.inj h).2)
      obtain ⟨rfl, behind⟩ := writeItemsIn_inj closes closes' as bs further
      exact ⟨rfl, behind⟩

theorem writeFieldsIn_inj {l : Layout} {depth : Nat} {rest rest' : List Char} (closes : Closes rest)
    (closes' : Closes rest') (as bs : List (String × Json))
    (h : writeFieldsIn l depth rest as = writeFieldsIn l depth rest' bs) : as = bs ∧ rest = rest' := by
  match as, bs with
  | [], [] => exact ⟨rfl, h⟩
  | [], (name, b) :: bs => exact absurd h (closes.ne_comma _)
  | (name, a) :: as, [] => exact absurd h.symm (closes'.ne_comma _)
  | (name, a) :: as, (name', b) :: bs =>
      obtain ⟨rfl, colon⟩ := writeText_inj (List.append_cancel_left (List.cons.inj h).2)
      obtain ⟨rfl, further⟩ := writeIn_inj (endsNumber_fields closes as) (endsNumber_fields closes' bs) a b
        (List.append_cancel_left (List.cons.inj colon).2)
      obtain ⟨rfl, behind⟩ := writeFieldsIn_inj closes closes' as bs further
      exact ⟨rfl, behind⟩

end

theorem renderIn_inj {l : Layout} {v w : Json} (h : v.renderIn l = w.renderIn l) : v = w :=
  (writeIn_inj endsNumber_nil endsNumber_nil v w (String.ofList_inj.mp h)).1

end Json

theorem Token.json_inj {s t : Token} (h : s.json = t.json) : s = t := by
  rcases s with ⟨kind, lexeme, ⟨line, column⟩, offset⟩
  rcases t with ⟨kind', lexeme', ⟨line', column'⟩, offset'⟩
  simp only [Token.json, Json.object.injEq, List.cons.injEq, Prod.mk.injEq, Json.text.injEq, Json.number.injEq,
    true_and, and_true] at h
  obtain ⟨rfl, rfl, rfl, rfl, rfl⟩ := h
  rfl

theorem Token.json_ne_tree (t : Token) (label : Option String) (width : Nat) (children : List Node) :
    t.json ≠ (Node.tree label width children).json := by
  cases label with
  | none => simp [Token.json, Node.json]
  | some name => simp [Token.json, Node.json]

mutual

theorem Node.json_inj (a b : Node) (h : a.json = b.json) : a = b := by
  match a, b with
  | .token s, .token t => rw [Token.json_inj h]
  | .token t, .tree label width children => exact absurd h (t.json_ne_tree label width children)
  | .tree label width children, .token t => exact absurd h.symm (t.json_ne_tree label width children)
  | .tree label width as, .tree label' width' bs =>
      have fields : label = label' ∧ width = width' ∧ jsonAll as = jsonAll bs := by
        cases label with
        | none =>
            cases label' with
            | none => simpa [Node.json] using h
            | some name => simp [Node.json] at h
        | some name =>
            cases label' with
            | none => simp [Node.json] at h
            | some name' => simpa [Node.json] using h
      obtain ⟨rfl, rfl, children⟩ := fields
      rw [jsonAll_inj as bs children]

theorem jsonAll_inj (as bs : List Node) (h : jsonAll as = jsonAll bs) : as = bs := by
  match as, bs with
  | [], [] => rfl
  | [], b :: bs => cases h
  | a :: as, [] => cases h
  | a :: as, b :: bs =>
      obtain ⟨first, others⟩ := List.cons.inj h
      rw [Node.json_inj a b first, jsonAll_inj as bs others]

end

theorem Subtree.json_inj {s t : Subtree} (h : s.node.json = t.node.json) : s = t := by
  rcases s with ⟨label, width, children⟩
  rcases t with ⟨label', width', children'⟩
  cases Node.json_inj _ _ h
  rfl

theorem Program.json_inj {p q : Program} (h : p.json = q.json) : p = q := by
  rcases p with ⟨expressions⟩
  rcases q with ⟨expressions'⟩
  have items : expressions.map (·.node.json) = expressions'.map (·.node.json) := by
    simpa [Program.json] using h
  exact congrArg Program.mk ((List.map_inj_right fun _ _ => Subtree.json_inj).mp items)

/-- Two programs have the same JSON just if they are the same, whether it is written for a pipe or laid out over
lines in any way: tokens, groups and named subtrees are told apart, and so are all that is in them. -/
theorem Program.render_json_inj (p q : Program) :
    (p.json.render = q.json.render ↔ p = q) ∧
      ∀ l : Json.Layout, p.json.renderIn l = q.json.renderIn l ↔ p = q := by
  have laidOut (l : Json.Layout) : p.json.renderIn l = q.json.renderIn l ↔ p = q := by
    constructor
    · intro h
      exact Program.json_inj (Json.renderIn_inj h)
    · rintro rfl
      rfl
  exact ⟨laidOut .compact, laidOut⟩

end TokenGrammar
