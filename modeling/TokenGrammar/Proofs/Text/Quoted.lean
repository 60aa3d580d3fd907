import Mathlib.Data.List.Basic
import TokenGrammar.Match.Failure

/-!
# What a rendered expectation tells

No two texts are quoted alike, as no escaped character is the front of another one. A noun does not change
which article it has, and a quoted text never looks like one with an article. Main statement: distinct
expectations are described differently.
-/
namespace TokenGrammar

theorem not_mem_toDigits {c : Char} (h : ∀ n, Nat.digitChar n ≠ c) (base n : Nat) :
    c ∉ Nat.toDigits base n := by
  suffices core : ∀ fuel n digits, c ∉ digits → c ∉ Nat.toDigitsCore base fuel n digits from
    core _ _ _ List.not_mem_nil
  intro fuel
  induction fuel with
  | zero => exact fun _ _ hd => hd
  | succ fuel ih =>
      intro n digits hd
      have longer : c ∉ (n % base).digitChar :: digits := by
        rw [List.mem_cons, not_or]
        exact ⟨(h _).symm, hd⟩
      rw [Nat.toDigitsCore]
      split
      · exact longer
      · exact ih _ _ longer

theorem digitChar_inj {m n : Nat} (hm : m < 16) (hn : n < 16) (h : m.digitChar = n.digitChar) : m = n := by
  have distinct : ∀ m < 16, ∀ n < 16, Nat.digitChar m = Nat.digitChar n → m = n := by decide
  exact distinct m hm n hn h

theorem length_toDigits_of_le {n : Nat} (h : ¬ n < 16) : 1 < (Nat.toDigits 16 n).length := by
  have front : 0 < (Nat.toDigits 16 (n / 16)).length := Nat.length_toDigits_pos
  rw [Nat.toDigits_of_base_le (by decide) (Nat.le_of_not_lt h), List.length_append, List.length_singleton]
  omega

theorem toDigits_inj {m n : Nat} (h : Nat.toDigits 16 m = Nat.toDigits 16 n) : m = n := by
  induction m using Nat.strongRecOn generalizing n with
  | ind m ih =>
      have lengths := congrArg List.length h
      by_cases hm : m < 16
      · by_cases hn : n < 16
        · rw [Nat.toDigits_of_lt_base hm, Nat.toDigits_of_lt_base hn] at h
          exact digitChar_inj hm hn (List.singleton_inj.mp h)
        · have several := length_toDigits_of_le hn
          rw [Nat.toDigits_of_lt_base hm, List.length_singleton] at lengths
          omega
      · by_cases hn : n < 16
        · have several := length_toDigits_of_le hm
          rw [Nat.toDigits_of_lt_base hn, List.length_singleton] at lengths
          omega
        · rw [Nat.toDigits_of_base_le (by decide) (Nat.le_of_not_lt hm),
            Nat.toDigits_of_base_le (by decide) (Nat.le_of_not_lt hn)] at h
          obtain ⟨front, last⟩ := List.append_inj' h rfl
          have high := ih (m / 16) (by omega) front
          have low := digitChar_inj (Nat.mod_lt m (by decide)) (Nat.mod_lt n (by decide))
            (List.singleton_inj.mp last)
          omega

namespace Quoted

/-- The characters that are escaped by a letter, or by themselves. -/
def letters : List (Char × Char) :=
  [('\x00', '0'), ('\t', 't'), ('\r', 'r'), ('\n', 'n'), ('\\', '\\'), ('"', '"')]

/-- How a character stands between double quotes. -/
inductive Escaped (c : Char) : List Char → Prop
  | letter {l} : (c, l) ∈ letters → Escaped c ['\\', l]
  | plain : c ≠ '\\' → Escaped c [c]
  | code : Escaped c ('\\' :: 'u' :: '\x7b' :: (Nat.toDigits 16 c.toNat ++ ['\x7d']))

theorem escaped_escape (c : Char) : Escaped c (escape '"' c) := by
  unfold escape
  split
  · next h => exact .letter (by simp [letters, h])
  · split
    · next h => exact .letter (by simp [letters, h])
    · split
      · next h => exact .letter (by simp [letters, h])
      · split
        · next h => exact .letter (by simp [letters, h])
        · split
          · next h => exact .letter (by rcases h with h | h <;> simp [letters, h])
          · next h =>
              split
              · exact .plain fun same => h (.inl same)
              · exact .code

/-- Texts are told apart that end with their first brace. -/
theorem append_brace_inj {brace : Char} {xs ys r s : List Char} (hx : brace ∉ xs) (hy : brace ∉ ys)
    (h : xs ++ brace :: r = ys ++ brace :: s) : xs = ys ∧ r = s := by
  induction xs generalizing ys with
  | nil =>
      cases ys with
      | nil => exact ⟨rfl, (List.cons_eq_cons.mp h).2⟩
      | cons y ys =>
          obtain ⟨rfl, -⟩ := List.cons_eq_cons.mp h
          exact absurd List.mem_cons_self hy
  | cons x xs ih =>
      cases ys with
      | nil =>
          obtain ⟨rfl, -⟩ := List.cons_eq_cons.mp h
          exact absurd List.mem_cons_self hx
      | cons y ys =>
          obtain ⟨rfl, behind⟩ := List.cons_eq_cons.mp h
          obtain ⟨rfl, rest⟩ := ih (List.not_mem_of_not_mem_cons hx) (List.not_mem_of_not_mem_cons hy) behind
          exact ⟨rfl, rest⟩

theorem code_append_inj {c d : Char} {r s : List Char}
    (h : Nat.toDigits 16 c.toNat ++ '\x7d' :: r = Nat.toDigits 16 d.toNat ++ '\x7d' :: s) : c = d ∧ r = s := by
  have none (n : Nat) : '\x7d' ∉ Nat.toDigits 16 n :=
    not_mem_toDigits (fun k => Nat.digitChar_ne '\x7d' (by decide)) 16 n
  obtain ⟨digits, rest⟩ := append_brace_inj (none c.toNat) (none d.toNat) h
  exact ⟨Char.toNat_inj.mp (toDigits_inj digits), rest⟩

/-- It is told where an escaped character ends, and which one it is. -/
theorem Escaped.append_inj {c d : Char} {v w r s : List Char} (hc : Escaped c v) (hd : Escaped d w)
    (h : v ++ r = w ++ s) : c = d ∧ r = s := by
  have known : ∀ p ∈ letters, p.2 ≠ 'u' ∧ ∀ q ∈ letters, p.2 = q.2 → p.1 = q.1 := by decide
  cases hc with
  | @letter l hl =>
      cases hd with
      | @letter k hk =>
          obtain ⟨same, rest⟩ : l = k ∧ r = s := by simpa using h
          exact ⟨(known _ hl).2 _ hk same, rest⟩
      | plain other =>
          obtain ⟨same, -⟩ : '\\' = d ∧ l :: r = s := by simpa using h
          exact absurd same.symm other
      | code =>
          obtain ⟨same, -⟩ : l = 'u' ∧ _ := by simpa using h
          exact absurd same (known _ hl).1
  | plain other =>
      cases hd with
      | @letter k hk =>
          obtain ⟨same, -⟩ : c = '\\' ∧ r = k :: s := by simpa using h
          exact absurd same other
      | plain => simpa using h
      | code =>
          obtain ⟨same, -⟩ : c = '\\' ∧ _ := by simpa using h
          exact absurd same other
  | code =>
      cases hd with
      | @letter k hk =>
          obtain ⟨same, -⟩ : 'u' = k ∧ _ := by simpa using h
          exact absurd same.symm (known _ hk).1
      | plain other =>
          obtain ⟨same, -⟩ : '\\' = d ∧ _ := by simpa using h
          exact absurd same.symm other
      | code => exact code_append_inj (by simpa using h)

theorem Escaped.ne_nil {c : Char} {w : List Char} (h : Escaped c w) : w ≠ [] := by
  cases h <;> exact List.cons_ne_nil _ _

theorem flatMap_escape_inj {xs ys : List Char} (h : xs.flatMap (escape '"') = ys.flatMap (escape '"')) :
    xs = ys := by
  induction xs generalizing ys with
  | nil =>
      cases ys with
      | nil => rfl
      | cons d ys => exact absurd (List.append_eq_nil_iff.mp h.symm).1 (escaped_escape d).ne_nil
  | cons c xs ih =>
      cases ys with
      | nil => exact absurd (List.append_eq_nil_iff.mp h).1 (escaped_escape c).ne_nil
      | cons d ys =>
          obtain ⟨rfl, rest⟩ := (escaped_escape c).append_inj (escaped_escape d) h
          rw [ih rest]

end Quoted

theorem quoted_injective : Function.Injective quoted := by
  intro s t h
  have written := String.ofList_injective h
  have texts := List.append_cancel_right (List.cons_inj_right _ |>.mp written)
  exact String.toList_injective (Quoted.flatMap_escape_inj texts)

theorem toList_withArticle (noun : String) :
    (withArticle noun).toList =
      'a' :: ((if noun.toList.head?.any isVowel then ['n'] else []) ++ ' ' :: noun.toList) := by
  unfold withArticle
  split <;> simp [String.toList_append]

theorem withArticle_injective : Function.Injective withArticle := by
  intro s t h
  have written := congrArg String.toList h
  rw [toList_withArticle, toList_withArticle] at written
  apply String.toList_injective
  split at written
  · split at written
    · simpa using written
    · simp at written
  · split at written
    · simp at written
    · simpa using written

theorem Expectation.describe_injective : Function.Injective Expectation.describe := by
  have apart (text noun : String) : quoted text ≠ withArticle noun := by
    intro same
    have written := congrArg String.toList same
    rw [toList_withArticle, quoted, String.toList_ofList] at written
    cases written
  intro e f h
  cases e with
  | literal text =>
      cases f with
      | literal other => exact congrArg Expectation.literal (quoted_injective h)
      | kind noun => exact absurd h (apart text noun)
  | kind noun =>
      cases f with
      | literal text => exact absurd h.symm (apart text noun)
      | kind other => exact congrArg Expectation.kind (withArticle_injective h)

end TokenGrammar
