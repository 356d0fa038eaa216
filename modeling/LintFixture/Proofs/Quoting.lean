import LintFixture.Number.Numeral
import LintFixture.Text.Quoted
import Mathlib.Algebra.Group.Nat.Defs
import Mathlib.Data.List.Basic

/-!
# Reading quoted text

A quoted text says itself where it ends: at the first quote that is not behind a backslash. So
whatever is written behind it, nothing of the text can be taken for what follows, and nothing of
what follows for the text.

`readChar?` reads one character between quotes, be it written as it is or as an escape, and gives
what follows (`readChar?_escapeChar`). Read one after the other, the characters come out again up
to the closing quote, with which no character begins (`head?_escapeChar`).

Headline: `quoted_append_inj`, texts that are quoted at the start of one text are equal, and so is
what follows them.
-/

namespace LintFixture.Text

/-! ## Numbers of characters -/

theorem length_hexDigits : ∀ width n : Nat, (hexDigits width n).length = width
  | 0, _ => rfl
  | width + 1, n => by
    rw [hexDigits, List.length_append, length_hexDigits width]
    rfl

theorem digitOf_digitChar {d : Nat} (h : d < 16) : digitOf (Nat.digitChar d) = d := by
  have hall : ∀ d : Fin 16, digitOf (Nat.digitChar d) = d := by decide
  exact hall ⟨d, h⟩

theorem numeralValue_concat (base : Nat) (cs : List Char) (c : Char) :
    numeralValue base (cs ++ [c]) = numeralValue base cs * base + digitOf c := by
  simp [numeralValue, digitsValue]

/-- As many digits as a number needs spell it. -/
theorem numeralValue_hexDigits : ∀ {width n : Nat}, n < 16 ^ width →
    numeralValue 16 (hexDigits width n) = n
  | 0, n, h => by
    rw [Nat.pow_zero] at h
    rw [Nat.lt_one_iff.mp h]
    rfl
  | width + 1, n, h => by
    have hdiv : n / 16 < 16 ^ width := Nat.div_lt_of_lt_mul (by rwa [Nat.pow_succ'] at h)
    rw [hexDigits, numeralValue_concat, numeralValue_hexDigits hdiv,
      digitOf_digitChar (Nat.mod_lt n (by decide))]
    exact Nat.div_add_mod' n 16

/-- Reads a character by its number in a fixed count of digits. -/
def readNumber (width : Nat) (cs : List Char) : Char × List Char :=
  (Char.ofNat (numeralValue 16 (cs.take width)), cs.drop width)

theorem readNumber_hexDigits {width : Nat} {c : Char} (h : c.toNat < 16 ^ width)
    (rest : List Char) : readNumber width (hexDigits width c.toNat ++ rest) = (c, rest) := by
  have hlength := length_hexDigits width c.toNat
  rw [readNumber, List.take_left' hlength, List.drop_left' hlength, numeralValue_hexDigits h,
    Char.ofNat_toNat]

/-! ## Characters between quotes -/

/-- Reads what a backslash stands for together with the character behind it. -/
def readEscape? : List Char → Option (Char × List Char)
  | [] => none
  | c :: rest =>
    if c = 'n' then some ('\n', rest)
    else if c = 'r' then some ('\r', rest)
    else if c = 't' then some ('\t', rest)
    else if c = 'x' then some (readNumber 2 rest)
    else if c = 'u' then some (readNumber 4 rest)
    else if c = 'U' then some (readNumber 8 rest)
    else some (c, rest)

/-- Reads one character between quotes. -/
def readChar? : List Char → Option (Char × List Char)
  | [] => none
  | c :: rest => if c = '\\' then readEscape? rest else some (c, rest)

/-- The two quotes. -/
def IsQuote (c : Char) : Prop := c = '\'' ∨ c = '"'

theorem isQuote_quoteMark (cs : List Char) : IsQuote (quoteMark cs) := by
  unfold quoteMark
  split
  · exact Or.inr rfl
  · exact Or.inl rfl

/-- A character is written as it is, or begins with a backslash. -/
theorem escapeChar_cases (quote c : Char) :
    (c ≠ quote ∧ c ≠ '\\' ∧ escapeChar quote c = [c]) ∨
      ∃ body, escapeChar quote c = '\\' :: body := by
  unfold escapeChar
  split_ifs with hspecial <;> simp_all

section Escapes

variable {quote : Char} (hquote : IsQuote quote) (c : Char) (rest : List Char)

include hquote

/-- No character between quotes begins with the quote. -/
theorem head?_escapeChar : (escapeChar quote c ++ rest).head? ≠ some quote := by
  obtain ⟨hne, -, he⟩ | ⟨body, he⟩ := escapeChar_cases quote c
  · rw [he]
    exact fun h => hne (Option.some.inj h)
  · rw [he]
    rintro h
    obtain rfl : '\\' = quote := Option.some.inj h
    rcases hquote with h | h <;> exact absurd h (by decide)

/-- **A character between quotes is read back**, whatever follows it. -/
theorem readChar?_escapeChar : readChar? (escapeChar quote c ++ rest) = some (c, rest) := by
  have hsmall : c.toNat < 16 ^ 8 := by
    have hvalid : c.toNat.isValidChar := c.valid
    unfold Nat.isValidChar at hvalid
    omega
  unfold escapeChar
  split_ifs with hspecial hfeed hreturn htab hprintable htwo hfour
  · -- The quote and the backslash stand for themselves.
    rcases hspecial with rfl | rfl
    · rcases hquote with rfl | rfl <;> rfl
    · rfl
  · rw [hfeed]
    rfl
  · rw [hreturn]
    rfl
  · rw [htab]
    rfl
  · have hback : c ≠ '\\' := fun h => hspecial (Or.inr h)
    simp [readChar?, hback]
  · exact congrArg some (readNumber_hexDigits htwo rest)
  · exact congrArg some (readNumber_hexDigits hfour rest)
  · exact congrArg some (readNumber_hexDigits hsmall rest)

end Escapes

/-! ## Quoted texts -/

/-- What stands between quotes ends at the quote. -/
theorem escaped_append_inj {quote : Char} (hquote : IsQuote quote) :
    ∀ {a b r s : List Char},
      a.flatMap (escapeChar quote) ++ quote :: r = b.flatMap (escapeChar quote) ++ quote :: s →
        a = b ∧ r = s
  | [], [], _, _, h => ⟨rfl, (List.cons.inj h).2⟩
  | [], d :: b, _, _, h => by
    rw [List.flatMap_cons, List.append_assoc] at h
    exact absurd (congrArg List.head? h).symm (head?_escapeChar hquote d _)
  | c :: a, [], _, _, h => by
    rw [List.flatMap_cons, List.append_assoc] at h
    exact absurd (congrArg List.head? h) (head?_escapeChar hquote c _)
  | c :: a, d :: b, _, _, h => by
    rw [List.flatMap_cons, List.flatMap_cons, List.append_assoc, List.append_assoc] at h
    have hread := congrArg readChar? h
    rw [readChar?_escapeChar hquote, readChar?_escapeChar hquote] at hread
    obtain ⟨rfl, hrest⟩ := Prod.mk.inj (Option.some.inj hread)
    obtain ⟨rfl, rfl⟩ := escaped_append_inj hquote hrest
    exact ⟨rfl, rfl⟩

/-- **A quoted text ends where it says.** -/
theorem quoted_append_inj {a b : String} {r s : List Char}
    (h : (quoted a).toList ++ r = (quoted b).toList ++ s) : a = b ∧ r = s := by
  simp only [quoted, quotedChars, String.toList_ofList, List.cons_append, List.append_assoc,
    List.cons.injEq] at h
  obtain ⟨hquote, hrest⟩ := h
  rw [← hquote] at hrest
  obtain ⟨hchars, rfl⟩ := escaped_append_inj (isQuote_quoteMark _) hrest
  exact ⟨String.toList_injective hchars, rfl⟩

end LintFixture.Text
