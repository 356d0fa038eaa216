import LintFixture.Text.Utf8
import Mathlib.Algebra.Group.Nat.Defs
import Mathlib.Tactic.SplitIfs

/-!
# Decoding inverts encoding

`Text.decodeUtf8` reads bytes one at a time and holds, within a character, the value of the bytes
read so far, how many are owed and between which bounds the next one lies. The bytes that may
still come are the `tails` of the numbers that complete this value (`decodeFrom_partial`). A first
byte sets its bounds so that these numbers are the characters which it `Leads`
(`leads_of_leadByte`, `leadByte_of_leads`): not too small for their length, no surrogate and not
beyond the last character.

Headline: `decodeUtf8_eq_ok_iff`, bytes are decoded to characters exactly where they are the
encoding of these characters.
-/

namespace LintFixture.Text

/-! ## Continuation bytes -/

/-- The last `k` bytes of a character with number `v`, six bits in each. -/
def tails : Nat → Nat → List UInt8
  | 0, _ => []
  | k + 1, v => UInt8.ofNat (v / 64 ^ k % 64 + 0x80) :: tails k v

theorem length_tails : ∀ k v : Nat, (tails k v).length = k
  | 0, _ => rfl
  | k + 1, v => by rw [tails, List.length_cons, length_tails k v]

theorem toNat_tail (w : Nat) : (UInt8.ofNat (w % 64 + 0x80)).toNat = w % 64 + 0x80 := by
  rw [UInt8.toNat_ofNat']
  omega

namespace PartialChar

/-- The next byte is a continuation byte, and there is one to come. -/
structure InRange (p : PartialChar) : Prop where
  owed : 0 < p.owed
  low : 0x80 ≤ p.low.toNat
  high : p.high.toNat ≤ 0xbf

/-- The number `v` begins with the bits read so far, and its next byte lies within the bounds. -/
structure Completes (p : PartialChar) (v : Nat) : Prop where
  value : v / 64 ^ p.owed = p.value
  low : p.low.toNat ≤ v / 64 ^ (p.owed - 1) % 64 + 0x80
  high : v / 64 ^ (p.owed - 1) % 64 + 0x80 ≤ p.high.toNat

/-- The character once the byte `b` is read too, where that is not its last one. -/
def next (p : PartialChar) (b : UInt8) : PartialChar :=
  ⟨p.position, p.first, p.value * 0x40 + (b.toNat - 0x80), p.owed - 1, 0x80, 0xbf⟩

theorem next_inRange {p : PartialChar} {k : Nat} (howed : p.owed = k + 2) (b : UInt8) :
    (p.next b).InRange := by
  refine ⟨?_, Nat.le_refl 0x80, Nat.le_refl 0xbf⟩
  show 0 < p.owed - 1
  omega

/-- Any continuation byte may follow the second byte of a character. -/
theorem next_completes_iff {p : PartialChar} {k : Nat} (howed : p.owed = k + 2) {b : UInt8}
    {v : Nat} : (p.next b).Completes v ↔ v / 64 ^ (k + 1) = (p.next b).value := by
  have hnext : (p.next b).owed = k + 1 := by
    show p.owed - 1 = k + 1
    omega
  refine ⟨fun h => hnext ▸ h.value, fun h => ⟨by rw [hnext]; exact h, Nat.le_add_left _ _, ?_⟩⟩
  have := Nat.mod_lt (v / 64 ^ ((p.next b).owed - 1)) (show 0 < 64 by decide)
  exact Nat.add_le_add_right (Nat.le_of_lt_succ this) _

/-- Reading one byte of a number that completes the bits read so far adds six bits to them. -/
theorem completes_and_head_iff {p : PartialChar} {k v : Nat} {b : UInt8} (howed : p.owed = k + 1)
    (h : p.InRange) :
    p.Completes v ∧ UInt8.ofNat (v / 64 ^ k % 64 + 0x80) = b ↔
      (p.low ≤ b ∧ b ≤ p.high) ∧ v / 64 ^ k = (p.next b).value := by
  have hlow := h.low
  have hhigh := h.high
  have hpow : v / 64 ^ (k + 1) = v / 64 ^ k / 64 := by rw [Nat.pow_succ, Nat.div_div_eq_div_mul]
  simp only [UInt8.le_iff_toNat_le, next]
  constructor
  · rintro ⟨hc, rfl⟩
    have hvalue := hc.value
    have hl := hc.low
    have hu := hc.high
    rw [howed] at hvalue hl hu
    rw [Nat.add_sub_cancel] at hl hu
    rw [toNat_tail]
    exact ⟨⟨hl, hu⟩, by omega⟩
  · rintro ⟨⟨hl, hu⟩, hv⟩
    have hb : v / 64 ^ k % 64 + 0x80 = b.toNat := by omega
    refine ⟨⟨?_, ?_, ?_⟩, ?_⟩
    · rw [howed, hpow]
      omega
    · rw [howed, Nat.add_sub_cancel, hb]
      exact hl
    · rw [howed, Nat.add_sub_cancel, hb]
      exact hu
    · rw [hb]
      exact UInt8.ofNat_toNat

end PartialChar

theorem map_cons_eq_ok_iff {c : Char} {r : Except Utf8Fault (List Char)} {cs : List Char} :
    r.map (c :: ·) = .ok cs ↔ ∃ more, r = .ok more ∧ cs = c :: more := by
  cases r with
  | error e => simp [Except.map]
  | ok more => simp [Except.map, eq_comm]

theorem cons_eq_tails_append_iff {k v : Nat} {b : UInt8} {bytes rest : List UInt8} :
    b :: bytes = tails (k + 1) v ++ rest ↔
      UInt8.ofNat (v / 64 ^ k % 64 + 0x80) = b ∧ bytes = tails k v ++ rest := by
  rw [tails, List.cons_append, List.cons.injEq, eq_comm]

/-- **Within a character** the bytes to come are those of a number that completes it. -/
theorem decodeFrom_partial : ∀ (k : Nat) {p : PartialChar}, p.owed = k + 1 → p.InRange →
    ∀ {position : Nat} {bytes : List UInt8} {cs : List Char},
      decodeFrom position (some p) bytes = .ok cs ↔
        ∃ v rest more, p.Completes v ∧ bytes = tails (k + 1) v ++ rest ∧
          decodeFrom (position + (k + 1)) none rest = .ok more ∧ cs = Char.ofNat v :: more
  | k, p, howed, hp, position, [], cs => by
    simp [decodeFrom, tails]
  | k, p, howed, hp, position, b :: bytes, cs => by
    have hstep (v : Nat) := p.completes_and_head_iff (v := v) (b := b) howed hp
    simp only [cons_eq_tails_append_iff]
    by_cases hb : p.low ≤ b ∧ b ≤ p.high
    · simp only [decodeFrom, if_pos hb]
      cases k with
      | zero =>
        rw [if_pos (by omega), map_cons_eq_ok_iff]
        constructor
        · rintro ⟨more, hmore, rfl⟩
          obtain ⟨hc, hhead⟩ := (hstep (p.next b).value).2 ⟨hb, Nat.div_one _⟩
          exact ⟨_, bytes, more, hc, ⟨hhead, rfl⟩, hmore, rfl⟩
        · rintro ⟨v, rest, more, hc, ⟨hhead, hbytes⟩, hmore, rfl⟩
          have hv := ((hstep v).1 ⟨hc, hhead⟩).2
          rw [Nat.pow_zero, Nat.div_one] at hv
          exact ⟨more, by rw [hbytes]; exact hmore, by rw [hv]; rfl⟩
      | succ k =>
        have hnext : (p.next b).owed = k + 1 := by
          show p.owed - 1 = k + 1
          omega
        rw [if_neg (by omega)]
        refine (decodeFrom_partial k hnext (p.next_inRange howed b)).trans ?_
        have hposition : position + 1 + (k + 1) = position + (k + 1 + 1) := by omega
        simp only [p.next_completes_iff howed, hposition]
        constructor
        · rintro ⟨v, rest, more, hv, hbytes, hmore⟩
          obtain ⟨hc, hhead⟩ := (hstep v).2 ⟨hb, hv⟩
          exact ⟨v, rest, more, hc, ⟨hhead, hbytes⟩, hmore⟩
        · rintro ⟨v, rest, more, hc, ⟨hhead, hbytes⟩, hmore⟩
          exact ⟨v, rest, more, ((hstep v).1 ⟨hc, hhead⟩).2, hbytes, hmore⟩
    · rw [decodeFrom, if_neg hb]
      constructor
      · nofun
      · rintro ⟨v, rest, more, hc, ⟨hhead, -⟩, -, -⟩
        exact absurd ((hstep v).1 ⟨hc, hhead⟩).1 hb

/-! ## First bytes -/

/-- The byte `b` begins the character with number `v`, and `k` bytes follow it. -/
inductive Leads (b : UInt8) : Nat → Nat → Prop
  | two {v : Nat} : 0x80 ≤ v → v < 0x800 → b.toNat = v / 0x40 + 0xc0 → Leads b 1 v
  | three {v : Nat} : 0x800 ≤ v → v < 0x10000 → v < 0xd800 ∨ 0xdfff < v →
      b.toNat = v / 0x1000 + 0xe0 → Leads b 2 v
  | four {v : Nat} : 0x10000 ≤ v → v < 0x110000 → b.toNat = v / 0x40000 + 0xf0 → Leads b 3 v

namespace Leads

theorem ge {b : UInt8} {k v : Nat} (h : Leads b k v) : 0x80 ≤ v ∧ 0x80 ≤ b.toNat := by
  cases h <;> omega

theorem isValidChar {b : UInt8} {k v : Nat} (h : Leads b k v) : v.isValidChar := by
  cases h with
  | two => exact .inl (by omega)
  | three _ _ hsurrogate =>
    rcases hsurrogate with hv | hv
    · exact .inl hv
    · exact .inr ⟨hv, by omega⟩
  | four => exact .inr ⟨by omega, by omega⟩

theorem toNat_ofNat {b : UInt8} {k v : Nat} (h : Leads b k v) : (Char.ofNat v).toNat = v := by
  rw [Char.ofNat, dif_pos h.isValidChar]
  rfl

theorem encode {b : UInt8} {k : Nat} {c : Char} (h : Leads b k c.toNat) :
    String.utf8EncodeChar c = b :: tails k c.toNat := by
  have hb {w : Nat} (hw : b.toNat = w) : UInt8.ofNat w = b := by rw [← hw, UInt8.ofNat_toNat]
  have hc : c.val.toNat = c.toNat := rfl
  generalize c.toNat = v at h hc ⊢
  simp only [String.utf8EncodeChar, hc]
  cases h with
  | two hlow hhigh heq =>
    rw [if_neg (by omega), if_pos (by omega), hb (by omega)]
    simp [tails]
  | three hlow hhigh _ heq =>
    rw [if_neg (by omega), if_neg (by omega), if_pos (by omega), hb (by omega)]
    simp [tails]
  | four hlow hhigh heq =>
    rw [if_neg (by omega), if_neg (by omega), if_neg (by omega), hb (by omega)]
    simp [tails]

theorem encode_ofNat {b : UInt8} {k v : Nat} (h : Leads b k v) :
    String.utf8EncodeChar (Char.ofNat v) = b :: tails k v := by
  have hc : Leads b k (Char.ofNat v).toNat := by
    rw [h.toNat_ofNat]
    exact h
  rw [hc.encode, h.toNat_ofNat]

/-- Every character beyond the first 128 has a first byte. -/
theorem exists_of_ge {c : Char} (h : 0x80 ≤ c.toNat) : ∃ b k, Leads b k c.toNat := by
  have hvalid : c.toNat < 0xd800 ∨ 0xdfff < c.toNat ∧ c.toNat < 0x110000 := c.valid
  by_cases htwo : c.toNat < 0x800
  · exact ⟨.ofNat (c.toNat / 0x40 + 0xc0), 1, .two h htwo (by rw [UInt8.toNat_ofNat']; omega)⟩
  by_cases hthree : c.toNat < 0x10000
  · exact ⟨.ofNat (c.toNat / 0x1000 + 0xe0), 2,
      .three (by omega) hthree (by omega) (by rw [UInt8.toNat_ofNat']; omega)⟩
  · exact ⟨.ofNat (c.toNat / 0x40000 + 0xf0), 3,
      .four (by omega) (by omega) (by rw [UInt8.toNat_ofNat']; omega)⟩

end Leads

theorem leads_of_leadByte {position : Nat} {b : UInt8} {p : PartialChar} {v : Nat}
    (h : leadByte position b = some p) (hc : p.Completes v) : Leads b p.owed v := by
  simp only [leadByte, UInt8.lt_iff_toNat_lt, ← UInt8.toNat_inj, UInt8.toNat_ofNat] at h
  split_ifs at h
  all_goals
    cases h
    obtain ⟨hvalue, hlow, hhigh⟩ := hc
    simp at hvalue hlow hhigh
  · exact .two (by omega) (by omega) (by omega)
  · exact .three (by omega) (by omega) (by omega) (by omega)
  · exact .three (by omega) (by omega) (by omega) (by omega)
  · exact .three (by omega) (by omega) (by omega) (by omega)
  · exact .four (by omega) (by omega) (by omega)
  · exact .four (by omega) (by omega) (by omega)
  · exact .four (by omega) (by omega) (by omega)

theorem leadByte_of_leads {b : UInt8} {k v : Nat} (h : Leads b k v) (position : Nat) :
    ∃ p, leadByte position b = some p ∧ p.owed = k ∧ p.Completes v := by
  simp only [leadByte, UInt8.lt_iff_toNat_lt, ← UInt8.toNat_inj, UInt8.toNat_ofNat]
  split_ifs
  all_goals
    -- The bounds of `v` refute the branch, or they are those of this first byte.
    cases h <;> first
      | (exfalso; omega)
      | (refine ⟨_, rfl, rfl, ?_, ?_, ?_⟩ <;> simp <;> omega)

theorem inRange_of_leadByte {position : Nat} {b : UInt8} {p : PartialChar}
    (h : leadByte position b = some p) : p.InRange := by
  simp only [leadByte] at h
  split_ifs at h
  all_goals
    cases h
    refine ⟨?_, ?_, ?_⟩ <;> simp

/-! ## Between characters -/

theorem encode_of_lt {c : Char} (h : c.toNat < 0x80) :
    String.utf8EncodeChar c = [.ofNat c.toNat] := by
  have hc : c.val.toNat = c.toNat := rfl
  rw [String.utf8EncodeChar, hc, if_pos (by omega)]

theorem lt_of_cons_eq_encode {c : Char} {b : UInt8} {bytes rest : List UInt8} (hb : b < 0x80)
    (h : b :: bytes = String.utf8EncodeChar c ++ rest) : c.toNat < 0x80 := by
  refine Nat.lt_of_not_le fun hc => ?_
  obtain ⟨b', k, hlead⟩ := Leads.exists_of_ge hc
  rw [hlead.encode, List.cons_append, List.cons.injEq] at h
  exact Nat.not_lt_of_le hlead.ge.2 (h.1 ▸ hb)

theorem leads_of_cons_eq_encode {c : Char} {b : UInt8} {bytes rest : List UInt8}
    (hb : ¬b < 0x80) (h : b :: bytes = String.utf8EncodeChar c ++ rest) :
    ∃ k, Leads b k c.toNat := by
  have hc : 0x80 ≤ c.toNat := by
    refine Nat.le_of_not_lt fun hc => hb ?_
    rw [encode_of_lt hc, List.singleton_append, List.cons.injEq] at h
    rw [h.1, UInt8.lt_iff_toNat_lt, UInt8.toNat_ofNat']
    exact Nat.lt_of_le_of_lt (Nat.mod_le _ _) hc
  obtain ⟨b', k, hlead⟩ := Leads.exists_of_ge hc
  rw [hlead.encode, List.cons_append, List.cons.injEq] at h
  exact ⟨k, h.1 ▸ hlead⟩

/-- **Between two characters** the bytes to come are those of one more character. -/
theorem decodeFrom_cons_eq_ok_iff {position : Nat} {b : UInt8} {bytes : List UInt8}
    {cs : List Char} :
    decodeFrom position none (b :: bytes) = .ok cs ↔
      ∃ c rest more, b :: bytes = String.utf8EncodeChar c ++ rest ∧
        decodeFrom (position + (String.utf8EncodeChar c).length) none rest = .ok more ∧
        cs = c :: more := by
  by_cases hb : b < 0x80
  · simp only [decodeFrom, if_pos hb]
    rw [map_cons_eq_ok_iff]
    constructor
    · rintro ⟨more, hmore, rfl⟩
      have hc : (Char.ofNat b.toNat).toNat = b.toNat := by
        have hlt : b.toNat < 0x80 := hb
        have hvalid : b.toNat.isValidChar := .inl (by omega)
        rw [Char.ofNat, dif_pos hvalid]
        rfl
      have hencode : String.utf8EncodeChar (Char.ofNat b.toNat) = [b] := by
        rw [encode_of_lt (hc.symm ▸ hb), hc, UInt8.ofNat_toNat]
      exact ⟨_, bytes, more, by rw [hencode]; rfl, by rw [hencode]; exact hmore, rfl⟩
    · rintro ⟨c, rest, more, hbytes, hmore, rfl⟩
      have hc := lt_of_cons_eq_encode hb hbytes
      rw [encode_of_lt hc] at hbytes hmore
      obtain ⟨rfl, rfl⟩ := List.cons.inj hbytes
      have hnumber : (UInt8.ofNat c.toNat).toNat = c.toNat := by
        rw [UInt8.toNat_ofNat', Nat.mod_eq_of_lt (by omega)]
      exact ⟨more, hmore, by rw [hnumber, Char.ofNat_toNat]⟩
  · rw [decodeFrom, if_neg hb]
    cases hp : leadByte position b with
    | none =>
      refine ⟨nofun, fun ⟨c, rest, more, hbytes, _⟩ => ?_⟩
      obtain ⟨k, hlead⟩ := leads_of_cons_eq_encode hb hbytes
      obtain ⟨p, hp', _⟩ := leadByte_of_leads hlead position
      cases hp.symm.trans hp'
    | some p =>
      have hrange := inRange_of_leadByte hp
      obtain ⟨k, howed⟩ := Nat.exists_eq_add_one_of_ne_zero (Nat.ne_of_gt hrange.owed)
      refine (decodeFrom_partial k howed hrange).trans ?_
      constructor
      · rintro ⟨v, rest, more, hc, rfl, hmore, rfl⟩
        have hencode := (leads_of_leadByte hp hc).encode_ofNat
        refine ⟨_, rest, more, by rw [hencode, howed]; rfl, ?_, rfl⟩
        rw [hencode, List.length_cons, length_tails, howed, ← Nat.add_assoc, Nat.add_right_comm]
        exact hmore
      · rintro ⟨c, rest, more, hbytes, hmore, rfl⟩
        obtain ⟨k', hlead⟩ := leads_of_cons_eq_encode hb hbytes
        obtain ⟨p', hp', howed', hc⟩ := leadByte_of_leads hlead position
        obtain rfl : p = p' := Option.some.inj (hp.symm.trans hp')
        obtain rfl : k' = k + 1 := howed'.symm.trans howed
        rw [hlead.encode] at hbytes hmore
        rw [List.length_cons, length_tails, ← Nat.add_assoc, Nat.add_right_comm] at hmore
        exact ⟨c.toNat, rest, more, hc, (List.cons.inj hbytes).2, hmore,
          by rw [Char.ofNat_toNat]⟩

theorem length_lt_of_cons_eq_encode {c : Char} {b : UInt8} {bytes rest : List UInt8}
    (h : b :: bytes = String.utf8EncodeChar c ++ rest) : rest.length < (b :: bytes).length := by
  rw [h, List.length_append, String.length_utf8EncodeChar]
  exact Nat.lt_add_of_pos_left (Char.utf8Size_pos c)

theorem decodeFrom_eq_ok_iff {position : Nat} {bytes : List UInt8} {cs : List Char} :
    decodeFrom position none bytes = .ok cs ↔ bytes = encodeUtf8 cs := by
  -- One character takes away at least one byte, but not always just one.
  induction hn : bytes.length using Nat.strongRecOn generalizing position bytes cs with
  | ind n ih =>
    cases bytes with
    | nil =>
      cases cs with
      | nil => simp [decodeFrom, encodeUtf8]
      | cons c cs => simp [decodeFrom, encodeUtf8]
    | cons b bytes =>
      rw [decodeFrom_cons_eq_ok_iff]
      constructor
      · rintro ⟨c, rest, more, hbytes, hmore, rfl⟩
        have hrest := (ih _ (hn ▸ length_lt_of_cons_eq_encode hbytes) rfl).1 hmore
        rw [hbytes, hrest, encodeUtf8, encodeUtf8, List.flatMap_cons]
      · intro hbytes
        cases cs with
        | nil => cases hbytes
        | cons c cs =>
          rw [encodeUtf8, List.flatMap_cons] at hbytes
          exact ⟨c, encodeUtf8 cs, cs, hbytes,
            (ih _ (hn ▸ length_lt_of_cons_eq_encode hbytes) rfl).2 rfl, rfl⟩

/-- **Decoding inverts encoding.** Bytes are decoded to characters exactly where they are the
encoding of these characters. -/
theorem decodeUtf8_eq_ok_iff {bytes : List UInt8} {cs : List Char} :
    decodeUtf8 bytes = .ok cs ↔ bytes = encodeUtf8 cs :=
  decodeFrom_eq_ok_iff

/-- The first surrogate, written in three bytes, is refused at the second one. -/
example : decodeUtf8 [0xed, 0xa0, 0x80] = .error ⟨0, 1, 0xed, .continuation⟩ := rfl

end LintFixture.Text
