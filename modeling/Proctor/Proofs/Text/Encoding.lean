import Proctor.Proofs.Text.Decoding

/-!
# Decoding what was encoded

The decoder reads back every text that was encoded, since it accepts of each character the one form
that the encoder writes: the shortest, with the bounds on the second byte that keep out longer forms,
surrogates and what is beyond the last character. What is decoded once, with replacements for all
that was no character, is therefore decoded to the same text again.
-/
namespace Proctor.Utf8

/-- The first byte of a character of two bytes. -/
theorem start_two {n : Nat} (hlow : 2 ≤ n) (hhigh : n < 32) :
    start (UInt8.ofNat (n + 192)) = (.inside n 1 0x80 0xBF, []) := by
  have h : ∀ n : Fin 32, 2 ≤ n.val →
      start (UInt8.ofNat (n.val + 192)) = (.inside n.val 1 0x80 0xBF, []) := by decide
  exact h ⟨n, hhigh⟩ hlow

/-- The first byte of a character of three bytes. -/
theorem start_three {n : Nat} (hn : n < 16) :
    start (UInt8.ofNat (n + 224)) =
      (.inside n 2 (if n = 0 then 0xA0 else 0x80) (if n = 13 then 0x9F else 0xBF), []) := by
  have h : ∀ n : Fin 16, start (UInt8.ofNat (n.val + 224)) = (.inside n.val 2
      (if n.val = 0 then 0xA0 else 0x80) (if n.val = 13 then 0x9F else 0xBF), []) := by decide
  exact h ⟨n, hn⟩

/-- The first byte of a character of four bytes. -/
theorem start_four {n : Nat} (hn : n < 5) :
    start (UInt8.ofNat (n + 240)) =
      (.inside n 3 (if n = 0 then 0x90 else 0x80) (if n = 4 then 0x8F else 0xBF), []) := by
  have h : ∀ n : Fin 5, start (UInt8.ofNat (n.val + 240)) = (.inside n.val 3
      (if n.val = 0 then 0x90 else 0x80) (if n.val = 4 then 0x8F else 0xBF), []) := by decide
  exact h ⟨n, hn⟩

theorem decodeFrom_start {b : UInt8} {s : State} (h : start b = (s, [])) (rest : List UInt8) :
    decodeFrom .boundary (b :: rest) = decodeFrom s rest := by
  simp [decodeFrom, step, h]

section Inside
variable {value n : Nat} {low high : UInt8} (hlow : low.toNat ≤ n + 128)
  (hhigh : n + 128 ≤ high.toNat)
include hlow hhigh

/-- A byte that continues a character adds six bits to its value. -/
theorem step_inside (hn : n < 64) (owed : Nat) :
    step (.inside value owed low high) (UInt8.ofNat (n + 128)) =
      if owed = 1 then (.boundary, [Char.ofNat (value * 64 + n)])
      else (.inside (value * 64 + n) (owed - 1) 0x80 0xBF, []) := by
  have hbyte : (UInt8.ofNat (n + 128)).toNat = n + 128 := by
    rw [UInt8.toNat_ofNat']
    omega
  have hcontinues : low ≤ UInt8.ofNat (n + 128) ∧ UInt8.ofNat (n + 128) ≤ high := by
    simp only [UInt8.le_iff_toNat_le, hbyte]
    exact ⟨hlow, hhigh⟩
  have hbits : (n + 128) % 64 = n := by omega
  simp only [step, if_pos hcontinues, hbyte, hbits]

theorem decodeFrom_last (hn : n < 64) (rest : List UInt8) :
    decodeFrom (.inside value 1 low high) (UInt8.ofNat (n + 128) :: rest) =
      Char.ofNat (value * 64 + n) :: decodeFrom .boundary rest := by
  rw [decodeFrom, step_inside hlow hhigh hn, if_pos rfl]
  rfl

theorem decodeFrom_more (hn : n < 64) (owed : Nat) (rest : List UInt8) :
    decodeFrom (.inside value (owed + 2) low high) (UInt8.ofNat (n + 128) :: rest) =
      decodeFrom (.inside (value * 64 + n) (owed + 1) 0x80 0xBF) rest := by
  rw [decodeFrom, step_inside hlow hhigh hn, if_neg (by omega)]
  rfl

end Inside

variable {n m l k : Nat} (rest : List UInt8)

/-- The bounds on a byte that continues a character, where no others are set. -/
theorem continuing (hm : m < 64) :
    (0x80 : UInt8).toNat ≤ m + 128 ∧ m + 128 ≤ (0xBF : UInt8).toNat := by
  show 128 ≤ m + 128 ∧ m + 128 ≤ 191
  omega

theorem decodeFrom_two (hshortest : 2 ≤ n) (hn : n < 32) (hm : m < 64) :
    decodeFrom .boundary (UInt8.ofNat (n + 192) :: UInt8.ofNat (m + 128) :: rest) =
      Char.ofNat (n * 64 + m) :: decodeFrom .boundary rest := by
  obtain ⟨hlow, hhigh⟩ := continuing hm
  rw [decodeFrom_start (start_two hshortest hn), decodeFrom_last hlow hhigh hm]

theorem decodeFrom_three (hn : n < 16) (hm : m < 64) (hl : l < 64)
    (hshortest : n = 0 → 32 ≤ m) (hsurrogate : n = 13 → m < 32) :
    decodeFrom .boundary (UInt8.ofNat (n + 224) :: UInt8.ofNat (m + 128) ::
        UInt8.ofNat (l + 128) :: rest) =
      Char.ofNat ((n * 64 + m) * 64 + l) :: decodeFrom .boundary rest := by
  have hlow : (if n = 0 then 0xA0 else 0x80 : UInt8).toNat ≤ m + 128 := by
    split_ifs with hzero
    · exact Nat.add_le_add_right (hshortest hzero) 128
    · exact (continuing hm).1
  have hhigh : m + 128 ≤ (if n = 13 then 0x9F else 0xBF : UInt8).toNat := by
    split_ifs with hlast
    · exact Nat.add_le_add_right (Nat.le_of_lt_succ (hsurrogate hlast)) 128
    · exact (continuing hm).2
  obtain ⟨hlow', hhigh'⟩ := continuing hl
  rw [decodeFrom_start (start_three hn), decodeFrom_more hlow hhigh hm,
    decodeFrom_last hlow' hhigh' hl]

theorem decodeFrom_four (hn : n < 5) (hm : m < 64) (hl : l < 64) (hk : k < 64)
    (hshortest : n = 0 → 16 ≤ m) (hbeyond : n = 4 → m < 16) :
    decodeFrom .boundary (UInt8.ofNat (n + 240) :: UInt8.ofNat (m + 128) ::
        UInt8.ofNat (l + 128) :: UInt8.ofNat (k + 128) :: rest) =
      Char.ofNat (((n * 64 + m) * 64 + l) * 64 + k) :: decodeFrom .boundary rest := by
  have hlow : (if n = 0 then 0x90 else 0x80 : UInt8).toNat ≤ m + 128 := by
    split_ifs with hzero
    · exact Nat.add_le_add_right (hshortest hzero) 128
    · exact (continuing hm).1
  have hhigh : m + 128 ≤ (if n = 4 then 0x8F else 0xBF : UInt8).toNat := by
    split_ifs with hlast
    · exact Nat.add_le_add_right (Nat.le_of_lt_succ (hbeyond hlast)) 128
    · exact (continuing hm).2
  obtain ⟨hlow', hhigh'⟩ := continuing hl
  obtain ⟨hlow'', hhigh''⟩ := continuing hk
  rw [decodeFrom_start (start_four hn), decodeFrom_more hlow hhigh hm,
    decodeFrom_more hlow' hhigh' hl, decodeFrom_last hlow'' hhigh'' hk]

/-- A character is read back whole, and what follows it is read from a boundary. -/
theorem decodeFrom_encodeChar_append (c : Char) :
    decodeFrom .boundary (String.utf8EncodeChar c ++ rest) = c :: decodeFrom .boundary rest := by
  obtain ⟨v, hv⟩ : ∃ v, c.val.toNat = v := ⟨_, rfl⟩
  have hvalid : v < 0xD800 ∨ 0xDFFF < v ∧ v < 0x110000 := hv ▸ c.valid
  have hc : Char.ofNat v = c := hv ▸ Char.ofNat_toNat c
  simp only [String.utf8EncodeChar, hv]
  -- a value has one to four bytes, and is put together again from the bits in them
  split_ifs with hone htwo hthree
  · have hbyte : (UInt8.ofNat v).toNat = v := by
      rw [UInt8.toNat_ofNat']
      omega
    have hascii : UInt8.ofNat v < 0x80 := by
      rw [UInt8.lt_iff_toNat_lt, hbyte]
      exact Nat.lt_succ_of_le hone
    simp [decodeFrom, step, start, hascii, hbyte, hc]
  · have hvalue : v / 64 % 32 * 64 + v % 64 = v := by omega
    have hread := decodeFrom_two rest (n := v / 64 % 32) (m := v % 64)
      (by omega) (by omega) (by omega)
    rwa [hvalue, hc] at hread
  · have hvalue : (v / 4096 % 16 * 64 + v / 64 % 64) * 64 + v % 64 = v := by omega
    have hread := decodeFrom_three rest (n := v / 4096 % 16) (m := v / 64 % 64) (l := v % 64)
      (by omega) (by omega) (by omega) (by omega) (by omega)
    rwa [hvalue, hc] at hread
  · have hvalue : ((v / 262144 % 8 * 64 + v / 4096 % 64) * 64 + v / 64 % 64) * 64 + v % 64 = v := by
      omega
    have hread := decodeFrom_four rest (n := v / 262144 % 8) (m := v / 4096 % 64)
      (l := v / 64 % 64) (k := v % 64) (by omega) (by omega) (by omega) (by omega) (by omega)
      (by omega)
    rwa [hvalue, hc] at hread

/-- Every text is read back from its bytes. -/
@[simp] theorem decode_encode (text : List Char) : decode (encode text) = text := by
  induction text with
  | nil => rfl
  | cons c text ih =>
    rw [encode, List.flatMap_cons, decode, decodeFrom_encodeChar_append]
    exact congrArg (c :: ·) ih

end Proctor.Utf8
