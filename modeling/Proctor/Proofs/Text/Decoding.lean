import Proctor.Text.Utf8
import Mathlib.Tactic.SplitIfs

/-!
# How decoding goes on

The decoder reads byte by byte, so what it makes of some bytes is what it completes while it reads
them and then what their end completes. A byte of ASCII never continues a character: it stands for
itself in whatever state it is read. A newline comes from the byte of a newline alone, since all
forms that are longer than they need to be are refused.
-/
namespace Proctor.Utf8

/-- The state after some bytes, and the characters that they complete. -/
def read (s : State) : List UInt8 → State × List Char
  | [] => (s, [])
  | b :: bytes =>
    let r := read (step s b).1 bytes
    (r.1, (step s b).2 ++ r.2)

theorem decodeFrom_append (s : State) (bytes rest : List UInt8) :
    decodeFrom s (bytes ++ rest) = (read s bytes).2 ++ decodeFrom (read s bytes).1 rest := by
  induction bytes generalizing s with
  | nil => rfl
  | cons b bytes ih => simp only [List.cons_append, decodeFrom, read, ih, List.append_assoc]

theorem decodeFrom_eq (s : State) (bytes : List UInt8) :
    decodeFrom s bytes = (read s bytes).2 ++ finish (read s bytes).1 := by
  simpa [decodeFrom] using decodeFrom_append s bytes []

/-- The states that the decoder comes to: a byte that continues a character is none of ASCII, and
no character outside ASCII is completed to one within. -/
inductive Proper : State → Prop
  | boundary : Proper .boundary
  | inside {value owed : Nat} {low high : UInt8} (hlow : 0x80 ≤ low) (hhigh : high ≤ 0xBF)
      (hvalue : 0 < value ∨ 1 < owed ∧ 0x80 < low) : Proper (.inside value owed low high)

/-- The first byte of a character. The characters that begin with a zero value owe a byte that is
high enough to make up for it. -/
theorem proper_start (b : UInt8) : Proper (start b).1 := by
  simp only [start, UInt8.lt_iff_toNat_lt, ← UInt8.toNat_inj, UInt8.reduceToNat]
  split_ifs
  · exact .boundary
  · exact .boundary
  · exact .inside (by decide) (by decide) (.inl (by omega))
  · exact .inside (by decide) (by decide) (.inr (by decide))
  · exact .inside (by decide) (by decide) (.inl (by decide))
  · exact .inside (by decide) (by decide) (.inl (by omega))
  · exact .inside (by decide) (by decide) (.inr (by decide))
  · exact .inside (by decide) (by decide) (.inl (by omega))
  · exact .inside (by decide) (by decide) (.inl (by decide))
  · exact .boundary

/-- What continues a character to one that is not complete keeps the decoder on its way. -/
theorem Proper.step {s : State} (h : Proper s) (b : UInt8) : Proper (step s b).1 := by
  cases h with
  | boundary => exact proper_start b
  | @inside value owed low high hlow hhigh hvalue =>
    simp only [Utf8.step]
    split_ifs with hb howed
    · exact .boundary
    · have hpos : 0 < value * 64 + b.toNat % 64 := by
        simp only [UInt8.le_iff_toNat_le, UInt8.lt_iff_toNat_lt, UInt8.reduceToNat]
          at hb hhigh hvalue
        omega
      exact .inside (by decide) (by decide) (.inl hpos)
    · exact proper_start b

theorem Proper.read {s : State} (h : Proper s) (bytes : List UInt8) : Proper (read s bytes).1 := by
  induction bytes generalizing s with
  | nil => exact h
  | cons b bytes ih => exact ih (h.step b)

/-- A byte of ASCII ends what was read before it and begins anew. -/
theorem Proper.decodeFrom_cons {s : State} (h : Proper s) {b : UInt8} (hb : b < 0x80)
    (bytes : List UInt8) :
    decodeFrom s (b :: bytes) = finish s ++ decodeFrom .boundary (b :: bytes) := by
  cases h with
  | boundary => rfl
  | @inside value owed low high hlow =>
    have hrefused : ¬ (low ≤ b ∧ b ≤ high) := by
      simp only [UInt8.le_iff_toNat_le, UInt8.lt_iff_toNat_lt] at *
      omega
    simp only [decodeFrom, Utf8.step, if_neg hrefused, finish, List.cons_append, List.nil_append]

/-- What comes before a byte of ASCII does not bear on what comes after it. -/
theorem decode_append_cons {b : UInt8} (hb : b < 0x80) (bytes rest : List UInt8) :
    decode (bytes ++ b :: rest) = decode bytes ++ decode (b :: rest) := by
  have hproper : Proper (read .boundary bytes).1 := Proper.boundary.read bytes
  rw [decode, decodeFrom_append, hproper.decodeFrom_cons hb, ← List.append_assoc, ← decodeFrom_eq]
  rfl

theorem ofNat_eq_newline_iff (n : Nat) : Char.ofNat n = '\n' ↔ n = 10 := by
  constructor
  · intro h
    by_cases hn : n.isValidChar
    · rw [Char.ofNat, dif_pos hn] at h
      exact congrArg Char.toNat h
    · rw [Char.ofNat, dif_neg hn] at h
      exact absurd h (by decide)
  · rintro rfl
    rfl

theorem ofNat_toNat_eq_newline_iff (b : UInt8) : Char.ofNat b.toNat = '\n' ↔ b = 0x0A := by
  rw [ofNat_eq_newline_iff, ← UInt8.toNat_inj]
  rfl

/-- A byte outside ASCII that ends the text and continues no character is replaced. -/
theorem getLast?_start {b : UInt8} (hb : ¬ b < 0x80) :
    ((start b).2 ++ finish (start b).1).getLast? = some replacement := by
  unfold start
  rw [if_neg hb]
  split_ifs <;> rfl

/-- The last byte decides whether the last character is a newline, in whatever state it is read. -/
theorem Proper.exists_getLast? {s : State} (h : Proper s) (b : UInt8) :
    ∃ c, (decodeFrom s [b]).getLast? = some c ∧ (c = '\n' ↔ b = 0x0A) := by
  by_cases hb : b < 0x80
  · have hself : decodeFrom .boundary [b] = [Char.ofNat b.toNat] := by
      simp [decodeFrom, Utf8.step, start, hb, finish]
    rw [h.decodeFrom_cons hb, hself, List.getLast?_append]
    exact ⟨_, rfl, ofNat_toNat_eq_newline_iff b⟩
  · have hne : b ≠ 0x0A := by
      rintro rfl
      exact hb (by decide)
    have hreplaced : replacement = '\n' ↔ b = 0x0A := iff_of_false (by decide) hne
    cases h with
    | boundary => exact ⟨_, getLast?_start hb, hreplaced⟩
    | @inside value owed low high hlow hhigh hvalue =>
      simp only [decodeFrom, Utf8.step]
      split_ifs with hcontinues howed
      · have hother : Char.ofNat (value * 64 + b.toNat % 64) ≠ '\n' := by
          rw [ne_eq, ofNat_eq_newline_iff]
          omega
        exact ⟨_, rfl, iff_of_false hother hne⟩
      · exact ⟨_, rfl, hreplaced⟩
      · refine ⟨_, ?_, hreplaced⟩
        rw [List.cons_append, List.getLast?_cons, getLast?_start hb]
        rfl

/-- A text ends with a newline exactly when its bytes do. -/
theorem getLast?_decode_iff (bytes : List UInt8) :
    (decode bytes).getLast? = some '\n' ↔ bytes.getLast? = some 0x0A := by
  obtain rfl | ⟨init, b, rfl⟩ := List.eq_nil_or_concat bytes
  · simp [decode, decodeFrom, finish]
  · have hproper : Proper (read .boundary init).1 := Proper.boundary.read init
    obtain ⟨c, hlast, hc⟩ := hproper.exists_getLast? b
    rw [List.concat_eq_append, decode, decodeFrom_append, List.getLast?_append, hlast]
    simpa using hc

end Proctor.Utf8
