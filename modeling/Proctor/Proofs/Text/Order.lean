import Proctor.Proofs.Text.Bytes
import Mathlib.Data.String.Basic
import Mathlib.Tactic.SplitIfs

/-!
# The order of texts

Texts are ordered by their characters, one after the other. The bytes of two texts are in the same
order: the encodings of two characters differ before either of them ends, and there the byte of the
smaller character is the smaller one.
-/
namespace Proctor.Text

theorem toUTF8_toList (s : String) : s.toUTF8.toList = s.toList.flatMap String.utf8EncodeChar := by
  rw [toList_eq, String.toUTF8_eq_toByteArray, ← String.utf8Encode_toList]
  simp [List.utf8Encode]

/-- Whatever follows two different characters, their encodings decide the order. -/
theorem encode_lt_encode {c d : Char} (h : c < d) (xs ys : List UInt8) :
    String.utf8EncodeChar c ++ xs < String.utf8EncodeChar d ++ ys := by
  have hlt : c.val.toNat < d.val.toNat := h
  have hd : d.val.toNat < 0x110000 := by
    have hvalid := d.valid
    omega
  simp only [String.utf8EncodeChar]
  -- each of the two characters has one to four bytes
  split_ifs <;>
    simp (disch := omega) only [List.cons_append, List.nil_append, List.cons_lt_cons_iff,
      UInt8.lt_iff_toNat_lt, ← UInt8.toNat_inj, UInt8.toNat_ofNat', Nat.mod_eq_of_lt] <;>
    omega

theorem flatMap_encode_lt {cs ds : List Char} (h : cs < ds) :
    cs.flatMap String.utf8EncodeChar < ds.flatMap String.utf8EncodeChar := by
  induction h with
  | @nil d ds =>
    have hne : String.utf8EncodeChar d ≠ [] := String.utf8EncodeChar_ne_nil
    obtain ⟨b, bs, hb⟩ := List.exists_cons_of_ne_nil hne
    rw [List.flatMap_nil, List.flatMap_cons, hb]
    exact List.nil_lt_cons b _
  | rel h =>
    rw [List.flatMap_cons, List.flatMap_cons]
    exact encode_lt_encode h _ _
  | cons _ ih =>
    rw [List.flatMap_cons, List.flatMap_cons]
    exact List.append_left_lt ih

/-- The order of two texts is that of their bytes. -/
theorem toUTF8_lt_iff (s t : String) : s.toUTF8.toList < t.toUTF8.toList ↔ s < t := by
  have hbytes {s t : String} (h : s < t) : s.toUTF8.toList < t.toUTF8.toList := by
    rw [toUTF8_toList, toUTF8_toList]
    exact flatMap_encode_lt h
  constructor
  · intro h
    by_contra hst
    obtain hts | rfl := lt_or_eq_of_le (not_lt.mp hst)
    · exact List.lt_asymm h (hbytes hts)
    · exact List.lt_irrefl _ h
  · exact hbytes

theorem toUTF8_le_iff (s t : String) : s.toUTF8.toList ≤ t.toUTF8.toList ↔ s ≤ t := by
  rw [← List.not_lt, toUTF8_lt_iff, not_lt]

end Proctor.Text
