import Mathlib.Tactic.ByContra

/-!
# The bytes of a text

Texts that stand one after the other take the bytes of the first and then those of the second.
-/
namespace Proctor.Text

/-- Reading bytes one by one from some place on reads all that are left there. -/
theorem toList_loop_eq {bytes : ByteArray} {left : List UInt8} {i : Nat}
    (h : bytes.data.toList.drop i = left) (read : List UInt8) :
    ByteArray.toList.loop bytes i read = read.reverse ++ left := by
  induction left generalizing i read with
  | nil =>
    have hi : bytes.size ≤ i := by simpa using List.drop_eq_nil_iff.mp h
    rw [ByteArray.toList.loop, if_neg (Nat.not_lt.mpr hi), List.append_nil]
  | cons b left ih =>
    have hi : i < bytes.data.toList.length := by
      by_contra hi
      rw [List.drop_eq_nil_of_le (Nat.not_lt.mp hi)] at h
      cases h
    rw [List.drop_eq_getElem_cons hi] at h
    obtain ⟨rfl, hleft⟩ := List.cons.inj h
    have hget : bytes.get! i = bytes.data.toList[i] := by
      have hi : i < bytes.data.size := by simpa using hi
      rw [ByteArray.get!, getElem!_pos bytes.data i hi, Array.getElem_toList]
    rw [ByteArray.toList.loop, if_pos (by simpa using hi), ih hleft, hget]
    simp

theorem toList_eq (bytes : ByteArray) : bytes.toList = bytes.data.toList := by
  rw [ByteArray.toList, toList_loop_eq (i := 0) rfl]
  rfl

theorem toUTF8_append (s t : String) :
    (s ++ t).toUTF8.toList = s.toUTF8.toList ++ t.toUTF8.toList := by
  simp only [toList_eq, String.toUTF8_eq_toByteArray, String.toByteArray_append]
  simp

end Proctor.Text
