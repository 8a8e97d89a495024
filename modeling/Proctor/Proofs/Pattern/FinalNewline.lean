import Proctor.Pattern.Basic
import Proctor.Proofs.Text.Decoding

/-!
# The final newline

Output is decoded as a whole, and the newline at its end is left aside only afterwards. Since a
newline at the end of the text is a newline at the end of the output, whatever stands before it,
output with a newline added is accepted when the pattern is found in the text with or without that
newline, and no other newline is ever left aside.
-/
namespace Proctor

namespace Utf8

/-- A newline that is added to some bytes is added to their text. -/
@[simp] theorem decode_append_newline (bytes : List UInt8) :
    decode (bytes ++ [0x0A]) = decode bytes ++ ['\n'] :=
  decode_append_cons (by decide) bytes []

end Utf8

namespace Pattern

@[simp] theorem withoutNewline?_append (text : List Char) :
    withoutNewline? (text ++ ['\n']) = some text := by
  simp [withoutNewline?]

theorem withoutNewline?_eq_none {text : List Char} (h : text.getLast? ≠ some '\n') :
    withoutNewline? text = none := by
  simp [withoutNewline?, h]

variable (p : Pattern) (output : List UInt8)

theorem accepts_append_newline : p.accepts (output ++ [0x0A]) =
    (p.found (Utf8.decode output ++ ['\n']) || p.found (Utf8.decode output)) := by
  simp [accepts]

/-- Without a newline at its end, output is searched once. -/
theorem accepts_of_getLast?_ne (h : output.getLast? ≠ some 0x0A) :
    p.accepts output = p.found (Utf8.decode output) := by
  have hlast : (Utf8.decode output).getLast? ≠ some '\n' := by
    rwa [ne_eq, Utf8.getLast?_decode_iff]
  simp [accepts, withoutNewline?_eq_none hlast]

/-- Output with a newline added is accepted exactly when the pattern is found in the text of the
output or in that text with a newline added. Output that does not end with a newline is accepted
exactly when the pattern is found in its text. Of two newlines at the end the last one alone is ever
left aside. -/
theorem accepts_iff_found :
    (p.accepts (output ++ [0x0A]) = true ↔
      p.found (Utf8.decode output) = true ∨ p.found (Utf8.decode output ++ ['\n']) = true) ∧
    (output.getLast? ≠ some 0x0A →
      (p.accepts output = true ↔ p.found (Utf8.decode output) = true)) ∧
    (p.accepts (output ++ [0x0A, 0x0A]) = true ↔
      p.found (Utf8.decode output ++ ['\n']) = true ∨
        p.found (Utf8.decode output ++ ['\n', '\n']) = true) := by
  have hadded (output : List UInt8) : p.accepts (output ++ [0x0A]) = true ↔
      p.found (Utf8.decode output) = true ∨ p.found (Utf8.decode output ++ ['\n']) = true := by
    rw [accepts_append_newline, Bool.or_eq_true, or_comm]
  refine ⟨hadded output, fun h => by rw [p.accepts_of_getLast?_ne output h], ?_⟩
  have htwice := hadded (output ++ [0x0A])
  simpa using htwice

/-- A text is a pattern with some property if this holds of what it is read as. -/
theorem exists_of_any {source : String} {f : Pattern → Bool}
    (h : (ofText source).toOption.any f = true) : ∃ p, ofText source = .ok p ∧ f p = true := by
  cases hp : ofText source with
  | error fault =>
    rw [hp] at h
    cases h
  | ok p =>
    rw [hp] at h
    exact ⟨p, rfl, h⟩

/-- Output that ends inside a character. -/
def tornOutput : List UInt8 := [0x61, 0xE2, 0x82]

theorem accepts_iff_found_torn : ∃ p, ofText "^a.$" = .ok p ∧ tornOutput.getLast? ≠ some 0x0A ∧
    p.found (Utf8.decode tornOutput) = true ∧ p.accepts tornOutput = true ∧
    p.accepts (tornOutput ++ [0x0A]) = true ∧ p.accepts (tornOutput ++ [0x0A, 0x0A]) = false := by
  have hsearch : (ofText "^a.$").toOption.any (fun p =>
      p.found ['a', Utf8.replacement] && !p.found ['a', Utf8.replacement, '\n'] &&
        !p.found ['a', Utf8.replacement, '\n', '\n']) = true := by decide +kernel
  have htext : Utf8.decode tornOutput = ['a', Utf8.replacement] := by decide
  have hlast : tornOutput.getLast? ≠ some 0x0A := by decide
  obtain ⟨p, hp, hsearch⟩ := exists_of_any hsearch
  simp only [Bool.and_eq_true, Bool.not_eq_true'] at hsearch
  obtain ⟨⟨hfound, hone⟩, htwo⟩ := hsearch
  obtain ⟨honce, hplain, htwice⟩ := accepts_iff_found p tornOutput
  rw [htext] at honce hplain htwice
  refine ⟨p, hp, hlast, htext ▸ hfound, (hplain hlast).mpr hfound, honce.mpr (.inl hfound), ?_⟩
  rw [← Bool.not_eq_true, htwice]
  simp [hone, htwo]

end Pattern
end Proctor
