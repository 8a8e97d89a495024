import Proctor.Case.Check
import Proctor.Proofs.Pattern.FinalNewline
import Proctor.Proofs.Text.Encoding
import Proctor.Proofs.Text.Order

/-!
# What a mismatch shows

A pattern is searched for in the text of the output, and a mismatch shows that text. Whatever bytes
were captured, the bytes of the text that is shown have the same text: they are accepted exactly when
the captured ones are, and a process that wrote them is told of the same mismatch.
-/
namespace Proctor

namespace Utf8

theorem toUTF8_decodeString (bytes : List UInt8) :
    (decodeString bytes).toUTF8.toList = encode (decode bytes) := by
  rw [Text.toUTF8_toList, decodeString, String.toList_ofList]
  rfl

/-- The bytes of what was decoded have the same text, however often characters were replaced. -/
theorem decodeString_toUTF8 (bytes : List UInt8) :
    decodeString (decodeString bytes).toUTF8.toList = decodeString bytes := by
  rw [toUTF8_decodeString, decodeString, decode_encode, decodeString]

end Utf8

namespace Pattern

/-- Only the text of output bears on whether it is accepted. -/
theorem accepts_congr (p : Pattern) {output other : List UInt8}
    (h : Utf8.decodeString other = Utf8.decodeString output) :
    p.accepts other = p.accepts output := by
  have htext : Utf8.decode other = Utf8.decode output := String.ofList_injective h
  simp only [accepts, htext]

theorem source_of_ofText {text : String} {p : Pattern} (h : ofText text = .ok p) :
    p.source = text :=
  (compileWithin_eq_ok_iff.mp h).2.1

end Pattern

namespace ProcessSpec
variable {spec : ProcessSpec} {result : ProcessResult} {process pattern actual : String}
  {stream : Stream}

theorem streamFailure?_eq_some_iff {failure : CheckFailure} :
    spec.streamFailure? result stream = some failure ↔
      (spec.expected stream).accepts (result.output stream) = false ∧
        failure = .mismatch spec.name stream (spec.expected stream).source
          (Utf8.decodeString (result.output stream)) := by
  simp only [streamFailure?]
  cases (spec.expected stream).accepts (result.output stream) with
  | true => exact iff_of_false (by simp) (by simp)
  | false => exact ⟨fun h => ⟨rfl, (Option.some.inj h).symm⟩, fun h => congrArg some h.2.symm⟩

/-- A mismatch is reported of a process that was started, of a stream that its pattern does not
accept. It shows the pattern and the text of the stream. -/
theorem mismatch_mem_iff : .mismatch process stream pattern actual ∈ spec.failures result ↔
    result.launchError = none ∧ (spec.expected stream).accepts (result.output stream) = false ∧
      process = spec.name ∧ pattern = (spec.expected stream).source ∧
        actual = Utf8.decodeString (result.output stream) := by
  cases hlaunch : result.launchError with
  | some reason => simp [failures, hlaunch]
  | none =>
    have hexit : .mismatch process stream pattern actual ∉ (spec.exitFailure? result).toList := by
      simp [exitFailure?]
    simp only [failures, hlaunch, List.mem_append, List.mem_filterMap, hexit, or_false, true_and,
      streamFailure?_eq_some_iff, CheckFailure.mismatch.injEq]
    constructor
    · rintro ⟨_, -, hrefused, hprocess, rfl, hpattern, hactual⟩
      exact ⟨hrefused, hprocess, hpattern, hactual⟩
    · rintro ⟨hrefused, hprocess, hpattern, hactual⟩
      have hall : stream ∈ Stream.all := by cases stream <;> decide
      exact ⟨stream, hall, hrefused, hprocess, rfl, hpattern, hactual⟩

/-- A mismatch comes up again when the text that it shows is the output. -/
structure Recurs (spec : ProcessSpec) (process : String) (stream : Stream)
    (pattern actual : String) : Prop where
  refused : (spec.expected stream).accepts actual.toUTF8.toList = false
  /-- A pattern that was read from some text is read from the one that is shown. -/
  pattern_eq : ∀ source, Pattern.ofText source = .ok (spec.expected stream) →
    Pattern.ofText pattern = .ok (spec.expected stream)
  again : ∀ result : ProcessResult, result.launchError = none →
    result.output stream = actual.toUTF8.toList →
      .mismatch process stream pattern actual ∈ (spec.verdict result).failures

theorem recurs_of_mem (h : .mismatch process stream pattern actual ∈ spec.failures result) :
    spec.Recurs process stream pattern actual := by
  obtain ⟨-, hrefused, rfl, rfl, rfl⟩ := mismatch_mem_iff.mp h
  have htext := Utf8.decodeString_toUTF8 (result.output stream)
  have hagain : (spec.expected stream).accepts
      (Utf8.decodeString (result.output stream)).toUTF8.toList = false := by
    rw [Pattern.accepts_congr _ htext, hrefused]
  refine ⟨hagain, fun source hsource => ?_, fun result' hlaunch houtput => ?_⟩
  · rw [Pattern.source_of_ofText hsource, hsource]
  · have hactual : Utf8.decodeString (result.output stream) =
        Utf8.decodeString (result'.output stream) := by
      rw [houtput, htext]
    exact mismatch_mem_iff.mpr ⟨hlaunch, houtput ▸ hagain, rfl, rfl, hactual⟩

end ProcessSpec

namespace Pattern

/-- Output is accepted exactly when the bytes of its text are, and so is all output of the same text.
Whatever mismatch a verdict tells of, the text that it shows is refused by the pattern that it shows,
and is told of again in the same words when it is the output. -/
theorem accepts_decodeString (p : Pattern) (output : List UInt8) :
    p.accepts (Utf8.decodeString output).toUTF8.toList = p.accepts output ∧
    (∀ other, Utf8.decodeString other = Utf8.decodeString output →
      p.accepts other = p.accepts output) ∧
    ∀ (spec : ProcessSpec) (result : ProcessResult) (process : String) (stream : Stream)
      (pattern actual : String),
      .mismatch process stream pattern actual ∈ (spec.verdict result).failures →
        spec.Recurs process stream pattern actual := by
  have hsame (other : List UInt8) (h : Utf8.decodeString other = Utf8.decodeString output) :
      p.accepts other = p.accepts output := p.accepts_congr h
  refine ⟨hsame _ (Utf8.decodeString_toUTF8 output), hsame, ?_⟩
  intro spec result process stream pattern actual h
  exact ProcessSpec.recurs_of_mem h

/-- A process that wrote output which ends inside a character. -/
def tornResult : ProcessResult := { (default : ProcessResult) with stdout := tornOutput }

/-- The character that was cut short is shown as a replacement, and that has a form of its own. -/
theorem accepts_decodeString_torn : ∃ p, ofText "^a$" = .ok p ∧
    Utf8.decodeString [0x61, 0xEF, 0xBF, 0xBD] = Utf8.decodeString tornOutput ∧
    p.accepts [0x61, 0xEF, 0xBF, 0xBD] = p.accepts tornOutput ∧
    ∃ spec : ProcessSpec, spec.stdout = p ∧
      .mismatch "p" .stdout "^a$" "a\uFFFD" ∈ (spec.verdict tornResult).failures ∧
      spec.Recurs "p" .stdout "^a$" "a\uFFFD" := by
  have hsearch : (ofText "^a$").toOption.any (fun p => !p.accepts tornOutput) = true := by
    decide +kernel
  obtain ⟨p, hp, hrefused⟩ := exists_of_any hsearch
  have hrefused : p.accepts tornOutput = false := by simpa using hrefused
  have htext : Utf8.decodeString tornOutput = "a\uFFFD" := by decide +kernel
  have hshown : Utf8.decodeString [0x61, 0xEF, 0xBF, 0xBD] = Utf8.decodeString tornOutput := by
    decide +kernel
  let spec : ProcessSpec := { (default : ProcessSpec) with name := "p", stdout := p }
  have hstream : (spec.expected .stdout).accepts (tornResult.output .stdout) = false := hrefused
  have htold : .mismatch "p" .stdout "^a$" "a\uFFFD" ∈ (spec.verdict tornResult).failures :=
    ProcessSpec.mismatch_mem_iff.mpr ⟨rfl, hstream, rfl, (source_of_ofText hp).symm, htext.symm⟩
  obtain ⟨-, hsame, hrecurs⟩ := accepts_decodeString p tornOutput
  exact ⟨p, hp, hshown, hsame _ hshown, spec, rfl, htold, hrecurs _ _ _ _ _ _ htold⟩

end Pattern
end Proctor
