import Proctor.Report.Basic

/-!
# The wording of a report

What stands in a report, word for word, apart from the functions that write it. A failed check is
told of after three exclamation marks, with all that it carries. The command lines of a case stand
below a heading, one for each process, and what a process wrote stands between markers, first its
standard output and then its standard error stream.
-/
namespace Proctor

/-- The word for a stream. -/
def Stream.word : Stream → String
  | .stdout => "stdout"
  | .stderr => "stderr"

/-- The words for the end of a process. -/
def Exit.words : Exit → String
  | .exited code => toString code
  | .signaled signal => "signal " ++ toString signal
  | .unknown => "unknown"

/-- A failed check, line by line. -/
def CheckFailure.lines : CheckFailure → List String
  | .launch process command reason =>
    [process ++ ": failed to launch '" ++ command ++ "': " ++ reason]
  | .mismatch process stream pattern actual =>
    ["actual " ++ process ++ " " ++ stream.word ++ " does not match expected pattern",
      " actual " ++ process ++ " " ++ stream.word ++ ":", "  >>>", actual, "  <<<",
      "  Expected regex: '" ++ pattern ++ "'"]
  | .exitCode process expected actual =>
    ["actual rc " ++ actual.words ++ " does not match expected " ++ toString expected ++ " for " ++
      process]
  | .deadline limit =>
    ["case did not complete within " ++ limit.text ++ ", surviving processes were terminated"]

namespace Report

/-- What a report tells of a failed check: an empty line, or the end of one that has begun, and
then the check after its mark. -/
def complaint (failure : CheckFailure) : String :=
  "\n !!! " ++ String.intercalate "\n" failure.lines ++ "\n"

/-- The name of a case in a column. -/
def heading (width : Nat) (c : TestCase) : String :=
  ">> " ++ c.name ++ String.ofList (List.replicate (width - c.name.length) ' ')

/-- The command lines of a case, in the order of their launch. -/
def commandBlock (c : TestCase) : String :=
  String.join (("=== '" ++ c.name ++ "' ===\n") :: c.processes.map fun spec =>
    "  " ++ spec.name ++ ": " ++
      String.intercalate " " (spec.command.program :: spec.command.args) ++ "\n")

/-- What was captured of a stream of a process, between its markers. -/
def captured (process stream : String) (output : List UInt8) : String :=
  "|| " ++ process ++ " " ++ stream ++ ": >>> " ++ Utf8.decodeString output ++ " <<<\n\n"

/-- What was captured of some processes, in their order. -/
def outputBlock (results : List ProcessResult) : String :=
  String.join (results.flatMap fun r =>
    [captured r.name "stdout" r.stdout, captured r.name "stderr" r.stderr])

/-- The last line about a case. -/
def closing : Status → String
  | .passed => "pass\n"
  | .failed => "fail\n"
  | .skipped => "skipped\n"
  | .exception cause => "exception while running test: " ++ cause ++ "\n"

theorem message_eq (failure : CheckFailure) :
    failure.message = String.intercalate "\n" failure.lines := by
  cases failure with
  | launch process command reason =>
    have hmessage : (CheckFailure.launch process command reason).message =
        process ++ ": failed to launch '" ++ command ++ "': " ++ reason := rfl
    rw [hmessage, CheckFailure.lines, String.intercalate_singleton]
  | mismatch process stream pattern actual =>
    have hmessage : (CheckFailure.mismatch process stream pattern actual).message =
        "actual " ++ (process ++ " " ++ stream.name) ++
          " does not match expected pattern\n actual " ++ (process ++ " " ++ stream.name) ++
          ":\n  >>>\n" ++ actual ++ "\n  <<<\n  Expected regex: '" ++ pattern ++ "'" := rfl
    have hword : stream.word = stream.name := by cases stream <;> rfl
    apply String.toList_injective
    simp [hmessage, CheckFailure.lines, hword, String.intercalate_cons_cons,
      String.intercalate_singleton]
  | exitCode process expected actual =>
    have hmessage : (CheckFailure.exitCode process expected actual).message =
        "actual rc " ++ actual.text ++ " does not match expected " ++ toString expected ++
          " for " ++ process := rfl
    have hwords : actual.words = actual.text := by cases actual <;> rfl
    rw [hmessage, CheckFailure.lines, String.intercalate_singleton, hwords]
  | deadline limit =>
    have hmessage : (CheckFailure.deadline limit).message =
        "case did not complete within " ++ limit.text ++
          ", surviving processes were terminated" := rfl
    rw [hmessage, CheckFailure.lines, String.intercalate_singleton]

theorem diagnostic_eq (failure : CheckFailure) : diagnostic failure = complaint failure := by
  rw [diagnostic, complaint, message_eq]

theorem announcement_eq (verbose : Bool) (width : Nat) (c : TestCase) :
    announcement verbose width c = heading width c ++ if verbose then commandBlock c else "" := by
  have hcommands : commands c = commandBlock c := by
    rw [commandBlock, String.join_cons]
    rfl
  rw [announcement, hcommands, heading, Text.padRight]
  simp only [String.append_assoc]

theorem output_eq (r : ProcessResult) : output r =
    captured r.name "stdout" r.stdout ++ captured r.name "stderr" r.stderr := by
  simp only [output, Stream.all, List.map_cons, List.map_nil, String.join_cons, String.join_nil,
    String.append_empty]
  rfl

theorem outputs_eq (results : List ProcessResult) :
    String.join (results.map output) = outputBlock results := by
  induction results with
  | nil => rfl
  | cons r rest ih =>
    rw [List.map_cons, String.join_cons, ih, output_eq, outputBlock, outputBlock, List.flatMap_cons,
      String.join_append, String.join_cons, String.join_cons, String.join_nil, String.append_empty]

theorem details_eq (verbose : Bool) (o : Outcome) : details verbose o =
    (if verbose then outputBlock o.results else "") ++ String.join (o.failures.map complaint) := by
  rw [details, outputs_eq, List.map_congr_left fun failure _ => diagnostic_eq failure]

theorem line_eq (status : Status) : status.line = closing status := by
  cases status <;> rfl

end Report
end Proctor
