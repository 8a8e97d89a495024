import Proctor.Proofs.Catalog.Acceptance
import Proctor.Proofs.Text.Words

/-!
# How commands are written

A command is checked for its words alone. A line therefore stands for the same command as the array
of its words, whichever blanks part them, and the text of a command that was written as a line can
be read as that command again.
-/
namespace Proctor.Draft
open Text

/-- Words of which there is a first one make a command. -/
theorem exists_commandLine {argv : List String} (hsome : argv ≠ [])
    (hwords : ∀ word ∈ argv, IsWord word) : ∃ command : CommandLine, command.toList = argv := by
  cases argv with
  | nil => exact absurd rfl hsome
  | cons program args => exact ⟨⟨program, args, (List.forall_mem_cons.mp hwords).1.nonempty⟩, rfl⟩

namespace Process
variable (p : Process) (c name : String)

/-- A table is checked for the words of its command, and not for how they are written. -/
theorem validate_command_congr {command command' : Command}
    (h : command.toList = command'.toList) :
    { p with command }.validate c name = { p with command := command' }.validate c name := by
  simp only [validate, h]

/-- A command that was written as a line and has passed its checks consists of words, those that the
line holds, and they are the words of its text. Words that are written as an array, or as a line
that holds them, make the same command, and all else is checked alike. -/
theorem validate_command_spelling :
    (∀ line spec, { p with command := .line line }.validate c name = .ok spec →
      (∀ word ∈ spec.command.toList, IsWord word) ∧ Holds spec.command.toList line ∧
        words spec.command.text = spec.command.toList) ∧
    ∀ argv line, argv ≠ [] → (∀ word ∈ argv, IsWord word) → Holds argv line →
      ∃ command : CommandLine, command.toList = argv ∧
        CommandLine.ofList? (Command.words argv).toList = some command ∧
        CommandLine.ofList? (Command.line line).toList = some command ∧
        { p with command := .line line }.validate c name =
          { p with command := .words argv }.validate c name ∧
        ∀ spec, { p with command := .line line }.validate c name = .ok spec →
          spec.command = command := by
  constructor
  · intro line spec hspec
    obtain ⟨-, hbecomes⟩ := of_validate hspec
    obtain ⟨hwords, hholds⟩ := hbecomes.command
    exact ⟨hwords, hholds, words_eq_iff.mpr ⟨hwords, holds_intercalate _⟩⟩
  · intro argv line hsome hwords hholds
    obtain ⟨command, hcommand⟩ := exists_commandLine hsome hwords
    have hline : (Command.line line).toList = argv := words_eq_iff.mpr ⟨hwords, hholds⟩
    have hargv : CommandLine.ofList? argv = some command := by
      rw [← hcommand, CommandLine.ofList?_toList]
    refine ⟨command, hcommand, hargv, hline ▸ hargv, validate_command_congr p c name hline, ?_⟩
    intro spec hspec
    obtain ⟨-, hbecomes⟩ := of_validate hspec
    have hsame : CommandLine.ofList? spec.command.toList = some command := by
      rw [← Command.toList_eq_iff.mpr hbecomes.command, hline, hargv]
    rw [CommandLine.ofList?_toList] at hsame
    exact Option.some.inj hsame

/-- A line with an ideographic space in front of its words, a next line and a tab between them, and
a line feed after them. -/
def wideLine : String := "\u3000sh\u0085\t-c ls\n"

/-- A table with that line. -/
def wideTable : Process := ⟨.line wideLine, [], "", "", 0, .ofInt 5, none⟩

theorem validate_command_spelling_wide : ∃ spec, wideTable.validate "c" "p" = .ok spec ∧
    (∀ word ∈ ["sh", "-c", "ls"], IsWord word) ∧ Holds ["sh", "-c", "ls"] wideLine ∧
    spec.command.toList = ["sh", "-c", "ls"] ∧ words spec.command.text = ["sh", "-c", "ls"] ∧
    { wideTable with command := .words ["sh", "-c", "ls"] }.validate "c" "p" = .ok spec := by
  have hvalid : (wideTable.validate "c" "p").toOption.isSome = true := by decide +kernel
  have hwords : words wideLine = ["sh", "-c", "ls"] := by decide
  obtain ⟨spec, hspec⟩ := Option.isSome_iff_exists.mp hvalid
  rw [toOption_eq_some_iff] at hspec
  obtain ⟨hsolid, hholds⟩ := words_eq_iff.mp hwords
  obtain ⟨hline, hargv⟩ := validate_command_spelling wideTable "c" "p"
  obtain ⟨-, -, htext⟩ := hline wideLine spec hspec
  obtain ⟨command, hcommand, -, -, hsame, hunique⟩ :=
    hargv ["sh", "-c", "ls"] wideLine (by decide) hsolid hholds
  have hlist : spec.command.toList = ["sh", "-c", "ls"] := by rw [hunique spec hspec, hcommand]
  exact ⟨spec, hspec, hsolid, hholds, hlist, htext.trans hlist, hsame.symm.trans hspec⟩

end Process
end Proctor.Draft
