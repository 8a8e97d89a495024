import Proctor.Program.Run
import Proctor.Proofs.Case.Delivery
import Proctor.Proofs.Catalog.Acceptance
import Proctor.Proofs.Program.Options
import Proctor.Proofs.Report.Statuses

/-!
# The exit code of the program

A run of the program that comes to its cases ends with code zero exactly when every case that the
filter selects has met its expectations. A run that does not come to them writes nothing and
changes nothing.
-/
namespace Proctor.Program
open Report

variable {σ : Type} (host : Host σ)

/-- What a run of the program on a catalog comes to. -/
structure Reported (settings : Settings) (patience : Nat) (catalog : Catalog) (w : World σ)
    (endings : List (Option CaseEnd)) (e : Ending) (w' : World σ) : Prop where
  /-- Every case is attempted once, in the order of the catalog. -/
  attempted : Attempts settings (TestCase.run host · (pace settings patience)) catalog.cases w
    endings w'
  /-- A case is run exactly when the filter is found in its name. -/
  run_iff : List.Forall₂ (fun c attempt => attempt.isSome = true ↔
    settings.filter.found c.name.toList = true) catalog.cases endings
  zero_iff : e.code = 0 ↔ List.Forall₂ (fun c attempt =>
    settings.filter.found c.name.toList = true → ∃ ending, attempt = some ending ∧ c.Met ending)
      catalog.cases endings
  zero_or_one : e.code = 0 ∨ e.code = 1
  /-- There is a status for every case, and the text tells of all attempts. -/
  report : ∃ report,
    ((runAll settings (TestCase.run host · (pace settings patience)) catalog).run.run {}).run w =
      ((.ok e.code, report), w') ∧ report.statuses = statusesOf catalog.cases endings
  stdout : e.stdout = (String.join (List.zipWith
    (page settings.verbose (columnWidth catalog)) catalog.cases endings)).toUTF8.toList
  /-- Only cases that are selected leave entries, and their processes are started in order. -/
  journal : ∃ parts : List (List Entry), w'.journal = parts.reverse.flatten ++ w.journal ∧
    List.Forall₂ (fun c part => if settings.filter.found c.name.toList
      then attempts part <+: c.processes.map (·.name) else part = []) catalog.cases parts

theorem reportCatalog_reported (settings : Settings) (catalog : Catalog) (patience : Nat)
    (w : World σ) :
    ∃ endings, Reported host settings patience catalog w endings
      ((reportCatalog host settings catalog patience).run w).1
      ((reportCatalog host settings catalog patience).run w).2 := by
  obtain ⟨endings, w', report, hattempts, hreport, hrun⟩ := runAll_attempts settings
    (TestCase.run host · (pace settings patience)) (r := {}) catalog rfl w
  have hcatalog : ∃ complained, (reportCatalog host settings catalog patience).run w =
      (⟨if 0 < report.failed then 1 else 0, report.writer.kept, complained⟩, w') := by
    rw [reportCatalog, StateT.run_bind, hrun]
    exact ⟨_, rfl⟩
  obtain ⟨complained, hcatalog⟩ := hcatalog
  rw [hcatalog]
  have hstatuses : report.statuses = statusesOf catalog.cases endings := by
    rw [hreport]
    rfl
  refine ⟨endings, hattempts, hattempts.run_iff, ?_, ?_, ⟨report, hrun, hstatuses⟩, ?_,
    hattempts.journal_eq⟩
  · have hfailed : report.failed = 0 ↔ List.Forall₂ (fun c attempt =>
        settings.filter.found c.name.toList = true → ∃ ending, attempt = some ending ∧ c.Met ending)
          catalog.cases endings := by
      rw [Report.failed, hstatuses]
      exact hattempts.failed_iff
    rw [← hfailed]
    change (if 0 < report.failed then 1 else 0) = 0 ↔ report.failed = 0
    split <;> omega
  · change (if 0 < report.failed then 1 else 0) = 0 ∨ (if 0 < report.failed then 1 else 0) = 1
    split <;> simp
  · change report.writer.kept = _
    rw [hreport]
    rfl

/-- A run of the program that is asked for neither help nor its version ends with code two if its
arguments cannot be read, and with code one if its filter is no pattern or its catalog cannot be
used. In these cases it writes nothing and leaves the world as it found it, but for reading the
catalog. In all others it ends as its report of the catalog does, for which the filter selects. -/
theorem run_ends (read : String → Run σ (Except Fault (List UInt8))) (arguments : List String)
    (verboseVariable : Option String) (patience : Nat) (w : World σ)
    (hhelp : Options.parse arguments verboseVariable ≠ .error .displayHelp)
    (hversion : Options.parse arguments verboseVariable ≠ .error .displayVersion) :
    ∃ e w', (run host read arguments verboseVariable patience).run w = (e, w') ∧
      match Options.parse arguments verboseVariable with
      | .error _ => e.code = 2 ∧ e.stdout = [] ∧ w' = w
      | .ok options =>
        match Pattern.compile .name (options.filter.getD "") with
        | .error _ => e.code = 1 ∧ e.stdout = [] ∧ w' = w
        | .ok filter =>
          ∃ file w₁, (read (options.catalog.getD Catalog.defaultPath)).run w = (file, w₁) ∧
            match Catalog.load (options.catalog.getD Catalog.defaultPath) file with
            | .error _ => e.code = 1 ∧ e.stdout = [] ∧ w' = w₁
            | .ok catalog => ∃ settings endings, Settings.ofOptions options = .ok settings ∧
                settings.filter = filter ∧
                Reported host settings patience catalog w₁ endings e w' := by
  obtain ⟨e, w', hrun⟩ : ∃ e w', (run host read arguments verboseVariable patience).run w = (e, w') :=
    ⟨_, _, rfl⟩
  refine ⟨e, w', hrun, ?_⟩
  rw [run] at hrun
  cases hparse : Options.parse arguments verboseVariable with
  | error fault =>
    rw [hparse] at hrun
    obtain ⟨rfl, rfl⟩ := Prod.mk.inj hrun
    cases fault
    case displayHelp => exact absurd hparse hhelp
    case displayVersion => exact absurd hparse hversion
    all_goals exact ⟨rfl, rfl, rfl⟩
  | ok options =>
    rw [hparse] at hrun
    cases hfilter : Pattern.compile .name (options.filter.getD "") with
    | error fault =>
      simp only [Settings.ofOptions_eq_error_iff.mpr hfilter] at hrun
      simp only [hfilter]
      obtain ⟨rfl, rfl⟩ := Prod.mk.inj hrun
      exact ⟨rfl, rfl, rfl⟩
    | ok filter =>
      obtain ⟨settings, hsettings, hselects, hpath⟩ := Settings.exists_ofOptions hfilter
      simp only [hsettings, hpath] at hrun
      simp only [hfilter]
      obtain ⟨file, w₁, hread, hload⟩ := Run.exists_of_run_bind hrun
      refine ⟨file, w₁, hread, ?_⟩
      cases hcatalog : Catalog.load (options.catalog.getD Catalog.defaultPath) file with
      | error fault =>
        rw [hcatalog] at hload
        obtain ⟨rfl, rfl⟩ := Prod.mk.inj hload
        exact ⟨rfl, rfl, rfl⟩
      | ok catalog =>
        rw [hcatalog] at hload
        obtain ⟨endings, hreported⟩ := reportCatalog_reported host settings catalog patience w₁
        rw [show (reportCatalog host settings catalog patience).run w₁ = (e, w') from hload]
          at hreported
        exact ⟨settings, endings, hsettings, hselects, hreported⟩

/-- A catalog of two cases of one process each. A code is expected of the second process. -/
def shortCatalog : List UInt8 :=
  ("[[case]]\nname = 'a'\nexec = ['p']\n[case.process.p]\ncmd = 'p'\ntimeout = 5\n" ++
    "[[case]]\nname = 'b'\nexec = ['p']\n[case.process.p]\ncmd = 'p'\nrc = 3\ntimeout = 5\n"
    ).toUTF8.toList

/-- A run of the program on that catalog with a filter, on a host whose processes soon exit with
code zero. -/
def shortRun (filter : String) : Ending × World (Nat × Nat) :=
  (run TestCase.exitingHost (fun _ => pure (.ok shortCatalog)) [filter] none 9).run { host := (0, 0) }

/-- Under a filter that is no pattern the run has code one. Under the first name in the other letter
case it has code zero, since the second case is skipped, which would have failed. -/
theorem run_ends_short :
    (∀ filter ∈ ["(", "A"], Options.parse [filter] none ≠ .error .displayHelp ∧
      Options.parse [filter] none ≠ .error .displayVersion) ∧
    ((shortRun "(").1.code = 1 ∧ (shortRun "(").1.stdout = [] ∧
      (shortRun "(").2 = { host := (0, 0) }) ∧
    (shortRun "A").1.code = 0 ∧ ∃ filter settings catalog ending,
      Pattern.compile .name "A" = .ok filter ∧ settings.filter = filter ∧
      catalog.cases.map (·.name) = ["a", "b"] ∧
      filter.found ['a'] = true ∧ filter.found ['b'] = false ∧
      Reported TestCase.exitingHost settings 9 catalog { host := (0, 0) } [some ending, none]
        (shortRun "A").1 (shortRun "A").2 := by
  refine ⟨by decide, ?_, by decide +kernel, ?_⟩
  · obtain ⟨e, w', hrun, h⟩ := run_ends TestCase.exitingHost (fun _ => pure (.ok shortCatalog)) ["("]
      none 9 { host := (0, 0) } (by decide) (by decide)
    obtain ⟨rfl, rfl⟩ : (shortRun "(").1 = e ∧ (shortRun "(").2 = w' := Prod.mk.inj hrun
    have hfilter : (Pattern.compile .name "(").toOption.isNone = true := by decide +kernel
    rw [show Options.parse ["("] none = .ok { filter := some "(" } by decide] at h
    cases hcompile : Pattern.compile .name "(" with
    | error fault =>
      simp only [Option.getD_some, hcompile] at h
      exact h
    | ok filter =>
      rw [hcompile] at hfilter
      cases hfilter
  · obtain ⟨e, w', hrun, h⟩ := run_ends TestCase.exitingHost (fun _ => pure (.ok shortCatalog)) ["A"]
      none 9 { host := (0, 0) } (by decide) (by decide)
    obtain ⟨rfl, rfl⟩ : (shortRun "A").1 = e ∧ (shortRun "A").2 = w' := Prod.mk.inj hrun
    have hfilter : (Pattern.compile .name "A").toOption.map (fun filter =>
        (filter.found ['a'], filter.found ['b'])) = some (true, false) := by decide +kernel
    have hnames : (Catalog.load Catalog.defaultPath (.ok shortCatalog)).toOption.map (fun catalog =>
        catalog.cases.map (·.name)) = some ["a", "b"] := by decide +kernel
    obtain ⟨filter, hsome, hfound⟩ := Option.map_eq_some_iff.mp hfilter
    obtain ⟨hfound, hmissed⟩ := Prod.mk.inj hfound
    obtain ⟨catalog, hsome', hnames⟩ := Option.map_eq_some_iff.mp hnames
    have hcompile : Pattern.compile .name "A" = .ok filter := Draft.toOption_eq_some_iff.mp hsome
    have hload : Catalog.load Catalog.defaultPath (.ok shortCatalog) = .ok catalog :=
      Draft.toOption_eq_some_iff.mp hsome'
    rw [show Options.parse ["A"] none = .ok { filter := some "A" } by decide] at h
    simp only [Option.getD_some, Option.getD_none, hcompile] at h
    obtain ⟨file, w₁, hread, h⟩ := h
    obtain ⟨rfl, rfl⟩ := Prod.mk.inj hread
    simp only [hload] at h
    obtain ⟨settings, endings, -, rfl, hreported⟩ := h
    obtain ⟨ending, rfl⟩ : ∃ ending, endings = [some ending, none] := by
      obtain ⟨c, rest, hcases, hname, hrest⟩ := List.map_eq_cons_iff.mp hnames
      obtain ⟨c', hrest, hname'⟩ := List.map_eq_singleton_iff.mp hrest
      have hrun := hreported.run_iff
      rw [hcases, hrest, List.forall₂_cons_left_iff] at hrun
      obtain ⟨attempt, _, hfirst, hrun, rfl⟩ := hrun
      obtain ⟨attempt', _, hsecond, hnil, rfl⟩ := List.forall₂_cons_left_iff.mp hrun
      obtain rfl := List.forall₂_nil_left_iff.mp hnil
      rw [hname] at hfirst
      rw [hname'] at hsecond
      obtain ⟨ending, rfl⟩ := Option.isSome_iff_exists.mp (hfirst.mpr hfound)
      cases attempt' with
      | none => exact ⟨ending, rfl⟩
      | some _ => exact absurd (hsecond.mp rfl) (Bool.eq_false_iff.mp hmissed)
    exact ⟨_, settings, catalog, ending, hcompile, rfl, hnames, hfound, hmissed, hreported⟩

end Proctor.Program
