import Proctor.Proofs.Case.Shape
import Proctor.Proofs.Report.Tolerance
import Proctor.Proofs.Report.Wording

/-!
# What a verbose report adds

A verbose report runs the same cases as a quiet one, records the same statuses and gives the same
answer. Its text is that of the quiet one with the command lines of every case put in after its
name, and with the captured output of every case that ended with an outcome put in after those. All
of it is spelled out, apart from the functions that write it.
-/
namespace Proctor

/-- The same settings for a verbose report, or for a quiet one. -/
def Settings.withVerbose (s : Settings) (verbose : Bool) : Settings := { s with verbose }

namespace Report
variable {σ σ' τ τ' : Type} {settings : Settings} {runner : TestCase → StateM τ CaseEnd}
  {runner' : TestCase → StateM τ' CaseEnd} {cases : List TestCase} {catalog : Catalog}
  {endings : List (Option CaseEnd)} {t t₁ : τ} {t' t₁' : τ'}

/-- What can be told of an attempt at a case, part by part. -/
structure Parts where
  heading : String
  commands : String
  captured : String
  closing : String

/-- What can be told of an attempt: the name of the case in its column, the command lines, the
captured output if there is an outcome, and the failed checks with the status. -/
def parts (width : Nat) (c : TestCase) (attempt : Option CaseEnd) : Parts where
  heading := heading width c
  commands := commandBlock c
  captured := match attempt with
    | some (.outcome o) => outputBlock o.results
    | _ => ""
  closing := (match attempt with
    | some (.outcome o) => String.join (o.failures.map complaint)
    | _ => "") ++ closing (Status.ofAttempt attempt)

namespace Parts

/-- What a quiet report tells. -/
def quiet (p : Parts) : String := p.heading ++ p.closing

/-- What a verbose report tells. -/
def verbose (p : Parts) : String := p.heading ++ p.commands ++ p.captured ++ p.closing

/-- What a report of one kind or the other tells. -/
def shown (p : Parts) : Bool → String
  | false => p.quiet
  | true => p.verbose

theorem shown_le_verbose (p : Parts) (verbose : Bool) :
    (p.shown verbose).utf8ByteSize ≤ p.verbose.utf8ByteSize := by
  cases verbose with
  | false =>
    simp only [shown, quiet, Parts.verbose, String.utf8ByteSize_append]
    omega
  | true => exact Nat.le_refl _

end Parts

theorem page_eq_shown (verbose : Bool) (width : Nat) (c : TestCase) (attempt : Option CaseEnd) :
    page verbose width c attempt = (parts width c attempt).shown verbose := by
  rw [page, announcement_eq, line_eq]
  cases verbose <;> rcases attempt with _ | _ | _ | _ | _ <;>
    simp [parts, Parts.shown, Parts.quiet, Parts.verbose, CaseEnd.details, details_eq,
      String.append_assoc]

/-- What can be told of attempts at all cases of a catalog. -/
def partsOf (catalog : Catalog) (endings : List (Option CaseEnd)) : List Parts :=
  List.zipWith (parts (columnWidth catalog)) catalog.cases endings

theorem pagesOf_withVerbose (settings : Settings) (verbose : Bool) (catalog : Catalog)
    (endings : List (Option CaseEnd)) :
    pagesOf (settings.withVerbose verbose) catalog endings =
      (partsOf catalog endings).map (·.shown verbose) := by
  rw [partsOf, List.map_zipWith]
  simp only [← page_eq_shown]
  rfl

theorem span_shown_le (ps : List Parts) (verbose : Bool) :
    span (ps.map (·.shown verbose)) ≤ span (ps.map (·.verbose)) := by
  induction ps with
  | nil => exact Nat.le_refl 0
  | cons p ps ih => exact Nat.add_le_add (p.shown_le_verbose verbose) ih

/-- Which cases are attempted depends on the filter alone. -/
theorem Attempts.withVerbose (h : Attempts settings runner cases t endings t₁) (verbose : Bool) :
    Attempts (settings.withVerbose verbose) runner cases t endings t₁ := by
  induction h with
  | done t => exact .done t
  | skipped hc _ ih => exact .skipped hc ih
  | ran hc hrun _ ih => exact .ran hc hrun ih

/-- A report has room for so many bytes. -/
def HasRoom (r : Report) (size : Nat) : Prop := ∀ n, r.writer.room = some n → size ≤ n

/-- Every case is announced if all pages fit. -/
theorem length_le_announced {width n : Nat} (hlength : cases.length = endings.length)
    (hfits : span (pages settings width cases endings) ≤ n) :
    cases.length ≤ announced settings width n cases endings := by
  induction cases generalizing n endings with
  | nil => exact Nat.zero_le _
  | cons c cases ih =>
    cases endings with
    | nil => cases hlength
    | cons attempt endings =>
      rw [pages, List.zipWith_cons_cons, span_cons] at hfits
      rw [announced, if_pos (by omega)]
      have hrest : span (pages settings width cases endings) ≤
          n - (page settings.verbose width c attempt).utf8ByteSize := Nat.le_sub_of_add_le' hfits
      exact Nat.succ_le_succ (ih (Nat.succ.inj hlength) hrest)

/-- A report for which there is room keeps the whole text and has all statuses. -/
theorem recorded_of_hasRoom {r : Report} {texts : List String} {statuses : List (String × Status)}
    (hroom : r.HasRoom (span texts)) (hlength : statuses.length = texts.length) :
    (recorded r texts statuses).1 = .ok () ∧
      (recorded r texts statuses).2.writer.kept =
        r.writer.kept ++ (String.join texts).toUTF8.toList ∧
      (recorded r texts statuses).2.statuses = r.statuses ++ statuses := by
  unfold recorded
  cases hlimit : r.writer.room with
  | none => exact ⟨rfl, rfl, rfl⟩
  | some n =>
    have hfits := hroom n hlimit
    have htext : (String.join texts).toUTF8.toList.take n = (String.join texts).toUTF8.toList := by
      refine List.take_of_length_le ?_
      rwa [Text.length_toUTF8, utf8ByteSize_join]
    have hstatuses : statuses.take (fitting n texts) = statuses := by
      rw [fitting_of_span_le hfits, ← hlength, List.take_length]
    refine ⟨if_pos hfits, ?_, ?_⟩
    · simp only [clip, htext]
    · simp only [clip, hstatuses]

/-- A report for which there is room attempts all cases. -/
theorem recordCases_of_hasRoom (h : Attempts settings runner cases t endings t₁) {r : Report}
    (hroom : r.HasRoom (span (pages settings r.width cases endings))) :
    ((recordCases settings runner cases).run.run r).run t =
      (recorded r (pages settings r.width cases endings) (statusesOf cases endings), t₁) := by
  refine Prod.ext (recordCases_eq_recorded h r) ?_
  cases hlimit : r.writer.room with
  | none =>
    obtain ⟨_, _, hattempts, hrun⟩ := recordCases_attempts settings runner cases hlimit t
    obtain ⟨rfl, rfl⟩ := h.unique hattempts
    rw [hrun]
  | some n =>
    obtain ⟨_, hattempts, hrun⟩ := recordCases_clip settings runner hlimit h
    have hall := length_le_announced h.length_eq (hroom n hlimit)
    rw [List.take_of_length_le hall, List.take_of_length_le (h.length_eq ▸ hall)] at hattempts
    obtain ⟨-, rfl⟩ := h.unique hattempts
    rw [hrun]

/-- The report of a catalog, quiet or verbose, for which there is room. -/
def whole (r : Report) (catalog : Catalog) (endings : List (Option CaseEnd)) (verbose : Bool) :
    Report :=
  (recorded { r with width := columnWidth catalog }
    ((partsOf catalog endings).map (·.shown verbose)) (statusesOf catalog.cases endings)).2

section Whole
variable {r : Report}

theorem HasRoom.shown (hroom : r.HasRoom (span ((partsOf catalog endings).map (·.verbose))))
    (verbose : Bool) : r.HasRoom (span ((partsOf catalog endings).map (·.shown verbose))) :=
  fun n hlimit => Nat.le_trans (span_shown_le _ verbose) (hroom n hlimit)

/-- What the whole report keeps and records. -/
theorem whole_told (hlength : catalog.cases.length = endings.length)
    (hroom : r.HasRoom (span ((partsOf catalog endings).map (·.verbose)))) (verbose : Bool) :
    (recorded { r with width := columnWidth catalog }
      ((partsOf catalog endings).map (·.shown verbose))
      (statusesOf catalog.cases endings)).1 = .ok () ∧
    (whole r catalog endings verbose).writer.kept = r.writer.kept ++
      (String.join ((partsOf catalog endings).map (·.shown verbose))).toUTF8.toList ∧
    (whole r catalog endings verbose).statuses =
      r.statuses ++ statusesOf catalog.cases endings :=
  recorded_of_hasRoom (r := { r with width := columnWidth catalog }) (hroom.shown verbose)
    (by simp [statusesOf, partsOf, hlength])

/-- With room for the verbose report, both reports attempt all cases and come to an answer. -/
theorem runAll_whole (h : Attempts settings runner catalog.cases t endings t₁)
    (hroom : r.HasRoom (span ((partsOf catalog endings).map (·.verbose)))) (verbose : Bool) :
    ((runAll (settings.withVerbose verbose) runner catalog).run.run r).run t =
      ((.ok (if 0 < (whole r catalog endings verbose).failed then 1 else 0),
        whole r catalog endings verbose), t₁) := by
  have hpages : pages (settings.withVerbose verbose) (columnWidth catalog) catalog.cases endings =
      (partsOf catalog endings).map (·.shown verbose) := pagesOf_withVerbose _ _ _ _
  have hrecord := recordCases_of_hasRoom (h.withVerbose verbose)
    (r := { r with width := columnWidth catalog }) (by rw [hpages]; exact hroom.shown verbose)
  rw [hpages] at hrecord
  rw [runAll_eq, hrecord]
  have hok := (whole_told h.length_eq hroom verbose).1
  simp only [hok]
  rfl

/-- A report that comes to an answer has room for its text. -/
theorem hasRoom_of_runAll (h : Attempts settings runner catalog.cases t endings t₁)
    {report : Report} {code : Nat} {t₂ : τ}
    (hrun : ((runAll settings runner catalog).run.run r).run t = ((.ok code, report), t₂)) :
    r.HasRoom (span (pagesOf settings catalog endings)) := by
  intro n hlimit
  by_contra hover
  have hfull : (recorded { r with width := columnWidth catalog }
      (pagesOf settings catalog endings) (statusesOf catalog.cases endings)).1 = .error .full := by
    simp only [recorded, hlimit, if_neg hover]
  have hrecord := recordCases_eq_recorded h { r with width := columnWidth catalog }
  have hanswer := congrArg (·.1.1) hrun
  simp only [runAll_eq, hrecord] at hanswer
  have hpages : pages settings (columnWidth catalog) catalog.cases endings =
      pagesOf settings catalog endings := rfl
  rw [hpages, hfull] at hanswer
  cases hanswer

/-- A verbose report comes to an answer exactly when there is room for its text. -/
theorem exists_answer_iff (h : Attempts settings runner catalog.cases t endings t₁) :
    (∃ code report t₂, ((runAll (settings.withVerbose true) runner catalog).run.run r).run t =
      ((.ok code, report), t₂)) ↔ r.HasRoom (span ((partsOf catalog endings).map (·.verbose))) := by
  constructor
  · rintro ⟨code, report, t₂, hrun⟩
    have hroom := hasRoom_of_runAll (h.withVerbose true) hrun
    rwa [pagesOf_withVerbose] at hroom
  · intro hroom
    exact ⟨_, _, _, runAll_whole h hroom true⟩

/-- A report that comes to an answer, with the world after it and the cases that are run for it. -/
structure Comes (settings : Settings) (runner : TestCase → StateM τ CaseEnd) (catalog : Catalog)
    (r : Report) (t : τ) (code : Nat) (report : Report) (t₁ : τ) (ran : List TestCase) : Prop where
  answer : ((runAll settings runner catalog).run.run r).run t = ((.ok code, report), t₁)
  ran : ((runAll settings (remembering runner) catalog).run.run r).run (t, []) =
    ((.ok code, report), t₁, ran)

theorem comes_whole (h : Attempts settings runner catalog.cases t endings t₁)
    (hroom : r.HasRoom (span ((partsOf catalog endings).map (·.verbose)))) (verbose : Bool) :
    Comes (settings.withVerbose verbose) runner catalog r t
      (if 0 < (whole r catalog endings verbose).failed then 1 else 0)
      (whole r catalog endings verbose) t₁ (catalog.cases.filter (settings.selects ·.name)) where
  answer := runAll_whole h hroom verbose
  ran := by
    have hremembering := h.remembering settings runner []
    rw [List.nil_append] at hremembering
    exact runAll_whole hremembering hroom verbose

/-- Two reports of the same attempts that went on from the same report. They agree in everything
but their texts, which have the same parts in the same order. -/
structure SameButShown (catalog : Catalog) (endings : List (Option CaseEnd))
    (r quiet verbose : Report) : Prop where
  statuses_eq : verbose.statuses = quiet.statuses
  failed_eq : verbose.failed = quiet.failed
  quiet_kept : quiet.writer.kept =
    r.writer.kept ++ (String.join ((partsOf catalog endings).map (·.quiet))).toUTF8.toList
  verbose_kept : verbose.writer.kept =
    r.writer.kept ++ (String.join ((partsOf catalog endings).map (·.verbose))).toUTF8.toList

theorem sameButShown_whole (hlength : catalog.cases.length = endings.length)
    (hroom : r.HasRoom (span ((partsOf catalog endings).map (·.verbose)))) :
    SameButShown catalog endings r (whole r catalog endings false)
      (whole r catalog endings true) := by
  obtain ⟨-, hquiet, hstatuses⟩ := whole_told hlength hroom false
  obtain ⟨-, hverbose, hstatuses'⟩ := whole_told hlength hroom true
  have hsame := hstatuses'.trans hstatuses.symm
  exact ⟨hsame, congrArg (·.countP (·.2.isFailure)) hsame, hquiet, hverbose⟩

/-- A quiet and a verbose report of attempts that come to the same ends, however the cases are run. -/
theorem exists_comes (h : Attempts settings runner catalog.cases t endings t₁)
    (h' : Attempts settings runner' catalog.cases t' endings t₁')
    (hroom : r.HasRoom (span ((partsOf catalog endings).map (·.verbose)))) :
    ∃ code quiet verbose ran,
      Comes (settings.withVerbose false) runner catalog r t code quiet t₁ ran ∧
      Comes (settings.withVerbose true) runner' catalog r t' code verbose t₁' ran ∧
      ran = catalog.cases.filter (settings.selects ·.name) ∧
      SameButShown catalog endings r quiet verbose := by
  have hsame := sameButShown_whole h.length_eq hroom
  have hquiet := comes_whole h hroom false
  have hverbose := comes_whole h' hroom true
  rw [hsame.failed_eq] at hverbose
  exact ⟨_, _, _, _, hquiet, hverbose, rfl, hsame⟩

/-- In one world a quiet and a verbose report come to the same ends and leave the same world, if the
writer is not limited. -/
theorem exists_comes_of_unlimited (settings : Settings) (runner : TestCase → StateM τ CaseEnd)
    (catalog : Catalog) (t : τ) (hlimit : r.writer.room = none) :
    ∃ endings t₁ code quiet verbose ran,
      Comes (settings.withVerbose false) runner catalog r t code quiet t₁ ran ∧
      Comes (settings.withVerbose true) runner catalog r t code verbose t₁ ran ∧
      SameButShown catalog endings r quiet verbose := by
  obtain ⟨endings, t₁, -, h, -, -⟩ := runAll_attempts settings runner catalog hlimit t
  have hroom : r.HasRoom (span ((partsOf catalog endings).map (·.verbose))) := by
    intro n hn
    rw [hlimit] at hn
    cases hn
  obtain ⟨code, quiet, verbose, ran, hquiet, hverbose, -, hsame⟩ := exists_comes h h hroom
  exact ⟨endings, t₁, code, quiet, verbose, ran, hquiet, hverbose, hsame⟩

/-- A quiet and a verbose report of a catalog whose cases come to the same ends, with room for all
that is told: the same cases are run, the same statuses are recorded and the answer is the same. The
texts differ in nothing but the command lines of every case and the captured output of every
outcome, which has one result for each process of the case in launch order. -/
theorem runAll_verbose {host : Host σ} {host' : Host σ'} {pace pace' : Pace} {w w₁ : World σ}
    {w' w₁' : World σ'}
    (h : Attempts settings (TestCase.run host · pace) catalog.cases w endings w₁)
    (h' : Attempts settings (TestCase.run host' · pace') catalog.cases w' endings w₁')
    (hroom : r.HasRoom (span ((partsOf catalog endings).map (·.verbose)))) :
    ∃ code quiet verbose ran,
      Comes (settings.withVerbose false) (TestCase.run host · pace) catalog r w code quiet w₁ ran ∧
      Comes (settings.withVerbose true) (TestCase.run host' · pace') catalog r w' code verbose w₁'
        ran ∧
      ran = catalog.cases.filter (settings.selects ·.name) ∧
      SameButShown catalog endings r quiet verbose ∧
      ∀ (place : Nat) (c : TestCase) (o : Outcome), catalog.cases[place]? = some c →
        endings[place]? = some (some (.outcome o)) →
          o.results.map (·.name) = c.processes.map (·.name) := by
  obtain ⟨code, quiet, verbose, ran, hquiet, hverbose, hran, hsame⟩ := exists_comes h h' hroom
  refine ⟨code, quiet, verbose, ran, hquiet, hverbose, hran, hsame, ?_⟩
  intro place c o hc ho
  obtain ⟨_, _, hrun⟩ := h.ran_at hc ho
  obtain ⟨_, _, hcourse⟩ := TestCase.run_course hrun
  exact hcourse.names_eq

end Whole

open TestCase (exitingHost earlyPace)

/-- Settings under which a case is run if its name begins with the letter s. -/
def choosySettings : Settings :=
  { plainSettings with filter := ⟨"^s", .sequence (.look .textStart) (.chars (.single 's'))⟩ }

/-- A catalog with a case that is run and one that is skipped. -/
def choosyCatalog : Catalog := ⟨[strictCase, { strictCase with name := "other" }]⟩

/-- The report of that catalog, quiet or verbose, word for word. -/
def choosyText : Bool → String
  | false => ">> strict    \n !!! actual rc 0 does not match expected 3 for first\nfail\n" ++
      ">> other     skipped\n"
  | true => ">> strict    === 'strict' ===\n  first: true\n  second: true\n" ++
      "|| first stdout: >>>  <<<\n\n|| first stderr: >>>  <<<\n\n" ++
      "|| second stdout: >>>  <<<\n\n|| second stderr: >>>  <<<\n\n" ++
      "\n !!! actual rc 0 does not match expected 3 for first\nfail\n" ++
      ">> other     === 'other' ===\n  first: true\n  second: true\nskipped\n"

theorem runAll_verbose_choosy : ∃ o, strictRun.1 = .outcome o ∧
    o.results.map (·.name) = ["first", "second"] ∧ ∃ code quiet verbose,
      Comes (choosySettings.withVerbose false) (TestCase.run exitingHost · earlyPace) choosyCatalog
        {} { host := (0, 0) } code quiet strictRun.2 [strictCase] ∧
      Comes (choosySettings.withVerbose true) (TestCase.run exitingHost · earlyPace) choosyCatalog
        {} { host := (0, 0) } code verbose strictRun.2 [strictCase] ∧
      SameButShown choosyCatalog [some (.outcome o), none] {} quiet verbose ∧
      quiet.writer.kept = (choosyText false).toUTF8.toList ∧
      verbose.writer.kept = (choosyText true).toUTF8.toList := by
  have hselected : choosySettings.selects "strict" = true := by decide +kernel
  have hskipped : choosySettings.selects "other" = false := by decide +kernel
  have htexts : strictRun.1.outcome?.map (fun o => [false, true].map fun verbose => String.join
      ((partsOf choosyCatalog [some (.outcome o), none]).map (·.shown verbose))) =
      some [choosyText false, choosyText true] := by
    decide +kernel
  obtain ⟨o, hrun, htexts⟩ := CaseEnd.exists_outcome htexts
  obtain ⟨hquietText, hverboseText⟩ : _ ∧ _ := by simpa using htexts
  have hattempts : Attempts choosySettings (TestCase.run exitingHost · earlyPace)
      choosyCatalog.cases { host := (0, 0) } [some (.outcome o), none] strictRun.2 :=
    .ran hselected hrun (.skipped hskipped (.done _))
  have hroom : ({} : Report).HasRoom
      (span ((partsOf choosyCatalog [some (.outcome o), none]).map (·.verbose))) := nofun
  obtain ⟨code, quiet, verbose, ran, hquiet, hverbose, hran, hsame, hnames⟩ :=
    runAll_verbose hattempts hattempts hroom
  have hfilter : choosyCatalog.cases.filter (choosySettings.selects ·.name) = [strictCase] := by
    simp [choosyCatalog, strictCase, hselected, hskipped]
  rw [hran, hfilter] at hquiet hverbose
  refine ⟨o, congrArg Prod.fst hrun, hnames 0 strictCase o rfl rfl, code, quiet, verbose, hquiet,
    hverbose, hsame, ?_, ?_⟩
  · rw [← hquietText]
    exact hsame.quiet_kept
  · rw [← hverboseText]
    exact hsame.verbose_kept

end Report
end Proctor
