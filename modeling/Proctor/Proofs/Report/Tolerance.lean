import Proctor.Proofs.Report.Diagnostics

/-!
# Exits that are not enforced

An expected code of zero accepts every exit, and an exit that is accepted leaves no trace: it is
told of by the check that it fails and by nothing else. So two reports whose cases come to the same
results but for such exits are the same report, byte for byte and with the same answer. An expected
code other than zero accepts that code alone.
-/
namespace Proctor

/-- Two results of a process that are the same in all that is checked and shown. Their exits may
differ if the expected code is zero. -/
structure ProcessSpec.Tolerates (spec : ProcessSpec) (r r' : ProcessResult) : Prop where
  name : r'.name = r.name
  output : ∀ stream, r'.output stream = r.output stream
  launchError : r'.launchError = r.launchError
  exit : spec.exitCode ≠ 0 → r'.exit = r.exit

/-- Two outcomes of a case in the same phase whose results, place by place, are the same but for
exits that are not enforced. -/
structure TestCase.Tolerates (c : TestCase) (o o' : Outcome) : Prop where
  phase : o'.phase = o.phase
  results : ∀ (place : Nat) (spec : ProcessSpec) (r r' : ProcessResult),
    c.processes[place]? = some spec → o.results[place]? = some r → o'.results[place]? = some r' →
      spec.Tolerates r r'

/-- Two attempts at a case that came to the same end, or to two such outcomes. -/
inductive TestCase.Tolerated (c : TestCase) : Option CaseEnd → Option CaseEnd → Prop
  | same (attempt : Option CaseEnd) : c.Tolerated attempt attempt
  | outcomes {o o' : Outcome} (h : c.Tolerates o o') :
      c.Tolerated (some (.outcome o)) (some (.outcome o'))

/-- Two outcomes of which the same is told. -/
structure Outcome.ToldAlike (o o' : Outcome) : Prop where
  verdicts : o'.verdicts = o.verdicts
  failures : o'.failures = o.failures
  passed : o'.passed = o.passed
  status : (CaseEnd.outcome o').status = (CaseEnd.outcome o).status
  details : ∀ verbose, Report.details verbose o' = Report.details verbose o

namespace ProcessSpec.Tolerates
variable {spec : ProcessSpec} {r r' : ProcessResult}

/-- Any exit does if the expected code is zero. -/
theorem of_exit (h : spec.exitCode = 0) (r : ProcessResult) (exit : Exit) :
    spec.Tolerates r { r with exit } where
  name := rfl
  output stream := by cases stream <;> rfl
  launchError := rfl
  exit hne := absurd h hne

theorem exitFailure?_eq (h : spec.Tolerates r r') : spec.exitFailure? r' = spec.exitFailure? r := by
  by_cases hzero : spec.exitCode = 0
  · simp [exitFailure?, Exit.satisfies, hzero]
  · rw [exitFailure?, exitFailure?, h.exit hzero]

theorem verdict_eq (h : spec.Tolerates r r') : spec.verdict r' = spec.verdict r := by
  have hstreams : spec.streamFailure? r' = spec.streamFailure? r := by
    funext stream
    simp only [streamFailure?, h.output]
  simp only [verdict, ProcessSpec.failures, h.launchError, hstreams, h.exitFailure?_eq]

theorem output_eq (h : spec.Tolerates r r') : Report.output r' = Report.output r := by
  simp only [Report.output, h.name, h.output]

end ProcessSpec.Tolerates

/-- A list is combined with two others to the same list if this holds at every place. -/
theorem zipWith_eq_of_places {α β γ : Type} {f : α → β → γ} {as : List α} {bs bs' : List β}
    (hlength : bs'.length = bs.length) (h : ∀ (place : Nat) (a : α) (b b' : β),
      as[place]? = some a → bs[place]? = some b → bs'[place]? = some b' → f a b' = f a b) :
    List.zipWith f as bs' = List.zipWith f as bs := by
  refine List.ext_getElem? fun place => ?_
  rw [List.getElem?_zipWith, List.getElem?_zipWith]
  by_cases hplace : place < bs.length
  · have hb := List.getElem?_eq_getElem hplace
    have hb' := List.getElem?_eq_getElem (hlength ▸ hplace)
    rw [hb, hb']
    cases ha : as[place]? with
    | none => rfl
    | some a => exact congrArg some (h place a _ _ ha hb hb')
  · have hb : bs[place]? = none := List.getElem?_eq_none (by omega)
    have hb' : bs'[place]? = none := List.getElem?_eq_none (by omega)
    rw [hb, hb']

namespace TestCase
variable {σ σ' : Type} {host : Host σ} {host' : Host σ'} {c : TestCase}
  {entries entries' : List Entry} {subjects subjects' : List Subject} {o o' : Outcome}

/-- Exits that are not enforced are not told of. -/
theorem Tolerates.toldAlike (h : c.Tolerates o o')
    (hcourse : Course host c entries (.outcome o) subjects)
    (hcourse' : Course host' c entries' (.outcome o') subjects') : o.ToldAlike o' := by
  obtain ⟨phase, results, -, rfl, hlength⟩ := hcourse.outcome
  obtain ⟨phase', results', -, rfl, hlength'⟩ := hcourse'.outcome
  have hphase : phase' = phase := h.phase
  have hsame : results'.length = results.length := hlength'.trans hlength.symm
  have hverdicts : (c.conclude phase' results').verdicts = (c.conclude phase results).verdicts :=
    zipWith_eq_of_places hsame fun place spec r r' hspec hr hr' =>
      (h.results place spec r r' hspec hr hr').verdict_eq
  have hoverrun : (c.conclude phase' results').caseFailures =
      (c.conclude phase results).caseFailures := by
    simp only [conclude, hphase]
  have hfailures : (c.conclude phase' results').failures = (c.conclude phase results).failures := by
    rw [Outcome.failures, Outcome.failures, hverdicts, hoverrun]
  have hpassed : (c.conclude phase' results').passed = (c.conclude phase results).passed := by
    rw [Outcome.passed, Outcome.passed, hverdicts, hoverrun]
  have houtput : results'.map Report.output = results.map Report.output := by
    refine List.ext_getElem? fun place => ?_
    rw [List.getElem?_map, List.getElem?_map]
    by_cases hplace : place < c.processes.length
    · have hr := List.getElem?_eq_getElem (hlength ▸ hplace)
      have hr' := List.getElem?_eq_getElem (hlength' ▸ hplace)
      rw [hr, hr']
      exact congrArg some
        (h.results place _ _ _ (List.getElem?_eq_getElem hplace) hr hr').output_eq
    · rw [List.getElem?_eq_none (by omega), List.getElem?_eq_none (by omega)]
  refine ⟨hverdicts, hfailures, hpassed, ?_, fun verbose => ?_⟩
  · rw [CaseEnd.status, CaseEnd.status, h.phase, hpassed]
  · rw [Report.details, Report.details, hfailures]
    simp only [conclude, houtput]

/-- A case passes only if every exit is as expected, unless the expected code is zero. -/
theorem Course.enforced (hcourse : Course host c entries (.outcome o) subjects) {place : Nat}
    {spec : ProcessSpec} {r : ProcessResult} (hspec : c.processes[place]? = some spec)
    (hr : o.results[place]? = some r) (hcode : spec.exitCode ≠ 0)
    (hexit : r.exit ≠ .exited spec.exitCode) :
    o.passed = false ∧ (CaseEnd.outcome o).status = .failed := by
  have hfailed : o.passed = false := by
    obtain ⟨phase, results, -, rfl, hlength⟩ := hcourse.outcome
    rw [← Bool.not_eq_true, conclude_passed_iff hlength]
    rintro ⟨-, hmet⟩
    obtain ⟨hplace, rfl⟩ := List.getElem?_eq_some_iff.mp hspec
    obtain ⟨hplace', rfl⟩ := List.getElem?_eq_some_iff.mp hr
    exact (hmet.get hplace hplace').exit.elim hcode hexit
  refine ⟨hfailed, ?_⟩
  rw [hcourse.status_eq, hfailed]
  rfl

end TestCase

namespace Report
variable {σ σ' τ τ' : Type} {settings : Settings} {cases : List TestCase} {catalog : Catalog}
  {endings endings' : List (Option CaseEnd)}

/-- An end at some place is that of a run of the case at that place. -/
theorem Attempts.ran_at {runner : TestCase → StateM τ CaseEnd} {t t' : τ} {place : Nat}
    {c : TestCase} {ending : CaseEnd} (h : Attempts settings runner cases t endings t')
    (hc : cases[place]? = some c) (hending : endings[place]? = some (some ending)) :
    ∃ t₀ t₁, (runner c).run t₀ = (ending, t₁) := by
  induction h generalizing place with
  | done => simp at hc
  | skipped _ _ ih =>
    cases place with
    | zero => simp at hending
    | succ place => exact ih hc hending
  | ran _ hrun _ ih =>
    cases place with
    | zero =>
      obtain ⟨rfl, rfl⟩ : _ ∧ _ := ⟨by simpa using hc, by simpa using hending⟩
      exact ⟨_, _, hrun⟩
    | succ place => exact ih hc hending

/-- What comes of a report of some cases by its pages and its statuses. -/
def recorded (r : Report) (pages : List String) (statuses : List (String × Status)) :
    Except WriteFault Unit × Report :=
  match r.writer.room with
  | none => (.ok (), r.extend (String.join pages) statuses)
  | some n => (if span pages ≤ n then .ok () else .error .full,
      r.clip n (String.join pages) (statuses.take (fitting n pages)))

theorem recordCases_eq_recorded {runner : TestCase → StateM τ CaseEnd} {t t' : τ}
    (h : Attempts settings runner cases t endings t') (r : Report) :
    (((recordCases settings runner cases).run.run r).run t).1 =
      recorded r (pages settings r.width cases endings) (statusesOf cases endings) := by
  unfold recorded
  cases hroom : r.writer.room with
  | none =>
    obtain ⟨endings', _, hattempts, hrun⟩ := recordCases_attempts settings runner cases hroom t
    obtain ⟨rfl, -⟩ := h.unique hattempts
    rw [hrun]
    rfl
  | some n =>
    obtain ⟨_, -, hrun⟩ := recordCases_clip settings runner hroom h
    rw [hrun]

variable {c : TestCase} {host : Host σ} {host' : Host σ'} {pace pace' : Pace} {w w₁ : World σ}
  {w' w₁' : World σ'}

/-- Outcomes at the same place of two reports, one of which tolerates the other. -/
theorem toldAlike_at {place : Nat} {o o' : Outcome}
    (h : Attempts settings (TestCase.run host · pace) cases w endings w₁)
    (h' : Attempts settings (TestCase.run host' · pace') cases w' endings' w₁')
    (hc : cases[place]? = some c) (ho : endings[place]? = some (some (.outcome o)))
    (ho' : endings'[place]? = some (some (.outcome o'))) (htolerates : c.Tolerates o o') :
    o.ToldAlike o' := by
  obtain ⟨t, t₁, hrun⟩ := h.ran_at hc ho
  obtain ⟨t', t₁', hrun'⟩ := h'.ran_at hc ho'
  obtain ⟨_, _, hcourse⟩ := TestCase.run_course hrun
  obtain ⟨_, _, hcourse'⟩ := TestCase.run_course hrun'
  exact htolerates.toldAlike hcourse hcourse'

/-- Attempts at the same place of two reports have the same status and the same page. -/
theorem page_at {place : Nat} {attempt attempt' : Option CaseEnd}
    (h : Attempts settings (TestCase.run host · pace) cases w endings w₁)
    (h' : Attempts settings (TestCase.run host' · pace') cases w' endings' w₁')
    (hc : cases[place]? = some c) (ha : endings[place]? = some attempt)
    (ha' : endings'[place]? = some attempt') (htolerated : c.Tolerated attempt attempt') :
    Status.ofAttempt attempt' = .ofAttempt attempt ∧ ∀ verbose width,
      page verbose width c attempt' = page verbose width c attempt := by
  cases htolerated with
  | same => exact ⟨rfl, fun _ _ => rfl⟩
  | outcomes htolerates =>
    have htold := toldAlike_at h h' hc ha ha' htolerates
    have hstatus := htold.status
    refine ⟨hstatus, fun verbose width => ?_⟩
    have hdetails := htold.details verbose
    simp only [page, Option.elim_some, Status.ofAttempt, CaseEnd.details, hdetails, hstatus]

/-- An expected code of zero is never enforced: two reports of a catalog whose cases come to the
same ends, but for the exits of processes that are expected to end with zero, write the same text,
record the same statuses and give the same answer, and the same is told of all their cases. Any
other expected code is: a case passes only if the process has exited with that very code, and fails
if it was ended by a signal or if its exit is unknown. -/
theorem runAll_tolerates
    (h : Attempts settings (TestCase.run host · pace) catalog.cases w endings w₁)
    (h' : Attempts settings (TestCase.run host' · pace') catalog.cases w' endings' w₁')
    (htolerated : ∀ (place : Nat) (c : TestCase) (attempt attempt' : Option CaseEnd),
      catalog.cases[place]? = some c → endings[place]? = some attempt →
        endings'[place]? = some attempt' → c.Tolerated attempt attempt') :
    (∀ (place : Nat) (o o' : Outcome), endings[place]? = some (some (.outcome o)) →
      endings'[place]? = some (some (.outcome o')) → o.ToldAlike o') ∧
    (∀ r : Report, (((runAll settings (TestCase.run host' · pace') catalog).run.run r).run w').1 =
      (((runAll settings (TestCase.run host · pace) catalog).run.run r).run w).1) ∧
    ∀ (place place' : Nat) (c : TestCase) (o : Outcome) (spec : ProcessSpec)
      (result : ProcessResult), catalog.cases[place]? = some c →
      endings[place]? = some (some (.outcome o)) → c.processes[place']? = some spec →
      o.results[place']? = some result → spec.exitCode ≠ 0 → result.exit ≠ .exited spec.exitCode →
        o.passed = false ∧ (CaseEnd.outcome o).status = .failed := by
  have hsame : endings'.length = endings.length := h'.length_eq.symm.trans h.length_eq
  refine ⟨?_, fun r => ?_, ?_⟩
  · intro place o o' ho ho'
    obtain ⟨hplace, -⟩ := List.getElem?_eq_some_iff.mp ho
    have hc := List.getElem?_eq_getElem (h.length_eq ▸ hplace)
    cases htolerated place _ _ _ hc ho ho' with
    | same => exact ⟨rfl, rfl, rfl, rfl, fun _ => rfl⟩
    | outcomes htolerates => exact toldAlike_at h h' hc ho ho' htolerates
  · have hpages : pages settings (columnWidth catalog) catalog.cases endings' =
        pages settings (columnWidth catalog) catalog.cases endings :=
      zipWith_eq_of_places hsame fun place c attempt attempt' hc ha ha' =>
        (page_at h h' hc ha ha' (htolerated place c _ _ hc ha ha')).2 _ _
    have hstatuses : statusesOf catalog.cases endings' = statusesOf catalog.cases endings :=
      zipWith_eq_of_places hsame fun place c attempt attempt' hc ha ha' =>
        congrArg (c.name, ·) (page_at h h' hc ha ha' (htolerated place c _ _ hc ha ha')).1
    simp only [runAll_eq, recordCases_eq_recorded h, recordCases_eq_recorded h', hpages, hstatuses]
  · intro place place' c o spec result hc ho hspec hresult hcode hexit
    obtain ⟨t, t₁, hrun⟩ := h.ran_at hc ho
    obtain ⟨_, _, hcourse⟩ := TestCase.run_course hrun
    exact hcourse.enforced hspec hresult hcode hexit

open TestCase (exitingHost earlyPace)

/-- A host on which the second process is ended by a signal, and any other exits with code zero. -/
def killingHost : Host (Nat × Nat) where
  __ := exitingHost
  collect := fun pid (clock, count) =>
    (if clock < 12000000 then .pending
      else .ended (if pid = 2 then .ofSignal 9 else .ofCode 0), clock, count)

/-- The results of the case of which the first process is expected to end with code three and the
second one with code zero, by the exit of the second. -/
def strictResults (exit : Exit) : List ProcessResult := [
  ⟨"first", some 1, ⟨11000000⟩, [], [], .exited 0, none, none⟩,
  ⟨"second", some 2, ⟨22000000⟩, [], [], exit, none, none⟩]

/-- The run of that case on that host. -/
def killedRun : CaseEnd × World (Nat × Nat) :=
  (strictCase.run killingHost earlyPace).run { host := (0, 0) }

theorem runAll_tolerates_strict : ∃ o o', strictRun.1 = .outcome o ∧ killedRun.1 = .outcome o' ∧
    o.results = strictResults (.exited 0) ∧ o'.results = strictResults (.signaled 9) ∧
    strictCase.Tolerates o o' ∧ o.ToldAlike o' ∧ o'.passed = false ∧ ∀ r : Report,
      (((runAll plainSettings (TestCase.run killingHost · earlyPace)
          ⟨[strictCase]⟩).run.run r).run { host := (0, 0) }).1 =
        (((runAll plainSettings (TestCase.run exitingHost · earlyPace)
          ⟨[strictCase]⟩).run.run r).run { host := (0, 0) }).1 := by
  have hselected : plainSettings.selects strictCase.name = true := by decide +kernel
  have hfirst : strictRun.1.outcome?.map (fun o => (o.phase, o.results)) =
      some (.completed, strictResults (.exited 0)) := by
    decide +kernel
  have hsecond : killedRun.1.outcome?.map (fun o => (o.phase, o.results)) =
      some (.completed, strictResults (.signaled 9)) := by
    decide +kernel
  obtain ⟨o, hrun, ho⟩ := CaseEnd.exists_outcome hfirst
  obtain ⟨o', hrun', ho'⟩ := CaseEnd.exists_outcome hsecond
  obtain ⟨hphase, hresults⟩ := Prod.mk.inj ho
  obtain ⟨hphase', hresults'⟩ := Prod.mk.inj ho'
  have htolerates : strictCase.Tolerates o o' := by
    refine ⟨hphase'.trans hphase.symm, fun place spec r r' hspec hr hr' => ?_⟩
    rw [hresults] at hr
    rw [hresults'] at hr'
    match place with
    | 0 =>
      cases hr
      cases hr'
      exact ⟨rfl, fun _ => rfl, rfl, fun _ => rfl⟩
    | 1 =>
      cases hspec
      cases hr
      cases hr'
      exact .of_exit rfl _ (.signaled 9)
    | place + 2 => cases hspec
  have hattempt : Attempts plainSettings (TestCase.run exitingHost · earlyPace)
      (Catalog.mk [strictCase]).cases { host := (0, 0) } [some (.outcome o)] strictRun.2 :=
    .ran hselected hrun (.done _)
  have hattempt' : Attempts plainSettings (TestCase.run killingHost · earlyPace)
      (Catalog.mk [strictCase]).cases { host := (0, 0) } [some (.outcome o')] killedRun.2 :=
    .ran hselected hrun' (.done _)
  have htolerated (place : Nat) (c : TestCase) (attempt attempt' : Option CaseEnd)
      (hc : [strictCase][place]? = some c) (ha : [some (.outcome o)][place]? = some attempt)
      (ha' : [some (.outcome o')][place]? = some attempt') : c.Tolerated attempt attempt' := by
    cases place with
    | zero =>
      cases hc
      cases ha
      cases ha'
      exact .outcomes htolerates
    | succ place => cases hc
  obtain ⟨houtcomes, hreports, henforced⟩ := runAll_tolerates hattempt hattempt' htolerated
  have hresult : o.results[0]? = (strictResults (.exited 0))[0]? := by rw [hresults]
  have htold : o.ToldAlike o' := houtcomes 0 o o' rfl rfl
  have hfailed : o.passed = false :=
    (henforced 0 0 strictCase o _ _ rfl rfl rfl hresult (by decide) (by decide)).1
  exact ⟨o, o', congrArg Prod.fst hrun, congrArg Prod.fst hrun', hresults, hresults', htolerates,
    htold, htold.passed.trans hfailed, hreports⟩

end Report
end Proctor
