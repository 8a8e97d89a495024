import Proctor.Proofs.Text.Bytes
import Proctor.Report.Basic
import Mathlib.Data.List.Forall2

/-!
# What a report attempts

A report attempts the cases of a catalog one by one: it runs a case that the filter selects, skips
one that it does not, and goes on with the next case whatever became of the last. As long as no
write fails, its text and its statuses tell of every attempt in the order of the catalog.
-/
namespace Proctor

/-- The status of an attempt, which ran a case to some end or skipped it. -/
def Status.ofAttempt : Option CaseEnd → Status
  | none => .skipped
  | some ending => ending.status

namespace Report
variable {τ : Type}

/-- Attempts at some cases in their order, with the world before and after them. A case that is not
selected leaves the world as it is. -/
inductive Attempts (settings : Settings) (runner : TestCase → StateM τ CaseEnd) :
    List TestCase → τ → List (Option CaseEnd) → τ → Prop
  | done (t : τ) : Attempts settings runner [] t [] t
  | skipped {c : TestCase} {rest : List TestCase} {endings : List (Option CaseEnd)} {t t' : τ}
      (h : settings.selects c.name = false) (hrest : Attempts settings runner rest t endings t') :
      Attempts settings runner (c :: rest) t (none :: endings) t'
  | ran {c : TestCase} {rest : List TestCase} {ending : CaseEnd}
      {endings : List (Option CaseEnd)} {t t₁ t' : τ} (h : settings.selects c.name = true)
      (hrun : (runner c).run t = (ending, t₁))
      (hrest : Attempts settings runner rest t₁ endings t') :
      Attempts settings runner (c :: rest) t (some ending :: endings) t'

section
variable {settings : Settings} {runner : TestCase → StateM τ CaseEnd} {c : TestCase}
  {cases before after : List TestCase} {endings endings' : List (Option CaseEnd)} {t t' : τ}

theorem Attempts.length_eq (h : Attempts settings runner cases t endings t') :
    cases.length = endings.length := by
  induction h with
  | done => rfl
  | skipped _ _ ih | ran _ _ _ ih => rw [List.length_cons, List.length_cons, ih]

/-- The first attempt, and the others. -/
theorem attempts_cons_iff {rest : List TestCase} {attempt : Option CaseEnd} :
    Attempts settings runner (c :: rest) t (attempt :: endings) t' ↔
      ∃ t₁, Attempts settings runner [c] t [attempt] t₁ ∧
        Attempts settings runner rest t₁ endings t' := by
  constructor
  · intro h
    cases h with
    | skipped hc hrest => exact ⟨_, .skipped hc (.done _), hrest⟩
    | ran hc hrun hrest => exact ⟨_, .ran hc hrun (.done _), hrest⟩
  · rintro ⟨t₁, hfirst, hrest⟩
    cases hfirst with
    | skipped hc hdone =>
      cases hdone
      exact .skipped hc hrest
    | ran hc hrun hdone =>
      cases hdone
      exact .ran hc hrun hrest

/-- What attempts come to is decided by the world in which they begin. -/
theorem Attempts.unique {t₁ t₂ : τ} (h : Attempts settings runner cases t endings t₁)
    (h' : Attempts settings runner cases t endings' t₂) : endings = endings' ∧ t₁ = t₂ := by
  induction h generalizing endings' with
  | done =>
    cases h'
    exact ⟨rfl, rfl⟩
  | skipped hc _ ih =>
    cases h' with
    | skipped _ hrest =>
      obtain ⟨rfl, rfl⟩ := ih hrest
      exact ⟨rfl, rfl⟩
    | ran hc' _ _ =>
      rw [hc] at hc'
      cases hc'
  | ran hc hrun _ ih =>
    cases h' with
    | skipped hc' _ =>
      rw [hc] at hc'
      cases hc'
    | ran _ hrun' hrest =>
      obtain ⟨rfl, rfl⟩ := Prod.mk.inj (hrun.symm.trans hrun')
      obtain ⟨rfl, rfl⟩ := ih hrest
      exact ⟨rfl, rfl⟩

end

/-- What is told of an attempt at a case. -/
def page (verbose : Bool) (width : Nat) (c : TestCase) (attempt : Option CaseEnd) : String :=
  announcement verbose width c ++ (attempt.elim "" (·.details verbose)) ++
    (Status.ofAttempt attempt).line

/-- The statuses of attempts at some cases, each with the name of its case. -/
def statusesOf (cases : List TestCase) (endings : List (Option CaseEnd)) :
    List (String × Status) :=
  List.zipWith (fun c attempt => (c.name, .ofAttempt attempt)) cases endings

theorem statusesOf_cons (c : TestCase) (cases : List TestCase) (attempt : Option CaseEnd)
    (endings : List (Option CaseEnd)) :
    statusesOf (c :: cases) (attempt :: endings) =
      (c.name, .ofAttempt attempt) :: statusesOf cases endings := rfl

/-- A report with some more text and some more statuses. -/
def extend (r : Report) (text : String) (statuses : List (String × Status)) : Report where
  writer := { r.writer with kept := r.writer.kept ++ text.toUTF8.toList }
  width := r.width
  statuses := r.statuses ++ statuses

@[simp] theorem extend_extend (r : Report) (s t : String) (earlier later : List (String × Status)) :
    (r.extend s earlier).extend t later = r.extend (s ++ t) (earlier ++ later) := by
  simp only [extend, Text.toUTF8_append, List.append_assoc]

theorem extend_nothing (r : Report) : r.extend "" [] = r := by
  simp [extend, Text.toList_eq]

section Writes
variable {r : Report} (h : r.writer.room = none)
include h

/-- A writer that is not limited takes every text. -/
theorem write_eq (text : String) : r.write text = (.ok (), r.extend text []) := by
  simp [write, Writer.write, Writer.writeBytes, h, extend]

/-- A text, and what is written next. -/
theorem put_seq {α : Type} (text : String) (f : Unit → Writing τ α) (t : τ) :
    ((put text >>= f).run.run r).run t = ((f ()).run.run (r.extend text [])).run t := by
  have hput : (put text : Writing τ Unit).run.run r = pure (r.write text) := rfl
  rw [ExceptT.run_bind, StateT.run_bind, hput, write_eq h, pure_bind]

end Writes

/-- A step that writes nothing, and what is done next. -/
theorem lift_seq {α β : Type} {m : StateM τ α} {t t₁ : τ} {a : α} (hm : m.run t = (a, t₁))
    (f : α → Writing τ β) (r : Report) :
    ((ExceptT.lift (StateT.lift m) >>= f).run.run r).run t = ((f a).run.run r).run t₁ := by
  rw [ExceptT.run_bind_lift, StateT.run_bind, StateT.run_lift, StateT.run_bind, StateT.run_bind, hm]
  rfl

variable (settings : Settings) (runner : TestCase → StateM τ CaseEnd) {c : TestCase} {r : Report}

/-- A case that is not selected is not run. -/
theorem runCase_skipped (hc : settings.selects c.name = false) (h : r.writer.room = none) (t : τ) :
    ((runCase settings runner c).run.run r).run t =
      ((.ok .skipped, r.extend (page settings.verbose r.width c none) []), t) := by
  have hcase : (runCase settings runner c).run.run r =
      (put (announcement settings.verbose r.width c) >>= fun _ =>
        put Status.skipped.line >>= fun _ => (pure .skipped : Writing τ Status)).run.run r := by
    rw [runCase, if_pos (by simp [hc])]
    rfl
  rw [hcase, put_seq h, put_seq (r := r.extend _ _) h, extend_extend]
  simp only [page, Option.elim_none, String.append_empty]
  rfl

/-- A case that is selected is run once, and its status is that of its end. -/
theorem runCase_ran (hc : settings.selects c.name = true) (h : r.writer.room = none) {t t₁ : τ}
    {ending : CaseEnd} (hrun : (runner c).run t = (ending, t₁)) :
    ((runCase settings runner c).run.run r).run t =
      ((.ok ending.status, r.extend (page settings.verbose r.width c (some ending)) []), t₁) := by
  have hcase : (runCase settings runner c).run.run r =
      (put (announcement settings.verbose r.width c) >>= fun _ =>
        ExceptT.lift (StateT.lift (runner c)) >>= fun ending =>
        put (ending.details settings.verbose) >>= fun _ =>
        put ending.status.line >>= fun _ =>
          (pure ending.status : Writing τ Status)).run.run r := by
    rw [runCase, if_neg (by simp [hc])]
    rfl
  rw [hcase, put_seq h, lift_seq hrun, put_seq (r := r.extend _ _) h, extend_extend,
    put_seq (r := r.extend _ _) h, extend_extend]
  rfl

/-- A report of one case is an attempt at it. -/
theorem runCase_attempt (h : r.writer.room = none) (c : TestCase) (t : τ) :
    ∃ attempt t₁, ((runCase settings runner c).run.run r).run t =
        ((.ok (.ofAttempt attempt), r.extend (page settings.verbose r.width c attempt) []), t₁) ∧
      ∀ rest endings t', Attempts settings runner rest t₁ endings t' →
        Attempts settings runner (c :: rest) t (attempt :: endings) t' := by
  cases hc : settings.selects c.name with
  | false =>
    exact ⟨none, t, runCase_skipped settings runner hc h t, fun _ _ _ hrest => .skipped hc hrest⟩
  | true =>
    obtain ⟨ending, t₁, hrun⟩ : ∃ ending t₁, (runner c).run t = (ending, t₁) := ⟨_, _, rfl⟩
    exact ⟨some ending, t₁, runCase_ran settings runner hc h hrun,
      fun _ _ _ hrest => .ran hc hrun hrest⟩

/-- Once a case has been reported its status is recorded, and the next one follows. -/
theorem recordCases_ok {rest : List TestCase} {r' : Report} {status : Status} {t t₁ : τ}
    (hc : ((runCase settings runner c).run.run r).run t = ((.ok status, r'), t₁)) :
    ((recordCases settings runner (c :: rest)).run.run r).run t =
      ((recordCases settings runner rest).run.run
        { r' with statuses := r'.statuses ++ [(c.name, status)] }).run t₁ := by
  rw [recordCases, ExceptT.run_bind, StateT.run_bind, StateT.run_bind, hc]
  rfl

/-- A write that fails ends a report. -/
theorem recordCases_error {rest : List TestCase} {r' : Report} {fault : WriteFault} {t t₁ : τ}
    (hc : ((runCase settings runner c).run.run r).run t = ((.error fault, r'), t₁)) :
    ((recordCases settings runner (c :: rest)).run.run r).run t = ((.error fault, r'), t₁) := by
  rw [recordCases, ExceptT.run_bind, StateT.run_bind, StateT.run_bind, hc]
  rfl

theorem recordCases_cons {rest : List TestCase} {text : String} {status : Status} {t t₁ : τ}
    (hc : ((runCase settings runner c).run.run r).run t = ((.ok status, r.extend text []), t₁)) :
    ((recordCases settings runner (c :: rest)).run.run r).run t =
      ((recordCases settings runner rest).run.run (r.extend text [(c.name, status)])).run t₁ := by
  have hrecord : { r.extend text [] with
      statuses := (r.extend text []).statuses ++ [(c.name, status)] } =
      r.extend text [(c.name, status)] := by
    simp [extend]
  rw [recordCases_ok settings runner hc, hrecord]

/-- The cases are attempted one after the other, and the report tells of every attempt. -/
theorem recordCases_attempts (cases : List TestCase) (h : r.writer.room = none) (t : τ) :
    ∃ endings t', Attempts settings runner cases t endings t' ∧
      ((recordCases settings runner cases).run.run r).run t =
        ((.ok (), r.extend (String.join (List.zipWith (page settings.verbose r.width) cases endings))
          (statusesOf cases endings)), t') := by
  induction cases generalizing r t with
  | nil =>
    refine ⟨[], t, .done t, ?_⟩
    rw [List.zipWith_nil_left, String.join_nil, statusesOf, List.zipWith_nil_left, extend_nothing]
    rfl
  | cons c rest ih =>
    obtain ⟨attempt, t₁, hcase, hattempt⟩ := runCase_attempt settings runner h c t
    obtain ⟨endings, t', hattempts, hrest⟩ :=
      ih (r := r.extend (page settings.verbose r.width c attempt) [(c.name, .ofAttempt attempt)]) h t₁
    refine ⟨attempt :: endings, t', hattempt _ _ _ hattempts, ?_⟩
    rw [recordCases_cons settings runner hcase, hrest, extend_extend, List.zipWith_cons_cons,
      String.join_cons]
    rfl

/-- A report of a catalog is one of its cases, with an answer if no write has failed. -/
theorem runAll_eq (catalog : Catalog) (t : τ) :
    ((runAll settings runner catalog).run.run r).run t =
      let ended := ((recordCases settings runner catalog.cases).run.run
        { r with width := columnWidth catalog }).run t
      ((ended.1.1.map fun _ => if 0 < ended.1.2.failed then 1 else 0, ended.1.2), ended.2) := by
  have hall : ((runAll settings runner catalog).run.run r).run t =
      ((recordCases settings runner catalog.cases >>= fun _ =>
        getThe Report >>= fun r => (pure (if 0 < r.failed then 1 else 0) : Writing τ Nat)).run.run
          { r with width := columnWidth catalog }).run t := rfl
  rw [hall, ExceptT.run_bind, StateT.run_bind, StateT.run_bind]
  generalize ((recordCases settings runner catalog.cases).run.run
    { r with width := columnWidth catalog }).run t = ended
  obtain ⟨⟨_ | _, r'⟩, t'⟩ := ended <;> rfl

/-- A report of a catalog attempts all of its cases. The answer tells whether one of the cases so
far has failed. -/
theorem runAll_attempts (catalog : Catalog) (h : r.writer.room = none) (t : τ) :
    ∃ endings t' report, Attempts settings runner catalog.cases t endings t' ∧
      report = { r with width := columnWidth catalog }.extend
        (String.join (List.zipWith (page settings.verbose (columnWidth catalog)) catalog.cases endings))
        (statusesOf catalog.cases endings) ∧
      ((runAll settings runner catalog).run.run r).run t =
        ((.ok (if 0 < report.failed then 1 else 0), report), t') := by
  obtain ⟨endings, t', hattempts, hrun⟩ := recordCases_attempts settings runner
    (r := { r with width := columnWidth catalog }) catalog.cases h t
  refine ⟨endings, t', _, hattempts, rfl, ?_⟩
  rw [runAll_eq, hrun]
  rfl

end Report
end Proctor
