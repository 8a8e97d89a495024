import Proctor.Case.Run
import Proctor.Proofs.Process.Termination
import Mathlib.Data.List.Forall2

/-!
# The course of a case

What a run of a case leaves in the journal, from the first entry to the last before its
processes are let go of. First come the launches, then steps of supervision, and then, if the
watchdog has fired, steps of termination. Every run takes such a course, whatever the host
answers, and what is shown of all courses is shown of all runs.
-/
namespace Proctor

/-- The outcome of a case that has one. -/
def CaseEnd.outcome? : CaseEnd → Option Outcome
  | .outcome o => some o
  | _ => none

theorem CaseEnd.outcome?_eq_some {ending : CaseEnd} {o : Outcome} :
    ending.outcome? = some o ↔ ending = .outcome o := by
  cases ending <;> simp [outcome?]

/-- A run that has something to show of its outcome ended with one. -/
theorem CaseEnd.exists_outcome {α β : Type} {run : CaseEnd × α} {f : Outcome → β} {b : β}
    (h : run.1.outcome?.map f = some b) : ∃ o, run = (.outcome o, run.2) ∧ f o = b := by
  obtain ⟨o, ho, hb⟩ := Option.map_eq_some_iff.mp h
  rw [CaseEnd.outcome?_eq_some] at ho
  exact ⟨o, Prod.ext ho rfl, hb⟩

namespace Subject

/-- What the launch of a process leaves in the journal, and its subject. -/
inductive Launched (spec : ProcessSpec) : List Entry → Subject → Prop
  | started (instant : Instant) (stdout stderr : Sink) (pid : Pid) :
      Launched spec [.spawned spec.name pid, .attempted spec.name]
        (ofChild spec instant stdout stderr pid)
  | unstarted (instant : Instant) (stdout stderr : Sink) (fault : Fault) :
      Launched spec [.attempted spec.name] (ofFault spec instant stdout stderr fault)

/-- Everything that is known of a subject from its launch on, and never changes. -/
def birth (s : Subject) : String × Option Injection × Option Pid × Instant × Option Fault :=
  (s.name, s.injection, s.pid, s.started, s.launchError)

variable {s s' : Subject} {spec : ProcessSpec} {c : Child} {e : Entry} {added : List Entry}

theorem Supervises.birth_eq (h : s.Supervises e s') : s'.birth = s.birth := by
  cases h with
  | inject _ _ _ _ => rfl
  | collect h | lose h => simp [birth, ended, record, pid, h.child]

theorem Terminates.birth_eq (h : s.Terminates e s') : s'.birth = s.birth := by
  cases h with
  | ask _ | askAlone _ | killGroup _ => rfl
  | collect h | lose h => simp [birth, record, pid, h.child]
  | killAlone h _ => simp [birth, pid, h.child]
  | reap h | loseKilled h | survive h => simp [birth, killed, pid, h.child]

theorem Launched.launches (h : Launched spec added s) : ∀ e ∈ added, e.launches = true := by
  cases h <;> simp [Entry.launches]

theorem Launched.accounted (h : Launched spec added s) (journal : List Entry) :
    s.Accounted journal := by
  cases h with
  | started instant stdout stderr pid => exact .waiting (c := { pid }) ⟨rfl, rfl, rfl, rfl⟩ (.inl rfl)
  | unstarted instant stdout stderr fault => exact .unstarted rfl ⟨rfl, rfl⟩

/-- Supervision of a subject starts afresh. -/
theorem Launched.fits (h : Launched spec added s) : Supervision.fresh.Fits s := by
  cases h with
  | started instant stdout stderr pid => exact .inr ⟨{ pid }, ⟨rfl, rfl, rfl, rfl⟩, rfl⟩
  | unstarted instant stdout stderr fault => exact .inl ⟨rfl, rfl⟩

/-- A subject that was launched for a process of a case, whether or not the process was started. -/
structure LaunchedAs (spec : ProcessSpec) (journal : List Entry) (s : Subject) : Prop where
  name_eq : s.name = spec.name
  injection_eq : s.injection = spec.injection
  unstarted_iff : s.launchError.isSome = true ↔ s.pid = none
  spawned : ∀ pid, s.pid = some pid → .spawned spec.name pid ∈ journal

theorem Launched.launchedAs (h : Launched spec added s) : s.LaunchedAs spec added := by
  cases h with
  | started instant stdout stderr pid =>
    refine ⟨rfl, rfl, by simp [ofChild, Subject.pid], ?_⟩
    rintro _ ⟨⟩
    exact List.mem_cons_self
  | unstarted instant stdout stderr fault =>
    refine ⟨rfl, rfl, by simp [ofFault, Subject.pid], fun pid hp => ?_⟩
    cases hp

theorem LaunchedAs.of_birth {journal journal' : List Entry} (h : s.LaunchedAs spec journal)
    (hbirth : s'.birth = s.birth) (hsub : journal ⊆ journal') : s'.LaunchedAs spec journal' := by
  simp only [birth, Prod.mk.injEq] at hbirth
  obtain ⟨hname, hinjection, hpid, -, herror⟩ := hbirth
  refine ⟨hname.trans h.name_eq, hinjection.trans h.injection_eq, ?_, fun pid hp => ?_⟩
  · rw [herror, hpid]
    exact h.unstarted_iff
  · rw [hpid] at hp
    exact hsub (h.spawned pid hp)

variable {σ : Type} (host : Host σ) (w : World σ)

/-- A launch fails before the host is asked to start the process, or not at all. -/
theorem launch_ensures (spec : ProcessSpec) :
    (launch host spec).Ensures w fun added r _ =>
      match r with
      | .ok s => Launched spec added s
      | .error _ => added = [] := by
  refine .except_seq (Run.ask_ensures _ _) (fun _ _ _ _ h => h) ?_
  rintro _ stdout w₁ - rfl
  refine .except_seq (Run.ask_ensures _ _) (fun _ _ _ _ h => by simpa using h) ?_
  rintro _ stderr w₂ - rfl
  refine .except_seq (Run.ask_ensures _ _) (fun _ _ _ _ h => by simpa using h) ?_
  rintro _ _ w₃ - rfl
  refine .except_seq (Run.ask_ensures _ _) (fun _ _ _ _ h => by simpa using h) ?_
  rintro _ _ w₄ - rfl
  refine .lift_seq (Run.now_ensures host w₄) ?_
  rintro _ instant w₅ - ⟨rfl, -⟩
  refine .lift_seq (.of_note (Q := fun added _ _ => added = [.attempted spec.name]) rfl) ?_
  rintro _ _ w₆ - rfl
  refine .lift_seq (Run.ask_ensures _ w₆) ?_
  rintro _ spawned w₇ - rfl
  cases spawned with
  | error fault => exact .of_pure (.unstarted instant stdout stderr fault)
  | ok pid =>
    refine .lift_seq (.of_note (Q := fun added _ _ => added = [.spawned spec.name pid]) rfl) ?_
    rintro _ _ w₈ - rfl
    exact .of_pure (.started instant stdout stderr pid)

end Subject

namespace TestCase
open Subject

variable {σ : Type} (host : Host σ)

/-- What the launch of some processes leaves in the journal, and how it ends. -/
inductive Launching :
    List ProcessSpec → List Entry → List Subject → Option Setback → Prop
  | done : Launching [] [] [] none
  | stalled {spec : ProcessSpec} {rest : List ProcessSpec} :
      Launching (spec :: rest) [] [] (some .stalled)
  /-- A launch was refused before the host was asked to start the process. -/
  | fault {spec : ProcessSpec} {rest : List ProcessSpec} {w : World σ} {fault : Fault}
      (h : ((launch host spec).run w).1 = .error fault) :
      Launching (spec :: rest) [] [] (some (.fault fault))
  | launched {spec : ProcessSpec} {rest : List ProcessSpec} {first later : List Entry}
      {s : Subject} {subjects : List Subject} {setback : Option Setback}
      (h : Launched spec first s) (hrest : Launching rest later subjects setback) :
      Launching (spec :: rest) (later ++ first) (s :: subjects) setback

/-- How the judgement of some subjects can end a case. -/
inductive Judged (c : TestCase) (phase : Phase) (subjects : List Subject) : CaseEnd → Prop
  | outcome {results : List ProcessResult}
      (h : List.Forall₂ (fun s r => ∃ stdout stderr, r = Subject.frozen s stdout stderr)
        subjects results) :
      Judged c phase subjects (.outcome (c.conclude phase results))
  | fault (fault : Fault) : Judged c phase subjects (.fault fault)

theorem Judged.phase_eq {c : TestCase} {phase : Phase} {subjects : List Subject} {o : Outcome}
    (h : Judged c phase subjects (.outcome o)) : o.phase = phase := by
  cases h
  rfl

/-- The result at some place is what is known of the subject there. -/
theorem Judged.result {c : TestCase} {phase : Phase} {subjects : List Subject} {o : Outcome}
    (h : Judged c phase subjects (.outcome o)) {place : Nat} {s : Subject}
    (hs : subjects[place]? = some s) :
    ∃ stdout stderr, o.results[place]? = some (s.frozen stdout stderr) := by
  obtain @⟨results, h⟩ := h
  change ∃ stdout stderr, results[place]? = some (s.frozen stdout stderr)
  induction h generalizing place with
  | nil => simp at hs
  | cons hfrozen _ ih =>
    cases place with
    | zero =>
      obtain rfl := Option.some.inj hs
      obtain ⟨stdout, stderr, rfl⟩ := hfrozen
      exact ⟨stdout, stderr, rfl⟩
    | succ place => exact ih hs

/-- The course of a case while it is awaited: all its processes were launched, and steps of
supervision have been taken. -/
inductive Awaited (c : TestCase) : List Entry → List Subject → Prop
  | mk {launched watched : List Entry} {subjects subjects' : List Subject}
      (hlaunch : Launching host c.processes launched subjects none)
      (hpath : Path (OneOf Supervises) subjects watched subjects') :
      Awaited c (watched ++ .phase .awaiting :: (launched ++ [.phase .launching, .phase .pending]))
        subjects'

/-- The course of a case, its end, and its subjects then. -/
inductive Course (c : TestCase) : List Entry → CaseEnd → List Subject → Prop
  /-- Not all of its processes were launched. -/
  | cut {launched : List Entry} {subjects : List Subject} {setback : Setback}
      (hlaunch : Launching host c.processes launched subjects (some setback)) :
      Course c (launched ++ [.phase .launching, .phase .pending]) setback.ending subjects
  /-- The clock cannot hold its deadline. -/
  | unarmed {launched : List Entry} {subjects : List Subject}
      (hlaunch : Launching host c.processes launched subjects none) :
      Course c (launched ++ [.phase .launching, .phase .pending])
        (.panic Instant.overflowMessage) subjects
  /-- The clock cannot hold the time of a signal, or a wait was given up. -/
  | broken {entries : List Entry} {subjects : List Subject} {ending : CaseEnd}
      (h : Awaited host c entries subjects)
      (hend : ending = .panic Instant.overflowMessage ∨ ending = .stalled) :
      Course c entries ending subjects
  | completed {entries : List Entry} {subjects : List Subject} {ending : CaseEnd}
      (h : Awaited host c entries subjects) (hidle : ∀ s ∈ subjects, s.Idle)
      (hjudged : Judged c .completed subjects ending) :
      Course c (.phase .completed :: entries) ending subjects
  | timedOut {entries terminated : List Entry} {subjects subjects' : List Subject}
      {ending : CaseEnd} (h : Awaited host c entries subjects)
      (hpath : Path (OneOf Terminates) subjects terminated subjects')
      (hidle : ∀ s ∈ subjects', s.Idle) (hjudged : Judged c .timedOut subjects' ending) :
      Course c (.phase .timedOut :: (terminated ++ .expired :: entries)) ending subjects'
  /-- A wait for a process that was asked to terminate was given up. -/
  | stuck {entries terminated : List Entry} {subjects subjects' : List Subject}
      (h : Awaited host c entries subjects)
      (hpath : Path (OneOf Terminates) subjects terminated subjects') :
      Course c (terminated ++ .expired :: entries) .stalled subjects'

section Launches
variable {host} {specs : List ProcessSpec} {launched : List Entry} {subjects : List Subject}
  {setback : Option Setback}

theorem Launching.accounted (h : Launching host specs launched subjects setback) :
    ∀ s ∈ subjects, s.Accounted launched := by
  induction h with
  | done | stalled | fault _ => simp
  | launched h _ ih =>
    rw [List.forall_mem_cons]
    exact ⟨h.accounted _, fun s hs => (ih s hs).mono (List.subset_append_left _ _)⟩

theorem Launching.fits (h : Launching host specs launched subjects setback) :
    ∀ s ∈ subjects, Supervision.fresh.Fits s := by
  induction h with
  | done | stalled | fault _ => simp
  | launched h _ ih =>
    rw [List.forall_mem_cons]
    exact ⟨h.fits, ih⟩

theorem Launching.launches (h : Launching host specs launched subjects setback) :
    ∀ e ∈ launched, e.launches = true := by
  induction h with
  | done | stalled | fault _ => simp
  | launched h _ ih =>
    intro e he
    rw [List.mem_append] at he
    exact he.elim (ih e) (h.launches e)

/-- The subject at some place was launched for the process at that place. -/
theorem Launching.launchedAs (h : Launching host specs launched subjects setback) {place : Nat}
    {s : Subject} (hs : subjects[place]? = some s) :
    ∃ spec, specs[place]? = some spec ∧ s.LaunchedAs spec launched := by
  induction h generalizing place with
  | done | stalled | fault _ => simp at hs
  | @launched spec _ _ _ _ _ _ h _ ih =>
    cases place with
    | zero =>
      obtain rfl := Option.some.inj hs
      exact ⟨spec, rfl, h.launchedAs.of_birth rfl (List.subset_append_right _ _)⟩
    | succ place =>
      obtain ⟨spec', hspec', hlaunched⟩ := ih hs
      exact ⟨spec', hspec', hlaunched.of_birth rfl (List.subset_append_left _ _)⟩

/-- What is injected into a process is what the catalog plans for it. -/
theorem Launching.injection_eq (h : Launching host specs launched subjects setback) {place : Nat}
    {s : Subject} (hs : subjects[place]? = some s) :
    ∃ spec, specs[place]? = some spec ∧ s.injection = spec.injection := by
  obtain ⟨spec, hspec, hlaunched⟩ := h.launchedAs hs
  exact ⟨spec, hspec, hlaunched.injection_eq⟩

/-- The launches come first in the entries of a case, and what is done later leaves its subjects
who they are. -/
inductive Begun (host : Host σ) (c : TestCase) (setback : Option Setback) :
    List Entry → List Subject → Prop
  | mk {launched later : List Entry} {started subjects : List Subject}
      (hlaunch : Launching host c.processes launched started setback)
      (hlater : ∀ e ∈ later, e.launches = false)
      (hbirth : subjects.map birth = started.map birth) :
      Begun host c setback (later ++ (launched ++ [.phase .launching, .phase .pending])) subjects

variable {c : TestCase} {entries later : List Entry} {subjects' : List Subject}

theorem Begun.go_on (h : Begun host c setback entries subjects)
    (hlater : ∀ e ∈ later, e.launches = false) (hbirth : subjects'.map birth = subjects.map birth) :
    Begun host c setback (later ++ entries) subjects' := by
  obtain ⟨hlaunch, hlater', hbirth'⟩ := h
  rw [← List.append_assoc]
  refine .mk hlaunch (fun e he => ?_) (hbirth.trans hbirth')
  rw [List.mem_append] at he
  exact he.elim (hlater e) (hlater' e)

theorem Begun.launchedAs (h : Begun host c setback entries subjects) {place : Nat} {s : Subject}
    (hs : subjects[place]? = some s) :
    ∃ spec, c.processes[place]? = some spec ∧ s.LaunchedAs spec entries := by
  obtain @⟨launched, later, started, _, hlaunch, -, hbirth⟩ := h
  obtain ⟨s₀, hs₀, hsame⟩ : ∃ s₀, started[place]? = some s₀ ∧ s₀.birth = s.birth := by
    have hplace := congrArg (·[place]?) hbirth
    simp only [List.getElem?_map, hs, Option.map_some] at hplace
    exact Option.map_eq_some_iff.mp hplace.symm
  obtain ⟨spec, hspec, hlaunched⟩ := hlaunch.launchedAs hs₀
  refine ⟨spec, hspec, hlaunched.of_birth hsame.symm fun e he => ?_⟩
  exact List.mem_append_right _ (List.mem_append_left _ he)

theorem Launching.begun (h : Launching host c.processes launched subjects setback) :
    Begun host c setback (launched ++ [.phase .launching, .phase .pending]) subjects :=
  have hnone : ∀ e ∈ ([] : List Entry), e.launches = false := by simp
  .mk h hnone rfl

theorem Awaited.begun (h : Awaited host c entries subjects) : Begun host c none entries subjects := by
  obtain ⟨hlaunch, hpath⟩ := h
  have hphase : ∀ e ∈ [Entry.phase .awaiting], e.launches = false := by simp [Entry.launches]
  exact (hlaunch.begun.go_on hphase rfl).go_on (hpath.forall_entry (·.not_launches))
    (hpath.map_eq (·.birth_eq))

/-- Every course begins with launches, and only a setback cuts them short. -/
theorem Course.begun {ending : CaseEnd} (h : Course host c entries ending subjects) :
    ∃ setback, Begun host c setback entries subjects ∧
      ∀ s, setback = some s → ending = s.ending := by
  have hlast (phase : Phase) : ∀ e ∈ [Entry.phase phase], e.launches = false := by
    simp [Entry.launches]
  have hexpired : ∀ e ∈ [Entry.expired], e.launches = false := by simp [Entry.launches]
  cases h with
  | cut h => exact ⟨_, h.begun, by rintro _ ⟨⟩; rfl⟩
  | unarmed h => exact ⟨none, h.begun, nofun⟩
  | broken h _ => exact ⟨none, h.begun, nofun⟩
  | completed h _ _ => exact ⟨none, h.begun.go_on (hlast _) rfl, nofun⟩
  | timedOut h hpath _ _ =>
    exact ⟨none, ((h.begun.go_on hexpired rfl).go_on (hpath.forall_entry (·.not_launches))
      (hpath.map_eq (·.birth_eq))).go_on (hlast _) rfl, nofun⟩
  | stuck h hpath =>
    exact ⟨none, (h.begun.go_on hexpired rfl).go_on (hpath.forall_entry (·.not_launches))
      (hpath.map_eq (·.birth_eq)), nofun⟩

/-- A course with an outcome has nothing left to do about any process, and has completed or
timed out. -/
theorem Course.concluded {o : Outcome} (h : Course host c entries (.outcome o) subjects) :
    (∀ s ∈ subjects, s.Idle) ∧ ∃ phase, Judged c phase subjects (.outcome o) ∧
      (phase = .completed ∧ (∃ earlier, entries = .phase .completed :: earlier ∧
        Awaited host c earlier subjects) ∨ phase = .timedOut) := by
  generalize hending : CaseEnd.outcome o = ending at h
  cases h with
  | @cut _ _ setback _ => cases setback <;> cases hending
  | unarmed _ | stuck _ _ => cases hending
  | broken _ hend => obtain rfl | rfl := hend <;> cases hending
  | completed h hidle hjudged =>
    subst hending
    exact ⟨hidle, .completed, hjudged, .inl ⟨rfl, _, rfl, h⟩⟩
  | timedOut _ _ hidle hjudged =>
    subst hending
    exact ⟨hidle, .timedOut, hjudged, .inr rfl⟩

end Launches

variable (w : World σ)

theorem launchAll_ensures (pace : Pace) (specs : List ProcessSpec) :
    (launchAll host pace specs).Ensures w fun added r _ =>
      Launching host specs added r.1 r.2 := by
  induction specs generalizing w with
  | nil => exact .of_pure .done
  | cons spec rest ih =>
    refine (Run.pause_ensures host w _ _).seq ?_
    rintro _ paused w₁ - rfl
    cases paused with
    | false => exact .of_pure .stalled
    | true =>
      refine (launch_ensures host w₁ spec).with_run.seq ?_
      rintro first r w₂ - ⟨⟨hrun, -⟩, hfirst⟩
      cases r with
      | error fault =>
        obtain rfl := hfirst
        exact .of_pure (.fault (congrArg Prod.fst hrun))
      | ok s =>
        refine (ih w₂).seq ?_
        rintro later ⟨subjects, setback⟩ w₃ - hrest
        refine .of_pure ?_
        simpa using Launching.launched hfirst hrest

/-- A case has completed when the supervision of every process is over. -/
theorem over_of_completed {supervised : List (Supervision × Subject)}
    (h : ending? supervised = some .completed) : ∀ x ∈ supervised, x.1 = .over := by
  unfold ending? at h
  split at h
  · cases h
  · split at h
    · rename_i hall
      simpa using hall
    · cases h

/-- Waiting takes steps of supervision, and completes only when every exit was seen. -/
theorem await_ensures (watchdog : Watchdog) (patience : Nat)
    (supervised : List (Supervision × Subject)) (h : ∀ x ∈ supervised, x.1.Fits x.2) :
    (await host watchdog patience supervised).Ensures w fun added r _ =>
      Path (OneOf Supervises) (supervised.map (·.2)) added r.2 ∧
        (r.1 = .completed → ∀ s ∈ r.2, s.exit.isSome) := by
  induction patience generalizing w watchdog supervised with
  | zero => exact .of_pure ⟨.refl _, nofun⟩
  | succ patience ih =>
    refine .ask_seq ?_
    split
    · exact .of_pure ⟨.refl _, nofun⟩
    · refine (superviseAll_ensures host _ supervised h).seq ?_
      rintro added next w₁ - ⟨hpath, hfits⟩
      split
      · rename_i ending hending
        refine .of_pure ⟨hpath, ?_⟩
        rintro rfl
        rw [List.forall_mem_map]
        intro x hx
        have hfit := hfits x hx
        rwa [over_of_completed hending x hx] at hfit
      · split
        · exact .of_pure ⟨hpath, nofun⟩
        · refine (Run.rest_ensures host w₁ _).seq ?_
          rintro _ _ w₂ - rfl
          refine (Run.now_ensures host w₂).seq ?_
          rintro _ t w₃ - ⟨rfl, -⟩
          refine (ih w₃ _ next hfits).mono ?_
          rintro later r w₄ - ⟨htail, hdone⟩
          exact ⟨by simpa using hpath.trans htail, hdone⟩

theorem finish_ensures (s : Subject) :
    (s.finish host).Ensures w fun added r _ => added = [] ∧
      ∀ result, r = .ok result → ∃ stdout stderr, result = s.frozen stdout stderr := by
  refine .except_seq (Run.ask_ensures _ _) (fun _ _ _ _ h => ⟨h, nofun⟩) ?_
  rintro _ stdout w₁ - rfl
  refine .except_seq (Run.ask_ensures _ _) (fun _ _ _ _ h => ⟨by simpa using h, nofun⟩) ?_
  rintro _ stderr w₂ - rfl
  refine .of_pure ⟨rfl, ?_⟩
  rintro _ ⟨⟩
  exact ⟨stdout, stderr, rfl⟩

/-- The results of some subjects are what is known of them. -/
theorem finishAll_ensures (subjects : List Subject) :
    (finishAll host subjects).Ensures w fun added r _ => added = [] ∧
      ∀ results, r = .ok results → List.Forall₂
        (fun s result => ∃ stdout stderr, result = Subject.frozen s stdout stderr)
        subjects results := by
  induction subjects generalizing w with
  | nil =>
    refine .of_pure ⟨rfl, ?_⟩
    rintro _ ⟨⟩
    exact .nil
  | cons s rest ih =>
    refine (finish_ensures host w s).seq ?_
    rintro _ r w₁ - ⟨rfl, hr⟩
    cases r with
    | error fault => exact .of_pure ⟨rfl, nofun⟩
    | ok result =>
      refine (ih w₁).seq ?_
      rintro _ r w₂ - ⟨rfl, hrest⟩
      refine .of_pure ⟨rfl, ?_⟩
      cases r with
      | error fault => exact nofun
      | ok results =>
        rintro _ ⟨⟩
        exact .cons (hr _ rfl) (hrest _ rfl)

theorem judge_ensures (c : TestCase) (phase : Phase) (subjects : List Subject) :
    (c.judge host phase subjects).Ensures w fun added ending _ =>
      added = [.phase phase] ∧ Judged c phase subjects ending := by
  refine .note_seq fun w₁ _ => ?_
  refine (finishAll_ensures host w₁ subjects).seq ?_
  rintro _ r w₂ - ⟨rfl, hr⟩
  cases r with
  | error fault => exact .of_pure ⟨rfl, .fault fault⟩
  | ok results => exact .of_pure ⟨rfl, .outcome (hr _ rfl)⟩

variable {c : TestCase} {entries : List Entry} {subjects : List Subject}

theorem overrun_ensures (pace : Pace) (h : Awaited host c entries subjects)
    (haccounted : ∀ s ∈ subjects, s.Accounted entries) :
    (c.overrun host pace subjects).Ensures w fun added r _ =>
      Course host c (added ++ entries) r.1 r.2 ∧ ∀ s ∈ r.2, s.Accounted (added ++ entries) := by
  refine .note_seq fun w₁ _ => ?_
  have hexpired : ∀ s ∈ subjects, s.Accounted (.expired :: entries) :=
    fun s hs => (haccounted s hs).append [.expired]
  refine (terminateAll_ensures host w₁ _ _ subjects hexpired).seq ?_
  rintro terminated ⟨ended, subjects'⟩ w₂ - ⟨hpath, haccounted', hidle⟩
  cases ended with
  | false =>
    refine .of_pure ?_
    simp only [List.nil_append, List.append_assoc, List.singleton_append]
    exact ⟨.stuck h hpath, haccounted'⟩
  | true =>
    refine (judge_ensures host w₂ c .timedOut subjects').seq ?_
    rintro _ ending w₃ - ⟨rfl, hjudged⟩
    refine .of_pure ?_
    simp only [List.nil_append, List.append_assoc, List.cons_append]
    exact ⟨.timedOut h hpath (hidle rfl) hjudged,
      fun s hs => (haccounted' s hs).append [.phase .timedOut]⟩

theorem watch_ensures (pace : Pace) {launched : List Entry}
    (h : Launching host c.processes launched subjects none) :
    (c.watch host pace subjects).Ensures w fun added r _ =>
      Course host c (added ++ (launched ++ [.phase .launching, .phase .pending])) r.1 r.2 ∧
        ∀ s ∈ r.2, s.Accounted (added ++ (launched ++ [.phase .launching, .phase .pending])) := by
  have hlaunched : ∀ s ∈ subjects, s.Accounted (launched ++ [.phase .launching, .phase .pending]) :=
    fun s hs => (h.accounted s hs).mono (List.subset_append_left _ _)
  refine (Run.now_ensures host w).seq ?_
  rintro _ now w₁ - ⟨rfl, -⟩
  split
  · exact .of_pure ⟨.unarmed h, hlaunched⟩
  · rename_i watchdog _
    refine .note_seq fun w₂ _ => ?_
    have hfits : ∀ x ∈ subjects.map (Supervision.fresh, ·), x.1.Fits x.2 := by
      rw [List.forall_mem_map]
      exact h.fits
    refine (await_ensures host w₂ watchdog pace.patience _ hfits).seq ?_
    rintro watched ⟨ending, subjects'⟩ w₃ - ⟨hpath, hexit⟩
    rw [List.map_map, Function.comp_def, List.map_id'] at hpath
    have hawaited : Awaited host c (watched ++ .phase .awaiting ::
        (launched ++ [.phase .launching, .phase .pending])) subjects' := .mk h hpath
    have haccounted := hpath.forall_mem (fun h => h.append [_]) (fun h hs => hs.accounted h)
      (fun s hs => (hlaunched s hs).append [.phase .awaiting])
    cases ending with
    | completed =>
      refine (judge_ensures host w₃ c .completed subjects').seq ?_
      rintro _ ending w₄ - ⟨rfl, hjudged⟩
      refine .of_pure ?_
      simp only [List.nil_append, List.append_assoc, List.cons_append]
      refine ⟨.completed hawaited (fun s hs => ?_) hjudged,
        fun s hs => (haccounted s hs).append [.phase .completed]⟩
      exact (haccounted s hs).idle_of_recorded (hexit rfl s hs)
    | timedOut =>
      refine (overrun_ensures host w₃ pace hawaited haccounted).mono ?_
      rintro added r w₄ - ⟨hcourse, haccounted'⟩
      simp only [List.append_nil, List.append_assoc, List.singleton_append]
      exact ⟨hcourse, haccounted'⟩
    | overflow =>
      refine .of_pure ?_
      simp only [List.nil_append, List.append_nil, List.append_assoc, List.singleton_append]
      exact ⟨.broken hawaited (.inl rfl), haccounted⟩
    | stalled =>
      refine .of_pure ?_
      simp only [List.nil_append, List.append_nil, List.append_assoc, List.singleton_append]
      exact ⟨.broken hawaited (.inr rfl), haccounted⟩

/-- Every run of a case takes a course, and no process escapes on the way. -/
theorem execute_ensures (c : TestCase) (pace : Pace) :
    (c.execute host pace).Ensures w fun added r _ =>
      Course host c added r.1 r.2 ∧ ∀ s ∈ r.2, s.Accounted added := by
  refine .note_seq fun w₁ _ => ?_
  refine .note_seq fun w₂ _ => ?_
  refine (launchAll_ensures host w₂ pace c.processes).seq ?_
  rintro launched ⟨subjects, setback⟩ w₃ - hlaunch
  cases setback with
  | some setback =>
    refine .of_pure ?_
    simp only [List.nil_append, List.append_assoc, List.singleton_append]
    exact ⟨.cut hlaunch, fun s hs => (hlaunch.accounted s hs).mono (List.subset_append_left _ _)⟩
  | none =>
    refine (watch_ensures host w₃ pace hlaunch).mono ?_
    rintro added r w₄ - h
    simpa only [List.append_assoc, List.singleton_append] using h

/-- However a case ends, its processes are let go of, and then every one of them is settled. -/
theorem run_ensures (c : TestCase) (pace : Pace) :
    (c.run host pace).Ensures w fun added ending _ =>
      ∃ executed dropped subjects w', (c.execute host pace).run w = ((ending, subjects), w') ∧
        w'.journal = executed ++ w.journal ∧ added = dropped ++ executed ∧
        Course host c executed ending subjects ∧ (∀ s ∈ subjects, s.Accounted executed) ∧
        Path (OneOf Discards) subjects dropped subjects ∧
        ∀ s ∈ subjects, ∀ child, s.child = some child → Settled added child.pid := by
  refine (execute_ensures host w c pace).with_run.seq ?_
  rintro executed ⟨ending, subjects⟩ w₁ - ⟨⟨hrun, hjournal⟩, hcourse, haccounted⟩
  refine (discardAll_ensures host w₁ subjects haccounted).seq ?_
  rintro dropped _ w₂ - ⟨hpath, hsettled⟩
  exact .of_pure ⟨executed, dropped, subjects, w₁, hrun, hjournal, rfl, hcourse, haccounted, hpath,
    hsettled⟩

/-- Every run of a case takes a course to its end. -/
theorem run_course {host : Host σ} {w w' : World σ} {c : TestCase} {pace : Pace} {ending : CaseEnd}
    (hrun : (c.run host pace).run w = (ending, w')) :
    ∃ entries subjects, Course host c entries ending subjects := by
  obtain ⟨_, -, -, executed, _, subjects, _, -, -, -, hcourse, -⟩ := run_ensures host w c pace
  rw [hrun] at hcourse
  exact ⟨executed, subjects, hcourse⟩

end TestCase
end Proctor
