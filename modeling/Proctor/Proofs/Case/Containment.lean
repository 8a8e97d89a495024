import Proctor.Proofs.Case.Course

/-!
# No process escapes

Whatever a case ends with, every process that it started is settled by then, and a case that
ends with an outcome has no process left to wait for. Its processes are started in the order of
its catalog, each at most once, and only a fault of the harness keeps some of them from being
started.
-/
namespace Proctor

/-- The name of the process that an entry says was to be started. -/
def Entry.attempt? : Entry → Option String
  | .attempted name => some name
  | _ => none

/-- The processes that a host was asked to start, the first one first. -/
def attempts (journal : List Entry) : List String := journal.reverse.filterMap Entry.attempt?

@[simp] theorem attempts_append (later earlier : List Entry) :
    attempts (later ++ earlier) = attempts earlier ++ attempts later := by
  simp [attempts]

theorem attempts_eq_nil {journal : List Entry} (h : ∀ e ∈ journal, e.launches = false) :
    attempts journal = [] := by
  rw [attempts, List.filterMap_eq_nil_iff]
  intro e he
  have he := h e (List.mem_reverse.mp he)
  cases e <;> simp_all [Entry.launches, Entry.attempt?]

/-- Launches and phases settle nothing, so a process was settled after them. -/
theorem Settled.of_append {later earlier : List Entry} {pid : Pid}
    (h : Settled (later ++ earlier) pid)
    (hearlier : ∀ e ∈ earlier, e.launches = true ∨ ∃ phase, e = .phase phase) :
    Settled later pid := by
  have hmem (e : Entry) (he : e ∈ later ++ earlier) (hl : e.launches = false)
      (hp : ∀ phase, e ≠ .phase phase) : e ∈ later := by
    obtain he | he := List.mem_append.mp he
    · exact he
    · obtain ht | ⟨phase, rfl⟩ := hearlier e he
      · rw [hl] at ht
        cases ht
      · exact absurd rfl (hp phase)
  obtain ⟨status, h⟩ | ⟨reason, h⟩ | ⟨t, d, hgroup, h⟩ := h
  · exact .inl ⟨status, hmem _ h rfl nofun⟩
  · exact .inr (.inl ⟨reason, hmem _ h rfl nofun⟩)
  · refine .inr (.inr ⟨t, d, hmem _ hgroup rfl nofun, h.imp id ?_⟩)
    rintro ⟨t', d', h⟩
    exact ⟨t', d', hmem _ h rfl nofun⟩

namespace TestCase
open Subject

variable {σ : Type} {host : Host σ} {specs : List ProcessSpec} {launched : List Entry}
  {subjects : List Subject} {setback : Option Setback}

/-- The host was asked to start one process for each subject, in the order of the catalog. -/
theorem Launching.attempts_eq (h : Launching host specs launched subjects setback) :
    attempts launched = (specs.take subjects.length).map (·.name) ∧
      subjects.map (·.name) = (specs.take subjects.length).map (·.name) := by
  induction h with
  | done | stalled | fault _ => exact ⟨rfl, rfl⟩
  | launched h _ ih =>
    rw [attempts_append, ih.1, List.map_cons, ih.2]
    cases h <;> exact ⟨rfl, rfl⟩

/-- Without a setback every process is launched. -/
theorem Launching.length_eq (h : Launching host specs launched subjects none) :
    subjects.length = specs.length := by
  generalize hs : none = setback at h
  induction h with
  | done => rfl
  | stalled | fault _ => cases hs
  | launched _ _ ih => rw [List.length_cons, List.length_cons, ih hs]

/-- A fault among the launches is one of the launch that comes next. -/
theorem Launching.fault_at {f : Fault}
    (h : Launching host specs launched subjects (some (.fault f))) :
    ∃ spec w, specs[subjects.length]? = some spec ∧ ((launch host spec).run w).1 = .error f := by
  generalize hs : some (Setback.fault f) = setback at h
  induction h with
  | done | stalled => cases hs
  | fault h =>
    cases hs
    exact ⟨_, _, rfl, h⟩
  | launched _ _ ih => exact ih hs

/-- A process that was started has a subject. -/
theorem Launching.exists_subject (h : Launching host specs launched subjects setback)
    {name : String} {pid : Pid} (hp : .spawned name pid ∈ launched) :
    ∃ s ∈ subjects, s.pid = some pid := by
  induction h with
  | done | stalled | fault _ => cases hp
  | launched h _ ih =>
    rw [List.mem_append] at hp
    obtain hp | hp := hp
    · obtain ⟨s, hs, hpid⟩ := ih hp
      exact ⟨s, List.mem_cons_of_mem _ hs, hpid⟩
    · cases h with
      | started instant stdout stderr pid' =>
        obtain ⟨-, rfl⟩ : name = _ ∧ pid = pid' := by simpa using hp
        exact ⟨_, List.mem_cons_self, rfl⟩
      | unstarted instant stdout stderr fault => simp at hp

variable {c : TestCase} {entries : List Entry}

/-- The processes that a case asked for are the first ones of its catalog. -/
theorem Begun.attempts_eq (h : Begun host c setback entries subjects) :
    attempts entries = (c.processes.take subjects.length).map (·.name) ∧
      subjects.map (·.name) = attempts entries := by
  obtain @⟨launched, later, started, _, hlaunch, hlater, hbirth⟩ := h
  have hattempts : attempts (later ++ (launched ++ [.phase .launching, .phase .pending])) =
      attempts launched := by
    rw [attempts_append, attempts_append, attempts_eq_nil hlater, List.append_nil]
    rfl
  have hlength : subjects.length = started.length := by
    simpa using congrArg List.length hbirth
  have hname : subjects.map (·.name) = started.map (·.name) := by
    simpa [birth, Function.comp_def] using congrArg (List.map Prod.fst) hbirth
  rw [hattempts, hlength, hname, hlaunch.attempts_eq.2]
  exact ⟨hlaunch.attempts_eq.1, hlaunch.attempts_eq.1.symm⟩

/-- A process that was started has a subject, and before its start there were only launches. -/
theorem Begun.spawned (h : Begun host c setback entries subjects) {later earlier : List Entry}
    {name : String} {pid : Pid} (hsplit : entries = later ++ .spawned name pid :: earlier) :
    (∃ s ∈ subjects, s.pid = some pid) ∧
      ∀ e ∈ earlier, e.launches = true ∨ ∃ phase, e = .phase phase := by
  obtain @⟨launched, later', started, _, hlaunch, hlater, hbirth⟩ := h
  obtain ⟨between, hbetween⟩ : ∃ between,
      launched ++ [.phase .launching, .phase .pending] = between ++ .spawned name pid :: earlier := by
    obtain ⟨between, -, h⟩ | ⟨between, h, h'⟩ := List.append_eq_append_iff.mp hsplit
    · exact ⟨between, h⟩
    · -- the start of a process is not among the entries that come later
      cases between with
      | nil => exact ⟨[], h'.symm⟩
      | cons e between =>
        obtain ⟨rfl, -⟩ := List.cons.inj h'
        have he := hlater (.spawned name pid) (by simp [h])
        cases he
  have hmem (e : Entry) (he : e ∈ between ++ .spawned name pid :: earlier) :
      e ∈ launched ∨ ∃ phase, e = .phase phase := by
    rw [← hbetween, List.mem_append] at he
    refine he.imp id fun he => ?_
    obtain rfl | rfl : e = .phase .launching ∨ e = .phase .pending := by simpa using he
    · exact ⟨_, rfl⟩
    · exact ⟨_, rfl⟩
  constructor
  · obtain hp | ⟨phase, hp⟩ := hmem (.spawned name pid) (by simp)
    · obtain ⟨s, hs, hpid⟩ := hlaunch.exists_subject hp
      have hs : s.birth ∈ subjects.map birth := by
        rw [hbirth]
        exact List.mem_map_of_mem hs
      obtain ⟨s', hs', hsame⟩ := List.mem_map.mp hs
      simp only [birth, Prod.mk.injEq] at hsame
      exact ⟨s', hs', hsame.2.2.1.trans hpid⟩
    · cases hp
  · intro e he
    exact (hmem e (by simp [he])).imp (hlaunch.launches e) id

/-- All processes of a case are launched, or else the launch of the next one met a setback. -/
theorem Begun.length_or (h : Begun host c setback entries subjects) :
    subjects.length = c.processes.length ∨ setback = some .stalled ∨
      ∃ spec fault w, c.processes[subjects.length]? = some spec ∧ setback = some (.fault fault) ∧
        ((launch host spec).run w).1 = .error fault := by
  obtain @⟨launched, later, started, _, hlaunch, -, hbirth⟩ := h
  have hlength : subjects.length = started.length := by
    simpa using congrArg List.length hbirth
  rw [hlength]
  match setback, hlaunch with
  | none, hlaunch => exact .inl hlaunch.length_eq
  | some .stalled, _ => exact .inr (.inl rfl)
  | some (.fault f), hlaunch =>
    obtain ⟨spec, w, hspec, hfault⟩ := hlaunch.fault_at
    exact .inr (.inr ⟨spec, f, w, hspec, rfl, hfault⟩)

/-- When a run of a case is over, every process that it started has been settled since its start,
and if the run has an outcome then each of its processes has a recorded exit and none is waited
for. The host was asked for the processes in the order of the catalog: for all of them, unless
the launch of the next one was refused before the host was asked for it, or a wait was given up.
A process that could not be started keeps none of those after it from being started. -/
theorem run_contains (host : Host σ) (c : TestCase) (pace : Pace) (w : World σ) :
    (c.run host pace).Ensures w fun added ending _ =>
      ∃ subjects, ((c.execute host pace).run w).1 = (ending, subjects) ∧
        (∀ later name pid earlier, added = later ++ .spawned name pid :: earlier →
          Settled later pid) ∧
        (∀ o, ending = .outcome o → ∀ s ∈ subjects, s.isRunning = false ∧ s.exit.isSome) ∧
        attempts added = (c.processes.take subjects.length).map (·.name) ∧
        subjects.map (·.name) = attempts added ∧
        (subjects.length = c.processes.length ∨ ending = .stalled ∨
          ∃ spec fault w', c.processes[subjects.length]? = some spec ∧ ending = .fault fault ∧
            ((launch host spec).run w').1 = .error fault) := by
  refine (run_ensures host w c pace).mono ?_
  rintro _ ending _ - ⟨executed, dropped, subjects, _, hrun, -, rfl, hcourse, -, hdropped, hsettled⟩
  obtain ⟨setback, hbegun, hsetback⟩ := hcourse.begun
  have hbegun' := hbegun.go_on (hdropped.forall_entry (·.not_launches)) rfl
  refine ⟨subjects, congrArg Prod.fst hrun, ?_, ?_, hbegun'.attempts_eq.1, hbegun'.attempts_eq.2, ?_⟩
  · intro later name pid earlier hsplit
    obtain ⟨⟨s, hs, hpid⟩, hearlier⟩ := hbegun'.spawned hsplit
    obtain ⟨child, hchild, rfl⟩ := Option.map_eq_some_iff.mp hpid
    have hsettled := hsettled s hs child hchild
    rw [hsplit] at hsettled
    refine hsettled.of_append ?_
    rw [List.forall_mem_cons]
    exact ⟨.inl rfl, hearlier⟩
  · rintro o rfl s hs
    have hidle := hcourse.concluded.1 s hs
    exact ⟨hidle.idle, hidle.recorded⟩
  · obtain h | h | ⟨spec, fault, w', hspec, h, hfault⟩ := hbegun.length_or
    · exact .inl h
    · exact .inr (.inl (hsetback _ h))
    · exact .inr (.inr ⟨spec, fault, w', hspec, hsetback _ h, hfault⟩)

end TestCase
end Proctor
