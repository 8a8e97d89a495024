import Proctor.Proofs.Case.Course
import Proctor.Proofs.Process.Glance

/-!
# Rounds of waiting

A case waits in rounds. In a round chance may let the watchdog come first, then every process is
looked at in turn, and if the case goes on it rests and begins the next round. A round is pinned
down by the watchdog, by the subjects with how far their supervision has come, and by the world,
and so is the world in which each of its processes is looked at.
-/
namespace Proctor

namespace Subject
variable {σ : Type} (host : Host σ) (w : World σ)

/-- What supervision does to a process is about that process alone. -/
theorem Supervised.about_eq {s : Subject} {added : List Entry} {r : Supervision × Subject}
    (h : s.Supervised added r) : r.2.pid = s.pid ∧ ∀ e ∈ added, e.about? = s.pid := by
  have h₀ : s.pid = s.pid ∧ ∀ e ∈ ([] : List Entry), e.about? = s.pid := ⟨rfl, by simp⟩
  have hpath := h.1.preserves
    (I := fun journal x => x.pid = s.pid ∧ ∀ e ∈ journal, e.about? = s.pid)
    (fun ⟨hpid, habout⟩ hs => ⟨hs.about_eq.2.trans hpid,
      List.forall_mem_cons.mpr ⟨hs.about_eq.1.trans hpid, habout⟩⟩) h₀
  simpa using hpath

theorem superviseAll_cons (stage : Supervision) (s : Subject) (rest : List (Supervision × Subject)) :
    (superviseAll host ((stage, s) :: rest)).run w =
      let first := (s.supervise host stage).run w
      if first.1.1 = .overflow then (first.1 :: rest, first.2)
      else
        let others := (superviseAll host rest).run first.2
        (first.1 :: others.1, others.2) := by
  rw [superviseAll, StateT.run_bind]
  change (if ((s.supervise host stage).run w).1.1 = .overflow then
      (pure (((s.supervise host stage).run w).1 :: rest) : Run σ _)
    else do return ((s.supervise host stage).run w).1 :: (← superviseAll host rest)).run
      ((s.supervise host stage).run w).2 = _
  dsimp only
  split <;> rfl

/-- The world in which the subject at some place is looked at. -/
def worldAt (supervised : List (Supervision × Subject)) (place : Nat) : World σ :=
  ((superviseAll host (supervised.take place)).run w).2

/-- Going round some subjects deals with nobody else. -/
theorem superviseAll_about (supervised : List (Supervision × Subject))
    (hfits : ∀ x ∈ supervised, x.1.Fits x.2) :
    (superviseAll host supervised).Ensures w fun added _ _ =>
      ∀ e ∈ added, e.about? ∈ supervised.map (·.2.pid) := by
  refine (superviseAll_ensures host w supervised hfits).mono ?_
  rintro added r _ - ⟨hpath, -⟩
  have habout := (path_about (·.about_eq) hpath).2
  rwa [List.map_map] at habout

/-- Going round some subjects looks at each of them once, in a world of its own, and between the
looks only the other subjects are dealt with. -/
theorem superviseAll_at (supervised : List (Supervision × Subject))
    (hfits : ∀ x ∈ supervised, x.1.Fits x.2)
    (hover : ∀ x ∈ ((superviseAll host supervised).run w).1, x.1 ≠ .overflow)
    {place : Nat} {stage : Supervision} {s : Subject}
    (hplace : supervised[place]? = some (stage, s)) :
    ∃ earlier entries later,
      ((superviseAll host supervised).run w).2.journal =
        later ++ (entries ++ earlier) ++ w.journal ∧
      ((superviseAll host supervised).run w).1[place]? =
        some ((s.supervise host stage).run (worldAt host w supervised place)).1 ∧
      ((s.supervise host stage).run (worldAt host w supervised place)).2.journal =
        entries ++ (worldAt host w supervised place).journal ∧
      ∀ e ∈ later ++ earlier, e.about? ∈ (supervised.map (·.2.pid)).eraseIdx place := by
  induction supervised generalizing w place with
  | nil => simp at hplace
  | cons x rest ih =>
    obtain ⟨stage₀, s₀⟩ := x
    rw [List.forall_mem_cons] at hfits
    obtain ⟨added, hjournal, -, hsupervised⟩ := supervise_ensures host w hfits.1
    have habout := hsupervised.about_eq.2
    rw [superviseAll_cons] at hover ⊢
    dsimp only at hover hjournal hsupervised habout ⊢
    split at hover
    · rename_i hnext
      exact absurd hnext (hover _ List.mem_cons_self)
    · rename_i hnext
      simp only [if_neg hnext]
      generalize hfirst : (s₀.supervise host stage₀).run w = first at *
      cases place with
      | zero =>
        obtain ⟨rfl, rfl⟩ := Prod.mk.inj (Option.some.inj hplace)
        obtain ⟨later, hlater, -, hothers⟩ := superviseAll_about host first.2 rest hfits.2
        have hworld : worldAt host w ((stage₀, s₀) :: rest) 0 = w := rfl
        rw [hworld, hfirst]
        refine ⟨[], added, later, ?_, rfl, hjournal, ?_⟩
        · rw [hlater, hjournal, List.append_nil, List.append_assoc]
        · simpa using hothers
      | succ place =>
        obtain ⟨earlier, entries, later, hrest, hat, hlook, hothers⟩ :=
          ih first.2 hfits.2 (fun x hx => hover x (List.mem_cons_of_mem _ hx)) hplace
        have hworld : worldAt host w ((stage₀, s₀) :: rest) (place + 1) =
            worldAt host first.2 rest place := by
          simp only [worldAt, List.take_succ_cons, superviseAll_cons, hfirst, if_neg hnext]
        rw [hworld]
        refine ⟨earlier ++ added, entries, later, ?_, hat, hlook, ?_⟩
        · rw [hrest, hjournal]
          simp only [List.append_assoc]
        · intro e he
          rw [List.map_cons, List.eraseIdx_cons_succ, List.mem_cons]
          simp only [List.mem_append] at he hothers
          obtain he | he | he := he
          · exact .inr (hothers e (.inl he))
          · exact .inr (hothers e (.inr he))
          · exact .inl (habout e he)

end Subject

namespace TestCase
open Subject

/-- The beginning of a round of waiting. -/
structure Round (σ : Type) where
  watchdog : Watchdog
  supervised : List (Supervision × Subject)
  world : World σ

namespace Round
variable {σ : Type} (host : Host σ) (r : Round σ)

/-- The world once chance has decided whether the watchdog comes first. -/
def tossed : World σ := { r.world with host := (host.coin r.world.host).2 }

/-- What supervision has come to when every process was looked at, and the world then. -/
def looked : List (Supervision × Subject) × World σ :=
  (Subject.superviseAll host r.supervised).run (r.tossed host)

/-- Whether the case goes on after a round in which its processes were looked at. -/
def GoesOn : Prop := ending? (r.looked host).1 = none ∧ r.watchdog.fired = false

/-- The rest between two rounds, and the reading of the clock after it. -/
def rested : Instant × World σ :=
  (do Run.rest host (some (nextDue r.watchdog (r.looked host).1)); Run.now host).run
    (r.looked host).2

/-- The beginning of the next round. -/
def next : Round σ := ⟨r.watchdog.run (r.rested host).1, (r.looked host).1, (r.rested host).2⟩

/-- The world in which the process at some place is looked at. -/
def worldAt (place : Nat) : World σ := Subject.worldAt host (r.tossed host) r.supervised place

theorem next_journal : (r.next host).world.journal = (r.looked host).2.journal := by
  have hrest := (Run.rest_ensures host (r.looked host).2
    (some (nextDue r.watchdog (r.looked host).1))).seq (R := fun added _ _ => added = [])
    (fun added _ w' _ h => (Run.now_ensures host w').mono fun later _ _ _ h' => by simp [h, h'.1])
  obtain ⟨added, hjournal, -, rfl⟩ := hrest
  exact hjournal

/-- How far supervision has come fits what has been done to each subject. -/
def Fits (r : Round σ) : Prop := ∀ x ∈ r.supervised, x.1.Fits x.2

variable {r} in
theorem Fits.looked (h : r.Fits) : ∀ x ∈ (r.looked host).1, x.1.Fits x.2 := by
  obtain ⟨_, -, -, -, hfits⟩ := superviseAll_ensures host (r.tossed host) r.supervised h
  exact hfits

variable {r} in
/-- A look leaves the subjects who they are. -/
theorem Fits.birth_eq (h : r.Fits) :
    (r.looked host).1.map (·.2.birth) = r.supervised.map (·.2.birth) := by
  obtain ⟨_, -, -, hpath, -⟩ := superviseAll_ensures host (r.tossed host) r.supervised h
  simpa [Function.comp_def, Round.looked] using hpath.map_eq (·.birth_eq)

/-- The rounds that a wait comes to when it begins with some round. -/
inductive Visits : Round σ → Round σ → Prop
  | here (r : Round σ) : Visits r r
  | later {r r' : Round σ} (hgo : r.GoesOn host) (h : Visits (r.next host) r') : Visits r r'

variable {r} in
theorem Visits.birth_eq {last : Round σ} (h : Visits host r last) (hfits : r.Fits) :
    (last.looked host).1.map (·.2.birth) = r.supervised.map (·.2.birth) := by
  induction h with
  | here r => exact hfits.birth_eq host
  | later _ _ ih => exact (ih (hfits.looked host)).trans (hfits.birth_eq host)

theorem await_succ (patience : Nat) :
    (await host r.watchdog (patience + 1) r.supervised).run r.world =
      if (host.coin r.world.host).1 && r.watchdog.fired then
        ((.timedOut, r.supervised.map (·.2)), r.tossed host)
      else
        match ending? (r.looked host).1 with
        | some ending => ((ending, (r.looked host).1.map (·.2)), (r.looked host).2)
        | none =>
          if r.watchdog.fired then ((.timedOut, (r.looked host).1.map (·.2)), (r.looked host).2)
          else (await host (r.next host).watchdog patience (r.next host).supervised).run
            (r.next host).world := by
  rw [await, StateT.run_bind]
  change (if (host.coin r.world.host).1 && r.watchdog.fired then
      (pure (.timedOut, r.supervised.map (·.2)) : Run σ (Ending × List Subject))
    else _).run (r.tossed host) = _
  split
  · rfl
  · rw [StateT.run_bind]
    change StateT.run (match ending? (r.looked host).1 with
      | some ending => _
      | none => _) (r.looked host).2 = _
    cases ending? (r.looked host).1 with
    | some ending => rfl
    | none =>
      dsimp only
      split <;> rfl

/-- How a round ends a wait, with the subjects and the world then. -/
inductive Ends (r : Round σ) : Ending → List Subject → World σ → Prop
  /-- The watchdog came first. -/
  | early (hfirst : (host.coin r.world.host).1 = true) (hfired : r.watchdog.fired = true) :
      Ends r .timedOut (r.supervised.map (·.2)) (r.tossed host)
  | looked {ending : Ending}
      (hfirst : ((host.coin r.world.host).1 && r.watchdog.fired) = false)
      (hended : ending? (r.looked host).1 = some ending) :
      Ends r ending ((r.looked host).1.map (·.2)) (r.looked host).2
  /-- Some process is still to be waited for, and the watchdog has fired. -/
  | late (hfirst : (host.coin r.world.host).1 = false) (hended : ending? (r.looked host).1 = none)
      (hfired : r.watchdog.fired = true) :
      Ends r .timedOut ((r.looked host).1.map (·.2)) (r.looked host).2

/-- A wait comes to a round that ends it, unless it is given up. -/
theorem await_ends {patience : Nat} {ending : Ending} {subjects : List Subject} {w' : World σ}
    (h : (await host r.watchdog patience r.supervised).run r.world = ((ending, subjects), w'))
    (hstalled : ending ≠ .stalled) :
    ∃ last, Visits host r last ∧ last.Ends host ending subjects w' := by
  induction patience generalizing r with
  | zero =>
    cases h
    exact absurd rfl hstalled
  | succ patience ih =>
    rw [await_succ] at h
    split at h
    · rename_i hfirst
      cases h
      rw [Bool.and_eq_true] at hfirst
      exact ⟨r, .here r, .early hfirst.1 hfirst.2⟩
    · rename_i hfirst
      rw [Bool.not_eq_true] at hfirst
      split at h
      · rename_i ending hended
        cases h
        exact ⟨r, .here r, .looked hfirst hended⟩
      · rename_i hended
        split at h
        · rename_i hfired
          cases h
          rw [hfired, Bool.and_true] at hfirst
          exact ⟨r, .here r, .late hfirst hended hfired⟩
        · rename_i hfired
          obtain ⟨last, hvisits, hlast⟩ := ih (r.next host) h
          exact ⟨last, .later ⟨hended, Bool.eq_false_iff.mpr hfired⟩ hvisits, hlast⟩

end Round

variable {σ : Type} (host : Host σ) (c : TestCase) (pace : Pace)

/-- A round with which a case that is launched in some world begins to wait. -/
def Begins (w : World σ) (first : Round σ) : Prop :=
  ∃ subjects w₁ now w₂ watchdog,
    (launchAll host pace c.processes).run
      { w with journal := .phase .launching :: .phase .pending :: w.journal } =
        ((subjects, none), w₁) ∧
    (Run.now host).run w₁ = (now, w₂) ∧ Watchdog.arm now c.deadline = some watchdog ∧
    first = ⟨watchdog, subjects.map (.fresh, ·),
      { w₂ with journal := .phase .awaiting :: w₂.journal }⟩

/-- The rest of a case that waits: the rounds from some round on, and what follows them. -/
def carryOn (watchdog : Watchdog) (patience : Nat) (supervised : List (Supervision × Subject)) :
    Run σ (CaseEnd × List Subject) := do
  let (ending, subjects) ← await host watchdog patience supervised
  match ending with
  | .completed => return (← c.judge host .completed subjects, subjects)
  | .timedOut => c.overrun host pace subjects
  | .overflow => return (.panic Instant.overflowMessage, subjects)
  | .stalled => return (.stalled, subjects)

/-- A case is watched from the first round on, if the clock can hold its deadline. -/
theorem watch_eq (subjects : List Subject) :
    c.watch host pace subjects = (do
      match Watchdog.arm (← Run.now host) c.deadline with
      | none => return (.panic Instant.overflowMessage, subjects)
      | some watchdog =>
        Run.note (.phase .awaiting)
        c.carryOn host pace watchdog pace.patience (subjects.map (.fresh, ·))) := rfl

/-- A case is watched once its processes were launched. -/
theorem execute_launched {w w₁ : World σ} {subjects : List Subject}
    (h : (launchAll host pace c.processes).run
      { w with journal := .phase .launching :: .phase .pending :: w.journal } =
        ((subjects, none), w₁)) :
    (c.execute host pace).run w = (c.watch host pace subjects).run w₁ := by
  rw [execute, Run.run_note_bind, Run.run_note_bind, StateT.run_bind, h]
  rfl

/-- A case that begins to wait with some round goes on from there. -/
theorem Begins.execute_eq {w : World σ} {first : Round σ} (h : Begins host c pace w first) :
    (c.execute host pace).run w =
      (c.carryOn host pace first.watchdog pace.patience first.supervised).run first.world := by
  obtain ⟨subjects, w₁, now, w₂, watchdog, hlaunch, hnow, harm, rfl⟩ := h
  rw [execute_launched host c pace hlaunch, watch_eq, StateT.run_bind, hnow]
  change StateT.run (match Watchdog.arm now c.deadline with
    | none => _
    | some watchdog => _) w₂ = _
  rw [harm]
  rfl

/-- A case that does not give up its wait goes on from every round that the wait comes to. -/
theorem Round.Visits.carryOn_eq {first round : Round σ} (h : first.Visits host round)
    {patience : Nat}
    (hstalled : ((await host first.watchdog patience first.supervised).run first.world).1.1 ≠
      .stalled) :
    ∃ left, (c.carryOn host pace first.watchdog patience first.supervised).run first.world =
      (c.carryOn host pace round.watchdog left round.supervised).run round.world := by
  induction h generalizing patience with
  | here r => exact ⟨patience, rfl⟩
  | @later r r' hgo _ ih =>
    cases patience with
    | zero => exact absurd rfl hstalled
    | succ patience =>
      have hnext : (await host r.watchdog (patience + 1) r.supervised).run r.world =
          (await host (r.next host).watchdog patience (r.next host).supervised).run
            (r.next host).world := by
        rw [r.await_succ host, hgo.1, hgo.2, Bool.and_false]
        rfl
      rw [hnext] at hstalled
      obtain ⟨left, hleft⟩ := ih hstalled
      refine ⟨left, ?_⟩
      rw [← hleft, carryOn, StateT.run_bind, hnext]
      rfl

/-- An outcome says in which phase a case was judged. -/
theorem judge_phase {phase : Phase} {subjects : List Subject} {w w' : World σ} {o : Outcome}
    (h : (c.judge host phase subjects).run w = (.outcome o, w')) : o.phase = phase := by
  obtain ⟨_, -, -, -, hjudged⟩ := judge_ensures host w c phase subjects
  rw [h] at hjudged
  cases hjudged with
  | outcome _ => rfl

/-- A case with an outcome launched its processes and waited for them. Then they were judged, once
those that still ran were terminated if the watchdog had fired. -/
theorem execute_outcome {w w' : World σ} {o : Outcome} {subjects : List Subject}
    (h : (c.execute host pace).run w = ((.outcome o, subjects), w')) :
    ∃ first ending awaited w₁, Begins host c pace w first ∧
      (await host first.watchdog pace.patience first.supervised).run first.world =
        ((ending, awaited), w₁) ∧
      (ending = .completed ∧ awaited = subjects ∧
          (c.judge host .completed subjects).run w₁ = (.outcome o, w') ∨
        ending = .timedOut ∧ ∃ w₂,
          (Subject.terminateAll host pace.grace pace.patience awaited).run
            { w₁ with journal := .expired :: w₁.journal } = ((true, subjects), w₂) ∧
          (c.judge host .timedOut subjects).run w₂ = (.outcome o, w')) := by
  obtain ⟨_, w₁, hpending, h⟩ := Run.exists_of_run_bind h
  obtain ⟨_, w₂, hlaunching, h⟩ := Run.exists_of_run_bind h
  obtain ⟨⟨started, setback⟩, w₃, hlaunch, h⟩ := Run.exists_of_run_bind h
  cases hpending
  cases hlaunching
  cases setback with
  | some setback => cases setback <;> cases h
  | none =>
    obtain ⟨now, w₄, hnow, h⟩ := Run.exists_of_run_bind h
    cases harm : Watchdog.arm now c.deadline with
    | none =>
      rw [harm] at h
      cases h
    | some watchdog =>
      rw [harm] at h
      obtain ⟨_, w₅, hawaiting, h⟩ := Run.exists_of_run_bind h
      obtain ⟨⟨ending, awaited⟩, w₆, hawait, h⟩ := Run.exists_of_run_bind h
      cases hawaiting
      refine ⟨⟨watchdog, started.map (.fresh, ·),
        { w₄ with journal := .phase .awaiting :: w₄.journal }⟩, ending, awaited, w₆,
        ⟨started, w₃, now, w₄, watchdog, hlaunch, hnow, harm, rfl⟩, hawait, ?_⟩
      cases ending with
      | completed =>
        obtain ⟨ending, w₇, hjudge, h⟩ := Run.exists_of_run_bind h
        cases h
        exact .inl ⟨rfl, rfl, hjudge⟩
      | timedOut =>
        obtain ⟨_, w₇, hexpired, h⟩ := Run.exists_of_run_bind h
        obtain ⟨⟨ended, terminated⟩, w₈, hterminate, h⟩ := Run.exists_of_run_bind h
        cases hexpired
        cases ended with
        | false => cases h
        | true =>
          obtain ⟨ending, w₉, hjudge, h⟩ := Run.exists_of_run_bind h
          cases h
          exact .inr ⟨rfl, w₈, hterminate, hjudge⟩
      | overflow | stalled => cases h

/-- A case that has completed went through rounds of waiting until the supervision of every
process was over, and then froze what was known. -/
theorem execute_completed {w w' : World σ} {o : Outcome} {subjects : List Subject}
    (h : (c.execute host pace).run w = ((.outcome o, subjects), w')) (hphase : o.phase = .completed) :
    ∃ first last, Begins host c pace w first ∧ first.Visits host last ∧
      ending? (last.looked host).1 = some .completed ∧
      (last.looked host).1.map (·.2) = subjects ∧
      (c.judge host .completed subjects).run (last.looked host).2 = (.outcome o, w') := by
  obtain ⟨first, ending, awaited, w₁, hbegins, hawait, ⟨rfl, rfl, hjudge⟩ | ⟨-, _, -, hjudge⟩⟩ :=
    execute_outcome host c pace h
  · obtain ⟨last, hvisits, hends⟩ := first.await_ends host hawait nofun
    cases hends with
    | looked _ hended => exact ⟨first, last, hbegins, hvisits, hended, rfl, hjudge⟩
  · rw [judge_phase host c hjudge] at hphase
    cases hphase

end TestCase
end Proctor
