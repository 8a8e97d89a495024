import Proctor.Proofs.Case.Rounds

/-!
# When an injected signal is skipped

What becomes of a planned signal is decided at one glance at its process: the last one before
which nothing had happened. If the case completes then the signal is skipped exactly when at that
glance the exit could be had and the delay did not come first. So a process that has exited
before its delay is over can still be sent its signal, when the delay comes first at the deciding
glance, and the report then says that the signal was delivered.
-/
namespace Proctor.TestCase
open Subject

theorem not_overflow {supervised : List (Supervision × Subject)}
    (h : ending? supervised ≠ some .overflow) : ∀ x ∈ supervised, x.1 ≠ .overflow := by
  intro x hx hover
  refine h ?_
  rw [ending?, if_pos]
  rw [List.any_eq_true]
  exact ⟨x, hx, decide_eq_true hover⟩

namespace Round
variable {σ : Type} {host : Host σ} {r last : Round σ} {place : Nat} {s : Subject}

/-- Whether a round decides about the signal of a process: it was undecided before the round, and
is decided after it. -/
def Decides (host : Host σ) (r : Round σ) (place : Nat) : Prop :=
  (∃ stage s, r.supervised[place]? = some (stage, s) ∧ stage.undecided = true) ∧
    ∃ stage s, (r.looked host).1[place]? = some (stage, s) ∧ stage.undecided = false

/-- The other subjects of a round have other numbers. -/
def Alone (r : Round σ) (place : Nat) (pid : Pid) : Prop :=
  some pid ∉ (r.supervised.map (·.2.pid)).eraseIdx place

theorem Alone.next {pid : Pid} (h : r.Alone place pid) (hfits : r.Fits) :
    (r.next host).Alone place pid := by
  have hpids : (r.looked host).1.map (·.2.pid) = r.supervised.map (·.2.pid) := by
    have hbirth := congrArg (List.map fun b => b.2.2.1) (hfits.birth_eq host)
    simpa [Function.comp_def, birth] using hbirth
  unfold Alone
  change some pid ∉ ((r.looked host).1.map (·.2.pid)).eraseIdx place
  rwa [hpids]

/-- A round looks at a process once, and has otherwise nothing to do with it. -/
theorem looked_at {pid : Pid} {stage : Supervision} (hfits : r.Fits) (halone : r.Alone place pid)
    (hover : ending? (r.looked host).1 ≠ some .overflow)
    (hplace : r.supervised[place]? = some (stage, s)) :
    ∃ added entries,
      (r.looked host).2.journal = added ++ r.world.journal ∧
      (r.looked host).1[place]? = some ((s.supervise host stage).run (r.worldAt host place)).1 ∧
      ((s.supervise host stage).run (r.worldAt host place)).2.journal =
        entries ++ (r.worldAt host place).journal ∧
      entries ⊆ added ∧ ∀ e ∈ added, e.about? = some pid → e ∈ entries := by
  obtain ⟨earlier, entries, later, hjournal, hat, hlook, hothers⟩ :=
    superviseAll_at host (r.tossed host) r.supervised hfits (not_overflow hover) hplace
  refine ⟨later ++ (entries ++ earlier), entries, hjournal, hat, hlook, ?_, ?_⟩
  · intro e he
    simp [he]
  · intro e he habout
    simp only [List.mem_append] at he hothers
    obtain he | he | he := he
    · exact absurd (habout ▸ hothers e (.inl he)) halone
    · exact he
    · exact absurd (habout ▸ hothers e (.inr he)) halone

theorem GoesOn.not_overflow (h : r.GoesOn host) : ending? (r.looked host).1 ≠ some .overflow := by
  rw [h.1]
  nofun

theorem Fits.next (h : r.Fits) : (r.next host).Fits := h.looked host

/-- Rounds only add to the journal. -/
theorem Visits.journal (h : Visits host r last) (hfits : r.Fits) :
    ∃ added, (last.looked host).2.journal = added ++ r.world.journal := by
  induction h with
  | here r =>
    obtain ⟨added, hjournal, -⟩ := superviseAll_ensures host (r.tossed host) r.supervised hfits
    exact ⟨added, hjournal⟩
  | @later r r' _ _ ih =>
    obtain ⟨added, hjournal, -⟩ := superviseAll_ensures host (r.tossed host) r.supervised hfits
    obtain ⟨later, hlater⟩ := ih hfits.next
    refine ⟨later ++ added, ?_⟩
    rw [hlater, next_journal, List.append_assoc]
    exact congrArg (later ++ ·) hjournal

/-- Nothing more is done to a process whose supervision is over. -/
theorem Visits.over {pid : Pid} (h : Visits host r last) (hfits : r.Fits)
    (halone : r.Alone place pid) (hlast : ending? (last.looked host).1 = some .completed)
    (hplace : r.supervised[place]? = some (.over, s)) :
    (last.looked host).1[place]? = some (.over, s) ∧
      ∃ added, (last.looked host).2.journal = added ++ r.world.journal ∧
        ∀ e ∈ added, e.about? ≠ some pid := by
  -- a look at the process leaves no entry, and so the round leaves none that is about it
  have hround (r : Round σ) (hfits : r.Fits) (halone : r.Alone place pid)
      (hover : ending? (r.looked host).1 ≠ some .overflow)
      (hplace : r.supervised[place]? = some (.over, s)) :
      (r.looked host).1[place]? = some (.over, s) ∧
        ∃ added, (r.looked host).2.journal = added ++ r.world.journal ∧
          ∀ e ∈ added, e.about? ≠ some pid := by
    obtain ⟨added, entries, hjournal, hat, hlook, -, habout⟩ := looked_at hfits halone hover hplace
    refine ⟨hat, added, hjournal, fun e he hpid => ?_⟩
    have hentries : entries = [] := List.append_left_eq_self.mp hlook.symm
    have := habout e he hpid
    rw [hentries] at this
    cases this
  induction h with
  | here r => exact hround r hfits halone (by rw [hlast]; nofun) hplace
  | @later r r' hgo _ ih =>
    obtain ⟨hat, added, hjournal, habout⟩ := hround r hfits halone hgo.not_overflow hplace
    obtain ⟨hend, later, hlater, habout'⟩ := ih hfits.next (halone.next hfits) hlast hat
    refine ⟨hend, later ++ added, ?_, ?_⟩
    · rw [hlater, next_journal, hjournal, List.append_assoc]
    · intro e he
      obtain he | he := List.mem_append.mp he
      · exact habout' e he
      · exact habout e he

/-- What becomes of a planned signal, by the glance that decides about it. -/
inductive Fate (pid : Pid) (i : Injection) (due : Instant) (g : Glance) (place : Nat)
    (added : List Entry) (final : List (Supervision × Subject)) : Prop
  | skipped {s : Subject} (hg : g.hurried due = false) (hexit : g.exit ≠ .pending)
      (hend : final[place]? = some (.over, s)) (hreport : s.report = some (.skipped i.kind))
      (hnone : ∀ e ∈ added, e.about? = some pid → e.signals = false)
  | sent {t : Instant} {d : Delivery} (hg : g.hurried due = true ∨ g.exit = .pending)
      (hsent : .sent (.process pid) i.kind.signal t d ∈ added)

/-- A round that looks at a process whose signal is undecided decides about it, or else has nothing
to do with the process. -/
theorem looked_undecided {c : Child} {i : Injection} {stage : Supervision} (hfits : r.Fits)
    (halone : r.Alone place c.pid) (hover : ending? (r.looked host).1 ≠ some .overflow)
    (hplace : r.supervised[place]? = some (stage, s)) (hundecided : stage.undecided = true)
    (ha : s.Awaits c) (hi : s.injection = some i) :
    ∃ added, (r.looked host).2.journal = added ++ r.world.journal ∧
      (r.Decides host place ∧ Fate c.pid i (s.started.after i.delay)
          (glance host c.pid (r.worldAt host place)) place added (r.looked host).1 ∨
        (r.looked host).1[place]? = some (.untilSignal (s.started.after i.delay), s) ∧
          ∀ e ∈ added, e.about? ≠ some c.pid) := by
  obtain ⟨added, entries, hjournal, hat, hlook, hsub, habout⟩ :=
    looked_at hfits halone hover hplace
  have hstage := not_overflow hover _ (List.mem_of_getElem? hat)
  have hfit : stage.Fits s := hfits _ (List.mem_of_getElem? hplace)
  obtain ⟨entries', hlook', -, hseen⟩ :=
    supervise_seen host (r.worldAt host place) ha hi hfit hundecided hstage
  obtain rfl : entries = entries' := List.append_cancel_right (hlook.symm.trans hlook')
  refine ⟨added, hjournal, ?_⟩
  generalize ((s.supervise host stage).run (r.worldAt host place)).1 = next at hat hseen
  cases hseen with
  | sent hg hr =>
    exact .inl ⟨⟨⟨stage, s, hplace, hundecided⟩, _, _, hat, hr⟩,
      .sent hg (hsub (List.mem_append_right _ List.mem_cons_self))⟩
  | skipped hg hexit he hr =>
    refine .inl ⟨⟨⟨stage, s, hplace, hundecided⟩, _, _, hat, rfl⟩,
      .skipped hg hexit hat hr fun e he' hpid => ?_⟩
    obtain rfl := List.mem_singleton.mp (habout e he' hpid)
    exact he
  | waited _ _ =>
    refine .inr ⟨hat, fun e he hpid => ?_⟩
    have hnone := habout e he hpid
    cases hnone

/-- What was decided about a signal in one round stays so in the rounds that follow. -/
theorem Fate.later {pid : Pid} {i : Injection} {due : Instant} {g : Glance} {added : List Entry}
    (h : Fate pid i due g place added (r.looked host).1) (hvisits : Visits host (r.next host) last)
    (hfits : r.Fits) (halone : r.Alone place pid)
    (hlast : ending? (last.looked host).1 = some .completed) :
    ∃ later, (last.looked host).2.journal = later ++ (r.next host).world.journal ∧
      Fate pid i due g place (later ++ added) (last.looked host).1 := by
  cases h with
  | sent hg hsent =>
    obtain ⟨later, hlater⟩ := hvisits.journal hfits.next
    exact ⟨later, hlater, .sent hg (List.mem_append_right _ hsent)⟩
  | skipped hg hexit hend hreport hnone =>
    obtain ⟨hend, later, hlater, hothers⟩ :=
      hvisits.over hfits.next (halone.next hfits) hlast hend
    refine ⟨later, hlater, .skipped hg hexit hend hreport fun e he hpid => ?_⟩
    obtain he | he := List.mem_append.mp he
    · exact absurd hpid (hothers e he)
    · exact hnone e he hpid

/-- What is decided about a signal is not changed by earlier rounds that had nothing to do with the
process. -/
theorem Fate.after {pid : Pid} {i : Injection} {due : Instant} {g : Glance}
    {later added : List Entry} {final : List (Supervision × Subject)}
    (h : Fate pid i due g place later final) (hadded : ∀ e ∈ added, e.about? ≠ some pid) :
    Fate pid i due g place (later ++ added) final := by
  cases h with
  | sent hg hsent => exact .sent hg (List.mem_append_left _ hsent)
  | skipped hg hexit hend hreport hnone =>
    refine .skipped hg hexit hend hreport fun e he hpid => ?_
    obtain he | he := List.mem_append.mp he
    · exact hnone e he hpid
    · exact absurd hpid (hadded e he)

/-- Some round decides about a planned signal, if in the end the supervision of every process is
over. -/
theorem Visits.fate {c : Child} {i : Injection} {stage : Supervision} (h : Visits host r last)
    (hfits : r.Fits) (halone : r.Alone place c.pid)
    (hlast : ending? (last.looked host).1 = some .completed)
    (hplace : r.supervised[place]? = some (stage, s)) (hundecided : stage.undecided = true)
    (ha : s.Awaits c) (hi : s.injection = some i) :
    ∃ r' added, Visits host r r' ∧ r'.Decides host place ∧
      (last.looked host).2.journal = added ++ r.world.journal ∧
      Fate c.pid i (s.started.after i.delay) (glance host c.pid (r'.worldAt host place)) place added
        (last.looked host).1 := by
  induction h generalizing stage with
  | here r =>
    obtain ⟨added, hjournal, ⟨hdecides, hfate⟩ | ⟨hat, -⟩⟩ :=
      looked_undecided hfits halone (by rw [hlast]; nofun) hplace hundecided ha hi
    · exact ⟨r, added, .here r, hdecides, hjournal, hfate⟩
    · have hover := over_of_completed hlast _ (List.mem_of_getElem? hat)
      cases hover
  | @later r r' hgo hvisits ih =>
    obtain ⟨added, hjournal, ⟨hdecides, hfate⟩ | ⟨hat, hadded⟩⟩ :=
      looked_undecided hfits halone hgo.not_overflow hplace hundecided ha hi
    · obtain ⟨later, hlater, hfate⟩ := hfate.later hvisits hfits halone hlast
      refine ⟨r, later ++ added, .here r, hdecides, ?_, hfate⟩
      rw [hlater, next_journal, hjournal, List.append_assoc]
    · obtain ⟨r', later, hvisits', hdecides, hlater, hfate⟩ :=
        ih hfits.next (halone.next hfits) hlast hat rfl
      refine ⟨r', later ++ added, .later hgo hvisits', hdecides, ?_, hfate.after hadded⟩
      rw [hlater, next_journal, hjournal, List.append_assoc]

end Round

/-- In a list without duplicates a number stands at one place only. -/
theorem not_mem_eraseIdx {pids : List (Option Pid)} {place : Nat} {pid : Pid}
    (hnodup : (pids.filterMap id).Nodup) (hplace : pids[place]? = some (some pid)) :
    some pid ∉ pids.eraseIdx place := by
  induction pids generalizing place with
  | nil => simp at hplace
  | cons p rest ih =>
    cases place with
    | zero =>
      obtain rfl := Option.some.inj hplace
      simp only [List.filterMap_cons, id_eq, List.nodup_cons] at hnodup
      simpa using hnodup.1
    | succ place =>
      rw [List.eraseIdx_cons_succ, List.mem_cons, not_or]
      have hmem : some pid ∈ rest := List.mem_of_getElem? hplace
      cases p with
      | none => exact ⟨nofun, ih (by simpa using hnodup) hplace⟩
      | some p =>
        simp only [List.filterMap_cons, id_eq, List.nodup_cons] at hnodup
        refine ⟨?_, ih hnodup.2 hplace⟩
        rintro ⟨⟩
        exact hnodup.1 (by simpa using hmem)

variable {σ : Type} {host : Host σ} {c : TestCase} {pace : Pace}

/-- A case begins to wait once its processes were launched, and no signal was sent by then. -/
theorem Begins.launching {w : World σ} {first : Round σ} (h : Begins host c pace w first) :
    first.Fits ∧ ∃ launched subjects, Launching host c.processes launched subjects none ∧
      first.supervised = subjects.map (.fresh, ·) ∧
      first.world.journal =
        .phase .awaiting :: (launched ++ .phase .launching :: .phase .pending :: w.journal) := by
  obtain ⟨subjects, w₁, now, w₂, watchdog, hlaunch, hnow, -, rfl⟩ := h
  obtain ⟨launched, hjournal, -, hlaunching⟩ := launchAll_ensures host
    { w with journal := .phase .launching :: .phase .pending :: w.journal } pace c.processes
  rw [hlaunch] at hjournal hlaunching
  have hsame : w₂.journal = w₁.journal := by
    obtain ⟨_, hnow', -, rfl, -⟩ := Run.now_ensures host w₁
    rw [hnow] at hnow'
    exact hnow'
  refine ⟨?_, launched, subjects, hlaunching, rfl, ?_⟩
  · rw [Round.Fits, List.forall_mem_map]
    exact hlaunching.fits
  · exact congrArg (Entry.phase .awaiting :: ·) (hsame.trans hjournal)

/-- The subject that a case began with at some place, and how it stands at the end of the wait. -/
theorem Begins.subject {w : World σ} {first last : Round σ} {place : Nat} {spec : ProcessSpec}
    {i : Injection} {s : Subject} {pid : Pid} (h : Begins host c pace w first)
    (hvisits : first.Visits host last)
    (hpids : (((last.looked host).1.map (·.2)).filterMap Subject.pid).Nodup)
    (hspec : c.processes[place]? = some spec) (hi : spec.injection = some i)
    (hs : ((last.looked host).1.map (·.2))[place]? = some s) (hpid : s.pid = some pid) :
    ∃ s₀ child, first.supervised[place]? = some (.fresh, s₀) ∧ s₀.Awaits child ∧
      child.pid = pid ∧ s₀.injection = some i ∧ s₀.started = s.started ∧ first.Alone place pid := by
  obtain ⟨hfits, launched, subjects, hlaunching, hsupervised, -⟩ := h.launching
  have hbirth : ((last.looked host).1.map (·.2)).map birth = subjects.map birth := by
    have hbirth := hvisits.birth_eq host hfits
    rw [hsupervised] at hbirth
    simpa [Function.comp_def] using hbirth
  have hpids' : ((last.looked host).1.map (·.2)).map Subject.pid = subjects.map Subject.pid := by
    simpa [Function.comp_def, birth] using congrArg (List.map fun b => b.2.2.1) hbirth
  obtain ⟨s₀, hs₀, hsame⟩ : ∃ s₀, subjects[place]? = some s₀ ∧ s₀.birth = s.birth := by
    have hplace := congrArg (·[place]?) hbirth
    simp only [List.getElem?_map, hs, Option.map_some] at hplace
    exact Option.map_eq_some_iff.mp hplace.symm
  simp only [birth, Prod.mk.injEq] at hsame
  obtain ⟨-, hinjection, hpid₀, hstarted, -⟩ := hsame
  obtain ⟨spec', hspec', hplanned⟩ := hlaunching.injection_eq hs₀
  obtain rfl := Option.some.inj (hspec.symm.trans hspec')
  rw [hpid] at hpid₀
  obtain ⟨child, hchild, rfl⟩ := Option.map_eq_some_iff.mp hpid₀
  have hawaits : s₀.Awaits child := by
    obtain ⟨hnone, -⟩ | ⟨child', ha, -⟩ := hlaunching.fits s₀ (List.mem_of_getElem? hs₀)
    · rw [hnone] at hchild
      cases hchild
    · rwa [ha.unique hchild]
  refine ⟨s₀, child, by simp [hsupervised, hs₀], hawaits, rfl, hplanned.trans hi, hstarted, ?_⟩
  have hnodup : ((subjects.map Subject.pid).filterMap id).Nodup := by
    rw [← hpids', List.filterMap_map]
    exact hpids
  have hat : (subjects.map Subject.pid)[place]? = some (some child.pid) := by
    simp [hs₀, hpid₀]
  have halone := not_mem_eraseIdx hnodup hat
  simpa [Round.Alone, hsupervised, Function.comp_def] using halone

/-- Every signal of a case that has completed was sent while it waited. -/
theorem signal_mem_iff {specs : List ProcessSpec} {launched watched : List Entry}
    {subjects : List Subject} {setback : Option Setback} {e : Entry}
    (h : Launching host specs launched subjects setback) (he : e.signals = true) :
    e ∈ .phase .completed :: (watched ++ .phase .awaiting ::
      (launched ++ [.phase .launching, .phase .pending])) ↔ e ∈ watched := by
  have hlaunched : e ∉ launched := by
    intro hmem
    have hlaunches := h.launches e hmem
    cases e with
    | sent _ _ _ _ => cases hlaunches
    | _ => cases he
  have hphase (phase : Phase) : e ≠ .phase phase := by
    rintro rfl
    cases he
  simp [hlaunched, hphase]

/-- If a case completes then it is decided at one glance what becomes of the signal that is planned
for a process. No signal is sent to the process and the report says that it was skipped if and
only if at that glance the exit could be had and the delay did not both come first and be over.
The processes of a case are all started before the first exit is collected, so the host gives
them different numbers. -/
theorem execute_skips_iff (host : Host σ) (c : TestCase) (pace : Pace) {w w' : World σ}
    {o : Outcome} {subjects : List Subject} {place : Nat} {spec : ProcessSpec} {i : Injection}
    {s : Subject} {pid : Pid}
    (hrun : (c.execute host pace).run w = ((.outcome o, subjects), w'))
    (hphase : o.phase = .completed) (hpids : (subjects.filterMap Subject.pid).Nodup)
    (hspec : c.processes[place]? = some spec) (hi : spec.injection = some i)
    (hs : subjects[place]? = some s) (hpid : s.pid = some pid) :
    ∃ added first deciding, w'.journal = added ++ w.journal ∧ Begins host c pace w first ∧
      first.Visits host deciding ∧ deciding.Decides host place ∧
      ((∀ signal t d, .sent (.process pid) signal t d ∉ added) ∧
          o.results[place]?.bind (·.injection) = some (.skipped i.kind) ↔
        (glance host pid (deciding.worldAt host place)).exit ≠ .pending ∧
          (glance host pid (deciding.worldAt host place)).hurried (s.started.after i.delay) =
            false) := by
  obtain ⟨first, last, hbegins, hvisits, hlast, rfl, hjudge⟩ :=
    execute_completed host c pace hrun hphase
  obtain ⟨s₀, child, hplace, hawaits, rfl, hinjection, hstarted, halone⟩ :=
    hbegins.subject hvisits hpids hspec hi hs hpid
  obtain ⟨hfits, launched, started, hlaunching, -, hjournal⟩ := hbegins.launching
  obtain ⟨deciding, watched, hdeciding, hdecides, hwatched, hfate⟩ :=
    hvisits.fate hfits halone hlast hplace rfl hawaits hinjection
  obtain ⟨_, hjudged, -, rfl, hresults⟩ :=
    judge_ensures host (last.looked host).2 c .completed ((last.looked host).1.map (·.2))
  rw [hjudge] at hjudged hresults
  refine ⟨.phase .completed :: (watched ++ .phase .awaiting ::
    (launched ++ [.phase .launching, .phase .pending])), first, deciding, ?_, hbegins, hdeciding,
    hdecides, ?_⟩
  · rw [hjudged, hwatched, hjournal]
    simp only [List.append_assoc, List.cons_append, List.nil_append]
  rw [hstarted] at hfate
  cases hfate with
  | @skipped s' hg hexit hend hreport hnone =>
    refine iff_of_true ⟨fun signal t d hmem => ?_, ?_⟩ ⟨hexit, hg⟩
    · have := hnone _ ((signal_mem_iff hlaunching rfl).mp hmem) rfl
      cases this
    · obtain rfl : s' = s := by simpa [hend] using hs
      obtain ⟨stdout, stderr, hresult⟩ := hresults.result hs
      rw [hresult]
      exact hreport
  | sent hg hmem =>
    refine iff_of_false (fun h => h.1 _ _ _ ((signal_mem_iff hlaunching rfl).mpr hmem)) ?_
    rintro ⟨hexit, hcalm⟩
    obtain hg | hg := hg
    · rw [hcalm] at hg
      cases hg
    · exact hexit hg

/-- A host with a clock and a count of processes, each of which has exited by the twelfth
millisecond. The delay always comes first. -/
def exitingHost : Host (Nat × Nat) where
  now := fun (clock, count) => (⟨clock⟩, clock, count)
  openSink := fun state => (.ok ⟨0⟩, state)
  shareSink := fun _ state => (.ok (), state)
  drain := fun _ state => (.ok [], state)
  spawn := fun _ (clock, count) => (.ok (count + 1), clock, count + 1)
  collect := fun _ (clock, count) =>
    (if clock < 12000000 then .pending else .ended ⟨0⟩, clock, count)
  send := fun _ _ state => (.accepted, state)
  abandon := fun _ state => state
  coin := fun state => (false, state)
  rest := fun limit (clock, count) =>
    ((limit.map fun t => t.tick * Instant.perMillisecond).getD clock, count)

/-- A case whose first process is sent its signal five milliseconds after its launch. -/
def earlyCase : TestCase where
  name := "early"
  allowTimeout := false
  processes := [
    { (default : ProcessSpec) with
      name := "first", timeout := .ofMilliseconds 1000,
      injection := some ⟨.reload, .ofMilliseconds 5⟩ },
    { (default : ProcessSpec) with name := "second", timeout := .ofMilliseconds 1000 }]

def earlyPace : Pace := { stagger := .ofMilliseconds 10, grace := .ofMilliseconds 10, patience := 9 }

/-- The run of that case on that host. -/
def earlyRun : (CaseEnd × List Subject) × World (Nat × Nat) :=
  (earlyCase.execute exitingHost earlyPace).run { host := (0, 0) }

/-- The case completes, and its first process has a report of delivery. -/
theorem earlyRun_completed : ∃ o, earlyRun = ((.outcome o, earlyRun.1.2), earlyRun.2) ∧
    o.phase = .completed ∧ o.results[0]?.bind (·.injection) = some (.delivered .reload) := by
  have h : earlyRun.1.1.outcome?.map (fun o => (o.phase, o.results[0]?.bind (·.injection))) =
      some (.completed, some (.delivered .reload)) := by
    decide +kernel
  generalize earlyRun = run at h ⊢
  obtain ⟨o, ho, hreport⟩ := Option.map_eq_some_iff.mp h
  obtain ⟨hphase, hinjection⟩ := Prod.mk.inj hreport
  rw [CaseEnd.outcome?_eq_some] at ho
  exact ⟨o, by rw [← ho], hphase, hinjection⟩

/-- A process that is launched at eleven milliseconds, has exited by the twelfth, and is to be sent
its signal five milliseconds after its launch, is sent it all the same, and the case completes
with the report that the signal was delivered. -/
theorem delivered_after_exit : ∃ o subjects w',
    (earlyCase.execute exitingHost earlyPace).run { host := (0, 0) } = ((.outcome o, subjects), w') ∧
      o.phase = .completed ∧
      subjects.map (fun s => (s.pid, s.started)) = [(some 1, ⟨11000000⟩), (some 2, ⟨22000000⟩)] ∧
      (∀ clock count, 12000000 ≤ clock →
        (exitingHost.collect 1 (clock, count)).1 = .ended ⟨0⟩) ∧
      .sent (.process 1) .user1 ⟨22000000⟩ .accepted ∈ w'.journal ∧
      o.results[0]?.bind (·.injection) = some (.delivered .reload) := by
  obtain ⟨o, hrun, hphase, hinjection⟩ := earlyRun_completed
  refine ⟨o, earlyRun.1.2, earlyRun.2, hrun, hphase, by decide +kernel, ?_, by decide +kernel,
    hinjection⟩
  intro clock count hclock
  simp [exitingHost, Nat.not_lt.mpr hclock]

theorem execute_skips_iff_early : ∃ o subjects w' spec i s,
    (earlyCase.execute exitingHost earlyPace).run { host := (0, 0) } = ((.outcome o, subjects), w') ∧
      o.phase = .completed ∧ (subjects.filterMap Subject.pid).Nodup ∧
      earlyCase.processes[0]? = some spec ∧ spec.injection = some i ∧ subjects[0]? = some s ∧
      s.pid = some 1 ∧
      ∃ added first deciding, w'.journal = added ++ [] ∧
        Begins exitingHost earlyCase earlyPace { host := (0, 0) } first ∧
        first.Visits exitingHost deciding ∧ deciding.Decides exitingHost 0 ∧
        ((∀ signal t d, .sent (.process 1) signal t d ∉ added) ∧
            o.results[0]?.bind (·.injection) = some (.skipped i.kind) ↔
          (glance exitingHost 1 (deciding.worldAt exitingHost 0)).exit ≠ .pending ∧
            (glance exitingHost 1 (deciding.worldAt exitingHost 0)).hurried
              (s.started.after i.delay) = false) := by
  obtain ⟨o, hrun, hphase, -⟩ := earlyRun_completed
  have hpids : (earlyRun.1.2.filterMap Subject.pid).Nodup := by decide +kernel
  have hfirst : earlyRun.1.2[0]?.bind Subject.pid = some 1 := by decide +kernel
  obtain ⟨s, hs, hpid⟩ := Option.bind_eq_some_iff.mp hfirst
  exact ⟨o, earlyRun.1.2, earlyRun.2, _, _, s, hrun, hphase, hpids, rfl, rfl, hs, hpid,
    execute_skips_iff exitingHost earlyCase earlyPace hrun hphase hpids rfl rfl hs hpid⟩

end Proctor.TestCase
