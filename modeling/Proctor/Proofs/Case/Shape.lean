import Proctor.Proofs.Case.Delivery
import Proctor.Proofs.Case.Verdict
import Proctor.Proofs.Catalog.Acceptance

/-!
# The shape of an outcome

A case that ends with an outcome passed through its phases in the one order there is, and timed out
exactly when the watchdog decided the last round of its wait. Its outcome holds one result and one
verdict for each of its processes, in the order of their launch. The names in a case of a loaded
catalog are all different, so that looking up a name finds the entry at the place of that name.
-/
namespace Proctor

/-- The phase that an entry says a case entered. -/
def Entry.phase? : Entry → Option Phase
  | .phase entered => some entered
  | _ => none

/-- The phases that a case passed through, the first one first. -/
def phases (journal : List Entry) : List Phase := journal.reverse.filterMap Entry.phase?

@[simp] theorem phases_nil : phases [] = [] := rfl

@[simp] theorem phases_append (later earlier : List Entry) :
    phases (later ++ earlier) = phases earlier ++ phases later := by
  simp [phases]

@[simp] theorem phases_cons_phase (phase : Phase) (earlier : List Entry) :
    phases (.phase phase :: earlier) = phases earlier ++ [phase] := by
  simp [phases, Entry.phase?]

theorem phases_eq_nil {journal : List Entry} (h : ∀ e ∈ journal, e.phase? = none) :
    phases journal = [] := by
  rw [phases, List.filterMap_eq_nil_iff]
  exact fun e he => h e (List.mem_reverse.mp he)

theorem Entry.phase?_of_launches {e : Entry} (h : e.launches = true) : e.phase? = none := by
  cases e with
  | phase _ => cases h
  | _ => rfl

namespace Subject
variable {s s' : Subject} {e : Entry}

theorem Supervises.phase?_eq (h : s.Supervises e s') : e.phase? = none := by
  cases h <;> rfl

theorem Terminates.phase?_eq (h : s.Terminates e s') : e.phase? = none := by
  cases h <;> rfl

theorem Discards.phase?_eq (h : s.Discards e s') : e.phase? = none := by
  cases h <;> rfl

end Subject

/-- Among items with different keys the first one with the key of some item is that item. -/
theorem find?_of_nodup {α : Type} (key : α → String) {as : List α} {a : α}
    (hkeys : (as.map key).Nodup) (ha : a ∈ as) : as.find? (key · = key a) = some a := by
  obtain ⟨before, after, rfl⟩ := List.append_of_mem ha
  rw [List.find?_eq_some_iff_append]
  refine ⟨by simp, before, after, rfl, fun b hb => ?_⟩
  rw [List.map_append, List.nodup_append] at hkeys
  have hne := hkeys.2.2 _ (List.mem_map_of_mem hb) (key a) (by simp)
  simpa using hne

/-- An outcome with one result and one verdict for each process of a case, in launch order. Each of
them is found at its place and under the name of its process, and a verdict is about nothing but
the process and its result. -/
structure Outcome.Aligned (o : Outcome) (c : TestCase) : Prop where
  results_length : o.results.length = c.processes.length
  verdicts_length : o.verdicts.length = c.processes.length
  at_place : ∀ (place : Nat) (spec : ProcessSpec), c.processes[place]? = some spec → ∃ result,
    o.results[place]? = some result ∧ result.name = spec.name ∧
      o.verdicts[place]? = some (spec.verdict result) ∧ (spec.verdict result).name = spec.name ∧
      c.process? spec.name = some spec ∧ o.result? spec.name = some result ∧
      o.verdict? spec.name = some (spec.verdict result)

namespace TestCase
open Subject

/-- Waiting is never over by itself with a timeout. -/
theorem ending?_ne_timedOut (supervised : List (Supervision × Subject)) :
    ending? supervised ≠ some .timedOut := by
  unfold ending?
  split
  · nofun
  · split <;> nofun

namespace Round
variable {σ : Type} {host : Host σ} {r : Round σ} {ending : Ending} {subjects : List Subject}
  {w : World σ}

/-- Whether the watchdog decides a round: it has fired, and either it comes first or some process
is still to be waited for when all were looked at. -/
def WatchdogWins (host : Host σ) (r : Round σ) : Prop :=
  r.watchdog.fired = true ∧
    ((host.coin r.world.host).1 = true ∨ ending? (r.looked host).1 = none)

theorem Ends.timedOut_iff (h : r.Ends host ending subjects w) :
    ending = .timedOut ↔ r.WatchdogWins host := by
  cases h with
  | early hfirst hfired => exact iff_of_true rfl ⟨hfired, .inl hfirst⟩
  | looked hfirst hended =>
    refine iff_of_false ?_ ?_
    · rintro rfl
      exact ending?_ne_timedOut _ hended
    · rintro ⟨hfired, hwins | hnone⟩
      · simp [hfired, hwins] at hfirst
      · rw [hended] at hnone
        cases hnone
  | late _ hended hfired => exact iff_of_true rfl ⟨hfired, .inr hended⟩

/-- A case does not go on after a round that ends its wait. -/
theorem Ends.not_goesOn (h : r.Ends host ending subjects w) : ¬ r.GoesOn host := by
  rintro ⟨hnone, hfired⟩
  cases h with
  | early _ h | late _ _ h =>
    rw [hfired] at h
    cases h
  | looked _ hended =>
    rw [hnone] at hended
    cases hended

/-- A wait completes only when the supervision of every process is over. -/
theorem Ends.over (h : r.Ends host .completed subjects w) :
    ∀ x ∈ (r.looked host).1, x.1 = .over := by
  cases h with
  | looked _ hended => exact over_of_completed hended

end Round

variable {σ : Type} {host : Host σ} {c : TestCase} {entries : List Entry} {subjects : List Subject}
  {o : Outcome}

theorem Awaited.phases_eq (h : Awaited host c entries subjects) :
    phases entries = [.pending, .launching, .awaiting] := by
  obtain ⟨hlaunch, hpath⟩ := h
  have hlaunched := phases_eq_nil fun e he => Entry.phase?_of_launches (hlaunch.launches e he)
  have hwatched := phases_eq_nil (hpath.forall_entry (·.phase?_eq))
  simp [hlaunched, hwatched]

/-- A case with an outcome passed through all phases up to the one in which it was judged. -/
theorem Course.phases_eq (h : Course host c entries (.outcome o) subjects) :
    phases entries = [.pending, .launching, .awaiting, o.phase] := by
  generalize hending : CaseEnd.outcome o = ending at h
  cases h with
  | @cut _ _ setback _ => cases setback <;> cases hending
  | unarmed _ | stuck _ _ => cases hending
  | broken _ hend => obtain rfl | rfl := hend <;> cases hending
  | completed h _ hjudged =>
    subst hending
    simp [h.phases_eq, hjudged.phase_eq]
  | timedOut h hpath _ hjudged =>
    subst hending
    have hterminated := phases_eq_nil (hpath.forall_entry (·.phase?_eq))
    have hexpired : phases [.expired] = [] := rfl
    rw [phases_cons_phase, phases_append, ← List.singleton_append, phases_append, h.phases_eq,
      hterminated, hexpired, hjudged.phase_eq]
    rfl

/-- The results of an outcome have the names of the processes of its case. -/
theorem Course.names_eq (h : Course host c entries (.outcome o) subjects) :
    o.results.map (·.name) = c.processes.map (·.name) := by
  obtain ⟨_, hbegun, -⟩ := h.begun
  obtain ⟨-, _, hjudged, -⟩ := h.concluded
  obtain ⟨_, results, -, rfl, hlength⟩ := h.outcome
  obtain @⟨_, hfrozen⟩ := hjudged
  have hsubjects : results.map (·.name) = subjects.map (·.name) := by
    rw [← List.forall₂_eq_eq_eq, List.forall₂_map_left_iff, List.forall₂_map_right_iff]
    refine List.Forall₂.flip (hfrozen.imp ?_)
    rintro s _ ⟨stdout, stderr, rfl⟩
    rfl
  change results.map (·.name) = c.processes.map (·.name)
  rw [hsubjects, hbegun.attempts_eq.2, hbegun.attempts_eq.1, hfrozen.length_eq, hlength,
    List.take_length]

/-- The verdicts on as many results as there are processes have the names of the processes. -/
theorem verdicts_names {specs : List ProcessSpec} {results : List ProcessResult}
    (h : results.length = specs.length) :
    (List.zipWith ProcessSpec.verdict specs results).map (·.name) = specs.map (·.name) := by
  induction specs generalizing results with
  | nil => rfl
  | cons spec specs ih =>
    cases results with
    | nil => cases h
    | cons result results =>
      rw [List.zipWith_cons_cons, List.map_cons, ih (Nat.succ.inj h), List.map_cons]
      rfl

/-- If the processes of a case have different names then everything about a process is found under
its name. -/
theorem Course.aligned (h : Course host c entries (.outcome o) subjects)
    (hnames : (c.processes.map (·.name)).Nodup) : o.Aligned c := by
  have hresults := h.names_eq
  obtain ⟨phase, results, -, rfl, hlength⟩ := h.outcome
  have hverdicts := verdicts_names hlength
  refine ⟨hlength, by simp [conclude, hlength], fun place spec hspec => ?_⟩
  obtain ⟨result, hresult, hname⟩ : ∃ result, results[place]? = some result ∧
      result.name = spec.name := by
    have hat : (results.map (·.name))[place]? = some spec.name := by
      rw [show results.map (·.name) = c.processes.map (·.name) from hresults, List.getElem?_map,
        hspec]
      rfl
    rwa [List.getElem?_map, Option.map_eq_some_iff] at hat
  have hverdict : (List.zipWith ProcessSpec.verdict c.processes results)[place]? =
      some (spec.verdict result) :=
    List.getElem?_zipWith_eq_some.mpr ⟨spec, result, hspec, hresult, rfl⟩
  refine ⟨result, hresult, hname, hverdict, rfl,
    find?_of_nodup ProcessSpec.name hnames (List.mem_of_getElem? hspec), ?_, ?_⟩
  · rw [← hname]
    exact find?_of_nodup ProcessResult.name (hresults ▸ hnames) (List.mem_of_getElem? hresult)
  · exact find?_of_nodup Verdict.name (hverdicts ▸ hnames) (List.mem_of_getElem? hverdict)

/-- What a run of a case that ends with an outcome is like, with the first and the last round of
its wait. -/
structure Shaped (host : Host σ) (c : TestCase) (pace : Pace) (w : World σ) (added : List Entry)
    (o : Outcome) (first last : Round σ) : Prop where
  phases_eq : phases added = [.pending, .launching, .awaiting, o.phase]
  phase : o.phase = .completed ∨ o.phase = .timedOut
  /-- Every phase is a legal next one, and so is that of the report. -/
  legal : ((phases added).tail ++ [Phase.reported]).foldlM Phase.advance .pending = .ok .reported
  begins : Begins host c pace w first
  visits : first.Visits host last
  stops : ¬ last.GoesOn host
  timedOut : o.phase = .timedOut ↔ last.WatchdogWins host
  completed : o.phase = .completed → ∀ x ∈ (last.looked host).1, x.1 = .over
  deadline : o.deadline ∈ c.processes.map (·.timeout) ∧
    ∀ spec ∈ c.processes, spec.timeout ≤ o.deadline
  caseFailures : o.caseFailures =
    if o.phase = .timedOut ∧ c.allowTimeout = false then [.deadline o.deadline] else []
  aligned : o.Aligned c

/-- Every run of a case of a loaded catalog that ends with an outcome has this shape. -/
theorem run_shaped (host : Host σ) (pace : Pace) {draft : Draft.Catalog} {catalog : Catalog}
    {w w' : World σ} (hload : draft.validate = .ok catalog) (hc : c ∈ catalog.cases)
    (hrun : (c.run host pace).run w = (.outcome o, w')) :
    ∃ added first last, w'.journal = added ++ w.journal ∧
      Shaped host c pace w added o first last := by
  obtain ⟨hnonempty, hnames⟩ := Draft.Catalog.names_of_mem hload hc
  obtain ⟨_, hjournal, -, executed, dropped, subjects, w₁, hexecute, -, rfl, hcourse, -,
    hdropped, -⟩ := run_ensures host w c pace
  rw [hrun] at hjournal hexecute hcourse
  have hphases : phases (dropped ++ executed) = [.pending, .launching, .awaiting, o.phase] := by
    rw [phases_append, phases_eq_nil (hdropped.forall_entry (·.phase?_eq)), hcourse.phases_eq]
    rfl
  obtain ⟨_, _, -, ho, -⟩ := hcourse.outcome
  obtain ⟨first, ending, awaited, w₂, hbegins, hawait, hjudge⟩ :=
    execute_outcome host c pace hexecute
  have hending : ending = .completed ∧ o.phase = .completed ∨
      ending = .timedOut ∧ o.phase = .timedOut := by
    obtain ⟨h, -, hjudge⟩ | ⟨h, _, -, hjudge⟩ := hjudge
    · exact .inl ⟨h, judge_phase host c hjudge⟩
    · exact .inr ⟨h, judge_phase host c hjudge⟩
  obtain ⟨last, hvisits, hends⟩ := first.await_ends host hawait (by
    obtain ⟨rfl, -⟩ | ⟨rfl, -⟩ := hending <;> nofun)
  refine ⟨_, first, last, hjournal, hphases, hending.imp (·.2) (·.2), ?_, hbegins, hvisits,
    hends.not_goesOn, ?_, ?_, ?_, ?_, hcourse.aligned hnames⟩
  · rw [hphases]
    obtain ⟨-, h⟩ | ⟨-, h⟩ := hending <;> rw [h] <;> rfl
  · rw [← hends.timedOut_iff]
    obtain ⟨rfl, h⟩ | ⟨rfl, h⟩ := hending <;> simp [h]
  · intro hcompleted
    obtain ⟨rfl, -⟩ | ⟨-, h⟩ := hending
    · exact hends.over
    · rw [hcompleted] at h
      cases h
  · subst ho
    refine ⟨Duration.longest_mem (by simpa using hnonempty), fun spec hspec => ?_⟩
    exact Duration.le_longest (List.mem_map_of_mem hspec)
  · subst ho
    cases hallow : c.allowTimeout <;> simp [conclude, hallow]

/-- A draft of one case that launches `p` before `q`. -/
def pairDraft : Draft.Catalog where
  cases := [{
    name := "pair", order := ["p", "q"], allowTimeout := false,
    processes := ["q", "p"].map fun name =>
      (name, ⟨.words [name], [], "", "", 0, .finite false 5 0, none⟩) }]

theorem run_shaped_pair : ∃ catalog c o w', pairDraft.validate = .ok catalog ∧
    c ∈ catalog.cases ∧
    (c.run exitingHost earlyPace).run { host := (0, 0) } = (.outcome o, w') ∧
    ∃ added first last, w'.journal = added ++ [] ∧
      Shaped exitingHost c earlyPace { host := (0, 0) } added o first last := by
  have hall : (pairDraft.validate.toOption.bind fun catalog => catalog.cases.head?.bind fun c =>
      ((c.run exitingHost earlyPace).run { host := (0, 0) }).1.outcome?).isSome = true := by
    decide +kernel
  obtain ⟨o, ho⟩ := Option.isSome_iff_exists.mp hall
  obtain ⟨catalog, hcatalog, ho⟩ := Option.bind_eq_some_iff.mp ho
  obtain ⟨c, hc, ho⟩ := Option.bind_eq_some_iff.mp ho
  have hload : pairDraft.validate = .ok catalog := Draft.toOption_eq_some_iff.mp hcatalog
  have hmem : c ∈ catalog.cases := List.mem_of_mem_head? hc
  rw [CaseEnd.outcome?_eq_some] at ho
  have hrun : (c.run exitingHost earlyPace).run { host := (0, 0) } =
      (.outcome o, ((c.run exitingHost earlyPace).run { host := (0, 0) }).2) := Prod.ext ho rfl
  exact ⟨catalog, c, o, _, hload, hmem, hrun, run_shaped exitingHost earlyPace hload hmem hrun⟩

end TestCase
end Proctor
