import Proctor.Proofs.Catalog.Timeouts
import Mathlib.Data.Finset.Max

/-!
# The deadline of a case in seconds

The tables of a catalog give seconds as doubles, and cases have nanoseconds. What is rounded is off
by half a nanosecond at most, and rounding keeps the order of numbers: the deadline of a case, which
is its longest timeout, is what the largest number of seconds in its tables becomes.
-/
namespace Proctor

/-- The deadline of a case is one of its timeouts, and no timeout is longer. -/
theorem TestCase.deadline_isGreatest {c : TestCase} (h : c.processes ≠ []) :
    IsGreatest {t | ∃ spec ∈ c.processes, spec.timeout = t} c.deadline := by
  constructor
  · have hmem : c.deadline ∈ c.processes.map (·.timeout) :=
      Duration.longest_mem (by simpa using h)
    exact List.mem_map.mp hmem
  · rintro t ⟨spec, hspec, rfl⟩
    exact Duration.le_longest (List.mem_map_of_mem hspec)

namespace Draft

variable {d : Case} {c : TestCase}

/-- The exact number of seconds that the table of a process gives as the delay of its signal. -/
def Case.delay? (d : Case) (name : String) : Option ℚ :=
  (d.processes.lookup name).bind fun p => p.injection.bind (·.delay.value?)

/-- The exact numbers of seconds that the tables of a case give as timeouts. -/
def Case.allSeconds (d : Case) : Set ℚ := {s | ∃ name, d.seconds? name = some s}

/-- What the durations of a case are when this table gives them in seconds. -/
structure Case.Lasts (d : Case) (c : TestCase) : Prop where
  timeouts : ∀ spec ∈ c.processes, ∃ s, d.seconds? spec.name = some s ∧ spec.timeout.StandsFor s
  delays : ∀ spec ∈ c.processes, ∀ i, spec.injection = some i →
    ∃ s, d.delay? spec.name = some s ∧ i.delay.StandsFor s
  /-- The deadline is one of the timeouts, and no timeout is longer. -/
  deadline : IsGreatest {t | ∃ spec ∈ c.processes, spec.timeout = t} c.deadline
  exists_largest : ∃ s, IsGreatest d.allSeconds s
  /-- The largest number of seconds becomes the deadline. -/
  largest : ∀ name p s, d.processes.lookup name = some p → p.timeout.value? = some s →
    IsGreatest d.allSeconds s → Duration.ofSeconds? p.timeout = some c.deadline

theorem Case.seconds?_eq_some_iff {name : String} {s : ℚ} : d.seconds? name = some s ↔
    ∃ p, d.processes.lookup name = some p ∧ p.timeout.value? = some s := by
  rw [seconds?, Option.bind_eq_some_iff]

theorem Case.exists_largest (hwell : d.WellFormed) : ∃ s, IsGreatest d.allSeconds s := by
  have hall : d.allSeconds = ((d.order.filterMap d.seconds?).toFinset : Set ℚ) := by
    ext s
    simp only [allSeconds, Set.mem_ofPred_eq, List.coe_toFinset, List.mem_filterMap]
    constructor
    · rintro ⟨name, hs⟩
      obtain ⟨p, hp, -⟩ := seconds?_eq_some_iff.mp hs
      exact ⟨name, (hwell.declared name).mpr (exists_lookup_iff.mp ⟨p, hp⟩), hs⟩
    · rintro ⟨name, -, hs⟩
      exact ⟨name, hs⟩
  have hsome : (d.order.filterMap d.seconds?).toFinset.Nonempty := by
    obtain ⟨name, order, horder⟩ := List.exists_cons_of_ne_nil hwell.nonempty
    have hname : name ∈ d.order := by simp [horder]
    obtain ⟨p, hp⟩ := exists_lookup_iff.mpr ((hwell.declared name).mp hname)
    obtain ⟨_, htimeout⟩ := (hwell.processes name p hp).timeout.2
    obtain ⟨s, hs, -⟩ := Duration.nearest_of_ofSeconds? htimeout
    refine ⟨s, List.mem_toFinset.mpr (List.mem_filterMap.mpr ⟨name, hname, ?_⟩)⟩
    exact seconds?_eq_some_iff.mpr ⟨p, hp, hs⟩
  rw [hall]
  exact ⟨_, Finset.isGreatest_max' _ hsome⟩

theorem Case.lasts_of_becomes (hwell : d.WellFormed) (h : d.Becomes c) : d.Lasts c := by
  have hsome : c.processes ≠ [] := by
    intro hnone
    have hnames := h.names_eq
    rw [hnone] at hnames
    exact hwell.nonempty hnames.symm
  have hdeadline := TestCase.deadline_isGreatest hsome
  refine ⟨fun spec hspec => ?_, fun spec hspec i hi => ?_, hdeadline, exists_largest hwell, ?_⟩
  · obtain ⟨p, hp, hmeans⟩ := h.exists_table hspec
    obtain ⟨s, hs, hnear⟩ := Duration.nearest_of_ofSeconds? hmeans.timeout
    exact ⟨s, seconds?_eq_some_iff.mpr ⟨p, hp, hs⟩, Duration.standsFor_of_nearest hnear⟩
  · obtain ⟨p, hp, hmeans⟩ := h.exists_table hspec
    obtain ⟨j, hj, hdelay⟩ := hmeans.delay hi
    obtain ⟨s, hs, hnear⟩ := Duration.nearest_of_ofSeconds? hdelay
    refine ⟨s, ?_, Duration.standsFor_of_nearest hnear⟩
    rw [delay?, hp, Option.bind_some, hj, Option.bind_some, hs]
  · intro name p s hp hs hgreatest
    obtain ⟨spec, hspec, hmeans⟩ := h.exists_process hwell hp
    obtain ⟨longest, hlongest, hlast⟩ := hdeadline.1
    obtain ⟨q, hq, hmeans'⟩ := h.exists_table hlongest
    obtain ⟨t, ht, -⟩ := Duration.nearest_of_ofSeconds? hmeans'.timeout
    have hle : t ≤ s := hgreatest.2 ⟨_, seconds?_eq_some_iff.mpr ⟨q, hq, ht⟩⟩
    have hlonger : longest.timeout ≤ spec.timeout :=
      Duration.le_of_ofSeconds? ht hs hle hmeans'.timeout hmeans.timeout
    have hshorter : spec.timeout ≤ c.deadline := hdeadline.2 ⟨spec, hspec, rfl⟩
    have hsame : spec.timeout = c.deadline :=
      Duration.eq_of_le_of_le hshorter (hlast ▸ hlonger)
    rw [hmeans.timeout, hsame]

namespace Catalog

/-- In a catalog that was accepted every timeout and every delay is within half a nanosecond of what
the catalog gives in seconds. Larger numbers never become shorter durations, and so the deadline of
a case, which is its longest timeout, is what its largest number of seconds becomes. -/
theorem validate_rounds_seconds {d : Catalog} {catalog : Proctor.Catalog}
    (h : d.validate = .ok catalog) :
    List.Forall₂ Case.Lasts d.cases catalog.cases ∧
    ∀ (x y : Binary64) (s t : ℚ) (a b : Duration), x.value? = some s → y.value? = some t → s ≤ t →
      Duration.ofSeconds? x = some a → Duration.ofSeconds? y = some b → a ≤ b := by
  obtain ⟨hwell, hbecomes⟩ := of_validate h
  have hcases := (List.forall₂_and_left d.cases catalog.cases).mpr ⟨hwell.cases, hbecomes⟩
  refine ⟨hcases.imp fun _ _ hcase => Case.lasts_of_becomes hcase.1 hcase.2, ?_⟩
  intro x y s t a b hx hy hle ha hb
  exact Duration.le_of_ofSeconds? hx hy hle ha hb

/-- Seconds that are less than a tenth of a nanosecond short of one second. -/
def almostOne : Binary64 := .finite false 0x3FFFFFFFF (-34)

/-- One case of two processes. The first of them has almost a second, and a signal after almost a
nanosecond; the other one has half a second. -/
def almostDraft : Catalog where
  cases := [{
    name := "almost", order := ["p", "q"], allowTimeout := false
    processes := [
      ("p", ⟨.words ["p"], [], "", "", 0, almostOne, some ⟨.reload, .finite false 1 (-30)⟩⟩),
      ("q", ⟨.words ["q"], [], "", "", 0, .finite false 1 (-1), none⟩)] }]

/-- The nanoseconds of the first process are carried over into a whole second. -/
theorem validate_rounds_seconds_almost : ∃ catalog d c a b,
    almostDraft.validate = .ok catalog ∧ almostDraft.cases = [d] ∧ catalog.cases = [c] ∧
    d.Lasts c ∧ c.deadline.seconds = 1 ∧ c.deadline.subsecond = 0 ∧
    Duration.ofSeconds? (.finite false 1 (-1)) = some a ∧
    Duration.ofSeconds? almostOne = some b ∧ a ≤ b := by
  have hload : (almostDraft.validate.toOption.bind fun catalog => catalog.cases.head?.map fun c =>
      (catalog.cases.length, c.deadline.seconds, c.deadline.subsecond)) = some (1, 1, 0) := by
    decide +kernel
  obtain ⟨catalog, hcatalog, hload⟩ := Option.bind_eq_some_iff.mp hload
  obtain ⟨c, hc, hdeadline⟩ := Option.map_eq_some_iff.mp hload
  obtain ⟨hlength, hdeadline⟩ := Prod.mk.inj hdeadline
  obtain ⟨hseconds, hsubsecond⟩ := Prod.mk.inj hdeadline
  have hvalid : almostDraft.validate = .ok catalog := toOption_eq_some_iff.mp hcatalog
  have hcases : catalog.cases = [c] := by
    obtain ⟨only, honly⟩ := List.length_eq_one_iff.mp hlength
    rw [honly] at hc ⊢
    exact congrArg (fun c => [c]) (Option.some.inj hc)
  obtain ⟨a, ha⟩ : ∃ a, Duration.ofSeconds? (.finite false 1 (-1)) = some a :=
    Option.isSome_iff_exists.mp (by decide +kernel)
  obtain ⟨b, hb⟩ : ∃ b, Duration.ofSeconds? almostOne = some b :=
    Option.isSome_iff_exists.mp (by decide +kernel)
  obtain ⟨hlasts, hmono⟩ := validate_rounds_seconds hvalid
  rw [hcases] at hlasts
  obtain ⟨hlasts, -⟩ := List.forall₂_cons.mp hlasts
  have hle : ((if false then -1 else 1) * (1 : ℕ) * 2 ^ (-1 : Int) : ℚ) ≤
      (if false then -1 else 1) * (0x3FFFFFFFF : ℕ) * 2 ^ (-34 : Int) := by
    norm_num
  exact ⟨catalog, _, c, a, b, hvalid, rfl, hcases, hlasts, hseconds, hsubsecond, ha, hb,
    hmono _ _ _ _ a b rfl rfl hle ha hb⟩

end Catalog

end Draft
end Proctor
