import Proctor.Catalog.Load
import Proctor.Proofs.Catalog.Acceptance
import Proctor.Proofs.Time.Seconds

/-!
# How long an accepted timeout is

The seconds that a table gives are checked before they are rounded to nanoseconds. Seconds above
zero pass the check, but those of no more than half a nanosecond are zero afterwards, and a case of
such processes alone is over its deadline when it starts.
-/
namespace Proctor

namespace Draft

/-- The exact number of seconds that the table of a process gives as its timeout. -/
def Case.seconds? (d : Case) (name : String) : Option ℚ :=
  (d.processes.lookup name).bind (·.timeout.value?)

/-- What the timeouts of a case are, in nanoseconds, when this table gives them in seconds. -/
structure Case.Timed (d : Case) (c : TestCase) : Prop where
  /-- A timeout is above zero seconds, and above zero nanoseconds when it is more than a half. -/
  timeouts : ∀ spec ∈ c.processes, ∃ s, d.seconds? spec.name = some s ∧ 0 < s ∧
    (0 < spec.timeout.nanoseconds ↔ 1 / (2 * Duration.perSecond) < s)
  /-- The case has time to run when one of its processes has more than half a nanosecond. -/
  deadline : 0 < c.deadline.nanoseconds ↔
    ∃ spec ∈ c.processes, ∃ s, d.seconds? spec.name = some s ∧ 1 / (2 * Duration.perSecond) < s

theorem Case.timed_of_becomes {d : Case} (hwell : d.WellFormed) {c : TestCase}
    (hbecomes : d.Becomes c) : d.Timed c := by
  have htimeouts : ∀ spec ∈ c.processes, ∃ s, d.seconds? spec.name = some s ∧ 0 < s ∧
      (0 < spec.timeout.nanoseconds ↔ 1 / (2 * Duration.perSecond) < s) := by
    intro spec hspec
    obtain ⟨p, hp, hmeans⟩ := hbecomes.exists_table hspec
    obtain ⟨s, hs, hround⟩ := Duration.value_of_ofSeconds? hmeans.timeout
    have hpositive : 0 < s :=
      (Binary64.isPositive_iff hs).mp (hwell.processes spec.name p hp).timeout.1
    have hseconds : d.seconds? spec.name = some s := by
      rw [seconds?, hp, Option.bind_some, hs]
    exact ⟨s, hseconds, hpositive, hround⟩
  have hlongest : 0 < c.deadline.nanoseconds ↔
      ∃ spec ∈ c.processes, 0 < spec.timeout.nanoseconds := by
    rw [TestCase.deadline, Duration.longest_pos_iff]
    simp
  refine ⟨htimeouts, ?_⟩
  rw [hlongest]
  refine exists_congr fun spec => and_congr_right fun hspec => ?_
  obtain ⟨s, hs, -, hround⟩ := htimeouts spec hspec
  rw [hround, hs]
  simp

end Draft

namespace Catalog

/-- Every timeout of a catalog that is read from text is above zero seconds in the text. It is above
zero nanoseconds exactly when the text gives more than half a nanosecond, and the deadline of a case
is when this holds of one of its timeouts. -/
theorem timed_of_ofText {text : String} {catalog : Catalog} (h : ofText text = .ok catalog) :
    ∃ d, Draft.Catalog.ofText? text = some d ∧
      List.Forall₂ Draft.Case.Timed d.cases catalog.cases := by
  unfold ofText at h
  cases htext : Draft.Catalog.ofText? text with
  | none => simp [htext] at h
  | some d =>
    rw [htext] at h
    obtain ⟨hwell, hbecomes⟩ := Draft.Catalog.of_validate (Draft.mapError_eq_ok.mp h)
    have hcases := (List.forall₂_and_left d.cases catalog.cases).mpr ⟨hwell.cases, hbecomes⟩
    exact ⟨d, rfl, hcases.imp fun _ _ hcase => Draft.Case.timed_of_becomes hcase.1 hcase.2⟩

/-- One process with a tenth of a nanosecond. -/
def hastyText : String :=
  "[[case]]\nname = \"c\"\nexec = [\"p\"]\n[case.process.p]\ncmd = \"true\"\ntimeout = 1e-10\n"

/-- It is accepted, and has no time at all. -/
theorem hastyText_has_no_time : ∃ catalog c spec, ofText hastyText = .ok catalog ∧
    c ∈ catalog.cases ∧ spec ∈ c.processes ∧ spec.timeout.nanoseconds = 0 ∧
      c.deadline.nanoseconds = 0 := by
  have hload : ((ofText hastyText).toOption.bind fun catalog =>
      catalog.cases.head?.bind fun c => c.processes.head?.map fun spec =>
        (spec.timeout.nanoseconds, c.deadline.nanoseconds)) = some (0, 0) := by
    decide +kernel
  obtain ⟨catalog, hcatalog, hload⟩ := Option.bind_eq_some_iff.mp hload
  obtain ⟨c, hc, hload⟩ := Option.bind_eq_some_iff.mp hload
  obtain ⟨spec, hspec, hzero⟩ := Option.map_eq_some_iff.mp hload
  obtain ⟨htimeout, hdeadline⟩ := Prod.mk.inj hzero
  exact ⟨catalog, c, spec, Draft.toOption_eq_some_iff.mp hcatalog, List.mem_of_mem_head? hc,
    List.mem_of_mem_head? hspec, htimeout, hdeadline⟩

/-- In its text the timeout is above zero, as of every catalog that is accepted. -/
theorem hastyText_timed : ∃ catalog, ofText hastyText = .ok catalog ∧
    ∃ d, Draft.Catalog.ofText? hastyText = some d ∧
      List.Forall₂ Draft.Case.Timed d.cases catalog.cases := by
  have hload : (ofText hastyText).toOption.isSome = true := by decide +kernel
  obtain ⟨catalog, hcatalog⟩ := Option.isSome_iff_exists.mp hload
  rw [Draft.toOption_eq_some_iff] at hcatalog
  exact ⟨catalog, hcatalog, timed_of_ofText hcatalog⟩

end Catalog
end Proctor
