import Proctor.Program.Options

/-!
# What options ask for

Options can be used exactly when their filter is a pattern for names, and it is this pattern that
selects the cases of a run. Everything else that they ask for can always be had.
-/
namespace Proctor.Settings
variable {o : Options} {settings : Settings}

/-- The filter decides whether there are settings. -/
theorem ofOptions_eq (o : Options) :
    ofOptions o = (Pattern.compile .name (o.filter.getD "")).map fun filter => {
      catalogPath := o.catalog.getD Catalog.defaultPath
      filter
      verbose := o.verbose.any fun text => !text.isEmpty
      stagger := .ofMilliseconds (o.stagger.getD 200)
      killGrace := .ofMilliseconds (o.killGrace.getD 1000) } := by
  rw [ofOptions]
  cases Pattern.compile .name (o.filter.getD "") <;> rfl

/-- Options cannot be used exactly when their filter is no pattern. -/
theorem ofOptions_eq_error_iff {fault : PatternFault} :
    ofOptions o = .error fault ↔ Pattern.compile .name (o.filter.getD "") = .error fault := by
  rw [ofOptions_eq]
  cases Pattern.compile .name (o.filter.getD "") <;> simp [Except.map]

/-- The filter of settings is read without regard to letter case. -/
theorem compile_of_ofOptions (h : ofOptions o = .ok settings) :
    Pattern.compile .name (o.filter.getD "") = .ok settings.filter := by
  rw [ofOptions_eq] at h
  cases hfilter : Pattern.compile .name (o.filter.getD "") with
  | error fault =>
    rw [hfilter] at h
    cases h
  | ok filter =>
    rw [hfilter] at h
    cases h
    rfl

/-- With a filter that is a pattern there are settings, and the pattern is what they select by. -/
theorem exists_ofOptions {filter : Pattern}
    (h : Pattern.compile .name (o.filter.getD "") = .ok filter) :
    ∃ settings, ofOptions o = .ok settings ∧ settings.filter = filter ∧
      settings.catalogPath = o.catalog.getD Catalog.defaultPath := by
  rw [ofOptions_eq, h]
  exact ⟨_, rfl, rfl, rfl⟩

end Proctor.Settings
