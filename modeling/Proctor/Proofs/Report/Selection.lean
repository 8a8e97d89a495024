import Proctor.Proofs.Catalog.Acceptance
import Proctor.Proofs.Pattern.LetterCase
import Proctor.Proofs.Program.Options
import Proctor.Proofs.Report.Attempts

/-!
# What a filter selects

A filter does not regard letter case unless it says so itself. It selects both or neither of two
names that differ in the case of their letters alone, and so a report skips a case under the one
name exactly when it skips a case under the other, wherever the two stand.
-/
namespace Proctor

/-- Two names that are the same but for the case of their letters of ASCII. -/
def SameButCase (name name' : String) : Prop :=
  name.toList.map Char.toLower = name'.toList.map Char.toLower

instance (name name' : String) : Decidable (SameButCase name name') :=
  inferInstanceAs (Decidable (_ = _))

namespace Settings
variable {o : Options} {settings : Settings} {t : Term}

theorem selects_congr (hsettings : ofOptions o = .ok settings)
    (ht : Term.read? (o.filter.getD "") = some t)
    (hkept : t.sets ⟨.caseInsensitive, false⟩ = false) {name name' : String}
    (h : SameButCase name name') : settings.selects name = settings.selects name' := by
  have hlower (text : List Char) :
      settings.filter.found (text.map Char.toLower) = settings.filter.found text :=
    Pattern.found_toLower (compile_of_ofOptions hsettings) ht rfl hkept text
  rw [selects, selects, ← hlower name.toList, ← hlower name'.toList, h]

end Settings

namespace Report

/-- Attempts at cases of which the filter selects the same run the same and skip the same, whatever
becomes of those that are run. -/
theorem Attempts.skip_alike {τ τ' : Type} {settings : Settings}
    {runner : TestCase → StateM τ CaseEnd} {runner' : TestCase → StateM τ' CaseEnd}
    {cases cases' : List TestCase} {endings endings' : List (Option CaseEnd)} {t t₁ : τ}
    {t' t₁' : τ'}
    (hselects : List.Forall₂
      (fun c c' => settings.selects c.name = settings.selects c'.name) cases cases')
    (h : Attempts settings runner cases t endings t₁)
    (h' : Attempts settings runner' cases' t' endings' t₁') :
    List.Forall₂ (fun attempt attempt' => attempt = none ↔ attempt' = none) endings endings' := by
  induction hselects generalizing t t' endings endings' with
  | nil =>
    cases h
    cases h'
    exact .nil
  | cons hc _ ih =>
    cases h with
    | skipped hskipped hrest =>
      cases h' with
      | skipped _ hrest' => exact .cons Iff.rfl (ih hrest hrest')
      | ran hran' _ _ =>
        rw [hc, hran'] at hskipped
        cases hskipped
    | ran hran _ hrest =>
      cases h' with
      | skipped hskipped' _ =>
        rw [hc, hskipped'] at hran
        cases hran
      | ran _ _ hrest' => exact .cons (by simp) (ih hrest hrest')

/-- The statuses of a whole report are those of its attempts. -/
theorem runAll_statuses {τ : Type} (settings : Settings) (runner : TestCase → StateM τ CaseEnd)
    (catalog : Catalog) (w : τ) :
    ∃ endings w₁, Attempts settings runner catalog.cases w endings w₁ ∧
      (((runAll settings runner catalog).run.run {}).run w).1.2.statuses =
        statusesOf catalog.cases endings := by
  obtain ⟨endings, w₁, report, hattempts, hreport, hrun⟩ :=
    runAll_attempts settings runner (r := {}) catalog rfl w
  refine ⟨endings, w₁, hattempts, ?_⟩
  rw [hrun, hreport]
  rfl

/-- A filter that does not clear the flag for letter case selects both or neither of two names that
differ in case alone. Reports of two catalogs with such names, case by case, run the same cases and
skip the same, as their statuses tell. -/
theorem selection_ignores_case {o : Options} {settings : Settings} {t : Term}
    (hsettings : Settings.ofOptions o = .ok settings)
    (ht : Term.read? (o.filter.getD "") = some t)
    (hkept : t.sets ⟨.caseInsensitive, false⟩ = false) :
    (∀ name name', SameButCase name name' → settings.selects name = settings.selects name') ∧
    ∀ {τ : Type} (runner : TestCase → StateM τ CaseEnd) (catalog catalog' : Catalog) (w w' : τ),
      List.Forall₂ (fun c c' => SameButCase c.name c'.name) catalog.cases catalog'.cases →
      ∃ endings endings' w₁ w₁',
        Attempts settings runner catalog.cases w endings w₁ ∧
        Attempts settings runner catalog'.cases w' endings' w₁' ∧
        (((runAll settings runner catalog).run.run {}).run w).1.2.statuses =
          statusesOf catalog.cases endings ∧
        (((runAll settings runner catalog').run.run {}).run w').1.2.statuses =
          statusesOf catalog'.cases endings' ∧
        List.Forall₂ (fun attempt attempt' => attempt = none ↔ attempt' = none)
          endings endings' := by
  have hselects (name name' : String) (h : SameButCase name name') :
      settings.selects name = settings.selects name' :=
    Settings.selects_congr hsettings ht hkept h
  refine ⟨hselects, fun runner catalog catalog' w w' hnames => ?_⟩
  obtain ⟨endings, w₁, hattempts, hstatuses⟩ := runAll_statuses settings runner catalog w
  obtain ⟨endings', w₁', hattempts', hstatuses'⟩ := runAll_statuses settings runner catalog' w'
  have halike := hattempts.skip_alike (hnames.imp fun _ _ h => hselects _ _ h) hattempts'
  exact ⟨endings, endings', w₁, w₁', hattempts, hattempts', hstatuses, hstatuses', halike⟩

/-- A filter with a class that is combined, negated and followed by a word boundary, under flags
that are set and cleared. -/
def mixedOptions : Options := { filter := some "(?m-s)^[^a-f&&[c-z]]UN\\b" }

/-- A catalog with two cases. -/
def namedCatalog (first second : String) : Catalog := ⟨[⟨first, false, []⟩, ⟨second, true, []⟩]⟩

theorem selection_ignores_case_mixed : ∃ settings t,
    Settings.ofOptions mixedOptions = .ok settings ∧
    Term.read? (mixedOptions.filter.getD "") = some t ∧
    t.sets ⟨.caseInsensitive, false⟩ = false ∧
    settings.selects "RUN fast" = true ∧ settings.selects "run Fast" = true ∧
    settings.selects "Dun" = false ∧ settings.selects "dUN" = false ∧
    ∃ endings endings',
      Attempts settings (fun _ => pure .stalled) (namedCatalog "RUN fast" "Dun").cases ()
        endings () ∧
      Attempts settings (fun _ => pure .stalled) (namedCatalog "run Fast" "dUN").cases ()
        endings' () ∧
      List.Forall₂ (fun attempt attempt' => attempt = none ↔ attempt' = none) endings endings' := by
  have hread : (Term.read? (mixedOptions.filter.getD "")).any (fun t =>
      !t.sets ⟨.caseInsensitive, false⟩) = true := by decide +kernel
  have hsearch : (Settings.ofOptions mixedOptions).toOption.any (fun settings =>
      settings.selects "RUN fast" && !settings.selects "Dun") = true := by decide +kernel
  obtain ⟨t, ht, hkept⟩ := (Option.any_eq_true _ _).mp hread
  obtain ⟨settings, hsome, hsearch⟩ := (Option.any_eq_true _ _).mp hsearch
  have hsettings := Draft.toOption_eq_some_iff.mp hsome
  simp only [Bool.and_eq_true, Bool.not_eq_true'] at hkept hsearch
  obtain ⟨hrun, hother⟩ := hsearch
  obtain ⟨hselects, hreports⟩ := selection_ignores_case hsettings ht hkept
  have hfast : SameButCase "RUN fast" "run Fast" := by decide
  have hdun : SameButCase "Dun" "dUN" := by decide
  obtain ⟨endings, endings', _, _, hattempts, hattempts', -, -, halike⟩ :=
    hreports (fun _ => pure .stalled) (namedCatalog "RUN fast" "Dun")
      (namedCatalog "run Fast" "dUN") () () (.cons hfast (.cons hdun .nil))
  exact ⟨settings, t, hsettings, ht, hkept, hrun, (hselects _ _ hfast).symm.trans hrun, hother,
    (hselects _ _ hdun).symm.trans hother, endings, endings', hattempts, hattempts', halike⟩

end Report
end Proctor
