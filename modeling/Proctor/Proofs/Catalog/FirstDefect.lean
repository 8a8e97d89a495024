import Proctor.Catalog.Load
import Proctor.Proofs.Catalog.Acceptance
import Proctor.Proofs.Text.Order

/-!
# Which defect is reported

A draft may have many defects. They are all listed here in the order of a reader who goes through
the draft from its beginning to its end and is stopped by none of them: each case with those before
it in view, each launch with those before it in view, and the processes of a case that are never
launched after its launches, the smallest name first. The checks take tables away as they go, stop
at once, and report the first defect of that list.
-/
namespace Proctor

theorem CommandLine.ofList?_eq_none_iff {words : List String} :
    ofList? words = none ↔ words.headD "" = "" := by
  cases words <;> simp [ofList?]

namespace Draft

/-- What is found in some items one after the other, each with the ones before it in view. -/
def scan {α β : Type} (find : List α → α → List β) : (before : List α) → List α → List β
  | _, [] => []
  | before, a :: rest => find before a ++ scan find (before ++ [a]) rest

/-- A defect, if there is reason for it. -/
def defectIf (reason : Prop) [Decidable reason] (e : Defect) : List Defect :=
  if reason then [e] else []

/-- The defects of the pattern for a stream. -/
def patternDefects (c name : String) (stream : Stream) (text : String) : List Defect :=
  match Pattern.ofText text with
  | .ok _ => []
  | .error fault => [.invalidPattern c name stream fault]

/-- The defects of a process table. -/
def Process.defects (p : Process) (c name : String) : List Defect :=
  defectIf (p.command.toList.headD "" = "") (.emptyCommand c name) ++
  defectIf (p.timeout.isPositive = false ∨ Duration.ofSeconds? p.timeout = none)
    (.invalidTimeout c name p.timeout) ++
  p.injection.toList.flatMap (fun i =>
    defectIf (Duration.ofSeconds? i.delay = none) (.invalidDelay c name i.delay)) ++
  patternDefects c name .stdout p.stdout ++
  patternDefects c name .stderr p.stderr

/-- Entries in the order of the bytes of their names. -/
def InOrder {α : Type} (entries : List (String × α)) : Prop :=
  entries.Pairwise fun a b => a.1.toUTF8.toList ≤ b.1.toUTF8.toList

namespace Case

/-- The defects of one launch, after some earlier ones. -/
def launchDefects (d : Case) (earlier : List String) (name : String) : List Defect :=
  match d.processes.lookup name with
  | none => [.unknownProcess d.name name]
  | some p => if name ∈ earlier then [.duplicateLaunch d.name name] else p.defects d.name name

/-- The declared processes that are never launched, in the order of the bytes of their names. -/
def missing (d : Case) : List String :=
  ((d.processes.map (·.1)).filter (· ∉ d.order)).mergeSort
    fun s t => s.toUTF8.toList ≤ t.toUTF8.toList

/-- The defects of a case. -/
def defects (d : Case) : List Defect :=
  defectIf (d.order = []) (.emptyOrder d.name) ++
  scan d.launchDefects [] d.order ++
  d.missing.map (.notLaunched d.name)

/-- The defects of a case, after some earlier ones. -/
def defectsAfter (earlier : List Case) (d : Case) : List Defect :=
  defectIf (d.name ∈ earlier.map (·.name)) (.duplicateCase d.name) ++ d.defects

end Case

namespace Catalog

/-- The defects of a draft. -/
def defects (d : Catalog) : List Defect :=
  defectIf (d.cases = []) .noCases ++
  scan Case.defectsAfter [] d.cases

/-- The process tables of every case are in order. -/
def Ordered (d : Catalog) : Prop := ∀ c ∈ d.cases, InOrder c.processes

end Catalog

/-- A check that passes when there are no defects, and reports the first one otherwise. -/
def Reports {α : Type} (check : Except Defect α) (defects : List Defect) : Prop :=
  match check with
  | .ok _ => defects = []
  | .error e => defects.head? = some e

namespace Reports
variable {α β : Type} {check : Except Defect α} {ds es : List Defect}

theorem pass (a : α) : Reports (.ok a : Except Defect α) [] := rfl

theorem stop (e : Defect) (es : List Defect) : Reports (.error e : Except Defect α) (e :: es) := rfl

/-- The defects of a second check come after those of the first one, which hides them. -/
theorem bind {next : α → Except Defect β} (hcheck : Reports check ds)
    (hnext : ∀ a, check = .ok a → Reports (next a) es) : Reports (check >>= next) (ds ++ es) := by
  cases check with
  | ok a =>
    have hnone : ds = [] := hcheck
    rw [hnone, List.nil_append]
    exact hnext a rfl
  | error e =>
    have hfirst : ds.head? = some e := hcheck
    show (ds ++ es).head? = some e
    rw [List.head?_append, hfirst, Option.some_or]

/-- The error of a check is the first defect, whatever others come after it. -/
theorem eq_error_iff (h : Reports check ds) (e : Defect) :
    check = .error e ↔ ∃ later, ds = e :: later := by
  rw [← List.head?_eq_some_iff]
  cases check with
  | ok a =>
    have hnone : ds = [] := h
    simp [hnone]
  | error first =>
    have hfirst : ds.head? = some first := h
    rw [hfirst, Except.error.injEq, Option.some.injEq]

/-- What is made of the result of a check has no defects of its own. -/
theorem map (hcheck : Reports check ds) (f : α → β) :
    Reports (do let a ← check; return f a) ds := by
  rw [← List.append_nil ds]
  exact bind hcheck fun a _ => pass (f a)

/-- What a check starts with is reported if there is reason for it, and hides all else. -/
theorem guard {stopped : Except Defect α} {seen reason : Prop} [Decidable seen] [Decidable reason]
    {e : Defect} (hseen : seen ↔ reason) (hstopped : stopped = .error e)
    (hcheck : ¬ reason → Reports check ds) :
    Reports (if seen then stopped else check) (defectIf reason e ++ ds) := by
  unfold defectIf
  by_cases h : reason
  · rw [if_pos (hseen.mpr h), if_pos h, hstopped]
    exact stop e ds
  · rw [if_neg (mt hseen.mp h), if_neg h]
    exact hcheck h

end Reports

theorem pattern_reports (c name : String) (stream : Stream) (text : String) :
    Reports ((Pattern.ofText text).mapError (.invalidPattern c name stream))
      (patternDefects c name stream text) := by
  unfold patternDefects
  cases Pattern.ofText text <;> rfl

namespace Process

theorem timeout?_eq_none_iff {x : Binary64} :
    timeout? x = none ↔ x.isPositive = false ∨ Duration.ofSeconds? x = none := by
  unfold timeout?
  split <;> simp_all

/-- A process table is checked as it is read: command, timeout, delay and the two patterns. -/
theorem validate_reports (p : Process) (c name : String) :
    Reports (p.validate c name) (p.defects c name) := by
  have hpatterns (spec : Pattern → Pattern → ProcessSpec) :
      Reports (do
        let stdout ← (Pattern.ofText p.stdout).mapError (.invalidPattern c name .stdout)
        let stderr ← (Pattern.ofText p.stderr).mapError (.invalidPattern c name .stderr)
        return spec stdout stderr)
        (patternDefects c name .stdout p.stdout ++ patternDefects c name .stderr p.stderr) := by
    refine Reports.bind (pattern_reports c name .stdout p.stdout) fun stdout _ => ?_
    exact (pattern_reports c name .stderr p.stderr).map _
  simp only [defects, List.append_assoc]
  unfold validate
  cases hcommand : CommandLine.ofList? p.command.toList with
  | none =>
    rw [defectIf, if_pos (CommandLine.ofList?_eq_none_iff.mp hcommand)]
    exact Reports.stop _ _
  | some command =>
    have hsome : CommandLine.ofList? p.command.toList ≠ none := by simp [hcommand]
    rw [defectIf, if_neg (mt CommandLine.ofList?_eq_none_iff.mpr hsome), List.nil_append]
    cases htimeout : timeout? p.timeout with
    | none =>
      rw [defectIf, if_pos (timeout?_eq_none_iff.mp htimeout)]
      exact Reports.stop _ _
    | some timeout =>
      have hsome : timeout? p.timeout ≠ none := by simp [htimeout]
      rw [defectIf, if_neg (mt timeout?_eq_none_iff.mpr hsome), List.nil_append]
      cases p.injection with
      | none => exact hpatterns _
      | some i =>
        dsimp only [Option.toList_some]
        rw [List.flatMap_singleton]
        cases hdelay : Duration.ofSeconds? i.delay with
        | none => exact Reports.stop _ _
        | some delay => exact hpatterns _

end Process

namespace Case

/-- Launches are checked in their order. A name that has no table left had none at all, or it was
launched before. -/
theorem launches_reports (d : Case) {order before launched : List String}
    {declared : List (String × Process)} (hlaunched : ∀ name, name ∈ launched ↔ name ∈ before)
    (hbefore : ∀ name ∈ before, ∃ p, d.processes.lookup name = some p)
    (hdeclared : ∀ name, declared.lookup name =
      if name ∈ before then none else d.processes.lookup name) :
    Reports (launches d.name order launched declared) (scan d.launchDefects before order) := by
  induction order generalizing before launched declared with
  | nil => exact Reports.pass _
  | cons name order ih =>
    rw [launches, scan, hdeclared, launchDefects]
    by_cases hname : name ∈ before
    · obtain ⟨p, hp⟩ := hbefore name hname
      have hcontains : launched.contains name = true := by simpa using (hlaunched name).mpr hname
      rw [if_pos hname, hp]
      dsimp only
      rw [if_pos hname, if_pos hcontains]
      exact Reports.stop _ _
    · have hcontains : ¬ launched.contains name = true := by
        simpa using mt (hlaunched name).mp hname
      rw [if_neg hname]
      cases hp : d.processes.lookup name with
      | none =>
        dsimp only
        rw [if_neg hcontains]
        exact Reports.stop _ _
      | some p =>
        dsimp only
        rw [if_neg hname]
        refine Reports.bind (p.validate_reports d.name name) fun spec _ => ?_
        have hrest : Reports (launches d.name order (name :: launched)
            (declared.filter (·.1 ≠ name))) (scan d.launchDefects (before ++ [name]) order) := by
          apply ih
          · intro other
            simp [hlaunched, or_comm]
          · intro other hother
            obtain hother | rfl : other ∈ before ∨ other = name := by simpa using hother
            · exact hbefore other hother
            · exact ⟨p, hp⟩
          · intro other
            rw [lookup_filter_ne, hdeclared]
            by_cases h : other = name <;> simp [h]
        exact hrest.map _

/-- When the tables are in order, so are the names of those that are left. -/
theorem missing_eq {d : Case} (hsorted : InOrder d.processes) :
    d.missing = (d.processes.filter (·.1 ∉ d.order)).map (·.1) := by
  have hnames : (d.processes.map (·.1)).filter (· ∉ d.order) =
      (d.processes.filter (·.1 ∉ d.order)).map (·.1) := by
    rw [List.filter_map]
    rfl
  rw [missing, hnames]
  apply List.mergeSort_of_pairwise
  rw [List.pairwise_map]
  exact (List.Pairwise.filter _ hsorted).imp fun h => decide_eq_true h

theorem validate_reports {d : Case} (hsorted : InOrder d.processes) :
    Reports d.validate d.defects := by
  simp only [defects, List.append_assoc]
  refine Reports.guard List.isEmpty_iff rfl fun _ => ?_
  have hlaunches : Reports (launches d.name d.order [] d.processes)
      (scan d.launchDefects [] d.order) :=
    d.launches_reports (by simp) (by simp) (by simp)
  refine Reports.bind hlaunches ?_
  rintro ⟨specs, rest⟩ hrest
  -- what is left once all launches passed are the tables that the order does not name
  obtain ⟨-, rfl, -⟩ := launches_eq_ok_iff.mp hrest
  rw [missing_eq hsorted]
  cases d.processes.filter (·.1 ∉ d.order) with
  | nil => exact Reports.pass _
  | cons entry rest => exact Reports.stop _ _

end Case

/-- Cases are checked in their order, and the name of each one before what is in it. -/
theorem validateCases_reports {drafts before : List Case} {seen : List String}
    (hseen : ∀ name, name ∈ seen ↔ name ∈ before.map (·.name))
    (hsorted : ∀ d ∈ drafts, InOrder d.processes) :
    Reports (validateCases seen drafts) (scan Case.defectsAfter before drafts) := by
  induction drafts generalizing before seen with
  | nil => exact Reports.pass _
  | cons draft drafts ih =>
    obtain ⟨hdraft, hdrafts⟩ := List.forall_mem_cons.mp hsorted
    rw [scan, Case.defectsAfter, List.append_assoc]
    refine Reports.guard (by rw [List.contains_iff_mem, hseen]) rfl fun _ => ?_
    refine Reports.bind (Case.validate_reports hdraft) fun c _ => ?_
    have hrest : Reports (validateCases (draft.name :: seen) drafts)
        (scan Case.defectsAfter (before ++ [draft]) drafts) := by
      apply ih _ hdrafts
      intro name
      rw [List.mem_cons, hseen, List.map_append, List.mem_append, or_comm, List.map_singleton,
        List.mem_singleton]
    exact hrest.map _

/-- Every item of a list of results is the result of an item. -/
theorem exists_of_mem_mapM {α β : Type} {f : α → Option β} {as : List α} {bs : List β}
    (h : as.mapM f = some bs) : ∀ b ∈ bs, ∃ a, f a = some b := by
  induction as generalizing bs with
  | nil =>
    obtain rfl : [] = bs := by simpa using h
    simp
  | cons a as ih =>
    simp only [List.mapM_cons, Option.bind_eq_bind, Option.bind_eq_some_iff] at h
    obtain ⟨b, hb, rest, hrest, h⟩ := h
    obtain rfl := Option.some.inj h
    exact List.forall_mem_cons.mpr ⟨⟨a, hb⟩, ih hrest⟩

theorem mem_insertSorted {α : Type} {entry e : String × α} {entries : List (String × α)} :
    e ∈ insertSorted entry entries ↔ e = entry ∨ e ∈ entries := by
  induction entries with
  | nil => simp [insertSorted]
  | cons first entries ih =>
    unfold insertSorted
    split
    · rw [List.mem_cons]
    · rw [List.mem_cons, ih, List.mem_cons, or_left_comm]

theorem InOrder.insertSorted {α : Type} {entries : List (String × α)} (h : InOrder entries)
    (entry : String × α) : InOrder (insertSorted entry entries) := by
  simp only [InOrder, Text.toUTF8_le_iff] at h ⊢
  induction entries with
  | nil => simp [Draft.insertSorted]
  | cons first entries ih =>
    obtain ⟨hfirst, hentries⟩ := List.pairwise_cons.mp h
    unfold Draft.insertSorted
    split
    · rename_i hlt
      refine List.pairwise_cons.mpr ⟨fun e he => ?_, h⟩
      obtain rfl | he := List.mem_cons.mp he
      · exact hlt.le
      · exact hlt.le.trans (hfirst e he)
    · rename_i hge
      refine List.pairwise_cons.mpr ⟨fun e he => ?_, ih hentries⟩
      obtain rfl | he := mem_insertSorted.mp he
      · exact not_lt.mp hge
      · exact hfirst e he

theorem inOrder_sorted {α : Type} (entries : List (String × α)) : InOrder (sorted entries) := by
  induction entries with
  | nil => exact List.Pairwise.nil
  | cons entry entries ih => exact ih.insertSorted entry

/-- What an optional field holds is its default, or it was read. -/
theorem Fields.of_optional {α : Type} {f : Fields} {name : String} {default a : α}
    {read : Toml.Value → Option α} (h : f.optional name default read = some a) :
    a = default ∨ ∃ v, read v = some a := by
  unfold Fields.optional at h
  split at h
  · exact .inl (Option.some.inj h).symm
  · exact .inr ⟨_, h⟩

theorem inOrder_of_processes? {v : Toml.Value} {processes : List (String × Process)}
    (h : processes? v = some processes) : InOrder processes := by
  unfold processes? at h
  split at h
  · simp only [Option.bind_eq_bind, Option.bind_eq_some_iff] at h
    obtain ⟨entries, -, h⟩ := h
    obtain rfl := Option.some.inj h
    exact inOrder_sorted entries
  · cases h

theorem inOrder_of_case? {v : Toml.Value} {d : Case} (h : case? v = some d) :
    InOrder d.processes := by
  simp only [case?, Option.bind_eq_bind, Option.bind_eq_some_iff] at h
  obtain ⟨f, -, name, -, order, -, allowTimeout, -, processes, hprocesses, h⟩ := h
  obtain rfl := Option.some.inj h
  obtain rfl | ⟨v, hv⟩ := Fields.of_optional hprocesses
  · exact List.Pairwise.nil
  · exact inOrder_of_processes? hv

namespace Catalog

/-- Whatever is read from text has its tables in order. -/
theorem ordered_of_ofText? {text : String} {d : Catalog} (h : ofText? text = some d) :
    d.Ordered := by
  simp only [ofText?, catalog?, Option.bind_eq_bind, Option.bind_eq_some_iff] at h
  obtain ⟨entries, -, f, -, cases, hcases, h⟩ := h
  obtain rfl := Option.some.inj h
  intro c hc
  obtain rfl | ⟨v, hv⟩ := Fields.of_optional hcases
  · cases hc
  · obtain ⟨items, -, hitems⟩ := Option.bind_eq_some_iff.mp hv
    obtain ⟨item, hitem⟩ := exists_of_mem_mapM hitems c hc
    exact inOrder_of_case? hitem

theorem validate_reports {d : Catalog} (hsorted : d.Ordered) : Reports d.validate d.defects := by
  refine Reports.guard List.isEmpty_iff rfl fun _ => ?_
  have hcases : Reports (validateCases [] d.cases) (scan Case.defectsAfter [] d.cases) :=
    validateCases_reports (by simp) hsorted
  exact hcases.map Proctor.Catalog.mk

end Catalog
end Draft

/-- A text that can be read is rejected with the first defect of its draft. -/
theorem Catalog.ofText_eq_defect_iff (text : String) (e : Defect) :
    ofText text = .error (.defect e) ↔
      ∃ d, Draft.Catalog.ofText? text = some d ∧ ∃ later, d.defects = e :: later := by
  unfold ofText
  cases htext : Draft.Catalog.ofText? text with
  | none => simp
  | some d =>
    have hreports := Draft.Catalog.validate_reports (Draft.Catalog.ordered_of_ofText? htext)
    have hdefect : d.validate.mapError CatalogFault.defect = .error (.defect e) ↔
        d.validate = .error e := by
      cases d.validate <;> simp [Except.mapError]
    simp only [hdefect, hreports.eq_error_iff, Option.some.injEq, exists_eq_left']

end Proctor
