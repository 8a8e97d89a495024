import Proctor.Catalog.Validation
import Proctor.Proofs.Text.Words
import Mathlib.Data.List.Forall2

/-!
# Which drafts are accepted

A draft becomes a catalog exactly when it is well formed, and what well formed means is said here
without the order in which the checks are made: that the launch order of a case names every table
of the case once is a fact about two sets of names, while the check takes one table after the other
away and looks at what is left. The catalog that a draft becomes says of every process what the
table of that name says.
-/
namespace Proctor

/-- Less than zero. Neither zero is, nor is the not-a-number. -/
def Binary64.isNegative : Binary64 → Bool
  | .finite negative m _ => negative && m != 0
  | .infinite negative => negative
  | .nan => false

/-- Only numbers that are not negative are durations. -/
theorem Duration.not_isNegative {x : Binary64} {d : Duration} (h : ofSeconds? x = some d) :
    x.isNegative = false := by
  cases x with
  | finite negative m e =>
    by_cases hm : m = 0
    · simp [Binary64.isNegative, hm]
    · cases negative with
      | false => rfl
      | true => simp [ofSeconds?, hm] at h
  | infinite negative => cases h
  | nan => rfl

namespace CommandLine

@[simp] theorem ofList?_toList (c : CommandLine) : ofList? c.toList = some c := by
  simp [toList, ofList?, c.named]

theorem toList_of_ofList? {words : List String} {c : CommandLine} (h : ofList? words = some c) :
    c.toList = words := by
  cases words with
  | nil => cases h
  | cons program args =>
    simp only [ofList?] at h
    split at h
    · obtain rfl := Option.some.inj h
      rfl
    · cases h

end CommandLine

namespace Draft

section Results
variable {ε ε' α β : Type} {x : Except ε α} {b : β}

/-- Two steps succeed when the first one does, and the second one with what came of it. -/
theorem bind_eq_ok {f : α → Except ε β} : (x >>= f) = .ok b ↔ ∃ a, x = .ok a ∧ f a = .ok b := by
  cases x <;> simp [bind, Except.bind]

theorem toOption_eq_some_iff {a : α} : x.toOption = some a ↔ x = .ok a := by
  cases x <;> simp [Except.toOption]

theorem mapError_eq_ok {f : ε → ε'} {a : α} : x.mapError f = .ok a ↔ x = .ok a := by
  cases x <;> simp [Except.mapError]

end Results

/-- Some list matches another one item by item exactly when every item has a match. -/
theorem exists_forall₂_iff {α β : Type} {R : α → β → Prop} {as : List α} :
    (∃ bs, List.Forall₂ R as bs) ↔ ∀ a ∈ as, ∃ b, R a b := by
  induction as with
  | nil => simp
  | cons a as ih =>
    rw [List.forall_mem_cons, ← ih]
    constructor
    · rintro ⟨_, h⟩
      obtain ⟨b, bs, hb, hbs, -⟩ := List.forall₂_cons_left_iff.mp h
      exact ⟨⟨b, hb⟩, bs, hbs⟩
    · rintro ⟨⟨b, hb⟩, bs, hbs⟩
      exact ⟨b :: bs, .cons hb hbs⟩

/-- What a command says, word by word: an array gives its words, and a line holds them, parted by
blanks. -/
def Command.Says : Command → List String → Prop
  | .words argv, list => argv = list
  | .line text, list => (∀ word ∈ list, Text.IsWord word) ∧ Text.Holds list text

theorem Command.toList_eq_iff {command : Command} {list : List String} :
    command.toList = list ↔ command.Says list := by
  cases command with
  | line text => exact Text.words_eq_iff
  | words argv => exact Iff.rfl

namespace Process

/-- A table with a command that names a program, a timeout above zero, a delay that is not below
zero, and two patterns. -/
structure WellFormed (p : Process) : Prop where
  command : ∃ program args, p.command.Says (program :: args) ∧ program ≠ ""
  timeout : p.timeout.isPositive = true ∧ ∃ d, Duration.ofSeconds? p.timeout = some d
  delay : ∀ i, p.injection = some i →
    i.delay.isNegative = false ∧ ∃ d, Duration.ofSeconds? i.delay = some d
  stdout : ∃ pattern, Pattern.ofText p.stdout = .ok pattern
  stderr : ∃ pattern, Pattern.ofText p.stderr = .ok pattern

/-- A process says of itself what a table says, and has the name of the table. -/
structure Becomes (p : Process) (name : String) (spec : ProcessSpec) : Prop where
  name : spec.name = name
  command : p.command.Says spec.command.toList
  environment : spec.environment = p.environment
  stdout : Pattern.ofText p.stdout = .ok spec.stdout
  stderr : Pattern.ofText p.stderr = .ok spec.stderr
  exitCode : spec.exitCode = p.exitCode
  timeout : Duration.ofSeconds? p.timeout = some spec.timeout
  injection : p.injection.map (fun i => (i.kind, Duration.ofSeconds? i.delay)) =
    spec.injection.map fun i => (i.kind, some i.delay)

variable {p : Process} {c name : String} {spec : ProcessSpec}

/-- The signal of a process is the one of its table, and its delay is what the table gives. -/
theorem Becomes.delay (h : p.Becomes name spec) {i : Proctor.Injection}
    (hi : spec.injection = some i) :
    ∃ j, p.injection = some j ∧ Duration.ofSeconds? j.delay = some i.delay := by
  have hinjection := h.injection
  rw [hi] at hinjection
  obtain ⟨j, hj, hpair⟩ := Option.map_eq_some_iff.mp hinjection
  exact ⟨j, hj, (Prod.mk.inj hpair).2⟩

theorem timeout?_eq_some_iff {x : Binary64} {d : Duration} :
    timeout? x = some d ↔ x.isPositive = true ∧ Duration.ofSeconds? x = some d := by
  simp [timeout?]

/-- A table whose checks pass is well formed, and becomes the process that it describes. -/
theorem of_validate (h : p.validate c name = .ok spec) : p.WellFormed ∧ p.Becomes name spec := by
  unfold validate at h
  split at h
  · rename_i command hcommand
    split at h
    · rename_i timeout htimeout
      rw [timeout?_eq_some_iff] at htimeout
      -- what is left to do once the signal has passed its check is the same in all cases
      have hrest (injection : Option Proctor.Injection)
          (hinjection : p.injection.map (fun i => (i.kind, Duration.ofSeconds? i.delay)) =
            injection.map fun i => (i.kind, some i.delay))
          (h : ((do
            let stdout ← (Pattern.ofText p.stdout).mapError (.invalidPattern c name .stdout)
            let stderr ← (Pattern.ofText p.stderr).mapError (.invalidPattern c name .stderr)
            return ⟨name, command, p.environment, stdout, stderr, p.exitCode, timeout,
              injection⟩) : Except Defect ProcessSpec) = .ok spec) :
          p.WellFormed ∧ p.Becomes name spec := by
        simp only [bind_eq_ok, mapError_eq_ok] at h
        obtain ⟨stdout, hstdout, stderr, hstderr, h⟩ := h
        cases h
        have hdelay : ∀ i, p.injection = some i →
            i.delay.isNegative = false ∧ ∃ d, Duration.ofSeconds? i.delay = some d := by
          intro i hi
          cases injection with
          | none => simp [hi] at hinjection
          | some j =>
            obtain ⟨-, hdelay⟩ : i.kind = j.kind ∧ Duration.ofSeconds? i.delay = some j.delay := by
              simpa [hi] using hinjection
            exact ⟨Duration.not_isNegative hdelay, j.delay, hdelay⟩
        have hwords := CommandLine.toList_of_ofList? hcommand
        have hsays : p.command.Says command.toList := Command.toList_eq_iff.mp hwords.symm
        refine ⟨⟨⟨_, _, hsays, command.named⟩, ⟨htimeout.1, _, htimeout.2⟩, hdelay,
          ⟨_, hstdout⟩, ⟨_, hstderr⟩⟩, ?_⟩
        exact ⟨rfl, hsays, rfl, hstdout, hstderr, rfl, htimeout.2, hinjection⟩
      dsimp only at h
      split at h
      · rename_i hnone
        exact hrest none (by simp [hnone]) h
      · rename_i i hi
        split at h
        · rename_i delay hdelay
          exact hrest (some ⟨i.kind, delay⟩) (by simp [hi, hdelay]) h
        · cases h
    · cases h
  · cases h

/-- A table that is well formed passes all checks. -/
theorem WellFormed.exists_validate (h : p.WellFormed) (c name : String) :
    ∃ spec, p.validate c name = .ok spec := by
  obtain ⟨⟨program, args, hsays, hnamed⟩, ⟨hpositive, timeout, htimeout⟩, hdelay,
    ⟨stdout, hstdout⟩, ⟨stderr, hstderr⟩⟩ := h
  have hcommand : CommandLine.ofList? p.command.toList = some ⟨program, args, hnamed⟩ := by
    rw [Command.toList_eq_iff.mpr hsays]
    exact CommandLine.ofList?_toList ⟨program, args, hnamed⟩
  have htimeout := timeout?_eq_some_iff.mpr ⟨hpositive, htimeout⟩
  cases hi : p.injection with
  | none =>
    simp only [validate, hcommand, htimeout, hi, hstdout, hstderr]
    exact ⟨_, rfl⟩
  | some i =>
    obtain ⟨-, delay, hdelay⟩ := hdelay i hi
    simp only [validate, hcommand, htimeout, hi, hdelay, hstdout, hstderr]
    exact ⟨_, rfl⟩

end Process

/-- Taking a table away leaves the tables of all other names. -/
theorem lookup_filter_ne {α : Type} (declared : List (String × α)) (taken name : String) :
    (declared.filter (·.1 ≠ taken)).lookup name =
      if name = taken then none else declared.lookup name := by
  induction declared with
  | nil => simp
  | cons entry declared ih =>
    by_cases hkey : entry.1 = taken
    · rw [List.filter_cons_of_neg (by simpa using hkey), ih, List.lookup_cons]
      split
      · rfl
      · rename_i hname
        rw [beq_false_of_ne (hkey ▸ hname)]
    · rw [List.filter_cons_of_pos (by simpa using hkey), List.lookup_cons, ih, List.lookup_cons]
      by_cases hname : name = taken
      · rw [beq_false_of_ne (by rw [hname]; exact Ne.symm hkey), if_pos hname]
      · simp only [if_neg hname]

/-- Whether a name has a table among some declared ones. -/
theorem exists_lookup_iff {α : Type} {declared : List (String × α)} {name : String} :
    (∃ a, declared.lookup name = some a) ↔ name ∈ declared.map (·.1) := by
  rw [← Option.isSome_iff_exists, List.lookup_isSome_iff]
  simp

/-- Among some declared tables the one of a name passes its checks, and becomes a process. -/
def Describes (c : String) (declared : List (String × Process)) (name : String)
    (spec : ProcessSpec) : Prop :=
  ∃ p, declared.lookup name = some p ∧ p.validate c name = .ok spec

/-- Once a table was taken away all other names have the tables that they had before. -/
theorem describes_filter_ne_iff {c taken name : String} {declared : List (String × Process)}
    {spec : ProcessSpec} :
    Describes c (declared.filter (·.1 ≠ taken)) name spec ↔
      name ≠ taken ∧ Describes c declared name spec := by
  rw [Describes, Describes, lookup_filter_ne]
  by_cases hname : name = taken <;> simp [hname]

/-- A launch order passes its checks exactly when it names no process twice and the table of every
name passes its own checks. What is left are the tables that it does not name. -/
theorem launches_eq_ok_iff {c : String} {order launched : List String}
    {declared rest : List (String × Process)} {specs : List ProcessSpec} :
    launches c order launched declared = .ok (specs, rest) ↔
      order.Nodup ∧ rest = declared.filter (·.1 ∉ order) ∧
        List.Forall₂ (Describes c declared) order specs := by
  induction order generalizing launched declared specs with
  | nil => simp [launches, eq_comm, and_comm]
  | cons name order ih =>
    rw [launches, List.forall₂_cons_left_iff]
    cases hname : declared.lookup name with
    | none =>
      refine iff_of_false nofun ?_
      rintro ⟨-, -, _, _, ⟨p, hp, -⟩, -⟩
      rw [hname] at hp
      cases hp
    | some p =>
      have hfilter : (declared.filter (·.1 ≠ name)).filter (·.1 ∉ order) =
          declared.filter (·.1 ∉ name :: order) := by
        rw [List.filter_filter]
        refine List.filter_congr fun entry _ => ?_
        simp [Bool.and_comm]
      have hothers (specs : List ProcessSpec) :
          List.Forall₂ (Describes c (declared.filter (·.1 ≠ name))) order specs ↔
            name ∉ order ∧ List.Forall₂ (Describes c declared) order specs := by
        have heq : Describes c (declared.filter (·.1 ≠ name)) =
            fun other spec => other ≠ name ∧ Describes c declared other spec := by
          funext other spec
          exact propext describes_filter_ne_iff
        rw [heq, List.forall₂_and_left, List.forall_mem_ne']
      simp only [bind_eq_ok]
      constructor
      · rintro ⟨spec, hspec, ⟨specs', rest'⟩, hrest, hpair⟩
        cases hpair
        obtain ⟨hnodup, rfl, hspecs⟩ := ih.mp hrest
        obtain ⟨hnew, hspecs⟩ := (hothers specs').mp hspecs
        exact ⟨List.nodup_cons.mpr ⟨hnew, hnodup⟩, hfilter, spec, specs', ⟨p, hname, hspec⟩, hspecs,
          rfl⟩
      · rintro ⟨hnodup, rfl, spec, specs', ⟨p', hp', hspec⟩, hspecs, rfl⟩
        obtain ⟨hnew, hnodup⟩ := List.nodup_cons.mp hnodup
        obtain rfl := Option.some.inj (hname.symm.trans hp')
        exact ⟨spec, hspec, (specs', _),
          ih.mpr ⟨hnodup, hfilter.symm, (hothers specs').mpr ⟨hnew, hspecs⟩⟩, rfl⟩

namespace Case

/-- A case whose launch order names each of its tables once, and has at least one, and whose tables
are all well formed. -/
structure WellFormed (d : Case) : Prop where
  nonempty : d.order ≠ []
  once : d.order.Nodup
  declared : ∀ name, name ∈ d.order ↔ name ∈ d.processes.map (·.1)
  processes : ∀ name p, d.processes.lookup name = some p → p.WellFormed

/-- A case that launches processes in the order that a draft gives, each of which says what the
table of that name says. -/
structure Becomes (d : Case) (c : TestCase) : Prop where
  name : c.name = d.name
  allowTimeout : c.allowTimeout = d.allowTimeout
  processes : List.Forall₂ (fun name spec => ∃ p, d.processes.lookup name = some p ∧
    p.Becomes name spec) d.order c.processes

variable {d : Case} {c : TestCase}

/-- The checks of a case pass exactly when its launch order is not empty, passes its checks and
names all tables. -/
theorem validate_eq_ok_iff : d.validate = .ok c ↔
    (d.order ≠ [] ∧ d.order.Nodup ∧ ∀ entry ∈ d.processes, entry.1 ∈ d.order) ∧
      c.name = d.name ∧ c.allowTimeout = d.allowTimeout ∧
        List.Forall₂ (Describes d.name d.processes) d.order c.processes := by
  by_cases hempty : d.order = []
  · refine iff_of_false (fun h => ?_) fun h => h.1.1 hempty
    simp only [validate, hempty, List.isEmpty_nil, if_true] at h
    cases h
  rw [validate, if_neg (by simpa using hempty)]
  simp only [bind_eq_ok]
  constructor
  · rintro ⟨⟨specs, rest⟩, hlaunches, h⟩
    obtain ⟨hnodup, rfl, hspecs⟩ := launches_eq_ok_iff.mp hlaunches
    split at h
    · rename_i hrest
      cases h
      refine ⟨⟨hempty, hnodup, fun entry hentry => ?_⟩, rfl, rfl, hspecs⟩
      have hnamed := List.filter_eq_nil_iff.mp hrest entry hentry
      simpa using hnamed
    · cases h
  · rintro ⟨⟨-, hnodup, hall⟩, hname, hallow, hspecs⟩
    have hrest : d.processes.filter (·.1 ∉ d.order) = [] := by
      rw [List.filter_eq_nil_iff]
      intro entry hentry
      simpa using hall entry hentry
    refine ⟨_, launches_eq_ok_iff.mpr ⟨hnodup, rfl, hspecs⟩, ?_⟩
    rw [hrest, ← hname, ← hallow]
    rfl

/-- A case whose checks pass is well formed, and becomes the case that it describes. -/
theorem of_validate (h : d.validate = .ok c) : d.WellFormed ∧ d.Becomes c := by
  obtain ⟨⟨hempty, hnodup, hall⟩, hname, hallow, hspecs⟩ := validate_eq_ok_iff.mp h
  refine ⟨⟨hempty, hnodup, fun name => ?_, fun name p hp => ?_⟩, hname, hallow,
    hspecs.imp fun name spec ⟨p, hp, hspec⟩ => ⟨p, hp, (Process.of_validate hspec).2⟩⟩
  · constructor
    · intro hmem
      obtain ⟨_, p, hp, -⟩ := exists_forall₂_iff.mp ⟨_, hspecs⟩ name hmem
      exact exists_lookup_iff.mp ⟨p, hp⟩
    · intro hmem
      obtain ⟨entry, hentry, rfl⟩ := List.mem_map.mp hmem
      exact hall entry hentry
  · obtain ⟨entry, hentry, rfl⟩ := List.mem_map.mp (exists_lookup_iff.mp ⟨p, hp⟩)
    obtain ⟨_, p', hp', hspec⟩ := exists_forall₂_iff.mp ⟨_, hspecs⟩ entry.1 (hall entry hentry)
    obtain rfl := Option.some.inj (hp.symm.trans hp')
    exact (Process.of_validate hspec).1

/-- A case that is well formed passes all checks. -/
theorem WellFormed.exists_validate (h : d.WellFormed) : ∃ c, d.validate = .ok c := by
  have hspecs : ∀ name ∈ d.order, ∃ spec, Describes d.name d.processes name spec := by
    intro name hname
    obtain ⟨p, hp⟩ := exists_lookup_iff.mpr ((h.declared name).mp hname)
    obtain ⟨spec, hspec⟩ := (h.processes name p hp).exists_validate d.name name
    exact ⟨spec, p, hp, hspec⟩
  obtain ⟨specs, hspecs⟩ := exists_forall₂_iff.mpr hspecs
  refine ⟨⟨d.name, d.allowTimeout, specs⟩, validate_eq_ok_iff.mpr
    ⟨⟨h.nonempty, h.once, fun entry hentry => ?_⟩, rfl, rfl, hspecs⟩⟩
  exact (h.declared entry.1).mpr (List.mem_map_of_mem hentry)

/-- The processes of a case have the names of its launch order. -/
theorem Becomes.names_eq (h : d.Becomes c) : c.processes.map (·.name) = d.order := by
  rw [← List.forall₂_eq_eq_eq, List.forall₂_map_left_iff]
  refine List.Forall₂.flip (h.processes.imp ?_)
  rintro name spec ⟨p, -, hp⟩
  exact hp.name

/-- Every process of a case has a table. -/
theorem Becomes.exists_table (h : d.Becomes c) {spec : ProcessSpec} (hspec : spec ∈ c.processes) :
    ∃ p, d.processes.lookup spec.name = some p ∧ p.Becomes spec.name spec := by
  obtain ⟨name, p, hp, hmeans⟩ := exists_forall₂_iff.mp ⟨_, h.processes.flip⟩ spec hspec
  obtain rfl := hmeans.name
  exact ⟨p, hp, hmeans⟩

/-- Every table of a case that is well formed becomes one of its processes. -/
theorem Becomes.exists_process (h : d.Becomes c) (hwell : d.WellFormed) {name : String}
    {p : Process} (hp : d.processes.lookup name = some p) :
    ∃ spec ∈ c.processes, p.Becomes name spec := by
  have hname : name ∈ d.order := (hwell.declared name).mpr (exists_lookup_iff.mp ⟨p, hp⟩)
  have hmem := (List.forall₂_and_left c.processes d.order).mpr ⟨fun _ h => h, h.processes.flip⟩
  obtain ⟨spec, hspec, p', hp', hmeans⟩ := exists_forall₂_iff.mp ⟨_, hmem.flip⟩ name hname
  obtain rfl := Option.some.inj (hp.symm.trans hp')
  exact ⟨spec, hspec, hmeans⟩

end Case

/-- The checks of some cases pass exactly when each case passes its own, has another name than the
ones before it, and none of the names seen before. -/
theorem validateCases_eq_ok_iff {seen : List String} {drafts : List Case} {cases : List TestCase} :
    validateCases seen drafts = .ok cases ↔
      (drafts.map (·.name)).Nodup ∧ (∀ d ∈ drafts, d.name ∉ seen) ∧
        List.Forall₂ (fun d c => Case.validate d = .ok c) drafts cases := by
  induction drafts generalizing seen cases with
  | nil => simp [validateCases, eq_comm]
  | cons draft drafts ih =>
    rw [validateCases, List.forall₂_cons_left_iff, List.forall_mem_cons, List.map_cons,
      List.nodup_cons]
    by_cases hseen : draft.name ∈ seen
    · refine iff_of_false (fun h => ?_) fun h => h.2.1.1 hseen
      rw [if_pos (by simpa using hseen)] at h
      cases h
    · have hothers : (∀ d ∈ drafts, d.name ∉ draft.name :: seen) ↔
          draft.name ∉ drafts.map (·.name) ∧ ∀ d ∈ drafts, d.name ∉ seen := by
        simp only [List.mem_cons, not_or, List.mem_map, not_exists, not_and]
        exact ⟨fun h => ⟨fun d hd => (h d hd).1, fun d hd => (h d hd).2⟩,
          fun h d hd => ⟨h.1 d hd, h.2 d hd⟩⟩
      rw [if_neg (by simpa using hseen)]
      simp only [bind_eq_ok, ih, hothers]
      constructor
      · rintro ⟨c, hc, cases', ⟨hnodup, ⟨hnew, hold⟩, hcases⟩, h⟩
        cases h
        exact ⟨⟨hnew, hnodup⟩, ⟨hseen, hold⟩, c, cases', hc, hcases, rfl⟩
      · rintro ⟨⟨hnew, hnodup⟩, ⟨-, hold⟩, c, cases', hc, hcases, rfl⟩
        exact ⟨c, hc, cases', ⟨hnodup, ⟨hnew, hold⟩, hcases⟩, rfl⟩

namespace Catalog

/-- A draft with at least one case, whose cases have different names and are all well formed. -/
structure WellFormed (d : Catalog) : Prop where
  nonempty : d.cases ≠ []
  distinct : (d.cases.map (·.name)).Nodup
  cases : ∀ c ∈ d.cases, c.WellFormed

/-- A catalog of the cases that a draft describes, in the order of the draft. -/
def Becomes (d : Catalog) (catalog : Proctor.Catalog) : Prop :=
  List.Forall₂ Case.Becomes d.cases catalog.cases

variable {d : Catalog} {catalog : Proctor.Catalog}

theorem validate_eq_ok_iff : d.validate = .ok catalog ↔
    d.cases ≠ [] ∧ (d.cases.map (·.name)).Nodup ∧
      List.Forall₂ (fun draft c => Case.validate draft = .ok c) d.cases catalog.cases := by
  by_cases hempty : d.cases = []
  · refine iff_of_false (fun h => ?_) fun h => h.1 hempty
    simp only [validate, hempty, List.isEmpty_nil, if_true] at h
    cases h
  rw [validate, if_neg (by simpa using hempty)]
  simp only [bind_eq_ok, validateCases_eq_ok_iff]
  constructor
  · rintro ⟨cases, ⟨hnodup, -, hcases⟩, h⟩
    cases h
    exact ⟨hempty, hnodup, hcases⟩
  · rintro ⟨-, hnodup, hcases⟩
    exact ⟨catalog.cases, ⟨hnodup, by simp, hcases⟩, rfl⟩

/-- A draft whose checks pass is well formed, and becomes the catalog that it describes. -/
theorem of_validate (h : d.validate = .ok catalog) : d.WellFormed ∧ d.Becomes catalog := by
  obtain ⟨hempty, hnodup, hcases⟩ := validate_eq_ok_iff.mp h
  refine ⟨⟨hempty, hnodup, fun draft hdraft => ?_⟩, hcases.imp fun _ _ h => (Case.of_validate h).2⟩
  obtain ⟨_, hvalid⟩ := exists_forall₂_iff.mp ⟨_, hcases⟩ draft hdraft
  exact (Case.of_validate hvalid).1

/-- Every case of a catalog that was loaded has processes, and they have different names. -/
theorem names_of_mem (h : d.validate = .ok catalog) {c : TestCase} (hc : c ∈ catalog.cases) :
    c.processes ≠ [] ∧ (c.processes.map (·.name)).Nodup := by
  obtain ⟨-, -, hcases⟩ := validate_eq_ok_iff.mp h
  obtain ⟨draft, hdraft⟩ := exists_forall₂_iff.mp ⟨_, hcases.flip⟩ c hc
  obtain ⟨hwell, hbecomes⟩ := Case.of_validate hdraft
  have hnames := hbecomes.names_eq
  refine ⟨?_, hnames ▸ hwell.once⟩
  rintro hnone
  rw [hnone] at hnames
  exact hwell.nonempty hnames.symm

/-- A draft that is well formed passes all checks. -/
theorem WellFormed.exists_validate (h : d.WellFormed) : ∃ catalog, d.validate = .ok catalog := by
  obtain ⟨cases, hcases⟩ := exists_forall₂_iff.mpr fun draft hdraft =>
    (h.cases draft hdraft).exists_validate
  exact ⟨⟨cases⟩, validate_eq_ok_iff.mpr ⟨h.nonempty, h.distinct, hcases⟩⟩

/-- A draft becomes a catalog exactly when it is well formed. The catalog has the cases of the draft
in their order, and each launches its processes in the order that the draft gives, with what the
table of each name says. -/
theorem validate_accepts_wellFormed (d : Catalog) :
    match d.validate with
    | .ok catalog => d.WellFormed ∧ d.Becomes catalog
    | .error _ => ¬ d.WellFormed := by
  cases hvalid : d.validate with
  | ok catalog => exact of_validate hvalid
  | error defect =>
    intro hwell
    obtain ⟨catalog, hcatalog⟩ := hwell.exists_validate
    rw [hvalid] at hcatalog
    cases hcatalog

/-- A case that launches its processes in another order than that of their tables. One of them is
written as an array and is sent a signal, and the other one is written as a line. -/
def pairCase : Case where
  name := "pair"
  order := ["server", "client"]
  allowTimeout := true
  processes := [
    ("client", ⟨.line "\techo  hello ", [], "hel+o", "^$", 0, .finite false 1 (-1), none⟩),
    ("server", ⟨.words ["sh", "-c", "exit 2"], [("LANG", "C")], "", "", 2, .ofInt 5,
      some ⟨.reload, .zero false⟩⟩)]

/-- A draft of that case. -/
def pairDraft : Catalog := ⟨[pairCase]⟩

theorem validate_accepts_wellFormed_pair : ∃ catalog c,
    pairDraft.validate = .ok catalog ∧ pairDraft.WellFormed ∧ pairDraft.Becomes catalog ∧
    catalog.cases = [c] ∧ c.name = "pair" ∧ c.allowTimeout = true ∧
    c.processes.map (fun spec => (spec.name, spec.command.toList, spec.timeout)) =
      [("server", ["sh", "-c", "exit 2"], .ofMilliseconds 5000),
        ("client", ["echo", "hello"], .ofMilliseconds 500)] := by
  have hvalid : pairDraft.validate.toOption.map (fun catalog => catalog.cases.map fun c =>
      c.processes.map fun spec => (spec.name, spec.command.toList, spec.timeout)) =
      some [[("server", ["sh", "-c", "exit 2"], .ofMilliseconds 5000),
        ("client", ["echo", "hello"], .ofMilliseconds 500)]] := by
    decide +kernel
  obtain ⟨catalog, hsome, hcases⟩ := Option.map_eq_some_iff.mp hvalid
  have hcatalog : pairDraft.validate = .ok catalog := toOption_eq_some_iff.mp hsome
  obtain ⟨c, hsingle, hspecs⟩ := List.map_eq_singleton_iff.mp hcases
  have haccepts := validate_accepts_wellFormed pairDraft
  rw [hcatalog] at haccepts
  obtain ⟨hwell, hbecomes⟩ := haccepts
  have hcases' : List.Forall₂ Case.Becomes [pairCase] [c] := by
    rw [← hsingle]
    exact hbecomes
  have hcase : pairCase.Becomes c := (List.forall₂_cons.mp hcases').1
  exact ⟨catalog, c, hcatalog, hwell, hbecomes, hsingle, hcase.name, hcase.allowTimeout, hspecs⟩

end Catalog

end Draft
end Proctor
