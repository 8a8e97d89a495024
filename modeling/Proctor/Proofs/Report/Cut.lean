import Proctor.Proofs.Report.Attempts
import Mathlib.Order.Bounds.Defs

/-!
# Reports that are cut short

A writer with room for so many bytes keeps the first bytes of what is written into it, and the
first write that does not fit ends the report. What a report on such a writer comes to is read off
the pages of the same report on a writer that is not limited: the cases whose pages fit have their
statuses, and the cases whose announcements fit are run, which may be one more.
-/
namespace Proctor

namespace Text

theorem length_toUTF8 (s : String) : s.toUTF8.toList.length = s.utf8ByteSize := by
  rw [toList_eq]
  exact String.size_toByteArray

end Text

namespace Report
variable {τ : Type}

/-- The bytes of some pages together. -/
def span : List String → Nat
  | [] => 0
  | page :: pages => page.utf8ByteSize + span pages

@[simp] theorem span_nil : span [] = 0 := rfl

@[simp] theorem span_cons (page : String) (pages : List String) :
    span (page :: pages) = page.utf8ByteSize + span pages := rfl

theorem utf8ByteSize_join (pages : List String) : (String.join pages).utf8ByteSize = span pages := by
  induction pages with
  | nil => rfl
  | cons page pages ih => rw [String.join_cons, String.utf8ByteSize_append, ih, span_cons]

/-- The number of pages that fit into some room, one after the other. -/
def fitting : Nat → List String → Nat
  | _, [] => 0
  | n, page :: pages =>
    if page.utf8ByteSize ≤ n then fitting (n - page.utf8ByteSize) pages + 1 else 0

theorem fitting_le (n : Nat) (pages : List String) : fitting n pages ≤ pages.length := by
  induction pages generalizing n with
  | nil => exact Nat.le_refl 0
  | cons page pages ih =>
    have hrest := ih (n - page.utf8ByteSize)
    simp only [fitting, List.length_cons]
    split <;> omega

/-- The first pages fit together exactly when there are no more of them than fit. -/
theorem span_take_le_iff {n k : Nat} {pages : List String} (hk : k ≤ pages.length) :
    span (pages.take k) ≤ n ↔ k ≤ fitting n pages := by
  induction pages generalizing n k with
  | nil =>
    obtain rfl : k = 0 := by simpa using hk
    simp
  | cons page pages ih =>
    cases k with
    | zero => simp
    | succ k =>
      have hrest := ih (n := n - page.utf8ByteSize) (Nat.le_of_succ_le_succ hk)
      rw [List.take_succ_cons, span_cons, fitting]
      split <;> omega

theorem fitting_of_span_le {n : Nat} {pages : List String} (h : span pages ≤ n) :
    fitting n pages = pages.length := by
  have hall : pages.length ≤ fitting n pages :=
    (span_take_le_iff (Nat.le_refl _)).mp (by rwa [List.take_length])
  exact Nat.le_antisymm (fitting_le n pages) hall

theorem fitting_isGreatest (n : Nat) (pages : List String) :
    IsGreatest {k | k ≤ pages.length ∧ span (pages.take k) ≤ n} (fitting n pages) := by
  constructor
  · have hle := fitting_le n pages
    exact ⟨hle, (span_take_le_iff hle).mpr (Nat.le_refl _)⟩
  · intro k hk
    exact (span_take_le_iff hk.1).mp hk.2

/-- A report on a writer with room for `n` bytes after some more text, of which it keeps the bytes
that fit, and some more statuses. -/
def clip (r : Report) (n : Nat) (text : String) (statuses : List (String × Status)) : Report where
  writer := ⟨r.writer.kept ++ text.toUTF8.toList.take n, some (n - text.utf8ByteSize)⟩
  width := r.width
  statuses := r.statuses ++ statuses

@[simp] theorem clip_width (r : Report) (n : Nat) (text : String)
    (statuses : List (String × Status)) : (r.clip n text statuses).width = r.width := rfl

theorem clip_clip (r : Report) (n : Nat) (s t : String) (earlier later : List (String × Status)) :
    (r.clip n s earlier).clip (n - s.utf8ByteSize) t later = r.clip n (s ++ t) (earlier ++ later) := by
  have hroom : n - s.utf8ByteSize - t.utf8ByteSize = n - (s ++ t).utf8ByteSize := by
    rw [String.utf8ByteSize_append]
    omega
  simp only [clip, Text.toUTF8_append, List.take_append, Text.length_toUTF8, hroom,
    List.append_assoc]

/-- What is left over is not kept. -/
theorem clip_append_of_lt {r : Report} {n : Nat} {s : String} (h : n < s.utf8ByteSize) (t : String)
    (statuses : List (String × Status)) : r.clip n (s ++ t) statuses = r.clip n s statuses := by
  have hlength : n ≤ s.toUTF8.toList.length := by
    rw [Text.length_toUTF8]
    omega
  have hroom : n - (s ++ t).utf8ByteSize = n - s.utf8ByteSize := by
    rw [String.utf8ByteSize_append]
    omega
  simp only [clip, Text.toUTF8_append, List.take_append_of_le_length hlength, hroom]

theorem clip_nothing {r : Report} {n : Nat} (h : r.writer.room = some n) : r.clip n "" [] = r := by
  obtain ⟨⟨kept, room⟩, width, statuses⟩ := r
  obtain rfl : room = some n := h
  simp [clip, Text.toList_eq]

/-- A status that is recorded with a text. -/
theorem clip_record (r : Report) (n : Nat) (text : String) (status : String × Status) :
    { r.clip n text [] with statuses := (r.clip n text []).statuses ++ [status] } =
      r.clip n text [status] := by
  simp [clip]

section Writes
variable {r : Report} {n : Nat} (h : r.writer.room = some n)
include h

/-- A text that fits is written as a whole; of any other the first bytes are kept. -/
theorem write_clip (text : String) :
    r.write text = (if text.utf8ByteSize ≤ n then .ok () else .error .full, r.clip n text []) := by
  simp only [write, Writer.write, Writer.writeBytes, h, Text.length_toUTF8]
  by_cases hfits : text.utf8ByteSize ≤ n
  · simp only [if_pos hfits, clip, List.append_nil]
  · simp only [if_neg hfits, clip, List.append_nil]

/-- A text on a limited writer, and what is done next if it fits. -/
theorem put_clip {α : Type} (text : String) (f : Unit → Writing τ α) (t : τ) :
    ((put text >>= f).run.run r).run t =
      if text.utf8ByteSize ≤ n then ((f ()).run.run (r.clip n text [])).run t
      else ((.error .full, r.clip n text []), t) := by
  have hput : (put text : Writing τ Unit).run.run r = pure (r.write text) := rfl
  rw [ExceptT.run_bind, StateT.run_bind, hput, write_clip h, pure_bind]
  by_cases hfits : text.utf8ByteSize ≤ n
  · simp only [if_pos hfits]
  · simp only [if_neg hfits]
    rfl

/-- Two texts one after the other are cut as one. -/
theorem put_put {α : Type} (s s' : String) (f : Unit → Writing τ α) (t : τ) :
    ((put s >>= fun _ => put s' >>= f).run.run r).run t =
      ((put (s ++ s') >>= f).run.run r).run t := by
  have hsize : (s ++ s').utf8ByteSize = s.utf8ByteSize + s'.utf8ByteSize :=
    String.utf8ByteSize_append
  rw [put_clip h, put_clip h]
  by_cases hs : s.utf8ByteSize ≤ n
  · rw [if_pos hs, put_clip (r := r.clip n s []) rfl, clip_clip, List.append_nil]
    by_cases hs' : s'.utf8ByteSize ≤ n - s.utf8ByteSize
    · rw [if_pos hs', if_pos (by omega)]
    · rw [if_neg hs', if_neg (by omega)]
  · rw [if_neg hs, if_neg (by omega), clip_append_of_lt (by omega)]

end Writes

section Cases
variable (settings : Settings) (runner : TestCase → StateM τ CaseEnd) {c : TestCase} {r : Report}
  {n : Nat}

/-- A report of one case on a limited writer. The case is run if its announcement fits, and its
status is known if its whole page fits. -/
theorem runCase_clip (h : r.writer.room = some n) {attempt : Option CaseEnd} {t t₁ : τ}
    (hattempt : Attempts settings runner [c] t [attempt] t₁) :
    ((runCase settings runner c).run.run r).run t =
      ((if (page settings.verbose r.width c attempt).utf8ByteSize ≤ n
          then .ok (.ofAttempt attempt) else .error .full,
        r.clip n (page settings.verbose r.width c attempt) []),
        if (announcement settings.verbose r.width c).utf8ByteSize ≤ n then t₁ else t) := by
  cases hattempt with
  | skipped hc hrest =>
    cases hrest
    have hcase : (runCase settings runner c).run.run r =
        (put (announcement settings.verbose r.width c) >>= fun _ =>
          put Status.skipped.line >>= fun _ => (pure .skipped : Writing τ Status)).run.run r := by
      rw [runCase, if_pos (by simp [hc])]
      rfl
    have hpage : announcement settings.verbose r.width c ++ Status.skipped.line =
        page settings.verbose r.width c none := by
      simp [page, Status.ofAttempt]
    rw [hcase, put_put h, hpage, put_clip h, ite_self]
    by_cases hfits : (page settings.verbose r.width c none).utf8ByteSize ≤ n
    · rw [if_pos hfits, if_pos hfits]
      rfl
    · rw [if_neg hfits, if_neg hfits]
  | @ran _ _ ending _ _ _ _ hc hrun hrest =>
    cases hrest
    have hcase : (runCase settings runner c).run.run r =
        (put (announcement settings.verbose r.width c) >>= fun _ =>
          ExceptT.lift (StateT.lift (runner c)) >>= fun ending =>
          put (ending.details settings.verbose) >>= fun _ =>
          put ending.status.line >>= fun _ =>
            (pure ending.status : Writing τ Status)).run.run r := by
      rw [runCase, if_neg (by simp [hc])]
      rfl
    have hpage : announcement settings.verbose r.width c ++
        (ending.details settings.verbose ++ ending.status.line) =
          page settings.verbose r.width c (some ending) := by
      simp [page, Status.ofAttempt, String.append_assoc]
    have hsize := congrArg String.utf8ByteSize hpage
    rw [String.utf8ByteSize_append] at hsize
    rw [hcase, put_clip h]
    by_cases hann : (announcement settings.verbose r.width c).utf8ByteSize ≤ n
    · rw [if_pos hann, if_pos hann, lift_seq hrun, put_put (r := r.clip n _ []) rfl,
        put_clip (r := r.clip n _ []) rfl, clip_clip, hpage, List.append_nil]
      by_cases hfits : (page settings.verbose r.width c (some ending)).utf8ByteSize ≤ n
      · rw [if_pos (by omega), if_pos hfits]
        rfl
      · rw [if_neg (by omega), if_neg hfits]
    · rw [if_neg hann, if_neg hann, if_neg (by omega), ← hpage, clip_append_of_lt (by omega)]

/-- A page that does not fit ends the report. -/
theorem recordCases_stopped (h : r.writer.room = some n) {attempt : Option CaseEnd} {t t₁ : τ}
    (hattempt : Attempts settings runner [c] t [attempt] t₁)
    (hover : n < (page settings.verbose r.width c attempt).utf8ByteSize) (rest : List TestCase) :
    ((recordCases settings runner (c :: rest)).run.run r).run t =
      ((.error .full, r.clip n (page settings.verbose r.width c attempt) []),
        if (announcement settings.verbose r.width c).utf8ByteSize ≤ n then t₁ else t) := by
  have hcase := runCase_clip settings runner h hattempt
  rw [if_neg (by omega)] at hcase
  exact recordCases_error settings runner hcase

end Cases

section Limited
variable (settings : Settings) (runner : TestCase → StateM τ CaseEnd) (width : Nat)

/-- The pages of a report, one for each case that was attempted. -/
def pages (cases : List TestCase) (endings : List (Option CaseEnd)) : List String :=
  List.zipWith (page settings.verbose width) cases endings

/-- The number of cases that are announced before the room is used up: one for each page that fits,
and one more if the announcement at the head of the next page does. -/
def announced : Nat → List TestCase → List (Option CaseEnd) → Nat
  | n, c :: cases, attempt :: endings =>
    if (page settings.verbose width c attempt).utf8ByteSize ≤ n then
      announced (n - (page settings.verbose width c attempt).utf8ByteSize) cases endings + 1
    else if (announcement settings.verbose width c).utf8ByteSize ≤ n then 1 else 0
  | _, _, _ => 0

theorem announcement_le_page (verbose : Bool) (c : TestCase) (attempt : Option CaseEnd) :
    (announcement verbose width c).utf8ByteSize ≤ (page verbose width c attempt).utf8ByteSize := by
  simp only [page, String.utf8ByteSize_append]
  omega

/-- A case is announced exactly when the pages before it and its announcement fit. -/
theorem lt_announced_iff {n place : Nat} {cases : List TestCase} {endings : List (Option CaseEnd)}
    (hlength : cases.length = endings.length) {c : TestCase} (hc : cases[place]? = some c) :
    place < announced settings width n cases endings ↔
      span ((pages settings width cases endings).take place) +
        (announcement settings.verbose width c).utf8ByteSize ≤ n := by
  induction cases generalizing n place endings with
  | nil => simp at hc
  | cons first cases ih =>
    cases endings with
    | nil => cases hlength
    | cons attempt endings =>
      have hpage := announcement_le_page width settings.verbose first attempt
      have hlength : cases.length = endings.length := Nat.succ.inj hlength
      rw [announced, pages, List.zipWith_cons_cons]
      cases place with
      | zero =>
        obtain rfl : first = c := by simpa using hc
        rw [List.take_zero, span_nil]
        split
        · omega
        · split <;> omega
      | succ place =>
        have hrest := ih (n := n - (page settings.verbose width first attempt).utf8ByteSize) hlength hc
        rw [pages] at hrest
        rw [List.take_succ_cons, span_cons]
        split
        · omega
        · split <;> omega

variable {cases : List TestCase} {endings : List (Option CaseEnd)} {t t' : τ}

/-- A report of some cases on a limited writer. The cases that are announced are attempted, and those
whose pages fit have their statuses. -/
theorem recordCases_clip {r : Report} {n : Nat} (h : r.writer.room = some n)
    (hattempts : Attempts settings runner cases t endings t') :
    ∃ t₁, Attempts settings runner (cases.take (announced settings r.width n cases endings)) t
        (endings.take (announced settings r.width n cases endings)) t₁ ∧
      ((recordCases settings runner cases).run.run r).run t =
        ((if span (pages settings r.width cases endings) ≤ n then .ok () else .error .full,
          r.clip n (String.join (pages settings r.width cases endings))
            ((statusesOf cases endings).take (fitting n (pages settings r.width cases endings)))),
          t₁) := by
  induction cases generalizing r n t endings with
  | nil =>
    cases hattempts
    refine ⟨_, .done _, ?_⟩
    have hnone : pages settings r.width [] [] = [] := rfl
    rw [hnone, String.join_nil, statusesOf, List.zipWith_nil_left, List.take_nil, clip_nothing h,
      span_nil, if_pos (Nat.zero_le n)]
    rfl
  | cons c rest ih =>
    obtain _ | ⟨attempt, endings⟩ := endings
    · cases hattempts
    obtain ⟨t₁, hfirst, hrest⟩ := attempts_cons_iff.mp hattempts
    have hpage := announcement_le_page r.width settings.verbose c attempt
    have hcase := runCase_clip settings runner h hfirst
    have hstopped := recordCases_stopped settings runner h hfirst
    have hpages : pages settings r.width (c :: rest) (attempt :: endings) =
        page settings.verbose r.width c attempt :: pages settings r.width rest endings := rfl
    rw [hpages, statusesOf_cons, announced, fitting, String.join_cons, span_cons]
    generalize page settings.verbose r.width c attempt = text at hpage hcase hstopped ⊢
    by_cases hfits : text.utf8ByteSize ≤ n
    · -- the page fits, and the next case is reported on what room is left
      rw [if_pos hfits, if_pos (Nat.le_trans hpage hfits)] at hcase
      obtain ⟨t₂, hattempted, hrun⟩ :=
        ih (r := r.clip n text [(c.name, .ofAttempt attempt)]) (n := n - text.utf8ByteSize) rfl hrest
      refine ⟨t₂, ?_, ?_⟩
      · rw [if_pos hfits, List.take_succ_cons, List.take_succ_cons]
        exact attempts_cons_iff.mpr ⟨t₁, hfirst, hattempted⟩
      · have hspan : span (pages settings r.width rest endings) ≤ n - text.utf8ByteSize ↔
            text.utf8ByteSize + span (pages settings r.width rest endings) ≤ n := by
          omega
        rw [recordCases_ok settings runner hcase, clip_record, hrun, clip_clip, if_pos hfits,
          List.take_succ_cons]
        simp only [clip_width, hspan]
        rfl
    · -- the page does not fit, and the report ends with it
      have hmore : ¬ text.utf8ByteSize + span (pages settings r.width rest endings) ≤ n := by omega
      simp only [if_neg hfits, if_neg hmore, List.take_zero]
      rw [hstopped (by omega), clip_append_of_lt (by omega)]
      refine ⟨_, ?_, rfl⟩
      by_cases hann : (announcement settings.verbose r.width c).utf8ByteSize ≤ n
      · rw [if_pos hann, if_pos hann]
        exact hfirst
      · rw [if_neg hann, if_neg hann]
        exact .done t

/-- A runner that also remembers which cases it has run, the first one first. -/
def remembering (c : TestCase) : StateM (τ × List TestCase) CaseEnd := fun (t, ran) =>
  let (ending, t) := (runner c).run t
  (ending, t, ran ++ [c])

/-- Remembering changes nothing else, and the cases that are remembered are the selected ones. -/
theorem Attempts.remembering (h : Attempts settings runner cases t endings t')
    (ran : List TestCase) :
    Attempts settings (remembering runner) cases (t, ran) endings
      (t', ran ++ cases.filter (settings.selects ·.name)) := by
  induction h generalizing ran with
  | done t =>
    simp only [List.filter_nil, List.append_nil]
    exact .done (t, ran)
  | skipped hc _ ih =>
    rw [List.filter_cons_of_neg (by simp [hc])]
    exact .skipped hc (ih ran)
  | @ran c _ _ _ _ _ _ hc hrun _ ih =>
    have hrest := ih (ran ++ [c])
    rw [List.append_assoc, List.singleton_append] at hrest
    rw [List.filter_cons_of_pos (by simpa using hc)]
    refine .ran hc ?_ hrest
    show Report.remembering runner c (_, ran) = _
    simp only [Report.remembering, hrun]

/-- The pages of a report of a whole catalog. -/
def pagesOf (catalog : Catalog) (endings : List (Option CaseEnd)) : List String :=
  pages settings (columnWidth catalog) catalog.cases endings

/-- A report on a writer with room for `n` bytes, and the cases that were run for it, beside the
same report on a writer that is not limited. -/
structure Cut (catalog : Catalog) (n : Nat) (endings : List (Option CaseEnd)) (full cut : Report)
    (ran : List TestCase) : Prop where
  /-- The whole text consists of one page for each case. -/
  text : full.writer.kept = (String.join (pagesOf settings catalog endings)).toUTF8.toList
  whole : full.statuses = statusesOf catalog.cases endings
  kept : cut.writer.kept = full.writer.kept.take n
  /-- There is a status for as many cases as have pages that fit together. -/
  statuses : ∃ k, IsGreatest {k | k ≤ catalog.cases.length ∧
    span ((pagesOf settings catalog endings).take k) ≤ n} k ∧ cut.statuses = full.statuses.take k
  /-- A selected case is run exactly when all pages before it and its announcement fit. -/
  ran : ∃ m, ran = (catalog.cases.take m).filter (settings.selects ·.name) ∧
    ∀ place c, catalog.cases[place]? = some c → (place < m ↔
      span ((pagesOf settings catalog endings).take place) +
        (announcement settings.verbose (columnWidth catalog) c).utf8ByteSize ≤ n)
  /-- A case whose page does not fit has no status, whether or not it was run. -/
  unrecorded : ∀ place < catalog.cases.length,
    n < span ((pagesOf settings catalog endings).take (place + 1)) → cut.statuses.length ≤ place

/-- The fresh report of a catalog that is cut to `n` bytes. -/
def clipped (catalog : Catalog) (n : Nat) (endings : List (Option CaseEnd)) : Report :=
  ({ width := columnWidth catalog } : Report).clip n (String.join (pagesOf settings catalog endings))
    ((statusesOf catalog.cases endings).take (fitting n (pagesOf settings catalog endings)))

variable {catalog : Catalog} {full : Report} (n : Nat)

theorem cut_clipped (hlength : catalog.cases.length = endings.length)
    (htext : full.writer.kept = (String.join (pagesOf settings catalog endings)).toUTF8.toList)
    (hstatuses : full.statuses = statusesOf catalog.cases endings) :
    Cut settings catalog n endings full (clipped settings catalog n endings)
      ((catalog.cases.take (announced settings (columnWidth catalog) n catalog.cases endings)).filter
        (settings.selects ·.name)) := by
  have hpages : (pagesOf settings catalog endings).length = catalog.cases.length := by
    simp [pagesOf, pages, hlength]
  refine ⟨htext, hstatuses, ?_, ⟨fitting n (pagesOf settings catalog endings), ?_, ?_⟩,
    ⟨_, rfl, ?_⟩, ?_⟩
  · rw [htext]
    rfl
  · rw [← hpages]
    exact fitting_isGreatest n _
  · rw [hstatuses]
    rfl
  · intro place c hc
    exact lt_announced_iff settings (columnWidth catalog) hlength hc
  · intro place hplace hover
    have hfew : fitting n (pagesOf settings catalog endings) ≤ place := by
      by_contra hmany
      have hfits : span ((pagesOf settings catalog endings).take (place + 1)) ≤ n :=
        (span_take_le_iff (by omega)).mpr (by omega)
      omega
    have htaken : (clipped settings catalog n endings).statuses.length ≤
        fitting n (pagesOf settings catalog endings) := by
      simp only [clipped, clip, List.nil_append, List.length_take]
      exact Nat.min_le_left _ _
    exact Nat.le_trans htaken hfew

/-- A report that fits as a whole has all statuses. -/
theorem clipped_failed (hstatuses : full.statuses = statusesOf catalog.cases endings)
    (hfits : span (pagesOf settings catalog endings) ≤ n) :
    (clipped settings catalog n endings).failed = full.failed := by
  have hall : (statusesOf catalog.cases endings).length =
      fitting n (pagesOf settings catalog endings) := by
    rw [fitting_of_span_le hfits]
    simp [pagesOf, pages, statusesOf]
  simp only [failed, clipped, clip, List.nil_append, ← hall, List.take_length, hstatuses]

/-- A fresh report of a catalog on a limited writer. -/
theorem runAll_clip (h : Attempts settings runner catalog.cases t endings t') :
    ∃ t₁, Attempts settings runner
        (catalog.cases.take (announced settings (columnWidth catalog) n catalog.cases endings)) t
        (endings.take (announced settings (columnWidth catalog) n catalog.cases endings)) t₁ ∧
      ((runAll settings runner catalog).run.run { writer := { room := some n } }).run t =
        ((if span (pagesOf settings catalog endings) ≤ n
          then .ok (if 0 < (clipped settings catalog n endings).failed then 1 else 0)
          else .error .full, clipped settings catalog n endings), t₁) := by
  obtain ⟨t₁, hattempted, hrun⟩ := recordCases_clip settings runner
    (r := { writer := { room := some n }, width := columnWidth catalog }) rfl h
  refine ⟨t₁, hattempted, ?_⟩
  have hrun : ((recordCases settings runner catalog.cases).run.run
      { writer := { room := some n }, width := columnWidth catalog }).run t =
        ((if span (pagesOf settings catalog endings) ≤ n then .ok () else .error .full,
          clipped settings catalog n endings), t₁) := hrun
  rw [runAll_eq, hrun]
  by_cases hfits : span (pagesOf settings catalog endings) ≤ n
  · rw [if_pos hfits, if_pos hfits]
    rfl
  · rw [if_neg hfits, if_neg hfits]
    rfl

/-- A fresh report on a limited writer keeps what fits of the text of the whole report. It fails if
and only if not all of it fits. -/
theorem runAll_cut (catalog : Catalog) (n : Nat) (t : τ) :
    ∃ endings t' code full result cut t₁ ran,
      Attempts settings runner catalog.cases t endings t' ∧
      ((runAll settings runner catalog).run.run {}).run t = ((.ok code, full), t') ∧
      ((runAll settings runner catalog).run.run { writer := { room := some n } }).run t =
        ((result, cut), t₁) ∧
      ((runAll settings (remembering runner) catalog).run.run
        { writer := { room := some n } }).run (t, []) = ((result, cut), t₁, ran) ∧
      result = (if full.writer.kept.length ≤ n then .ok code else .error .full) ∧
      Cut settings catalog n endings full cut ran := by
  obtain ⟨endings, t', full, hattempts, hfull, hwhole⟩ :=
    runAll_attempts settings runner (r := {}) catalog rfl t
  obtain ⟨t₁, hattempted, hcut⟩ := runAll_clip settings runner n hattempts
  obtain ⟨⟨t₂, ran⟩, hremembered, hran⟩ :=
    runAll_clip settings (remembering runner) n (hattempts.remembering settings runner [])
  -- both runs attempt the same cases
  obtain ⟨-, hsame⟩ :=
    hremembered.unique (hattempted.remembering settings runner [])
  obtain ⟨rfl, rfl⟩ := Prod.mk.inj hsame
  have hlength := hattempts.length_eq
  have htext : full.writer.kept = (String.join (pagesOf settings catalog endings)).toUTF8.toList := by
    rw [hfull]
    rfl
  have hstatuses : full.statuses = statusesOf catalog.cases endings := by
    rw [hfull]
    rfl
  have hsize : full.writer.kept.length = span (pagesOf settings catalog endings) := by
    rw [htext, Text.length_toUTF8, utf8ByteSize_join]
  refine ⟨endings, t', _, full, _, _, t₂, _, hattempts, hwhole, hcut, hran, ?_,
    cut_clipped settings n hlength htext hstatuses⟩
  rw [hsize]
  by_cases hfits : span (pagesOf settings catalog endings) ≤ n
  · rw [if_pos hfits, if_pos hfits, clipped_failed settings n hstatuses hfits]
  · rw [if_neg hfits, if_neg hfits]

end Limited
end Report
end Proctor
