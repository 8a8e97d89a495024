import Proctor.Pattern.Expr
import Mathlib.Data.Nat.Bitwise
import Mathlib.Logic.Relation

/-!
# What a search finds

A search moves sets of positions. What one of its steps does to a set is decided by what it does
to single positions, so every step carries a relation between positions, and the steps of an
expression carry the spans that it matches. A repetition without a bound is followed no further than
the text is long. That loses no span: a step that takes nothing need not be taken, and any other
leads on.
-/
namespace Proctor

namespace Positions

theorem testBit_ofAnswers (answers : List Bool) (i : Nat) :
    (ofAnswers answers).testBit i = answers[i]?.getD false := by
  induction answers generalizing i with
  | nil => simp [ofAnswers]
  | cons b rest ih =>
    have hbit : ofAnswers (b :: rest) = Nat.bit b (ofAnswers rest) := by
      cases b <;> rfl
    rw [hbit]
    cases i with
    | zero => simp
    | succ i => simp [Nat.testBit_bit_succ, ih]

theorem testBit_all (text : List Char) (i : Nat) :
    (all text).testBit i = decide (i < text.length + 1) := by
  rw [all, Nat.one_shiftLeft, Nat.testBit_two_pow_sub_one]

theorem testBit_without (a b : Positions) (i : Nat) :
    (without a b).testBit i = (a.testBit i && !b.testBit i) := by
  rw [without, Nat.testBit_xor, Nat.testBit_and]
  cases a.testBit i <;> cases b.testBit i <;> rfl

/-- A relation some number of times over. -/
def Times (r : Nat → Nat → Prop) : Nat → Nat → Nat → Prop
  | 0 => Eq
  | n + 1 => Relation.Comp r (Times r n)

/-- A step leads to the positions that a relation leads to from one of those it is given. -/
def Carries (step : Positions → Positions) (r : Nat → Nat → Prop) : Prop :=
  ∀ (s : Positions) (j : Nat), (step s).testBit j = true ↔ ∃ i, s.testBit i = true ∧ r i j

namespace Carries

variable {step step' : Positions → Positions} {r r' : Nat → Nat → Prop}

theorem comp (h : Carries step r) (h' : Carries step' r') :
    Carries (fun s => step' (step s)) (Relation.Comp r r') := by
  intro s k
  rw [h']
  constructor
  · rintro ⟨j, hj, hr'⟩
    obtain ⟨i, hi, hr⟩ := (h s j).mp hj
    exact ⟨i, hi, j, hr, hr'⟩
  · rintro ⟨i, hi, j, hr, hr'⟩
    exact ⟨j, (h s j).mpr ⟨i, hi, hr⟩, hr'⟩

theorem union (h : Carries step r) (h' : Carries step' r') :
    Carries (fun s => step s ||| step' s) (fun i j => r i j ∨ r' i j) := by
  intro s j
  rw [Nat.testBit_or, Bool.or_eq_true, h, h']
  simp only [and_or_left, exists_or]

/-- A step that changes nothing more would change nothing however often it were repeated. -/
theorem iterate (h : Carries step r) (n : Nat) :
    Carries (Positions.iterate step n) (Times r n) := by
  have hfixed (s : Positions) (hs : step s = s) (n : Nat) : Positions.iterate step n s = s := by
    cases n with
    | zero => rfl
    | succ n => rw [Positions.iterate, if_pos hs]
  induction n with
  | zero =>
    intro s j
    simp [Positions.iterate, Times]
  | succ n ih =>
    have hunfold : Positions.iterate step (n + 1) = fun s => Positions.iterate step n (step s) := by
      funext s
      rw [Positions.iterate]
      split
      · next hs => rw [hs, hfixed s hs]
      · rfl
    rw [hunfold]
    exact h.comp ih

end Carries

/-- How far the search for what can be reached has come: of what was found, all but what was found
lately leads nowhere new. -/
structure Frontier (r : Nat → Nat → Prop) (found latest : Positions) : Prop where
  among : ∀ i, latest.testBit i = true → found.testBit i = true
  settled : ∀ i j, found.testBit i = true → latest.testBit i = false → r i j →
    found.testBit j = true

section Closure
variable {step : Positions → Positions} {r : Nat → Nat → Prop} {found latest : Positions}

theorem Frontier.start (r : Nat → Nat → Prop) (s : Positions) : Frontier r s s where
  among _ := id
  settled i _ hi hnot := by
    rw [hi] at hnot
    cases hnot

/-- What is fresh is reached from what was found lately, and was not found before. -/
theorem Carries.testBit_fresh (h : Carries step r) (found latest : Positions) (j : Nat) :
    (without (step latest) found).testBit j = true ↔
      (∃ i, latest.testBit i = true ∧ r i j) ∧ found.testBit j = false := by
  rw [testBit_without, Bool.and_eq_true, Bool.not_eq_true', h]

/-- One more step from what was found leads to what was found or to what is fresh. -/
theorem Frontier.testBit_next (hf : Frontier r found latest) (h : Carries step r) {i j : Nat}
    (hi : found.testBit i = true) (hr : r i j) :
    (found ||| without (step latest) found).testBit j = true := by
  rw [Nat.testBit_or, Bool.or_eq_true, h.testBit_fresh]
  by_cases hlatest : latest.testBit i = true
  · by_cases hj : found.testBit j = true
    · exact .inl hj
    · exact .inr ⟨⟨i, hlatest, hr⟩, Bool.eq_false_iff.mpr hj⟩
  · exact .inl (hf.settled i j hi (Bool.eq_false_iff.mpr hlatest) hr)

theorem Frontier.next (hf : Frontier r found latest) (h : Carries step r) :
    Frontier r (found ||| without (step latest) found) (without (step latest) found) where
  among i hi := by rw [Nat.testBit_or, hi, Bool.or_true]
  settled i j hi hnot hr := by
    rw [Nat.testBit_or, hnot, Bool.or_false] at hi
    exact hf.testBit_next h hi hr

/-- What leads nowhere new in one step does not do so in more. -/
theorem Times.stays {s : Positions} (hs : ∀ i j, s.testBit i = true → r i j → s.testBit j = true)
    {n i j : Nat} (h : Times r n i j) (hi : s.testBit i = true) : s.testBit j = true := by
  induction n generalizing i with
  | zero => exact h ▸ hi
  | succ n ih =>
    obtain ⟨m, hr, h⟩ := h
    exact ih h (hs i m hi hr)

theorem Frontier.testBit_closure (hf : Frontier r found latest) (h : Carries step r) (n j : Nat) :
    (Positions.closure step n found latest).testBit j = true ↔
      ∃ k ≤ n, ∃ i, found.testBit i = true ∧ Times r k i j := by
  induction n generalizing found latest with
  | zero => simp [Positions.closure, Times]
  | succ n ih =>
    have hnext (i j : Nat) := hf.testBit_next h (i := i) (j := j)
    rw [Positions.closure]
    by_cases hnone : without (step latest) found = 0
    · simp only [hnone, Nat.or_zero] at hnext
      simp only [hnone, if_pos]
      constructor
      · intro hj
        exact ⟨0, Nat.zero_le _, j, hj, rfl⟩
      · rintro ⟨k, -, i, hi, ht⟩
        exact ht.stays hnext hi
    · simp only [if_neg hnone, ih (hf.next h)]
      constructor
      · rintro ⟨k, hk, i, hi, ht⟩
        rw [Nat.testBit_or, Bool.or_eq_true, h.testBit_fresh] at hi
        obtain hi | ⟨⟨i', hi', hr⟩, -⟩ := hi
        · exact ⟨k, by omega, i, hi, ht⟩
        · exact ⟨k + 1, by omega, i', hf.among i' hi', i, hr, ht⟩
      · rintro ⟨k, hk, i, hi, ht⟩
        cases k with
        | zero => exact ⟨0, Nat.zero_le _, i, by rw [Nat.testBit_or, hi, Bool.true_or], ht⟩
        | succ k =>
          obtain ⟨m, hr, ht⟩ := ht
          exact ⟨k, by omega, m, hnext i m hi hr, ht⟩

theorem Carries.closure (h : Carries step r) (n : Nat) :
    Carries (fun s => Positions.closure step n s s) (fun i j => ∃ k ≤ n, Times r k i j) := by
  intro s j
  rw [(Frontier.start r s).testBit_closure h]
  constructor
  · rintro ⟨k, hk, i, hi, ht⟩
    exact ⟨i, hi, k, hk, ht⟩
  · rintro ⟨i, hi, k, hk, ht⟩
    exact ⟨k, hk, i, hi, ht⟩

end Closure

/-- What leads back to where it began need not be taken, and what does not leads on. -/
theorem Times.shorten {r : Nat → Nat → Prop} (hr : ∀ i j, r i j → i ≤ j) {n i j : Nat}
    (h : Times r n i j) : ∃ k ≤ n, k ≤ j - i ∧ i ≤ j ∧ Times r k i j := by
  induction n generalizing i with
  | zero => exact ⟨0, le_rfl, Nat.zero_le _, Nat.le_of_eq h, h⟩
  | succ n ih =>
    obtain ⟨m, him, hmj⟩ := h
    obtain ⟨k, hk, hbound, hle, ht⟩ := ih hmj
    obtain rfl | hlt := Nat.eq_or_lt_of_le (hr i m him)
    · exact ⟨k, by omega, hbound, hle, ht⟩
    · exact ⟨k + 1, by omega, by omega, by omega, m, him, ht⟩

end Positions

open Positions

namespace Expr

variable {text : List Char} {set : CharSet} {l : Look} {a b body e : Expr} {i j : Nat}

theorem matches_empty_iff : Matches text .empty i j ↔ i = j := by
  constructor
  · rintro ⟨⟩
    rfl
  · rintro rfl
    exact .empty

theorem matches_chars_iff :
    Matches text (.chars set) i j ↔ j = i + 1 ∧ text[i]?.any set.contains = true := by
  constructor
  · rintro ⟨⟩
    next hc hset => simp [hc, hset]
  · rintro ⟨rfl, h⟩
    obtain ⟨c, hc, hset⟩ := (Option.any_eq_true _ _).mp h
    exact .chars hc hset

theorem matches_look_iff : Matches text (.look l) i j ↔
    i = j ∧ i ≤ text.length ∧ l.holds (before text i) text[i]? = true := by
  constructor
  · rintro ⟨⟩
    next hi hl => exact ⟨rfl, hi, hl⟩
  · rintro ⟨rfl, hi, hl⟩
    exact .look hi hl

theorem matches_sequence_iff :
    Matches text (.sequence a b) i j ↔ Relation.Comp (a.Matches text) (b.Matches text) i j := by
  constructor
  · rintro ⟨⟩
    next ha hb => exact ⟨_, ha, hb⟩
  · rintro ⟨m, ha, hb⟩
    exact .sequence ha hb

theorem matches_alternative_iff :
    Matches text (.alternative a b) i j ↔ Matches text a i j ∨ Matches text b i j := by
  constructor
  · rintro ⟨⟩
    next h => exact .inl h
    next h => exact .inr h
  · rintro (h | h)
    · exact .left h
    · exact .right h

/-- A repetition that need not happen happens some number of times within its bound. -/
theorem matches_optional_iff {most : Option Nat} :
    Matches text (.repetition 0 most body) i j ↔
      ∃ n, (∀ m ∈ most, n ≤ m) ∧ Times (body.Matches text) n i j := by
  constructor
  · intro h
    generalize hr : Expr.repetition 0 most body = r at h
    induction h generalizing most with
    | stop => exact ⟨0, fun _ _ => Nat.zero_le _, rfl⟩
    | more hbody _ _ ih =>
      cases hr
      obtain ⟨n, -, ht⟩ := ih rfl
      exact ⟨n + 1, by simp, _, hbody, ht⟩
    | another hbody _ _ ih =>
      cases hr
      obtain ⟨n, hn, ht⟩ := ih rfl
      exact ⟨n + 1, by simpa using hn, _, hbody, ht⟩
    | _ => cases hr
  · rintro ⟨n, hn, ht⟩
    induction n generalizing i most with
    | zero =>
      obtain rfl : i = j := ht
      exact .stop
    | succ n ih =>
      obtain ⟨m, hbody, ht⟩ := ht
      cases most with
      | none => exact .more hbody (ih (by simp) ht)
      | some most =>
        obtain ⟨k, rfl⟩ : ∃ k, most = k + 1 := ⟨most - 1, by have := hn most rfl; omega⟩
        exact .another hbody (ih (by simpa using hn) ht)

/-- A repetition happens as often as it must, and then as often as it may. -/
theorem matches_repetition_iff {least : Nat} {most : Option Nat} :
    Matches text (.repetition least most body) i j ↔
      Relation.Comp (Times (body.Matches text) least)
        (Matches text (.repetition 0 (most.map (· - least)) body)) i j := by
  induction least generalizing i most with
  | zero =>
    have hmost : most.map (· - 0) = most := by simp
    rw [hmost]
    constructor
    · intro h
      exact ⟨i, rfl, h⟩
    · rintro ⟨_, rfl, h⟩
      exact h
  | succ least ih =>
    have hmost : (most.map (· - 1)).map (· - least) = most.map (· - (least + 1)) := by
      rw [Option.map_map]
      congr 1
      funext m
      simp only [Function.comp_apply]
      omega
    constructor
    · rintro ⟨⟩
      next m hbody hrest =>
        obtain ⟨k, ht, hrest⟩ := ih.mp hrest
        exact ⟨k, ⟨m, hbody, ht⟩, hmost ▸ hrest⟩
    · rintro ⟨k, ⟨m, hbody, ht⟩, hrest⟩
      exact .first hbody (ih.mpr ⟨k, ht, hmost ▸ hrest⟩)

/-- A span that takes anything lies within the text. -/
theorem Matches.bounds (h : Matches text e i j) : i ≤ j ∧ (i = j ∨ j ≤ text.length) := by
  induction h with
  | chars hc =>
    obtain ⟨hi, -⟩ := List.getElem?_eq_some_iff.mp hc
    omega
  | empty | look | stop => omega
  | left _ ih | right _ ih => exact ih
  | sequence _ _ ih ih' | more _ _ ih ih' | another _ _ ih ih' | first _ _ ih ih' => omega

/-- However often a repetition may happen, it need not happen more often than a text is long. -/
theorem matches_optional_iff_le {most : Option Nat} {bound : Nat} (hbound : text.length ≤ bound) :
    Matches text (.repetition 0 most body) i j ↔
      ∃ n ≤ (most.elim bound (min · bound)), Times (body.Matches text) n i j := by
  rw [matches_optional_iff]
  constructor
  · rintro ⟨n, hn, ht⟩
    obtain ⟨k, hk, hlength, hle, hshort⟩ := ht.shorten fun _ _ h => h.bounds.1
    have hend : i = j ∨ j ≤ text.length := (matches_optional_iff.mpr ⟨n, hn, ht⟩).bounds.2
    refine ⟨k, ?_, hshort⟩
    cases most with
    | none => simp only [Option.elim_none]; omega
    | some m =>
      have := hn m rfl
      simp only [Option.elim_some]
      omega
  · rintro ⟨n, hn, ht⟩
    refine ⟨n, ?_, ht⟩
    rintro m rfl
    exact hn.trans (Nat.min_le_left _ _)

end Expr

namespace Plan

theorem getElem?_neighbours (first : Option Char) (text : List Char) (i : Nat) :
    (neighbours first text)[i]? =
      if i ≤ text.length then some (if i = 0 then first else text[i - 1]?, text[i]?) else none := by
  induction text generalizing first i with
  | nil =>
    cases i with
    | zero => simp [neighbours]
    | succ i => simp [neighbours]
  | cons c rest ih =>
    cases i with
    | zero => simp [neighbours]
    | succ i =>
      rw [neighbours, List.getElem?_cons_succ, ih]
      cases i with
      | zero => simp
      | succ i => simp

/-- The steps of an expression carry the spans that it matches. -/
theorem carries_run (text : List Char) (e : Expr) :
    Carries ((Plan.of text e).run text.length) (e.Matches text) := by
  induction e with
  | empty =>
    intro s j
    simp [Plan.of, run, Expr.matches_empty_iff]
  | chars set =>
    intro s j
    have hmember (i : Nat) :
        (text[i]?.map set.contains).getD false = text[i]?.any set.contains := by
      cases text[i]? <;> rfl
    simp only [Plan.of, run, Nat.testBit_shiftLeft, Nat.testBit_and, testBit_ofAnswers,
      List.getElem?_map, hmember, Expr.matches_chars_iff, Bool.and_eq_true, decide_eq_true_eq]
    constructor
    · rintro ⟨hj, hs, hset⟩
      exact ⟨j - 1, hs, by omega, hset⟩
    · rintro ⟨i, hs, rfl, hset⟩
      exact ⟨by omega, hs, hset⟩
  | look l =>
    intro s j
    simp only [Plan.of, run, Nat.testBit_and, testBit_ofAnswers, List.getElem?_map,
      getElem?_neighbours, Expr.matches_look_iff, Bool.and_eq_true]
    constructor
    · rintro ⟨hs, hl⟩
      by_cases hj : j ≤ text.length
      · exact ⟨j, hs, rfl, hj, by simpa [hj, Expr.before] using hl⟩
      · simp [hj] at hl
    · rintro ⟨i, hs, rfl, hi, hl⟩
      exact ⟨hs, by simpa [hi, Expr.before] using hl⟩
  | sequence a b iha ihb =>
    intro s j
    simp only [Expr.matches_sequence_iff]
    exact iha.comp ihb s j
  | alternative a b iha ihb =>
    intro s j
    simp only [Expr.matches_alternative_iff]
    exact iha.union ihb s j
  | repetition least most body ih =>
    intro s j
    simp only [Expr.matches_repetition_iff, Relation.Comp,
      Expr.matches_optional_iff_le (Nat.le_succ text.length)]
    cases most with
    | none => exact (ih.iterate least).comp (ih.closure (text.length + 1)) s j
    | some m => exact (ih.iterate least).comp (ih.closure (min (m - least) (text.length + 1))) s j

end Plan

/-- A search finds exactly the expressions that match some span of the text. -/
theorem Expr.search_iff_found (e : Expr) (text : List Char) :
    e.search text = true ↔ e.Found text := by
  have hrun := Plan.carries_run text e (.all text)
  rw [Expr.search, decide_eq_true_eq]
  constructor
  · intro hne
    obtain ⟨j, hj⟩ := Nat.exists_testBit_of_ne_zero hne
    obtain ⟨i, hi, hmatches⟩ := (hrun j).mp hj
    rw [testBit_all, decide_eq_true_eq] at hi
    exact ⟨i, j, by omega, hmatches⟩
  · rintro ⟨i, j, hi, hmatches⟩ hzero
    have hj := (hrun j).mpr ⟨i, by rw [testBit_all, decide_eq_true_eq]; omega, hmatches⟩
    rw [hzero, Nat.zero_testBit] at hj
    cases hj

end Proctor
