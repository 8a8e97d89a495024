import Proctor.Host.Journal
import Mathlib.Tactic.Tauto

/-!
# Paths of labelled steps

A step of a transition system carries an entry of a journal as its label, and a path the
entries of its steps, the newest first, as a journal holds them. A system of several parts
moves by a step of one of them at a time.
-/
namespace Proctor
variable {α : Type}

/-- Steps one after the other, with their entries. -/
inductive Path (step : α → Entry → α → Prop) : α → List Entry → α → Prop
  | refl (a : α) : Path step a [] a
  | snoc {a b c : α} {entries : List Entry} {e : Entry} :
      Path step a entries b → step b e c → Path step a (e :: entries) c

/-- A step of one part of a system; the other parts stay as they are. -/
inductive OneOf (step : α → Entry → α → Prop) : List α → Entry → List α → Prop
  | mk (before after : List α) {a b : α} {e : Entry} (h : step a e b) :
      OneOf step (before ++ a :: after) e (before ++ b :: after)

/-- What the step of a part preserves of it is preserved at every place of a system. -/
theorem OneOf.at_place {step : α → Entry → α → Prop} {P : α → Prop} {as bs : List α} {e : Entry}
    (h : OneOf step as e bs) (hstep : ∀ {a b}, step a e b → P a → P b) {place : Nat}
    (hP : ∃ a, as[place]? = some a ∧ P a) : ∃ b, bs[place]? = some b ∧ P b := by
  obtain @⟨before, after, a, b, e, hs⟩ := h
  obtain ⟨x, hx, hP⟩ := hP
  by_cases hplace : place = before.length
  · subst hplace
    obtain rfl : a = x := by simpa using hx
    exact ⟨b, by simp, hstep hs hP⟩
  · refine ⟨x, ?_, hP⟩
    rw [← hx]
    by_cases hlt : place < before.length
    · rw [List.getElem?_append_left hlt, List.getElem?_append_left hlt]
    · obtain ⟨k, hk⟩ : ∃ k, place - before.length = k + 1 := ⟨place - before.length - 1, by omega⟩
      rw [List.getElem?_append_right (by omega), List.getElem?_append_right (by omega), hk]
      rfl

namespace Path
variable {step : α → Entry → α → Prop}

theorem single {a b : α} {e : Entry} (h : step a e b) : Path step a [e] b :=
  .snoc (.refl a) h

theorem trans {a b c : α} {earlier later : List Entry} (h : Path step a earlier b)
    (h' : Path step b later c) : Path step a (later ++ earlier) c := by
  induction h' with
  | refl => exact h
  | snoc _ hs ih => exact .snoc ih hs

/-- What every step preserves holds at the end of a path if it holds at its start. -/
theorem preserves {I : List Entry → α → Prop}
    (hstep : ∀ {journal a e b}, I journal a → step a e b → I (e :: journal) b)
    {a b : α} {entries journal : List Entry} (h : Path step a entries b) (h₀ : I journal a) :
    I (entries ++ journal) b := by
  induction h with
  | refl => exact h₀
  | snoc _ hs ih => exact hstep ih hs

/-- A view that no step changes is the same at both ends of a path. -/
theorem view_eq {β : Type} {view : α → β} (hstep : ∀ {a e b}, step a e b → view b = view a)
    {a b : α} {entries : List Entry} (h : Path step a entries b) : view b = view a := by
  induction h with
  | refl => rfl
  | snoc _ hs ih => exact (hstep hs).trans ih

/-- A path of the first part is one of the system. -/
theorem oneOf_head {a b : α} {entries : List Entry} (h : Path step a entries b)
    (rest : List α) : Path (OneOf step) (a :: rest) entries (b :: rest) := by
  induction h with
  | refl => exact .refl _
  | snoc _ hs ih => exact .snoc ih (.mk [] rest hs)

/-- A path of the parts behind the first one is one of the system. -/
theorem oneOf_tail (a : α) {as bs : List α} {entries : List Entry}
    (h : Path (OneOf step) as entries bs) :
    Path (OneOf step) (a :: as) entries (a :: bs) := by
  induction h with
  | refl => exact .refl _
  | snoc _ hs ih =>
    obtain ⟨before, after, hs⟩ := hs
    exact .snoc ih (.mk (a :: before) after hs)

/-- A path of one kind of steps is one of another kind if every step is. -/
theorem imp {step' : α → Entry → α → Prop} (hstep : ∀ {a e b}, step a e b → step' a e b)
    {as bs : List α} {entries : List Entry} (h : Path (OneOf step) as entries bs) :
    Path (OneOf step') as entries bs := by
  induction h with
  | refl => exact .refl _
  | snoc _ hs ih =>
    obtain ⟨before, after, hs⟩ := hs
    exact .snoc ih (.mk before after (hstep hs))

/-- What every entry preserves of a part that stays, and every step of the part that moves,
holds of all parts at the end of a path. -/
theorem forall_mem {P : List Entry → α → Prop}
    (hstay : ∀ {journal e a}, P journal a → P (e :: journal) a)
    (hmove : ∀ {journal a e b}, P journal a → step a e b → P (e :: journal) b)
    {as bs : List α} {entries journal : List Entry} (h : Path (OneOf step) as entries bs)
    (h₀ : ∀ a ∈ as, P journal a) : ∀ b ∈ bs, P (entries ++ journal) b := by
  refine h.preserves (I := fun journal as => ∀ a ∈ as, P journal a) ?_ h₀
  rintro journal _ e _ hP ⟨before, after, hs⟩ b hb
  have hold : ∀ x ∈ before ++ after, P journal x := fun x hx => hP x (by
    rw [List.mem_append] at hx
    rw [List.mem_append, List.mem_cons]
    tauto)
  rw [List.mem_append, List.mem_cons] at hb
  obtain hb | rfl | hb := hb
  · exact hstay (hold b (List.mem_append_left _ hb))
  · exact hmove (hP _ (by simp)) hs
  · exact hstay (hold b (List.mem_append_right _ hb))

/-- What the entry of every step has in common is common to the entries of a path. -/
theorem forall_entry {P : Entry → Prop} (hstep : ∀ {a e b}, step a e b → P e) {as bs : List α}
    {entries : List Entry} (h : Path (OneOf step) as entries bs) : ∀ e ∈ entries, P e := by
  induction h with
  | refl => simp
  | snoc _ hs ih =>
    obtain ⟨before, after, hs⟩ := hs
    rw [List.forall_mem_cons]
    exact ⟨hstep hs, ih⟩

/-- Steps that leave their part as it is are all taken by parts that were there before. -/
theorem exists_part (hstill : ∀ {a e b}, step a e b → b = a) {as bs : List α}
    {entries : List Entry} (h : Path (OneOf step) as entries bs) :
    bs = as ∧ ∀ e ∈ entries, ∃ a ∈ as, step a e a := by
  induction h with
  | refl => exact ⟨rfl, by simp⟩
  | snoc _ hs ih =>
    obtain @⟨before, after, a, b, e, hs⟩ := hs
    obtain rfl := hstill hs
    obtain ⟨rfl, hentries⟩ := ih
    rw [List.forall_mem_cons]
    exact ⟨rfl, ⟨b, by simp, hs⟩, hentries⟩

/-- A view of the parts that no step changes is the same at both ends of a path. -/
theorem map_eq {β : Type} {view : α → β} (hstep : ∀ {a e b}, step a e b → view b = view a)
    {as bs : List α} {entries : List Entry} (h : Path (OneOf step) as entries bs) :
    bs.map view = as.map view := by
  refine view_eq ?_ h
  rintro _ _ _ ⟨before, after, hs⟩
  simp [hstep hs]

end Path
end Proctor
