import Proctor.Proofs.Pattern.EndAnchors

/-!
# Letter case

A pattern that does not regard letter case is found in a text exactly when it is found in the text
with all letters of ASCII in lower case. Each of its sets is closed under case before anything else
is made of it, and a set that has every letter in both cases or in none stays such a set when it is
complemented or combined with another. Nor do the conditions on a position tell the two cases of a
neighbour apart. A search therefore makes the same plan for both texts.
-/
namespace Proctor

namespace Text

/-- A character is its own lower case, unless it is one of the upper letters of ASCII. -/
theorem toLower_cases (c : Char) :
    c.toLower = c ∨ ∃ i < 26, c = Char.ofNat (65 + i) ∧ c.toLower = Char.ofNat (97 + i) := by
  by_cases h : c.val ≥ 'A'.val ∧ c.val ≤ 'Z'.val
  · right
    have hlow : 65 ≤ c.toNat := UInt32.le_iff_toNat_le.mp h.1
    have hhigh : c.toNat ≤ 90 := UInt32.le_iff_toNat_le.mp h.2
    have hletters : ∀ i < 26, (Char.ofNat (65 + i)).toLower = Char.ofNat (97 + i) := by decide
    have hc : c = Char.ofNat (65 + (c.toNat - 65)) := by
      rw [Nat.add_sub_cancel' hlow, Char.ofNat_toNat]
    refine ⟨c.toNat - 65, by omega, hc, ?_⟩
    rw [← hletters _ (by omega), ← hc]
  · left
    exact dif_neg h

/-- What is the same for the two cases of every letter of ASCII is the same for every character and
its lower case. -/
theorem apply_toLower {α : Type} (g : Char → α)
    (h : ∀ i < 26, g (Char.ofNat (97 + i)) = g (Char.ofNat (65 + i))) (c : Char) :
    g c.toLower = g c := by
  obtain hc | ⟨i, hi, hc, hlower⟩ := toLower_cases c
  · rw [hc]
  · rw [hlower, hc, h i hi]

end Text

open Text (apply_toLower)

namespace CharSet
variable {s a b : CharSet} {unicode : Bool}

/-- A set that has every letter of ASCII in both cases or in none. -/
def Caseless (s : CharSet) : Prop := ∀ c : Char, s.contains c.toLower = s.contains c

/-- The two cases of a letter lie in one orbit. -/
theorem orbit_perm (unicode : Bool) : ∀ i < 26,
    (Char.ofNat (97 + i) :: partners unicode (Char.ofNat (97 + i))).Perm
      (Char.ofNat (65 + i) :: partners unicode (Char.ofNat (65 + i))) := by
  cases unicode <;> decide

theorem caseless_folded (unicode : Bool) (a : CharSet) : (folded unicode a).Caseless :=
  apply_toLower _ fun i hi => (orbit_perm unicode i hi).any_eq

theorem caseless_perl (kind : PerlClass) : (CharSet.perl kind).Caseless := by
  apply apply_toLower
  cases kind <;> decide

theorem caseless_ofAsciiPerl (kind : PerlClass) : (ofAsciiPerl kind).Caseless := by
  apply apply_toLower
  cases kind <;> decide

theorem caseless_empty : CharSet.empty.Caseless := fun _ => rfl

namespace Caseless

theorem union (ha : a.Caseless) (hb : b.Caseless) : (CharSet.union a b).Caseless := by
  intro c
  rw [contains, contains, ha c, hb c]

theorem operation (kind : SetOperation) (ha : a.Caseless) (hb : b.Caseless) :
    (CharSet.operation kind a b).Caseless := by
  intro c
  rw [contains, contains, ha c, hb c]

theorem complement (ha : a.Caseless) : (CharSet.complement a).Caseless := by
  intro c
  rw [contains, contains, ha c]

end Caseless

theorem caseless_of_isFolded (h : s.isFolded unicode = true) : s.Caseless := by
  induction s with
  | empty => exact caseless_empty
  | range | ranges => cases h
  | perl kind => exact caseless_perl kind
  | folded u a => exact caseless_folded u a
  | union a b iha ihb =>
    obtain ⟨ha, hb⟩ := Bool.and_eq_true_iff.mp h
    exact (iha ha).union (ihb hb)
  | operation kind a b iha ihb =>
    obtain ⟨ha, hb⟩ := Bool.and_eq_true_iff.mp h
    exact (iha ha).operation kind (ihb hb)
  | complement a ih => exact (ih h).complement

/-- A set that is closed under letter case has every letter in both cases or in none. -/
theorem caseless_fold (unicode : Bool) (s : CharSet) : (s.fold unicode).Caseless := by
  fun_induction fold unicode s with
  | case1 a b iha ihb => exact iha.union ihb
  | case2 s _ hfolded => exact caseless_of_isFolded hfolded
  | case3 s => exact caseless_folded unicode s

end CharSet

namespace Flags
variable {f : Flags} {s set : CharSet}

theorem caseInsensitive_set (f : Flags) (setting : FlagSetting) :
    (f.set setting).caseInsensitive =
      if setting.flag = .caseInsensitive then setting.value else f.caseInsensitive := by
  obtain ⟨flag, v⟩ := setting
  cases flag <;> rfl

/-- Letter case does not come to matter until a setting clears the flag. -/
theorem caseInsensitive_update (hf : f.caseInsensitive = true) {settings : List FlagSetting}
    (h : settings.contains ⟨.caseInsensitive, false⟩ = false) :
    (f.update settings).caseInsensitive = true :=
  update_keeps caseInsensitive_set hf h

theorem caseless_fold (hf : f.caseInsensitive = true) (s : CharSet) : (f.fold s).Caseless := by
  rw [fold, if_pos hf]
  exact s.caseless_fold f.unicode

theorem caseless_complement? {negated : Bool} (h : f.complement? negated s = some set)
    (hs : s.Caseless) : set.Caseless := by
  cases negated with
  | false =>
    cases h
    exact hs
  | true =>
    simp only [complement?, if_pos] at h
    split at h
    · cases h
      exact hs.complement
    · cases h

theorem caseless_property? (hf : f.caseInsensitive = true) {negated : Bool} {q : PropertyQuery}
    (h : f.property? negated q = some set) : set.Caseless := by
  unfold property? at h
  split at h
  · obtain ⟨s, -, hset⟩ := Option.bind_eq_some_iff.mp h
    exact caseless_complement? hset (caseless_fold hf s)
  · cases h

theorem caseless_perl? {negated : Bool} {kind : PerlClass} (h : f.perl? negated kind = some set) :
    set.Caseless := by
  apply caseless_complement? h
  split
  · exact CharSet.caseless_perl kind
  · exact CharSet.caseless_ofAsciiPerl kind

/-- A bracketed class is closed under letter case before it is complemented, whatever is in it. -/
theorem caseless_class? (hf : f.caseInsensitive = true) {negated : Bool} {inside : ClassTerm}
    (h : f.class? (.bracketed negated inside) = some set) : set.Caseless := by
  obtain ⟨s, -, hset⟩ := Option.bind_eq_some_iff.mp h
  exact caseless_complement? hset (caseless_fold hf s)

theorem caseless_literal? (hf : f.caseInsensitive = true) {c : LiteralChar}
    (h : f.literal? c = some set) : set.Caseless := by
  unfold literal? at h
  split at h
  · cases h
  · cases h
    exact caseless_fold hf _

theorem caseless_dot? (h : f.dot? = some set) : set.Caseless := by
  have hnewline : (CharSet.single '\n').Caseless := apply_toLower _ (by decide)
  have hreturn : (CharSet.single '\r').Caseless := apply_toLower _ (by decide)
  unfold dot? at h
  split at h
  · cases h
  split at h
  · cases h
    exact CharSet.caseless_empty.complement
  split at h
  · cases h
    exact (hnewline.union hreturn).complement
  · cases h
    exact hnewline.complement

end Flags

namespace Look

theorem isWordAt_toLower (unicode : Bool) (o : Option Char) :
    isWordAt unicode (o.map Char.toLower) = isWordAt unicode o := by
  cases o with
  | none => rfl
  | some c =>
    refine apply_toLower (fun c => isWordAt unicode (some c)) ?_ c
    cases unicode <;> decide

/-- A character that is no letter of ASCII is the lower case of itself alone. -/
theorem map_toLower_eq_some_iff {d : Char}
    (hd : ∀ i < 26, (Char.ofNat (97 + i) == d) = (Char.ofNat (65 + i) == d)) (o : Option Char) :
    o.map Char.toLower = some d ↔ o = some d := by
  cases o with
  | none => simp
  | some c =>
    have hc : (c.toLower == d) = (c == d) := apply_toLower (· == d) hd c
    rw [Option.map_some, Option.some_inj, Option.some_inj, ← beq_iff_eq, hc, beq_iff_eq]

/-- A condition holds between two neighbours when it holds between their lower cases. -/
theorem holds_toLower (l : Look) (before after : Option Char) :
    l.holds (before.map Char.toLower) (after.map Char.toLower) = l.holds before after := by
  have hnewline := map_toLower_eq_some_iff (d := '\n') (by decide)
  have hreturn := map_toLower_eq_some_iff (d := '\r') (by decide)
  cases l with
  | textStart | textEnd => simp only [holds, Option.isNone_map]
  | lineStart crlf | lineEnd crlf =>
    cases crlf <;> simp only [holds, Option.isNone_map, hnewline, hreturn, ne_eq]
  | word unicode kind => simp only [holds, isWordAt_toLower]

end Look

/-- Whether all sets of an expression have every letter in both cases or in none. -/
def Expr.Caseless : Expr → Prop
  | .empty | .look _ => True
  | .chars set => set.Caseless
  | .sequence a b | .alternative a b => a.Caseless ∧ b.Caseless
  | .repetition _ _ body => body.Caseless

namespace Plan

theorem neighbours_map (g : Char → Char) (first : Option Char) (text : List Char) :
    neighbours (first.map g) (text.map g) =
      (neighbours first text).map (Prod.map (Option.map g) (Option.map g)) := by
  induction text generalizing first with
  | nil => rfl
  | cons c rest ih => exact congrArg _ (ih (some c))

/-- A caseless expression is prepared alike for a text and for its lower case. -/
theorem of_toLower {e : Expr} (he : e.Caseless) (text : List Char) :
    of (text.map Char.toLower) e = of text e := by
  induction e with
  | empty => rfl
  | chars set =>
    have hset : set.contains ∘ Char.toLower = set.contains := funext he
    rw [of, of, List.map_map, hset]
  | look l =>
    have hneighbours := neighbours_map Char.toLower none text
    rw [Option.map_none] at hneighbours
    rw [of, of, hneighbours, List.map_map]
    simp only [Function.comp_def, Prod.map, l.holds_toLower]
  | sequence a b iha ihb | alternative a b iha ihb => rw [of, of, iha he.1, ihb he.2]
  | repetition least most body ih => rw [of, of, ih he]

end Plan

theorem Expr.search_toLower {e : Expr} (he : e.Caseless) (text : List Char) :
    e.search (text.map Char.toLower) = e.search text := by
  rw [search, search, Plan.of_toLower he, Positions.all, Positions.all, List.length_map]

namespace Term

/-- A part that stands for a set leaves the flags as they are. -/
theorem caseless_chars {set? : Option CharSet} {f f' : Flags} {e : Expr}
    (he : (set?.bind fun set => some (Expr.chars set, f)) = some (e, f'))
    (hf : f.caseInsensitive = true) (hset : ∀ set, set? = some set → set.Caseless) :
    e.Caseless ∧ f'.caseInsensitive = true := by
  obtain ⟨set, hsome, hx⟩ := Option.bind_eq_some_iff.mp he
  cases hx
  exact ⟨hset set hsome, hf⟩

/-- A term becomes a caseless expression where letter case does not matter, as long as it does not
clear that flag. What follows the term is read without regard to case as well. -/
theorem caseless_expr? {t : Term} {f f' : Flags} {e : Expr} (he : t.expr? f = some (e, f'))
    (hf : f.caseInsensitive = true) (hkept : t.sets ⟨.caseInsensitive, false⟩ = false) :
    e.Caseless ∧ f'.caseInsensitive = true := by
  induction t generalizing f f' e with
  | empty =>
    cases he
    exact ⟨trivial, hf⟩
  | flags settings =>
    cases he
    exact ⟨trivial, Flags.caseInsensitive_update hf hkept⟩
  | assertion kind =>
    cases he
    exact ⟨trivial, hf⟩
  | literal c => exact caseless_chars he hf fun _ => Flags.caseless_literal? hf
  | dot => exact caseless_chars he hf fun _ => Flags.caseless_dot?
  | perl negated kind => exact caseless_chars he hf fun _ => Flags.caseless_perl?
  | property negated q => exact caseless_chars he hf fun _ => Flags.caseless_property? hf
  | bracketed negated inside => exact caseless_chars he hf fun _ => Flags.caseless_class? hf
  | repetition least most body ih =>
    obtain ⟨⟨x, g⟩, hbody, hx⟩ := Option.bind_eq_some_iff.mp he
    cases hx
    obtain ⟨hcaseless, hafter⟩ := ih hbody hf hkept
    exact ⟨hcaseless, hafter⟩
  | group captured settings body ih =>
    obtain ⟨⟨x, g⟩, hbody, hx⟩ := Option.bind_eq_some_iff.mp he
    obtain ⟨hsettings, hinside⟩ := Bool.or_eq_false_iff.mp hkept
    obtain ⟨hcaseless, -⟩ := ih hbody (Flags.caseInsensitive_update hf hsettings) hinside
    cases hx
    refine ⟨?_, hf⟩
    cases captured with
    | false => exact hcaseless
    | true => exact ⟨trivial, hcaseless, trivial⟩
  | sequence a b iha ihb | alternative a b iha ihb =>
    obtain ⟨⟨x, g⟩, ha, hrest⟩ := Option.bind_eq_some_iff.mp he
    obtain ⟨⟨y, g'⟩, hb, hxy⟩ := Option.bind_eq_some_iff.mp hrest
    obtain ⟨hkepta, hkeptb⟩ := Bool.or_eq_false_iff.mp hkept
    obtain ⟨hx, hg⟩ := iha ha hf hkepta
    obtain ⟨hy, hg'⟩ := ihb hb hg hkeptb
    cases hxy
    exact ⟨⟨hx, hy⟩, hg'⟩

end Term

namespace Pattern

/-- A pattern that does not regard letter case is found in a text when it is found in the text with
its letters in lower case. -/
theorem found_toLower {flags : Flags} {source : String} {p : Pattern} {t : Term}
    (hp : compile flags source = .ok p) (ht : Term.read? source = some t)
    (hflags : flags.caseInsensitive = true)
    (hkept : t.sets ⟨.caseInsensitive, false⟩ = false) (text : List Char) :
    p.found (text.map Char.toLower) = p.found text := by
  obtain ⟨f, he⟩ := expr?_of_compile hp ht
  obtain ⟨hcaseless, -⟩ := Term.caseless_expr? he hflags hkept
  exact Expr.search_toLower hcaseless text

end Pattern
end Proctor
