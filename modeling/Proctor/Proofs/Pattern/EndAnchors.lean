import Proctor.Proofs.Pattern.FinalNewline
import Proctor.Proofs.Pattern.Search

/-!
# End anchors and the final newline

To leave a final newline aside makes a difference to conditions on the end of the text alone. A
newline is no word character, and multi-line anchors hold before a newline as they hold at the end,
so what matches some span of a text matches the same span when a newline is added. In CRLF mode this
fails: a carriage return ends a line at the end of the text, but not when a newline follows.
-/
namespace Proctor

/-- Whether a condition on a position of a text holds on when a newline is added to the text. -/
def Look.isSteady : Look → Bool
  | .textEnd | .lineStart true | .lineEnd true => false
  | .textStart | .lineStart false | .lineEnd false | .word .. => true

/-- Whether all conditions of an expression hold on when a newline is added to the text. -/
def Expr.isSteady : Expr → Bool
  | .empty | .chars _ => true
  | .look l => l.isSteady
  | .sequence a b | .alternative a b => a.isSteady && b.isSteady
  | .repetition _ _ body => body.isSteady

namespace Look

theorem isWordAt_newline (unicode : Bool) :
    isWordAt unicode (some '\n') = isWordAt unicode none := by
  cases unicode <;> decide

/-- At the end of the text a newline is added after the position. -/
theorem holds_newline {l : Look} (hl : l.isSteady = true) {before : Option Char}
    (h : l.holds before none = true) : l.holds before (some '\n') = true := by
  cases l with
  | textStart => exact h
  | textEnd => cases hl
  | lineStart crlf =>
    cases crlf with
    | true => cases hl
    | false => exact h
  | lineEnd crlf =>
    cases crlf with
    | true => cases hl
    | false => rfl
  | word unicode kind => rwa [holds, isWordAt_newline]

example : holds (some '\r') none (.lineEnd true) = true ∧
    holds (some '\r') (some '\n') (.lineEnd true) = false := by decide

end Look

namespace Expr

variable {text : List Char} {e : Expr}

theorem before_append {i : Nat} (hi : i ≤ text.length) (more : List Char) :
    before (text ++ more) i = before text i := by
  unfold before
  split
  · rfl
  · rw [List.getElem?_append_left (by omega)]

/-- The spans that a steady expression matches stay when a newline is added to the text. -/
theorem Matches.append_newline {i j : Nat} (h : e.Matches text i j) (hsteady : e.isSteady = true) :
    e.Matches (text ++ ['\n']) i j := by
  induction h with
  | empty => exact .empty
  | chars hc hset =>
    obtain ⟨hi, -⟩ := List.getElem?_eq_some_iff.mp hc
    exact .chars (by rwa [List.getElem?_append_left hi]) hset
  | look hi hl =>
    refine .look (by simp; omega) ?_
    rw [before_append hi]
    obtain hlt | rfl := Nat.lt_or_eq_of_le hi
    · rwa [List.getElem?_append_left hlt]
    · rw [List.getElem?_eq_none le_rfl] at hl
      simpa using Look.holds_newline hsteady hl
  | sequence _ _ iha ihb =>
    obtain ⟨ha, hb⟩ := Bool.and_eq_true_iff.mp hsteady
    exact .sequence (iha ha) (ihb hb)
  | left _ ih => exact .left (ih (Bool.and_eq_true_iff.mp hsteady).1)
  | right _ ih => exact .right (ih (Bool.and_eq_true_iff.mp hsteady).2)
  | stop => exact .stop
  | more _ _ ihbody ihrest => exact .more (ihbody hsteady) (ihrest hsteady)
  | another _ _ ihbody ihrest => exact .another (ihbody hsteady) (ihrest hsteady)
  | first _ _ ihbody ihrest => exact .first (ihbody hsteady) (ihrest hsteady)

theorem Found.append_newline (h : e.Found text) (hsteady : e.isSteady = true) :
    e.Found (text ++ ['\n']) := by
  obtain ⟨i, j, hi, hmatches⟩ := h
  exact ⟨i, j, by simp; omega, hmatches.append_newline hsteady⟩

end Expr

namespace Term

/-- The flags that hold after a term. -/
def flagsAfter (f : Flags) : Term → Flags
  | .flags settings => f.update settings
  | .repetition _ _ body => body.flagsAfter f
  | .sequence a b | .alternative a b => b.flagsAfter (a.flagsAfter f)
  | _ => f

/-- Whether some part of a term asks for the end of the text. -/
def assertsEnd (f : Flags) : Term → Bool
  | .assertion .lineEnd => !f.multiLine
  | .assertion .textEnd => true
  | .repetition _ _ body => body.assertsEnd f
  | .group _ settings body => body.assertsEnd (f.update settings)
  | .sequence a b | .alternative a b => a.assertsEnd f || b.assertsEnd (a.flagsAfter f)
  | _ => false

/-- Whether a flag is given a value anywhere in a term. -/
def sets (setting : FlagSetting) : Term → Bool
  | .flags settings => settings.contains setting
  | .group _ settings body => settings.contains setting || body.sets setting
  | .repetition _ _ body => body.sets setting
  | .sequence a b | .alternative a b => a.sets setting || b.sets setting
  | _ => false

end Term

namespace Flags

/-- A flag keeps its value until a setting gives it the other one. -/
theorem update_keeps {value : Flags → Bool} {flag : PatternFlag} {b : Bool}
    (hset : ∀ f setting, value (f.set setting) =
      if setting.flag = flag then setting.value else value f)
    {f : Flags} (hf : value f = b) {settings : List FlagSetting}
    (h : settings.contains ⟨flag, !b⟩ = false) : value (f.update settings) = b := by
  unfold update
  induction settings generalizing f with
  | nil => exact hf
  | cons setting rest ih =>
    rw [List.contains_cons, Bool.or_eq_false_iff] at h
    obtain ⟨hother, hrest⟩ := h
    refine ih ?_ hrest
    rw [hset]
    split
    · next hflag =>
      obtain ⟨_, v⟩ := setting
      obtain rfl := hflag
      cases v <;> cases b <;> simp at hother ⊢
    · exact hf

theorem crlf_set (f : Flags) (setting : FlagSetting) :
    (f.set setting).crlf = if setting.flag = .crlf then setting.value else f.crlf := by
  obtain ⟨flag, v⟩ := setting
  cases flag <;> rfl

/-- CRLF mode stays off until a setting turns it on. -/
theorem crlf_update {f : Flags} (hf : f.crlf = false) {settings : List FlagSetting}
    (h : settings.contains ⟨.crlf, true⟩ = false) : (f.update settings).crlf = false :=
  update_keeps crlf_set hf h

theorem isSteady_look {f : Flags} (hf : f.crlf = false) {kind : AssertionTerm}
    (h : (Term.assertion kind).assertsEnd f = false) : (f.look kind).isSteady = true := by
  cases kind with
  | lineStart =>
    rw [look, hf]
    split <;> rfl
  | lineEnd =>
    have hmulti : f.multiLine = true := by simpa [Term.assertsEnd] using h
    rw [look, hf, if_pos hmulti]
    rfl
  | textEnd => cases h
  | _ => rfl

end Flags

namespace Term

/-- A term that does not ask for the end of the text becomes a steady expression, as long as CRLF
mode is off. -/
theorem isSteady_expr? {t : Term} {f f' : Flags} {e : Expr} (he : t.expr? f = some (e, f'))
    (hf : f.crlf = false) (hend : t.assertsEnd f = false) (hcrlf : t.sets ⟨.crlf, true⟩ = false) :
    e.isSteady = true ∧ f' = t.flagsAfter f ∧ f'.crlf = false := by
  induction t generalizing f f' e with
  | empty =>
    cases he
    exact ⟨rfl, rfl, hf⟩
  | flags settings =>
    cases he
    exact ⟨rfl, rfl, Flags.crlf_update hf hcrlf⟩
  | assertion kind =>
    cases he
    exact ⟨Flags.isSteady_look hf hend, rfl, hf⟩
  | literal | dot | perl | property | bracketed =>
    obtain ⟨set, -, hset⟩ := Option.bind_eq_some_iff.mp he
    cases hset
    exact ⟨rfl, rfl, hf⟩
  | repetition least most body ih =>
    obtain ⟨⟨x, g⟩, hbody, hx⟩ := Option.bind_eq_some_iff.mp he
    cases hx
    obtain ⟨hsteady, hafter⟩ := ih hbody hf hend hcrlf
    exact ⟨hsteady, hafter⟩
  | group captured settings body ih =>
    obtain ⟨⟨x, g⟩, hbody, hx⟩ := Option.bind_eq_some_iff.mp he
    obtain ⟨hsettings, hinside⟩ := Bool.or_eq_false_iff.mp hcrlf
    obtain ⟨hsteady, -⟩ := ih hbody (Flags.crlf_update hf hsettings) hend hinside
    cases hx
    refine ⟨?_, rfl, hf⟩
    cases captured <;> simp [Expr.isSteady, hsteady]
  | sequence a b iha ihb | alternative a b iha ihb =>
    obtain ⟨⟨x, g⟩, ha, hrest⟩ := Option.bind_eq_some_iff.mp he
    obtain ⟨⟨y, g'⟩, hb, hxy⟩ := Option.bind_eq_some_iff.mp hrest
    obtain ⟨henda, hendb⟩ := Bool.or_eq_false_iff.mp hend
    obtain ⟨hcrlfa, hcrlfb⟩ := Bool.or_eq_false_iff.mp hcrlf
    obtain ⟨hx, rfl, hg⟩ := iha ha hf henda hcrlfa
    obtain ⟨hy, rfl, hg'⟩ := ihb hb hg hendb hcrlfb
    cases hxy
    exact ⟨by simp [Expr.isSteady, hx, hy], rfl, hg'⟩

end Term

namespace Pattern

/-- What is read of a text is what its pattern searches for. -/
theorem expr?_of_compile {flags : Flags} {source : String} {p : Pattern} {t : Term}
    (hp : compile flags source = .ok p) (ht : Term.read? source = some t) :
    ∃ f, t.expr? flags = some (p.expr, f) := by
  have hmeaning := (compileWithin_eq_ok_iff.mp hp).1
  simp only [meaning?, ht, Option.bind_eq_bind, Option.bind_some] at hmeaning
  obtain ⟨⟨e, f⟩, he, hsame⟩ := Option.bind_eq_some_iff.mp hmeaning
  obtain rfl : e = p.expr := Option.some.inj hsame
  exact ⟨f, he⟩

theorem found_append_newline {p : Pattern} (hsteady : p.expr.isSteady = true) {text : List Char}
    (h : p.found text = true) : p.found (text ++ ['\n']) = true := by
  have hfound : p.expr.Found text := (p.expr.search_iff_found text).mp h
  exact (p.expr.search_iff_found _).mpr (hfound.append_newline hsteady)

/-- Output is accepted exactly when the pattern is found in its whole text, as long as the pattern
does not ask for the end of the text and does not turn CRLF mode on. To leave a final newline aside
never helps such a pattern. -/
theorem accepts_eq_found {source : String} {p : Pattern} {t : Term} (hp : ofText source = .ok p)
    (ht : Term.read? source = some t) (hend : t.assertsEnd .output = false)
    (hcrlf : t.sets ⟨.crlf, true⟩ = false) (output : List UInt8) :
    p.accepts output = p.found (Utf8.decode output) := by
  obtain ⟨f, he⟩ := expr?_of_compile hp ht
  obtain ⟨hsteady, -⟩ := Term.isSteady_expr? he rfl hend hcrlf
  by_cases hlast : (Utf8.decode output).getLast? = some '\n'
  · obtain ⟨init, htext⟩ := List.getLast?_eq_some_iff.mp hlast
    have hkept : p.found init = true → p.found (init ++ ['\n']) = true :=
      found_append_newline hsteady
    rw [accepts, htext, withoutNewline?_append, Option.any_some, Bool.or_eq_left_iff_imp]
    exact hkept
  · simp [accepts, withoutNewline?_eq_none hlast]

/-- A multi-line anchor may stand at the end of the text: a newline there is one more place for it
to hold. -/
theorem accepts_eq_found_multiLine : ∃ p t, ofText "(?m)^a\\b$" = .ok p ∧
    Term.read? "(?m)^a\\b$" = some t ∧ t.assertsEnd .output = false ∧
    t.sets ⟨.crlf, true⟩ = false ∧
    p.accepts [0x61, 0x0A] = true ∧ p.accepts [0x62, 0x0A] = false := by
  have hread : (Term.read? "(?m)^a\\b$").any (fun t =>
      !t.assertsEnd .output && !t.sets ⟨.crlf, true⟩) = true := by decide +kernel
  have hsearch : (ofText "(?m)^a\\b$").toOption.any (fun p =>
      p.found ['a', '\n'] && !p.found ['b', '\n']) = true := by decide +kernel
  have htext : Utf8.decode [0x61, 0x0A] = ['a', '\n'] ∧ Utf8.decode [0x62, 0x0A] = ['b', '\n'] := by
    decide
  obtain ⟨t, ht, hterm⟩ := (Option.any_eq_true _ _).mp hread
  obtain ⟨p, hp, hsearch⟩ := exists_of_any hsearch
  simp only [Bool.and_eq_true, Bool.not_eq_true'] at hterm hsearch
  obtain ⟨hend, hcrlf⟩ := hterm
  obtain ⟨hfound, hmissed⟩ := hsearch
  refine ⟨p, t, hp, ht, hend, hcrlf, ?_, ?_⟩
  · rw [accepts_eq_found hp ht hend hcrlf, htext.1, hfound]
  · rw [accepts_eq_found hp ht hend hcrlf, htext.2, hmissed]

end Pattern
end Proctor
