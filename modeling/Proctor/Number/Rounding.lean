/-!
# Rounding a quotient

A quotient of naturals is rounded to the nearest integer, and an exact tie goes to
the even neighbour. Decimal texts become doubles, and doubles become nanoseconds,
through this one rule.
-/
namespace Proctor.Number

/-- The integer nearest to `num / den`; a tie goes to the even neighbour. -/
def roundDiv (num den : Nat) : Nat :=
  let q := num / den
  let r := num % den
  if 2 * r < den then q
  else if den < 2 * r then q + 1
  else if q % 2 = 0 then q else q + 1

@[simp] theorem roundDiv_one (n : Nat) : roundDiv n 1 = n := by
  simp [roundDiv, Nat.mod_one]

end Proctor.Number
