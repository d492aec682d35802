/-!
# Rounded division

`Rounding.divide` gives the natural nearest to a quotient; a tie goes to the even neighbour.
-/

namespace AccessPolicy
namespace Rounding

/-- The nearest natural to a quotient; a tie goes to the even neighbour. -/
def divide (num den : Nat) : Nat :=
  let quotient := num / den
  let twice := 2 * (num % den)
  if twice < den then quotient
  else if den < twice then quotient + 1
  else if quotient % 2 = 0 then quotient
  else quotient + 1

end Rounding
end AccessPolicy
