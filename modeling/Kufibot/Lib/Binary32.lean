import Kufibot.Lib.Float64
import Mathlib.Order.WithBot

/-!
# `Lib.Binary32` — conversion to single precision

A single is a rational with a 24-bit significand and an exponent of at least -126 (below that the spacing
stays the same), or an infinity. Conversion rounds to the nearest one, ties to the even significand; what
rounds to `2 ^ 128` or more is infinite.
-/

namespace Lib.Binary32

/-- A single that is a number. -/
abbrev Value := WithBot (WithTop ℚ)

def ofRat (q : ℚ) : Value := ((q : WithTop ℚ) : Value)

/-- The distance of two neighbours at `q`. -/
def ulp (q : ℚ) : ℚ := (2 : ℚ) ^ (max (Float64.exponent q) (-126) - 23)

/-- The nearest single. -/
def round (q : ℚ) : Value :=
  if q = 0 then ofRat 0
  else
    let nearest : ℚ := Float64.roundHalfEven (q / ulp q) * ulp q
    if |nearest| < 2 ^ 128 then ofRat nearest
    else if 0 < q then ⊤
    else ⊥

/-- A single has exactly this value. -/
def Representable (q : ℚ) : Prop := round q = ofRat q

instance (q : ℚ) : Decidable (Representable q) := inferInstanceAs (Decidable (round q = ofRat q))

example : Representable (-3 / 8) := by decide +kernel

/-- The double nearest to 0.8 has too many bits. -/
example : ¬ Representable (Float64.round (4 / 5)) := by decide +kernel

end Lib.Binary32
