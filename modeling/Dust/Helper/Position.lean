import Dust.Render.Helper
import Dust.Value.Quantity

/-!
# Positions in a list

Helpers that render their body for the first item, the last one, or in between.
-/

namespace Dust.Helper

/-- The helper that renders its body if the place in the list around passes a test. -/
def whenPlaced (test : Iteration → Bool) : Helper :=
  .block fun call => do
    if call.context.iteration?.any test then call.renderMain

/-- The integer of 64 bits that a double is moved to. -/
def integerOfFloat (x : Float) : Int :=
  (Number.Binary64.ofFloat x).truncateWithin Number.leastInteger Number.greatestInteger

/-- Finds the integer of a parameter. What is not a number counts as not given. -/
def integerParam (call : Call) (name : String) (otherwise : Int) : RenderM Int := do
  match (← call.get? name).bind Value.quantity? with
  | some (.integer n) => return n.toInt
  | some (.float x) => return integerOfFloat x
  | none => return otherwise

/-- The helper that renders its body between items. It leaves out some items at the start and at the
end, and stops the program if the number of the last item is beyond the integers. -/
def separator : Helper :=
  .block fun call => do
    match call.context.iteration? with
    | none => throw .outsideIteration
    | some iteration =>
      let start ← integerParam call "start" 0
      let omitted ← integerParam call "end" 1
      let stop : Int := iteration.length - omitted
      if Number.greatestInteger < stop ∧ start ≤ iteration.index then
        liftM (throw Halt.overflow : RenderM Unit)
      else if start ≤ iteration.index ∧ iteration.index < stop then call.renderMain

/-- The helpers of this module by name. -/
def positions : List (String × Helper) :=
  [("first", whenPlaced fun iteration => iteration.index = 0),
   ("last", whenPlaced fun iteration => iteration.index + 1 = iteration.length),
   ("sep", separator)]

end Dust.Helper
