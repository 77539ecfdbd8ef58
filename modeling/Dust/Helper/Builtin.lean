import Dust.Helper.Calculation
import Dust.Helper.Change
import Dust.Helper.Comparison
import Dust.Helper.Inspection
import Dust.Helper.Position

/-!
# The helpers that are always there
-/

namespace Dust.Helper

/-- The helpers that are always there, by name. -/
def builtins : Dict Helper :=
  Dict.ofList (comparisons ++ [("math", math)] ++ positions ++ inspections ++ changes)

end Dust.Helper
