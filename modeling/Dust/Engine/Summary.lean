import Dust.Engine.Basic
import Dust.Text.Quotation

/-!
# Summaries of engines

What an engine knows by name and how it is set, on one line.
-/

namespace Dust

/-- The name of what becomes of the layout. -/
def Whitespace.name : Whitespace → String
  | preserve => "Preserve"
  | compress => "Compress"

namespace Engine

/-- The fields that a summary shows, with what it says of them. -/
def summaryFields (engine : Engine) : List (String × List Char) :=
  [("templates", Text.quotations (engine.store.templates.keys)),
   ("helpers", Text.quotations (engine.helpers.keys)),
   ("filters", Text.quotations (engine.filters.known.keys)),
   ("automatic_filters", Text.quotations engine.filters.automatic),
   ("max_include_depth", Nat.toDigits 10 engine.maxDepth),
   ("whitespace", engine.sources.whitespace.name.toList)]

/-- The summary of an engine. Two dots stand for the fields it does not show. -/
def summary (engine : Engine) : String :=
  let fields := engine.summaryFields.map fun (name, content) =>
    name.toList ++ ": ".toList ++ content
  String.ofList
    ("Engine ".toList ++ ['\x7b', ' '] ++ List.intercalate ", ".toList (fields ++ [['.', '.']])
      ++ [' ', '\x7d'])

end Engine

end Dust
