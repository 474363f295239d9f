/-!
# Searching text
-/

namespace RonWorkbench.Text

/-- The first text is a stretch of the second; the empty text is a stretch of every text. -/
def contains (fragment : List Char) : List Char → Bool
  | [] => fragment.isEmpty
  | c :: text => fragment.isPrefixOf (c :: text) || contains fragment text

end RonWorkbench.Text
