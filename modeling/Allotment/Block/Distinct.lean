/-
Sorting with duplicates dropped, for handles of any kind that come with an order.
-/

namespace Allotment

/-- Puts an item into its place in an ascending list, unless its equal is there already. -/
def insertDistinct {α : Type} (precedes : α → α → Bool) (item : α) : List α → List α
  | [] => [item]
  | head :: rest =>
    if precedes item head then item :: head :: rest
    else if precedes head item then head :: insertDistinct precedes item rest
    else head :: rest

/-- The items in ascending order, each once. -/
def sortDistinct {α : Type} (precedes : α → α → Bool) (items : List α) : List α :=
  items.foldr (insertDistinct precedes) []

end Allotment
