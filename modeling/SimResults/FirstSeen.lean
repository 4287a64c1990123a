/-! Collections in the order in which their members were first seen. -/

namespace SimResults

/-- Appends an item that is not there yet; one that is keeps its position. -/
def appendNew {α : Type} [BEq α] (seen : List α) (item : α) : List α :=
  if seen.contains item then seen else seen ++ [item]

end SimResults
