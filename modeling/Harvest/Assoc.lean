/-!
Association lists: a key keeps the place where it is bound first.
-/

namespace Harvest.Assoc

def bind {α β : Type} [DecidableEq α] (key : α) (value : β) : List (α × β) → List (α × β)
  | [] => [(key, value)]
  | (k, v) :: rest => if k = key then (key, value) :: rest else (k, v) :: bind key value rest

end Harvest.Assoc
