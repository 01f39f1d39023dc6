/-!
What the user asks for when messages are extracted.
-/

namespace Harvest

inductive CommentPolicy where
  | none
  | all
  | tagged (tag : String)
deriving DecidableEq, Repr, Inhabited

structure Options where
  comments : CommentPolicy := .none
  domain : Option String := none
  keywords : List String := []
deriving DecidableEq, Repr, Inhabited

end Harvest
