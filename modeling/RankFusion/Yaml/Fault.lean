import RankFusion.Error

/-!
This module contains what keeps the text of a document from being read.
-/

namespace RankFusion.Yaml

inductive EscapeFault where
  | noCharacter
  /-- The number has more than 31 bits. -/
  | tooLarge
  deriving DecidableEq, Repr

def EscapeFault.failure : EscapeFault → Failure
  | noCharacter => .operand .noCharacter
  | tooLarge => .operand .tooLargeForCharacter

inductive ReadFault where
  /-- The text is no document, or a part of it has no value. -/
  | malformed
  /-- A scalar is not what its kind needs, or an escape stands for no character. -/
  | invalid (failure : Failure)

end RankFusion.Yaml
