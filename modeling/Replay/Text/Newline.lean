/-
  This file defines the reading of line ends: a carriage
  return, alone or with a line feed after it, counts as one
  line feed.

  Key definitions include:
    * `unifyNewlines`
-/

------------------------------------------------------------
-- Line Ends
------------------------------------------------------------

namespace Replay

namespace Text

/- Every line end becomes one line feed. -/
def unifyNewlines : List Char → List Char
  | [] => []
  | '\r' :: '\n' :: rest => '\n' :: unifyNewlines rest
  | c :: rest =>
    (if c = '\r' then '\n' else c) :: unifyNewlines rest

end Text

end Replay
