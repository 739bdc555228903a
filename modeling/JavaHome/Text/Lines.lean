/-!
# Line ends
-/

namespace JavaHome.Text

/-- A text with a line feed at the end of each line, where a carriage return may have stood before
it or in its place. -/
def unifyLineEnds : List Char → List Char
  | [] => []
  | '\r' :: '\n' :: rest => '\n' :: unifyLineEnds rest
  | c :: rest => (if c = '\r' then '\n' else c) :: unifyLineEnds rest

end JavaHome.Text
