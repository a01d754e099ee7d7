/-!
# Line ends

Text files end their lines in a line feed, a carriage return or both in this order. Reading a text
file folds the three into the line feed.
-/

namespace BusContract

/-- The text with every line end written as a line feed. -/
def foldLineEnds : List Char → List Char
  | [] => []
  | '\r' :: '\n' :: rest => '\n' :: foldLineEnds rest
  | '\r' :: rest => '\n' :: foldLineEnds rest
  | c :: rest => c :: foldLineEnds rest

/-- The text without a line feed at its end. -/
def chomp (text : List Char) : List Char :=
  if text.getLast? = some '\n' then text.dropLast else text

end BusContract
