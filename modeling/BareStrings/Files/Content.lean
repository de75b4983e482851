namespace BareStrings.Files

/-- A text with line feeds for its line ends, which are line feeds, carriage returns, or a carriage
return and a line feed together. -/
def lineFeeds : List Char → List Char
  | [] => []
  | '\r' :: '\n' :: rest => '\n' :: lineFeeds rest
  | '\r' :: rest => '\n' :: lineFeeds rest
  | c :: rest => c :: lineFeeds rest

/-- The text that bytes encode, if they are UTF-8. -/
def decode? (bytes : ByteArray) : Option (List Char) :=
  (String.fromUTF8? bytes).map fun text => lineFeeds text.toList

/-- No carriage return is left. -/
theorem not_mem_lineFeeds (text : List Char) : '\r' ∉ lineFeeds text := by
  fun_induction lineFeeds text <;> simp_all [eq_comm]

end BareStrings.Files
