namespace BareStrings.Unicode

/-- Membership of a code point in a list of spans, each given by its first and last member. -/
def inSpans (spans : List (Nat × Nat)) (code : Nat) : Bool :=
  spans.any fun span => span.1 ≤ code && code ≤ span.2

end BareStrings.Unicode
