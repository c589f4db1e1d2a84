namespace TraitSchema.Text

def isAscii (c : Char) : Bool := c.toNat < 128

/-- The character lies in one of the ranges, both ends included. -/
def inRanges (ranges : List (Nat × Nat)) (c : Char) : Bool :=
  ranges.any fun range => range.1 ≤ c.toNat && c.toNat ≤ range.2

end TraitSchema.Text
