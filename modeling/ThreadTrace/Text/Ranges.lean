namespace ThreadTrace.Text.Ranges

def contains (table : Array (Nat × Nat)) (n : Nat) : Bool :=
  table.any fun r => r.1 ≤ n && n ≤ r.2

end ThreadTrace.Text.Ranges
