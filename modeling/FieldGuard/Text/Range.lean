namespace FieldGuard.Text

abbrev RangeTable := List (Nat × Nat)

def RangeTable.holds (table : RangeTable) (c : Char) : Bool :=
  table.any fun r => decide (r.1 ≤ c.toNat ∧ c.toNat ≤ r.2)

theorem RangeTable.holds_eq_true_iff (table : RangeTable) (c : Char) :
    table.holds c = true ↔ ∃ r ∈ table, r.1 ≤ c.toNat ∧ c.toNat ≤ r.2 := by
  simp [holds]

end FieldGuard.Text
