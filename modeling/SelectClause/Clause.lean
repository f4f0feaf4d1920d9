/-! # The text of a SELECT clause

A SELECT clause lists its items and names the table that they come from. A space at its end lets
other clauses follow.

`select_of_items` is the shape of a clause that has items, `select_nil` that of one without.
-/

namespace SelectClause.Clause

/-- The clause of written items and a written table; empty parts are left out. -/
def select (items : List String) (table : String) : String :=
  let parts := ["SELECT", ", ".intercalate items, "FROM", table]
  " ".intercalate (parts.filter (· ≠ "")) ++ " "

/-- A name that may be absent, as it is printed into a text. -/
def printed (name : Option String) : String := name.getD "None"

/-- A clause without items names the table alone. -/
theorem select_nil {table : String} (named : table ≠ "") :
    select [] table = "SELECT FROM " ++ table ++ " " := by
  apply String.toList_injective
  simp [select, named]

/-- A clause with items lists them between the two words. -/
theorem select_of_items {items : List String} {table : String}
    (listed : ", ".intercalate items ≠ "") (named : table ≠ "") :
    select items table = "SELECT " ++ ", ".intercalate items ++ " FROM " ++ table ++ " " := by
  apply String.toList_injective
  simp [select, listed, named]

end SelectClause.Clause
