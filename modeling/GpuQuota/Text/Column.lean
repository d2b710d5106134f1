/-!
# Columns

Cells of fixed width for tables: a cell shorter than its column is filled with spaces on the left,
a longer one is kept whole.
-/

namespace GpuQuota.Text

/-- The text moved to the right end of a column. -/
def rightAlign (width : Nat) (s : String) : String :=
  String.ofList (List.replicate (width - s.length) ' ') ++ s

/-- A row of right-aligned cells with one space between them. -/
def row (cells : List (Nat × String)) : String :=
  String.intercalate " " (cells.map fun (width, s) => rightAlign width s)

end GpuQuota.Text
