import AutomationIndex.Command.Output

/-! The layout of what is printed for people: tables with aligned columns. -/

namespace AutomationIndex.Command

/-- A text with blanks after it, up to a width. -/
def padded (width : Nat) (text : String) : String :=
  text ++ String.ofList (List.replicate (width - text.length) ' ')

/-- The width that a column needs for its heading and its cells, which may have several lines. -/
def columnWidth (column : String × List String) : Nat :=
  ((column.1 :: column.2).flatMap fun cell => (Text.fields '\n' cell).map String.length).foldl max 0

/-- The lines of a row whose cells stand side by side in columns of given widths. -/
def rowLines (widths : List Nat) (cells : List String) : List String :=
  -- A cell of several lines makes the row as high as its highest cell.
  let cellLines := cells.map (Text.fields '\n')
  let height := (cellLines.map List.length).foldl max 0
  (List.range height).map fun line =>
    -- A cell which has no such line is padded over its whole width, so the columns stay aligned.
    "  ".intercalate ((widths.zip cellLines).map fun (width, lines) =>
      padded width (lines.getD line ""))

/-- A table as text: its title, its headings if they show, and its rows. -/
def Table.text (table : Table) : String :=
  let widths := table.columns.map columnWidth
  let headings :=
    if table.showHeadings then rowLines widths (table.columns.map (·.1)) else []
  -- The columns need not be equally long: a missing cell is empty.
  let rows := (table.columns.map fun column => column.2.length).foldl max 0
  let body := (List.range rows).flatMap fun row =>
    rowLines widths (table.columns.map fun column => column.2.getD row "")
  "\n".intercalate (table.title :: headings ++ body)

/-- Something printed for people, as text. -/
def Printed.text : Printed → String
  | .line text => text
  | .table drawn => drawn.text

end AutomationIndex.Command
