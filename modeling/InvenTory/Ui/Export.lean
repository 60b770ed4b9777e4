import Mathlib.Data.String.Basic

/-!
# The CSV export

`toCSV` of the shared components: the title lines, the headers and the rows, a line each. The title and the
headers are put in quotes, a value only if it has a comma, a line feed or a quote.
-/

namespace Ui

/-- `null` and `undefined` are no value, and any other is its `String(value)`. -/
structure ExportColumn (T : Type) where
  key : String
  header : String
  accessor : T → Option String

structure ExportOptions (T : Type) where
  columns : List (ExportColumn T)
  data : List T
  title : Option String
  subtitle : Option String

/-- `.replace(/"/g, '""')` -/
def doubleQuotes (s : List Char) : List Char := s.flatMap fun c => if c = '"' then ['"', '"'] else [c]

def quote (s : List Char) : List Char := '"' :: s ++ ['"']

/-- A value is doubled before it is looked at. -/
def csvCell : Option String → List Char
  | none => []
  | some value =>
    let str := doubleQuotes value.toList
    if ',' ∈ str ∨ '\n' ∈ str ∨ '"' ∈ str then quote str else str

/-- A title or a subtitle, unless it is empty. -/
def given (title : Option String) : Option String := title.filter (· ≠ "")

namespace ExportOptions

variable {T : Type} (o : ExportOptions T)

def titleLines : List (List Char) :=
  match given o.title with
  | none => []
  | some title => quote title.toList ::
    ((given o.subtitle).map fun subtitle => quote subtitle.toList).toList ++ [[]]

def csvRow (cells : List (List Char)) : List Char := [','].intercalate cells

def csvLines : List (List Char) :=
  o.titleLines ++ csvRow (o.columns.map fun c => quote (doubleQuotes c.header.toList)) ::
    o.data.map fun row => csvRow (o.columns.map fun col => csvCell (col.accessor row))

def toCSV : String := String.ofList (['\n'].intercalate o.csvLines)

end ExportOptions

end Ui
