import InvenTory.Desktop.Import
import InvenTory.Ui.Export

/-!
# What is exported can be imported

The reader of the import takes each line of an export for the row it was made of (`Reads`), without the white
space around its values, and leaves out the rows that have nothing in them (`csv_round_trip`). Only a title
with a quote in it, and a carriage return in a value that is not in quotes, it reads as something else.
-/

namespace Ui

open Desktop.Import (parseFrom parseFrom_nil parseCsv keepRow pushField)
open Sync (jsTrim)

variable {T : Type} {field s rest : List Char} {current : List String}

/-! ## Values -/

/-- What may come after a value. -/
def Ends (rest : List Char) : Prop := rest = [] ∨ (∃ more, rest = ',' :: more) ∨ ∃ more, rest = '\n' :: more

theorem Ends.not_quote (h : Ends rest) : ∀ more, rest ≠ '"' :: more := by
  rintro more rfl
  obtain h | ⟨m, h⟩ | ⟨m, h⟩ := h
  · cases h
  · cases h
  · cases h

theorem parse_quote_char {c : Char} (hc : c ≠ '"') :
    parseFrom true field current (c :: rest) = parseFrom true (field ++ [c]) current rest := by
  rw [parseFrom]
  · intro _ h _
    exact hc h
  · exact hc

theorem parse_char {c : Char} (hquote : c ≠ '"') (hcomma : c ≠ ',') (hline : c ≠ '\n') (hreturn : c ≠ '\r') :
    parseFrom false field current (c :: rest) = parseFrom false (field ++ [c]) current rest := by
  rw [parseFrom]
  · rw [if_neg (not_or.2 ⟨hline, hreturn⟩)]
  · exact hquote
  · exact hcomma
  · intro _ h _
    exact hreturn h

theorem parse_close (h : Ends rest) :
    parseFrom true field current ('"' :: rest) = parseFrom false field current rest := by
  rw [parseFrom]
  exact h.not_quote

/-- In quotes the doubled quotes are single ones. -/
theorem parse_doubled (h : Ends rest) : ∀ s field : List Char,
    parseFrom true field current (doubleQuotes s ++ '"' :: rest) = parseFrom false (field ++ s) current rest
  | [], field => by
    rw [List.append_nil]
    exact parse_close h
  | c :: s, field => by
    have hcons : doubleQuotes (c :: s) = (if c = '"' then ['"', '"'] else [c]) ++ doubleQuotes s :=
      List.flatMap_cons
    have hrest := parse_doubled h s (field ++ [c])
    rw [List.append_assoc, List.singleton_append] at hrest
    rw [hcons, ← hrest]
    by_cases hc : c = '"'
    · subst hc
      rw [if_pos rfl, List.append_assoc, List.cons_append, List.cons_append, List.nil_append, parseFrom]
    · rw [if_neg hc, List.append_assoc, List.singleton_append, parse_quote_char hc]

theorem parse_quoted (h : Ends rest) :
    parseFrom false [] current (quote (doubleQuotes s) ++ rest) = parseFrom false s current rest := by
  unfold quote
  rw [List.append_assoc, List.cons_append, List.singleton_append, parseFrom, parse_doubled h s [],
    List.nil_append]

theorem parse_plain : ∀ {s field : List Char},
    (∀ c ∈ s, c ≠ '"' ∧ c ≠ ',' ∧ c ≠ '\n' ∧ c ≠ '\r') →
      parseFrom false field current (s ++ rest) = parseFrom false (field ++ s) current rest
  | [], field, _ => by rw [List.append_nil, List.nil_append]
  | c :: s, field, h => by
    obtain ⟨hquote, hcomma, hline, hreturn⟩ := h c List.mem_cons_self
    rw [List.cons_append, parse_char hquote hcomma hline hreturn,
      parse_plain fun d hd => h d (List.mem_cons_of_mem c hd), List.append_assoc, List.singleton_append]

theorem doubleQuotes_eq (h : '"' ∉ s) : doubleQuotes s = s := by
  induction s with
  | nil => rfl
  | cons c s ih =>
    simp only [List.mem_cons, not_or] at h
    rw [doubleQuotes, List.flatMap_cons, if_neg (Ne.symm h.1)]
    exact congrArg (c :: ·) (ih h.2)

theorem mem_doubleQuotes {c : Char} : c ∈ doubleQuotes s ↔ c ∈ s := by
  simp only [doubleQuotes, List.mem_flatMap]
  constructor
  · rintro ⟨d, hd, hc⟩
    split at hc
    · rename_i hquote
      simp only [List.mem_cons, List.not_mem_nil, or_false, or_self] at hc
      rw [hc, ← hquote]
      exact hd
    · rw [List.mem_singleton.1 hc]
      exact hd
  · intro hc
    refine ⟨c, hc, ?_⟩
    split
    · rename_i hquote
      simp [hquote]
    · exact List.mem_singleton_self c

/-- The value has no carriage return, or is put in quotes. -/
def Covered (value : Option String) : Prop :=
  ∀ v, value = some v → '\r' ∈ v.toList → ',' ∈ v.toList ∨ '\n' ∈ v.toList ∨ '"' ∈ v.toList

theorem parse_cell {value : Option String} (hcovered : Covered value) (h : Ends rest) :
    parseFrom false [] current (csvCell value ++ rest) =
      parseFrom false (value.getD "").toList current rest := by
  cases value with
  | none => rfl
  | some v =>
    simp only [csvCell, mem_doubleQuotes, Option.getD_some]
    split
    · exact parse_quoted h
    · rename_i hplain
      obtain ⟨hcomma, hline, hquote⟩ : ',' ∉ v.toList ∧ '\n' ∉ v.toList ∧ '"' ∉ v.toList := by
        simpa only [not_or] using hplain
      have hreturn : '\r' ∉ v.toList := fun hr => hplain (hcovered v rfl hr)
      rw [doubleQuotes_eq hquote, parse_plain, List.nil_append]
      intro c hc
      exact ⟨ne_of_mem_of_not_mem hc hquote, ne_of_mem_of_not_mem hc hcomma,
        ne_of_mem_of_not_mem hc hline, ne_of_mem_of_not_mem hc hreturn⟩

/-! ## Lines -/

/-- The reader takes a cell for a text. -/
def CellReads (cell : List Char) (text : String) : Prop := ∀ current rest, Ends rest →
  parseFrom false [] current (cell ++ rest) = parseFrom false text.toList current rest

/-- The reader takes a line for a row. -/
def Reads (line : List Char) (row : List String) : Prop :=
  parseFrom false [] [] line = keepRow row ∧
    ∀ more, parseFrom false [] [] (line ++ '\n' :: more) = keepRow row ++ parseFrom false [] [] more

theorem parse_line {more : List Char} : parseFrom false field current ('\n' :: more) =
    keepRow (pushField current field) ++ parseFrom false [] [] more := by
  rw [parseFrom]
  · rw [if_pos (.inl rfl)]
  · decide
  · decide
  · intro _ h
    exact absurd h (by decide)

theorem parse_comma {more : List Char} : parseFrom false field current (',' :: more) =
    parseFrom false [] (pushField current field) more := by
  rw [parseFrom]

theorem pushField_toList {text : String} : pushField current text.toList = current ++ [jsTrim text] := by
  rw [pushField, String.ofList_toList]

/-- A row of cells, up to the end of its line. -/
theorem parse_cells {cells : List (List Char)} {texts : List String} {cell : List Char} {text : String}
    (hcell : CellReads cell text) (hcells : List.Forall₂ CellReads cells texts)
    (hrest : rest = [] ∨ ∃ more, rest = '\n' :: more) (current : List String) :
    parseFrom false [] current ([','].intercalate (cell :: cells) ++ rest) =
      keepRow (current ++ (text :: texts).map jsTrim) ++
        match rest with
        | [] => []
        | _ :: more => parseFrom false [] [] more := by
  induction hcells generalizing cell text current with
  | nil =>
    rw [List.intercalate_singleton, hcell current rest (hrest.imp_right .inr)]
    obtain rfl | ⟨more, rfl⟩ := hrest
    · rw [parseFrom_nil, pushField_toList, List.append_nil]
      rfl
    · rw [parse_line, pushField_toList]
      rfl
  | cons hcell' hcells ih =>
    rename_i cell' text' cells texts
    have hsplit : [','].intercalate (cell :: cell' :: cells) ++ rest =
        cell ++ ',' :: ([','].intercalate (cell' :: cells) ++ rest) := by
      rw [List.intercalate_cons_cons]
      simp
    rw [hsplit, hcell current _ (.inr (.inl ⟨_, rfl⟩)), parse_comma, pushField_toList, ih hcell' _]
    simp

theorem reads_row {cells : List (List Char)} {texts : List String}
    (h : List.Forall₂ CellReads cells texts) :
    Reads (ExportOptions.csvRow cells) (texts.map jsTrim) := by
  unfold ExportOptions.csvRow
  cases h with
  | nil =>
    refine ⟨?_, fun more => ?_⟩
    · rw [List.intercalate_nil, parseFrom_nil]
      decide
    · rw [List.intercalate_nil, List.nil_append, parse_line]
      exact congrArg (· ++ parseFrom false [] [] more) (by decide)
  | cons hcell hcells =>
    refine ⟨?_, fun more => ?_⟩
    · have h := parse_cells hcell hcells (.inl rfl) []
      rw [List.append_nil, List.append_nil, List.nil_append] at h
      exact h
    · have h := parse_cells hcell hcells (.inr ⟨more, rfl⟩) []
      rw [List.nil_append] at h
      exact h

theorem parse_lines {line : List Char} {row : List String} {lines : List (List Char)}
    {rows : List (List String)} (hline : Reads line row) (hlines : List.Forall₂ Reads lines rows) :
    parseFrom false [] [] (['\n'].intercalate (line :: lines)) = (row :: rows).flatMap keepRow := by
  induction hlines generalizing line row with
  | nil =>
    rw [List.intercalate_singleton, hline.1]
    simp
  | cons hline' hlines ih =>
    rename_i line' row' lines rows
    have hsplit : ['\n'].intercalate (line :: line' :: lines) =
        line ++ '\n' :: ['\n'].intercalate (line' :: lines) := by
      rw [List.intercalate_cons_cons]
      simp
    rw [hsplit, hline.2, ih hline']
    exact List.flatMap_cons.symm

theorem flatMap_keepRow (rows : List (List String)) :
    rows.flatMap keepRow = rows.filter fun row => row.any (· ≠ "") := by
  induction rows with
  | nil => rfl
  | cons row rows ih =>
    rw [List.flatMap_cons, ih, List.filter_cons, keepRow]
    split
    · rfl
    · rfl

/-! ## Exports -/

theorem cellReads_quoted (text : String) : CellReads (quote (doubleQuotes text.toList)) text :=
  fun _ _ h => parse_quoted h

theorem reads_quoted {title : String} (h : '"' ∉ title.toList) : Reads (quote title.toList) [jsTrim title] := by
  have hcell : CellReads (quote title.toList) title := by
    have hquoted := cellReads_quoted title
    rw [doubleQuotes_eq h] at hquoted
    exact hquoted
  have hrow := reads_row (.cons hcell .nil)
  rw [ExportOptions.csvRow, List.intercalate_singleton] at hrow
  exact hrow

theorem reads_empty : Reads [] [""] := by
  refine ⟨?_, fun more => ?_⟩
  · rw [parseFrom_nil]
    decide
  · rw [List.nil_append, parse_line]
    exact congrArg (· ++ parseFrom false [] [] more) (by decide)

namespace ExportOptions

/-- What the lines of the export say. -/
def texts (o : ExportOptions T) : List (List String) :=
  (match given o.title with
    | none => []
    | some title => [title] :: ((given o.subtitle).map fun subtitle => [subtitle]).toList ++ [[""]]) ++
  o.columns.map (·.header) :: o.data.map fun row => o.columns.map fun col => (col.accessor row).getD ""

end ExportOptions

theorem given_eq {title : Option String} {t : String} (h : given title = some t) : title = some t :=
  (Option.filter_eq_some_iff.1 h).1

theorem reads_titles (o : ExportOptions T) (htitle : ∀ t, o.title = some t → '"' ∉ t.toList)
    (hsubtitle : ∀ t, o.subtitle = some t → '"' ∉ t.toList) :
    List.Forall₂ Reads o.titleLines ((match given o.title with
      | none => []
      | some title => [title] :: ((given o.subtitle).map fun subtitle => [subtitle]).toList ++ [[""]]).map
        (List.map jsTrim)) := by
  unfold ExportOptions.titleLines
  cases ht : given o.title with
  | none => exact .nil
  | some title =>
    have hempty : Reads [] [jsTrim ""] := reads_empty
    refine .cons (reads_quoted (htitle title (given_eq ht))) ?_
    cases hs : given o.subtitle with
    | none => exact .cons hempty .nil
    | some subtitle =>
      exact .cons (reads_quoted (hsubtitle subtitle (given_eq hs))) (.cons hempty .nil)

/-- **What is exported can be imported**: the import reads the titles, the headers and the rows of an export,
trimmed, except for those with nothing in them. -/
theorem csv_round_trip (o : ExportOptions T) (htitle : ∀ t, o.title = some t → '"' ∉ t.toList)
    (hsubtitle : ∀ t, o.subtitle = some t → '"' ∉ t.toList)
    (hcells : ∀ row ∈ o.data, ∀ col ∈ o.columns, ∀ v, col.accessor row = some v → '\r' ∈ v.toList →
      ',' ∈ v.toList ∨ '\n' ∈ v.toList ∨ '"' ∈ v.toList) :
    parseCsv o.toCSV = (o.texts.map (List.map jsTrim)).filter fun row => row.any (· ≠ "") := by
  have hheader : Reads (ExportOptions.csvRow (o.columns.map fun c => quote (doubleQuotes c.header.toList)))
      ((o.columns.map (·.header)).map jsTrim) := by
    refine reads_row (List.forall₂_map_left_iff.2 (List.forall₂_map_right_iff.2 ?_))
    exact List.forall₂_same.2 fun c _ => cellReads_quoted c.header
  have hdata : List.Forall₂ Reads
      (o.data.map fun row => ExportOptions.csvRow (o.columns.map fun col => csvCell (col.accessor row)))
      ((o.data.map fun row => o.columns.map fun col => (col.accessor row).getD "").map (List.map jsTrim)) := by
    rw [List.map_map, List.forall₂_map_left_iff, List.forall₂_map_right_iff]
    refine List.forall₂_same.2 fun row hrow => reads_row ?_
    refine List.forall₂_map_left_iff.2 (List.forall₂_map_right_iff.2 (List.forall₂_same.2 ?_))
    exact fun col hcol _ _ h => parse_cell (hcells row hrow col hcol) h
  have hall : List.Forall₂ Reads o.csvLines (o.texts.map (List.map jsTrim)) := by
    unfold ExportOptions.csvLines ExportOptions.texts
    rw [List.map_append, List.map_cons]
    exact List.rel_append (reads_titles o htitle hsubtitle) (.cons hheader hdata)
  unfold parseCsv ExportOptions.toCSV
  rw [String.toList_ofList, ← flatMap_keepRow]
  generalize o.csvLines = lines, o.texts.map (List.map jsTrim) = rows at hall
  cases hall with
  | nil =>
    rw [List.intercalate_nil, parseFrom_nil]
    decide
  | cons hline hrest => exact parse_lines hline hrest

/-! ## A price list -/

namespace Sample

def prices : ExportOptions (String × Option String) where
  columns := [⟨"name", "Name", fun p => some p.1⟩, ⟨"note", "Note \"net\"", Prod.snd⟩]
  data := [("Bolt, 5\"", none), (" Nut", some "two\r\nlines"), ("", none)]
  title := some "Prices"
  subtitle := none

end Sample

open Ui.Sample

theorem prices_read : parseCsv prices.toCSV =
    (prices.texts.map (List.map jsTrim)).filter (fun row => row.any (· ≠ "")) ∧
      parseCsv prices.toCSV =
        [["Prices"], ["Name", "Note \"net\""], ["Bolt, 5\"", ""], ["Nut", "two\r\nlines"]] :=
  ⟨csv_round_trip prices (by decide) (by decide) (by decide), by decide⟩

end Ui
