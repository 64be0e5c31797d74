/-
Writing records of comma-separated values.

A field is written between quotes if it holds a comma, a quote or a line feed, with every quote
written twice. A carriage return alone needs no quotes. Each record ends with a line feed.
-/
import StakeRegistry.Csv.Reader

namespace StakeRegistry.Csv

/-- Does the character force its field between quotes? -/
def needsQuotes (c : Char) : Bool :=
  c = ',' || c = '"' || c = '\n'

/-- A field between quotes, every quote doubled. -/
def doubled : List Char → List Char
  | [] => []
  | c :: r => if c = '"' then '"' :: '"' :: doubled r else c :: doubled r

/-- A field of a record. -/
def writtenField (s : String) : List Char :=
  if s.toList.any needsQuotes then '"' :: doubled s.toList ++ ['"'] else s.toList

/-- The fields of a record, divided by commas. -/
def writtenFields : List String → List Char
  | [] => []
  | [s] => writtenField s
  | s :: r => writtenField s ++ ',' :: writtenFields r

/-- A record. One that consists of a single empty field is written as a pair of quotes. -/
def writtenRecord (fields : List String) : List Char :=
  (if fields = [""] then ['"', '"'] else writtenFields fields) ++ ['\n']

/-- The text of a list of records. -/
def ofRecords (rs : List (List String)) : String :=
  String.ofList (rs.flatMap writtenRecord)

end StakeRegistry.Csv
