/-
Records of comma-separated values.

A field that begins with a quote ends with the next quote that stands alone; a quote written twice
stands for one. Such a field may hold commas and line ends. Behind its closing quote, as in a field
that does not begin with a quote, every character stands for itself. A record ends with a line
feed, a carriage return or the pair of the two; a blank line is a record without fields. A quoted
field that is never closed ends with the text. Of a text that is seen only in part, the records are
those that end in this part.
-/
import StakeRegistry.Files.Blocks

namespace StakeRegistry.Csv

/-- The most characters of a field. -/
def maxField : Nat := 131072

/-- Where in a record the reader stands. -/
inductive Place where
  /-- Before a record. -/
  | recordStart
  /-- Before a field of a record that has begun. -/
  | fieldStart
  /-- In a field without quotes, or behind a closing quote. -/
  | plain
  /-- Between two quotes. -/
  | quoted
  /-- Behind a quote that closes the field unless another follows. -/
  | afterQuote
  deriving Repr, DecidableEq

/-- What has been read of a record: the finished fields and the characters of the open field, the
last first. -/
structure Open where
  place : Place := .recordStart
  fields : List String := []
  field : List Char := []

/-- The record so far, its open field closed. -/
def Open.close (o : Open) : List String :=
  (String.ofList o.field.reverse :: o.fields).reverse

/-- The record so far with its open field closed and the next one begun. -/
def Open.next (o : Open) : Open :=
  { place := .fieldStart, fields := String.ofList o.field.reverse :: o.fields, field := [] }

/-- The record so far with one more character in its open field. -/
def Open.push (o : Open) (place : Place) (c : Char) : Open :=
  { o with place, field := c :: o.field }

/-- The records read from the rest of a text, and why reading stopped before its end. -/
structure Records where
  records : List (List String)
  stopped : Option ReadError := none
  deriving Repr, DecidableEq

/-- The records with one more in front. -/
def Records.cons (r : List String) (rs : Records) : Records :=
  { rs with records := r :: rs.records }

/-- What one character does to an open record that it does not end. -/
def Open.step (o : Open) (c : Char) : Open :=
  match o.place with
  | .recordStart | .fieldStart =>
    if c = '"' then { o with place := .quoted }
    else if c = ',' then o.next
    else o.push .plain c
  | .plain => if c = ',' then o.next else o.push .plain c
  | .quoted => if c = '"' then { o with place := .afterQuote } else o.push .quoted c
  | .afterQuote =>
    if c = '"' then o.push .quoted c
    else if c = ',' then o.next
    else o.push .plain c

/-- The record that ends here: none at all on a blank line. -/
def Open.record (o : Open) : List String :=
  if o.place = .recordStart then [] else o.close

/-- Has the open record a field with too many characters? -/
def Open.isTooLong (o : Open) : Bool :=
  maxField < o.field.length || o.fields.any (maxField < ·.length)

/-- The records of the rest of a text, of which the first is open; `stopped` tells why the text
cannot be seen any further. A record with a field that is too long stops the reading. -/
def recordsFrom (stopped : Option ReadError) (o : Open) : List Char → Records
  | [] =>
    if o.isTooLong then { records := [], stopped := some .fieldTooLong }
    else if o.place = .recordStart ∨ stopped.isSome then { records := [], stopped }
    else { records := [o.close] }
  | '\r' :: '\n' :: r =>
    if o.place = .quoted then recordsFrom stopped ((o.push .quoted '\r').push .quoted '\n') r
    else if o.isTooLong then { records := [], stopped := some .fieldTooLong }
    else (recordsFrom stopped {} r).cons o.record
  | c :: r =>
    if o.place = .quoted ∨ !Text.isLineEnd c then recordsFrom stopped (o.step c) r
    else if o.isTooLong then { records := [], stopped := some .fieldTooLong }
    else (recordsFrom stopped {} r).cons o.record

/-- The records of a text. -/
def records (s : SeenText) : Records :=
  recordsFrom s.stopped {} s.text.toList

end StakeRegistry.Csv
