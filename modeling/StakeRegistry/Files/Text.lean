/-
Texts in files.

The bytes of a file are read as UTF-8. A text file counts every carriage return, alone or before a
line feed, as a line feed.
-/
import StakeRegistry.ReadError
import StakeRegistry.Text.Lines

namespace StakeRegistry

/-- The text of bytes. -/
def textOfBytes (bs : ByteArray) : Except ReadError String :=
  match String.fromUTF8? bs with
  | some s => .ok s
  | none => .error .notText

/-- The bytes of a text are its text again. -/
theorem textOfBytes_toUTF8 (s : String) : textOfBytes s.toUTF8 = .ok s := by
  have h : String.fromUTF8? s.toUTF8 = some s := dif_pos s.isValidUTF8
  rw [textOfBytes, h]

/-- The text of a file, with every line end a line feed. -/
def textFile (bs : ByteArray) : Except ReadError String := do
  return String.ofList (Text.universalNewlines (← textOfBytes bs).toList)

end StakeRegistry
