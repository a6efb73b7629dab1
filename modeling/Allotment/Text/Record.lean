/-
The two text shapes that several values of the library share: a record, which is
a name followed by its fields between braces, and a decimal number set flush
right in a column. Every text the library writes is ASCII, so a length in
characters is a length in bytes, and `clip` may cut a text at a byte count.
-/

namespace Allotment.Text

/-- One `name: value` entry of a record. -/
def field (entry : String × String) : String :=
  entry.1 ++ ": " ++ entry.2

/-- A record with all its fields, in the given order. A record without fields is its bare
name. -/
def record (name : String) (fields : List (String × String)) : String :=
  match fields with
  | [] => name
  | _ => name ++ " \x7b " ++ ", ".intercalate (fields.map field) ++ " \x7d"

/-- A record that shows some of its fields and marks that more are left out. -/
def openRecord (name : String) (fields : List (String × String)) : String :=
  name ++ " \x7b " ++ ", ".intercalate (fields.map field ++ [".."]) ++ " \x7d"

/-- A number flush right in a column of the given width; a wider number is not cut. -/
def column (width number : Nat) : String :=
  let digits := toString number
  String.ofList (List.replicate (width - digits.length) ' ') ++ digits

/-- Writes a text to a sink that takes a limited number of bytes: what the sink took, and
whether it took everything. -/
def clip (text : String) (limit : Nat) : String × Bool :=
  (String.ofList (text.toList.take limit), text.length ≤ limit)

end Allotment.Text
