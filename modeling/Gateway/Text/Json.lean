/-!
# JSON text

Writing JSON without spaces, members in the order given. Every function returns finished text, so
an object is built from the texts of its members.
-/

namespace Gateway.Text.Json

/-- The escape of a control character: a letter where JSON has one, four hexadecimal digits
otherwise. -/
def controlEscape (c : Char) : List Char :=
  match c with
  | '\x08' => ['\\', 'b']
  | '\t' => ['\\', 't']
  | '\n' => ['\\', 'n']
  | '\x0c' => ['\\', 'f']
  | '\r' => ['\\', 'r']
  | _ =>
    let n := c.toNat
    ['\\', 'u', '0', '0', Nat.digitChar (n / 16), Nat.digitChar (n % 16)]

/-- One character inside a JSON string. -/
def escapedChar (c : Char) : List Char :=
  if c = '"' then ['\\', '"']
  else if c = '\\' then ['\\', '\\']
  else if c.toNat < 0x20 then controlEscape c
  else [c]

/-- A string. -/
def string (s : String) : String :=
  String.ofList ('"' :: s.toList.flatMap escapedChar ++ ['"'])

/-- A whole number. -/
def nat (n : Nat) : String := toString n

/-- A truth value. -/
def bool (b : Bool) : String := if b then "true" else "false"

/-- A value that may be missing. -/
def option {α : Type} (write : α → String) : Option α → String
  | none => "null"
  | some a => write a

/-- An object from its members' names and texts. -/
def object (members : List (String × String)) : String :=
  "\x7b" ++ ",".intercalate (members.map fun (name, text) => string name ++ ":" ++ text) ++ "\x7d"

/-- An array from its items' texts. -/
def array (items : List String) : String :=
  "[" ++ ",".intercalate items ++ "]"

end Gateway.Text.Json
