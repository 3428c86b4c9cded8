import Gateway.Text.Quoted

/-!
# Values on the message bus

The values that messages carry, with the codes of their types. A value that is not what was expected
is shown with the name of its type. A text with a NUL can be sent, but whoever gets it cannot read
it.
-/

namespace Gateway.MessageBus

/-- The types of whole numbers. -/
inductive NumberType where
  | byte
  | int16
  | uint16
  | int32
  | uint32
deriving DecidableEq, Repr

namespace NumberType

/-- The code of a type in a signature. -/
def code : NumberType → String
  | byte => "y"
  | int16 => "n"
  | uint16 => "q"
  | int32 => "i"
  | uint32 => "u"

/-- The name of a type where a value is shown. -/
def label : NumberType → String
  | byte => "U8"
  | int16 => "I16"
  | uint16 => "U16"
  | int32 => "I32"
  | uint32 => "U32"

/-- All types. -/
def all : List NumberType := [byte, int16, uint16, int32, uint32]

/-- The type of a code. -/
def ofCode? (code : String) : Option NumberType := all.find? (·.code = code)

/-- Reading the code of a type gives the type back. -/
theorem ofCode?_code (t : NumberType) : ofCode? t.code = some t := by cases t <;> decide

end NumberType

/-- A value. -/
inductive Variant where
  | number (type : NumberType) (n : Int)
  | flag (b : Bool)
  | text (s : String)
  | path (s : String)
deriving DecidableEq, Repr

/-- Whether a text can be read where it arrives. -/
def isReadable (s : String) : Bool := !s.toList.contains '\x00'

/-- What is wrong with a text that cannot be read. -/
def unreadable : String :=
  "invalid value: character " ++ String.ofList [Char.ofNat 96, '\x00', Char.ofNat 96]
    ++ ", expected D-Bus string type must not contain interior null bytes"

/-- Whether a text is the path of an object: names of letters, digits and underscores, each after a
slash, or a slash alone. -/
def isObjectPath (s : String) : Bool :=
  match s.splitOn "/" with
  | ["", ""] => true
  | "" :: name :: names => (name :: names).all fun name =>
    !name.isEmpty && name.toList.all fun c => c.isAlphanum || c = '_'
  | _ => false

namespace Variant

/-- Whether a value can be read where it arrives. -/
def isReadable : Variant → Bool
  | text s => MessageBus.isReadable s
  | path s => isObjectPath s
  | _ => true

/-- The signature of a value. -/
def signature : Variant → String
  | number type _ => type.code
  | flag _ => "b"
  | text _ => "s"
  | path _ => "o"

/-- How a value is shown. -/
def shown : Variant → String
  | number type n => type.label ++ "(" ++ toString n ++ ")"
  | flag b => "Bool(" ++ (if b then "true" else "false") ++ ")"
  | text s => "Str(" ++ Text.quoted s ++ ")"
  | path s => "ObjectPath(ObjectPath(" ++ Text.quoted s ++ "))"

end Variant

/-- What comes back for a call. -/
inductive Reply where
  | value (v : Variant)
  /-- Named values. -/
  | properties (members : List (String × Variant))
  | fault (name text : String)
  /-- No answer ever comes. -/
  | hang
deriving DecidableEq, Repr

/-- The text of a fault. -/
def faultText (name text : String) : String :=
  name ++ ": " ++ if isReadable text then text else "no details"

/-- The text for a reply of another type than was expected. -/
def mismatch (got expected : String) : String :=
  "Signature mismatch: got " ++ String.ofList [Char.ofNat 96] ++ got
    ++ String.ofList [Char.ofNat 96] ++ ", expected " ++ String.ofList [Char.ofNat 96] ++ expected
    ++ String.ofList [Char.ofNat 96]

/-- The signature of named values. -/
def propertiesSignature : String := "a\x7bsv\x7d"

namespace Reply

/-- The text that a reply holds, or what is wrong with it. -/
def text? : Reply → Option (Except String String)
  | value (.text s) => some (if isReadable s then .ok s else .error unreadable)
  | value v => some (.error (mismatch v.signature "s"))
  | properties _ => some (.error (mismatch propertiesSignature "s"))
  | fault name text => some (.error (faultText name text))
  | hang => none

/-- The object path that a reply holds, or what is wrong with it. -/
def path? : Reply → Option (Except String String)
  | value (.path s) => some (if isObjectPath s then .ok s else .error unreadable)
  | value v => some (.error (mismatch v.signature "o"))
  | properties _ => some (.error (mismatch propertiesSignature "o"))
  | fault name text => some (.error (faultText name text))
  | hang => none

/-- The named values that a reply holds, or what is wrong with it. -/
def properties? : Reply → Option (Except String (List (String × Variant)))
  | properties members =>
    some (if members.all fun (name, v) => isReadable name && v.isReadable then .ok members
      else .error unreadable)
  | value v => some (.error (mismatch v.signature propertiesSignature))
  | fault name text => some (.error (faultText name text))
  | hang => none

end Reply

end Gateway.MessageBus
