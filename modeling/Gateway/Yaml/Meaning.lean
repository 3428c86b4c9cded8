import Gateway.Text.Decimal
import Gateway.Text.Split
import Gateway.Yaml.Node

/-!
# What scalars mean

A plain scalar can be read as nothing, a truth value, a whole number or a fraction; one that can be
read as none of these is a text. A field says which reading it wants: a text takes every scalar as
it is written, a number or a truth value only a plain one, or a literal one whose tag says so.
-/

namespace Gateway.Yaml

/-- Whether a scalar means that nothing is there. -/
def isNull (text : List Char) : Bool :=
  ["", "~", "null", "Null", "NULL"].any (·.toList == text)

/-- A truth value. -/
def flag? (text : List Char) : Option Bool :=
  if ["true", "True", "TRUE"].any (·.toList == text) then some true
  else if ["false", "False", "FALSE"].any (·.toList == text) then some false
  else none

/-- The value of a digit in a base of at most 16. -/
def digitIn? (base : Nat) (c : Char) : Option Nat := (hexDigit? c).filter (· < base)

/-- The value of one or more digits. -/
def digitsIn? (base : Nat) (cs : List Char) : Option Nat :=
  if cs.isEmpty then none
  else cs.foldlM (fun n c => (digitIn? base c).map fun d => base * n + d) 0

/-- A text without the plus sign in front. -/
def dropPlus (cs : List Char) : List Char :=
  match cs with
  | '+' :: rest => rest
  | _ => cs

/-- Digits with a zero in front of others, which are a text. A sign may stand before them. -/
def hasLeadingZero (cs : List Char) : Bool :=
  let digits := match cs with
    | '+' :: rest | '-' :: rest => rest
    | _ => cs
  match digits with
  | '0' :: rest => !rest.isEmpty && rest.all Char.isDigit
  | _ => false

/-- The digits after a zero and a letter that names their base. -/
def based? : List Char → Option Nat
  | '0' :: 'x' :: rest => digitsIn? 16 rest
  | '0' :: 'o' :: rest => digitsIn? 8 rest
  | '0' :: 'b' :: rest => digitsIn? 2 rest
  | _ => none

/-- A whole number that is not negative. -/
def natural? (text : List Char) : Option Nat :=
  let digits := dropPlus text
  match based? digits with
  | some n => some n
  | none => if hasLeadingZero text then none else digitsIn? 10 digits

/-- Whether a scalar means a whole number of at most 128 bits. -/
def isWhole (text : List Char) : Bool :=
  match text with
  | '-' :: digits => (natural? digits).any (· ≤ Nat.pow 2 127) && digits.head? != some '+'
  | _ => (natural? text).any (· < Nat.pow 2 128)

/-- Whether a scalar means a fraction, an infinite number or no number at all. -/
def isFraction (text : List Char) : Bool :=
  let unsigned := match text with
    | '+' :: rest | '-' :: rest => rest
    | _ => text
  [".inf", ".Inf", ".INF"].any (·.toList == unsigned)
    || [".nan", ".NaN", ".NAN"].any (·.toList == text)
    || (Text.Decimal.parse? unsigned).any Text.Decimal.isDouble

/-- Whether a plain scalar would not be read as a text. -/
def isAmbiguous (text : List Char) : Bool :=
  isNull text || (flag? text).isSome || isWhole text || hasLeadingZero text || isFraction text

/-! ## Reading nodes

Every reading looks through an alias first. -/

namespace Document

/-- Whether a scalar may be read as more than a text: it is plain, or literal with the tag. -/
def isTyped (tag : String) (nodeTag : Option (List Char)) (style : Style) : Bool :=
  style == .plain || (style == .literal && nodeTag == some ("tag:yaml.org,2002:" ++ tag).toList)

/-- A text. -/
def text? (d : Document) (node : Node) : Option (List Char) :=
  match d.follow node with
  | .scalar _ _ _ text => some text
  | _ => none

/-- A whole number of at most `max`. -/
def number? (d : Document) (max : Nat) (node : Node) : Option Nat :=
  match d.follow node with
  | .scalar _ tag style text =>
    if isTyped "int" tag style then (natural? text).filter (· ≤ max) else none
  | _ => none

/-- A truth value. -/
def truth? (d : Document) (node : Node) : Option Bool :=
  match d.follow node with
  | .scalar _ tag style text => if isTyped "bool" tag style then flag? text else none
  | _ => none

/-- The items of a sequence; an empty plain scalar has none. -/
def items? (d : Document) (node : Node) : Option (List Node) :=
  match d.follow node with
  | .sequence _ _ items => some items
  | .scalar _ _ .plain [] => some []
  | _ => none

/-- The entries of a mapping by the texts of their keys; an empty plain scalar has none. -/
def entries? (d : Document) (node : Node) : Option (List (List Char × Node)) :=
  match d.follow node with
  | .mapping _ _ entries => entries.mapM fun (key, value) => (d.text? key).map (·, value)
  | .scalar _ _ .plain [] => some []
  | _ => none

/-- One of the names given: the text of a scalar, or a tag of the document's own before nothing. -/
def choice? (d : Document) (names : List String) (node : Node) : Option String :=
  let pick (text : List Char) := names.find? (·.toList == text)
  match d.follow node with
  | .scalar _ (some ('!' :: name)) style text =>
    if (style == .plain || style == .literal) && isNull text then pick name else none
  | .scalar _ _ _ text => pick text
  | _ => none

/-- The value of a key among entries: `some none` without one. No key may stand there twice. -/
def lookup? (entries : List (List Char × Node)) (name : String) : Option (Option Node) :=
  match entries.filter (·.1 == name.toList) with
  | [] => some none
  | [(_, value)] => some (some value)
  | _ => none

end Document

end Gateway.Yaml
