/-!
# Plain values

Values that come from outside without a type of their own: what a setting is set to, and the
arguments of a call. A tree of them stands for a section or for more than one.
-/

namespace Gateway

/-- A value without a type of its own. -/
inductive PlainValue where
  | number (n : Nat)
  | flag (b : Bool)
  | text (s : String)
  | texts (items : List String)
deriving DecidableEq, Repr

namespace PlainValue

/-- The number that a value is. -/
def number? : PlainValue → Option Nat
  | number n => some n
  | _ => none

/-- The truth value that a value is. -/
def flag? : PlainValue → Option Bool
  | flag b => some b
  | _ => none

/-- The text that a value is. -/
def text? : PlainValue → Option String
  | text s => some s
  | _ => none

/-- The texts that a value is. -/
def texts? : PlainValue → Option (List String)
  | texts items => some items
  | _ => none

end PlainValue

/-- A tree of values. -/
inductive PlainTree where
  | nothing
  | leaf (value : PlainValue)
  | list (items : List PlainTree)
  | map (entries : List (String × PlainTree))
  /-- A number that is not whole, or below zero. -/
  | strange
deriving Inhabited

namespace PlainTree

/-- The text that a tree is. -/
def text? : PlainTree → Option String
  | leaf v => v.text?
  | _ => none

/-- The tree with another tree put where names lead; what is missing on the way is made. A tree that
names do not lead into stays as it is. -/
def set (t : PlainTree) (new : PlainTree) : List String → PlainTree
  | [] => new
  | name :: rest =>
    match t with
    | nothing => map [(name, set nothing new rest)]
    | map entries =>
      if entries.any (·.1 = name) then
        map (entries.map fun (key, value) =>
          if key = name then (key, set value new rest) else (key, value))
      else map (entries ++ [(name, set nothing new rest)])
    | _ => t

/-- The values of fields with these names, if a tree has such fields: by name, or by their order. A
name that is no field's does not matter. -/
def fields? (t : PlainTree) (names : List String) : Option (List (String × PlainTree)) :=
  match t with
  | map entries => some entries
  | list items => if items.length ≤ names.length then some (names.zip items) else none
  | _ => none

end PlainTree

end Gateway
