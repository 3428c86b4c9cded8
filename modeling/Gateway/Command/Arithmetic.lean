import Gateway.Command.Number
import Gateway.Command.Word

/-!
# Arithmetic

The values of expressions in a command line: whole numbers of 64 bits that wrap around, variables,
and the usual operators with their ranks. Reading an expression gives a tree; its value is taken
from the tree, since a part that is not needed must not change a variable.
-/

namespace Gateway.Shell

open Program

/-- An expression. -/
inductive Expression where
  | number (n : Int)
  | named (name : List Char)
  | prefixed (operator : String) (e : Expression)
  | infixed (operator : String) (a b : Expression)
  | conditional (condition a b : Expression)
  /-- Sets a variable, by an operator on its old value if there is one. -/
  | assignment (name : List Char) (operator : String) (e : Expression)
deriving DecidableEq, Repr

namespace Expression

/-- The operators between operands and their ranks; longer ones come first. -/
def ranks : List (String × Nat) :=
  [("||", 1), ("&&", 2), ("<<", 8), (">>", 8), ("<=", 7), (">=", 7), ("==", 6), ("!=", 6), ("|", 3),
    ("^", 4), ("&", 5), ("<", 7), (">", 7), ("+", 9), ("-", 9), ("*", 10), ("/", 10), ("%", 10)]

/-- The operators that set a variable. -/
def assignments : List String := ["=", "*=", "/=", "%=", "+=", "-=", "<<=", ">>=", "&=", "^=", "|="]

/-- The operator that sets a variable at the beginning of a text, without its equals sign, and what
follows it. -/
def assignment? (cs : List Char) : Option (String × List Char) :=
  (assignments.find? fun o => o.toList.isPrefixOf cs && !(o = "=" && "==".toList.isPrefixOf cs)).map
    fun o => ((o.dropEnd 1).toString, cs.drop o.length)

/-- The operator between operands at the beginning of a text, its rank, and what follows it. -/
def between? (cs : List Char) : Option (String × Nat × List Char) :=
  if (assignment? cs).isSome then none
  else (ranks.find? fun (o, _) => o.toList.isPrefixOf cs).map fun (o, rank) =>
    (o, rank, cs.drop o.length)

/-- A text without blanks in front. -/
def unpadded (cs : List Char) : List Char := cs.dropWhile isBlank

mutual

/-- The expression at the beginning of a text, and what follows it. The number bounds how deep
expressions lie in each other. -/
def read? : Nat → List Char → Option (Expression × List Char)
  | 0, _ => none
  | fuel + 1, cs => do
    let cs := unpadded cs
    let name := if cs.head?.any beginsName then cs.takeWhile inName else []
    match if name.isEmpty then none else assignment? (unpadded (cs.drop name.length)) with
    | some (operator, rest) =>
      let (e, rest) ← read? fuel rest
      some (.assignment name operator e, rest)
    | none =>
      let (condition, rest) ← ranked? fuel 1 cs
      match unpadded rest with
      | '?' :: rest =>
        let (a, rest) ← read? fuel rest
        match unpadded rest with
        | ':' :: rest =>
          let (b, rest) ← read? fuel rest
          some (.conditional condition a b, rest)
        | _ => none
      | rest => some (condition, rest)

/-- An expression whose operators have at least a rank. -/
def ranked? : Nat → Nat → List Char → Option (Expression × List Char)
  | 0, _, _ => none
  | fuel + 1, least, cs => do
    let (a, rest) ← operand? fuel (unpadded cs)
    rankedFrom? fuel least a rest

/-- The operators and operands behind an operand. -/
def rankedFrom? : Nat → Nat → Expression → List Char → Option (Expression × List Char)
  | 0, _, _, _ => none
  | fuel + 1, least, a, cs =>
    let cs := unpadded cs
    match between? cs with
    | some (operator, rank, rest) =>
      if rank < least then some (a, cs)
      else do
        let (b, rest) ← ranked? fuel (rank + 1) rest
        rankedFrom? fuel least (.infixed operator a b) rest
    | none => some (a, cs)

/-- An operand. -/
def operand? : Nat → List Char → Option (Expression × List Char)
  | 0, _ => none
  | fuel + 1, cs =>
    match cs with
    | [] => none
    | '(' :: rest => do
      let (e, rest) ← read? fuel rest
      match unpadded rest with
      | ')' :: rest => some (e, rest)
      | _ => none
    | c :: rest =>
      if c = '+' || c = '-' || c = '!' || c = '~' then
        (operand? fuel (unpadded rest)).map fun (e, rest) =>
          (.prefixed (String.singleton c) e, rest)
      else if beginsName c then some (.named (cs.takeWhile inName), cs.dropWhile inName)
      else (magnitude? cs).map fun (n, rest) => (.number (min n (Nat.pow 2 63 - 1)), rest)

end

/-- The expression that a text is; nothing at all is zero. -/
def ofText? (cs : List Char) : Option Expression :=
  if (unpadded cs).isEmpty then some (.number 0)
  else match read? (4 * cs.length + 8) cs with
    | some (e, rest) => if (unpadded rest).isEmpty then some e else none
    | none => none

/-! ## Values -/

/-- A number of 64 bits. -/
def wrapped (n : Int) : Int :=
  let top : Int := (Nat.pow 2 64 : Nat)
  let m := n % top
  if 2 * m < top then m else m - top

/-- The number without a sign that has the same bits. -/
def bits (n : Int) : Nat := (n % ((Nat.pow 2 64 : Nat) : Int)).toNat

/-- One for true and zero for false. -/
def truth (b : Bool) : Int := if b then 1 else 0

/-- The value of an operator; `none` for a division by zero. -/
def combine? (operator : String) (a b : Int) : Option Int :=
  match operator with
  | "*" => some (wrapped (a * b))
  | "/" => if b = 0 then none else some (wrapped (a.tdiv b))
  | "%" => if b = 0 then none else some (wrapped (a.tmod b))
  | "+" => some (wrapped (a + b))
  | "-" => some (wrapped (a - b))
  | "<<" => some (wrapped (a * (Nat.pow 2 (bits b % 64) : Nat)))
  | ">>" => some (a.fdiv (Nat.pow 2 (bits b % 64) : Nat))
  | "<" => some (truth (a < b))
  | ">" => some (truth (a > b))
  | "<=" => some (truth (a ≤ b))
  | ">=" => some (truth (a ≥ b))
  | "==" => some (truth (a = b))
  | "!=" => some (truth (a ≠ b))
  | "&" => some (wrapped ((bits a &&& bits b : Nat) : Int))
  | "^" => some (wrapped ((bits a ^^^ bits b : Nat) : Int))
  | "|" => some (wrapped ((bits a ||| bits b : Nat) : Int))
  | _ => some b

/-- Why an expression has no value. -/
inductive ExpressionFault where
  | nonsense
  | zeroDivision
  /-- A variable is no number. -/
  | illegal (text : List Char)
deriving DecidableEq, Repr

/-- The number that the text of a variable is; one without text is zero. -/
def variableValue (cs : List Char) : Except ExpressionFault Int :=
  if cs.isEmpty then .ok 0
  else match integer true (cs.reverse.dropWhile isBlank).reverse with
    | (n, none) => .ok n
    | (n, some .range) => .ok n
    | _ => .error (.illegal cs)

/-- The value of an expression and what is changed, where variables are read by a function from
their names. -/
def eval {σ : Type} (get : σ → List Char → List Char) (set : σ → List Char → List Char → σ) :
    Expression → σ → Except ExpressionFault (Int × σ)
  | number n, s => .ok (wrapped n, s)
  | .named name, s => (variableValue (get s name)).map (·, s)
  | prefixed operator e, s => do
    let (n, s) ← eval get set e s
    match operator with
    | "-" => .ok (wrapped (-n), s)
    | "!" => .ok (truth (n = 0), s)
    | "~" => .ok (wrapped (-n - 1), s)
    | _ => .ok (n, s)
  | infixed operator a b, s => do
    let (m, s) ← eval get set a s
    if operator = "||" && m ≠ 0 then .ok (1, s)
    else if operator = "&&" && m = 0 then .ok (0, s)
    else
      let (n, s) ← eval get set b s
      if operator = "||" || operator = "&&" then .ok (truth (n ≠ 0), s)
      else match combine? operator m n with
        | some n => .ok (n, s)
        | none => .error .zeroDivision
  | conditional condition a b, s => do
    let (n, s) ← eval get set condition s
    if n ≠ 0 then eval get set a s else eval get set b s
  | assignment name operator e, s => do
    let (n, s) ← eval get set e s
    let n ← if operator.isEmpty then .ok n
      else do
        let old ← variableValue (get s name)
        match combine? operator old n with
        | some n => .ok n
        | none => .error .zeroDivision
    .ok (n, set s name (toString n).toList)

end Expression

end Gateway.Shell
