import Gateway.Command.Number

/-!
# Formatted output

The output of `printf`. A format is text with escapes and directives; every directive takes an
argument. The format is gone through again while arguments are left.
-/

namespace Gateway.Program

/-- How a shell's own command and a program of the same name differ. -/
structure FormatRules where
  escapes : EscapeRules
  /-- Whether a directive has only those flags that mean something, and a quote has to have a
  character behind it. -/
  strict : Bool
  /-- Whether letters for the sizes of numbers are skipped, and digits may be grouped. -/
  sizes : Bool
  /-- How many binary digits fractions have. -/
  bits : Nat
  /-- The status after a directive that is not known. -/
  unknown : UInt8
deriving DecidableEq, Repr

/-- A width or precision: none, a number, or an argument of its own. -/
inductive Measure where
  | absent
  | fixed (n : Nat)
  | given
deriving DecidableEq, Repr

/-- A directive. -/
structure Directive where
  flags : List Char
  width : Measure
  precision : Measure
  letter : Char
  /-- How it is written in the format. -/
  spelling : List Char
deriving DecidableEq, Repr

/-- A piece of a format. -/
inductive Piece where
  | text (cs : List Char)
  | directive (d : Directive)
  /-- The output ends here. -/
  | stop
  /-- The format ends within a directive. -/
  | cut (spelling : List Char)
  /-- An escape lacks digits. -/
  | wrong
deriving DecidableEq, Repr

/-- The measure at the beginning of a text, and what follows it. -/
def measure (missing : Measure) : List Char → Measure × List Char
  | '*' :: rest => (.given, rest)
  | cs =>
    if beginsWithDigit 10 cs then
      let (n, rest) := digits 10 cs.length 0 cs
      (.fixed n, rest)
    else (missing, cs)

/-- The directive after a percent sign, and what follows it. -/
def directive (sizes : Bool) (cs : List Char) : Piece × List Char :=
  let isFlag (c : Char) : Bool := c = '-' || c = '0' || c = '+' || c = ' ' || c = '#'
    || (sizes && (c = '\'' || c = 'I'))
  let flags := cs.takeWhile isFlag
  let (width, rest) := measure .absent (cs.dropWhile isFlag)
  let (precision, rest) : Measure × List Char := match rest with
    | '.' :: rest => measure (.fixed 0) rest
    | _ => (.absent, rest)
  let rest := rest.dropWhile fun c =>
    sizes && (c = 'h' || c = 'l' || c = 'L' || c = 'j' || c = 't' || c = 'z')
  match rest with
  | letter :: rest =>
    (.directive ⟨flags, width, precision, letter, '%' :: cs.take (cs.length - rest.length)⟩, rest)
  | [] => (.cut ('%' :: cs), [])

/-- The pieces of a format, whose length the number bounds. -/
def pieces (rules : FormatRules) : Nat → List Char → List Piece
  | 0, _ => []
  | _ + 1, [] => []
  | fuel + 1, '%' :: '%' :: rest => .text ['%'] :: pieces rules fuel rest
  | fuel + 1, '%' :: rest =>
    let (piece, rest) := directive rules.sizes rest
    piece :: pieces rules fuel rest
  | fuel + 1, '\\' :: rest =>
    match rules.escapes.escape rest with
    | (.stop, _) => [.stop]
    | (.wrong, _) => [.wrong]
    | (.bytes cs, rest) => .text cs :: pieces rules fuel rest
  | fuel + 1, c :: rest => .text [c] :: pieces rules fuel rest

/-! ## Writing arguments -/

/-- A directive whose measures are known. -/
structure Field where
  flags : List Char
  width : Nat
  precision : Option Nat
  letter : Char

/-- A text filled up to the width of a field: with blanks, or with zeros behind its first part. -/
def Field.fill (f : Field) (zeros : Bool) (front body : List Char) : List Char :=
  let missing := f.width - (front.length + body.length)
  if f.flags.contains '-' then front ++ body ++ List.replicate missing ' '
  else if zeros && f.flags.contains '0' then front ++ List.replicate missing '0' ++ body
  else List.replicate missing ' ' ++ front ++ body

/-- What is written in front of a number. -/
def Field.sign (f : Field) (negative : Bool) : List Char :=
  if negative then ['-'] else if f.flags.contains '+' then ['+']
  else if f.flags.contains ' ' then [' '] else []

/-- A whole number in a field. -/
def Field.integer (f : Field) (n : Int) : List Char :=
  let m := n.natAbs
  let base := if f.letter = 'o' then 8 else if f.letter.toLower = 'x' then 16 else 10
  let raw := if m = 0 && f.precision = some 0 then [] else Nat.toDigits base m
  let cased := if f.letter = 'X' then raw.map Char.toUpper else raw
  let body := List.replicate (f.precision.getD 0 - cased.length) '0' ++ cased
  let marked := f.flags.contains '#'
  let body := if marked && f.letter = 'o' && body.head? ≠ some '0' then '0' :: body else body
  let front := if f.letter = 'd' || f.letter = 'i' then f.sign (n < 0)
    else if marked && f.letter.toLower = 'x' && m ≠ 0 then ['0', f.letter] else []
  f.fill f.precision.isNone front body

/-- What comes of a directive: what is written, what is wrong with the argument, and how the output
ends. -/
structure Written where
  text : List Char
  fault : Option NumberFault
  ending : Ending

/-- What a field writes for an argument; `none` if there is no such directive. -/
def Field.write? (f : Field) (rules : FormatRules) (argument : String) : Option Written :=
  let cs := argument.toList
  match f.letter with
  | 's' => some ⟨f.fill false [] (cs.take (f.precision.getD cs.length)), none, .goesOn⟩
  | 'b' =>
    let escapes := { rules.escapes with leadingZero := true, quote := false, ends := true }
    let (text, ending) := escapes.replaced argument
    some ⟨f.fill false [] (text.take (f.precision.getD text.length)), none, ending⟩
  | 'c' => some ⟨f.fill false [] [cs.headD '\x00'], none, .goesOn⟩
  | 'd' | 'i' | 'u' | 'x' | 'X' | 'o' =>
    let bare := !rules.strict && (cs = ['\''] || cs = ['"'])
    let (n, fault) :=
      if bare then (0, none) else Program.integer (f.letter = 'd' || f.letter = 'i') cs
    some ⟨f.integer n, fault, .goesOn⟩
  | 'e' | 'E' | 'f' | 'F' | 'g' | 'G' =>
    let (negative, value, fault) := fraction cs
    let body := (value.rounded rules.bits).written f.letter (f.precision.getD 6)
      (f.flags.contains '#')
    some ⟨f.fill (value.denominator ≠ 0) (f.sign negative) body, fault, .goesOn⟩
  | _ => none

/-- The letters that a flag goes with in a strict format. -/
def lettersOf (flag : Char) : List Char :=
  match flag with
  | '#' => "oxXeEfFgG".toList
  | '0' => "diouxXeEfFgG".toList
  | '\'' | 'I' => "diufFgG".toList
  | _ => "diouxXeEfFgGsc".toList

/-- Whether a strict format may have a directive. -/
def Directive.isStrict (d : Directive) : Bool :=
  d.spelling = ['%', 'b']
    || (d.letter ≠ 'b' && d.flags.all (fun flag => (lettersOf flag).contains d.letter)
      && (d.precision = .absent || d.letter ≠ 'c'))

/-- Something that happens on the way through a format. -/
inductive Happening where
  | text (cs : List Char)
  /-- A number is not what it should be. -/
  | number (argument : String) (fault : NumberFault)
  /-- The format goes no further. -/
  | invalid (spelling : List Char)
  /-- An escape lacks digits. -/
  | unfinished
deriving DecidableEq, Repr

/-- A measure's value: a number of its own, or the next argument. -/
def Measure.take (m : Measure) (arguments : List String) : Option Int × List String :=
  match m with
  | .absent => (none, arguments)
  | .fixed n => (some n, arguments)
  | .given => (some (Program.integer true (arguments.headD "").toList).1, arguments.tail)

/-- What is wrong with a measure that is an argument. -/
def Measure.own (m : Measure) (arguments : List String) : Option Happening :=
  if m = .given then
    let argument := arguments.headD ""
    (Program.integer true argument.toList).2.map (Happening.number argument)
  else none

/-- One pass through a format: what happens, the arguments left, and whether another pass may
follow. -/
def pass (rules : FormatRules) : List Piece → List String → List Happening × List String × Bool
  | [], arguments => ([], arguments, true)
  | .stop :: _, _ => ([], [], false)
  | .cut spelling :: _, _ => ([.invalid spelling], [], false)
  | .wrong :: _, _ => ([.unfinished], [], false)
  | .text cs :: rest, arguments =>
    let (more, left, again) := pass rules rest arguments
    (.text cs :: more, left, again)
  | .directive d :: rest, arguments =>
    let measures := (d.width.own arguments).toList
      ++ (d.precision.own (d.width.take arguments).2).toList
    let (width, arguments) := d.width.take arguments
    let (precision, arguments) := d.precision.take arguments
    let flags := if width.any (· < 0) then '-' :: d.flags else d.flags
    let field : Field := ⟨flags, (width.getD 0).natAbs,
      (precision.filter (0 ≤ ·)).map Int.toNat, d.letter⟩
    let argument := arguments.headD ""
    match if rules.strict && !d.isStrict then none else field.write? rules argument with
    | none => ([.invalid d.spelling], [], false)
    | some w =>
      let own := measures ++ (w.fault.map (Happening.number argument)).toList ++ [.text w.text]
      match w.ending with
      | .goesOn =>
        let (more, left, again) := pass rules rest arguments.tail
        (own ++ more, left, again)
      | .stopped => (own, [], false)
      | .broken => (own ++ [.unfinished], [], false)

/-- As many passes as there are arguments for. -/
def passes (rules : FormatRules) (format : List Piece) : Nat → List String → List Happening
  | 0, _ => []
  | fuel + 1, arguments =>
    let (happenings, left, again) := pass rules format arguments
    if again && !left.isEmpty && left.length < arguments.length then
      happenings ++ passes rules format fuel left
    else happenings

/-- What happens for a format and its arguments. -/
def formatted (rules : FormatRules) (format : String) (arguments : List String) : List Happening :=
  passes rules (pieces rules format.length format.toList) (arguments.length + 1) arguments

end Gateway.Program
