import Gateway.Text.Split

/-!
# Words of a command line

Cutting a command line into words and operators. A word is made of fragments: text, and what gets
its value when the command is run. Quotes join fragments to one word and keep blanks and operators
in it. What lies in braces or brackets is kept as it stands and looked into when it is needed.
-/

namespace Gateway.Shell

/-- A parameter that a word takes its value from. -/
structure Parameter where
  name : List Char
  /-- Whether the length of the value is meant. -/
  length : Bool
  /-- What is done with the value, and the word that it is done with. -/
  operator : String
  operand : List Char
deriving DecidableEq, Repr

/-- A part of a word, quoted or not. -/
inductive Fragment where
  | text (cs : List Char) (quoted : Bool)
  | parameter (p : Parameter) (quoted : Bool)
  /-- The output of a command line. -/
  | output (line : List Char) (quoted : Bool)
  /-- The value of an expression. -/
  | value (expression : List Char) (quoted : Bool)
  /-- A parameter that makes no sense. -/
  | bad
deriving DecidableEq, Repr

/-- A word of a command line. -/
abbrev Word := List Fragment

/-- A token of a command line. -/
inductive Token where
  | word (w : Word)
  | operator (text : String)
  /-- A redirection and the file that it is about. -/
  | redirection (file : Nat) (text : String)
  /-- Here the line stops making sense. -/
  | broken
deriving DecidableEq, Repr

/-- Whether a character may begin a name. -/
def beginsName (c : Char) : Bool := c.isAlpha || c = '_'

/-- Whether a character may go on in a name. -/
def inName (c : Char) : Bool := beginsName c || c.isDigit

/-- Whether a parameter of this name is one character and no name. -/
def isSpecial (c : Char) : Bool := "@*#?-$!".toList.contains c

/-- The backquote. -/
def backquote : Char := Char.ofNat 96

/-! ## Brackets -/

/-- The text up to where everything that has been opened is closed, and what follows it. What has
been opened is given by what closes it, the innermost first; `acc` is the text so far, latest
character first. A single quote means nothing in double quotes, in which the whole may lie. -/
def enclosed (inQuotes : Bool) (acc : List Char) :
    List Char → List Char → Option (List Char × List Char)
  | [], cs => some (acc.reverse, cs)
  | _ :: _, [] => none
  | top :: stack, '\\' :: c :: rest =>
    if top = '\'' then
      if c = '\'' then enclosed inQuotes (c :: '\\' :: acc) stack rest
      else enclosed inQuotes (c :: '\\' :: acc) (top :: stack) rest
    else enclosed inQuotes (c :: '\\' :: acc) (top :: stack) rest
  | top :: stack, c :: rest =>
    if c = top then
      if stack.isEmpty then some (acc.reverse, rest) else enclosed inQuotes (c :: acc) stack rest
    else if top = '\'' then enclosed inQuotes (c :: acc) (top :: stack) rest
    else
      let opened : Option Char :=
        match c, rest with
        | '$', '(' :: _ => none
        | '$', '\x7b' :: _ => none
        | '(', _ => if top = ')' || acc.head? = some '$' then some ')' else none
        | '\x7b', _ => if acc.head? = some '$' then some '\x7d' else none
        | '"', _ => some '"'
        | '\'', _ =>
          let around := if stack.isEmpty then inQuotes else stack.head? = some '"'
          if top = '"' || (top = '\x7d' && around) then none else some '\''
        | _, _ => if c = backquote then some backquote else none
      match opened with
      | some closer => enclosed inQuotes (c :: acc) (closer :: top :: stack) rest
      | none => enclosed inQuotes (c :: acc) (top :: stack) rest
  termination_by structural _ cs => cs

/-- The text up to a closing backquote, in which backslashes escape only what means something
there, and what follows it. -/
def backquoted (acc : List Char) : List Char → Option (List Char × List Char)
  | [] => none
  | '\\' :: c :: rest =>
    if c = backquote || c = '\\' || c = '$' then backquoted (c :: acc) rest
    else backquoted (c :: '\\' :: acc) rest
  | c :: rest => if c = backquote then some (acc.reverse, rest) else backquoted (c :: acc) rest

/-! ## Parameters -/

/-- The operators on a parameter, longer ones first. -/
def parameterOperators : List String :=
  [":-", ":=", ":?", ":+", "%%", "##", "-", "=", "?", "+", "%", "#"]

/-- The parameter that the text between braces means. -/
def bracedParameter (inside : List Char) (quoted : Bool) : Fragment :=
  let named (cs : List Char) : Option (List Char × List Char) :=
    match cs with
    | c :: rest =>
      if isSpecial c then some ([c], rest)
      else if c.isDigit then some (cs.takeWhile Char.isDigit, cs.dropWhile Char.isDigit)
      else if beginsName c then some (cs.takeWhile inName, cs.dropWhile inName)
      else none
    | [] => none
  let plain : Fragment :=
    match named inside with
    | none => .bad
    | some (name, rest) =>
      if rest.isEmpty then .parameter ⟨name, false, "", []⟩ quoted
      else match parameterOperators.find? fun o => o.toList.isPrefixOf rest with
        | some o => .parameter ⟨name, false, o, rest.drop o.length⟩ quoted
        | none => .bad
  match inside with
  | '#' :: c :: rest =>
    match named (c :: rest) with
    | some (name, []) => .parameter ⟨name, true, "", []⟩ quoted
    | _ => plain
  | _ => plain

/-- What a dollar sign begins, and what follows it; `none` if it does not end. -/
def dollar? (quoted : Bool) : List Char → Option (Fragment × List Char)
  | '(' :: rest => do
    let (inside, rest) ← enclosed false [] [')'] rest
    match inside with
    | '(' :: expression =>
      if expression.getLast? = some ')' then some (.value expression.dropLast quoted, rest)
      else none
    | _ => some (.output inside quoted, rest)
  | '\x7b' :: rest => do
    -- a pattern may be quoted of its own
    let behind := (rest.drop 1).dropWhile inName
    let cuts := behind.head?.any fun c => c = '#' || c = '%'
    let (inside, rest) ← enclosed (quoted && !cuts) [] ['\x7d'] rest
    some (bracedParameter inside quoted, rest)
  | c :: rest =>
    if isSpecial c || c.isDigit then some (.parameter ⟨[c], false, "", []⟩ quoted, rest)
    else if beginsName c then
      some (.parameter ⟨c :: rest.takeWhile inName, false, "", []⟩ quoted, rest.dropWhile inName)
    else some (.text ['$'] true, c :: rest)
  | [] => some (.text ['$'] true, [])

/-! ## Quotes -/

/-- What a backslash may stand before in double quotes. -/
def escapedInQuotes (c : Char) : Bool := c = '$' || c = '"' || c = '\\' || c = backquote

/-- What double quotes mean in quoted text. -/
inductive Quoting where
  /-- One ends the text. -/
  | between
  /-- They stand for themselves. -/
  | document
  /-- They are left out, since the text lies between others. -/
  | operand
deriving DecidableEq, Repr

/-- The characters that a backslash may stand before in quoted text. -/
def Quoting.escaped (q : Quoting) (c : Char) : Bool :=
  match q with
  | between => escapedInQuotes c
  | document => escapedInQuotes c && c ≠ '"'
  | operand => escapedInQuotes c || c = '\x7d'

/-- The fragments of quoted text, latest first, and what follows it: up to the closing double quote,
or the whole text. The number bounds the length of the text. -/
def quotedText (q : Quoting) (word : Word) : Nat → List Char → Option (Word × List Char)
  | 0, _ => none
  | _ + 1, [] => if q = .between then none else some (word, [])
  | fuel + 1, '\\' :: c :: rest =>
    if c = '\n' then quotedText q word fuel rest
    else if q.escaped c then quotedText q (.text [c] true :: word) fuel rest
    else quotedText q (.text ['\\', c] true :: word) fuel rest
  | fuel + 1, '$' :: rest =>
    (dollar? true rest).bind fun (f, rest) => quotedText q (f :: word) fuel rest
  | fuel + 1, c :: rest =>
    if c = '"' && q = .between then some (word, rest)
    else if c = '"' && q = .operand then quotedText q word fuel rest
    else if c = backquote then
      (backquoted [] rest).bind fun (line, rest) =>
        quotedText q (.output line true :: word) fuel rest
    else quotedText q (.text [c] true :: word) fuel rest

/-- The fragments of a text that is quoted as a whole. -/
def quotedWord? (q : Quoting) (cs : List Char) : Option Word :=
  (quotedText q [] (cs.length + 1) cs).map fun (word, _) => word.reverse

/-- The fragments between double quotes, latest first: an empty text in front says that there is a
word, unless nothing but all arguments is quoted. -/
def doubleQuoted? (word : Word) (cs : List Char) : Option (Word × List Char) :=
  (quotedText .between [] (cs.length + 1) cs).map fun (inside, rest) =>
    match inside with
    | [.parameter ⟨['@'], false, "", []⟩ _] => (inside ++ word, rest)
    | _ => (inside ++ .text [] true :: word, rest)

/-- The fragment or fragments that begin at a character which means something in a word; `none` if
they do not end. Anything else is itself. -/
def wordPart? (word : Word) : List Char → Option (Word × List Char)
  | '\'' :: rest => (Text.cutAt '\'' rest).map fun (cs, rest) => (.text cs true :: word, rest)
  | '"' :: rest => doubleQuoted? word rest
  | '$' :: rest => (dollar? false rest).map fun (f, rest) => (f :: word, rest)
  | '\\' :: '\n' :: rest => some (word, rest)
  | '\\' :: c :: rest => some (.text [c] true :: word, rest)
  | c :: rest =>
    if c = backquote then
      (backquoted [] rest).map fun (line, rest) => (.output line false :: word, rest)
    else some (.text [c] false :: word, rest)
  | [] => some (word, [])

/-- The fragments of a text that is one word, blanks and operators included. The number bounds its
length. -/
def wholeWord (word : Word) : Nat → List Char → Option Word
  | 0, _ | _, [] => some word.reverse
  | fuel + 1, cs => (wordPart? word cs).bind fun (word, rest) => wholeWord word fuel rest

/-- The word that a text is. -/
def wordOf? (cs : List Char) : Option Word := wholeWord [] (cs.length + 1) cs

/-! ## Tokens -/

/-- The number that a word of digits is, which names the file of a redirection after it. -/
def fileNumber? (word : Word) : Option Nat :=
  match word with
  | [.text [c] false] => if c.isDigit then some (c.toNat - '0'.toNat) else none
  | _ => none

/-- The operators, longer ones first. -/
def operators : List String := ["&&", "||", ";;", ";", "&", "|", "\n", "(", ")"]

/-- The redirections, longer ones first, and the files that they are about. -/
def redirections : List (String × Nat) :=
  [("<<-", 0), ("<<", 0), (">>", 1), (">&", 1), (">|", 1), (">", 1), ("<&", 0), ("<>", 0), ("<", 0)]

/-- The word before a token, if there is one. -/
def closing (word : Option Word) : List Token :=
  (word.map fun w => Token.word w.reverse).toList

/-- The text of a word without its quotes. -/
def bareText (w : Word) : List Char :=
  w.flatMap fun f => match f with
    | .text cs _ => cs
    | _ => []

/-- The lines of a text with their ends; the last one may lack it. -/
def endedLines (cs : List Char) : List (List Char) :=
  let lines := cs.splitOn '\n'
  lines.dropLast.map (· ++ ['\n']) ++ lines.getLast?.toList.filter (!·.isEmpty)

/-- The lines up to one that is a given text, and the lines behind it. -/
def documentLines (tabs : Bool) (mark : List Char) :
    List (List Char) → List (List Char) × List (List Char)
  | [] => ([], [])
  | line :: rest =>
    let line := if tabs then line.dropWhile (· = '\t') else line
    if line = mark || line = mark ++ ['\n'] then ([], rest)
    else
      let (inside, after) := documentLines tabs mark rest
      (line :: inside, after)

/-- The document whose mark stands at the beginning of a text: its fragments, and the text without
it. -/
def document? (tabs : Bool) (cs : List Char) : Option (Word × List Char) := do
  let cs := cs.dropWhile fun c => c = ' ' || c = '\t'
  let ends (c : Char) : Bool := c = ' ' || c = '\t' || c = '\n' || c = ';' || c = '|' || c = '&'
    || c = '<' || c = '>' || c = '(' || c = ')'
  let raw := cs.takeWhile fun c => !ends c
  let mark ← wordOf? raw
  let after := cs.drop raw.length
  let line := after.takeWhile (· ≠ '\n')
  let below := (after.drop line.length).drop 1
  let (inside, rest) := documentLines tabs (bareText mark) (endedLines below)
  let text := inside.flatten
  let plain := mark.all fun f => match f with
    | .text _ quoted => !quoted
    | _ => true
  let word ← if plain then quotedWord? .document text else some [.text text true]
  some (.text [] true :: word,
    if after.length = line.length then line else line ++ '\n' :: rest.flatten)

/-- The tokens of a line whose length the number bounds; the word read so far has its latest
fragment first. -/
def tokensFrom (word : Option Word) : Nat → List Char → List Token
  | 0, _ => closing word
  | _ + 1, [] => closing word
  | fuel + 1, c :: rest =>
    if c = ' ' || c = '\t' then closing word ++ tokensFrom none fuel rest
    else if c = '#' && word.isNone then tokensFrom none fuel (rest.dropWhile (· ≠ '\n'))
    else if c = '\\' && rest.head? = some '\n' then tokensFrom word fuel (rest.drop 1)
    else match redirections.find? fun (r, _) => r.toList.isPrefixOf (c :: rest) with
      | some (r, file) =>
        let number := word.bind fileNumber?
        let before := if number.isSome then [] else closing word
        let after := (c :: rest).drop r.length
        let redirection := Token.redirection (number.getD file) r
        if r = "<<" || r = "<<-" then
          match document? (r = "<<-") after with
          | some (w, after) => before ++ redirection :: .word w :: tokensFrom none fuel after
          | none => before ++ [.broken]
        else before ++ redirection :: tokensFrom none fuel after
      | none =>
        match operators.find? fun o => o.toList.isPrefixOf (c :: rest) with
        | some o =>
          closing word ++ .operator o :: tokensFrom none fuel ((c :: rest).drop o.length)
        | none =>
          match wordPart? (word.getD []) (c :: rest) with
          | some (word, rest) => tokensFrom (some word) fuel rest
          | none => closing word ++ [.broken]

/-- The tokens of a line. -/
def tokensOf (line : List Char) : List Token := tokensFrom none (line.length + 1) line

end Gateway.Shell
