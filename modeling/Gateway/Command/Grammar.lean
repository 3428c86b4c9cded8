import Gateway.Command.Word

/-!
# Commands

What the tokens of a command line say: simple commands, and commands that are made of others. A line
is read as a whole before any of it is run; a line that makes no sense breaks the script off.
-/

namespace Gateway.Shell

/-- A redirection and what it is directed to. -/
structure Redirect where
  file : Nat
  text : String
  target : Word
deriving DecidableEq, Repr

/-- A command. -/
inductive Command where
  | nothing
  | simple (words : List Word) (redirects : List Redirect)
  | pipeline (commands : List Command)
  | negated (c : Command)
  | sequence (first second : Command)
  /-- The second one is run if the first one ends well. -/
  | both (first second : Command)
  /-- The second one is run if the first one does not end well. -/
  | either (first second : Command)
  | background (c : Command)
  /-- A command in a shell of its own. -/
  | apart (c : Command)
  | conditional (condition good bad : Command)
  /-- Runs the body while, or until, the condition ends well. -/
  | loop (reversed : Bool) (condition body : Command)
  /-- Runs the body for every word, or for every argument. -/
  | each (name : List Char) (words : Option (List Word)) (body : Command)
  | choice (subject : Word) (branches : List (List Word × Command))
  | definition (name : List Char) (body : Command)
  | redirected (c : Command) (redirects : List Redirect)
  /-- What makes no sense. -/
  | broken
deriving Inhabited

/-- The text of a word that is plain text without quotes. -/
def plainText? : Word → Option (List Char)
  | [] => some []
  | .text cs false :: rest => (plainText? rest).map (cs ++ ·)
  | _ => none

/-- The words that are part of the language. -/
def keywords : List String :=
  ["if", "then", "else", "elif", "fi", "while", "until", "do", "done", "for", "in", "case", "esac",
    "\x7b", "\x7d", "!"]

/-- The reserved word at the beginning of tokens. -/
def reserved? : List Token → Option String
  | .word w :: _ => ((plainText? w).map String.ofList).filter keywords.contains
  | _ => none

/-- The tokens behind a reserved word. -/
def after (word : String) (tokens : List Token) : Option (List Token) :=
  if reserved? tokens = some word then some tokens.tail else none

/-- Tokens without the line ends in front. -/
def dropLineEnds : List Token → List Token
  | .operator "\n" :: rest => dropLineEnds rest
  | tokens => tokens

/-- The words that end a list of commands. -/
def endsList (tokens : List Token) : Bool :=
  match tokens with
  | [] => true
  | .operator ")" :: _ | .operator ";;" :: _ => true
  | _ => match reserved? tokens with
    | some word => ["then", "else", "elif", "fi", "do", "done", "esac", "\x7d"].contains word
    | none => false

/-- The redirections at the beginning of tokens. -/
def redirects : List Token → List Redirect × List Token
  | .redirection file text :: .word w :: rest =>
    let (more, rest) := redirects rest
    (⟨file, text, w⟩ :: more, rest)
  | tokens => ([], tokens)

/-- The words and redirections at the beginning of tokens. -/
def simpleParts (words : List Word) (lines : List Redirect) : List Token → Command × List Token
  | .word w :: rest => simpleParts (words ++ [w]) lines rest
  | .redirection file text :: .word w :: rest =>
    simpleParts words (lines ++ [⟨file, text, w⟩]) rest
  | tokens => (.simple words lines, tokens)

/-- The words at the beginning of tokens. -/
def wordsOf : List Token → List Word × List Token
  | .word w :: rest =>
    let (more, rest) := wordsOf rest
    (w :: more, rest)
  | tokens => ([], tokens)

/-- The patterns of a branch, with bars between them, up to the bracket that closes them. -/
def patternsOf : List Token → Option (List Word × List Token)
  | .word w :: .operator "|" :: rest => (patternsOf rest).map fun (more, rest) => (w :: more, rest)
  | .word w :: .operator ")" :: rest => some ([w], rest)
  | _ => none

/-- A name for a variable or a function. -/
def nameOf? (w : Word) : Option (List Char) :=
  (plainText? w).filter fun cs => cs.head?.any beginsName && cs.all inName

/-- A command with the redirections behind it. -/
def withRedirects (r : Command × List Token) : Command × List Token :=
  match redirects r.2 with
  | ([], _) => r
  | (lines, rest) => (.redirected r.1 lines, rest)

mutual

/-- The list of commands at the beginning of tokens, which may go over several lines. The number
bounds how deep commands lie in each other. -/
def list? : Nat → List Token → Option (Command × List Token)
  | 0, _ => none
  | fuel + 1, tokens =>
    let tokens := dropLineEnds tokens
    if endsList tokens then some (.nothing, tokens)
    else do
      let (first, rest) ← chain? fuel tokens
      match rest with
      | .operator "&" :: rest =>
        let (more, rest) ← list? fuel rest
        some (.sequence (.background first) more, rest)
      | .operator ";" :: rest | .operator "\n" :: rest =>
        let (more, rest) ← list? fuel rest
        some (.sequence first more, rest)
      | _ => some (first, rest)

/-- A list that has at least one command. -/
def body? : Nat → List Token → Option (Command × List Token)
  | 0, _ => none
  | fuel + 1, tokens =>
    if endsList (dropLineEnds tokens) then none else list? fuel tokens

/-- Pipelines of which each but the first hangs on how the one before it ended. -/
def chain? : Nat → List Token → Option (Command × List Token)
  | 0, _ => none
  | fuel + 1, tokens => do
    let (first, rest) ← piped? fuel tokens
    chainFrom? fuel first rest

/-- The pipelines behind one that was read. -/
def chainFrom? : Nat → Command → List Token → Option (Command × List Token)
  | 0, _, _ => none
  | fuel + 1, first, tokens =>
    match tokens with
    | .operator "&&" :: rest => do
      let (second, rest) ← piped? fuel (dropLineEnds rest)
      chainFrom? fuel (.both first second) rest
    | .operator "||" :: rest => do
      let (second, rest) ← piped? fuel (dropLineEnds rest)
      chainFrom? fuel (.either first second) rest
    | _ => some (first, tokens)

/-- A pipeline, which may be negated. -/
def piped? : Nat → List Token → Option (Command × List Token)
  | 0, _ => none
  | fuel + 1, tokens =>
    match after "!" tokens with
    | some rest => (stages? fuel rest).map fun (commands, rest) =>
      (.negated (ofStages commands), rest)
    | none => (stages? fuel tokens).map fun (commands, rest) => (ofStages commands, rest)

/-- The commands of a pipeline. -/
def stages? : Nat → List Token → Option (List Command × List Token)
  | 0, _ => none
  | fuel + 1, tokens => do
    let (first, rest) ← command? fuel tokens
    match rest with
    | .operator "|" :: rest =>
      let (more, rest) ← stages? fuel (dropLineEnds rest)
      some (first :: more, rest)
    | _ => some ([first], rest)

/-- A pipeline of some commands. -/
def ofStages : List Command → Command
  | [c] => c
  | commands => .pipeline commands

/-- A command that is not made of others by operators. -/
def command? : Nat → List Token → Option (Command × List Token)
  | 0, _ => none
  | fuel + 1, tokens =>
    match tokens with
    | .operator "(" :: rest => do
      let (c, rest) ← body? fuel rest
      match rest with
      | .operator ")" :: rest => some (withRedirects (.apart c, rest))
      | _ => none
    | .word w :: .operator "(" :: .operator ")" :: rest => do
      let name ← nameOf? w
      let (c, rest) ← command? fuel (dropLineEnds rest)
      some (.definition name c, rest)
    | _ =>
      match reserved? tokens with
      | some word => (compound? fuel word tokens.tail).map withRedirects
      | none =>
        match simpleParts [] [] tokens with
        | (.simple [] [], _) => none
        | r => some r

/-- A command that begins with a reserved word. -/
def compound? : Nat → String → List Token → Option (Command × List Token)
  | 0, _, _ => none
  | fuel + 1, word, tokens =>
    match word with
    | "\x7b" => do
      let (c, rest) ← body? fuel tokens
      some (c, ← after "\x7d" rest)
    | "if" => branches? fuel tokens
    | "while" | "until" => do
      let (condition, rest) ← body? fuel tokens
      let (body, rest) ← body? fuel (← after "do" rest)
      some (.loop (word = "until") condition body, ← after "done" rest)
    | "for" => do
      let (name, rest) ← match tokens with
        | .word w :: rest => (nameOf? w).map (·, rest)
        | _ => none
      let rest := dropLineEnds rest
      let (words, rest) := match after "in" rest with
        | some rest => let (words, rest) := wordsOf rest; (some words, rest)
        | none => (none, rest)
      let rest := match rest with
        | .operator ";" :: rest => rest
        | _ => rest
      let (body, rest) ← body? fuel (← after "do" (dropLineEnds rest))
      some (.each name words body, ← after "done" rest)
    | "case" => do
      let (subject, rest) ← match tokens with
        | .word w :: rest => some (w, rest)
        | _ => none
      let (branches, rest) ← choices? fuel (← after "in" (dropLineEnds rest))
      some (.choice subject branches, rest)
    | _ => none

/-- A condition and what hangs on it. -/
def branches? : Nat → List Token → Option (Command × List Token)
  | 0, _ => none
  | fuel + 1, tokens => do
    let (condition, rest) ← body? fuel tokens
    let (good, rest) ← body? fuel (← after "then" rest)
    match reserved? rest with
    | some "elif" =>
      let (bad, rest) ← branches? fuel rest.tail
      some (.conditional condition good bad, rest)
    | some "else" =>
      let (bad, rest) ← body? fuel rest.tail
      some (.conditional condition good bad, ← after "fi" rest)
    | some "fi" => some (.conditional condition good .nothing, rest.tail)
    | _ => none

/-- The branches of a choice. -/
def choices? : Nat → List Token → Option (List (List Word × Command) × List Token)
  | 0, _ => none
  | fuel + 1, tokens =>
    let tokens := dropLineEnds tokens
    match after "esac" tokens with
    | some rest => some ([], rest)
    | none => do
      let tokens := match tokens with
        | .operator "(" :: rest => rest
        | _ => tokens
      let (patterns, rest) ← patternsOf tokens
      let (body, rest) ← list? fuel rest
      match rest with
      | .operator ";;" :: rest =>
        let (more, rest) ← choices? fuel rest
        some ((patterns, body) :: more, rest)
      | _ => some ([(patterns, body)], ← after "esac" rest)

end

/-- The commands of a line that is not empty, and the tokens behind it. -/
def line? (fuel : Nat) : Nat → List Token → Option (Command × List Token)
  | 0, _ => none
  | most + 1, tokens => do
    let (first, rest) ← chain? fuel tokens
    let ended (rest : List Token) : Bool := match rest with
      | [] | .operator "\n" :: _ => true
      | _ => false
    let more (c : Command) (rest : List Token) : Option (Command × List Token) :=
      if ended rest then some (c, rest)
      else (line? fuel most rest).map fun (d, rest) => (.sequence c d, rest)
    match rest with
    | .operator "&" :: rest => more (.background first) rest
    | .operator ";" :: rest => more first rest
    | _ => if ended rest then some (first, rest) else none

/-- The lines of a script, so many at most, each a command. What makes no sense ends it. -/
def linesFrom (fuel : Nat) : Nat → List Token → List Command
  | 0, _ => []
  | most + 1, tokens =>
    match dropLineEnds tokens with
    | [] => []
    | tokens =>
      match line? fuel fuel tokens with
      | some (c, rest) => c :: linesFrom fuel most rest
      | none => [.broken]

/-- The lines of a script. -/
def scriptOf (text : List Char) : List Command :=
  let tokens := tokensOf text
  linesFrom (8 * tokens.length + 8) (tokens.length + 1) tokens

end Gateway.Shell
