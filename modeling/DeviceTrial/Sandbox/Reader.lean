/-
**Reading shell scripts.**

A script is cut into tokens, and the tokens are put together to a `Command`.

* `tokens` — the tokens of a text;
* `readScript` — the command of a text; `none` when the text is malformed.
-/

import DeviceTrial.Sandbox.Script

namespace DeviceTrial.Sandbox

/-- A token of a script. -/
inductive Token where
  /-- A word. -/
  | word (word : Word)
  /-- An operator or the end of a line. -/
  | mark (text : String)
  /-- The number of a channel in front of a redirection. -/
  | channel (number : Nat)
deriving DecidableEq, Repr

/-! ### Words -/

/-- Whether a character may stand in the name of a variable. -/
def isNameChar (c : Char) : Bool := c.isAlphanum || c == '_'

/-- Whether a character is a parameter by itself. -/
def isSpecialParameter (c : Char) : Bool :=
  c.isDigit || c == '?' || c == '#' || c == '@' || c == '*' || c == '$' || c == '!'

/-- The parameter after a dollar sign, and what follows it. -/
def readParameter (cs : List Char) : Option (String × List Char) :=
  match cs with
  | '\x7b' :: rest =>
    match rest.dropWhile fun c => c != '\x7d' with
    | _ :: after => some (String.ofList (rest.takeWhile fun c => c != '\x7d'), after)
    | [] => none
  | c :: rest =>
    if isSpecialParameter c then some (c.toString, rest)
    else if isNameChar c then
      some (String.ofList (cs.takeWhile isNameChar), cs.dropWhile isNameChar)
    else none
  | [] => none

/-- The characters up to the two parentheses that close an arithmetic expression, and what follows
them; `depth` parentheses are open. -/
def readArithmetic : (depth : Nat) → List Char → Option (List Char × List Char)
  | _, [] => none
  | 0, ')' :: ')' :: rest => some ([], rest)
  | depth, ')' :: rest => (readArithmetic (depth - 1) rest).map fun found => (')' :: found.1, found.2)
  | depth, '(' :: rest => (readArithmetic (depth + 1) rest).map fun found => ('(' :: found.1, found.2)
  | depth, c :: rest => (readArithmetic depth rest).map fun found => (c :: found.1, found.2)

/-- The expansion after a dollar sign, and what follows it. -/
def readExpansion (quoted : Bool) (cs : List Char) : Option (WordPart × List Char) :=
  match cs with
  | '(' :: '(' :: rest =>
    (readArithmetic 0 rest).map fun found => (.arithmetic (String.ofList found.1) quoted, found.2)
  | _ => (readParameter cs).map fun found => (.parameter found.1 quoted, found.2)

/-- Puts a character in front of a word. -/
def prependChar (c : Char) (quoted : Bool) : Word → Word
  | .plain text q :: rest =>
    if q = quoted then .plain (c.toString ++ text) q :: rest
    else .plain c.toString quoted :: .plain text q :: rest
  | word => .plain c.toString quoted :: word

/-- Whether a character ends a word. -/
def endsWord (c : Char) : Bool :=
  c == ' ' || c == '\t' || c == '\n' || c == ';' || c == '&' || c == '|' || c == '(' || c == ')'
    || c == '<' || c == '>'

/-- How the characters of a word are read. -/
inductive Quoting where
  | none
  | single
  | double
deriving DecidableEq

/-- The word at the start, and what follows it; `none` when a quote is not closed. -/
def readWord : (fuel : Nat) → Quoting → List Char → Option (Word × List Char)
  | 0, _, _ => none
  | _ + 1, .none, [] => some ([], [])
  | _ + 1, _, [] => none
  | fuel + 1, .single, c :: rest =>
    if c == '\'' then
      (readWord fuel .none rest).map fun found => (.plain "" true :: found.1, found.2)
    else (readWord fuel .single rest).map fun found => (prependChar c true found.1, found.2)
  | fuel + 1, .double, c :: rest =>
    if c == '"' then
      (readWord fuel .none rest).map fun found => (.plain "" true :: found.1, found.2)
    else if c == '\\' then
      match rest with
      | d :: after =>
        if d == '"' || d == '\\' || d == '$' || d == '\x60' then
          (readWord fuel .double after).map fun found => (prependChar d true found.1, found.2)
        else if d == '\n' then readWord fuel .double after
        else (readWord fuel .double rest).map fun found => (prependChar c true found.1, found.2)
      | [] => none
    else if c == '$' then
      match readExpansion true rest with
      | some (part, after) =>
        (readWord fuel .double after).map fun found => (part :: found.1, found.2)
      | none => (readWord fuel .double rest).map fun found => (prependChar c true found.1, found.2)
    else (readWord fuel .double rest).map fun found => (prependChar c true found.1, found.2)
  | fuel + 1, .none, c :: rest =>
    if endsWord c then some ([], c :: rest)
    else if c == '\'' then
      (readWord fuel .single rest).map fun found => (.plain "" true :: found.1, found.2)
    else if c == '"' then
      (readWord fuel .double rest).map fun found => (.plain "" true :: found.1, found.2)
    else if c == '\\' then
      match rest with
      | '\n' :: after => readWord fuel .none after
      | d :: after =>
        (readWord fuel .none after).map fun found => (prependChar d true found.1, found.2)
      | [] => some ([.plain "\\" true], [])
    else if c == '$' then
      match readExpansion false rest with
      | some (part, after) =>
        (readWord fuel .none after).map fun found => (part :: found.1, found.2)
      | none => (readWord fuel .none rest).map fun found => (prependChar c false found.1, found.2)
    else (readWord fuel .none rest).map fun found => (prependChar c false found.1, found.2)

/-! ### Tokens -/

/-- The operators, longer ones before their beginnings. -/
def operators : List String :=
  ["&&", "||", ";;", ">>", ">&", "<&", ";", "&", "|", "(", ")", "<", ">", "\n"]

/-- The operator at the start. -/
def operatorAt? (cs : List Char) : Option (String × List Char) :=
  operators.findSome? fun operator =>
    if operator.toList.isPrefixOf cs then some (operator, cs.drop operator.length) else none

/-- The tokens of the characters. -/
def tokensOf : (fuel : Nat) → List Char → Option (List Token)
  | 0, _ => none
  | fuel + 1, cs =>
    match cs with
    | [] => some []
    | c :: rest =>
      if c == ' ' || c == '\t' then tokensOf fuel rest
      else if c == '#' then tokensOf fuel (rest.dropWhile fun c => c != '\n')
      else
        match operatorAt? cs with
        | some (operator, after) => (tokensOf fuel after).map (.mark operator :: ·)
        | none => do
          let (word, after) ← readWord (cs.length + 1) .none cs
          let token := match bareText? word, after with
            | some text, d :: _ =>
              if (d == '<' || d == '>') && text.toList.all Char.isDigit then
                Token.channel (text.toNat?.getD 0)
              else .word word
            | _, _ => .word word
          return token :: (← tokensOf fuel after)

/-- The tokens of a text. -/
def tokens (text : String) : Option (List Token) := tokensOf (text.length + 1) text.toList

/-! ### Commands -/

/-- Whether a token is the given reserved word. -/
def isReserved (name : String) : Token → Bool
  | .word word => bareText? word == some name
  | _ => false

/-- Whether a list of commands ends before a token. -/
def endsList (token : Token) : Bool :=
  token == .mark ")" ||
    ["do", "done", "then", "else", "elif", "fi", "\x7d"].any fun name => isReserved name token

/-- Takes the ends of lines and commands off. -/
def skipSeparators : List Token → List Token
  | .mark "\n" :: rest => skipSeparators rest
  | .mark ";" :: rest => skipSeparators rest
  | tokens => tokens

/-- Takes the ends of lines off. -/
def skipNewlines : List Token → List Token
  | .mark "\n" :: rest => skipNewlines rest
  | tokens => tokens

/-- The channel of a number. -/
def channelOf? : Nat → Option Channel
  | 1 => some .out
  | 2 => some .err
  | _ => none

/-- The redirection at the start. -/
def readRedirection : List Token → Option (Redirection × List Token)
  | .channel n :: .mark ">" :: .word target :: rest =>
    (channelOf? n).map fun channel => (.intoFile channel false target, rest)
  | .channel n :: .mark ">>" :: .word target :: rest =>
    (channelOf? n).map fun channel => (.intoFile channel true target, rest)
  | .channel n :: .mark ">&" :: .word target :: rest => do
    let source ← channelOf? n
    let target ← channelOf? ((← bareText? target).toNat?.getD 0)
    return (.merge source target, rest)
  | .channel 0 :: .mark "<" :: .word source :: rest => some (.fromFile source, rest)
  | .mark ">" :: .word target :: rest => some (.intoFile .out false target, rest)
  | .mark ">>" :: .word target :: rest => some (.intoFile .out true target, rest)
  | .mark ">&" :: .word target :: rest => do
    let target ← channelOf? ((← bareText? target).toNat?.getD 0)
    return (.merge .out target, rest)
  | .mark "<" :: .word source :: rest => some (.fromFile source, rest)
  | _ => none

/-- The redirections at the start. -/
def readRedirections : (fuel : Nat) → List Token → List Redirection × List Token
  | 0, tokens => ([], tokens)
  | fuel + 1, tokens =>
    match readRedirection tokens with
    | some (redirection, rest) =>
      let (others, rest) := readRedirections fuel rest
      (redirection :: others, rest)
    | none => ([], tokens)

/-- A word that is an assignment: the name and the value. -/
def assignment? : Word → Option (String × Word)
  | .plain text false :: rest =>
    let cs := text.toList
    let name := cs.takeWhile isNameChar
    match cs.dropWhile isNameChar with
    | '=' :: value =>
      if name.isEmpty || (name.head?.map Char.isDigit).getD true then none
      else some (String.ofList name,
        (if value.isEmpty then [] else [.plain (String.ofList value) false]) ++ rest)
    | _ => none
  | _ => none

/-- Words and redirections of a simple command. -/
def readSimple : (fuel : Nat) → List Token → (List Word × List Redirection) × List Token
  | 0, tokens => (([], []), tokens)
  | fuel + 1, tokens =>
    match readRedirection tokens with
    | some (redirection, rest) =>
      let ((words, redirections), rest) := readSimple fuel rest
      ((words, redirection :: redirections), rest)
    | none =>
      match tokens with
      | .word word :: rest =>
        let ((words, redirections), rest) := readSimple fuel rest
        ((word :: words, redirections), rest)
      | _ => (([], []), tokens)

/-- The assignments at the start of words, and the words after them. -/
def splitAssignments : List Word → List (String × Word) × List Word
  | [] => ([], [])
  | word :: rest =>
    match assignment? word with
    | some found => let (others, words) := splitAssignments rest; (found :: others, words)
    | none => ([], word :: rest)

/-- A command with redirections, if there are any. -/
def withRedirections (command : Command) (redirections : List Redirection) : Command :=
  if redirections.isEmpty then command else .redirected command redirections

/-- The words of a loop up to the end of the line. -/
def takeWords : List Token → List Word × List Token
  | .word word :: rest => let (words, rest) := takeWords rest; (word :: words, rest)
  | tokens => ([], tokens)

mutual

/-- The commands at the start, up to a token that ends them. -/
def readList : (fuel : Nat) → List Token → Option (Command × List Token)
  | 0, _ => none
  | fuel + 1, tokens => do
    match skipSeparators tokens with
    | [] => return (.nothing, [])
    | token :: rest =>
      if endsList token then return (.nothing, token :: rest)
      let (command, rest) ← readAndOr fuel (token :: rest)
      match rest with
      | .mark "&" :: rest =>
        let (others, rest) ← readList fuel rest
        return (.sequence (.background command) others, rest)
      | .mark ";" :: rest =>
        let (others, rest) ← readList fuel rest
        return (.sequence command others, rest)
      | .mark "\n" :: rest =>
        let (others, rest) ← readList fuel rest
        return (.sequence command others, rest)
      | rest => return (command, rest)

/-- Commands joined by conditions. -/
def readAndOr : (fuel : Nat) → List Token → Option (Command × List Token)
  | 0, _ => none
  | fuel + 1, tokens => do
    let (first, rest) ← readPipe fuel tokens
    readMore fuel first rest

/-- The conditions after a command. -/
def readMore : (fuel : Nat) → Command → List Token → Option (Command × List Token)
  | 0, _, _ => none
  | fuel + 1, first, tokens => do
    match tokens with
    | .mark "&&" :: rest =>
      let (second, rest) ← readPipe fuel (skipNewlines rest)
      readMore fuel (.both first second) rest
    | .mark "||" :: rest =>
      let (second, rest) ← readPipe fuel (skipNewlines rest)
      readMore fuel (.either first second) rest
    | rest => return (first, rest)

/-- Commands joined by pipes. -/
def readPipe : (fuel : Nat) → List Token → Option (Command × List Token)
  | 0, _ => none
  | fuel + 1, tokens => do
    match tokens with
    | [] => none
    | token :: rest =>
      if isReserved "!" token then
        let (command, rest) ← readPipe fuel rest
        return (.negate command, rest)
      let (first, rest) ← readCommand fuel (token :: rest)
      match rest with
      | .mark "|" :: rest =>
        let (second, rest) ← readPipe fuel (skipNewlines rest)
        return (.pipe first second, rest)
      | rest => return (first, rest)

/-- One command. -/
def readCommand : (fuel : Nat) → List Token → Option (Command × List Token)
  | 0, _ => none
  | fuel + 1, tokens => do
    match tokens with
    | .mark "(" :: rest =>
      let (body, rest) ← readList fuel rest
      let .mark ")" :: rest := rest | none
      let (redirections, rest) := readRedirections rest.length rest
      return (withRedirections (.subshell body) redirections, rest)
    | first :: rest =>
      if isReserved "\x7b" first then
        let (body, rest) ← readList fuel rest
        let closing :: rest := rest | none
        if !isReserved "\x7d" closing then none
        let (redirections, rest) := readRedirections rest.length rest
        return (withRedirections body redirections, rest)
      else if isReserved "for" first then
        let .word name :: rest := rest | none
        let loopName ← bareText? name
        let opening :: rest := skipNewlines rest | none
        if !isReserved "in" opening then none
        let (words, rest) := takeWords rest
        let start :: rest := skipSeparators rest | none
        if !isReserved "do" start then none
        let (body, rest) ← readList fuel rest
        let closing :: rest := rest | none
        if !isReserved "done" closing then none
        let (redirections, rest) := readRedirections rest.length rest
        return (withRedirections (.each loopName words body) redirections, rest)
      else if isReserved "while" first || isReserved "until" first then
        let (condition, rest) ← readList fuel rest
        let start :: rest := rest | none
        if !isReserved "do" start then none
        let (body, rest) ← readList fuel rest
        let closing :: rest := rest | none
        if !isReserved "done" closing then none
        let (redirections, rest) := readRedirections rest.length rest
        let loop := Command.loop (isReserved "while" first) condition body
        return (withRedirections loop redirections, rest)
      else if isReserved "if" first then
        let (chosen, rest) ← readChoice fuel rest
        let (redirections, rest) := readRedirections rest.length rest
        return (withRedirections chosen redirections, rest)
      else if endsList first then none
      else
        let ((words, redirections), rest) := readSimple (first :: rest).length (first :: rest)
        if words.isEmpty && redirections.isEmpty then none
        let (assignments, words) := splitAssignments words
        return (withRedirections (.simple assignments words) redirections, rest)
    | [] => none

/-- The rest of a choice after `if` or `elif`. -/
def readChoice : (fuel : Nat) → List Token → Option (Command × List Token)
  | 0, _ => none
  | fuel + 1, tokens => do
    let (condition, rest) ← readList fuel tokens
    let opening :: rest := rest | none
    if !isReserved "then" opening then none
    let (first, rest) ← readList fuel rest
    let next :: rest := rest | none
    if isReserved "fi" next then return (.choose condition first .nothing, rest)
    else if isReserved "elif" next then
      let (second, rest) ← readChoice fuel rest
      return (.choose condition first second, rest)
    else if isReserved "else" next then
      let (second, rest) ← readList fuel rest
      let closing :: rest := rest | none
      if !isReserved "fi" closing then none
      return (.choose condition first second, rest)
    else none

end

/-- The command of a text. -/
def readScript (text : String) : Option Command := do
  let tokens ← tokens text
  let (command, rest) ← readList (8 * tokens.length + 8) tokens
  if rest.isEmpty then return command else none

end DeviceTrial.Sandbox
