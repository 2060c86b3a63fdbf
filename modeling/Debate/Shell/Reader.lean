import Debate.Shell.Syntax

/-!
# Reading scripts

A script is read one complete line at a time, so that a mistake further down is only noticed after the
statements above it were executed. A backslash in front of a line feed joins two lines. A text that is
given in the script starts after the line in which it is asked for.

* `Token`         what a line is made of;
* `Mishap`        a mistake, and the line it is on;
* `Source`        what is left of a script;
* `Source.next`   the statements of the next complete line, and what is left after them.
-/

namespace Debate.Shell

/-! ## tokens -/

/-- the words that start and end statements -/
def keywords : List String :=
  ["!", "case", "do", "done", "elif", "else", "esac", "fi", "for", "if", "in", "then", "until", "while",
    "\x7b", "\x7d"]

/-- how a redirection is written -/
inductive Arrow where
  | path (how : Opening) (replacing : Bool)
  | same
  | text (tabs : Bool)
  deriving DecidableEq, Repr

/-- what a line is made of -/
inductive Token where
  | eof
  | newline
  /-- a mark such as a semicolon or a bracket -/
  | mark (s : String)
  | keyword (s : String)
  | arrow (number : Nat) (a : Arrow)
  | word (w : Word) (quoted : Bool)
  deriving Inhabited

/-- the name of a token in a complaint -/
def Token.name : Token → String
  | .eof => "end of file"
  | .newline => "newline"
  | .mark s | .keyword s => "\"" ++ s ++ "\""
  | .arrow .. => "redirection"
  | .word .. => "word"

/-- whether a token ends the statements that stand inside of another one -/
def Token.endsStatements : Token → Bool
  | .mark s => s = ")" || s = ";;"
  | .keyword s => ["do", "done", "elif", "else", "esac", "fi", "then", "\x7d"].contains s
  | _ => false

/-- commands of the shell that a function cannot be named after -/
def specialNames : List String :=
  [".", ":", "break", "continue", "eval", "exec", "exit", "export", "local", "readonly", "return", "set",
    "shift", "times", "trap", "unset"]

/-- a mistake in a script, and the line it is on -/
structure Mishap where
  line : Nat
  text : String
  deriving DecidableEq, Repr

/-- what is left of a script -/
structure Source where
  rest : List Char
  line : Nat := 1
  /-- lines that were taken out in front of the next line feed -/
  skipped : Nat := 0
  /-- a token that was read but not used -/
  pushed : Option Token := none
  deriving Inhabited

/-- a step of reading -/
abbrev Reading (α : Type) := StateT Source (Except Mishap) α

/-- a mistake -/
def fail {α : Type} (text : String) : Reading α := fun s => .error { line := s.line, text }

/-- a token that cannot stand where it does -/
def unexpected {α : Type} (t : Token) (expected : Option Token := none) : Reading α :=
  let text := t.name ++ " unexpected" ++ match expected with
    | some e => " (expecting " ++ e.name ++ ")"
    | none => ""
  fail ("Syntax error: " ++ String.ofList (text.toList.take 63))

/-! ## characters -/

/-- what is left after backslashes in front of line feeds -/
def joined : Nat → Source → Source
  | 0, s => s
  | fuel + 1, s =>
    match s.rest with
    | '\\' :: '\n' :: rest => joined fuel { s with rest, line := s.line + 1 + s.skipped, skipped := 0 }
    | _ => s

/-- the next character, after joined lines -/
def peek : Reading (Option Char) := modifyGet fun s =>
  let s := joined s.rest.length s
  (s.rest.head?, s)

/-- the next character, as it stands -/
def peekRaw : Reading (Option Char) := return (← get).rest.head?

/-- the next character is taken -/
def advance : Reading Unit := modify fun s =>
  match s.rest with
  | [] => s
  | c :: rest =>
    if c = '\n' then { s with rest, line := s.line + 1 + s.skipped, skipped := 0 } else { s with rest }

/-- the next character is taken if it is the one given -/
def takes (c : Char) : Reading Bool := do
  if (← peek) = some c then
    advance
    return true
  else return false

/-- the next characters with a property -/
def takeWhile (p : Char → Bool) : Nat → Reading Octets
  | 0 => return []
  | fuel + 1 => do
    match ← peek with
    | some c =>
      if p c then
        advance
        return c :: (← takeWhile p fuel)
      else return []
    | none => return []

/-- how many characters are left -/
def remaining : Reading Nat := return (← get).rest.length + 1

/-! ## words -/

/-- where a sequence of parts ends -/
inductive Limit where
  /-- at a blank or a mark -/
  | gap
  /-- at a double quote -/
  | quote
  /-- at a closing brace -/
  | brace
  /-- at two closing brackets -/
  | brackets
  /-- at the end of the text -/
  | document
  deriving DecidableEq, Repr

/-- a character that ends a word -/
def isGapChar (c : Char) : Bool := " \t\n;&|()<>".toList.contains c

/-- the grave accent -/
def grave : Char := Char.ofNat 96

/-- a parameter with a name of one character -/
def isSpecial (c : Char) : Bool := c.isDigit || "@*#?-$!".toList.contains c

/-- a part in front of others; texts are put together -/
def consPart (p : Part) (ps : Word) : Word :=
  match p, ps with
  | .plain a, .plain b :: ps => .plain (a ++ b) :: ps
  | .quoted a, .quoted b :: ps => .quoted (a ++ b) :: ps
  | p, ps => p :: ps

/-- a text between single quotes after the first of them -/
def singleQuoted : Nat → Reading Octets
  | 0 => fail "Syntax error: Unterminated quoted string"
  | fuel + 1 => do
    match ← peekRaw with
    | none => fail "Syntax error: Unterminated quoted string"
    | some '\'' => do
      advance
      return []
    | some c => do
      advance
      return c :: (← singleQuoted fuel)

/-- a script between grave accents after the first of them -/
def graveQuoted (quoted : Bool) : Nat → Reading Octets
  | 0 => fail "Syntax error: EOF in backquote substitution"
  | fuel + 1 => do
    match ← peek with
    | none => fail "Syntax error: EOF in backquote substitution"
    | some '\\' => do
      advance
      match ← peekRaw with
      | none => fail "Syntax error: EOF in backquote substitution"
      | some c => do
        advance
        let cs ← graveQuoted quoted fuel
        if c = '\\' ∨ c = grave ∨ c = '$' ∨ (quoted ∧ c = '"') then return c :: cs else return '\\' :: c :: cs
    | some c => do
      advance
      if c = grave then return [] else return c :: (← graveQuoted quoted fuel)

/-- a text that is given in a script: the lines up to its mark, and what follows -/
def documentLines (tabs : Bool) (mark : Octets) : List Octets → List Octets × List Octets
  | [] => ([], [])
  | l :: ls =>
    let l := if tabs then l.dropWhile (· = '\t') else l
    if Octets.chomp l = mark then ([], ls)
    else
      let r := documentLines tabs mark ls
      (l :: r.1, r.2)

/-- a text that is given in the script is taken out of it -/
def takeDocument (tabs : Bool) (mark : Octets) : Reading (Octets × Nat) := modifyGet fun s =>
  let here := s.rest.takeWhile (· ≠ '\n')
  match s.rest.drop here.length with
  | [] => (([], s.line), s)
  | _ :: below =>
    let lines := Octets.lines below
    let (document, after) := documentLines tabs mark lines
    let start := s.line + s.skipped + 1
    ((document.flatten, start),
      { s with rest := here ++ '\n' :: after.flatten, skipped := s.skipped + (lines.length - after.length) })

/-- the text of a word that is not expanded -/
def Word.literal (w : Word) : Octets := w.flatMap fun p =>
  match p with
  | .plain cs | .quoted cs => cs
  | _ => []

/-- the text of a word without quotes and expansions -/
def Word.plain? : Word → Option Octets
  | [.plain cs] => some cs
  | _ => none

/-- a word as the name and value of an assignment -/
def Word.assignment? (w : Word) : Option (Octets × Word) :=
  match w with
  | .plain cs :: ps =>
    (Octets.assignment? cs).map fun (name, value) =>
      (name, if value.isEmpty then ps else .plain value :: ps)
  | _ => none

/-- what arrow starts with a character -/
def arrowAfter (c : Char) : Reading Arrow := do
  if c = '>' then
    if ← takes '>' then return .path .appending true
    else if ← takes '|' then return .path .writing true
    else if ← takes '&' then return .same
    else return .path .writing false
  else if ← takes '<' then return .text (← takes '-')
  else if ← takes '&' then return .same
  else if ← takes '>' then return .path .both true
  else return .path .reading true

mutual

/-- the parts of a word up to its limit; `depth` counts brackets that are open -/
def parts (limit : Limit) (quoted literal : Bool) : Nat → Nat → Reading Word
  | 0, _ => return []
  | fuel + 1, depth => do
    let text (c : Char) : Part := if quoted then .quoted [c] else .plain [c]
    let more (p : Part) (depth : Nat) : Reading Word := do
      return consPart p (← parts limit quoted literal fuel depth)
    match ← peek with
    | none =>
      match limit with
      | .gap | .document => return []
      | .quote => fail "Syntax error: Unterminated quoted string"
      | .brace => fail "Syntax error: Missing '\x7d'"
      | .brackets => fail "Syntax error: Missing '))'"
    | some c =>
      if limit = .gap ∧ isGapChar c then return []
      else if limit = .quote ∧ c = '"' then
        advance
        return []
      else if limit = .brace ∧ c = '\x7d' then
        advance
        return []
      else if limit = .brackets ∧ c = '(' then
        advance
        more (text c) (depth + 1)
      else if limit = .brackets ∧ c = ')' then
        advance
        if depth ≠ 0 then more (text c) (depth - 1)
        else if ← takes ')' then return []
        else more (text c) 0
      else if c = '\\' then
        advance
        match ← peekRaw with
        | none => more (.quoted ['\\']) depth
        | some d => do
          advance
          let keeps := quoted && !(d = '\\' || d = grave || d = '$' || (d = '"' && limit ≠ .document) ||
            (d = '\x7d' && limit = .brace))
          more (.quoted (if keeps then ['\\', d] else [d])) depth
      else if c = '\'' ∧ !quoted then
        advance
        let cs ← singleQuoted (← remaining)
        let rest ← parts limit quoted literal fuel depth
        return .quoted cs :: rest
      else if c = '"' ∧ !quoted then
        advance
        let inner ← parts .quote true literal fuel 0
        let rest ← parts limit quoted literal fuel depth
        return .quoted [] :: inner ++ .quoted [] :: rest
      else if c = '"' ∧ (limit = .brace ∨ limit = .brackets) then
        advance
        parts limit quoted literal fuel depth
      else if c = grave ∧ !literal then
        advance
        let script ← graveQuoted quoted (← remaining)
        let here ← get
        set { rest := script, line := here.line : Source }
        let body ← statements fuel false true
        set here
        more (.output quoted body) depth
      else if c = '$' ∧ !literal then
        advance
        let p ← dollar quoted fuel
        more p depth
      else
        advance
        more (text c) depth

/-- what a dollar sign starts -/
def dollar (quoted : Bool) : Nat → Reading Part
  | 0 => return .plain ['$']
  | fuel + 1 => do
    match ← peek with
    | some '(' => do
      advance
      if ← takes '(' then return .arithmetic quoted (← parts .brackets true false fuel 0)
      else do
        let body ← statements fuel false true
        match ← token false false fuel with
        | .mark ")" => return .output quoted body
        | t => unexpected t (some (.mark ")"))
    | some '\x7b' => do
      advance
      braced quoted fuel
    | some c =>
      if Octets.isNameStart c then
        return .parameter quoted (← takeWhile Octets.isNameChar (← remaining)) .asIs
      else if isSpecial c then do
        advance
        return .parameter quoted [c] .asIs
      else return if quoted then .quoted ['$'] else .plain ['$']
    | none => return if quoted then .quoted ['$'] else .plain ['$']

/-- a parameter between braces after the first of them -/
def braced (quoted : Bool) : Nat → Reading Part
  | 0 => return .plain []
  | fuel + 1 => do
    let name : Reading Octets := do
      match ← peek with
      | some c =>
        if Octets.isNameStart c then takeWhile Octets.isNameChar (← remaining)
        else if c.isDigit then takeWhile Char.isDigit (← remaining)
        else if isSpecial c then do
          advance
          return [c]
        else return []
      | none => return []
    if ← takes '#' then
      match ← peek with
      | some '\x7d' => do
        advance
        return .parameter quoted ['#'] .asIs
      | some c =>
        if Octets.isNameChar c then
          let n ← name
          if ← takes '\x7d' then return .parameter quoted n .length
          else do
            let _ ← parts .brace quoted false fuel 0
            return .parameter quoted n .unknown
        else if isSpecial c then do
          let here ← get
          advance
          if ← takes '\x7d' then return .parameter quoted [c] .length
          else do
            set here
            changed quoted ['#'] fuel
        else changed quoted ['#'] fuel
      | none => changed quoted ['#'] fuel
    else do
      let n ← name
      if n.isEmpty then
        let _ ← parts .brace quoted false fuel 0
        return .parameter quoted n .unknown
      else changed quoted n fuel

/-- what follows the name of a parameter between braces -/
def changed (quoted : Bool) (name : Octets) : Nat → Reading Part
  | 0 => return .plain []
  | fuel + 1 => do
    let word : Reading Word := parts .brace quoted false fuel 0
    let pattern : Reading Word := parts .brace false false fuel 0
    let colon ← takes ':'
    match ← peek with
    | some '-' => do
      advance
      return .parameter quoted name (.orElse colon (← word))
    | some '=' => do
      advance
      return .parameter quoted name (.orAssign colon (← word))
    | some '?' => do
      advance
      return .parameter quoted name (.orFail colon (← word))
    | some '+' => do
      advance
      return .parameter quoted name (.instead colon (← word))
    | some '\x7d' => do
      advance
      return .parameter quoted name (if colon then .unknown else .asIs)
    | some c =>
      if !colon ∧ (c = '%' ∨ c = '#') then do
        advance
        let longest ← takes c
        let w ← pattern
        return .parameter quoted name (if c = '#' then .withoutFirst longest w else .withoutLast longest w)
      else do
        let _ ← word
        return .parameter quoted name .unknown
    | none => do
      let _ ← word
      return .parameter quoted name .unknown

/-- the next token; with `lines`, line feeds are skipped, and with `words`, keywords are known -/
def token (lines words : Bool) : Nat → Reading Token
  | 0 => return .eof
  | fuel + 1 => do
    let t ← match (← get).pushed with
      | some t => do
        modify fun s => { s with pushed := none }
        pure t
      | none => freshToken fuel
    match t with
    | .newline => if lines then token lines words fuel else return t
    | .word w false =>
      match w.plain? with
      | some cs =>
        let s := String.ofList cs
        if words ∧ keywords.contains s then return .keyword s else return t
      | none => return t
    | t => return t

/-- the token that starts at the next character -/
def freshToken : Nat → Reading Token
  | 0 => return .eof
  | fuel + 1 => do
    let pair (a : Char) (one two : String) : Reading Token := do
      advance
      if ← takes a then return .mark two else return .mark one
    match ← peek with
    | none => return .eof
    | some ' ' | some '\t' => do
      advance
      freshToken fuel
    | some '#' => do
      modify fun s => { s with rest := s.rest.dropWhile (· ≠ '\n') }
      freshToken fuel
    | some '\n' => do
      advance
      return .newline
    | some '&' => pair '&' "&" "&&"
    | some '|' => pair '|' "|" "||"
    | some ';' => pair ';' ";" ";;"
    | some '(' => do
      advance
      return .mark "("
    | some ')' => do
      advance
      return .mark ")"
    | some _ => do
      let w ← parts .gap false false fuel 0
      let quoted := w.any fun p =>
        match p with
        | .quoted _ => true
        | _ => false
      match ← peek with
      | some c =>
        let number? : Option (Option Nat) := match w with
          | [] => some none
          | [.plain [d]] => if d.isDigit then some (some (d.toNat - 48)) else none
          | _ => none
        if c = '<' ∨ c = '>' then
          match number? with
          | some n => do
            advance
            return .arrow (n.getD (if c = '<' then 0 else 1)) (← arrowAfter c)
          | none => return .word w quoted
        else return .word w quoted
      | none => return .word w quoted

/-- the target of a redirection -/
def target (number : Nat) (a : Arrow) : Nat → Reading Redirection
  | 0 => return .text number []
  | fuel + 1 => do
    match a with
    | .text tabs => do
      let _ ← takeWhile (fun c => c = ' ' || c = '\t') (← remaining)
      let w ← parts .gap false true fuel 0
      if w.isEmpty then unexpected (← token false false fuel)
      let quoted := w.any fun p =>
        match p with
        | .quoted _ => true
        | _ => false
      let (document, start) ← takeDocument tabs w.literal
      if quoted then return .text number [.quoted document]
      else do
        let here ← get
        set { rest := document, line := start : Source }
        let ps ← parts .document true false fuel 0
        set here
        return .text number ps
    | a => do
      match ← token false false fuel with
      | .word w _ =>
        match a with
        | .path how replacing => return .file number how replacing w
        | _ => return .same number w
      | t => unexpected t

/-- the redirections that follow a statement -/
def redirections : Nat → Reading (List Redirection)
  | 0 => return []
  | fuel + 1 => do
    match ← token false true fuel with
    | .arrow n a => do
      let r ← target n a fuel
      return r :: (← redirections fuel)
    | t => do
      modify fun s => { s with pushed := some t }
      return []

/-- statements: those of a line, or up to a token that ends them if they stand inside of others; there
may be none if `none` says so -/
def statements : Nat → Bool → Bool → Reading (List Statement)
  | 0, _, _ => return []
  | fuel + 1, top, mayBeEmpty => do
    let t ← token (!top) true fuel
    match t with
    | .newline => return []
    | .eof => do
      modify fun s => { s with pushed := some .eof }
      return []
    | t => do
      modify fun s => { s with pushed := some t }
      if !top ∧ mayBeEmpty ∧ t.endsStatements then return []
      else do
        let s ← andOr fuel
        match ← token false false fuel with
        | .mark "&" => return .background s :: (← statements fuel top true)
        | .mark ";" => return s :: (← statements fuel top true)
        | .newline => do
          modify fun s => { s with pushed := some .newline }
          return s :: (← statements fuel top true)
        | .eof => do
          modify fun s => { s with pushed := some .eof }
          return [s]
        | t =>
          if top then unexpected t
          else do
            modify fun s => { s with pushed := some t }
            return [s]

/-- statements, each of which depends on those before it -/
def andOr : Nat → Reading Statement
  | 0 => return default
  | fuel + 1 => do
    let s ← pipe false fuel
    andOrAfter s fuel

/-- what follows a statement on which others depend -/
def andOrAfter (s : Statement) : Nat → Reading Statement
  | 0 => return s
  | fuel + 1 => do
    match ← token false false fuel with
    | .mark "&&" => do
      let s' ← pipe true fuel
      andOrAfter (.both s s') fuel
    | .mark "||" => do
      let s' ← pipe true fuel
      andOrAfter (.either s s') fuel
    | t => do
      modify fun s => { s with pushed := some t }
      return s

/-- statements that are connected by pipes -/
def pipe (after : Bool) : Nat → Reading Statement
  | 0 => return default
  | fuel + 1 => do
    match ← token after after fuel with
    | .keyword "!" => do
      let s ← stages false true fuel
      return .negation s
    | t => do
      modify fun s => { s with pushed := some t }
      stages false false fuel

/-- the statements that are connected by pipes -/
def stages (lines words : Bool) : Nat → Reading Statement
  | 0 => return default
  | fuel + 1 => do
    let first ← statement lines words fuel
    let rest ← stagesAfter fuel
    return if rest.isEmpty then first else .pipeline (first :: rest)

/-- the statements after a pipe -/
def stagesAfter : Nat → Reading (List Statement)
  | 0 => return []
  | fuel + 1 => do
    match ← token false false fuel with
    | .mark "|" => do
      let s ← statement true true fuel
      return s :: (← stagesAfter fuel)
    | t => do
      modify fun s => { s with pushed := some t }
      return []

/-- a keyword that must stand here -/
def require (k : String) : Nat → Reading Unit
  | 0 => return ()
  | fuel + 1 => do
    match ← token false true fuel with
    | .keyword s => if s = k then return () else unexpected (.keyword s) (some (.keyword k))
    | t => unexpected t (some (.keyword k))

/-- what follows the test of a choice -/
def branches : Nat → Reading (List Statement × List Statement × List Statement)
  | 0 => return ([], [], [])
  | fuel + 1 => do
    let test ← statements fuel false false
    require "then" fuel
    let yes ← statements fuel false false
    match ← token false true fuel with
    | .keyword "elif" => do
      let (test', yes', no') ← branches fuel
      return (test, yes, [.choice test' yes' no' []])
    | .keyword "else" => return (test, yes, ← statements fuel false false)
    | t => do
      modify fun s => { s with pushed := some t }
      return (test, yes, [])

/-- words up to a token of another kind, which is left -/
def wordsUpTo : Nat → Reading (List Word)
  | 0 => return []
  | fuel + 1 => do
    match ← token false false fuel with
    | .word w _ => return w :: (← wordsUpTo fuel)
    | t => do
      modify fun s => { s with pushed := some t }
      return []

/-- the patterns of an arm up to the closing bracket -/
def patterns : Nat → Token → Reading (List Word)
  | 0, _ => return []
  | fuel + 1, t => do
    let w ← match t with
      | .word w _ => pure w
      | .keyword k => pure [.plain k.toList]
      | _ => pure []
    match ← token false false fuel with
    | .mark "|" => do
      let t ← token false false fuel
      return w :: (← patterns fuel t)
    | .mark ")" =>
      match t with
      | .word .. | .keyword _ => return [w]
      | t => unexpected t (some (.mark ")"))
    | t => unexpected t (some (.mark ")"))

/-- the arms of a choice between patterns -/
def arms : Nat → Reading (List (List Word × List Statement))
  | 0 => return []
  | fuel + 1 => do
    match ← token true true fuel with
    | .keyword "esac" => return []
    | t => do
      let t ← match t with
        | .mark "(" => token false false fuel
        | t => pure t
      let ps ← patterns fuel t
      let body ← statements fuel false true
      match ← token true true fuel with
      | .keyword "esac" => return [(ps, body)]
      | .mark ";;" => return (ps, body) :: (← arms fuel)
      | t => unexpected t (some (.mark ";;"))

/-- a statement -/
def statement (lines words : Bool) : Nat → Reading Statement
  | 0 => return default
  | fuel + 1 => do
    let t ← token lines words fuel
    let line := (← get).line
    match t with
    | .keyword "if" => do
      let (test, yes, no) ← branches fuel
      require "fi" fuel
      return .choice test yes no (← redirections fuel)
    | .keyword "while" | .keyword "until" => do
      let test ← statements fuel false false
      require "do" fuel
      let body ← statements fuel false false
      require "done" fuel
      let untilSuccess := match t with
        | .keyword "until" => true
        | _ => false
      return .loop untilSuccess test body (← redirections fuel)
    | .keyword "for" => do
      let name ← match ← token false false fuel with
        | .word w false =>
          match w.plain? with
          | some cs => if Octets.isName cs then pure cs else fail "Syntax error: Bad for loop variable"
          | none => fail "Syntax error: Bad for loop variable"
        | _ => fail "Syntax error: Bad for loop variable"
      let ws ← match ← token true true fuel with
        | .keyword "in" => do
          let ws ← wordsUpTo fuel
          match ← token false false fuel with
          | .newline | .mark ";" => pure ws
          | t => unexpected t
        | .mark ";" => pure [[.parameter true ['@'] .asIs]]
        | t => do
          modify fun s => { s with pushed := some t }
          pure [[.parameter true ['@'] .asIs]]
      match ← token true true fuel with
      | .keyword "do" => pure ()
      | t => unexpected t (some (.keyword "do"))
      let body ← statements fuel false false
      require "done" fuel
      return .each line name ws body (← redirections fuel)
    | .keyword "case" => do
      let w ← match ← token false false fuel with
        | .word w _ => pure w
        | t => unexpected t (some (.word [] false))
      match ← token true true fuel with
      | .keyword "in" => pure ()
      | t => unexpected t (some (.keyword "in"))
      let as ← arms fuel
      return .cases line w as (← redirections fuel)
    | .mark "(" => do
      let body ← statements fuel false false
      match ← token false true fuel with
      | .mark ")" => return .subshell line body (← redirections fuel)
      | t => unexpected t (some (.mark ")"))
    | .keyword "\x7b" => do
      let body ← statements fuel false false
      require "\x7d" fuel
      return .group body (← redirections fuel)
    | .word .. | .arrow .. => do
      modify fun s => { s with pushed := some t }
      command line [] [] [] fuel
    | t => unexpected t

/-- the words and redirections of a command after those that were read; the last ones first -/
def command (line : Nat) (assignments : List (Octets × Word)) (words : List Word)
    (redirected : List Redirection) : Nat → Reading Statement
  | 0 => return default
  | fuel + 1 => do
    match ← token false false fuel with
    | .word w _ =>
      match (if words.isEmpty then w.assignment? else none) with
      | some a => command line (a :: assignments) words redirected fuel
      | none => command line assignments (w :: words) redirected fuel
    | .arrow n a => do
      let r ← target n a fuel
      command line assignments words (r :: redirected) fuel
    | .mark "(" =>
      match words, assignments, redirected with
      | [w], [], [] => do
        match ← token false false fuel with
        | .mark ")" => pure ()
        | t => unexpected t (some (.mark ")"))
        match w.plain? with
        | some name =>
          if Octets.isName name ∧ !specialNames.contains (String.ofList name) then do
            let body ← statement true true fuel
            return .function line name body
          else fail "Syntax error: Bad function name"
        | none => fail "Syntax error: Bad function name"
      | _, _, _ => do
        modify fun s => { s with pushed := some (.mark "(") }
        return .command line assignments.reverse words.reverse redirected.reverse
    | t => do
      modify fun s => { s with pushed := some t }
      return .command line assignments.reverse words.reverse redirected.reverse

end

/-! ## scripts -/

/-- the source of a text -/
def Source.ofText (cs : Octets) (line : Nat := 1) : Source := { rest := cs, line }

/-- the statements of the next complete line, and what is left; nothing at the end of the script -/
def Source.next (s : Source) : Except Mishap (Option (List Statement × Source)) :=
  let fuel := 12 * s.rest.length + 50
  match (token false true fuel).run s with
  | .error e => .error e
  | .ok (.eof, _) => .ok none
  | .ok (.newline, s) => .ok (some ([], s))
  | .ok (t, s) =>
    ((statements fuel true false).run { s with pushed := some t }).map some

end Debate.Shell
