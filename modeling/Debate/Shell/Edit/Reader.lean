import Debate.Shell.Edit.Script
import Debate.Shell.Escape
import Debate.Shell.Regex.Reader

/-!
# Reading scripts that edit lines

* `Edit.Source`    a text of a script, and how far it was read;
* `Edit.read`      the script that texts write, or what is wrong with them.
-/

namespace Debate.Shell.Edit

/-! ## sources -/

/-- a text of a script, and how far it was read -/
structure Source where
  rest : Octets
  /-- how much was read, and on which line that was -/
  count : Nat := 0
  line : Nat := 1
  /-- the file that the text comes from, or the number of the argument -/
  name : Except Nat Octets := .error 1

/-- a jump, with its label, that waits for its target -/
structure Pending where
  place : Nat
  label : Octets

/-- what has been read of a script -/
structure Draft where
  source : Source
  commands : Array Command := #[]
  /-- the places of blocks that are open -/
  blocks : List Nat := []
  labels : List (Octets × Nat) := []
  jumps : List Pending := []
  /-- the files that are written to -/
  files : List Octets := []
  silent : Bool := false
  extended : Bool := false

/-- a step of reading, which may end with a complaint and a status -/
abbrev Reading (α : Type) := ExceptT (Octets × Nat) (StateM Draft) α

/-- where something is wrong -/
def Source.place (s : Source) (count : Nat) : Octets :=
  match s.name with
  | .error n => "-e expression #".toList ++ Octets.ofNat n ++ ", char ".toList ++ Octets.ofNat count ++ ": ".toList
  | .ok file => "file ".toList ++ file ++ " line ".toList ++ Octets.ofNat s.line ++ ": ".toList

/-- something is wrong at the place that was read last -/
def wrong {α : Type} (text : String) : Reading α := do
  let d ← get
  throw (d.source.place d.source.count ++ text.toList, 1)

/-- the next character, if there is one -/
def nextChar : Reading (Option Char) := do
  let d ← get
  match d.source.rest with
  | [] => return none
  | c :: cs => do
    let s := d.source
    set { d with source := { s with rest := cs, count := s.count + 1, line := if c = '\n' then s.line + 1 else s.line } }
    return some c

/-- the character that comes next is not taken -/
def peekChar : Reading (Option Char) := do return (← get).source.rest.head?

/-- so many characters are taken -/
def skip (n : Nat) : Reading Unit := modify fun d =>
  let taken := d.source.rest.take n
  { d with source := { d.source with
    rest := d.source.rest.drop n, count := d.source.count + taken.length
    line := d.source.line + taken.count '\n' } }

/-- characters are taken as long as they pass a test -/
def takeWhile (test : Char → Bool) : Reading Octets := do
  let cs := (← get).source.rest.takeWhile test
  skip cs.length
  return cs

/-- a blank inside of a line -/
def isBlank (c : Char) : Bool := c = ' ' || c = '\t'

/-- the next character behind blanks -/
def nextInk : Reading (Option Char) := do
  let _ ← takeWhile isBlank
  nextChar

/-! ## texts between marks -/

/-- a bracket of an expression, which may hold the mark, after its opening -/
def bracketText : Nat → Octets → Octets
  | 0, _ => []
  | _, [] => []
  | fuel + 1, '[' :: m :: cs =>
    if m = ':' ∨ m = '.' ∨ m = '=' then
      let inner := Text.split [m, ']'] cs
      match inner with
      | a :: _ :: _ => ['[', m] ++ a ++ [m, ']'] ++ bracketText fuel (cs.drop (a.length + 2))
      | _ => '[' :: bracketText fuel (m :: cs)
    else '[' :: bracketText fuel (m :: cs)
  | _, ']' :: _ => [']']
  | fuel + 1, c :: cs => c :: bracketText fuel cs

/-- a text up to a mark: what it is, and how much was taken with the mark; nothing if the mark is missing.
In an expression a bracket may hold the mark, and an escape stands for a line feed -/
def textUpTo (mark : Char) (expression : Bool) : Nat → Octets → Except Nat (Octets × Nat)
  | 0, _ => .error 0
  | _, [] => .error 0
  | fuel + 1, c :: cs =>
    let more (text : Octets) (n : Nat) (rest : Octets) : Except Nat (Octets × Nat) :=
      match textUpTo mark expression fuel rest with
      | .ok (t, k) => .ok (text ++ t, k + n)
      | .error k => .error (k + n)
    if c = mark then .ok ([], 1)
    else if c = '\\' then
      match cs with
      | [] => .error 1
      | x :: rest =>
        if x = mark ∧ (expression ∨ x ≠ '&') then more [x] 2 rest
        else if expression ∧ x = 'n' then more ['\n'] 2 rest
        else if x = '\n' ∧ expression then more ['\n'] 2 rest
        else more ['\\', x] 2 rest
    else if c = '\n' ∧ expression then .error 0
    else if c = '\n' then .error 0
    else if c = '[' ∧ expression then
      let (first, rest) := match cs with
        | '^' :: ']' :: rest => (['^', ']'], rest)
        | '^' :: rest => (['^'], rest)
        | ']' :: rest => ([']'], rest)
        | rest => ([], rest)
      let inner := bracketText rest.length rest
      let whole := c :: first ++ inner
      more (Text.replaceAll ['\\', 'n'] ['\n'] whole) whole.length (rest.drop inner.length)
    else more [c] 1 cs

/-- a text up to a mark -/
def matchMark (mark : Char) (expression : Bool) (fault : String) : Reading Octets := do
  let cs := (← get).source.rest
  match textUpTo mark expression (cs.length + 1) cs with
  | .ok (text, n) => do
    skip n
    return text
  | .error n => do
    skip n
    wrong fault

/-! ## expressions -/

/-- the octet that an escape with a number stands for, and how much it takes after the backslash -/
def numbered? : Octets → Option (Char × Nat)
  | 'd' :: cs =>
    let ds := (cs.takeWhile Char.isDigit).take 3
    if ds.isEmpty then none else some (octetOf (valueToBase 10 ds), 1 + ds.length)
  | 'o' :: cs =>
    let ds := (cs.takeWhile isOctal).take 3
    if ds.isEmpty then none else some (octetOf (valueToBase 8 ds), 1 + ds.length)
  | 'x' :: cs =>
    let ds := (cs.takeWhile isHexadecimal).take 2
    if ds.isEmpty then none else some (octetOf (valueToBase 16 ds), 1 + ds.length)
  | 'c' :: '\\' :: '\\' :: _ => some ('\x1c', 3)
  | 'c' :: c :: _ => some (Char.ofNat ((c.toUpper.toNat + 64) % 128), 2)
  | _ => none

/-- a text in which escapes with numbers are gone; a mark that they stand for is escaped instead -/
def withoutNumbers (marks : List Char) : Nat → Octets → Octets
  | 0, cs => cs
  | _, [] => []
  | fuel + 1, '\\' :: cs =>
    match numbered? cs with
    | some (c, n) => (if marks.contains c then ['\\', c] else [c]) ++ withoutNumbers marks fuel (cs.drop n)
    | none =>
      match cs with
      | [] => ['\\']
      | c :: cs => '\\' :: c :: withoutNumbers marks fuel cs
  | fuel + 1, c :: cs => c :: withoutNumbers marks fuel cs

/-- whether a backslash follows that of a control character, without another one -/
def escapesTwice : Octets → Bool
  | '\\' :: 'c' :: '\\' :: '\\' :: cs => escapesTwice cs
  | '\\' :: 'c' :: '\\' :: _ => true
  | '\\' :: _ :: cs => escapesTwice cs
  | _ :: cs => escapesTwice cs
  | [] => false

/-- a text in which escapes with numbers are gone -/
def plainText (marks : List Char) (cs : Octets) : Reading Octets := do
  if escapesTwice cs then wrong "recursive escaping after \\c not allowed"
  else return withoutNumbers marks cs.length cs

/-- an expression; an empty one stands for the one that was used last -/
def patternOf (cs : Octets) (manner : Regex.Manner) : Reading Pattern := do
  if cs.isEmpty then return { expression := none, manner }
  else
    let text := Octets.characters (← plainText [] cs)
    let dialect : Regex.Dialect := {
      extended := (← get).extended, letters := true, strict := true, doubleBrackets := true
      lineFeeds := !manner.manyLines }
    match Regex.read dialect text with
    | .ok r => return { expression := some r, manner }
    | .error e => if e = Regex.singleBracket then throw (e.toList, 4) else wrong e

/-! ## addresses -/

/-- the number that digits write; none stand for zero -/
def natural : Reading Nat := do return (Octets.natural? (← takeWhile Char.isDigit)).getD 0

/-- the letters behind the expression of an address -/
def addressLetters : Nat → Regex.Manner → Reading Regex.Manner
  | 0, m => return m
  | fuel + 1, m => do
    let _ ← takeWhile isBlank
    match ← peekChar with
    | some 'I' => do
      skip 1
      addressLetters fuel { m with ignoreCase := true }
    | some 'M' => do
      skip 1
      addressLetters fuel { m with manyLines := true }
    | _ => return m

/-- an expression between marks, after its first one or its backslash -/
def addressPattern (c : Char) : Reading Pattern := do
  let mark ← if c = '\\' then do pure ((← nextChar).getD '/') else pure '/'
  let text ← matchMark mark true "unterminated address regex"
  let d ← get
  let manner ← addressLetters (d.source.rest.length + 1) {}
  patternOf text manner

/-- the first line of a range, if one is written -/
def readAddress : Reading (Option Address) := do
  match ← peekChar with
  | some c =>
    if c = '/' ∨ c = '\\' then do
      skip 1
      return some (.fitting (← addressPattern c))
    else if c.isDigit then do
      let n ← natural
      let _ ← takeWhile isBlank
      match ← peekChar with
      | some '~' => do
        skip 1
        let _ ← takeWhile isBlank
        let step ← natural
        return some (if step = 0 then (if n = 0 then .front else .number n) else .every n step)
      | _ => return some (if n = 0 then .front else .number n)
    else if c = '$' then do
      skip 1
      return some .last
    else if c = '+' ∨ c = '~' then do
      skip 1
      let _ ← natural
      wrong "invalid usage of +N or ~N as first address"
    else return none
  | none => return none

/-- the last line of a range, if one is written -/
def readStop : Reading (Option Stop) := do
  match ← peekChar with
  | some c =>
    if c = '/' ∨ c = '\\' then do
      skip 1
      return some (.fitting (← addressPattern c))
    else if c.isDigit then do return some (.number (← natural))
    else if c = '$' then do
      skip 1
      return some .last
    else if c = '+' then do
      skip 1
      return some (.more (← natural))
    else if c = '~' then do
      skip 1
      return some (.multiple (← natural))
    else return none
  | none => return none

/-- the lines for which a command is executed, and the letter of the command -/
def readSelection : Reading (Selection × Option Char) := do
  let start ← readAddress
  let mut stop : Option Stop := none
  let mut c ← nextInk
  if start.isSome then
    if c = some ',' then
      let _ ← takeWhile isBlank
      stop ← readStop
      if stop.isNone then
        skip 1
        wrong "unexpected `,'"
      c ← nextInk
    let fits := match stop with
      | some (.fitting _) => true
      | _ => false
    if let some .front := start then
      if !fits ∧ (stop.isSome ∨ c ≠ some 'r') then wrong "invalid usage of line address 0"
  let mut negated := false
  if c = some '!' then
    negated := true
    c ← nextInk
    if c = some '!' then wrong "multiple `!'s"
  return ({ start, stop, negated }, c)

/-! ## parts of commands -/

/-- nothing but the end of a command may follow -/
def endCommand : Reading Unit := do
  let _ ← takeWhile isBlank
  match ← peekChar with
  | none => return ()
  | some c =>
    if c = '\x7d' ∨ c = '#' then return ()
    else do
      skip 1
      if c = '\n' ∨ c = ';' then return () else wrong "extra characters after command"

/-- the name of a file: the rest of the line -/
def fileName : Reading Octets := do
  let _ ← takeWhile isBlank
  let name ← takeWhile (· ≠ '\n')
  if name.isEmpty then wrong "missing filename in r/R/w/W commands"
  else do
    let _ ← nextChar
    return name

/-- the name of a file that is written to -/
def outputName : Reading Octets := do
  let name ← fileName
  modify fun d => { d with files := d.files ++ [name] }
  return name

/-- a label: up to a blank or the end of the command -/
def label (closes : Bool) : Reading Octets := do
  let _ ← takeWhile isBlank
  let name ← takeWhile fun c => !(Octets.isSpace c || c = ';' || (closes && c = '\x7d'))
  if (← peekChar) = some ';' then skip 1
  return name

/-- the lines of a text up to one that does not go on: backslashes are gone -/
def textLines : Nat → Octets → Octets × Nat
  | 0, _ => ([], 0)
  | _, [] => ([], 0)
  | _, '\n' :: _ => ([], 1)
  | _, ['\\'] => ([], 1)
  | fuel + 1, '\\' :: c :: cs =>
    match (if c = '\n' then none else numbered? (c :: cs)) with
    | some (x, n) => let r := textLines fuel ((c :: cs).drop n); (x :: r.1, r.2 + n + 1)
    | none =>
      let x := if "afnrtv".toList.contains c then (letterOctet? c).getD c else c
      let r := textLines fuel cs
      (x :: r.1, r.2 + 2)
  | fuel + 1, c :: cs => let r := textLines fuel cs; (c :: r.1, r.2 + 1)

/-- the text of a command -/
def commandText : Reading Octets := do
  let _ ← takeWhile isBlank
  match ← peekChar with
  | none => wrong "expected \\ after `a', `c' or `i'"
  | some c => do
    let mut started := true
    if c = '\\' then
      skip 1
      let rest := (← get).source.rest
      let behind := rest.dropWhile isBlank
      if behind.head? = some '\n' then skip (rest.length - behind.length + 1)
      else if rest.isEmpty then started := false
    if !started then return []
    else
      let rest := (← get).source.rest
      let (text, n) := textLines (rest.length + 1) rest
      skip n
      return text ++ ['\n']

/-- the pieces of what is put in the place of what matches -/
def pieces : Nat → Octets → List Piece
  | 0, _ => []
  | _, [] => []
  | fuel + 1, '&' :: cs => .group 0 :: pieces fuel cs
  | fuel + 1, '\\' :: c :: cs =>
    if c.isDigit then .group (c.toNat - 48) :: pieces fuel cs
    else
      match c with
      | 'U' => .case .upper :: pieces fuel cs
      | 'L' => .case .lower :: pieces fuel cs
      | 'u' => .case .upperNext :: pieces fuel cs
      | 'l' => .case .lowerNext :: pieces fuel cs
      | 'E' => .case .same :: pieces fuel cs
      | c =>
        let x := if "afnrtv".toList.contains c then (letterOctet? c).getD c else c
        .text [x] :: pieces fuel cs
  | fuel + 1, c :: cs => .text [c] :: pieces fuel cs

/-- another case for the next letter, directly in front of another one, is lost -/
def lastCases : List Piece → List Piece
  | .case a :: .case b :: ps =>
    if a = .upperNext ∨ a = .lowerNext then lastCases (.case b :: ps) else .case a :: lastCases (.case b :: ps)
  | p :: ps => p :: lastCases ps
  | [] => []

/-- pieces whose texts are characters -/
def joined (ps : List Piece) : List Piece :=
  let rec octets : List Piece → Octets × List Piece
    | .text cs :: ps => let r := octets ps; (cs ++ r.1, r.2)
    | ps => ([], ps)
  let rec go : Nat → List Piece → List Piece
    | 0, ps => ps
    | _, [] => []
    | fuel + 1, .text cs :: ps =>
      let r := octets (.text cs :: ps)
      .text (Octets.characters r.1) :: go fuel r.2
    | fuel + 1, p :: ps => p :: go fuel ps
  go ps.length ps

/-- the letters behind a substitution -/
def substitutionLetters : Nat → Substitution → Reading Substitution
  | 0, s => return s
  | fuel + 1, s => do
    let c ← nextChar
    match c with
    | none | some '\n' | some ';' => return s
    | some c =>
      if c = '\x7d' ∨ c = '#' then do
        modify fun d => { d with source := { d.source with rest := c :: d.source.rest, count := d.source.count - 1 } }
        return s
      else if isBlank c then substitutionLetters fuel s
      else if c = 'i' ∨ c = 'I' then
        substitutionLetters fuel { s with pattern := { s.pattern with manner := { s.pattern.manner with ignoreCase := true } } }
      else if c = 'm' ∨ c = 'M' then
        substitutionLetters fuel { s with pattern := { s.pattern with manner := { s.pattern.manner with manyLines := true } } }
      else if c = 'e' then substitutionLetters fuel { s with executes := true }
      else if c = 'p' then
        if s.prints then wrong "multiple `p' options to `s' command" else substitutionLetters fuel { s with prints := true }
      else if c = 'g' then
        if s.every then wrong "multiple `g' options to `s' command" else substitutionLetters fuel { s with every := true }
      else if c = 'w' then do
        let name ← outputName
        return { s with file := some name }
      else if c.isDigit then do
        let ds ← takeWhile Char.isDigit
        let n := (Octets.natural? (c :: ds)).getD 0
        if s.first ≠ 0 then wrong "multiple number options to `s' command"
        else if n = 0 then wrong "number option to `s' command may not be zero"
        else substitutionLetters fuel { s with first := n }
      else wrong "unknown option to `s'"

/-- a substitution -/
def substitution : Reading Substitution := do
  let fault := "unterminated `s' command"
  match ← nextChar with
  | none => wrong fault
  | some mark => do
    if mark = '\n' ∨ mark = '\\' then wrong fault
    let text ← matchMark mark true fault
    let put ← matchPut mark fault
    let put ← plainText ['&', '\\'] put
    let ps := joined (lastCases (pieces put.length put))
    let s ← substitutionLetters ((← get).source.rest.length + 1) { pattern := default, pieces := ps, first := 0 }
    let pattern ← patternOf text s.pattern.manner
    let most := ps.foldl (fun n p => match p with
      | .group k => max n k
      | _ => n) 0
    match pattern.expression with
    | some r =>
      if r.groupCount < most then
        wrong ("invalid reference \\" ++ toString most ++ " on `s' command's RHS")
    | none => pure ()
    return { s with pattern, first := max 1 s.first }
where
  /-- the text that is put there; a line feed in it follows a backslash -/
  matchPut (mark : Char) (fault : String) : Reading Octets := matchMark mark false fault

/-- the letters of an exchange; a backslash keeps a line feed, a backslash and the mark -/
def letters (cs : Octets) : List Char :=
  let rec go : Nat → Octets → Octets
    | 0, _ => []
    | _, [] => []
    | fuel + 1, '\\' :: c :: cs =>
      (if "afnrtv".toList.contains c then (letterOctet? c).getD c else c) :: go fuel cs
    | fuel + 1, c :: cs => c :: go fuel cs
  Octets.characters (go cs.length cs)

/-- an exchange of letters -/
def exchange : Reading Action := do
  let fault := "unterminated `y' command"
  match ← nextChar with
  | none => wrong fault
  | some mark => do
    let a := letters (← matchMark mark false fault)
    let b := letters (← matchMark mark false fault)
    if a.length ≠ b.length then wrong "strings for `y' command are different lengths"
    else do
      endCommand
      return .exchangeLetters (a.zip b)

/-! ## commands -/

/-- a number behind the letter of a command, if there is one -/
def optionalNumber : Reading (Option Nat) := do
  let _ ← takeWhile isBlank
  let ds ← takeWhile Char.isDigit
  return Octets.natural? ds

/-- a command without more -/
def plain (a : Action) : Reading Action := do
  endCommand
  return a

/-- a jump to a label; an empty one means the end -/
def jumpTo (action : Action) : Reading Action := do
  let name ← label true
  modify fun d => { d with jumps := { place := d.commands.size, label := name } :: d.jumps }
  return action

/-- what a command does, by its letter -/
def readAction (selection : Selection) (c : Option Char) : Reading Action := do
  match c with
  | none => wrong "missing command"
  | some c =>
    match c with
    | '\x7b' => do
      modify fun d => { d with blocks := d.commands.size :: d.blocks }
      return .block 0
    | '\x7d' => do
      match (← get).blocks with
      | [] => wrong "unexpected `\x7d'"
      | _ :: blocks => do
        if selection.start.isSome then wrong "\x7d doesn't want any addresses"
        modify fun d => { d with blocks }
        plain .nothing
    | ':' => do
      if selection.start.isSome then wrong ": doesn't want any addresses"
      let name ← label false
      if name.isEmpty then wrong "\":\" lacks a label"
      modify fun d => { d with labels := d.labels ++ [(name, d.commands.size)] }
      return .nothing
    | 'a' => do return .append (← commandText)
    | 'i' => do return .insert (← commandText)
    | 'c' => do return .change (← commandText)
    | 'b' => jumpTo (.jump 0)
    | 't' => jumpTo (.jumpIf true 0)
    | 'T' => jumpTo (.jumpIf false 0)
    | 'q' => do
      if selection.stop.isSome then wrong "command only uses one address"
      let n ← optionalNumber
      plain (.quit (n.getD 0))
    | 'Q' => do
      if selection.stop.isSome then wrong "command only uses one address"
      let n ← optionalNumber
      plain (.quitSilently (n.getD 0))
    | 'l' => do
      let n ← optionalNumber
      plain (.list n)
    | 'e' => do
      let _ ← takeWhile isBlank
      let command ← takeWhile (· ≠ '\n')
      let _ ← nextChar
      return .execute command
    | '=' => plain .number
    | 'd' => plain .delete
    | 'D' => plain .deleteLine
    | 'F' => plain .fileName
    | 'g' => plain .get
    | 'G' => plain .getAppend
    | 'h' => plain .hold
    | 'H' => plain .holdAppend
    | 'n' => plain .next
    | 'N' => plain .nextAppend
    | 'p' => plain .print
    | 'P' => plain .printLine
    | 'x' => plain .exchange
    | 'z' => plain .clear
    | 'r' => do return .read (← fileName)
    | 'R' => do return .readLine (← fileName)
    | 'w' => do return .write (← outputName)
    | 'W' => do return .writeLine (← outputName)
    | 's' => do return .substitute (← substitution)
    | 'y' => exchange
    | 'v' => do
      let version ← label false
      let major := (Octets.natural? (version.takeWhile Char.isDigit)).getD 0
      if 4 < major then wrong "expected newer version of sed" else return .nothing
    | c => wrong ("unknown command: `" ++ String.ofList [c] ++ "'")

/-- the block that ends at a place knows where that is -/
def closeBlock (place : Nat) (d : Draft) (before : List Nat) : Draft :=
  match before with
  | b :: _ =>
    match d.commands[b]? with
    | some c => { d with commands := d.commands.set! b { c with action := .block (place + 1) } }
    | none => d
  | [] => d

/-- commands up to the end of a source -/
def readCommands : Nat → Reading Unit
  | 0 => return ()
  | fuel + 1 => do
    let _ ← takeWhile fun c => Octets.isSpace c || c = ';'
    match ← peekChar with
    | none => return ()
    | some '#' => do
      let d ← get
      let line ← takeWhile (· ≠ '\n')
      let first : Bool := match d.source.name with
        | .error n => n == 1
        | .ok _ => true
      if d.source.count = 0 ∧ d.commands.isEmpty ∧ line = ['#', 'n'] ∧ first then
        modify fun d => { d with silent := true }
      readCommands fuel
    | some _ => do
      let (selection, c) ← readSelection
      if c = some '#' then wrong "comments don't accept any addresses"
      let blocks := (← get).blocks
      let action ← readAction selection c
      modify fun d =>
        let d := if c = some '\x7d' then closeBlock d.commands.size d blocks else d
        { d with commands := d.commands.push { selection, action } }
      readCommands fuel

/-- a script in which jumps know their targets -/
def Draft.resolve (d : Draft) : Except (Octets × Nat) Script := do
  let mut commands := d.commands
  for j in d.jumps.reverse do
    let target ← if j.label.isEmpty then pure d.commands.size
      else match d.labels.find? fun l => l.1 = j.label with
        | some (_, place) => pure place
        | none => throw ("can't find label for jump to `".toList ++ j.label ++ ['\''], 4)
    match commands[j.place]? with
    | some c =>
      let action := match c.action with
        | .jump _ => .jump target
        | .jumpIf b _ => .jumpIf b target
        | a => a
      commands := commands.set! j.place { c with action }
    | none => pure ()
  return { commands, silent := d.silent }

/-- sources are read one after the other -/
def readSources : List Source → Reading Unit
  | [] => return ()
  | s :: sources => do
    modify fun d => { d with source := s }
    readCommands (s.rest.length + 1)
    readSources sources

/-- the script that texts write, or what is wrong with them and the status for it; and the files that are
written to, as far as they were read -/
def read (extended : Bool) (sources : List Source) : Except (Octets × Nat) Script × List Octets :=
  let (r, d) := Id.run ((readSources sources).run.run { source := { rest := [] }, extended })
  (do
    r
    if d.blocks.isEmpty then d.resolve
    else throw (d.source.place 0 ++ "unmatched `\x7b'".toList, 1), d.files)

end Debate.Shell.Edit
