import Debate.Shell.Escape
import Debate.Shell.Numeral
import Debate.Shell.Regex.Reader
import Debate.Shell.Report.Script

/-!
# The words of scripts that report on records

A slash starts an expression, unless it stands behind a value. The end of a line counts, except behind marks
that ask for more. Behind a word that prints, the mark that otherwise means "greater" opens a file.

* `Report.units`, `Report.readPattern`   texts and expressions octet by octet;
* `Report.unescape`                      texts as they are written, without their escapes;
* `Report.Lexeme`, `Report.lexemes`      the words of a script.
-/

namespace Debate.Shell.Report

open Debate.Number

/-! ## expressions that are searched for -/

/-- an octet as a character that belongs to no alphabet, unless it is one of the first -/
def unit (c : Char) : Char := if c.toNat < 128 then c else Char.ofNat (0xE000 + c.toNat)

/-- the octets of a text as characters, each on its own -/
def units (cs : Octets) : List Char := cs.map unit

/-- how expressions are written -/
def dialect : Regex.Dialect := { extended := true, inBrackets := true, words := false, complete := true }

/-- what is wrong with an expression -/
def patternFault (fault : String) : Octets :=
  let kind := match fault with
    | "Unmatched ( or \\(" => "missing ')'"
    | "Invalid content of \\\x7b\\\x7d" => "bad interval expression"
    | "Regular expression too big" => "resource exhaustion -- regular expression too large"
    | "Invalid character class name" | "Unmatched [, [^, [:, [., or [=" | "Invalid range end"
    | "Invalid collation character" => "bad class -- [], [^] or ["
    | fault => fault
  "regular expression compile failed (".toList ++ kind.toList ++ ")\n".toList

/-- the expression that a text writes, or what is wrong with it -/
def readPattern (cs : Octets) : Except Octets Regex :=
  match Regex.read dialect (units cs) with
  | .ok r => .ok r
  | .error e => .error (patternFault e ++ cs)

/-! ## escapes -/

/-- a text without its escapes; what is no escape is kept -/
def unescapeFrom : Nat → Octets → Octets
  | 0, cs => cs
  | _, [] => []
  | fuel + 1, '\\' :: c :: cs =>
    if c = '"' then '"' :: unescapeFrom fuel cs
    else if c ≠ 'e' ∧ (letterOctet? c).isSome then (letterOctet? c).getD c :: unescapeFrom fuel cs
    else if isOctal c then
      let ds := ((c :: cs).takeWhile isOctal).take 3
      octetOf (valueToBase 8 ds) :: unescapeFrom fuel ((c :: cs).drop ds.length)
    else if c = 'x' ∧ (cs.head?.map isHexadecimal).getD false then
      let ds := (cs.takeWhile isHexadecimal).take 2
      octetOf (valueToBase 16 ds) :: unescapeFrom fuel (cs.drop ds.length)
    else '\\' :: c :: unescapeFrom fuel cs
  | fuel + 1, c :: cs => c :: unescapeFrom fuel cs

/-- a text without its escapes; what is no escape is kept -/
def unescape (cs : Octets) : Octets := unescapeFrom cs.length cs

/-! ## words -/

/-- a word of a script -/
inductive Token where
  | number (x : Double)
  | text (cs : Octets)
  | regex (r : Regex)
  | name (cs : Octets)
  /-- a name in front of arguments -/
  | callee (cs : Octets)
  | given (name : String)
  | keyword (w : String)
  | mark (s : String)
  /-- a mark that opens what is printed to -/
  | output (d : Direction)
  | lineEnd
  /-- the end of a statement in front of a closing brace, which need not be written -/
  | supplied
  | finish
  /-- a closing mark without a partner -/
  | extra (c : Char)
  | unknown (c : Char)
  | wrong (text : Octets)
  deriving Inhabited

/-- a word, where it stands, and how it is written -/
structure Lexeme where
  token : Token
  line : Nat
  shown : Octets := []
  /-- how many parentheses and braces are open behind it -/
  parentheses : Nat := 0
  braces : Nat := 0
  deriving Inhabited

/-- how far a script was read -/
structure Scan where
  rest : Octets
  line : Nat := 1
  parentheses : Nat := 0
  braces : Nat := 0
  /-- a word that prints came before -/
  printing : Bool := false
  /-- the names of functions so far -/
  functions : List Octets := []
  before : Token := .lineEnd

/-- the words of the language -/
def keywords : List String := ["BEGIN", "END", "break", "continue", "delete", "do", "else", "exit", "for",
  "function", "getline", "if", "in", "next", "nextfile", "print", "printf", "return", "while"]

/-- variables that are kept with the fields, and called so in complaints -/
def fieldLike : List String := ["NF", "RS", "FS", "CONVFMT", "OFMT"]

/-- the names of functions that are given -/
def givenFunctions : List String := ["length", "substr", "index", "sprintf", "toupper", "tolower", "int", "sqrt",
  "exp", "log", "sin", "cos", "atan2", "rand", "srand", "system", "close", "fflush", "split", "match", "sub",
  "gsub"]

/-- the marks, longer ones in front of those that they start with -/
def marks : List String := ["&&", "||", "++", "--", "+=", "-=", "*=", "/=", "%=", "^=", "==", "<=", ">=", "!=", "!~",
  "+", "-", "*", "/", "%", "^", "!", "<", ">", "|", "?", ":", "~", "$", "=", ",", ";", "(", ")", "[", "]",
  "\x7b", "\x7d"]

/-- a blank inside of a line -/
def isBlank (c : Char) : Bool := c ≠ '\n' && Octets.isSpace c

/-- a character of a name -/
def isNameChar (c : Char) : Bool := c = '_' || c.isAlphanum

/-- what follows blanks, comments, and ends of lines if they do not count -/
def Scan.skip (lines : Bool) : Nat → Scan → Scan
  | 0, s => s
  | fuel + 1, s =>
    match s.rest with
    | '#' :: _ => Scan.skip lines fuel { s with rest := s.rest.dropWhile (· ≠ '\n') }
    | '\n' :: cs => if lines then Scan.skip lines fuel { s with rest := cs, line := s.line + 1 } else s
    | '\\' :: '\n' :: cs => Scan.skip lines fuel { s with rest := cs, line := s.line + 1 }
    | c :: cs => if isBlank c then Scan.skip lines fuel { s with rest := cs } else s
    | [] => s

/-- a step; a slash behind it starts an expression, whose first character is lost -/
def Token.isStep : Token → Bool
  | .mark m => m = "++" || m = "--"
  | _ => false

/-- whether a slash behind a word divides -/
def Token.isValue : Token → Bool
  | .number _ | .text _ | .regex _ | .name _ => true
  | .keyword w => w = "getline"
  | .mark m => m = ")" || m = "]"
  | _ => false

/-- a text up to its closing quote, and what follows it; nothing if the line ends before -/
def quotedText : Nat → Octets → Octets × Option Octets
  | 0, _ => ([], none)
  | _, [] => ([], none)
  | _, '"' :: cs => ([], some cs)
  | _, '\n' :: _ => ([], none)
  | fuel + 1, '\\' :: '\n' :: cs => quotedText fuel cs
  | fuel + 1, '\\' :: c :: cs => let r := quotedText fuel cs; ('\\' :: c :: r.1, r.2)
  | fuel + 1, c :: cs => let r := quotedText fuel cs; (c :: r.1, r.2)

/-- an expression up to its closing slash, and what follows it; nothing if the line ends before. A slash between
square brackets does not close it -/
def slashedText : Nat → Bool → Octets → Octets × Option Octets
  | 0, _, _ => ([], none)
  | _, _, [] => ([], none)
  | _, _, '\n' :: _ => ([], none)
  | _, false, '/' :: cs => ([], some cs)
  | fuel + 1, inside, '\\' :: '/' :: cs => let r := slashedText fuel inside cs; ('/' :: r.1, r.2)
  | fuel + 1, inside, '\\' :: '\n' :: cs => slashedText fuel inside cs
  | fuel + 1, inside, '\\' :: c :: cs => let r := slashedText fuel inside cs; ('\\' :: c :: r.1, r.2)
  | fuel + 1, true, '[' :: ':' :: cs =>
    let name := cs.takeWhile fun c => c.isAlphanum
    match cs.drop name.length with
    | ':' :: ']' :: rest =>
      let r := slashedText fuel true rest
      (['[', ':'] ++ name ++ [':', ']'] ++ r.1, r.2)
    | _ => let r := slashedText fuel true (':' :: cs); ('[' :: r.1, r.2)
  | fuel + 1, true, ']' :: cs => let r := slashedText fuel false cs; (']' :: r.1, r.2)
  | fuel + 1, false, '[' :: '^' :: ']' :: cs => let r := slashedText fuel true cs; (['[', '^', ']'] ++ r.1, r.2)
  | fuel + 1, false, '[' :: ']' :: cs => let r := slashedText fuel true cs; (['[', ']'] ++ r.1, r.2)
  | fuel + 1, false, '[' :: cs => let r := slashedText fuel true cs; ('[' :: r.1, r.2)
  | fuel + 1, inside, c :: cs => let r := slashedText fuel inside cs; (c :: r.1, r.2)

/-- the digits of a number: with a point and an exponent, if these are complete -/
def numberText (cs : Octets) : Octets :=
  let whole := cs.takeWhile Char.isDigit
  let part := match cs.drop whole.length with
    | '.' :: rest => '.' :: rest.takeWhile Char.isDigit
    | _ => []
  let mantissa := whole ++ part
  let exponent := match cs.drop mantissa.length with
    | e :: rest =>
      let (sign, rest) := match rest with
        | '+' :: rest => (['+'], rest)
        | '-' :: rest => (['-'], rest)
        | rest => ([], rest)
      let ds := rest.takeWhile Char.isDigit
      if (e = 'e' ∨ e = 'E') ∧ ds ≠ [] then e :: sign ++ ds else []
    | [] => []
  mantissa ++ exponent

/-- a complaint about a text without its end -/
def runaway (kind : String) (cs : Octets) : Octets :=
  "runaway ".toList ++ kind.toList ++ (cs.takeWhile (· ≠ '\n')).take 10 ++ " ...".toList

namespace Scan

/-- a word was read -/
def lexeme (s : Scan) (token : Token) (shown : Octets) : Lexeme :=
  { token, line := s.line, shown, parentheses := s.parentheses, braces := s.braces }

/-- a name, or a word of the language -/
def word (s : Scan) (w : Octets) : Lexeme × Scan :=
  let rest := s.rest.drop w.length
  let took (token : Token) (s : Scan) : Lexeme × Scan := (s.lexeme token w, { s with rest, before := token })
  let name := String.ofList w
  if keywords.contains name then took (.keyword name) { s with printing := s.printing || name.startsWith "print" }
  else if givenFunctions.contains name then took (.given name) s
  else
    let defined : Bool := match s.before with
      | .keyword w => w == "function"
      | _ => false
    if s.functions.contains w then took (.callee w) s
    else if defined = true ∨ rest.head? = some '(' then took (.callee w) { s with functions := w :: s.functions }
    else if fieldLike.contains name then (s.lexeme (.name w) ['$'], { s with rest, before := .name w })
    else took (.name w) s

/-- a mark -/
def mark (s : Scan) (m : String) (rest : Octets) : Lexeme × Scan :=
  let took (token : Token) (s : Scan) (lines : Bool) : Lexeme × Scan :=
    let after := { s with rest, before := token }
    (s.lexeme token m.toList, if lines then Scan.skip true (rest.length + 1) after else after)
  let printsTo := s.printing && s.parentheses = 0
  match m with
  | "(" => took (.mark m) { s with parentheses := s.parentheses + 1 } false
  | ")" =>
    if s.parentheses = 0 then (s.lexeme (.extra ')') [], { s with rest })
    else took (.mark m) { s with parentheses := s.parentheses - 1 } false
  | "\x7b" => took (.mark m) { s with braces := s.braces + 1 } true
  | "\x7d" =>
    if s.braces = 0 then
      let after := Scan.skip false (rest.length + 1) { s with rest }
      (s.lexeme (.extra '\x7d') [],
        { after with rest := if after.rest.head? = some ';' then after.rest.tail else after.rest })
    else
      let closes := match s.before with
        | .lineEnd | .supplied => true
        | .mark m => m == ";" || m == "\x7d"
        | _ => false
      if closes then
        let s := { s with braces := s.braces - 1 }
        let after := Scan.skip false (rest.length + 1) { s with rest, before := .mark m, printing := false }
        let after := if s.braces = 0 ∧ after.rest.head? = some ';' then { after with rest := after.rest.tail }
          else after
        (s.lexeme (.mark m) m.toList, Scan.skip true (rest.length + 1) after)
      else (s.lexeme .supplied m.toList, { s with before := .supplied, printing := false })
  | ";" => took (.mark m) { s with printing := false } true
  | "," | "&&" | "||" => took (.mark m) s true
  | ">=" | ">" =>
    if printsTo then
      let (direction, shown) := if rest.head? = some '>' ∧ m = ">" then (Direction.append, ">>") else (.file, ">")
      let rest := s.rest.drop shown.length
      (s.lexeme (.output direction) shown.toList, { s with rest, before := .output direction, printing := false })
    else took (.mark m) s false
  | "|" => if printsTo then took (.output .command) { s with printing := false } false else took (.mark m) s false
  | m => took (.mark m) s false

/-- the next word, and how far it reaches -/
def next (s : Scan) : Lexeme × Scan :=
  let s := s.skip false (s.rest.length + 1)
  let fuel := s.rest.length + 1
  match s.rest with
  | [] => (s.lexeme .finish "end of file".toList, s)
  | c :: cs =>
    if c = '\n' then
      (s.lexeme .lineEnd "end of line".toList,
        { Scan.skip true fuel { s with rest := cs, line := s.line + 1 } with before := .lineEnd, printing := false })
    else if c = '"' then
      match quotedText fuel cs with
      | (t, some rest) => (s.lexeme (.text (unescape t)) t, { s with rest, before := .text [] })
      | (t, none) => (s.lexeme (.wrong (runaway "string constant \"" t)) [], { s with rest := [] })
    else if c = '/' ∧ !s.before.isValue then
      match slashedText fuel false (if s.before.isStep ∧ cs.head? ≠ some '=' then cs.drop 1 else cs) with
      | (t, some rest) =>
        match readPattern t with
        | .ok r => (s.lexeme (.regex r) ('/' :: t ++ ['/']), { s with rest, before := .regex .empty })
        | .error e => (s.lexeme (.wrong e) [], { s with rest := [] })
      | (t, none) => (s.lexeme (.wrong (runaway "regular expression /" t)) [], { s with rest := [] })
    else if c.isDigit ∨ (c = '.' ∧ (cs.head?.map Char.isDigit).getD false) then
      let t := numberText s.rest
      let x := ((Numeral.decimal? false t).map (·.1)).getD .zero
      (s.lexeme (.number x) t, { s with rest := s.rest.drop t.length, before := .number x })
    else if isNameChar c then s.word (s.rest.takeWhile isNameChar)
    else
      match marks.find? fun m => m.toList.isPrefixOf s.rest with
      | none => (s.lexeme (.unknown c) [c], { s with rest := cs })
      | some m => s.mark m (s.rest.drop m.length)

end Scan

/-- the words of a script -/
def lexemes : Nat → Scan → List Lexeme
  | 0, _ => []
  | fuel + 1, s =>
    let (l, s) := s.next
    match l.token with
    | .finish | .wrong _ => [l]
    | _ => l :: lexemes fuel s

end Debate.Shell.Report
