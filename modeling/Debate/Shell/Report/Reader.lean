import Debate.Shell.Report.Lexer

/-!
# Reading scripts that report on records

Operators bind in this order, the loosest first: assignments and choices, `||`, `&&`, `in`, fitting, comparisons,
texts one after the other, sums, products, signs, what is read from a command, powers, steps, fields. A name stands
for an array if it is used as one somewhere, also by a function that it is passed to.

* `Report.Draft`, `Report.Reading`     what has been read of a script, and a step of reading;
* `Report.ternary`                     expressions;
* `Report.statement`                   statements;
* `Report.Draft.infer`                 which parameters are arrays;
* `Report.read`                        the script that a text writes, or what is wrong with it.
-/

namespace Debate.Shell.Report

/-! ## what has been read -/

/-- what a name stands for, as far as that is known -/
inductive Kind where
  | unknown
  | variable
  | array
  deriving DecidableEq, Repr, Inhabited

/-- a call of a function of the script -/
structure Call where
  function : Octets
  line : Nat
  /-- the function in which it stands -/
  caller : Option Nat
  /-- the arguments that are names -/
  args : List (Option Name)

/-- a function of the script as it was read -/
structure RoutineDraft where
  name : Octets
  parameters : Array (Octets × Kind)
  body : Statement := .nothing
  deriving Inhabited

/-- where statements stand -/
inductive Place where
  | start
  | record
  | routine
  deriving DecidableEq, Repr

/-- what has been read of a script -/
structure Draft where
  rest : List Lexeme
  names : Array (Octets × Kind)
  /-- the parameters of the function at hand, and its number -/
  own : Array (Octets × Kind) := #[]
  routines : Array RoutineDraft := #[]
  calls : List Call := []
  place : Place := .record
  /-- how many loops are open -/
  loops : Nat := 0
  /-- complaints that do not end the reading, the last first -/
  complaints : List Octets := []

/-- a step of reading, which may end with a complaint -/
abbrev Reading (α : Type) := ExceptT Octets (StateM Draft) α

/-- a complaint about a line -/
def atLine (line : Nat) (text : Octets) : Octets := "line ".toList ++ Octets.ofNat line ++ ": ".toList ++ text

/-- closing marks without a partner are complained about and skipped -/
def dropExtras : Nat → Reading Unit
  | 0 => return ()
  | fuel + 1 => do
    let d ← get
    match d.rest with
    | { token := .extra c, line, .. } :: more => do
      let complaint := atLine line ("extra '".toList ++ [c, '\''])
      set { d with rest := more, complaints := complaint :: d.complaints }
      dropExtras fuel
    | _ => return ()

/-- the word that comes next is not taken -/
def peek : Reading Lexeme := do
  dropExtras (← get).rest.length
  match (← get).rest with
  | [] => return { token := .finish, line := 1, shown := "end of file".toList }
  | l :: _ =>
    match l.token with
    | .unknown c => throw (Octets.ofNat l.line ++ ": unexpected character '".toList ++ [c, '\''])
    | .wrong text => throw (atLine l.line text)
    | _ => return l

/-- the word that comes next is taken -/
def advance : Reading Unit := modify fun d => { d with rest := d.rest.tail }

/-- something is wrong on a line -/
def wrongAt {α : Type} (line : Nat) (text : String) : Reading α := throw (atLine line text.toList)

/-- the word that comes next cannot stand there -/
def misplaced {α : Type} : Reading α := do
  let l ← peek
  let missing (c : Char) : Reading α := throw (atLine l.line ("missing ".toList ++ c :: " near ".toList ++ l.shown))
  let other : Reading α := throw (atLine l.line ("syntax error at or near ".toList ++ l.shown))
  match l.token with
  | .finish | .keyword "BEGIN" | .keyword "END" => if 0 < l.braces then missing '\x7d' else other
  | .lineEnd | .supplied | .mark ";" | .mark "\x7d" => if 0 < l.parentheses then missing ')' else other
  | _ => other

/-- whether a mark comes next -/
def isMark (m : String) : Reading Bool := do
  match (← peek).token with
  | .mark x => return x = m
  | _ => return false

/-- whether a word of the language comes next -/
def isKeyword (w : String) : Reading Bool := do
  match (← peek).token with
  | .keyword x => return x = w
  | _ => return false

/-- a mark is taken if it comes next -/
def takes (m : String) : Reading Bool := do
  if ← isMark m then
    advance
    return true
  else return false

/-- a mark that has to come next -/
def expect (m : String) : Reading Unit := do
  if !(← takes m) then misplaced

/-- ends of lines are skipped -/
def skipLines : Nat → Reading Unit
  | 0 => return ()
  | fuel + 1 => do
    match (← peek).token with
    | .lineEnd => do
      advance
      skipLines fuel
    | _ => return ()

/-- whether the end of a statement comes next -/
def isSeparator : Reading Bool := do
  match (← peek).token with
  | .lineEnd | .supplied => return true
  | .mark m => return m = ";"
  | _ => return false

/-- the end of a statement -/
def separator : Reading Unit := do
  if ← isSeparator then advance else misplaced

/-- the number of the function at hand -/
def Draft.caller (d : Draft) : Option Nat := if d.place = .routine then some d.routines.size else none

/-! ## names -/

/-- a name is used as a variable or as an array, or in a way that does not tell -/
def useName (name : Octets) (kind : Kind) (line : Nat) : Reading Name := do
  let d ← get
  let wrong {α : Type} (whose : String) (known : Kind) : Reading α := throw (atLine line
    ("illegal reference to ".toList ++ whose.toList ++ (if known = .array then "array " else "variable ").toList ++ name))
  let clashes (known : Kind) : Bool := known ≠ .unknown && kind ≠ .unknown && known ≠ kind
  match d.own.findIdx? fun x => x.1 = name with
  | some i => do
    let known := ((d.own[i]?).map (·.2)).getD .unknown
    if clashes known then wrong "local " known
    else do
      if kind ≠ .unknown then set { d with own := d.own.setIfInBounds i (name, kind) }
      return .own i
  | none =>
    match d.names.findIdx? fun x => x.1 = name with
    | some i => do
      let known := ((d.names[i]?).map (·.2)).getD .unknown
      if clashes known then wrong "" known
      else do
        if kind ≠ .unknown then set { d with names := d.names.setIfInBounds i (name, kind) }
        return .shared i
    | none => do
      set { d with names := d.names.push (name, kind) }
      return .shared d.names.size

/-- whether an expression is something that can be assigned to -/
def Expression.isPlace : Expression → Bool
  | .variable _ | .element _ _ | .field _ => true
  | _ => false

/-- the operation of an assignment with an operation -/
def updating? (m : String) : Option Operator :=
  match m with
  | "+=" => some .add
  | "-=" => some .subtract
  | "*=" => some .multiply
  | "/=" => some .divide
  | "%=" => some .remainder
  | "^=" => some .power
  | _ => none

/-- the comparison of a mark -/
def comparison? (m : String) : Option Comparison :=
  match m with
  | "<" => some .less
  | "<=" => some .lessOrEqual
  | "==" => some .equal
  | "!=" => some .notEqual
  | ">" => some .greater
  | ">=" => some .greaterOrEqual
  | _ => none

/-- a function that is given, with the least and greatest number of its arguments -/
def given? (name : String) : Option (Function × Nat × Nat) :=
  match name with
  | "length" => some (.length, 0, 1)
  | "substr" => some (.substring, 2, 3)
  | "index" => some (.find, 2, 2)
  | "sprintf" => some (.format, 1, 255)
  | "toupper" => some (.upper, 1, 1)
  | "tolower" => some (.lower, 1, 1)
  | "int" => some (.integer, 1, 1)
  | "sqrt" => some (.squareRoot, 1, 1)
  | "exp" => some (.exponential, 1, 1)
  | "log" => some (.logarithm, 1, 1)
  | "sin" => some (.sine, 1, 1)
  | "cos" => some (.cosine, 1, 1)
  | "atan2" => some (.arcTangent, 2, 2)
  | "rand" => some (.random, 0, 0)
  | "srand" => some (.seed, 0, 1)
  | "system" => some (.system, 1, 1)
  | "close" => some (.close, 1, 1)
  | "fflush" => some (.flush, 0, 1)
  | _ => none

/-- whether a text can follow that is joined to what stands in front of it -/
def Token.joins : Token → Bool
  | .number _ | .text _ | .regex _ | .name _ | .callee _ | .given _ => true
  | .keyword w => w = "getline"
  | .mark m => m = "(" || m = "!" || m = "$" || m = "++" || m = "--"
  | _ => false

/-- an array, by its name -/
def arrayName : Reading Name := do
  let l ← peek
  match l.token with
  | .name n => do
    advance
    useName n .array l.line
  | _ => misplaced

/-! ## expressions -/

/-- operands with operators between them, from the left to the right -/
def chain (operator? : String → Option (Expression → Expression → Expression)) (operand : Reading Expression) :
    Nat → Expression → Reading Expression
  | 0, e => return e
  | fuel + 1, e => do
    match (← peek).token with
    | .mark m =>
      match operator? m with
      | none => return e
      | some join => do
        advance
        let b ← operand
        chain operator? operand fuel (join e b)
    | _ => return e

/-- sums -/
def sum? (m : String) : Option (Expression → Expression → Expression) :=
  if m = "+" then some (.operate .add) else if m = "-" then some (.operate .subtract) else none

/-- products -/
def product? (m : String) : Option (Expression → Expression → Expression) :=
  if m = "*" then some (.operate .multiply)
  else if m = "/" then some (.operate .divide)
  else if m = "%" then some (.operate .remainder) else none

/-- how tightly an operator binds that joins conditions, texts or values, and what it makes of them -/
def binary? (m : String) : Option (Nat × (Expression → Expression → Expression)) :=
  match m with
  | "||" => some (0, .either)
  | "&&" => some (1, .both)
  | "~" => some (3, fun a b => .fits a b true)
  | "!~" => some (3, fun a b => .fits a b false)
  | m => (comparison? m).map fun c => (4, .compare c)

/-- how tightly `in` binds -/
def memberLevel : Nat := 2

/-- a step behind something that can be assigned to -/
def stepAfter (e : Expression) : Reading Expression := do
  if !e.isPlace then return e
  else if ← takes "++" then return .step e true true
  else if ← takes "--" then return .step e false true
  else return e

/-- whether `in` comes next, and it is taken -/
def takesIn : Reading Bool := do
  if ← isKeyword "in" then
    advance
    return true
  else return false

mutual

/-- an expression -/
def ternary : Nat → Reading Expression
  | 0 => misplaced
  | fuel + 1 => do
    let test ← binary fuel 0
    if ← takes "?" then
      let yes ← ternary fuel
      expect ":"
      let no ← ternary fuel
      return .choice test yes no
    else return test

/-- operands with operators between them that bind at least so tightly -/
def binary : Nat → Nat → Reading Expression
  | 0, _ => misplaced
  | fuel + 1, least => do binaryMore fuel least (← joined fuel)

/-- what follows an operand -/
def binaryMore : Nat → Nat → Expression → Reading Expression
  | 0, _, e => return e
  | fuel + 1, least, e => do
    match (← peek).token with
    | .mark m =>
      match binary? m with
      | some (level, join) =>
        if least ≤ level then
          advance
          let b ← binary fuel (level + 1)
          binaryMore fuel least (join e b)
        else return e
      | none => return e
    | .keyword "in" =>
      if least ≤ memberLevel then
        advance
        let a ← arrayName
        binaryMore fuel least (.member a [e])
      else return e
    | _ => return e

/-- texts one after the other, or an assignment -/
def joined : Nat → Reading Expression
  | 0 => misplaced
  | fuel + 1 => do
    let bare := !(← isMark "(")
    let e ← additive fuel
    let assigns : Bool := match e with
      | .field _ => true
      | e => bare && e.isPlace
    match (← peek).token with
    | .mark m =>
      if assigns ∧ m = "=" then
        advance
        return .assign e (← ternary fuel)
      else
        match updating? m with
        | some op =>
          if assigns then
            advance
            return .update e op (← ternary fuel)
          else joinMore fuel e
        | none => joinMore fuel e
    | _ => joinMore fuel e

/-- what follows a text -/
def joinMore : Nat → Expression → Reading Expression
  | 0, e => return e
  | fuel + 1, e => do
    if (← peek).token.joins then joinMore fuel (.join e (← additive fuel)) else return e

/-- a sum -/
def additive : Nat → Reading Expression
  | 0 => misplaced
  | fuel + 1 => do chain sum? (multiplicative fuel) fuel (← multiplicative fuel)

/-- a product -/
def multiplicative : Nat → Reading Expression
  | 0 => misplaced
  | fuel + 1 => do chain product? (signed fuel) fuel (← signed fuel)

/-- something with signs in front -/
def signed : Nat → Reading Expression
  | 0 => misplaced
  | fuel + 1 => do
    if ← takes "!" then return .not (← signed fuel)
    else if ← takes "-" then return .negative (← signed fuel)
    else if ← takes "+" then return .positive (← signed fuel)
    else piped fuel (← power fuel)

/-- what is read from commands -/
def piped : Nat → Expression → Reading Expression
  | 0, e => return e
  | fuel + 1, e => do
    if ← isMark "|" then
      advance
      if ← isKeyword "getline" then
        advance
        piped fuel (.getOutput (← receiver fuel) e)
      else misplaced
    else return e

/-- a power; the exponent may have a sign -/
def power : Nat → Reading Expression
  | 0 => misplaced
  | fuel + 1 => do
    let e ← stepAfter (← operand fuel)
    if ← takes "^" then return .operate .power e (← signed fuel) else return e

/-- something that can be assigned to, if it comes next -/
def receiver : Nat → Reading (Option Expression)
  | 0 => misplaced
  | fuel + 1 => do
    match (← peek).token with
    | .name _ => return some (← place fuel)
    | .mark m => if m = "$" then return some (← place fuel) else return none
    | _ => return none

/-- something that can be assigned to -/
def place : Nat → Reading Expression
  | 0 => misplaced
  | fuel + 1 => do
    let l ← peek
    match l.token with
    | .name n => do
      advance
      if ← takes "[" then
        let a ← useName n .array l.line
        let index ← expressions fuel
        expect "]"
        return .element a index
      else return .variable (← useName n .variable l.line)
    | .mark m => do
      if m = "$" then
        advance
        let m := match (← peek).token with
          | .mark m => m
          | _ => ""
        if m = "-" ∨ m = "+" ∨ m = "!" then return .field (← signed fuel)
        else return .field (← operand fuel)
      else if m = "(" then
        advance
        let e ← place fuel
        expect ")"
        match e with
        | .field _ => return e
        | _ => misplaced
      else misplaced
    | _ => misplaced

/-- one or more expressions -/
def expressions : Nat → Reading (List Expression)
  | 0 => misplaced
  | fuel + 1 => do
    let e ← ternary fuel
    if ← takes "," then return e :: (← expressions fuel) else return [e]

/-- arguments up to the closing parenthesis -/
def arguments : Nat → Reading (List Expression)
  | 0 => misplaced
  | fuel + 1 => do
    if ← takes ")" then return []
    else do
      let es ← expressions fuel
      expect ")"
      return es

/-- an argument: a name on its own may be an array -/
def argument : Nat → Reading Expression
  | 0 => misplaced
  | fuel + 1 => do
    let l ← peek
    let after : Option Token := ((← get).rest[1]?).map fun (l : Lexeme) => l.token
    match l.token, after with
    | .name n, some (.mark m) =>
      if m = "," ∨ m = ")" then
        advance
        return .variable (← useName n .unknown l.line)
      else ternary fuel
    | _, _ => ternary fuel

/-- arguments of which each may be an array, up to the closing parenthesis -/
def callArguments : Nat → Reading (List Expression)
  | 0 => misplaced
  | fuel + 1 => do
    if ← takes ")" then return []
    else do
      let e ← argument fuel
      if ← takes "," then return e :: (← moreArguments fuel)
      else do
        expect ")"
        return [e]

/-- arguments behind a comma -/
def moreArguments : Nat → Reading (List Expression)
  | 0 => misplaced
  | fuel + 1 => do
    let e ← argument fuel
    if ← takes "," then return e :: (← moreArguments fuel)
    else do
      expect ")"
      return [e]

/-- what operators are applied to -/
def operand : Nat → Reading Expression
  | 0 => misplaced
  | fuel + 1 => do
    let l ← peek
    match l.token with
    | .number x => do
      advance
      return .number x
    | .text cs => do
      advance
      return .text cs
    | .regex r => do
      advance
      return .regex r
    | .name _ => place fuel
    | .callee f => do
      advance
      expect "("
      let args ← callArguments fuel
      let names := args.map fun e => match e with
        | .variable n => some n
        | _ => none
      modify fun d => { d with
        calls := { function := f, line := l.line, caller := d.caller, args := names } :: d.calls }
      return .call f args
    | .given name => do
      advance
      givenCall fuel name l.line
    | .keyword w =>
      if w = "getline" then
        advance
        let target ← receiver fuel
        if ← takes "<" then
          let path ← power fuel
          return .getFrom target path
        else return .getRecord target
      else misplaced
    | .mark m =>
      if m = "$" then place fuel
      else if m = "++" then
        advance
        return .step (← place fuel) true false
      else if m = "--" then
        advance
        return .step (← place fuel) false false
      else if m = "(" then
        advance
        let es ← expressions fuel
        expect ")"
        match es with
        | [e] => return e
        | es => do
          if ← takesIn then return .member (← arrayName) es else misplaced
      else misplaced
    | _ => misplaced

/-- a call of a function that is given -/
def givenCall : Nat → String → Nat → Reading Expression
  | 0, _, _ => misplaced
  | fuel + 1, name, line => do
    if name = "length" ∧ !(← isMark "(") then return .given .length []
    expect "("
    match name with
    | "split" => do
      let value ← ternary fuel
      expect ","
      let a ← arrayName
      let mark ← if ← takes "," then pure (some (← ternary fuel)) else pure none
      expect ")"
      return .split value a mark
    | "match" => do
      let value ← ternary fuel
      expect ","
      let pattern ← ternary fuel
      expect ")"
      return .locate value pattern
    | "sub" | "gsub" => do
      let pattern ← ternary fuel
      expect ","
      let value ← ternary fuel
      let target ← if ← takes "," then
          match ← receiver fuel with
          | some e => pure (some e)
          | none => misplaced
        else pure none
      expect ")"
      return .substitute (name = "gsub") pattern value target
    | name =>
      match given? name with
      | none => misplaced
      | some (f, least, most) => do
        let args ← if f = .length then callArguments fuel else arguments fuel
        if args.length < least ∨ most < args.length then
          wrongAt line ("wrong number of arguments in call to " ++ name)
        return .given f args

end

/-! ## statements -/

/-- what is printed: arguments between parentheses that nothing follows, or without them -/
def printed (fuel : Nat) : Reading (List Expression) := do
  let closes : Reading Bool := do
    match (← peek).token with
    | .output _ => return true
    | _ => isSeparator
  if ← closes then return []
  else do
    let before ← get
    let whole : Reading (Option (List Expression)) := do
      if ← takes "(" then
        let es ← arguments fuel
        return if ← closes then some es else none
      else return none
    match ← whole with
    | some es => return es
    | none => do
      set before
      expressions fuel

/-- a statement that prints, after its word -/
def printing (fuel : Nat) (formatted : Bool) (line : Nat) : Reading Statement := do
  let args ← printed fuel
  if formatted ∧ args.isEmpty then wrongAt line "no arguments in call to printf"
  match (← peek).token with
  | .output d => do
    advance
    let path ← ternary fuel
    separator
    return .print formatted args (some (d, path))
  | _ => do
    separator
    return .print formatted args none

/-- an expression between parentheses, and what follows it may stand on the next line -/
def condition (fuel : Nat) : Reading Expression := do
  expect "("
  let e ← ternary fuel
  expect ")"
  skipLines 1
  return e

/-- something inside of a loop -/
def inLoop {α : Type} (x : Reading α) : Reading α := do
  modify fun d => { d with loops := d.loops + 1 }
  let a ← x
  modify fun d => { d with loops := d.loops - 1 }
  return a

/-- an expression up to a mark, if there is one -/
def optional (fuel : Nat) (mark : String) : Reading (Option Expression) := do
  if ← takes mark then return none
  else do
    let e ← ternary fuel
    expect mark
    return some e

/-- an expression at the end of a statement, if there is one -/
def lastValue (fuel : Nat) : Reading (Option Expression) := do
  if ← isSeparator then
    advance
    return none
  else do
    let e ← ternary fuel
    separator
    return some e

/-- the names of a loop over an array, if that is what comes next -/
def elements? : Reading (Option (Octets × Octets × Nat)) := do
  match (← get).rest with
  | { token := .name k, line, .. } :: { token := .keyword w, .. } :: { token := .name a, .. } ::
      { token := .mark m, .. } :: rest =>
    if w = "in" ∧ m = ")" then
      modify fun d => { d with rest }
      return some (k, a, line)
    else return none
  | _ => return none

mutual

/-- a statement -/
def statement : Nat → Reading Statement
  | 0 => misplaced
  | fuel + 1 => do
    let l ← peek
    match l.token with
    | .mark m =>
      if m = "\x7b" then
        advance
        return .block (← statements fuel)
      else if m = ";" then
        advance
        return .nothing
      else computation fuel
    | .lineEnd | .supplied => do
      advance
      return .nothing
    | .keyword w =>
      match w with
      | "getline" => computation fuel
      | w => do
        advance
        worded fuel w l.line
    | _ => computation fuel

/-- an expression that is computed -/
def computation : Nat → Reading Statement
  | 0 => misplaced
  | fuel + 1 => do
    let e ← ternary fuel
    separator
    return .compute e

/-- statements up to the closing brace -/
def statements : Nat → Reading (List Statement)
  | 0 => misplaced
  | fuel + 1 => do
    if ← takes "\x7d" then return []
    else do
      let s ← statement fuel
      return s :: (← statements fuel)

/-- a statement that starts with a word, after that -/
def worded : Nat → String → Nat → Reading Statement
  | 0, _, _ => misplaced
  | fuel + 1, w, line => do
    match w with
    | "if" => do
      let test ← condition fuel
      let yes ← statement fuel
      if ← isKeyword "else" then
        advance
        skipLines 1
        return .choose test yes (← statement fuel)
      else return .choose test yes .nothing
    | "while" => do
      let test ← condition fuel
      return .whileTrue test (← inLoop (statement fuel))
    | "do" => do
      skipLines 1
      let body ← inLoop (statement fuel)
      if ← isKeyword "while" then
        advance
        expect "("
        let test ← ternary fuel
        expect ")"
        separator
        return .doWhile body test
      else misplaced
    | "for" => do
      expect "("
      match ← elements? with
      | some (k, a, line) => do
        let k ← useName k .variable line
        let a ← useName a .array line
        skipLines 1
        return .each (.variable k) a (← inLoop (statement fuel))
      | none => do
        let start ← optional fuel ";"
        let test ← optional fuel ";"
        let step ← optional fuel ")"
        skipLines 1
        let body ← inLoop (statement fuel)
        let compute (e : Option Expression) : Statement := (e.map .compute).getD .nothing
        return .count (compute start) test (compute step) body
    | "print" => printing fuel false line
    | "printf" => printing fuel true line
    | "next" => do
      if (← get).place ≠ .record then wrongAt line "improper use of next"
      separator
      return .nextRecord
    | "nextfile" => do
      if (← get).place ≠ .record then wrongAt line "improper use of next"
      separator
      return .nextFile
    | "exit" => return .exit (← lastValue fuel)
    | "return" => do
      if (← get).place ≠ .routine then wrongAt line "return outside function body"
      return .answer (← lastValue fuel)
    | "break" => do
      if (← get).loops = 0 then wrongAt line "break statement outside of loop"
      separator
      return .leaveLoop
    | "continue" => do
      if (← get).loops = 0 then wrongAt line "continue statement outside of loop"
      separator
      return .nextRound
    | "delete" => do
      let a ← arrayName
      if ← takes "[" then
        let index ← expressions fuel
        expect "]"
        separator
        return .delete a index
      else do
        separator
        return .deleteAll a
    | _ => do
      modify fun d => { d with rest := { token := .keyword w, line, shown := w.toList } :: d.rest }
      misplaced

end

/-! ## rules and functions -/

/-- statements between braces -/
def body (fuel : Nat) : Reading Statement := do
  expect "\x7b"
  return .block (← statements fuel)

/-- the names of parameters, up to the closing parenthesis -/
def parameters : Nat → List Octets → Reading (List Octets)
  | 0, _ => misplaced
  | fuel + 1, before => do
    let l ← peek
    match l.token with
    | .name n => do
      advance
      if before.contains n then throw (atLine l.line (n ++ " is duplicated in argument list".toList))
      if ← takes "," then parameters fuel (before ++ [n])
      else do
        expect ")"
        return before ++ [n]
    | _ => misplaced

/-- a function, after its word -/
def routine (fuel : Nat) : Reading Unit := do
  let l ← peek
  match l.token with
  | .callee name => do
    advance
    let d ← get
    if d.routines.any fun r => r.name = name then throw (atLine l.line ("redefinition of ".toList ++ name))
    match d.names.find? fun x => x.1 = name with
    | some _ => throw (atLine l.line ("illegal reference to variable ".toList ++ name))
    | none => pure ()
    expect "("
    let names ← if ← takes ")" then pure [] else parameters fuel []
    skipLines 1
    modify fun d => { d with place := .routine, own := (names.map fun n => (n, Kind.unknown)).toArray }
    let body ← body fuel
    modify fun d => { d with
      place := .record, own := #[], routines := d.routines.push { name, parameters := d.own, body } }
  | _ => misplaced

/-- statements in front of all records or behind them, after their word -/
def special (fuel : Nat) : Reading Statement := do
  modify fun d => { d with place := .start }
  let b ← body fuel
  modify fun d => { d with place := .record }
  return b

/-- a rule -/
def rule (fuel : Nat) : Reading Rule := do
  if ← isMark "\x7b" then return { pattern := .every, body := ← body fuel }
  else
    let first ← ternary fuel
    let pattern ← if ← takes "," then pure (Pattern.range first (← ternary fuel)) else pure (Pattern.test first)
    if ← isMark "\x7b" then return { pattern, body := ← body fuel }
    else
      separator
      return { pattern, body := .print false [] none }

/-- the rules and functions of a script, up to its end -/
def parts : Nat → Script → Reading Script
  | 0, s => return s
  | fuel + 1, s => do
    match (← peek).token with
    | .finish => return { s with starts := s.starts.reverse, rules := s.rules.reverse, ends := s.ends.reverse }
    | .keyword "function" => do
      advance
      routine fuel
      parts fuel s
    | .keyword "BEGIN" => do
      advance
      let b ← special fuel
      parts fuel { s with starts := b :: s.starts }
    | .keyword "END" => do
      advance
      let b ← special fuel
      parts fuel { s with ends := b :: s.ends }
    | _ => do
      let r ← rule fuel
      parts fuel { s with rules := r :: s.rules }

/-! ## arrays -/

namespace Draft

/-- what a name in a function stands for -/
def kindOf (d : Draft) (caller : Option Nat) : Name → Kind
  | .shared n => ((d.names[n]?).map (·.2)).getD .unknown
  | .own i => ((caller.bind fun c => d.routines[c]?).bind fun r => (r.parameters[i]?).map (·.2)).getD .unknown

/-- a parameter of a function stands for something -/
def setParameter (d : Draft) (routine i : Nat) (kind : Kind) : Draft :=
  { d with routines := d.routines.modify routine fun r =>
    { r with parameters := r.parameters.modify i fun p => (p.1, kind) } }

/-- a name in a function stands for something -/
def setKind (d : Draft) (caller : Option Nat) (kind : Kind) : Name → Draft
  | .shared n => { d with names := d.names.modify n fun x => (x.1, kind) }
  | .own i => match caller with
    | some c => d.setParameter c i kind
    | none => d

/-- what an argument and a parameter tell about each other -/
def agree (d : Draft) (c : Call) (callee i : Nat) (arg : Option Name) : Draft :=
  let parameter := d.kindOf (some callee) (.own i)
  match arg with
  | none => if parameter = .unknown then d.setParameter callee i .variable else d
  | some n =>
    match d.kindOf c.caller n, parameter with
    | .unknown, .unknown => d
    | .unknown, k => d.setKind c.caller k n
    | k, .unknown => d.setParameter callee i k
    | _, _ => d

/-- one round over all calls -/
def agreeAll (d : Draft) : Draft :=
  d.calls.reverse.foldl (fun d c =>
    match d.routines.findIdx? fun r => r.name = c.function with
    | some f => (c.args.zipIdx).foldl (fun d (x : Option Name × Nat) => d.agree c f x.2 x.1) d
    | none => d) d

/-- so many rounds over all calls -/
def infer : Nat → Draft → Draft
  | 0, d => d
  | n + 1, d => infer n d.agreeAll

/-- what is wrong with a call -/
def callFault? (d : Draft) (last : Nat) (c : Call) : Option Octets :=
  match d.routines.findIdx? fun r => r.name = c.function with
  | none => some (atLine last ("function ".toList ++ c.function ++ " never defined".toList))
  | some f =>
    let count := ((d.routines[f]?).map (·.parameters.size)).getD 0
    if count < c.args.length then some (atLine c.line ("too many arguments in call to ".toList ++ c.function))
    else
      let shown (k : Kind) : Octets := if k = .array then "local array".toList else "local variable".toList
      (c.args.zipIdx).findSome? fun (x : Option Name × Nat) =>
        let parameter := d.kindOf (some f) (.own x.2)
        let actual := match x.1 with
          | some n => d.kindOf c.caller n
          | none => .variable
        if actual ≠ .unknown ∧ parameter ≠ .unknown ∧ actual ≠ parameter then
          some (atLine c.line ("type error in arg(".toList ++ Octets.ofNat (x.2 + 1) ++ ") in call to ".toList ++
            c.function ++ " (actual ".toList ++ shown actual ++ " vs ".toList ++ shown parameter ++ ")".toList))
        else none

/-- the script that was read -/
def script (d : Draft) (s : Script) : Script :=
  { s with
    names := d.names.map (·.1)
    arrays := d.names.map fun x => x.2 = .array
    routines := d.routines.toList.map fun r =>
      { name := r.name, arrays := r.parameters.map fun p => p.2 = .array, body := r.body } }

end Draft

/-- the names that have a meaning -/
def startNames : Array (Octets × Kind) :=
  givenNames.mapIdx fun i n => (n, if i = Given.environment ∨ i = Given.arguments then Kind.array else .variable)

/-- the script that a text writes, and what is wrong with it -/
def read (source : Octets) : Script × List Octets :=
  let start := Scan.skip true (source.length + 1) { rest := source }
  let words := lexemes (2 * source.length + 2) start
  let last := ((words.getLast?).map (·.line)).getD 1
  let draft : Draft := { rest := words, names := startNames }
  let fuel := 40 * words.length + 100
  let (result, d) := (parts fuel {}).run.run draft
  match result with
  | .error e => ({}, (e :: d.complaints).reverse)
  | .ok s =>
    let rounds := d.names.size + d.routines.foldl (fun n r => n + r.parameters.size) 0 + 1
    let d := d.infer rounds
    match d.calls.reverse.findSome? (d.callFault? last) with
    | some e => ({}, (e :: d.complaints).reverse)
    | none => (d.script s, d.complaints.reverse)

end Debate.Shell.Report
