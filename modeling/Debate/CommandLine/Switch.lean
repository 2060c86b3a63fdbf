import Debate.Text.Digit
import Debate.Text.Split

/-!
# Switches

The words of a command line are switches with their values, and the words between them. A long switch
may be shortened as long as one switch alone begins that way; its value follows an equals sign or is
the next word. The value of a short switch may follow at once. After two hyphens nothing is a switch;
the hyphens belong to the other word next to them, and are too much if there is none. Short flags may
share one word; what is no flag in it is too much.

* `Switch`           a switch: its names, and whether it takes a value;
* `Part`             what a word of the command line is;
* `Grammar`          the switches, and how many other words there may be;
* `Grammar.read`     the values and words of a command line;
* `Grammar.readUpTo`   the same up to the first other word, and what follows it.
-/

namespace Debate.CommandLine

/-- whether a switch takes a value -/
inductive Shape where
  | flag
  | value
  /-- a flag that asks for help and ends the reading -/
  | help
  deriving DecidableEq, Repr

/-- a switch -/
structure Switch where
  /-- the name under which its value is kept -/
  key : String
  /-- how it is written -/
  names : List String
  shape : Shape := .value
  deriving DecidableEq, Repr

/-- the switch that asks for help -/
def Switch.helper : Switch := { key := "help", names := ["-h", "--help"], shape := .help }

/-- why a command line is not carried out -/
inductive Refusal where
  /-- it is not understood -/
  | usage
  | help
  deriving DecidableEq, Repr

/-- a value in one word with its switch -/
structure Given where
  text : String
  /-- an equals sign stands in front of it -/
  equals : Bool := true
  deriving DecidableEq, Repr

/-- what a word of the command line is -/
inductive Part where
  | word (s : String)
  /-- the two hyphens after which nothing is a switch -/
  | separator
  /-- a switch, as it was written, with the value that was written with it -/
  | switch (s : Switch) (written : String) (given : Option Given)
  | unknown
  | ambiguous
  deriving DecidableEq, Repr

/-- whether a part stands where a switch may stand -/
def Part.isSwitch : Part → Bool
  | .word _ | .separator => false
  | _ => true

/-- switches, and how many other words there may be -/
structure Grammar where
  switches : List Switch
  words : Nat := 0
  deriving DecidableEq, Repr

/-- what was read of a command line -/
structure Read where
  /-- the values of switches, the last one first -/
  values : List (String × String) := []
  words : List String := []
  /-- there was something that is not understood -/
  surplus : Bool := false
  /-- help is asked for; nothing after that was read -/
  help : Bool := false
  deriving DecidableEq, Repr

/-- the value of a switch, the last one counts; nothing if the switch was not used -/
def Read.value? (r : Read) (key : String) : Option String :=
  (r.values.find? fun v => v.1 = key).map (·.2)

/-- one more value -/
def Read.put (r : Read) (key value : String) : Read :=
  { r with values := (key, value) :: r.values }

/-- one more other word -/
def Read.push (r : Read) (s : String) : Read := { r with words := r.words ++ [s] }

namespace Grammar

/-! ## words and switches -/

/-- the switch of a name -/
def find? (g : Grammar) (name : String) : Option Switch :=
  g.switches.find? fun s => s.names.contains name

/-- a text cut at its first equals sign -/
def cutEquals (s : String) : String × Option Given :=
  match Text.cutAt? ['='] s.toList with
  | some (a, b) => (String.ofList a, some { text := String.ofList b })
  | none => (s, none)

/-- the names of switches that begin with a text, each with its switch -/
def beginning (g : Grammar) (start : String) : List (String × Switch) :=
  g.switches.flatMap fun s => (s.names.filter (·.startsWith start)).map fun n => (n, s)

/-- the switches that a word may mean by its beginning -/
def candidates (g : Grammar) (s : String) : List Part :=
  if s.startsWith "--" then
    let (start, given) := cutEquals s
    (g.beginning start).map fun c => .switch c.2 c.1 given
  else
    let short := String.ofList (s.toList.take 2)
    let rest := String.ofList (s.toList.drop 2)
    ((g.find? short).toList.map fun c => .switch c short (some { text := rest, equals := false })) ++
      ((g.beginning s).filter fun c => c.1 ≠ short).map fun c => .switch c.2 c.1 none

/-- characters without a line feed at their end -/
def withoutLineFeed (cs : List Char) : List Char :=
  if cs.getLast? = some '\n' then cs.dropLast else cs

/-- whether a word is a negative number; a line feed may follow it -/
def isNegativeNumber (s : String) : Bool :=
  match s.toList with
  | '-' :: cs =>
    let cs := withoutLineFeed cs
    let whole := cs.takeWhile fun c => (Text.digitValue? c).isSome
    match cs.drop whole.length with
    | [] => !whole.isEmpty
    | '.' :: part => !part.isEmpty && part.all fun c => (Text.digitValue? c).isSome
    | _ => false
  | _ => false

/-- what a word is -/
def part (g : Grammar) (s : String) : Part :=
  if !s.startsWith "-" ∨ s = "-" then .word s
  else
    match g.find? s with
    | some c => .switch c s none
    | none =>
      let (start, given) := cutEquals s
      match given.bind fun v => (g.find? start).map fun c => Part.switch c start (some v) with
      | some p => p
      | none =>
        match g.candidates s with
        | [p] => p
        | _ :: _ :: _ => .ambiguous
        | [] => if isNegativeNumber s ∨ s.toList.contains ' ' then .word s else .unknown

/-- what the words of a command line are -/
def parts (g : Grammar) : List String → List Part
  | [] => []
  | s :: ss => if s = "--" then .separator :: ss.map .word else g.part s :: parts g ss

/-! ## reading -/

/-- what one word holds: its switches, each with its value, whether there was something else, and the
parts after those that belong to it -/
structure Consumed where
  values : List (Switch × String)
  surplus : Bool := false
  rest : List Part

/-- one more switch in front -/
def Consumed.cons (s : Switch) (c : Consumed) : Consumed := { c with values := (s, "") :: c.values }

/-- what one word holds that starts with a switch -/
def consume (g : Grammar) : Nat → Switch → String → Option Given → List Part → Except Refusal Consumed
  | 0, _, _, _, _ => .error .usage
  | fuel + 1, s, written, explicit, ps =>
    match s.shape, explicit with
    | .value, some v => .ok { values := [(s, v.text)], rest := ps }
    | .value, none =>
      match ps with
      | .word v :: ps => .ok { values := [(s, v)], rest := ps }
      | _ => .error .usage
    | _, none => .ok { values := [(s, "")], rest := ps }
    | _, some v =>
      match v.text.toList with
      | [] => .error .usage
      | c :: cs =>
        if written.startsWith "--" ∨ v.equals ∨ c = '-' then .error .usage
        else
          let name := String.ofList ['-', c]
          match g.find? name with
          | none => .ok { values := [(s, "")], surplus := true, rest := ps }
          | some next =>
            let more : Option Given := match cs with
              | [] => none
              | '=' :: cs => some { text := String.ofList cs }
              | cs => some { text := String.ofList cs, equals := false }
            (consume g fuel next name more ps).map (Consumed.cons s)

/-- values of switches, up to one that asks for help -/
def putAll (r : Read) : List (Switch × String) → Read
  | [] => r
  | (s, v) :: rest => if s.shape = .help then { r with help := true } else putAll (r.put s.key v) rest

/-- the word that comes next, with the hyphens around it, and what follows it -/
def takeWord? : List Part → Option (String × List Part)
  | .word s :: .separator :: ps => some (s, ps)
  | .word s :: ps => some (s, ps)
  | .separator :: .word s :: ps => some (s, ps)
  | _ => none

/-- what the parts of a command line hold -/
def readParts (g : Grammar) : Nat → Read → List Part → Except Refusal Read
  | 0, r, _ => .ok r
  | _, r, [] => .ok r
  | fuel + 1, r, .switch s written explicit :: ps => do
    let length := (explicit.map (·.text.length)).getD 0
    let c ← consume g (length + 2) s written explicit ps
    let r := putAll { r with surplus := r.surplus || c.surplus } c.values
    if r.help then return r else readParts g fuel r c.rest
  | fuel + 1, r, .unknown :: ps => readParts g fuel { r with surplus := true } ps
  | _, _, .ambiguous :: _ => .error .usage
  | fuel + 1, r, p :: ps =>
    match (if r.words.length < g.words then takeWord? (p :: ps) else none) with
    | some (s, rest) => readParts g fuel (r.push s) rest
    | none => readParts g fuel { r with surplus := true } (ps.dropWhile fun p => !p.isSwitch)

/-- the values and words of a command line -/
def read (g : Grammar) (ss : List String) : Except Refusal Read :=
  let ps := g.parts ss
  if ps.contains .ambiguous then .error .usage else readParts g (ss.length + 1) {} ps

/-- how many words of a command line belong to switches in front of the first other word -/
def countSwitches (g : Grammar) : List String → Nat
  | [] => 0
  | "--" :: _ => 0
  | s :: ss =>
    match g.part s with
    | .word _ => 0
    | .switch c _ none =>
      if c.shape = .value then
        match ss with
        | _ :: rest => 2 + countSwitches g rest
        | [] => 1
      else 1 + countSwitches g ss
    | _ => 1 + countSwitches g ss

/-- what stands in front of the first other word, that word, and what follows it -/
def readUpTo (g : Grammar) (ss : List String) : Except Refusal (Read × Option (String × List String)) := do
  if (g.parts ss).contains .ambiguous then throw .usage
  let n := g.countSwitches ss
  let r ← g.read (ss.take n)
  match ss.drop n with
  | [] => return (r, none)
  | s :: rest => return (r, some (s, rest))

end Grammar

end Debate.CommandLine
