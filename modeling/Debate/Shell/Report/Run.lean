import Debate.Number.Power
import Debate.Shell.Options
import Debate.Shell.Report.Reader
import Debate.Shell.Report.Session

/-!
# Running scripts that report on records

First what stands in front of the records is done, then the rules for each record, and at last what stands behind
them. What a place stands for is decided before the value that it gets.

* `Report.Target`, `Report.store`       what can be assigned to;
* `Report.replaced`                     what comes of a substitution;
* `Report.evaluate`, `Report.perform`   values of expressions, and statements;
* `Report.runScript`                    a script from its start to its end;
* `awk`                                 the program.
-/

namespace Debate.Shell

open Debate.Files Debate.Number Debate.Number.Power

namespace Report

/-! ## places -/

/-- something that can be assigned to -/
inductive Target where
  | shared (n : Nat)
  | own (i : Nat)
  | element (table : Nat) (key : Value)
  | field (i : Nat)

/-- the number of an array -/
def tableOf (a : Name) : Reporting Nat := do
  match a with
  | .shared n => return n
  | .own i => do
    let s ← get
    match (s.own[i]?).getD default with
    | .array n => return n
    | .value _ => do
      set { s with tables := s.tables.push {}, own := s.own.setIfInBounds i (.array s.tables.size) }
      return s.tables.size

/-- whether a name stands for an array -/
def isArray (a : Name) : Reporting Bool := do
  let s ← get
  match a with
  | .shared n => return (s.script.arrays[n]?).getD false
  | .own i =>
    match (s.own[i]?).getD default with
    | .array _ => return true
    | .value _ => return false

/-- the value of a name -/
def nameValue (n : Name) : Reporting Value := do
  match n with
  | .shared n => sharedValue n
  | .own i =>
    match ((← get).own[i]?).getD default with
    | .value v => return v
    | .array _ => return .absent

/-- something gets a value -/
def store (t : Target) (v : Value) : Reporting Unit := do
  match t with
  | .shared n => setShared n v
  | .own i => modify fun s => { s with own := s.own.setIfInBounds i (.value v) }
  | .element a key => modify fun s =>
    let format := s.text Given.textFormat
    (s.withTable a fun t => (t.put format key v, ())).2
  | .field i => setField i v

/-- the value of an element, which is created if it is missing -/
def elementValue (a : Nat) (key : Value) : Reporting Value := modifyGet fun s =>
  let format := s.text Given.textFormat
  s.withTable a fun t => t.get format key

/-- the value of something that can be assigned to -/
def load (t : Target) : Reporting Value := do
  match t with
  | .shared n => sharedValue n
  | .own i => nameValue (.own i)
  | .element a key => elementValue a key
  | .field i => field i

/-- the value that an operation changes; a record that was read counts as nothing if it was asked for by a number
that was computed -/
def changed (target : Expression) (t : Target) : Reporting Value := do
  let v ← load t
  match target, t, v with
  | .field (.number _), _, _ => return v
  | .field _, .field 0, .input _ | .field _, .field 0, .text _ => return .absent
  | _, _, _ => return v

/-- the number of a field that a value asks for -/
def fieldIndex (v : Value) : Reporting Nat := do
  let n := halfWord v.toNumber
  if n < 0 then runFault ("negative field index $".toList ++ Octets.ofInt n) else return n.toNat

/-! ## texts -/

/-- the text that is put in the place of a match: an ampersand stands for the match, unless backslashes in front
of it say otherwise -/
def filled (found : Octets) : Nat → Octets → Octets
  | 0, _ => []
  | _, [] => []
  | fuel + 1, '&' :: cs => found ++ filled found fuel cs
  | fuel + 1, '\\' :: cs =>
    let run := 1 + (cs.takeWhile (· = '\\')).length
    match cs.drop (run - 1) with
    | '&' :: rest =>
      List.replicate (run / 2) '\\' ++ (if run % 2 = 1 then ['&'] else found) ++ filled found fuel rest
    | rest => List.replicate run '\\' ++ filled found fuel rest
  | fuel + 1, c :: cs => c :: filled found fuel cs

/-- a text with other texts in the place of matches, and how many there were; an empty match right behind another
one does not count -/
def replaced (r : Regex) (subject : Regex.Subject) (text : Array Char) (value : Octets) (all : Bool) :
    Nat → Nat → Option Nat → Octets × Nat
  | 0, place, _ => ((text.extract place text.size).toList, 0)
  | fuel + 1, place, before =>
    match r.search? subject place with
    | none => ((text.extract place text.size).toList, 0)
    | some f =>
      let front := (text.extract place f.start).toList
      let one := (text.extract f.start (f.start + 1)).toList
      if f.start = f.stop ∧ before = some f.start then
        if text.size ≤ f.start then (front, 0)
        else
          let t := replaced r subject text value all fuel (f.start + 1) none
          (front ++ one ++ t.1, t.2)
      else
        let put := filled (text.extract f.start f.stop).toList (value.length + 1) value
        if !all then (front ++ put ++ (text.extract f.stop text.size).toList, 1)
        else if f.start = f.stop then
          if text.size ≤ f.start then (front ++ put, 1)
          else
            let t := replaced r subject text value all fuel (f.stop + 1) none
            (front ++ put ++ one ++ t.1, t.2 + 1)
        else
          let t := replaced r subject text value all fuel f.stop (some f.stop)
          (front ++ put ++ t.1, t.2 + 1)

/-- a part of a text, from an octet on, perhaps only so many -/
def part (cs : Octets) (first : Int) (count : Option Int) : Octets :=
  let count := count.map fun n => if first < 1 then n - first else n
  let rest := cs.drop (first - 1).toNat
  match count with
  | some n => rest.take n.toNat
  | none => rest

/-- where a text stands in another one, the first octet being one -/
def placeOf (whole sought : Octets) : Nat :=
  let rec go (n : Nat) : Octets → Nat
    | [] => 0
    | c :: cs => if sought.isPrefixOf (c :: cs) then n else go (n + 1) cs
  if sought.isEmpty then 1 else go 1 whole

/-- the next random number, and what the ones after it come from -/
def nextRandom (state : Nat) : Double × Nat :=
  let next := (6364136223846793005 * state + 1442695040888963407) % 2 ^ (64 : Nat)
  (.nearest false (next / 2 ^ (32 : Nat)) (2 ^ (32 : Nat)), next)

/-- a text with conversions, from the values of its arguments -/
def formatted (what : String) (args : List Value) : Reporting (Octets × Option Octets) := do
  let s ← get
  let text := (args.head?.map s.textOf).getD []
  let (cs, fault) := format (s.text Given.textFormat) (text.length + 1) 1 text args.tail
  let call := what.toList ++ "(\"".toList ++ text ++ "\")".toList
  return (cs, fault.map fun f => match f with
    | .tooFew => "not enough arguments passed to ".toList ++ call
    | .improper n => "improper conversion(number ".toList ++ Octets.ofNat n ++ ") in ".toList ++ call)

/-! ## statements -/

/-- where a script goes on behind a statement -/
inductive Flow where
  | onward
  | leaveLoop
  | nextRound
  | nextRecord
  | nextFile
  | answer (v : Value)

/-- what is printed when values are printed -/
def printedText (values : List Value) : Reporting Octets := do
  let s ← get
  let format := s.text Given.outputFormat
  let text (v : Value) : Octets := match v with
    | .number x => numberToText format x
    | v => s.textOf v
  return joinTexts (s.text Given.outputFieldMark) (values.map text) ++ s.text Given.outputRecordMark

/-- something that was read goes where it is wanted, or becomes the record -/
def receive (t : Option Target) (cs : Octets) : Reporting Unit := do
  match t with
  | some t => store t (.input cs)
  | none => setRecord (.input cs)

/-- a function of one number -/
def Function.float? (f : Function) : Option (Float → Float) :=
  match f with
  | .squareRoot => some Float.sqrt
  | .exponential => some Float.exp
  | .logarithm => some Float.log
  | .sine => some Float.sin
  | .cosine => some Float.cos
  | _ => none

/-- a function that is given, applied to values -/
def applyGiven (f : Function) (args : List Value) : Reporting Value := do
  let s ← get
  let first := args.headD .absent
  let second := (args[1]?).getD .absent
  let text := s.textOf first
  match f with
  | .length => return .number (.ofInt text.length)
  | .substring =>
    return .text (part text (halfWord second.toNumber) ((args[2]?).map fun v => halfWord v.toNumber))
  | .find => return .number (.ofInt (placeOf text (s.textOf second)))
  | .format => do
    match ← formatted "sprintf" args with
    | (cs, none) => return .text cs
    | (_, some fault) => runFault fault
  | .upper => return .text (text.map fun c => if 'a' ≤ c ∧ c ≤ 'z' then c.toUpper else c)
  | .lower => return .text (text.map fun c => if 'A' ≤ c ∧ c ≤ 'Z' then c.toLower else c)
  | .integer =>
    let x := first.toNumber
    return .number ((x.truncate.map Double.ofInt).getD x)
  | .arcTangent =>
    return .number (ofFloat (Float.atan2 (toFloat first.toNumber) (toFloat second.toNumber)))
  | .random => do
    let (x, next) := nextRandom s.random
    set { s with random := next }
    return .number x
  | .seed => do
    let seed := if args.isEmpty then one else first.toNumber
    set { s with seed, random := (unsignedWord seed) }
    return .number s.seed
  | .system => do
    flushAll
    return .number (.ofInt (← execute none none text))
  | .close => do
    match ← close text with
    | some n => return .number (.ofInt n)
    | none => return .number (.ofInt (-1))
  | .flush => do
    flushAll
    let known := args.isEmpty || text.isEmpty || text = "/dev/stdout".toList || text = "/dev/stderr".toList ||
      s.outlets.any fun o => o.path = text
    return .number (.ofInt (if known then 0 else -1))
  | f =>
    match f.float? with
    | some g => return .number (throughFloat g first.toNumber)
    | none => return .absent

/-- the range of a rule is open, or closed -/
def setRange (n : Nat) (isOpen : Bool) : Reporting Unit := modify fun s =>
  { s with openRanges := if isOpen then n :: s.openRanges else s.openRanges.filter (· ≠ n) }

mutual

/-- the value of an expression -/
def evaluate : Nat → Expression → Reporting Value
  | 0, _ => do
    passForever
    return .absent
  | fuel + 1, e => do
    match e with
    | .number x => return .number x
    | .text cs => return .text cs
    | .regex r => do
      let s := (← get).textOf (← get).record
      return ofBool (fits r s)
    | .variable n => nameValue n
    | .element a index => do
      let key ← indexOf fuel index
      elementValue (← tableOf a) key
    | .field e => do field (← fieldIndex (← evaluate fuel e))
    | .assign target value => do
      let t ← targetOf fuel target
      let v ← evaluate fuel value
      store t v
      return v
    | .update target op value => do
      let t ← targetOf fuel target
      let b ← evaluate fuel value
      let a ← changed target t
      let v := Value.number (op.apply a.toNumber b.toNumber)
      store t v
      return v
    | .step target up after => do
      let t ← targetOf fuel target
      let old := (← changed target t).toNumber
      let new := if up then Double.add old one else Double.sub old one
      store t (.number new)
      return .number (if after then old else new)
    | .choice test yes no => do
      if (← evaluate fuel test).holds then evaluate fuel yes else evaluate fuel no
    | .both a b => do
      if (← evaluate fuel a).holds then return ofBool (← evaluate fuel b).holds else return ofBool false
    | .either a b => do
      if (← evaluate fuel a).holds then return ofBool true else return ofBool (← evaluate fuel b).holds
    | .not a => do return ofBool (!(← evaluate fuel a).holds)
    | .negative a => do return .number (← evaluate fuel a).toNumber.negate
    | .positive a => do return .number (← evaluate fuel a).toNumber
    | .operate op a b => do
      let x ← evaluate fuel a
      let y ← evaluate fuel b
      return .number (op.apply x.toNumber y.toNumber)
    | .join a b => do
      let x ← evaluate fuel a
      let y ← evaluate fuel b
      let s ← get
      return .text (s.textOf x ++ s.textOf y)
    | .compare c a b => do
      let x ← evaluate fuel a
      let y ← evaluate fuel b
      return ofBool (compareValues ((← get).text Given.textFormat) c x y)
    | .fits a b wanted => do
      let v ← evaluate fuel a
      let r ← patternOf fuel b
      return ofBool (fits r ((← get).textOf v) == wanted)
    | .member a index => do
      let key ← indexOf fuel index
      let n ← tableOf a
      modifyGet fun s =>
        let format := s.text Given.textFormat
        s.withTable n fun t =>
          let (t, found) := t.find format key false
          (t, ofBool found.isSome)
    | .call f args => call fuel f args
    | .given .length [] => do
      let v := (← get).record
      applyGiven .length [v]
    | .given .length [.variable n] => do
      if ← isArray n then
        let t := (← get).table (← tableOf n)
        return .number (.ofInt t.size)
      else applyGiven .length [← nameValue n]
    | .given f args => do applyGiven f (← evaluateAll fuel args)
    | .split value a mark => do
      let v ← evaluate fuel value
      let n ← tableOf a
      let p ← match mark with
        | none => separator? ((← get).text Given.fieldMark)
        | some (.regex r) => pure (.regex r)
        | some e => do separator? ((← get).textOf (← evaluate fuel e))
      let parts := p.separated ((← get).textOf v)
      modify fun s => s.putTable n (.list (parts.map .input))
      return .number (.ofInt parts.length)
    | .locate value pattern => do
      let v ← evaluate fuel value
      let r ← patternOf fuel pattern
      let text := (← get).textOf v
      let found := r.search? { text := (units text).toArray } 0
      let start : Int := (found.map fun f => (f.start : Int) + 1).getD 0
      let length : Int := (found.map fun f => (f.stop : Int) - f.start).getD (-1)
      modify fun s => (s.put Given.matchStart (.number (.ofInt start))).put Given.matchLength
        (.number (.ofInt length))
      return .number (.ofInt start)
    | .substitute all pattern value target => do
      let r ← patternOf fuel pattern
      let v ← evaluate fuel value
      let t ← match target with
        | none => pure (Target.field 0)
        | some e => targetOf fuel e
      let old ← load t
      let s ← get
      let text := s.textOf old
      let (new, n) := replaced r { text := (units text).toArray } text.toArray (s.textOf v) all
        (2 * text.length + 3) 0 none
      if n ≠ 0 then store t (.text new)
      return .number (.ofInt n)
    | .getRecord target => do
      let t ← targetOf? fuel target
      match ← nextRecord (← get).files with
      | some cs => do
        receive t cs
        return .number one
      | none => return .number .zero
    | .getFrom target path => do
      let t ← targetOf? fuel target
      let path := (← get).textOf (← evaluate fuel path)
      match ← fileSource path with
      | none => return .number (.ofInt (-1))
      | some o => do
        match ← takeFrom o with
        | some cs => do
          receive t cs
          return .number one
        | none => return .number .zero
    | .getOutput target command => do
      let command := (← get).textOf (← evaluate fuel command)
      let t ← targetOf? fuel target
      match ← takeFrom (← commandSource command) with
      | some cs => do
        receive t cs
        return .number one
      | none => return .number .zero
where
  /-- whether an expression matches somewhere in a text -/
  fits (r : Regex) (cs : Octets) : Bool := r.matches? {} (units cs)

/-- the values of expressions -/
def evaluateAll : Nat → List Expression → Reporting (List Value)
  | _, [] => return []
  | 0, _ => return []
  | fuel + 1, e :: es => do
    let v ← evaluate fuel e
    return v :: (← evaluateAll fuel es)

/-- the index that expressions make -/
def indexOf : Nat → List Expression → Reporting Value
  | 0, _ => return .absent
  | fuel + 1, [e] => evaluate fuel e
  | fuel + 1, es => do
    let vs ← evaluateAll fuel es
    let s ← get
    return .text (joinTexts (s.text Given.indexMark) (vs.map s.textOf))

/-- the expression that is searched for -/
def patternOf : Nat → Expression → Reporting Regex
  | 0, _ => return .empty
  | fuel + 1, e => do
    match e with
    | .regex r => return r
    | e => do
      let v ← evaluate fuel e
      pattern ((← get).textOf v)

/-- what is assigned to -/
def targetOf : Nat → Expression → Reporting Target
  | 0, _ => return .shared 0
  | fuel + 1, e => do
    match e with
    | .variable (.shared n) => return .shared n
    | .variable (.own i) => return .own i
    | .element a index => do
      let key ← indexOf fuel index
      let n ← tableOf a
      let _ ← elementValue n key
      return .element n key
    | .field e => do return .field (← fieldIndex (← evaluate fuel e))
    | _ => return .shared 0

/-- what is assigned to, if there is something -/
def targetOf? : Nat → Option Expression → Reporting (Option Target)
  | _, none => return none
  | 0, _ => return none
  | fuel + 1, some e => do return some (← targetOf fuel e)

/-- what parameters hold: arrays that are passed are those of the caller -/
def slots : Nat → List Bool → List Expression → Reporting (List Slot)
  | 0, _, _ => return []
  | _, [], _ => return []
  | fuel + 1, isTable :: more, args => do
    let slot ← if isTable then
        match args with
        | .variable n :: _ => do pure (Slot.array (← tableOf n))
        | _ => modifyGet fun s => (Slot.array s.tables.size, { s with tables := s.tables.push {} })
      else
        match args with
        | e :: _ => do pure (Slot.value (← evaluate fuel e))
        | [] => pure (Slot.value .absent)
    return slot :: (← slots fuel more args.tail)

/-- a call of a function of the script -/
def call : Nat → Octets → List Expression → Reporting Value
  | 0, _, _ => return .absent
  | fuel + 1, name, args => do
    match (← get).script.routine? name with
    | none => return .absent
    | some r => do
      tick
      let before ← get
      let own ← slots fuel r.arrays.toList args
      let weight := max 1 r.arrays.size
      if before.depth < weight then giveUp "program limit exceeded: eval stack size=1024".toList
      modify fun s => { s with own := own.toArray, depth := before.depth - weight }
      let flow ← perform fuel r.body
      modify fun s => { s with
        own := before.own, depth := before.depth, tables := s.tables.take before.tables.size }
      match flow with
      | .answer v => return v
      | _ => return .absent

/-- a statement is executed -/
def perform : Nat → Statement → Reporting Flow
  | 0, _ => do
    passForever
    return .onward
  | fuel + 1, x => do
    match x with
    | .nothing => return .onward
    | .block body => performAll fuel body
    | .compute e => do
      let _ ← evaluate fuel e
      return .onward
    | .print formats args goal => do
      let values ← if args.isEmpty then do
          let v := (← get).record
          pure [Value.text ((← get).textOf v)]
        else evaluateAll fuel args
      let (text, fault) ← if formats then formatted "printf" values
        else do pure (← printedText values, none)
      match goal with
      | none => print text
      | some (d, path) => do
        let path ← evaluate fuel path
        emit d ((← get).textOf path) text
      match fault with
      | some f => runFault f
      | none => return .onward
    | .choose test yes no => do
      if (← evaluate fuel test).holds then perform fuel yes else perform fuel no
    | .whileTrue test body => rounds fuel (some test) .nothing body
    | .doWhile body test => do
      match ← perform fuel body with
      | .leaveLoop => return .onward
      | .onward | .nextRound => rounds fuel (some test) .nothing body
      | flow => return flow
    | .count start test step body => do
      let _ ← perform fuel start
      rounds fuel test step body
    | .each target a body => do
      let n ← tableOf a
      let keys ← modifyGet fun s => s.withTable n Table.keys
      performEach fuel target keys body
    | .leaveLoop => return .leaveLoop
    | .nextRound => return .nextRound
    | .nextRecord => return .nextRecord
    | .nextFile => return .nextFile
    | .exit status => do
      match status with
      | some e => do
        let v ← evaluate fuel e
        modify fun s => { s with status := (halfWord v.toNumber % 256).toNat }
      | none => pure ()
      throw .exit
    | .answer value => do
      match value with
      | some e => return .answer (← evaluate fuel e)
      | none => return .answer .absent
    | .delete a index => do
      let key ← indexOf fuel index
      let n ← tableOf a
      modify fun s =>
        let format := s.text Given.textFormat
        (s.withTable n fun t => (t.remove format key, ())).2
      return .onward
    | .deleteAll a => do
      let n ← tableOf a
      modify fun s => s.putTable n {}
      return .onward

/-- statements are executed, one after the other -/
def performAll : Nat → List Statement → Reporting Flow
  | _, [] => return .onward
  | 0, _ => return .onward
  | fuel + 1, x :: xs => do
    match ← perform fuel x with
    | .onward => performAll fuel xs
    | flow => return flow

/-- a loop goes round as long as a condition holds -/
def rounds : Nat → Option Expression → Statement → Statement → Reporting Flow
  | 0, _, _, _ => do
    passForever
    return .onward
  | fuel + 1, test, step, body => do
    tick
    let goesOn ← match test with
      | some e => do pure (← evaluate fuel e).holds
      | none => pure true
    if !goesOn then return .onward
    else
      match ← perform fuel body with
      | .leaveLoop => return .onward
      | .onward | .nextRound => do
        let _ ← perform fuel step
        rounds fuel test step body
      | flow => return flow

/-- a loop goes through keys -/
def performEach : Nat → Expression → List Octets → Statement → Reporting Flow
  | _, _, [], _ => return .onward
  | 0, _, _, _ => return .onward
  | fuel + 1, target, key :: keys, body => do
    tick
    store (← targetOf fuel target) (.text key)
    match ← perform fuel body with
    | .leaveLoop => return .onward
    | .onward | .nextRound => performEach fuel target keys body
    | flow => return flow

end

/-! ## whole scripts -/

/-- more than is needed to do everything that can be done -/
def allowance : Nat := 8000000

/-- statements in front of all records, or behind them -/
def runAll : List Statement → Reporting Unit
  | [] => return ()
  | x :: xs => do
    let _ ← perform allowance x
    runAll xs

/-- whether a rule is meant for the record at hand -/
def selects (n : Nat) (p : Pattern) : Reporting Bool := do
  let holds (e : Expression) : Reporting Bool := do return (← evaluate allowance e).holds
  match p with
  | .every => return true
  | .test e => holds e
  | .range first last => do
    let isOpen := (← get).openRanges.contains n
    if isOpen ∨ (← holds first) then
      setRange n false
      if !(← holds last) then setRange n true
      return true
    else return false

/-- the rules for the record at hand, from a number on -/
def runRules : Nat → List Rule → Reporting Flow
  | _, [] => return .onward
  | n, r :: rs => do
    if ← selects n r.pattern then
      match ← perform allowance r.body with
      | .nextRecord => return .nextRecord
      | .nextFile => return .nextFile
      | _ => runRules (n + 1) rs
    else runRules (n + 1) rs

/-- the rules for all records -/
def runRecords : Nat → Reporting Unit
  | 0 => passForever
  | fuel + 1 => do
    tick
    match ← nextRecord (← get).files with
    | none => return ()
    | some cs => do
      setRecord (.input cs)
      match ← runRules 0 (← get).script.rules with
      | .nextFile => modify fun s => { s with current := false }
      | _ => pure ()
      runRecords fuel

/-- a script from its start to its end -/
def runScript : Reporting Unit := do
  let script := (← get).script
  let untilExit (x : Reporting Unit) : Reporting Bool := do
    try
      x
      return true
    catch e =>
      match e with
      | .exit => return false
      | .failed => throw .failed
  if ← untilExit (runAll script.starts) then
    if !script.rules.isEmpty ∨ !script.ends.isEmpty then
      let _ ← untilExit (runRecords allowance)
  let status := (← get).status
  if !(← untilExit (runAll script.ends)) then
    if status ≠ 0 ∧ (← get).status = 0 then modify fun s => { s with status }

/-- a session at work; the status -/
def Session.work (s : Session) (x : Reporting Unit) : Act Nat := do
  let (_, s) ← x.run s
  let (_, s) ← closeAll.run s
  return s.status

/-! ## arguments -/

/-- what the arguments say before the files -/
structure Arguments where
  sources : List Octets := []
  /-- variables that get values, in order -/
  values : List (Octets × Octets) := []
  rest : List Octets := []

/-- how the program is used -/
def usage : String :=
  "Usage: mawk [Options] [Program] [file ...]\n\n" ++
  "Program:\n" ++
  "    The -f option value is the name of a file containing program text.\n" ++
  "    If no -f option is given, a \"--\" ends option processing; the following\n" ++
  "    parameters are the program text.\n\n" ++
  "Options:\n" ++
  "    -f program-file  Program  text is read from file instead of from the\n" ++
  "                     command-line.  Multiple -f options are accepted.\n" ++
  "    -F value         sets the field separator, FS, to value.\n" ++
  "    -v var=value     assigns value to program variable var.\n" ++
  "    --               unambiguous end of options.\n\n" ++
  "    Implementation-specific options are prefixed with \"-W\".  They can be\n" ++
  "    abbreviated:\n\n" ++
  "    -W version       show version information and exit.\n" ++
  "    -W compat        pre-POSIX 2001.\n" ++
  "    -W dump          show assembler-like listing of program and exit.\n" ++
  "    -W help          show this message and exit.\n" ++
  "    -W interactive   set unbuffered output, line-buffered input.\n" ++
  "    -W exec file     use file as program as well as last option.\n" ++
  "    -W posix         stricter POSIX checking.\n" ++
  "    -W random=number set initial random seed.\n" ++
  "    -W sprintf=number adjust size of sprintf buffer.\n" ++
  "    -W usage         show this message and exit."

/-- why the arguments are not followed -/
inductive Refusal where
  | fault (text : Octets)
  | help
  deriving DecidableEq, Repr

/-- the options at the start of the arguments -/
def readArguments : List Octets → Arguments → Except Refusal Arguments
  | [], a => .ok a
  | word :: more, a =>
    let other (text : String) : Except Refusal Arguments := .error (.fault (text.toList ++ word))
    match word with
    | ['-', '-'] => .ok { a with rest := more }
    | '-' :: '-' :: long =>
      if (String.ofList long).startsWith "help" ∨ (String.ofList long).startsWith "usage" then .error .help
      else if knownWords.contains (String.ofList long) then readArguments more a
      else other "not an option: "
    | ['-', c] =>
      if !("WFvf".toList.contains c) then other "not an option: "
      else
        match more with
        | [] => .error (.fault ("option ".toList ++ word ++ " lacks argument".toList))
        | value :: more =>
          match valued c value a with
          | .ok a => readArguments more a
          | .error e => .error e
    | '-' :: c :: value =>
      if !("WFvf".toList.contains c) then other "not an option: "
      else
        match valued c value a with
        | .ok a => readArguments more a
        | .error e => .error e
    | _ => .ok { a with rest := word :: more }
where
  /-- words that are taken as options, but change nothing -/
  knownWords : List String := ["posix", "interactive", "re-interval", "lint", "compat", "traditional"]
  /-- an option with its value -/
  valued (c : Char) (value : Octets) (a : Arguments) : Except Refusal Arguments :=
    match c with
    | 'f' => .ok { a with sources := a.sources ++ [value] }
    | 'F' => .ok { a with values := a.values ++ [("FS".toList, unescape value)] }
    | 'v' =>
      match assignment? value with
      | some v => .ok { a with values := a.values ++ [v] }
      | none => .error (.fault ("improper assignment: -v ".toList ++ value))
    | _ =>
      let word := String.ofList value
      if word.startsWith "help" ∨ word.startsWith "usage" then .error .help else .ok a

/-- the variables and arrays at the start of a script -/
def Session.begin (s : Session) (script : Script) (args : List Octets) : Session :=
  let names := script.names.size
  let s := { s with
    script, shared := Array.replicate names .absent, tables := Array.replicate names {} }
  let values : List (Nat × Value) :=
    [(Given.fieldCount, .number .zero), (Given.recordCount, .number .zero),
      (Given.fileRecordCount, .number .zero), (Given.fieldMark, .text [' ']), (Given.recordMark, .text ['\n']),
      (Given.outputFieldMark, .text [' ']), (Given.outputRecordMark, .text ['\n']), (Given.indexMark, .text ['\x1c']),
      (Given.matchStart, .number .zero), (Given.matchLength, .number (.ofInt (-1))),
      (Given.textFormat, .text "%.6g".toList), (Given.outputFormat, .text "%.6g".toList),
      (Given.argumentCount, .number (.ofInt args.length))]
  let s := values.foldl (fun s (v : Nat × Value) => s.put v.1 v.2) s
  let arguments := (args.zipIdx).foldl (fun (t : Table) (a : Octets × Nat) =>
    t.put [] (.number (.ofInt a.2)) (.input a.1)) {}
  let environment := s.setting.environment.foldl (fun (t : Table) (v : Octets × Octets) =>
    t.put [] (.text v.1) (.input v.2)) {}
  (s.putTable Given.arguments arguments).putTable Given.environment environment

/-- a script that was read does its work, or what is wrong with it is complained about -/
def Session.start (s : Session) (source : Octets) (file : Option Octets) (a : Arguments) (operands : List Octets) :
    Act Nat := do
  let (script, complaints) := read (source ++ ['\n'])
  if complaints.isEmpty then
    (s.begin script (s.name :: operands)).work do
      for (name, value) in a.values do
        assign name value
      runScript
  else do
    for c in complaints do
      s.setting.complaint s.name (match file with
        | some f => f ++ ": ".toList ++ c
        | none => c)
    return 2

/-- the texts of files one after the other, or why one of them cannot be read -/
def sourceText (s : Setting) : List Octets → Act (Except Octets Octets)
  | [] => return .ok []
  | path :: paths => do
    match ← s.contents path with
    | .error e => return .error ("cannot open \"".toList ++ path ++ "\" (".toList ++ errorText e ++ ")".toList)
    | .ok cs =>
      match ← sourceText s paths with
      | .ok more => return .ok (cs ++ more)
      | .error e => return .error e

end Report

open Report in
/-- records are gone through, and reported on -/
def awk : Program := fun launcher setting name args => do
  let s : Session := { setting, launcher, name }
  let misused : Act Nat := do
    setting.complain usage.toList
    return 0
  match readArguments args {} with
  | .error .help => do
    setting.say (usage.toList ++ ['\n'])
    return 0
  | .error (.fault f) => setting.fail name f 2
  | .ok a =>
    if a.sources.isEmpty then
      match a.rest with
      | [] => misused
      | source :: operands => s.start source none a operands
    else
      match ← sourceText setting a.sources with
      | .error f => setting.fail name f 2
      | .ok source => s.start source (a.sources.getLast?) a a.rest

end Debate.Shell
