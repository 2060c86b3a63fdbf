import Debate.Shell.Edit.Reader
import Debate.Shell.Options

/-!
# Running scripts that edit lines

A line is read, the commands of the script are executed on it, and it is shown; then the next one is read.
What is shown comes out at the end, what goes to files at once.

* `Edit.Editor`        the lines and files at hand while a script runs;
* `Edit.nextLine`      reading a line;
* `Edit.selects`       whether a command is executed;
* `Edit.perform`       executing it, and where the script goes on;
* `Edit.run`           running a script up to its end;
* `sed`                the program.
-/

namespace Debate.Shell

open Debate.Files

namespace Edit

/-! ## what is at hand -/

/-- a line, and whether its end was there -/
structure Line where
  text : Octets := []
  ended : Bool := true

/-- where lines go -/
inductive Sink where
  /-- the results, which come out at the end -/
  | results
  /-- the new text of a file that is changed -/
  | changed
  | channel (c : Option Nat)

/-- something that lines are written to -/
structure Outlet where
  sink : Sink
  /-- the end of the last line was not written -/
  owes : Bool := false

/-- what comes behind a line -/
inductive Later where
  | text (cs : Octets)
  | file (path : Octets)

/-- how far a range of lines has come -/
inductive Range where
  | idle
  | active (stop : Nat)
  | closed
  deriving DecidableEq, Repr

/-- how far the ranges of a script have come at the start -/
def Script.ranges (s : Script) : Array Range := s.commands.map fun (c : Command) =>
  match c.selection.start, c.selection.stop with
  | some .front, some _ => .active 0
  | _, _ => .idle

/-- how lines are edited -/
structure Manner where
  /-- the end of a line -/
  mark : Char := '\n'
  /-- lines are counted in each file on its own -/
  separate : Bool := false
  /-- files are changed; what is put behind the names of the old ones, if they are kept -/
  inPlace : Option Octets := none
  /-- how long lines that are listed may become -/
  width : Nat := 70
  /-- a line that cannot be continued is not shown -/
  strict : Bool := false
  /-- results come out at once -/
  prompt : Bool := false

/-- the lines and files at hand while a script runs -/
structure Editor where
  setting : Setting
  launcher : Launcher
  name : Octets
  manner : Manner := {}
  script : Script := {}
  /-- the files that come next -/
  paths : List Octets := []
  channel : Option Nat := none
  path : Octets := ['-']
  /-- what was read, but not taken yet -/
  held : Octets := []
  number : Nat := 0
  /-- lines are counted anew when the next file is opened -/
  anew : Bool := false
  space : Line := {}
  hold : Line := {}
  substituted : Bool := false
  later : List Later := []
  ranges : Array Range := #[]
  /-- the expression that was used last -/
  pattern : Option Pattern := none
  outlets : List (Octets × Outlet) := []
  /-- where lines are shown, and what is kept back there, the last first -/
  shown : Outlet := { sink := .results }
  results : List Octets := []
  changed : List Octets := []
  /-- what is left of files that are read line by line -/
  readers : List (Octets × Octets) := []
  /-- a file could not be read -/
  missed : Bool := false

/-- the end of a run before the end of the files -/
inductive Stopped where
  /-- as the script wants it -/
  | quit (status : Nat)
  /-- because something is wrong -/
  | failed (status : Nat)
  deriving DecidableEq, Repr

/-- a step of editing, which may end the run -/
abbrev Editing (α : Type) := ExceptT Stopped (StateT Editor Act) α

/-- a complaint that ends the run -/
def giveUp {α : Type} (text : Octets) (status : Nat) : Editing α := do
  let e ← get
  e.setting.complaint e.name text
  throw (.failed status)

/-! ## output -/

/-- octets go where an outlet leads -/
def Sink.put (k : Sink) (cs : Octets) : Editing Unit := do
  let e ← get
  match k with
  | .results =>
    if e.manner.prompt then e.setting.say cs else set { e with results := cs :: e.results }
  | .changed => set { e with changed := cs :: e.changed }
  | .channel (some c) => write c cs
  | .channel none => pure ()

/-- octets go to an outlet, after the end of the line that it still owes -/
def Outlet.put (o : Outlet) (cs : Octets) (owes : Bool) : Editing Outlet := do
  let mark := (← get).manner.mark
  o.sink.put (if o.owes then mark :: cs else cs)
  return { o with owes }

/-- a line goes to an outlet -/
def Outlet.putLine (o : Outlet) (l : Line) : Editing Outlet := do
  let mark := (← get).manner.mark
  if l.ended then o.put (l.text ++ [mark]) false else o.put l.text true

/-- octets are shown -/
def display (cs : Octets) : Editing Unit := do
  let o ← (← get).shown.put cs false
  modify fun e => { e with shown := o }

/-- a line is shown -/
def displayLine (l : Line) : Editing Unit := do
  let o ← (← get).shown.putLine l
  modify fun e => { e with shown := o }

/-- the line at hand is shown -/
def displaySpace : Editing Unit := do displayLine (← get).space

/-- a line goes to a file -/
def writeLine (path : Octets) (l : Line) : Editing Unit := do
  match (← get).outlets.find? fun o => o.1 = path with
  | none => pure ()
  | some (_, o) => do
    let o ← o.putLine l
    modify fun e => { e with outlets := (path, o) :: e.outlets.filter fun x => x.1 ≠ path }

/-- what comes behind the line is shown -/
def displayLater : Editing Unit := do
  let later := (← get).later
  if !later.isEmpty then
    modify fun e => { e with later := [] }
    for x in later do
      match x with
      | .text cs => display cs
      | .file path =>
        match ← (← get).setting.contents path with
        | .ok cs => display cs
        | .error .isDirectory => giveUp ("read error on ".toList ++ path ++ ": Is a directory".toList) 4
        | .error _ => display []

/-! ## input -/

/-- the file that was read is closed; if it is changed, it gets its new text -/
def closeFile : Editing Unit := do
  let e ← get
  match e.channel, e.manner.inPlace with
  | some _, some suffix => do
    let text := e.changed.reverse.flatten
    let s := e.setting
    if !suffix.isEmpty then
      let base := ((Text.split ['/'] e.path).getLast?).getD e.path
      let named := if suffix.contains '*' then Text.replaceAll ['*'] base suffix else base ++ suffix
      let kept := if named.contains '/' then named else e.path.take (e.path.length - base.length) ++ named
      match ← s.contents e.path, ← openFile s.numbers s.here kept .writing with
      | .ok old, .ok c => write c old
      | _, _ => pure ()
    match ← openFile s.numbers s.here e.path .writing with
    | .ok c => write c text
    | .error _ => pure ()
  | _, _ => pure ()
  modify fun e => { e with channel := none, held := [], anew := e.manner.separate }

/-- the next file is opened; if that fails, that is complained about -/
def openNext : Editing Unit := do
  let e ← get
  match e.paths with
  | [] => return ()
  | path :: paths => do
    let s := e.setting
    let e := { e with paths }
    if e.anew then
      set { e with
        anew := false, number := 0, hold := { e.hold with text := [] }, readers := [], ranges := e.script.ranges }
    else set e
    let opened ← if path = ['-'] ∧ e.manner.inPlace.isNone then s.openInput path
      else openFile s.numbers s.here path .reading
    match opened with
    | .error .isDirectory => giveUp ("read error on ".toList ++ path ++ ": Is a directory".toList) 4
    | .error f => do
      s.complaint e.name ("can't read ".toList ++ path ++ ": ".toList ++ errorText f)
      modify fun e => { e with missed := true }
    | .ok c =>
      let kind := (← getThe Machine).channel c
      if e.manner.inPlace.isSome then
        match kind with
        | .file _ _ _ =>
          modify fun e => { e with
            channel := some c, path, held := [], shown := { sink := .changed }, changed := [] }
        | _ => giveUp ("couldn't edit ".toList ++ path ++ ": not a regular file".toList) 4
      else
        match kind with
        | .directory => giveUp ("read error on ".toList ++ path ++ ": Is a directory".toList) 4
        | _ => modify fun e => { e with channel := some c, path, held := [] }

/-- something of the file that is open is at hand; not at its end -/
def fill : Editing Bool := do
  let e ← get
  match e.channel with
  | none => return false
  | some c =>
    if !e.held.isEmpty then return true
    else do
      let piece ← readPiece c none false
      modify fun e => { e with held := piece }
      return !piece.isEmpty

/-- the next line of the file that is open; something of it is at hand -/
def takeLine : Nat → List Octets → Editing Line
  | 0, before => return { text := before.reverse.flatten, ended := false }
  | fuel + 1, before => do
    let e ← get
    let line := e.held.takeWhile (· ≠ e.manner.mark)
    match e.held.drop line.length with
    | _ :: rest => do
      set { e with held := rest }
      return { text := (line :: before).reverse.flatten }
    | [] => do
      set { e with held := [] }
      if ← fill then takeLine fuel (line :: before)
      else return { text := (line :: before).reverse.flatten, ended := false }

/-- whether nothing follows in the files that come next -/
def nothingFollows : Nat → Editing Bool
  | 0 => return true
  | n + 1 => do
    closeFile
    if (← get).paths.isEmpty then return true
    else do
      openNext
      if ← fill then return false else nothingFollows n

/-- whether the line is the last one -/
def isLast : Editing Bool := do
  if ← fill then return false
  else if (← get).manner.separate then return true
  else nothingFollows ((← get).paths.length + 1)

/-- the next line of the files, if there is one -/
def findLine : Nat → Editing (Option Line)
  | 0 => return none
  | n + 1 => do
    if ← fill then
      let c := ((← get).channel).getD 0
      return some (← takeLine ((← getThe Machine).pieces c + 2) [])
    else do
      if (← get).channel.isSome then closeFile
      if (← get).paths.isEmpty then return none
      else do
        openNext
        findLine n

/-- the files that are shown in front of the first line -/
def Script.fronts (s : Script) : List Octets := s.commands.toList.filterMap fun c =>
  match c.selection.start, c.selection.stop, c.action with
  | some .front, none, .read path => some path
  | _, _, _ => none

/-- the next line is read, and put behind the one at hand or in its place; false if there is none -/
def nextLine (behind : Bool) : Editing Bool := do
  displayLater
  modify fun e => { e with substituted := false }
  match ← findLine ((← get).paths.length + 2) with
  | none => return false
  | some l => do
    let e ← get
    if e.number = 0 then
      set { e with later := e.script.fronts.map .file }
      displayLater
    modify fun e => { e with
      number := e.number + 1
      space := if behind then { l with text := e.space.text ++ l.text } else l }
    return true

/-! ## addresses -/

/-- the expression of a pattern; one that is left out is the one that was used last -/
def usePattern (p : Pattern) : Editing (Regex × Regex.Manner) := do
  let e ← get
  let p := if p.expression.isSome then some p else e.pattern
  match p with
  | some { expression := some r, manner } => do
    set { e with pattern := p }
    return (r, manner)
  | _ =>
    giveUp ("-e expression #1, char 0: no previous regular expression".toList) 1

/-- whether a pattern matches the line -/
def fits (p : Pattern) : Editing Bool := do
  let (r, manner) ← usePattern p
  return r.matches? manner (Octets.characters (← get).space.text)

/-- whether an address means the line -/
def meets : Address → Editing Bool
  | .number n => do return (← get).number = n
  | .every first step => do
    let n := (← get).number
    return first ≤ n && (n - first) % step = 0
  | .last => isLast
  | .fitting p => fits p
  | .front => return false

/-- whether the first line of a range is there -/
def opens (range : Range) (ranged : Bool) : Address → Editing Bool
  | .number n => do
    let l := (← get).number
    return if ranged then range ≠ .closed && n ≤ l else n = l
  | a => meets a

/-- whether a range is met at its first line, and how far it has come then -/
def start (first : Address) (l : Nat) : Option Stop → Bool × Range
  | none => (true, .idle)
  | some (.number n) =>
    if n ≤ l then
      (match first with
        | .number a => decide (l ≤ n ∨ l = a)
        | _ => true, .closed)
    else (true, .active n)
  | some (.more 0) | some (.multiple 0) => (true, .closed)
  | some (.more n) => (true, .active (l + n))
  | some (.multiple n) => (true, .active (l + (n - l % n)))
  | some _ => (true, .active 0)

/-- whether the lines that are meant include this one -/
def includes (place : Nat) (s : Selection) : Editing Bool := do
  match s.start with
  | none => return true
  | some first => do
    let e ← get
    let range := (e.ranges[place]?).getD .idle
    let put (r : Range) : Editing Unit := modify fun e => { e with ranges := e.ranges.setIfInBounds place r }
    match range with
    | .active stop =>
      match s.stop with
      | some (.number n) => do
        if n ≤ e.number then put .closed
        return e.number ≤ n
      | some .last => do
        if ← isLast then put .closed
        return true
      | some (.fitting p) => do
        if ← fits p then put .closed
        return true
      | _ => do
        if stop ≤ e.number then put .closed
        return true
    | range =>
      if ← opens range s.stop.isSome first then do
        let (met, next) := start first e.number s.stop
        put next
        return met
      else return false

/-- whether a command is executed -/
def selects (place : Nat) (s : Selection) : Editing Bool := do
  return (← includes place s) != s.negated

/-! ## commands -/

/-- where a script goes on -/
inductive Onward where
  | next
  | go (place : Nat)
  /-- with the next line, after this one was shown or not -/
  | finish (shows : Bool)
  /-- at the start, with what is left of the line -/
  | restart

/-- how an octet is listed -/
def listed (c : Char) : Octets :=
  match c with
  | '\\' => "\\\\".toList
  | '\x07' => "\\a".toList
  | '\x08' => "\\b".toList
  | '\x0c' => "\\f".toList
  | '\n' => "\\n".toList
  | '\r' => "\\r".toList
  | '\t' => "\\t".toList
  | '\x0b' => "\\v".toList
  | c =>
    if ' ' ≤ c ∧ c ≤ '~' then [c]
    else
      let n := c.toNat
      ['\\', Char.ofNat (48 + n / 64), Char.ofNat (48 + n / 8 % 8), Char.ofNat (48 + n % 8)]

/-- a text as it is listed, in lines of a width with a mark at the end -/
def listing (mark : Char) (width : Nat) (used : Nat) : Octets → Octets
  | [] => ['$', mark]
  | c :: cs =>
    let x := listed c
    if 0 < width ∧ width - 1 < used + x.length then '\\' :: mark :: x ++ listing mark width x.length cs
    else x ++ listing mark width (used + x.length) cs

/-- what a command writes when it is executed -/
def outcome (command : Octets) : Editing Octets := do
  let e ← get
  let pipe ← newPipe {}
  let c ← newChannel (.pipe pipe)
  let _ ← e.launcher { e.setting with numbers := e.setting.numbers.put 1 c } ["sh".toList, "-c".toList, command]
  return (← getThe Machine).drained pipe

/-- a text without a mark at its end -/
def withoutMark (mark : Char) (cs : Octets) : Octets := if cs.getLast? = some mark then cs.dropLast else cs

/-- what comes of putting something in the place of matches, from a place on; nothing if nothing matched that
counts. An empty match right behind another match does not count -/
def replaceFrom (r : Regex) (s : Substitution) (subject : Regex.Subject) :
    Nat → Nat → Option Nat → Nat → List Char × Bool
  | 0, _, _, _ => ([], false)
  | fuel + 1, place, before, count =>
    let text := subject.text
    if text.size < place then ([], false)
    else
      match r.search? subject place with
      | none => ((text.extract place text.size).toList, false)
      | some f =>
        let front := (text.extract place f.start).toList
        let one := (text.extract f.start (f.start + 1)).toList
        if f.start = f.stop ∧ before = some f.start then
          let t := replaceFrom r s subject fuel (f.start + 1) none count
          (front ++ one ++ t.1, t.2)
        else
          let counts := s.first ≤ count + 1
          let put := if counts then Piece.fill text f {} s.pieces else (text.extract f.start f.stop).toList
          if counts ∧ !s.every then (front ++ put ++ (text.extract f.stop text.size).toList, true)
          else
            let t := if f.start = f.stop then
                let t := replaceFrom r s subject fuel (f.stop + 1) none (count + 1)
                (one ++ t.1, t.2)
              else replaceFrom r s subject fuel f.stop (some f.stop) (count + 1)
            (front ++ put ++ t.1, t.2 || counts)

/-- a substitution in the line -/
def substitute (s : Substitution) : Editing Unit := do
  let (r, manner) ← usePattern s.pattern
  let e ← get
  let subject : Regex.Subject := {
    text := (Octets.characters e.space.text).toArray
    manner := { manner with manyLines := manner.manyLines && e.manner.mark = '\n' } }
  let (text, found) := replaceFrom r s subject (2 * subject.text.size + 3) 0 none 0
  if found then
    set { e with substituted := true, space := { e.space with text := Octets.ofCharacters text } }
    if s.executes then
      let text ← outcome (← get).space.text
      modify fun e => { e with space := { e.space with text := withoutMark e.manner.mark text } }
    if s.prints then displaySpace
    match s.file with
    | some path => do writeLine path (← get).space
    | none => pure ()

/-- a line of a file that is read line by line -/
def readerLine (path : Octets) : Editing (Option Octets) := do
  let e ← get
  let rest ← match e.readers.find? fun r => r.1 = path with
    | some r => pure r.2
    | none => do
      match ← e.setting.contents path with
      | .ok cs => pure cs
      | .error _ => pure []
  let line := rest.takeWhile (· ≠ e.manner.mark)
  let line := line ++ (rest.drop line.length).take 1
  modify fun e => { e with readers := (path, rest.drop line.length) :: e.readers.filter fun r => r.1 ≠ path }
  return if line.isEmpty then none else some line

/-- the line up to a mark, and what follows it -/
def Editor.firstPart (e : Editor) : Line × Option Octets :=
  let part := e.space.text.takeWhile (· ≠ e.manner.mark)
  match e.space.text.drop part.length with
  | [] => (e.space, none)
  | _ :: rest => ({ text := part }, some rest)

/-- something comes behind the line -/
def comeLater (x : Later) : Editing Unit := modify fun e => { e with later := e.later ++ [x] }

/-- the text of a command is shown -/
def displayText (text : Octets) : Editing Unit :=
  if text.isEmpty then display [] else displayLine { text := text.dropLast }

/-- the end of the run, after everything was shown -/
def quit {α : Type} (status : Nat) : Editing α := do
  if !(← get).script.silent then
    displaySpace
    display []
  displayLater
  throw (.quit status)

/-- a command is executed -/
def perform (place : Nat) (action : Action) : Editing Onward := do
  let e ← get
  match action with
  | .block _ | .nothing => return .next
  | .jump target => return .go target
  | .jumpIf substituted target =>
    set { e with substituted := false }
    return if e.substituted = substituted then .go target else .next
  | .append text => do
    comeLater (.text text)
    return .next
  | .insert text => do
    displayText text
    return .next
  | .change text => do
    match (e.ranges[place]?).getD .idle with
    | .active _ => pure ()
    | _ => displayText text
    return .finish false
  | .delete => return .finish false
  | .deleteLine =>
    match e.firstPart.2 with
    | none => return .finish false
    | some rest => do
      set { e with space := { e.space with text := rest } }
      return .restart
  | .execute [] => do
    let text ← outcome e.space.text
    modify fun e => { e with space := { e.space with text := withoutMark e.manner.mark text } }
    return .next
  | .execute command => do
    display (← outcome command)
    return .next
  | .next => do
    if ← isLast then return .finish true
    else do
      if !e.script.silent then displaySpace
      return if ← nextLine false then .next else .finish false
  | .nextAppend => do
    if ← isLast then return .finish (!e.manner.strict)
    else do
      modify fun e => { e with space := { e.space with text := e.space.text ++ [e.manner.mark] } }
      return if ← nextLine true then .next else .finish true
  | .print => do
    displaySpace
    return .next
  | .printLine => do
    displayLine e.firstPart.1
    return .next
  | .hold => do
    set { e with hold := e.space }
    return .next
  | .holdAppend => do
    set { e with hold := { e.space with text := e.hold.text ++ e.manner.mark :: e.space.text } }
    return .next
  | .get => do
    set { e with space := e.hold }
    return .next
  | .getAppend => do
    set { e with space := { e.hold with text := e.space.text ++ e.manner.mark :: e.hold.text } }
    return .next
  | .exchange => do
    set { e with space := e.hold, hold := e.space }
    return .next
  | .list width => do
    display (listing e.manner.mark (width.getD e.manner.width) 0 e.space.text)
    return .next
  | .quit status => quit status
  | .quitSilently status => throw (.quit status)
  | .number => do
    display (Octets.ofNat e.number ++ [e.manner.mark])
    return .next
  | .fileName => do
    display (e.path ++ [e.manner.mark])
    return .next
  | .clear => do
    set { e with space := { e.space with text := [] } }
    return .next
  | .read path => do
    comeLater (.file path)
    return .next
  | .readLine path => do
    match ← readerLine path with
    | some l => comeLater (.text l)
    | none => pure ()
    return .next
  | .write path => do
    writeLine path e.space
    return .next
  | .writeLine path => do
    writeLine path e.firstPart.1
    return .next
  | .substitute s => do
    substitute s
    return .next
  | .exchangeLetters pairs => do
    let text := (Octets.characters e.space.text).map fun c =>
      ((pairs.find? fun p => p.1 = c).map (·.2)).getD c
    set { e with space := { e.space with text := Octets.ofCharacters text } }
    return .next

/-- a script runs from a place on, up to the end of the files; one that runs on and on never ends -/
def run : Nat → Nat → Editing Unit
  | 0, _ => passForever
  | fuel + 1, place => do
    let finish (shows : Bool) : Editing Unit := do
      if shows ∧ !(← get).script.silent then displaySpace
      if ← nextLine false then run fuel 0
    match (← get).script.commands[place]? with
    | none => finish true
    | some c =>
      if ← selects place c.selection then
        match ← perform place c.action with
        | .next => run fuel (place + 1)
        | .go target => run fuel target
        | .finish shows => finish shows
        | .restart => do
          displayLater
          run fuel 0
      else
        match c.action with
        | .block behind => run fuel behind
        | _ => run fuel (place + 1)

/-- how many commands are executed before a script counts as one that never ends -/
def stepLimit : Nat := 3000000

/-! ## the start -/

/-- the files that a script writes to are opened -/
def openFiles : List Octets → Editing Unit
  | [] => return ()
  | path :: paths => do
    let e ← get
    let s := e.setting
    if !(e.outlets.any fun o => o.1 = path) then
      let outlet (k : Sink) : Editor := { e with outlets := (path, { sink := k }) :: e.outlets }
      if path = "/dev/stdout".toList then set (outlet .results)
      else if path = "/dev/stderr".toList then set (outlet (.channel (s.numbers.find? 2)))
      else
        match ← openFile s.numbers s.here path .writing with
        | .ok c => set (outlet (.channel (some c)))
        | .error f => giveUp ("couldn't open file ".toList ++ path ++ ": ".toList ++ errorText f) 4
    openFiles paths

/-- lines are edited, from the first one to the last one; if the script is wrong, that is complained about -/
def editAll (files : List Octets) (script : Except (Octets × Nat) Script) (silent : Bool) : Editing Unit := do
  openFiles files
  match script with
  | .error (text, status) => giveUp text status
  | .ok script => do
    modify fun e => { e with
      script := { script with silent := script.silent || silent }, ranges := script.ranges }
    let e ← get
    if e.manner.inPlace.isSome ∧ e.paths.isEmpty then giveUp "no input files".toList 4
    else if ← nextLine false then run stepLimit 0

/-- what is left to be done at the end -/
def tidy (status : Except Stopped Unit) : Editing Unit := do
  let e ← get
  match e.channel with
  | some c => if e.path = ['-'] then putBack c e.held.length
  | none => pure ()
  match status with
  | .error (.failed _) => pure ()
  | _ => closeFile
  e.setting.say e.results.reverse.flatten

/-- an editor at work; the status -/
def Editor.work (e : Editor) (x : Editing Unit) : Act Nat := do
  let (status, e) ← x.run e
  let (_, e) ← (tidy status).run e
  match status with
  | .ok () => return if e.missed then 2 else 0
  | .error (.quit n) => return if e.missed then 2 else n
  | .error (.failed n) => return n

/-! ## arguments -/

/-- the options -/
def flags : List Flag := [.on 'n' "quiet", .on 'n' "silent", .long "debug", .valued 'e' "expression",
  .valued 'f' "file", .long "follow-symlinks", { letter := some 'i', word := "in-place", takes := .maybe },
  .valued 'l' "line-length", .long "posix", .on 'E' "regexp-extended", .on 'r', .on 's' "separate",
  .long "sandbox", .on 'u' "unbuffered", .on 'z' "null-data", .on 'z' "zero-terminated", .on 'b' "binary"]

/-- how the program is used -/
def usage : String :=
  " [OPTION]... \x7bscript-only-if-no-other-script\x7d [input-file]...\n\n" ++
  "  -n, --quiet, --silent\n" ++
  "                 suppress automatic printing of pattern space\n" ++
  "      --debug\n" ++
  "                 annotate program execution\n" ++
  "  -e script, --expression=script\n" ++
  "                 add the script to the commands to be executed\n" ++
  "  -f script-file, --file=script-file\n" ++
  "                 add the contents of script-file to the commands to be executed\n" ++
  "  --follow-symlinks\n" ++
  "                 follow symlinks when processing in place\n" ++
  "  -i[SUFFIX], --in-place[=SUFFIX]\n" ++
  "                 edit files in place (makes backup if SUFFIX supplied)\n" ++
  "  -l N, --line-length=N\n" ++
  "                 specify the desired line-wrap length for the `l' command\n" ++
  "  --posix\n" ++
  "                 disable all GNU extensions.\n" ++
  "  -E, -r, --regexp-extended\n" ++
  "                 use extended regular expressions in the script\n" ++
  "                 (for portability use POSIX -E).\n" ++
  "  -s, --separate\n" ++
  "                 consider files as separate rather than as a single,\n" ++
  "                 continuous long stream.\n" ++
  "      --sandbox\n" ++
  "                 operate in sandbox mode (disable e/r/w commands).\n" ++
  "  -u, --unbuffered\n" ++
  "                 load minimal amounts of data from the input files and flush\n" ++
  "                 the output buffers more often\n" ++
  "  -z, --null-data\n" ++
  "                 separate lines by NUL characters\n" ++
  "      --help     display this help and exit\n" ++
  "      --version  output version information and exit\n\n" ++
  "If no -e, --expression, -f, or --file option is given, then the first\n" ++
  "non-option argument is taken as the sed script to interpret.  All\n" ++
  "remaining arguments are names of input files; if no input files are\n" ++
  "specified, then the standard input is read.\n"

/-- a complaint, and how the program is used -/
def misused (s : Setting) (name : Octets) (fault : Option Octets) : Act Nat := do
  match fault with
  | some f => s.complaint name f
  | none => pure ()
  s.complain ("Usage: ".toList ++ name ++ usage.toList)
  return 1

/-- whether a text ends with a backslash that is not escaped -/
def goesOn (cs : Octets) : Bool := (cs.reverse.takeWhile (· = '\\')).length % 2 = 1

/-- the texts of a script; one that ends with a backslash goes on in the next one -/
def sources (s : Setting) : Nat → List (String × Octets) → Act (Except Octets (List Source))
  | _, [] => return .ok []
  | n, ("e", a) :: ("e", b) :: more =>
    if goesOn a then do
      match ← sources s (n + 1) (("e", b) :: more) with
      | .ok (x :: xs) => return .ok ({ x with rest := a ++ '\n' :: x.rest, name := .error n } :: xs)
      | r => return r
    else do
      match ← sources s (n + 1) (("e", b) :: more) with
      | .ok xs => return .ok ({ rest := a, name := .error n } :: xs)
      | r => return r
  | n, ("e", a) :: more => do
    match ← sources s (n + 1) more with
    | .ok xs => return .ok ({ rest := a, name := .error n } :: xs)
    | r => return r
  | n, (_, path) :: more => do
    match ← s.contents path with
    | .error f => return .error ("couldn't open file ".toList ++ path ++ ": ".toList ++ errorText f)
    | .ok cs =>
      match ← sources s n more with
      | .ok xs => return .ok ({ rest := cs, name := .ok path } :: xs)
      | r => return r

end Edit

open Edit in
/-- lines are edited -/
def sed : Program := fun launcher s name args =>
  match Options.read flags args with
  | .error f => misused s name (some f)
  | .ok o => do
    let given := o.given.filter fun g => g.1 = "e" ∨ g.1 = "f"
    if given.isEmpty ∧ o.operands.isEmpty then misused s name none
    else
      let texts := if given.isEmpty then [("e", o.operands.headD [])] else given
      let files := if given.isEmpty then o.operands.drop 1 else o.operands
      match ← sources s 1 texts with
      | .error f => s.fail name f 4
      | .ok xs =>
        let inPlace := o.last? "i"
        let (script, written) := read (o.has "E" || o.has "r") xs
        let editor : Editor := {
          setting := s, launcher, name
          manner := {
            mark := if o.has "z" then '\x00' else '\n'
            separate := o.has "s" || inPlace.isSome, inPlace
            width := ((o.last? "l").bind Octets.natural?).getD 70
            strict := o.has "posix", prompt := o.has "u" }
          paths := if files.isEmpty ∧ inPlace.isNone then [['-']] else files }
        editor.work (editAll written script (o.has "n"))

end Debate.Shell
