import Debate.Shell.Glob
import Debate.Shell.Program.Column
import Debate.Shell.Program.Entries
import Debate.Shell.Regex.Reader

/-!
# Searching

* `Search.Query`   what is searched for;
* `grep`           the lines of files that match.
-/

namespace Debate.Shell

open Debate.Files

namespace Search

/-- what is searched for -/
structure Query where
  expression : Regex
  ignoreCase : Bool := false
  /-- what matches has to be whole words, or a whole line -/
  words : Bool := false
  lines : Bool := false
  inverted : Bool := false

/-- whether a match from one place to another one is wanted -/
def Query.allows (q : Query) (s : Regex.Subject) (start stop : Nat) : Bool :=
  (!q.lines || (start = 0 && stop = s.text.size)) &&
    (!q.words || (!s.wordBefore start && !s.wordAt stop))

/-- the match that starts at a place and is wanted, as far as it reaches -/
def Query.at? (q : Query) (s : Regex.Subject) (i : Nat) : Option Nat :=
  ((Regex.ends s q.expression.refersBack q.expression (i, [])).find? fun e => q.allows s i e.1).map (·.1)

/-- the first match from a place on that is wanted: its start and its end -/
def Query.from? (q : Query) (s : Regex.Subject) : Nat → Nat → Option (Nat × Nat)
  | 0, _ => none
  | n + 1, i =>
    match q.at? s i with
    | some stop => some (i, stop)
    | none => q.from? s n (i + 1)

/-- a line as it is searched -/
def Query.subject (q : Query) (line : Octets) : Regex.Subject :=
  { text := (Octets.characters line).toArray, manner := { ignoreCase := q.ignoreCase } }

/-- whether a line is taken -/
def Query.takes (q : Query) (line : Octets) : Bool :=
  let s := q.subject line
  (q.from? s (s.text.size + 1) 0).isSome != q.inverted

/-- all matches in a line that are not empty, from a place on -/
def Query.all (q : Query) (s : Regex.Subject) : Nat → Nat → List (Nat × Nat)
  | 0, _ => []
  | fuel + 1, i =>
    match q.from? s (s.text.size + 1 - i) i with
    | none => []
    | some (a, b) => if a = b then all q s fuel (b + 1) else (a, b) :: all q s fuel b

/-! ## what is asked for -/

/-- the options -/
def flags : List Flag := [.valued 'A' "after-context", .valued 'B' "before-context", .on 'b' "byte-offset",
  .valued 'C' "context", .on 'c' "count", .valued 'd' "directories", .valued 'D' "devices",
  .on 'E' "extended-regexp", .on 'F' "fixed-strings", .on 'G' "basic-regexp", .on 'P' "perl-regexp",
  .valued 'e' "regexp", .valued 'f' "file", .on 'H' "with-filename", .on 'h' "no-filename",
  .on 'i' "ignore-case", .long "no-ignore-case", .on 'I', .on 'L' "files-without-match",
  .on 'l' "files-with-matches", .on 'n' "line-number", .valued 'm' "max-count", .on 'o' "only-matching",
  .on 'q' "quiet", .on 'q' "silent", .on 'R' "dereference-recursive", .on 'r' "recursive",
  .on 's' "no-messages", .on 'a' "text", .on 'T' "initial-tab", .on 'U' "binary", .on 'u',
  .on 'v' "invert-match", .on 'V' "version", .on 'w' "word-regexp", .on 'x' "line-regexp", .on 'y',
  .on 'Z' "null", .on 'z' "null-data", .long "binary-files" .value, .long "color" .maybe,
  .long "colour" .maybe, .long "include" .value, .long "exclude" .value, .long "exclude-dir" .value,
  .long "label" .value, .long "line-buffered", .long "no-group-separator", .long "group-separator" .value,
  .on '0', .on '1', .on '2', .on '3', .on '4', .on '5', .on '6', .on '7', .on '8', .on '9']

/-- how patterns are written -/
inductive Form where
  | basic
  | extended
  | fixed
  deriving DecidableEq, Repr

/-- the expression that takes any of several patterns; the groups of each have numbers of their own -/
def combined (rs : List Regex) : Regex :=
  Regex.eitherOf (rs.foldl (fun (all, n) r => (all ++ [r.shift n], n + r.groupCount)) (([] : List Regex), 0)).1

/-- the expression of patterns, one on each line -/
def expressionOf (form : Form) (patterns : List Octets) : Except Octets Regex := do
  let rs ← patterns.mapM fun p =>
    let cs := Octets.characters p
    match form with
    | .fixed => .ok (Regex.literal cs)
    | .basic => (Regex.read { doubleBrackets := true } cs).mapError String.toList
    | .extended =>
      (Regex.read { extended := true, looseBrackets := true, doubleBrackets := true } cs).mapError String.toList
  return combined rs

/-- how lines are shown -/
structure Display where
  name : Bool := false
  number : Bool := false
  offset : Bool := false
  only : Bool := false
  tab : Bool := false
  null : Bool := false
  before : Nat := 0
  after : Nat := 0
  /-- lines near to those that are taken are shown -/
  context : Bool := false
  separator : Option Octets := some "--".toList
  mark : Char := '\n'

/-- what stands in front of a line that is shown -/
def Display.start (d : Display) (name : Octets) (number offset : Nat) (sign : Char) : Octets :=
  (if d.name then name ++ [if d.null then '\x00' else sign] else []) ++
    (if d.number then Octets.ofNat number ++ [sign] else []) ++
    (if d.offset then Octets.ofNat offset ++ [sign] else []) ++
    (if d.tab ∧ (d.name ∨ d.number ∨ d.offset) then ['\t'] else [])

/-- a line with its number, where it starts, and whether it is taken -/
structure Line where
  text : Octets
  number : Nat
  offset : Nat
  taken : Bool

/-- lines with their numbers and places, those that are taken among them, of which there is a limit: what
follows the last of them is context -/
def judged (q : Query) (number offset : Nat) (most : Option Nat) : List Octets → List Line
  | [] => []
  | l :: ls =>
    let taken := most ≠ some 0 && q.takes l
    { text := l, number, offset, taken } ::
      judged q (number + 1) (offset + l.length + 1) (if taken then most.map (· - 1) else most) ls

/-- what is shown of lines: those that are taken, and those near to them; `last` is the number of the
line that was shown last, and `until_` that up to which context follows -/
def Display.rows (d : Display) (q : Query) (name : Octets) (earlier : List Line) (last until_ : Nat) :
    List Line → List Octets
  | [] => []
  | l :: ls =>
    if l.taken then
      let context := ((earlier.take d.before).filter fun x => last < x.number).reverse
      let first := (context.head?.map (·.number)).getD l.number
      let gap := d.context ∧ last ≠ 0 ∧ last + 1 < first ∧ !d.only
      let separator := match d.separator with
        | some cs => if gap then [cs ++ ['\n']] else []
        | none => []
      let shownContext := context.map fun x => d.start name x.number x.offset '-' ++ x.text ++ [d.mark]
      let own := if d.only then
          if q.inverted then []
          else
            let s := q.subject l.text
            (q.all s (s.text.size + 2) 0).map fun (a, b) =>
              let before := Octets.ofCharacters (s.text.extract 0 a).toList
              d.start name l.number (l.offset + before.length) ':' ++
                Octets.ofCharacters (s.text.extract a b).toList ++ [d.mark]
        else [d.start name l.number l.offset ':' ++ l.text ++ [d.mark]]
      separator ++ (if d.only then [] else shownContext) ++ own ++
        rows d q name (l :: earlier) l.number (l.number + d.after) ls
    else if l.number ≤ until_ then
      (if d.only then [] else [d.start name l.number l.offset '-' ++ l.text ++ [d.mark]]) ++
        rows d q name (l :: earlier) l.number until_ ls
    else rows d q name (l :: earlier) last until_ ls

/-- the lines of a text in front of the first one that is taken although its octets encode no characters,
and whether there is one -/
def shownLines (ls : List Line) : List Line × Bool :=
  let before := ls.takeWhile fun l => !(l.taken && !isEncoded l.text)
  (before, decide (before.length < ls.length))

/-- the files below a place -/
def filesBelow (m : Machine) : Nat → Octets → Place → List Octets
  | 0, _, _ => []
  | fuel + 1, path, place =>
    (m.children place).flatMap fun n =>
      let p := if path.isEmpty then Octets.ofString n else Entries.under path (Octets.ofString n)
      if m.tree.isDirectory (place ++ [n]) then filesBelow m fuel p (place ++ [n]) else [p]

/-- a number that an option is given -/
def numberOf (o : Options) (keys : List String) : Except Octets (Option Nat) :=
  match o.lastOf? keys with
  | none => .ok none
  | some (_, cs) =>
    match Octets.natural? cs with
    | some n => .ok (some n)
    | none => .error cs

end Search

open Search

/-- the lines of files that match; a form of the patterns may be given by the name -/
def searchWith (given : Option Search.Form) : Program := fun launcher s name args =>
  let usage (e : Option Octets) : Act Nat := do
    if let some e := e then s.complaint name e
    s.complain "Usage: grep [OPTION]... PATTERNS [FILE]...".toList
    s.complain "Try 'grep --help' for more information.".toList
    return 2
  match Options.read Search.flags args with
  | .error e => usage (some e)
  | .ok o => body launcher s name o usage
where
  /-- the program with its options -/
  body (_ : Launcher) (s : Setting) (name : Octets) (o : Options) (usage : Option Octets → Act Nat) : Act Nat := do
    let forms := o.given.filterMap fun g =>
      match g.1 with
      | "E" | "P" => some Form.extended
      | "F" => some .fixed
      | "G" => some .basic
      | _ => none
    let form := forms.getLast?.getD (given.getD .basic)
    let digits := (o.given.filter fun g => g.1.all Char.isDigit).flatMap fun g => g.1.toList
    match numberOf o ["m"], numberOf o ["A", "C"], numberOf o ["B", "C"] with
    | .error _, _, _ => s.fail name "invalid max count".toList 2
    | _, .error cs, _ | _, _, .error cs => s.fail name (cs ++ ": invalid context length argument".toList) 2
    | .ok most, .ok after, .ok before => do
      let mut patterns : List Octets := []
      let mut operands := o.operands
      for p in o.all "e" do
        patterns := patterns ++ Text.split ['\n'] p
      for f in o.all "f" do
        match ← s.contents f with
        | .ok cs => patterns := patterns ++ recordsOf false cs
        | .error e => return ← s.fail name (f ++ ": ".toList ++ errorText e) 2
      if !o.has "e" ∧ !o.has "f" then
        match operands with
        | [] => return ← usage none
        | p :: rest =>
          patterns := Text.split ['\n'] p
          operands := rest
      match expressionOf form patterns with
      | .error e => s.fail name e 2
      | .ok expression => do
        if form = .extended then
          for p in patterns do
            if let c :: _ := p then
              if "*+?".toList.contains c then
                s.complaint name ("warning: ".toList ++ [c] ++ " at start of expression".toList)
        let m ← get
        let q : Query := {
          expression, ignoreCase := (o.has "i" || o.has "y") && !o.has "no-ignore-case"
          words := o.has "w", lines := o.has "x", inverted := o.has "v" }
        let deep := o.has "r" || o.has "R"
        let paths := if operands.isEmpty then (if deep then [['.']] else [['-']]) else operands
        let globs (key : String) := (o.all key).map fun g => Glob.read (Glob.active g)
        let kept (p : Octets) : Bool :=
          let base := baseOf p
          ((globs "include").isEmpty || (globs "include").any fun g => g.fits base) &&
            !((globs "exclude").any fun g => g.fits base)
        let files := paths.flatMap fun p =>
          if deep then
            match m.locate s.here p with
            | .ok place =>
              if m.tree.isDirectory place then
                (filesBelow m 100 (if operands.isEmpty then [] else p) place).filter kept
              else [p]
            | .error _ => [p]
          else [p]
        let named := match o.lastOf? ["H", "h"] with
          | some (k, _) => k == "H"
          | none => decide (1 < paths.length) || (deep && paths.any fun p =>
              (m.locate s.here p).toOption.any m.tree.isDirectory)
        let context := Octets.natural? digits
        let quietly := o.has "q"
        let zero := o.has "z"
        let d : Display := {
          name := named, number := o.has "n", offset := o.has "b", only := o.has "o", tab := o.has "T"
          null := o.has "Z"
          before := before.getD (context.getD 0), after := after.getD (context.getD 0)
          context := before.isSome || after.isSome || context.isSome
          separator := if o.has "no-group-separator" then none
            else some ((o.last? "group-separator").getD "--".toList)
          mark := if zero then '\x00' else '\n' }
        let mut found := false
        let mut failed := false
        for p in files do
          if quietly ∧ found then break
          match ← s.contents p with
          | .error e => do
            if !(e = .isDirectory ∧ o.last? "d" = some "skip".toList) then
              failed := true
              if !o.has "s" then s.complaint name (p ++ ": ".toList ++ errorText e)
          | .ok cs => do
            let shown := if p = ['-'] then (o.last? "label").getD "(standard input)".toList else p
            let lines := judged q 1 0 most (recordsOf zero cs)
            let count := (lines.filter (·.taken)).length
            let listed := o.lastOf? ["l", "L"]
            if 0 < count then found := true
            if !quietly then
              match listed with
              | some (k, _) => do
                if (k = "l") = (0 < count) then s.say (shown ++ [if o.has "Z" then '\x00' else '\n'])
              | none =>
                if o.has "c" then
                  s.say ((if named then shown ++ [if o.has "Z" then '\x00' else ':'] else []) ++
                    Octets.ofNat count ++ ['\n'])
                else
                  let asText := o.has "a" || o.last? "binary-files" = some "text".toList || zero
                  let binary := !asText && cs.contains '\x00'
                  let (visible, hidden) :=
                    if asText then (lines, false)
                    else if binary then ([], 0 < count)
                    else shownLines lines
                  s.say (d.rows q shown [] 0 0 visible).flatten
                  if hidden then s.complaint name (shown ++ ": binary file matches".toList)
        return if failed ∧ !(quietly ∧ found) then 2 else if found then 0 else 1

/-- the lines of files that match -/
def grep : Program := searchWith none

/-- the same with patterns in the extended form -/
def egrep : Program := searchWith (some .extended)

/-- the same with texts in the place of patterns -/
def fgrep : Program := searchWith (some .fixed)

end Debate.Shell
