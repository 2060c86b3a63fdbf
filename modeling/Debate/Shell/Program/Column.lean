import Debate.Shell.Escape
import Debate.Shell.Program.Order
import Debate.Shell.Regex.Reader

/-!
# Columns

* `cut`      parts of each line: octets or fields;
* `paste`    lines side by side;
* `fold`     lines that are cut where they are too long;
* `nl`       lines with numbers;
* `expand`   blanks in the place of tabulators;
* `rev`      the characters of each line, the last first.
-/

namespace Debate.Shell

/-! ## parts of lines -/

namespace Cut

/-- a range of places, which may have no end -/
structure Range where
  first : Nat
  last : Option Nat
  deriving DecidableEq, Repr

/-- a list of ranges that is read: what was found of a range so far -/
structure Reading where
  left : Option Nat := none
  right : Option Nat := none
  dash : Bool := false

/-- the words about lists, of fields or of octets -/
def word (fields : Bool) (a b : String) : Octets := (if fields then a else b).toList

/-- the words about a place before the first -/
def tooSmall (fields : Bool) : Octets :=
  word fields "fields are numbered from 1" "byte/character positions are numbered from 1"

/-- a range as it was found -/
def Reading.range (r : Reading) (fields : Bool) : Except Octets Range :=
  if r.dash then
    match r.left, r.right with
    | none, none => .error "invalid range with no endpoint: -".toList
    | l, none => .ok ⟨l.getD 1, none⟩
    | l, some n => if n < l.getD 1 then .error "invalid decreasing range".toList else .ok ⟨l.getD 1, some n⟩
  else
    match r.left with
    | some (n + 1) => .ok ⟨n + 1, some (n + 1)⟩
    | _ => .error (tooSmall fields)

/-- a list of ranges -/
def ranges (fields : Bool) (r : Reading) : Octets → Except Octets (List Range)
  | [] => (r.range fields).map fun x => [x]
  | c :: cs =>
    if c = '-' then
      if r.dash then .error (word fields "invalid field range" "invalid byte or character range")
      else if r.left = some 0 then .error (tooSmall fields)
      else ranges fields { r with dash := true } cs
    else if c = ',' ∨ c = ' ' ∨ c = '\t' then do
      let x ← r.range fields
      return x :: (← ranges fields {} cs)
    else if c.isDigit then
      let more (n : Option Nat) : Option Nat := some (10 * n.getD 0 + (c.toNat - 48))
      ranges fields (if r.dash then { r with right := more r.right } else { r with left := more r.left }) cs
    else .error (word fields "invalid field value " "invalid byte/character position " ++ Octets.quoted (c :: cs))

/-- whether a place is in a range -/
def Range.has (r : Range) (n : Nat) : Bool :=
  r.first ≤ n && (match r.last with
    | some l => decide (n ≤ l)
    | none => true)

/-- which places are taken -/
structure Choice where
  ranges : List Range
  complement : Bool := false

/-- whether a place is taken -/
def Choice.has (c : Choice) (n : Nat) : Bool := (c.ranges.any fun r => r.has n) != c.complement

/-- whether a place starts a range of those that are taken, although the one before it is taken -/
def Choice.starts (c : Choice) (n : Nat) : Bool :=
  !c.complement && !(c.ranges.any fun r => r.has n && r.has (n - 1))

/-- the octets of a line that are taken; a text is put between ranges -/
def octetsOf (c : Choice) (between : Octets) (printed : Bool) (n : Nat) : Octets → Octets
  | [] => []
  | x :: xs =>
    if c.has n then
      let gap := printed && (!c.has (n - 1) || c.starts n)
      (if gap then between else []) ++ x :: octetsOf c between true (n + 1) xs
    else octetsOf c between printed (n + 1) xs

/-- the fields of a line that are taken -/
def fieldsOf (c : Choice) (n : Nat) : List Octets → List Octets
  | [] => []
  | f :: fs => if c.has n then f :: fieldsOf c (n + 1) fs else fieldsOf c (n + 1) fs

/-- the options -/
def flags : List Flag := [.valued 'b' "bytes", .valued 'c' "characters", .valued 'd' "delimiter",
  .valued 'f' "fields", .on 'n', .on 's' "only-delimited", .long "output-delimiter" .value,
  .long "complement", .on 'z' "zero-terminated"]

end Cut

/-- lines with what ends them, from several files; complaints about those that cannot be read -/
def eachFile (s : Setting) (name : Octets) (paths : List Octets) (f : Octets → Act Unit) : Act Nat := do
  let mut status := 0
  for p in paths do
    match ← s.contents p with
    | .ok cs => f cs
    | .error e => do
      s.complaint name (Octets.scriptQuotedIfNeeded p ++ ": ".toList ++ errorText e)
      status := 1
  return status

open Cut in
/-- parts of each line -/
def cut : Program := withOptions Cut.flags fun _ s name o => do
  let lists := o.given.filter fun g => ["b", "c", "f"].contains g.1
  let delimiter := (o.last? "d").map fun d => d.headD '\x00'
  if 1 < lists.length then s.refuse name "only one list may be specified".toList
  else if (o.all "d").any fun d => 1 < d.length then
    s.refuse name "the delimiter must be a single character".toList
  else
    match lists with
    | [] => s.refuse name "you must specify a list of bytes, characters, or fields".toList
    | (key, list) :: _ =>
      let byFields := key == "f"
      if !byFields ∧ delimiter.isSome then
        s.refuse name "an input delimiter may be specified only when operating on fields".toList
      else if !byFields ∧ o.has "s" then
        s.refuse name "suppressing non-delimited lines makes sense\n\tonly when operating on fields".toList
      else
        match ranges byFields {} list with
        | .error e => s.refuse name e
        | .ok ranges =>
          let choice : Choice := { ranges, complement := o.has "complement" }
          let zero := o.has "z"
          let mark := if zero then '\x00' else '\n'
          let d := delimiter.getD '\t'
          eachFile s name o.files fun cs => do
            for l in recordsOf zero cs do
              if byFields then
                let fs := Text.split [d] l
                if fs.length = 1 then
                  if !o.has "s" then s.say (l ++ [mark])
                else s.say (((o.last? "output-delimiter").getD [d]).intercalate (fieldsOf choice 1 fs) ++ [mark])
              else s.say (octetsOf choice ((o.last? "output-delimiter").getD []) false 1 l ++ [mark])

/-! ## lines side by side -/

namespace Paste

/-- the texts between columns; a backslash starts an escape, and `\0` stands for no text -/
def delimiters : Octets → Option (List Octets)
  | [] => some []
  | ['\\'] => none
  | '\\' :: c :: cs => (delimiters cs).map fun ds =>
    (if c = '0' then [] else if "bfnrtv\\".toList.contains c then [(letterOctet? c).getD c] else [c]) :: ds
  | c :: cs => (delimiters cs).map fun ds => [c] :: ds

/-- a text of a list that is used again from its start -/
def nth (ds : List Octets) (k : Nat) : Octets := (ds[k % max 1 ds.length]?).getD []

/-- columns with texts between them -/
def beside (ds : List Octets) (k : Nat) : List Octets → Octets
  | [] => []
  | [c] => c
  | c :: cs => c ++ nth ds k ++ beside ds (k + 1) cs

/-- the next line of a file, and the lines that are left of all files -/
def next (sources : List (Octets × List Octets)) (p : Octets) :
    Option Octets × List (Octets × List Octets) :=
  match sources.find? fun x => x.1 = p with
  | some (_, l :: ls) => (some l, sources.map fun x => if x.1 = p then (p, ls) else x)
  | _ => (none, sources)

/-- a row of lines, one of each file -/
def row (sources : List (Octets × List Octets)) : List Octets → List (Option Octets) × List (Octets × List Octets)
  | [] => ([], sources)
  | p :: ps =>
    let (l, sources) := next sources p
    let (ls, sources) := row sources ps
    (l :: ls, sources)

/-- rows as long as there are lines -/
def rows (ps : List Octets) : Nat → List (Octets × List Octets) → List (List Octets)
  | 0, _ => []
  | fuel + 1, sources =>
    let (ls, sources) := row sources ps
    if ls.all Option.isNone then [] else ls.map (·.getD []) :: rows ps fuel sources

end Paste

open Paste in
/-- lines side by side -/
def paste : Program := withOptions [.valued 'd' "delimiters", .on 's' "serial", .on 'z' "zero-terminated"]
    fun _ s name o => do
  let list := (o.last? "d").getD ['\t']
  match delimiters (if list.isEmpty then "\\0".toList else list) with
  | none => s.fail name ("delimiter list ends with an unescaped backslash: ".toList ++ list)
  | some ds => do
    let zero := o.has "z"
    let mark := if zero then '\x00' else '\n'
    if o.has "s" then
      eachFile s name o.files fun cs => s.say (beside ds 0 (recordsOf zero cs) ++ [mark])
    else do
      let mut sources : List (Octets × List Octets) := []
      for p in o.files do
        if !(sources.any fun x => x.1 = p ∧ p = ['-']) then
          match ← s.contents p with
          | .ok cs => sources := sources ++ [(p, recordsOf zero cs)]
          | .error e =>
            return ← s.fail name (Octets.scriptQuotedIfNeeded p ++ ": ".toList ++ errorText e)
      let fuel := sources.foldl (fun n x => n + x.2.length) 0 + 1
      -- a file that is named twice is read twice
      let keyed := (o.files.zipIdx.map fun (p, i) => if p = ['-'] then (p, p) else (p, p ++ '\x00' :: Octets.ofNat i))
      let all := keyed.filterMap fun (p, k) => (sources.find? fun x => x.1 = p).map fun x => (k, x.2)
      for r in rows (keyed.map (·.2)) fuel all do
        s.say (beside ds 0 r ++ [mark])
      return 0

/-! ## long lines -/

namespace Fold

/-- the column behind an octet -/
def after (octets : Bool) (column : Nat) (c : Char) : Nat :=
  if octets then column + 1
  else if c = '\x08' then column - 1
  else if c = '\r' then 0
  else if c = '\t' then column + 8 - column % 8
  else column + 1

/-- how lines are cut -/
structure Manner where
  width : Nat := 80
  octets : Bool := false
  blanks : Bool := false

/-- a line that is cut; what it has so far stands in reverse -/
def line (m : Manner) : Nat → Octets → Nat → Octets → List Octets
  | 0, _, _, _ => []
  | _, before, _, [] => if before.isEmpty then [] else [before.reverse]
  | fuel + 1, before, column, c :: cs =>
    let next := after m.octets column c
    if next ≤ m.width then line m fuel (c :: before) next cs
    else
      let behind := before.takeWhile fun x => x ≠ ' ' ∧ x ≠ '\t'
      if m.blanks ∧ behind.length < before.length then
        let column := behind.reverse.foldl (after m.octets) 0
        ((before.drop behind.length).reverse ++ ['\n']) :: line m fuel behind column (c :: cs)
      else if before.isEmpty then line m fuel [c] next cs
      else (before.reverse ++ ['\n']) :: line m fuel [] 0 (c :: cs)

end Fold

/-- a first argument of digits after a hyphen, as the value of an option -/
def digitsFirst (option : String) (args : List Octets) : List Octets :=
  args.map fun a =>
    match a with
    | '-' :: c :: cs => if (c :: cs).all Char.isDigit then option.toList ++ c :: cs else a
    | a => a

/-- lines that are cut where they are too long -/
def fold : Program := fun launcher s name args =>
  withOptions [.on 'b' "bytes", .on 's' "spaces", .valued 'w' "width"] (fun _ s name o => do
    match (o.last? "w").map size? with
    | some none => s.fail name ("invalid number of columns: ".toList ++ Octets.quoted ((o.last? "w").getD []))
    | some (some 0) =>
      s.fail name ("invalid number of columns: ".toList ++ Octets.quoted ((o.last? "w").getD []) ++
        ": Numerical result out of range".toList)
    | width =>
      let m : Fold.Manner := { width := (width.bind id).getD 80, octets := o.has "b", blanks := o.has "s" }
      eachFile s name o.files fun cs => do
        for l in Octets.lines cs do
          let body := Octets.chomp l
          let pieces := Fold.line m (3 * body.length + 3) [] 0 body
          s.say (pieces.flatten ++ (if Octets.isTerminated l then ['\n'] else []))) 1 false launcher s name
    (digitsFirst "-w" args)

/-! ## numbers of lines -/

namespace Numbered

/-- which lines are numbered -/
inductive Style where
  | every
  | ink
  | none
  | fitting (r : Regex)

/-- the style of a text -/
def Style.ofText? (cs : Octets) : Option Style :=
  match cs with
  | ['a'] => some .every
  | ['t'] => some .ink
  | ['n'] => some .none
  | 'p' :: e =>
    match Regex.read {} (Octets.characters e) with
    | .ok r => some (.fitting r)
    | .error _ => Option.none
  | _ => Option.none

/-- whether a line is numbered -/
def Style.takes (s : Style) (line : Octets) : Bool :=
  match s with
  | .every => true
  | .ink => !line.isEmpty
  | .none => false
  | .fitting r => r.matches? {} (Octets.characters line)

/-- a number in its columns -/
def column (layout : String) (width : Nat) (n : Int) : Octets :=
  let sign : Octets := if n < 0 then ['-'] else []
  let ds := Octets.ofNat n.natAbs
  let gap := width - (sign.length + ds.length)
  match layout with
  | "ln" => sign ++ ds ++ List.replicate gap ' '
  | "rz" => sign ++ List.replicate gap '0' ++ ds
  | _ => List.replicate gap ' ' ++ sign ++ ds

/-- what is said about how lines are numbered -/
structure Manner where
  body : Style := .ink
  header : Style := .none
  footer : Style := .none
  layout : String := "rn"
  width : Nat := 6
  separator : Octets := ['\t']
  first : Int := 1
  step : Int := 1
  delimiter : Octets := "\\:".toList
  resets : Bool := true
  /-- of so many empty lines one is counted -/
  joined : Nat := 1

/-- lines with numbers: the style at hand, the next number, and how many empty lines came just now -/
def lines (m : Manner) (style : Style) (number : Int) (empty : Nat) : List Octets → List Octets
  | [] => []
  | l :: ls =>
    let section? : Option Style :=
      if l = m.delimiter ++ m.delimiter ++ m.delimiter then some m.header
      else if l = m.delimiter ++ m.delimiter then some m.body
      else if l = m.delimiter then some m.footer
      else Option.none
    match section? with
    | some style => ['\n'] :: lines m style (if m.resets then m.first else number) 0 ls
    | Option.none =>
      let empty := if l.isEmpty then empty + 1 else 0
      let counts := style.takes l && (!l.isEmpty || m.joined ≤ 1 || empty = m.joined)
      if counts then
        (column m.layout m.width number ++ m.separator ++ l ++ ['\n']) ::
          lines m style (number + m.step) (if l.isEmpty then 0 else empty) ls
      else
        (List.replicate (m.width + m.separator.length) ' ' ++ l ++ ['\n']) :: lines m style number empty ls

/-- the options -/
def flags : List Flag := [.valued 'b' "body-numbering", .valued 'd' "section-delimiter",
  .valued 'f' "footer-numbering", .valued 'h' "header-numbering", .valued 'i' "line-increment",
  .valued 'l' "join-blank-lines", .valued 'n' "number-format", .on 'p' "no-renumber",
  .valued 's' "number-separator", .valued 'v' "starting-line-number", .valued 'w' "number-width"]

/-- what options say about how lines are numbered; or what is wrong with them, and whether help is offered -/
def mannerOf (o : Options) : Except (Octets × Bool) Manner := do
  let style (key : String) (kind : String) (default : Style) : Except (Octets × Bool) Style :=
    match o.last? key with
    | Option.none => .ok default
    | some cs =>
      match Style.ofText? cs with
      | some s => .ok s
      | Option.none => .error ("invalid ".toList ++ kind.toList ++ " numbering style: ".toList ++ Octets.quoted cs, true)
  let number (key : String) (kind : String) (default : Int) : Except (Octets × Bool) Int :=
    match o.last? key with
    | Option.none => .ok default
    | some cs =>
      match Octets.integer? cs with
      | some n => .ok n
      | Option.none => .error ("invalid ".toList ++ kind.toList ++ ": ".toList ++ Octets.quoted cs, false)
  let positive (key : String) (kind : String) (default : Int) : Except (Octets × Bool) Nat := do
    let n ← number key kind default
    if n < 1 then
      .error ("invalid ".toList ++ kind.toList ++ ": ".toList ++ Octets.quoted ((o.last? key).getD []) ++
        ": Numerical result out of range".toList, false)
    else return n.toNat
  let layout := String.ofList ((o.last? "n").getD "rn".toList)
  let m : Manner := {
    body := ← style "b" "body" .ink
    header := ← style "h" "header" .none
    footer := ← style "f" "footer" .none
    first := ← number "v" "starting line number" 1
    step := ← number "i" "line number increment" 1
    joined := ← positive "l" "line number of blank lines" 1
    width := ← positive "w" "line number field width" 6
    layout
    separator := (o.last? "s").getD ['\t']
    delimiter := match o.last? "d" with
      | some [c] => [c, ':']
      | some cs => cs
      | Option.none => "\\:".toList
    resets := !o.has "p" }
  if ["ln", "rn", "rz"].contains layout then return m
  else .error ("invalid line numbering format: ".toList ++ Octets.quoted layout.toList, true)

end Numbered

/-- lines with numbers -/
def nl : Program := withOptions Numbered.flags fun _ s name o => do
  match Numbered.mannerOf o with
  | .error (e, helps) => if helps then s.refuse name e else s.fail name e
  | .ok m => do
    let mut texts : List Octets := []
    let mut status := 0
    for p in o.files do
      match ← s.contents p with
      | .ok cs => texts := cs :: texts
      | .error e => do
        s.complaint name (Octets.scriptQuotedIfNeeded p ++ ": ".toList ++ errorText e)
        status := 1
    let all := texts.reverse.flatMap (recordsOf false)
    s.say (Numbered.lines m m.body m.first 0 all).flatten
    return status

/-! ## tabulators -/

/-- a text with blanks in the place of tabulators, from a column on -/
def expanded (width : Nat) (onlyFirst : Bool) (column : Nat) (atStart : Bool) : Octets → Octets
  | [] => []
  | c :: cs =>
    if c = '\n' then c :: expanded width onlyFirst 0 true cs
    else if c = '\t' ∧ (atStart ∨ !onlyFirst) then
      let gap := width - column % width
      List.replicate gap ' ' ++ expanded width onlyFirst (column + gap) atStart cs
    else
      c :: expanded width onlyFirst (if c = '\x08' then column - 1 else column + 1) (atStart && c = ' ') cs

/-- blanks in the place of tabulators -/
def expand : Program := fun launcher s name args =>
  withOptions [.on 'i' "initial", .valued 't' "tabs"] (fun _ s name o => do
    match (o.last? "t").map Octets.natural? with
    | some none => s.fail name ("tab size contains invalid character(s): ".toList ++ Octets.quoted ((o.last? "t").getD []))
    | some (some 0) => s.fail name "tab size cannot be 0".toList
    | width =>
      eachFile s name o.files fun cs => s.say (expanded ((width.bind id).getD 8) (o.has "i") 0 true cs)) 1 false
    launcher s name (digitsFirst "-t" args)

/-! ## backwards -/

/-- whether all octets encode characters -/
def isEncoded (cs : Octets) : Bool := (Octets.characters cs).all fun c => c.toNat < Octets.strayBase

/-- the characters of each line, the last first -/
def rev : Program := withOptions [.on 'h' "help", .on 'V' "version"] fun _ s name o => do
  let mut status := 0
  for p in (if o.operands.isEmpty then ["/dev/stdin".toList] else o.operands) do
    match ← s.contents p with
    | .ok cs => do
      for l in Octets.lines cs do
        if isEncoded l then
          let body := Octets.ofCharacters (Octets.characters (Octets.chomp l)).reverse
          s.say (body ++ (if Octets.isTerminated l then ['\n'] else []))
        else passForever
    | .error .isDirectory => passForever
    | .error e => do
      s.complaint name ("cannot open ".toList ++ p ++ ": ".toList ++ errorText e)
      status := 1
  return status

end Debate.Shell
