import Debate.Shell.Program.Start

/-!
# Files and directories

* `ls`                        the names in directories;
* `mkdir`, `rmdir`, `touch`   directories and empty files are made, and empty directories removed;
* `rm`                        files are removed, and directories with all that is in them;
* `mv`, `cp`                  files and directories are moved, and copied;
* `chmod`                     files can be run from now on, or no more.
-/

namespace Debate.Shell

open Debate.Files

namespace Entries

/-- a tree without a place and all that is below it -/
def without (t : Tree) (p : Place) : Tree := ⟨t.entries.filter fun e => !p.isPrefixOf e.1⟩

/-- a tree in which all that is at a place and below it stands at another one -/
def moved (t : Tree) (p q : Place) : Tree :=
  ⟨(without t q).entries.map fun e => if p.isPrefixOf e.1 then (q ++ e.1.drop p.length, e.2) else e⟩

/-- a path with one more name -/
def under (path name : Octets) : Octets :=
  if path.getLast? = some '/' then path ++ name else path ++ '/' :: name

/-- a change of the files -/
def change (f : Tree → Tree) : Act Unit := modify fun m => { m with tree := f m.tree }

/-- what stands where a path leads -/
def stat (s : Setting) (path : Octets) : Act (Except FileError (Place × Node)) := do
  let m ← get
  match m.locate s.here path with
  | .error e => return .error e
  | .ok p =>
    match m.tree.get? p with
    | some n => return .ok (p, n)
    | none => return .error .missing

/-- whether a path leads to a directory -/
def isDirectory (s : Setting) (path : Octets) : Act Bool := do
  match ← stat s path with
  | .ok (_, .directory _) => return true
  | _ => return false

/-- a path between quotes -/
def shown (path : Octets) : Octets := Octets.scriptQuoted path

/-! ## names in directories -/

/-- how names are shown -/
structure Listing where
  hidden : Bool := false
  /-- the directory itself and the one above it are shown -/
  own : Bool := false
  reversed : Bool := false
  marks : Bool := false
  /-- only directories have a mark -/
  slashes : Bool := false
  quotes : Bool := false
  deep : Bool := false
  /-- a directory is shown by its name -/
  asName : Bool := false
  commas : Bool := false
  across : Bool := false

/-- a name as it is shown -/
def Listing.name (l : Listing) (m : Machine) (place : Place) (name : Octets) : Octets :=
  let shown := if l.quotes then '"' :: name ++ ['"'] else name
  match m.tree.get? place with
  | some (.directory _) => if l.marks ∨ l.slashes then shown ++ ['/'] else shown
  | some (.file _) => if l.marks ∧ m.executables.contains place then shown ++ ['*'] else shown
  | none => shown

/-- shown names, in lines -/
def Listing.lines (l : Listing) (names : List Octets) : Octets :=
  if names.isEmpty then []
  else if l.commas then ", ".toList.intercalate names ++ ['\n']
  else if l.across then "  ".toList.intercalate names ++ ['\n']
  else names.flatMap fun n => n ++ ['\n']

/-- the names of a directory -/
def Listing.directory (l : Listing) (m : Machine) (place : Place) : Octets :=
  let names := (m.children place).map Octets.ofString
  let names := names.filter fun n => l.hidden || n.head? ≠ some '.'
  let names := if l.own then [['.'], ['.', '.']] ++ names else names
  let names := if l.reversed then names.reverse else names
  l.lines (names.map fun n =>
    let at_ := if n = ['.'] ∨ n = ['.', '.'] then [] else place ++ [Octets.toText n]
    l.name m at_ n)

/-- the directories below a place, with their paths -/
def Listing.below (l : Listing) (m : Machine) : Nat → Octets → Place → List (Octets × Place)
  | 0, path, place => [(path, place)]
  | fuel + 1, path, place =>
    let names := (m.children place).filter fun n => l.hidden || !n.startsWith "."
    (path, place) :: names.flatMap fun n =>
      if m.tree.isDirectory (place ++ [n]) then
        below l m fuel (under path (Octets.ofString n)) (place ++ [n])
      else []

/-- the options of the program that shows names -/
def listFlags : List Flag := [.on 'a' "all", .on 'A' "almost-all", .on 'C', .on 'd' "directory",
  .on 'f', .on 'F' "classify", .on 'i', .on 'l', .on 'm', .on 'n', .on 'p', .on 'Q' "quote-name", .on 'q',
  .on 'r' "reverse", .on 'R' "recursive", .on 's', .on 'S', .on 't', .on 'U', .on 'x', .on '1', .on 'L',
  .on 'N' "literal", .on 'h', .on 'k', .on 'u', .on 'c', .on 'v', .on 'X', .on 'o', .on 'g', .on 'H',
  .on 'G', .on 'b', .on 'B', .long "color" .maybe, .valued 'w' "width", .valued 'I' "ignore"]

end Entries

open Entries

/-- the names in directories -/
def ls : Program := withOptions Entries.listFlags (fun _ s name o => do
  let layout := o.lastOf? ["C", "1", "m", "x", "l"]
  let l : Listing := {
    hidden := o.has "a" || o.has "A" || o.has "f", own := (o.has "a" || o.has "f") && !o.has "A"
    reversed := o.has "r", marks := o.has "F", slashes := o.has "p", quotes := o.has "Q", deep := o.has "R"
    asName := o.has "d"
    commas := layout == some ("m", []), across := layout == some ("x", []) || layout == some ("C", []) }
  let paths := if o.operands.isEmpty then [['.']] else o.operands
  let paths := paths.mergeSort fun a b => !Octets.before b a
  let paths := if l.reversed then paths.reverse else paths
  let mut status := 0
  let mut files : List (Octets × Place) := []
  let mut directories : List (Octets × Place) := []
  for p in paths do
    match ← stat s p with
    | .ok (place, .directory _) =>
      if l.asName then files := files ++ [(p, place)] else directories := directories ++ [(p, place)]
    | .ok (place, .file _) => files := files ++ [(p, place)]
    | .error e => do
      s.complaint name ("cannot access ".toList ++ shown p ++ ": ".toList ++ errorText e)
      status := 2
  let m ← get
  s.say (l.lines (files.map fun (p, place) => l.name m place p))
  let every := if l.deep then directories.flatMap fun (p, place) => l.below m 50 p place else directories
  let titled := l.deep || 1 < paths.length
  let mut first := files.isEmpty
  for (p, place) in every do
    if titled then s.say ((if first then [] else ['\n']) ++ p ++ ":\n".toList)
    first := false
    s.say (l.directory m place)
  return status) 2

/-! ## making -/

namespace Entries

/-- the directories on the way of a path: all its starts that end with a name -/
def starts (path : Octets) : List Octets :=
  let names := Text.split ['/'] path
  let all := (List.range names.length).map fun k => ['/'].intercalate (names.take (k + 1))
  (all.zip names).filterMap fun (p, n) => if n.isEmpty ∨ n = ['.'] then none else some p

/-- a directory is made -/
def makeDirectory (s : Setting) (path : Octets) : Act (Except FileError Unit) := do
  let m ← get
  match m.locate s.here (withoutSlashes path) with
  | .error e => return .error e
  | .ok p =>
    if (m.tree.get? p).isSome then return .error .exists
    else if m.tree.isDirectory p.dropLast then do
      change fun t => t.put p (.directory false)
      return .ok ()
    else return .error (if (m.tree.get? p.dropLast).isSome then .notDirectory else .missing)

end Entries

/-- directories are made -/
def mkdir : Program := withOptions [.valued 'm' "mode", .on 'p' "parents", .on 'v' "verbose"] fun _ s name o => do
  if o.operands.isEmpty then s.refuse name "missing operand".toList
  else do
    let mut status := 0
    let failed (p : Octets) (e : FileError) : Act Unit :=
      s.complaint name ("cannot create directory ".toList ++ Octets.quoted p ++ ": ".toList ++ errorText e)
    let made (p : Octets) : Act Unit := do
      if o.has "v" then s.sayLine (name ++ ": created directory ".toList ++ shown p)
    for p in o.operands do
      if o.has "p" ∧ !p.isEmpty then
        let mut going := true
        for q in starts p do
          if going then
            match ← stat s q with
            | .ok (_, .directory _) => pure ()
            | .ok (_, .file _) => do
              failed q (if q = withoutSlashes p then .exists else .notDirectory)
              status := 1
              going := false
            | .error _ =>
              match ← makeDirectory s q with
              | .ok () => made q
              | .error e => do
                failed q e
                status := 1
                going := false
      else
        match ← makeDirectory s p with
        | .ok () => made p
        | .error e => do
          failed p e
          status := 1
    return status

/-- empty directories are removed -/
def rmdir : Program := withOptions [.on 'p' "parents", .on 'v' "verbose", .long "ignore-fail-on-non-empty"]
    fun _ s name o => do
  if o.operands.isEmpty then s.refuse name "missing operand".toList
  else do
    let mut status := 0
    for p in o.operands do
      let all := if o.has "p" then (starts p).reverse else [p]
      let mut going := true
      for q in all do
        if going then
          if o.has "v" then s.sayLine (name ++ ": removing directory, ".toList ++ shown q)
          let m ← get
          let error : Option FileError := match m.locate s.here q with
            | .error e => some e
            | .ok place =>
              if q.getLast? = some '.' ∧ baseOf q = ['.'] then some .invalid
              else match m.tree.get? place with
                | none => some .missing
                | some (.file _) => some .notDirectory
                | some (.directory _) => if (m.children place).isEmpty then none else some .notEmpty
          match error with
          | none => if let .ok place := m.locate s.here q then change fun t => t.remove place
          | some e => do
            going := false
            if !(o.has "ignore-fail-on-non-empty" ∧ e = .notEmpty) then
              s.complaint name ("failed to remove ".toList ++ shown q ++ ": ".toList ++ errorText e)
              status := 1
    return status

/-- files that are not there are made -/
def touch : Program := withOptions [.on 'a', .on 'c' "no-create", .valued 'd' "date", .on 'f', .on 'm',
    .valued 'r' "reference", .valued 't'] fun _ s name o => do
  if o.operands.isEmpty then s.refuse name "missing file operand".toList
  else do
    let mut status := 0
    for p in o.operands do
      let m ← get
      let complaint (what : String) (e : FileError) : Act Unit :=
        s.complaint name (what.toList ++ shown p ++ ": ".toList ++ errorText e)
      match m.locate s.here p with
      | .error .notDirectory => do
        complaint (if p.getLast? = some '/' then "setting times of " else "cannot touch ") .notDirectory
        status := 1
      | .error e => do
        complaint "cannot touch " e
        status := 1
      | .ok place =>
        if (m.tree.get? place).isNone ∧ !o.has "c" then
          match ← openFile s.numbers s.here p .appending with
          | .ok _ => pure ()
          | .error .isDirectory => do
            complaint "setting times of " .missing
            status := 1
          | .error e => do
            complaint "cannot touch " e
            status := 1
    return status

/-! ## removing -/

namespace Entries

/-- what is removed with a place, the last first: paths, places, and whether they are directories -/
def removals (m : Machine) : Nat → Octets → Place → List (Octets × Bool)
  | 0, _, _ => []
  | fuel + 1, path, place =>
    if m.tree.isDirectory place then
      ((m.children place).flatMap fun n => removals m fuel (under path (Octets.ofString n)) (place ++ [n])) ++
        [(path, true)]
    else [(path, false)]

end Entries

/-- files are removed, and directories with all that is in them -/
def rm : Program := withOptions [.on 'f' "force", .on 'i', .on 'I', .on 'r' "recursive", .on 'R', .on 'd' "dir",
    .on 'v' "verbose", .long "interactive" .maybe, .long "one-file-system", .long "no-preserve-root",
    .long "preserve-root" .maybe] fun _ s name o => do
  if o.operands.isEmpty then
    if o.has "f" then return 0 else s.refuse name "missing operand".toList
  else do
    let deep := o.has "r" || o.has "R"
    let mut status := 0
    for p in o.operands do
      let complaint (e : FileError) : Act Unit :=
        s.complaint name ("cannot remove ".toList ++ shown p ++ ": ".toList ++ errorText e)
      let base := baseOf p
      match ← stat s p with
      | .error e =>
        if !(o.has "f" ∧ (e = .missing ∨ e = .notDirectory)) then
          complaint e
          status := 1
      | .ok (place, .directory _) => do
        let m ← get
        if deep ∧ (base = ['.'] ∨ base = ['.', '.']) then
          s.complaint name ("refusing to remove '.' or '..' directory: skipping ".toList ++ shown p)
          status := 1
        else if deep then
          for (q, directory) in removals m 100 p place do
            if o.has "v" then
              s.sayLine ((if directory then "removed directory ".toList else "removed ".toList) ++ shown q)
          change fun t => without t place
        else if o.has "d" then
          if (m.children place).isEmpty then
            if o.has "v" then s.sayLine ("removed directory ".toList ++ shown p)
            change fun t => t.remove place
          else
            complaint .notEmpty
            status := 1
        else
          complaint .isDirectory
          status := 1
      | .ok (place, .file bytes) => do
        let agreed ← if o.has "i" then do
            s.put 2 (name ++ ": remove regular ".toList ++ (if bytes.isEmpty then "empty ".toList else []) ++
              "file ".toList ++ shown p ++ "? ".toList)
            match s.numbers.find? 0 with
            | some c => do
              let answer ← readLine c
              pure ("yY".toList.contains (answer.headD 'n'))
            | none => pure false
          else pure true
        if agreed then
          if o.has "v" then s.sayLine ("removed ".toList ++ shown p)
          modify fun m => { m with tree := m.tree.remove place, executables := m.executables.filter (· ≠ place) }
    return status

/-! ## moving and copying -/

namespace Entries

/-- the sources and the target of a program that moves or copies; or what is missing -/
def sources (o : Options) : Except Octets (List Octets × Octets) :=
  match o.last? "t", o.operands with
  | _, [] => .error "missing file operand".toList
  | some target, ps => .ok (ps, target)
  | none, [p] => .error ("missing destination file operand after ".toList ++ shown p)
  | none, ps => .ok (ps.dropLast, ps.getLast?.getD [])

/-- where a source goes: into the target if it is a directory -/
def destination (s : Setting) (o : Options) (source target : Octets) : Act Octets := do
  if !o.has "T" ∧ (← isDirectory s target) then return under target (baseOf source) else return target

/-- a place and all that is below it is copied to another one, which may stand already -/
def copied (t : Tree) (p q : Place) : Tree :=
  (t.entries.filter fun e => p.isPrefixOf e.1).foldr (fun e t =>
    let goal := q ++ e.1.drop p.length
    match e.2 with
    | .directory _ => if t.isDirectory goal then t else t.put goal e.2
    | .file _ => t.put goal e.2) t

/-- the paths that are copied with a path, the first first -/
def copies (m : Machine) : Nat → Octets → Octets → Place → List (Octets × Octets)
  | 0, _, _, _ => []
  | fuel + 1, a, b, place =>
    (a, b) :: (if m.tree.isDirectory place then
      (m.children place).flatMap fun n =>
        copies m fuel (under a (Octets.ofString n)) (under b (Octets.ofString n)) (place ++ [n])
    else [])

/-- sources are moved or copied, one after the other -/
def eachSource (s : Setting) (name : Octets) (o : Options)
    (f : Octets → Octets → Place → Node → Act Bool) : Act Nat := do
  match sources o with
  | .error e => s.refuse name e
  | .ok (paths, target) => do
    let into := 1 < paths.length || (o.last? "t").isSome
    let node ← stat s target
    let trouble : Option FileError := match node with
      | .ok (_, .directory _) => none
      | .ok (_, .file _) => some .notDirectory
      | .error e => some e
    match (if into then trouble else none) with
    | some e =>
      s.fail name ((if (o.last? "t").isSome then "target directory " else "target ").toList ++ shown target ++
        ": ".toList ++ errorText e)
    | none => do
      let mut status := 0
      for p in paths do
        match ← stat s p with
        | .error e => do
          s.complaint name ("cannot stat ".toList ++ shown p ++ ": ".toList ++ errorText e)
          status := 1
        | .ok (place, node) => do
          let q ← destination s o p target
          if !(← f p q place node) then status := 1
      return status

/-- the options of programs that move and copy -/
def moveFlags : List Flag := [.on 'b', .on 'f' "force", .on 'i' "interactive", .on 'n' "no-clobber",
  .on 'u' "update", .on 'v' "verbose", .valued 't' "target-directory", .on 'T' "no-target-directory"]

/-- the place to which something can be written, or why nothing can -/
def writable (s : Setting) (path : Octets) : Act (Except FileError Place) := do
  let m ← get
  match m.locate s.here path with
  | .error e => return .error e
  | .ok q =>
    if m.tree.isDirectory q.dropLast then return .ok q
    else return .error (if (m.tree.get? q.dropLast).isSome then .notDirectory else .missing)

end Entries

/-- files and directories are moved -/
def mv : Program := withOptions Entries.moveFlags fun _ s name o =>
  eachSource s name o fun p q place node => do
    let complaint (cs : Octets) : Act Bool := do
      s.complaint name cs
      return false
    let failed (e : FileError) : Act Bool :=
      complaint ("cannot move ".toList ++ shown p ++ " to ".toList ++ shown q ++ ": ".toList ++ errorText e)
    let isTree : Bool := match node with
      | .directory _ => true
      | .file _ => false
    match ← writable s (if isTree then withoutSlashes q else q) with
    | .error e => failed e
    | .ok target => do
      let m ← get
      let there := m.tree.get? target
      if place = target then complaint (shown p ++ " and ".toList ++ shown q ++ " are the same file".toList)
      else if isTree ∧ place.isPrefixOf target then
        complaint ("cannot move ".toList ++ shown p ++ " to a subdirectory of itself, ".toList ++ shown q)
      else if q.getLast? = some '/' ∧ !isTree then failed .notDirectory
      else
        let finish (place target : Place) : Act Bool := do
          if o.has "v" then s.sayLine ("renamed ".toList ++ shown p ++ " -> ".toList ++ shown q)
          finish place target
        match there with
        | some (.file _) =>
          if isTree then
            complaint ("cannot overwrite non-directory ".toList ++ shown q ++ " with directory ".toList ++ shown p)
          else if o.has "n" then complaint ("not replacing ".toList ++ shown q)
          else finish place target
        | some (.directory _) =>
          if !isTree then
            complaint ("cannot overwrite directory ".toList ++ shown q ++ " with non-directory".toList)
          else if !(m.children target).isEmpty then
            complaint ("cannot overwrite ".toList ++ shown q ++ ": Directory not empty".toList)
          else finish place target
        | none => finish place target
where
  /-- a place is moved -/
  finish (place target : Place) : Act Bool := do
    let m ← get
    set { m with
      tree := moved m.tree place target
      executables := m.executables.map fun x => if place.isPrefixOf x then target ++ x.drop place.length else x }
    return true

/-- files are copied, and directories with all that is in them -/
def cp : Program := withOptions (Entries.moveFlags ++ [.on 'a' "archive", .on 'd', .on 'p', .on 'r', .on 'R' "recursive",
    .on 'L', .on 'P', .on 'H', .on 'l', .on 's', .on 'x']) fun _ s name o => do
  if o.has "n" then
    s.complaint name ("warning: behavior of -n is non-portable and may change in future; use --update=none instead").toList
  eachSource s name o fun p q place node => do
    let complaint (cs : Octets) : Act Bool := do
      s.complaint name cs
      return false
    let deep := o.has "r" || o.has "R" || o.has "a"
    let isTree : Bool := match node with
      | .directory _ => true
      | .file _ => false
    if isTree ∧ !deep then complaint ("-r not specified; omitting directory ".toList ++ shown p)
    else
      match ← writable s (if isTree then withoutSlashes q else q) with
      | .error e =>
        complaint ((if isTree then "cannot create directory " else "cannot create regular file ").toList ++ shown q ++
          ": ".toList ++ errorText e)
      | .ok target => do
        let m ← get
        if place = target then complaint (shown p ++ " and ".toList ++ shown q ++ " are the same file".toList)
        else if isTree ∧ place.isPrefixOf target then
          complaint ("cannot copy a directory, ".toList ++ shown p ++ ", into itself, ".toList ++ shown q)
        else if !isTree ∧ q.getLast? = some '/' then
          complaint ("cannot create regular file ".toList ++ shown q ++ ": Not a directory".toList)
        else
          match m.tree.get? target, isTree with
          | some (.file _), true =>
            complaint ("cannot overwrite non-directory ".toList ++ shown q ++ " with directory ".toList ++ shown p)
          | some (.directory _), false =>
            complaint ("cannot overwrite directory ".toList ++ shown q ++ " with non-directory".toList)
          | some (.file _), false =>
            if o.has "n" then return true
            else do
              if o.has "v" then s.sayLine (shown p ++ " -> ".toList ++ shown q)
              change fun t => t.put target node
              return true
          | _, _ => do
            if o.has "v" then
              for (a, b) in copies m 100 p q place do
                s.sayLine (shown a ++ " -> ".toList ++ shown b)
            change fun t => copied t place target
            let more := m.executables.filterMap fun e =>
              if place.isPrefixOf e then some (target ++ e.drop place.length) else none
            modify fun x => { x with executables := x.executables ++ more }
            return true

/-! ## running -/

namespace Entries

/-- whether files of a mode can be run, if that is said; nothing if it is no mode -/
def runnable? (mode : Octets) : Option (Option Bool) :=
  if mode ≠ [] ∧ mode.all Char.isDigit then
    if mode.all isOctal ∧ mode.length ≤ 4 then some (some (mode.any fun c => (c.toNat - 48) % 2 = 1)) else none
  else
    let clause (cs : Octets) : Option (Option Bool) :=
      let who := cs.takeWhile "ugoa".toList.contains
      match cs.drop who.length with
      | op :: letters =>
        if "+-=".toList.contains op ∧ letters.all "rwxXst".toList.contains then
          some (if letters.contains 'x' then some (op ≠ '-') else if op = '=' then some false else none)
        else none
      | [] => none
    (Text.split [','] mode).foldl (fun r cs =>
      match r, clause cs with
      | some before, some (some b) => some (some b) <|> some before
      | some before, some none => some before
      | _, _ => none) (some none)

end Entries

/-- files can be run from now on, or no more -/
def chmod : Program := fun launcher s name args =>
  let isMode (a : Octets) : Bool := match a with
    | '-' :: c :: _ => "rwxX".toList.contains c
    | _ => false
  let modes := args.filter isMode
  withOptions [.on 'c', .on 'f', .on 'v' "verbose", .on 'R' "recursive"] (fun _ s name o => do
    match modes ++ o.operands with
    | [] => s.refuse name "missing operand".toList
    | [mode] => s.refuse name ("missing operand after ".toList ++ Octets.quoted mode)
    | mode :: paths =>
      match runnable? mode with
      | none => s.refuse name ("invalid mode: ".toList ++ Octets.quoted mode)
      | some change => do
        let mut status := 0
        for p in paths do
          match ← stat s p with
          | .error e => do
            s.complaint name ("cannot access ".toList ++ shown p ++ ": ".toList ++ errorText e)
            status := 1
          | .ok (place, _) =>
            modify fun m =>
              let others := m.executables.filter fun x => !(if o.has "R" then place.isPrefixOf x else x = place)
              let these := if o.has "R" then
                  m.tree.entries.filterMap fun e => if place.isPrefixOf e.1 ∧ m.tree.isFile e.1 then some e.1 else none
                else [place]
              match change with
              | none => m
              | some true => { m with executables := others ++ these }
              | some false => { m with executables := others }
        return status) 1 false launcher s name (args.filter fun a => !isMode a)

end Debate.Shell
