import Debate.Number.Power
import Debate.Shell.Program.Column
import Debate.Text.Base64

/-!
# Octets in other forms

* `base64`   octets to the base 64, and back;
* `od`       octets as numbers or characters, in rows with their places.
-/

namespace Debate.Shell

open Debate.Number.Power

/-- lines of so many characters; none if the number is zero -/
def wrapped (width : Nat) (cs : Octets) : Octets :=
  if width = 0 then cs
  else (chunks width (cs.length + 1) cs).flatMap fun l => l ++ ['\n']
where
  /-- pieces of so many characters -/
  chunks (n : Nat) : Nat → Octets → List Octets
    | 0, _ => []
    | fuel + 1, cs => if cs.isEmpty then [] else cs.take n :: chunks n fuel (cs.drop n)

/-- octets to the base 64, and back -/
def base64 : Program := withOptions [.on 'd' "decode", .on 'i' "ignore-garbage", .valued 'w' "wrap"]
    fun _ s name o => do
  match o.operands with
  | _ :: extra :: _ => s.refuse name (extraOperand extra)
  | _ =>
    match (o.last? "w").map size? with
    | some none => s.fail name ("invalid wrap size: ".toList ++ Octets.quoted ((o.last? "w").getD []))
    | width =>
      let path := o.operands.headD ['-']
      match ← s.contents path with
      | .error .isDirectory => s.fail name "read error: Is a directory".toList
      | .error e => s.fail name (Octets.scriptQuotedIfNeeded path ++ ": ".toList ++ errorText e)
      | .ok cs =>
        if o.has "d" then do
          let digits := cs.filter fun c => c ≠ '\n' ∧ (!o.has "i" ∨ (Text.value64? c).isSome ∨ c = '=')
          let (bytes, whole) := Text.ofBase64 digits
          s.say (Octets.ofBytes bytes)
          if whole then return 0 else s.fail name "invalid input".toList
        else do
          s.say (wrapped ((width.bind id).getD 76) (Text.base64 (Octets.toBytes cs)))
          return 0

namespace Dump

/-- how octets are shown -/
inductive Form where
  | characters
  /-- numbers of so many octets to a base, with so many digits -/
  | numbers (octets base digits : Nat) (signed : Bool)
  deriving DecidableEq, Repr

/-- a number to a base, with so many digits at least -/
def digits (base least n : Nat) : Octets :=
  let ds := Nat.toDigits base n
  List.replicate (least - ds.length) '0' ++ ds

/-- an octet as a character -/
def character (c : Char) : Octets :=
  match c with
  | '\x00' => "\\0".toList
  | '\x07' => "\\a".toList
  | '\x08' => "\\b".toList
  | '\x0c' => "\\f".toList
  | '\n' => "\\n".toList
  | '\r' => "\\r".toList
  | '\t' => "\\t".toList
  | '\x0b' => "\\v".toList
  | c => if ' ' ≤ c ∧ c ≤ '~' then [c] else digits 8 3 c.toNat

/-- how many octets make one item -/
def Form.size : Form → Nat
  | .characters => 1
  | .numbers n _ _ _ => n

/-- the columns of an item, with the blank in front of it -/
def Form.width : Form → Nat
  | .characters => 4
  | .numbers _ base digits signed => (if base = 10 then digits + (if signed then 1 else 0) else digits) + 1

/-- an item -/
def Form.item (f : Form) (cs : Octets) : Octets :=
  match f with
  | .characters => character (cs.headD '\x00')
  | .numbers octets base ds signed =>
    let n : Nat := cs.reverse.foldl (fun n c => 256 * n + c.toNat) 0
    if base = 10 then
      if signed ∧ 2 ^ (8 * octets - 1) ≤ n then Octets.ofInt ((n : Int) - 2 ^ (8 * octets)) else Octets.ofNat n
    else digits base ds n

/-- the items of a row -/
def Form.row (f : Form) : Nat → Octets → Octets
  | 0, _ => []
  | fuel + 1, cs =>
    if cs.isEmpty then []
    else
      let shown := f.item (cs.take f.size)
      List.replicate (f.width - shown.length) ' ' ++ shown ++ row f fuel (cs.drop f.size)

/-- the form of a letter of an option, or of a type -/
def formOf? (cs : Octets) : Option Form :=
  let sized (letter : Char) (n : Nat) : Option Form :=
    let table (base : Nat) (ds : List Nat) (signed : Bool) : Option Form :=
      ([1, 2, 4, 8].findIdx? (· = n)).bind fun i => (ds[i]?).map fun d => .numbers n base d signed
    match letter with
    | 'x' => table 16 [2, 4, 8, 16] false
    | 'o' => table 8 [3, 6, 11, 22] false
    | 'u' => table 10 [3, 5, 10, 20] false
    | 'd' => table 10 [3, 5, 10, 19] true
    | _ => none
  match cs with
  | ['c'] => some .characters
  | [l] => sized l 4
  | [l, 'C'] => sized l 1
  | [l, 'S'] => sized l 2
  | [l, 'I'] => sized l 4
  | [l, 'L'] => sized l 8
  | l :: ds => (Octets.natural? ds).bind (sized l)
  | [] => none

/-- rows with their places; rows that are equal to the one before them are shown by one mark -/
def rows (forms : List Form) (place : Nat → Octets) (every : Bool) (n : Nat) (before : Option Octets) (starred : Bool) :
    Nat → Octets → List Octets
  | 0, _ => []
  | fuel + 1, cs =>
    if cs.isEmpty then []
    else
      let row := cs.take 16
      if !every ∧ before = some row ∧ row.length = 16 ∧ 16 < cs.length then
        (if starred then [] else ["*\n".toList]) ++ rows forms place every (n + 16) before true fuel (cs.drop 16)
      else
        let p := place n
        let shown := forms.mapIdx fun i f =>
          (if i = 0 then p else List.replicate p.length ' ') ++ f.row 16 row ++ ['\n']
        shown.flatten :: rows forms place every (n + 16) (some row) false fuel (cs.drop 16)

/-- the options -/
def flags : List Flag := [.valued 'A' "address-radix", .valued 'j' "skip-bytes", .valued 'N' "read-bytes",
  .valued 't' "format", .on 'v' "output-duplicates", .on 'a', .on 'b', .on 'c', .on 'd', .on 'o', .on 'x', .on 's',
  .on 'i', .on 'l']

end Dump

open Dump in
/-- octets as numbers or characters, in rows with their places -/
def od : Program := withOptions Dump.flags fun _ s name o => do
  let forms := o.given.filterMap fun g =>
    match g.1 with
    | "t" => formOf? g.2
    | "b" => formOf? "o1".toList
    | "c" => formOf? "c".toList
    | "d" => formOf? "u2".toList
    | "o" => formOf? "o2".toList
    | "x" => formOf? "x2".toList
    | "s" => formOf? "d2".toList
    | "i" => formOf? "d4".toList
    | "l" => formOf? "d8".toList
    | _ => none
  let forms := if forms.isEmpty then [Form.numbers 2 8 6 false] else forms
  match (o.all "t").find? fun t => (formOf? t).isNone with
  | some t => s.fail name ("invalid character '".toList ++ (t.take 1) ++ "' in type string ".toList ++ Octets.quoted t)
  | none => do
    let mut status := 0
    let mut cs : List Octets := []
    for p in o.files do
      match ← s.contents p with
      | .ok x => cs := x :: cs
      | .error e => do
        s.complaint name (Octets.scriptQuotedIfNeeded p ++ ": ".toList ++ errorText e)
        status := 1
    let skipped := ((o.last? "j").bind size?).getD 0
    let all := (cs.reverse.flatten).drop skipped
    let all := match (o.last? "N").bind size? with
      | some n => all.take n
      | none => all
    let place (n : Nat) : Octets := match (o.last? "A").bind List.head? with
      | some 'n' => []
      | some 'd' => digits 10 7 n
      | some 'x' => digits 16 6 n
      | _ => digits 8 7 n
    if status = 0 ∨ !all.isEmpty then
      s.say (rows forms place (o.has "v") skipped none false (all.length + 1) all).flatten
      let last := place (skipped + all.length)
      if !last.isEmpty then s.say (last ++ ['\n'])
    return status

end Debate.Shell
