import Debate.Proofs.Encoding
import Debate.Proofs.Pieces
import Debate.Provider.Command
import Mathlib.Data.List.DropRight

/-!
# The text that a command writes

The bytes of a stream come line by line, and each line is read as a text by itself, as soon as it is there.
No character, and no ill-formed piece, reaches over a line feed; so the lines are those of the text that
all the bytes write together, and nothing is added, lost or changed where the bytes are cut.

* `Utf8.units_append_newline`   bytes in front of a line feed and after it are read apart;
* `Utf8.newline_not_mem`        a text has no line feed if its bytes have none;
* `Command.lines_eq`            the lines of a stream, whether or not more can come;
* `Command.wholeText`           the text that all the bytes write together;
* `Command.printed_whole`       what a command printed, what it complained of, and what its reply is.
-/

namespace Debate

open Debate.Text

namespace Text.Utf8

/-! ## bytes around a line feed -/

variable {b : UInt8} {l : Lead} {count low high value : Nat} {xs : List UInt8}

/-- the byte of a line feed is none of those that follow a first one -/
theorem low_of_lead (h : Lead.of? b = some l) : 0x80 ≤ l.low := by
  unfold Lead.of? at h
  grind

/-- what follows a first byte ends in front of a line feed -/
theorem finish_append_newline (hlow : 0x80 ≤ low) (xs ys : List UInt8) :
    finish count low high value (xs ++ 10 :: ys) =
      ((finish count low high value xs).1, (finish count low high value xs).2 ++ 10 :: ys) := by
  induction xs generalizing count low high value with
  | nil =>
    cases count with
    | zero => rfl
    | succ n =>
      have hout : ¬ (low ≤ UInt8.toNat 10 ∧ UInt8.toNat 10 ≤ high) := fun h => by
        have : low ≤ 10 := h.1
        omega
      rw [List.nil_append, finish.eq_def]
      dsimp only
      rw [if_neg hout]
      rfl
  | cons x xs ih =>
    cases count with
    | zero => rfl
    | succ n =>
      rw [List.cons_append, finish, finish]
      split
      · exact ih (Nat.le_refl _)
      · rfl

/-- bytes in front of a line feed and after it are read apart -/
theorem units_append_newline (xs ys : List UInt8) :
    units (xs ++ 10 :: ys) = units xs ++ some '\n' :: units ys := by
  fun_induction units xs with
  | case1 =>
    have hlead : Lead.of? 10 = some ⟨0, 0x80, 0xBF, 10⟩ := by decide
    rw [List.nil_append, units_cons hlead, finish_zero]
    rfl
  | case2 b xs h ih =>
    rw [List.cons_append, units, h, List.cons_append, ← ih]
  | case3 b xs l h ih =>
    rw [List.cons_append, units_cons h, finish_append_newline (low_of_lead h), List.cons_append, ih]

/-- the line feed is the character of its number only -/
theorem ofNat_ne_newline {n : Nat} (h : n ≠ 10) : Char.ofNat n ≠ '\n' := by
  intro hn
  have hnumber : (Char.ofNat n).toNat = 10 := by rw [hn]; rfl
  by_cases hvalid : n.isValidChar
  · rw [Char.ofNat, dif_pos hvalid] at hnumber
    exact h hnumber
  · rw [Char.ofNat, dif_neg hvalid] at hnumber
    cases hnumber

/-- the number of a character only grows with the bytes that follow -/
theorem finish_ne_newline (h : 10 < value) (bs : List UInt8) :
    (finish count low high value bs).1 ≠ some '\n' := by
  have hdone : some (Char.ofNat value) ≠ some '\n' :=
    mt Option.some.inj (ofNat_ne_newline (by omega))
  induction bs generalizing count low high value with
  | nil =>
    rw [finish]
    split
    · exact hdone
    · exact (Option.some_ne_none _).symm
  | cons b bs ih =>
    cases count with
    | zero => exact hdone
    | succ n =>
      rw [finish]
      split
      · have hmore : 10 < value * 64 + (b.toNat - 0x80) := by omega
        exact ih hmore (mt Option.some.inj (ofNat_ne_newline (by omega)))
      · exact (Option.some_ne_none _).symm

/-- a first byte stands for itself, or leaves a number that is too large with the least byte that may follow -/
theorem share_of_lead (h : Lead.of? b = some l) :
    (l.count = 0 ∧ l.share = b.toNat) ∨ (l.count ≠ 0 ∧ 10 < l.share * 64 + (l.low - 0x80)) := by
  unfold Lead.of? at h
  dsimp only at h
  split_ifs at h <;> cases h
  · exact .inl ⟨rfl, rfl⟩
  all_goals exact .inr ⟨Nat.succ_ne_zero _, by dsimp only; omega⟩

/-- no other byte begins a line feed -/
theorem finish_lead_ne_newline (h : Lead.of? b = some l) (hb : b ≠ 10) (bs : List UInt8) :
    (finish l.count l.low l.high l.share bs).1 ≠ some '\n' := by
  have hself : b.toNat ≠ 10 := fun heq => hb (UInt8.toNat_inj.mp heq)
  rcases share_of_lead h with ⟨hcount, hshare⟩ | ⟨hcount, hshare⟩
  · rw [hcount, hshare, finish_zero]
    exact mt Option.some.inj (ofNat_ne_newline hself)
  · obtain ⟨n, hn⟩ := Nat.exists_eq_succ_of_ne_zero hcount
    rw [hn]
    cases bs with
    | nil => exact (Option.some_ne_none _).symm
    | cons x xs =>
      rw [finish]
      split
      · exact finish_ne_newline (by omega) xs
      · exact (Option.some_ne_none _).symm

/-- the bytes that are left are some of those that followed -/
theorem finish_suffix (count low high value : Nat) (bs : List UInt8) :
    (finish count low high value bs).2 <:+ bs := by
  induction bs generalizing count low high value with
  | nil => simp only [finish, List.suffix_refl]
  | cons b bs ih =>
    cases count with
    | zero => exact List.suffix_refl _
    | succ n =>
      rw [finish]
      split
      · exact (ih ..).trans (List.suffix_cons b bs)
      · exact List.suffix_refl _

/-- a text has no line feed if its bytes have none -/
theorem newline_not_mem_units (h : (10 : UInt8) ∉ xs) : some '\n' ∉ units xs := by
  fun_induction units xs with
  | case1 => exact List.not_mem_nil
  | case2 b xs hlead ih => simpa using ih (List.not_mem_of_not_mem_cons h)
  | case3 b xs l hlead ih =>
    obtain ⟨hb, hxs⟩ := not_or.mp (mt List.mem_cons.mpr h)
    refine List.not_mem_cons_of_ne_of_not_mem ?_ ?_
    · exact (finish_lead_ne_newline hlead (Ne.symm hb) xs).symm
    · exact ih fun hmem => hxs ((finish_suffix ..).mem hmem)

/-! ## the characters of bytes -/

/-- the characters of any bytes -/
def characters (bs : List UInt8) : List Char := (decodeLenient bs).toList

theorem characters_eq (bs : List UInt8) : characters bs = (units bs).map fun u => u.getD '\ufffd' :=
  String.toList_ofList

theorem characters_append_newline (xs ys : List UInt8) :
    characters (xs ++ 10 :: ys) = characters xs ++ '\n' :: characters ys := by
  simp only [characters_eq, units_append_newline, List.map_append, List.map_cons, Option.getD_some]

theorem newline_not_mem_characters (h : (10 : UInt8) ∉ xs) : '\n' ∉ characters xs := by
  rw [characters_eq, List.mem_map]
  rintro ⟨u, hu, hchar⟩
  cases u with
  | none => cases hchar
  | some c =>
    cases hchar
    exact newline_not_mem_units h hu

theorem characters_eq_nil_iff : characters xs = [] ↔ xs = [] := by
  rw [characters_eq, List.map_eq_nil_iff]
  cases xs with
  | nil => simp [units]
  | cons b bs =>
    rw [units]
    split <;> simp

end Text.Utf8

namespace Command

open Debate.Number Debate.Shell Debate.Text.Utf8

/-! ## lines of bytes -/

/-- the characters of the lines, and of what is left over, are the lines of the characters -/
theorem characters_splitLines {line : List UInt8} (hline : (10 : UInt8) ∉ line) (bs : List UInt8) :
    (splitLines line bs).1.map characters ++ [characters (splitLines line bs).2] =
      Text.lines (characters (line ++ bs)) := by
  induction bs generalizing line with
  | nil =>
    rw [List.append_nil, lines_of_not_mem (newline_not_mem_characters hline)]
    rfl
  | cons b bs ih =>
    rw [splitLines]
    split
    · rename_i hb
      rw [hb, characters_append_newline, lines_append,
        lines_of_not_mem (newline_not_mem_characters hline), ← List.nil_append bs,
        ← ih List.not_mem_nil]
      rfl
    · rename_i hb
      have hmore : (10 : UInt8) ∉ line ++ [b] := by simp [hline, Ne.symm hb]
      rw [ih hmore, List.append_assoc, List.singleton_append]

/-- a text without the carriage returns at its end -/
def withoutReturns (cs : List Char) : List Char := cs.rdropWhile (· = '\r')

/-- the lines of a text that ends with a line feed; an empty line that stands after it is none -/
def dropEmpty (ls : List (List Char)) : List (List Char) :=
  if ls.getLast? = some [] then ls.dropLast else ls

/-- the text that all the bytes write together: its lines, without the carriage returns at their ends -/
def wholeText (bs : List UInt8) : String :=
  String.ofList (unlines ((dropEmpty (Text.lines (characters bs))).map withoutReturns))

theorem lineText_eq {bs : List UInt8} (h : '\n' ∉ characters bs) :
    lineText bs = String.ofList (withoutReturns (characters bs)) := by
  have hsame : ∀ cs : List Char, '\n' ∉ cs →
      cs.dropWhile (fun c => c = '\n' || c = '\r') = cs.dropWhile (· = '\r') := by
    intro cs hcs
    induction cs with
    | nil => rfl
    | cons c cs ih =>
      obtain ⟨hc, hcs⟩ := not_or.mp (mt List.mem_cons.mpr hcs)
      simp only [List.dropWhile_cons, Ne.symm hc, decide_false, Bool.false_or, ih hcs]
  rw [lineText, withoutReturns, List.rdropWhile]
  exact congrArg (fun cs => String.ofList cs.reverse) (hsame _ (mt List.mem_reverse.mp h))

/-- the bytes on a stream -/
def bytesOn (written : List Written) (stream : Stream) : List UInt8 :=
  (written.filter fun w => w.stream = stream).flatMap (·.bytes)

/-- the lines of a stream are those of its text; what stands after the last line feed is a line if nothing
more can come, and if it is not empty -/
theorem lines_eq (ended : Bool) (written : List Written) (stream : Stream) :
    lines ended written stream =
      let all := Text.lines (characters (bytesOn written stream))
      (if ended then dropEmpty all else all.dropLast).map fun cs => String.ofList (withoutReturns cs) := by
  have hall := characters_splitLines List.not_mem_nil (bytesOn written stream)
  have hplain := newline_not_mem_lines (characters (bytesOn written stream))
  rw [List.nil_append] at hall
  rw [← hall] at hplain ⊢
  have hlines : lines ended written stream =
      ((splitLines [] (bytesOn written stream)).1 ++
        if ended ∧ (splitLines [] (bytesOn written stream)).2 ≠ [] then
          [(splitLines [] (bytesOn written stream)).2] else []).map lineText := rfl
  rw [hlines]
  generalize splitLines [] (bytesOn written stream) = r at hplain ⊢
  obtain ⟨complete, rest⟩ := r
  have htexts : complete.map lineText =
      (complete.map characters).map fun cs => String.ofList (withoutReturns cs) := by
    rw [List.map_map]
    refine List.map_congr_left fun bs hbs => lineText_eq (hplain _ ?_)
    exact List.mem_append_left _ (List.mem_map_of_mem hbs)
  have hrest : lineText rest = String.ofList (withoutReturns (characters rest)) :=
    lineText_eq (hplain _ (List.mem_append_right _ (List.mem_singleton_self _)))
  cases ended with
  | false => simp [htexts]
  | true =>
    by_cases hempty : rest = []
    · simp [dropEmpty, hempty, htexts, characters_eq_nil_iff.mpr rfl]
    · simp [dropEmpty, hempty, htexts, characters_eq_nil_iff, hrest]

theorem join_eq_intercalate (l : List Char) (ps : List (List Char)) : join l ps = l.intercalate ps := by
  fun_induction join l ps <;> simp_all

/-- the lines of a stream that has ended, put together again -/
theorem intercalate_lines (written : List Written) (stream : Stream) :
    "\n".intercalate (lines true written stream) = wholeText (bytesOn written stream) := by
  refine String.toList_inj.mp ?_
  rw [lines_eq, wholeText, unlines, join_eq_intercalate, String.toList_ofList,
    String.toList_intercalate, List.map_map]
  refine congrArg (List.intercalate ['\n']) (List.map_congr_left fun cs _ => ?_)
  exact String.toList_ofList

/-! ## replies -/

variable {name : String} {timeout v : Value} {p : Process}

/-- a process that replies has ended, and its reply is what it printed -/
theorem reply_of_outcome {now : Instant} {stop : Option (Double × Stopped)}
    (h : (outcome now name timeout stop p).2 = .ok v) : v = .text (wholeText (p.bytes .results)) := by
  have hprinted := intercalate_lines p.written .results
  have hfinished (h : (finished name timeout p).2 = .ok v) :
      v = .text ("\n".intercalate (lines true p.written .results)) := by
    unfold finished at h
    dsimp only at h
    split_ifs at h <;> cases h <;> rfl
  rw [hprinted] at hfinished
  unfold outcome at h
  split at h
  · cases h
  · exact hfinished h

/-- whatever bytes a command writes: what it printed and what it complained of are the texts that all the
bytes write together, since bytes in front of a line feed and after it are read apart; and if it replies,
its reply is what it printed -/
theorem printed_whole :
    (∀ xs ys, characters (xs ++ 10 :: ys) = characters xs ++ '\n' :: characters ys) ∧
    (∀ (p : Process) (stream : Stream),
      "\n".intercalate (lines true p.written stream) = wholeText (p.bytes stream)) ∧
    ∀ (now : Instant) (cmd timeout : Value) (patience : Option Double) (prompt : String)
      (world : World) (v : Value),
      (reply now cmd timeout patience (.text prompt) world).outcome = .ok v →
        ∃ name args deadline p after, texts cmd = .ok (name, args) ∧
          start name args (Utf8.encode prompt) deadline world = .ok (p, after) ∧
          v = .text (wholeText (p.bytes .results)) := by
  refine ⟨characters_append_newline, fun p stream => intercalate_lines p.written stream, ?_⟩
  intro now cmd timeout patience prompt world v h
  unfold reply at h
  split at h
  · cases h
  · rename_i name args htexts
    dsimp only at h
    split at h
    · cases h
    · rename_i p after hstart
      split at h
      · cases h
      · refine ⟨name, args, _, p, after, htexts, hstart, ?_⟩
        split at h <;> exact reply_of_outcome h

/-- the command that prints a character whose two bytes are cut by a line feed, and a carriage return -/
def cutting : Value := .list [.text "printf", .text "\\303\\n\\251\\r"]

/-- the halves of a character are two ill-formed pieces, on a line each -/
theorem printed_whole_cut :
    (reply ⟨0, 0⟩ cutting .null none (.text "Go") {}).outcome = .ok (.text "\ufffd\n\ufffd") ∧
      ∃ name args deadline p after, texts cutting = .ok (name, args) ∧
        start name args (Utf8.encode "Go") deadline {} = .ok (p, after) ∧
        Value.text "\ufffd\n\ufffd" = .text (wholeText (p.bytes .results)) := by
  have hreply : (reply ⟨0, 0⟩ cutting .null none (.text "Go") {}).outcome =
      .ok (.text "\ufffd\n\ufffd") := by
    have hoption : (reply ⟨0, 0⟩ cutting .null none (.text "Go") {}).outcome.toOption =
        some (.text "\ufffd\n\ufffd") := by decide +kernel
    cases h : (reply ⟨0, 0⟩ cutting .null none (.text "Go") {}).outcome with
    | error e => rw [h] at hoption; cases hoption
    | ok v => rw [h] at hoption; exact congrArg Except.ok (Option.some.inj hoption)
  exact ⟨hreply, printed_whole.2.2 _ _ _ _ _ _ _ hreply⟩

end Command

end Debate
