import Debate.CommandLine.Session
import Debate.Proofs.Fitting
import Debate.Proofs.Leaving
import Debate.Proofs.Pieces

/-!
# Names that become part of a path

The name of a persona, of a profile or of a run is checked before a path is made with it. A name that is
let through is made of letters and digits of Basic Latin, low lines and hyphens; the check misses a line
feed at its end. Even so no slash is in such a name, and it does not start with a dot: the path lies
directly in the directory that it was made for, and a document of that name is looked for nowhere else.

* `Text.IsPlainName`      a text of such characters;
* `Text.IsAccepted`       a name that is let through;
* `Text.isName_iff`       those are the names that pass the check;
* `Text.isName_agrees_iff`   on which texts the check is a check for plain names;
* `Path.slash`            a path with a text behind it, whatever the text writes;
* `Path.LiesIn`           a path that lies directly in a directory;
* `Disk.Agree`            the same stands on two disks where some paths lead;
* `Loading.LooksAt`       a computation that looks at nothing else;
* `Library.AsksFor`       a document is asked for under a name, and read from its folders or not at all;
* `named_paths`           personas, profiles and runs.
-/

namespace Debate

open Debate.Files Debate.Text

variable {α β : Type}

/-! ## names -/

namespace Text

/-- the characters that names are made of -/
def nameLetters : List Char :=
  "ABCDEFGHIJKLMNOPQRSTUVWXYZabcdefghijklmnopqrstuvwxyz0123456789_-".toList

/-- a text of such characters, and of at least one -/
structure IsPlainName (s : String) : Prop where
  named : s ≠ ""
  letters : ∀ c ∈ s.toList, c ∈ nameLetters

/-- a name that is let through: a plain one, perhaps with a line feed behind it -/
def IsAccepted (s : String) : Prop := ∃ w, IsPlainName w ∧ (s = w ∨ s = w ++ "\n")

theorem toNat_lt_of_isAlphanum {c : Char} (h : c.isAlphanum = true) : c.toNat < 128 := by
  have hkinds : (decide (65 ≤ c.toNat ∧ c.toNat ≤ 90) || (decide (97 ≤ c.toNat) &&
      decide (c.toNat ≤ 122)) || (decide (48 ≤ c.toNat) && decide (c.toNat ≤ 57))) = true := h
  simp only [Bool.or_eq_true, Bool.and_eq_true, decide_eq_true_eq] at hkinds
  omega

theorem toNat_lt_of_isNameLetter {c : Char} (h : isNameLetter c = true) : c.toNat < 128 := by
  simp only [isNameLetter, Bool.or_eq_true, beq_iff_eq] at h
  rcases h with (h | rfl) | rfl
  · exact toNat_lt_of_isAlphanum h
  · decide
  · decide

theorem isNameLetter_iff {c : Char} : isNameLetter c = true ↔ c ∈ nameLetters := by
  have hlisted : nameLetters.all isNameLetter = true := by decide +kernel
  -- every character of a name is one of Basic Latin, and those can be gone through
  have hall : ∀ n < 128, isNameLetter (Char.ofNat n) = true → Char.ofNat n ∈ nameLetters := by
    decide +kernel
  refine ⟨fun h => ?_, List.all_eq_true.mp hlisted c⟩
  have hsmall : c.toNat < 128 := toNat_lt_of_isNameLetter h
  rw [← Char.ofNat_toNat c] at h ⊢
  exact hall c.toNat hsmall h

theorem dropFinalNewline_concat (cs : List Char) : dropFinalNewline (cs ++ ['\n']) = cs := by
  rw [dropFinalNewline, if_pos List.getLast?_concat, List.dropLast_concat]

theorem dropFinalNewline_of_not_mem {cs : List Char} (h : '\n' ∉ cs) : dropFinalNewline cs = cs :=
  if_neg fun hlast => h (List.mem_of_mem_getLast? hlast)

theorem eq_or_eq_of_dropFinalNewline (cs : List Char) :
    cs = dropFinalNewline cs ∨ cs = dropFinalNewline cs ++ ['\n'] := by
  rw [dropFinalNewline]
  split
  · rename_i hlast
    exact .inr (List.dropLast_append_getLast? _ hlast).symm
  · exact .inl rfl

theorem IsPlainName.newline_not_mem {w : String} (h : IsPlainName w) : '\n' ∉ w.toList := fun hmem =>
  absurd (h.letters _ hmem) (by decide +kernel)

/-- the names that pass the check are those that are plain, but for a line feed at the end -/
theorem isName_iff {s : String} : isName s = true ↔ IsAccepted s := by
  have hiff {w : String} (h : dropFinalNewline s.toList = w.toList) :
      isName s = true ↔ IsPlainName w := by
    rw [isName, h]
    simp only [Bool.and_eq_true, Bool.not_eq_true', List.isEmpty_eq_false_iff, List.all_eq_true,
      isNameLetter_iff]
    exact ⟨fun h => ⟨fun hnil => h.1 (by rw [hnil]; rfl), h.2⟩,
      fun h => ⟨fun hnil => h.named (String.toList_inj.mp hnil), h.letters⟩⟩
  constructor
  · intro h
    have hw : dropFinalNewline s.toList = (String.ofList (dropFinalNewline s.toList)).toList :=
      String.toList_ofList.symm
    refine ⟨String.ofList (dropFinalNewline s.toList), (hiff hw).mp h, ?_⟩
    rcases eq_or_eq_of_dropFinalNewline s.toList with hs | hs
    · exact .inl (String.toList_inj.mp (hs.trans hw))
    · refine .inr (String.toList_inj.mp ?_)
      rw [String.toList_append, ← hw]
      exact hs
  · rintro ⟨w, hw, rfl | rfl⟩
    · exact (hiff (dropFinalNewline_of_not_mem hw.newline_not_mem)).mpr hw
    · refine (hiff ?_).mpr hw
      rw [String.toList_append]
      exact dropFinalNewline_concat w.toList

theorem IsAccepted.named {s : String} (h : IsAccepted s) : s ≠ "" := by
  rintro rfl
  exact absurd (isName_iff.mpr h) (by decide)

theorem IsAccepted.not_mem {s : String} (h : IsAccepted s) {c : Char} (hc : c ∉ '\n' :: nameLetters) :
    c ∉ s.toList := by
  intro hmem
  rw [List.mem_cons, not_or] at hc
  obtain ⟨w, hw, rfl | rfl⟩ := h
  · exact hc.2 (hw.letters c hmem)
  · rw [String.toList_append] at hmem
    rcases List.mem_append.mp hmem with hmem | hmem
    · exact hc.2 (hw.letters c hmem)
    · exact hc.1 (List.mem_singleton.mp hmem)

/-- the check tells plain names from all other texts, but for those with a line feed behind one -/
theorem isName_agrees_iff {s : String} :
    (isName s = true ↔ IsPlainName s) ↔ ∀ w, IsPlainName w → s ≠ w ++ "\n" := by
  constructor
  · rintro h w hw rfl
    have hplain : IsPlainName (w ++ "\n") := h.mp (isName_iff.mpr ⟨w, hw, .inr rfl⟩)
    refine hplain.newline_not_mem ?_
    rw [String.toList_append]
    exact List.mem_append_right _ (by decide +kernel)
  · intro h
    refine ⟨fun hs => ?_, fun hs => isName_iff.mpr ⟨s, hs, .inl rfl⟩⟩
    obtain ⟨w, hw, rfl | hend⟩ := isName_iff.mp hs
    · exact hw
    · exact absurd hend (h w hw)

/-- a line feed at the end is not seen -/
theorem isName_lineFeed : isName "run\n" = true ∧ ¬ IsPlainName "run\n" :=
  ⟨by decide +kernel, fun h => h.newline_not_mem (by decide +kernel)⟩

end Text

/-! ## entries of a directory -/

namespace Files.Path

/-- a path with a text behind it: the names that the text writes come behind those of the path, unless the
text starts at the root -/
def slash (p : Path) (s : String) : Path := p.below (ofString s)

/-- a text that is the name of an entry in a directory, and leads nowhere else -/
structure IsEntry (s : String) : Prop where
  named : s ≠ ""
  here : s ≠ "."
  above : s ≠ ".."
  flat : '/' ∉ s.toList

/-- a path that lies directly in a directory: it is the directory with the name of a file behind it, and
leads to a place in the one that the directory leads to -/
structure LiesIn (p directory : Path) (file : String) : Prop where
  joined : p = directory.slash file
  parent : p.parent = directory
  name : p.name = file
  place : p.place = directory.place ++ [file]

theorem slash_of_isEntry (p : Path) {s : String} (h : IsEntry s) : p.slash s = p.child s := by
  have hpieces : split ['/'] s.toList = [s.toList] :=
    split_of_absent (by simp) fun hlies => h.flat (hlies.subset (List.mem_singleton_self _))
  have hroot : (ofString s).root = "" := by
    have hnone : s.toList.takeWhile (· = '/') = [] := by
      cases hs : s.toList with
      | nil => rfl
      | cons c cs =>
        have hc : c ≠ '/' := fun heq => h.flat (by rw [hs, heq]; exact List.mem_cons_self)
        rw [List.takeWhile_cons, decide_eq_false hc, if_neg Bool.false_ne_true]
    rw [ofString, rootOf, hnone]
  have hnames : (ofString s).names = [s] := by
    rw [ofString, hpieces]
    simp [h.named, h.here]
  rw [slash, below, if_pos hroot, hnames, child]

theorem liesIn_child (p : Path) {s : String} (h : IsEntry s) : (p.child s).LiesIn p s where
  joined := (p.slash_of_isEntry h).symm
  parent := p.parent_child s
  name := by rw [name, child, List.getLast?_concat, Option.getD_some]
  place := p.place_child h.above

/-- a name that is let through is that of an entry, whatever suffix is put behind it -/
theorem isEntry_of_isAccepted {s suffix : String} (h : IsAccepted s) (hflat : '/' ∉ suffix.toList) :
    IsEntry (s ++ suffix) := by
  obtain ⟨c, cs, hcs⟩ := List.exists_cons_of_ne_nil fun hnil => h.named (String.toList_inj.mp hnil)
  have hdot : c ≠ '.' := by
    rintro rfl
    have hpoint : '.' ∉ s.toList := h.not_mem (by decide +kernel)
    exact hpoint (by rw [hcs]; exact List.mem_cons_self)
  have hstart {t : String} (ht : t.toList.head? ≠ some c) : s ++ suffix ≠ t := by
    rintro rfl
    rw [String.toList_append, hcs] at ht
    exact ht rfl
  refine ⟨hstart nofun, hstart ?_, hstart ?_, ?_⟩
  · exact fun hc => hdot (Option.some.inj hc).symm
  · exact fun hc => hdot (Option.some.inj hc).symm
  · rw [String.toList_append, List.mem_append, not_or]
    exact ⟨h.not_mem (by decide +kernel), hflat⟩

end Files.Path

/-! ## what a computation looks at -/

namespace Files.Disk

/-- the same stands on two disks where some paths lead -/
def Agree (ps : List Path) (d d' : Disk) : Prop := ∀ p ∈ ps, d.tree.stat p = d'.tree.stat p

/-- what a computation gives depends on what stands where some paths lead, and on nothing else -/
def LooksAt (ps : List Path) (x : OnDisk α) : Prop :=
  ∀ d d', Agree ps d d' → (carriedOut x d).1 = (carriedOut x d').1

variable {ps : List Path} {p : Path}

theorem looksAt_pure (a : α) : LooksAt ps (pure a : OnDisk α) := fun _ _ _ => rfl

theorem looksAt_throw (e : Fault) : LooksAt ps (throw e : OnDisk α) := fun _ _ _ => rfl

theorem looksAt_lift (r : Except Fault α) : LooksAt ps (liftM r : OnDisk α) := fun d d' _ => by
  rw [carriedOut_lift, carriedOut_lift]

theorem LooksAt.bind {x : OnDisk α} {f : α → OnDisk β} (hx : LooksAt ps x) (hreads : Reads x)
    (hf : ∀ a, LooksAt ps (f a)) : LooksAt ps (x >>= f) := by
  intro d d' hd
  have hsame := hx d d' hd
  have hkept := hreads d
  have hkept' := hreads d'
  rw [carriedOut_bind, carriedOut_bind]
  rcases hrun : carriedOut x d with ⟨r, k⟩
  rcases hrun' : carriedOut x d' with ⟨r', k'⟩
  rw [hrun, hrun'] at hsame
  rw [hrun] at hkept
  rw [hrun'] at hkept'
  obtain rfl : r = r' := hsame
  obtain rfl : d = k := hkept
  obtain rfl : d' = k' := hkept'
  cases r with
  | error e => rfl
  | ok a => exact hf a d d' hd

theorem looksAt_look (hp : p ∈ ps) {f : Tree → Except FileError α}
    (hf : ∀ t t', t.stat p = t'.stat p → f t = f t') : LooksAt ps (look p f) := by
  intro d d' hd
  have hsame : f d.tree = f d'.tree := hf _ _ (hd p hp)
  rw [look, carriedOut_bind, carriedOut_bind, carriedOut_get, carriedOut_get]
  dsimp only
  rw [hsame]
  cases f d'.tree <;> rfl

theorem looksAt_exists (hp : p ∈ ps) : LooksAt ps («exists» p) := by
  rw [«exists»]
  split
  · exact looksAt_pure _
  · exact looksAt_look hp fun t t' h => by rw [exists?, exists?, h]

theorem looksAt_read (hp : p ∈ ps) : LooksAt ps (read p) := by
  rw [read]
  split
  · exact looksAt_throw _
  · exact looksAt_look hp fun t t' h => by rw [h]

theorem looksAt_readPresent (hp : p ∈ ps) : LooksAt ps (readPresent p) :=
  (looksAt_read hp).bind (reads_read p) fun _ => looksAt_lift _

theorem looksAt_readText (hp : p ∈ ps) : LooksAt ps (readText p) := by
  refine (looksAt_exists hp).bind (moves_exists p) fun b => ?_
  split
  · exact looksAt_readPresent hp
  · exact looksAt_pure _

theorem looksAt_readRecord (hp : p ∈ ps) : LooksAt ps (readRecord p) := by
  refine (looksAt_exists hp).bind (moves_exists p) fun b => ?_
  split
  · refine (looksAt_readPresent hp).bind (reads_readPresent p) fun s => ?_
    split
    · exact looksAt_pure _
    · exact looksAt_pure _
    · exact looksAt_throw _
  · exact looksAt_pure _

theorem looksAt_readRecordOr (hp : p ∈ ps) (default : Value) : LooksAt ps (readRecordOr p default) := by
  refine (looksAt_readRecord hp).bind (reads_readRecord p) fun r => ?_
  split <;> exact looksAt_pure _

end Files.Disk

namespace Loading

/-- what is loaded depends on what stands where some paths lead, and on nothing else -/
def LooksAt (ps : List Path) (x : Loading α) : Prop :=
  ∀ d d', Disk.Agree ps d d' → given x d = given x d'

theorem looksAt_readRecordOr {ps : List Path} {p : Path} (hp : p ∈ ps) (default : Value) :
    LooksAt ps (readRecordOr p default) := by
  intro d d' hd
  have hread := Disk.looksAt_readRecordOr hp default d d' hd
  have hgiven (d : Disk) : given (readRecordOr p default) d =
      (carriedOut (Disk.readRecordOr p default) d).1 >>= fun r => .ok r.1 := by
    refine (given_bind (reads_onDisk (Disk.reads_readRecordOr p default))
      (fun r => (reads_warnings r.2).1.bind fun _ => reads_pure _) d).trans ?_
    refine congrArg _ (funext fun r => ?_)
    refine (given_bind (reads_warnings r.2).1 (fun _ => reads_pure _) d).trans ?_
    rw [(reads_warnings r.2).2 d]
    rfl
  rw [hgiven, hgiven, hread]

end Loading

/-! ## documents -/

/-- a document in a file that is there depends on what stands there only -/
theorem Document.given_load_congr {ps : List Path} {p : Path} (hp : p ∈ ps) {d d' : Disk}
    (hd : Disk.Agree ps d d') (hthere : (carriedOut (Disk.exists p) d).1 = .ok true) :
    Loading.given (load p) d = Loading.given (load p) d' := by
  have hthere' : (carriedOut (Disk.exists p) d').1 = .ok true :=
    (Disk.looksAt_exists hp d d' hd).symm.trans hthere
  rw [given_load hthere, given_load hthere', Disk.looksAt_readText hp d d' hd]

namespace Library

open Loading

/-- the files in which a document may stand, their paths put together as they are written -/
def files (l : Library) (folder file : String) : List Path :=
  (l.state :: l.shared.toList).map fun d => (d.slash folder).slash file

/-- a document is asked for under a name. Unless the name is let through, nothing is done but report it.
Otherwise the files of that name lie directly in the folder for such documents, and what is given is read
from the first of them that is there; nothing else is looked at -/
def AsksFor (l : Library) (kind folder suffix : String) (name : Value) (load : Path → Loading α)
    (absent : α) (x : Loading α) : Prop :=
  (∃ e, (∀ s, name = .text s → ¬ IsAccepted s ∧ e = .configuration (badName kind s)) ∧
    ∀ k, carriedOut x k = (.error e, k)) ∨
  ∃ s, name = .text s ∧ IsAccepted s ∧
    (∀ d ∈ l.state :: l.shared.toList,
      ((d.slash folder).slash (s ++ suffix)).LiesIn (d.slash folder) (s ++ suffix)) ∧
    Reads x ∧ LooksAt (l.files folder (s ++ suffix)) x ∧
    ∀ d, given x d = (carriedOut (firstPresent? (l.files folder (s ++ suffix))) d).1 >>= fun found =>
      found.elim (.ok absent) fun p => given (load p) d

variable {ps qs : List Path} {l : Library} {folder file : String} {load : Path → Loading α} {absent : α}
  {x : Loading α}

theorem looksAt_firstPresent? (h : ps ⊆ qs) : Disk.LooksAt qs (firstPresent? ps) := by
  induction ps with
  | nil => exact Disk.looksAt_pure _
  | cons p ps ih =>
    refine (Disk.looksAt_exists (h List.mem_cons_self)).bind (Disk.moves_exists p) fun b => ?_
    split
    · exact Disk.looksAt_pure _
    · exact ih fun q hq => h (List.mem_cons_of_mem p hq)

/-- what is read from the first file that is there depends on the files only, if what is read from each
does -/
theorem looksAt_of_first
    (hx : ∀ d, given x d = (carriedOut (firstPresent? ps) d).1 >>= fun found =>
      found.elim (.ok absent) fun p => given (load p) d)
    (hload : ∀ p ∈ ps, ∀ d d', Disk.Agree ps d d' → (carriedOut (Disk.exists p) d).1 = .ok true →
      given (load p) d = given (load p) d') : LooksAt ps x := by
  intro d d' hd
  rw [hx, hx, ← looksAt_firstPresent? (List.Subset.refl ps) d d' hd]
  cases hfound : (carriedOut (firstPresent? ps) d).1 with
  | error e => rfl
  | ok found =>
    cases found with
    | none => rfl
    | some p =>
      obtain ⟨hmem, hthere⟩ := firstPresent?_spec hfound
      exact hload p hmem d d' hd hthere

theorem given_find?_eq (hfolder : Path.IsEntry folder) (hfile : Path.IsEntry file) (d : Disk) :
    given (l.find? folder file) d = (carriedOut (firstPresent? (l.files folder file)) d).1 := by
  have hfiles : l.files folder file = (l.state :: l.shared.toList).map fun d => fileIn d folder file :=
    List.map_congr_left fun d _ => by
      rw [Path.slash_of_isEntry d hfolder, Path.slash_of_isEntry _ hfile, fileIn]
  rw [hfiles]
  rfl

/-- a name that does not pass the check is reported -/
theorem checkedName_cases (kind : String) (name : Value) :
    (∃ e, checkedName kind name = .error e ∧
      ∀ s, name = .text s → ¬ IsAccepted s ∧ e = .configuration (badName kind s)) ∨
    ∃ s, name = .text s ∧ isName s = true := by
  cases name with
  | text s =>
    by_cases hs : isName s = true
    · exact .inr ⟨s, rfl, hs⟩
    · refine .inl ⟨_, if_neg hs, ?_⟩
      rintro _ ⟨⟩
      exact ⟨fun h => hs (isName_iff.mpr h), rfl⟩
  | _ => exact .inl ⟨_, rfl, nofun⟩

/-- a document is asked for in this way if its name is checked and its file looked for -/
theorem asksFor_of_find? {kind suffix : String} {name : Value} (hfolder : Path.IsEntry folder)
    (hsuffix : '/' ∉ suffix.toList) (hreads : Reads x)
    (hrefused : ∀ e, checkedName kind name = .error e → ∀ k, carriedOut x k = (.error e, k))
    (hgiven : ∀ s, name = .text s → isName s = true → ∀ d, given x d =
      given (l.find? folder (s ++ suffix)) d >>= fun found =>
        found.elim (.ok absent) fun p => given (load p) d)
    (hload : ∀ ps, ∀ p ∈ ps, ∀ d d', Disk.Agree ps d d' →
      (carriedOut (Disk.exists p) d).1 = .ok true → given (load p) d = given (load p) d') :
    l.AsksFor kind folder suffix name load absent x := by
  rcases checkedName_cases kind name with ⟨e, herror, he⟩ | ⟨s, hname, hs⟩
  · exact .inl ⟨e, he, hrefused e herror⟩
  have haccepted : IsAccepted s := isName_iff.mp hs
  have hfile : Path.IsEntry (s ++ suffix) := Path.isEntry_of_isAccepted haccepted hsuffix
  have hfirst (d : Disk) : given x d =
      (carriedOut (firstPresent? (l.files folder (s ++ suffix))) d).1 >>= fun found =>
        found.elim (.ok absent) fun p => given (load p) d := by
    rw [← given_find?_eq hfolder hfile]
    exact hgiven s hname hs d
  refine .inr ⟨s, hname, haccepted, fun d _ => ?_, hreads, looksAt_of_first hfirst (hload _), hfirst⟩
  rw [Path.slash_of_isEntry _ hfile]
  exact Path.liesIn_child _ hfile

theorem asksFor_persona (l : Library) (name : Value) :
    l.AsksFor "persona" "personas" ".md" name Document.load {} (l.persona name) := by
  refine asksFor_of_find? ⟨by decide, by decide, by decide, by decide⟩ (by decide) (reads_persona l name)
    (fun e he k => ?_) (fun s hname hs d => ?_) fun _ p hp d d' hd => Document.given_load_congr hp hd
  · rw [persona, he]
    rfl
  · rw [hname]
    refine (given_persona hs).trans (congrArg _ (funext fun found => ?_))
    cases found <;> rfl

theorem given_profile {s : String} (hs : isName s = true) (d : Disk) :
    given (l.profile s) d = do
      match ← given (l.find? "profiles" (s ++ ".json")) d with
      | some p => given (Loading.readRecordOr p (.object [])) d
      | none => return .object [] := by
  have hfound (found : Option Path) : Reads (match found with
      | some p => Loading.readRecordOr p (.object [])
      | none => do
        Loading.log .warning ("Profile '" ++ s ++ "' not found")
        return .object []) := by
    cases found with
    | none => exact (reads_log _ _).bind fun _ => reads_pure _
    | some p => exact reads_readRecordOr p _
  have hchecked : checkedName "profile" (.text s) = .ok s := if_pos hs
  have hpassed : given (l.profile s) d = given (do
      match ← l.find? "profiles" (s ++ ".json") with
      | some p => Loading.readRecordOr p (.object [])
      | none => do
        Loading.log .warning ("Profile '" ++ s ++ "' not found")
        return .object []) d := by
    rw [profile, hchecked]
    rfl
  rw [hpassed]
  refine (given_bind (reads_find? l _ _) hfound d).trans (congrArg _ (funext fun found => ?_))
  cases found <;> rfl

theorem asksFor_profile (l : Library) (s : String) :
    l.AsksFor "profile" "profiles" ".json" (.text s)
      (fun p => Loading.readRecordOr p (.object [])) (.object []) (l.profile s) := by
  refine asksFor_of_find? ⟨by decide, by decide, by decide, by decide⟩ (by decide)
    (Configured.reads_profile l s) (fun e he k => ?_) (fun t hname ht d => ?_)
    fun _ p hp d d' hd _ => looksAt_readRecordOr hp _ d d' hd
  · rw [profile, he]
    rfl
  · obtain rfl : s = t := Value.text.inj hname
    refine (given_profile ht d).trans (congrArg _ (funext fun found => ?_))
    cases found <;> rfl

end Library

/-! ## runs -/

namespace CommandLine.Session

/-- a debate under the lock: unless the state directory can be secured and the name of the run is let
through, this is reported and nothing else is done; otherwise the debate is led in a directory of that
name, which lies directly in the one for runs -/
def RunsUnder (s : Session) (a : Arguments) (settings : Settings) (state : Path) : Prop :=
  let name := nameOf a s.supply.now
  let secured := carriedOut (onDisk (Disk.ensureSecure state)) s
  let run := carriedOut (debateLocked a settings state) s
  (∃ e, secured.1 = .error e ∧ run = (.error e, secured.2)) ∨
  (¬ IsAccepted name ∧ run = (.error (.configuration (badName "run" name)), secured.2)) ∨
  (IsAccepted name ∧ (runPath state name).LiesIn (state.slash "runs") name ∧
    run = carriedOut (debateIn a settings (runPath state name) name) secured.2)

theorem liesIn_runPath (state : Path) {name : String} (h : IsAccepted name) :
    (runPath state name).LiesIn (state.slash "runs") name := by
  have hentry : Path.IsEntry (name ++ "") := Path.isEntry_of_isAccepted h (by decide)
  rw [String.append_empty] at hentry
  rw [runPath, Path.slash_of_isEntry state ⟨by decide, by decide, by decide, by decide⟩]
  exact Path.liesIn_child _ hentry

theorem runsUnder (s : Session) (a : Arguments) (settings : Settings) (state : Path) :
    s.RunsUnder a settings state := by
  have hsupply : (carriedOut (onDisk (Disk.ensureSecure state)) s).2.supply = s.supply := rfl
  rw [RunsUnder]
  rcases hsecured : carriedOut (onDisk (Disk.ensureSecure state)) s with ⟨e | u, s'⟩
  · exact .inl ⟨e, rfl, carriedOut_bind_error hsecured _⟩
  right
  rw [hsecured] at hsupply
  have hrest : carriedOut (debateLocked a settings state) s = carriedOut (do
      if !isName (nameOf a s.supply.now) then
        throw (.configuration (badName "run" (nameOf a s.supply.now)))
      debateIn a settings (runPath state (nameOf a s.supply.now)) (nameOf a s.supply.now)) s' := by
    refine (carriedOut_bind_ok hsecured _).trans ((carriedOut_bind_ok (carriedOut_get s') _).trans ?_)
    rw [hsupply]
  rw [hrest]
  by_cases hname : isName (nameOf a s.supply.now) = true
  · have haccepted := isName_iff.mp hname
    refine .inr ⟨haccepted, liesIn_runPath state haccepted, ?_⟩
    rw [hname]
    rfl
  · refine .inl ⟨fun h => hname (isName_iff.mpr h), ?_⟩
    rw [Bool.eq_false_iff.mpr hname]
    rfl

end CommandLine.Session

/-- the names that are let through are the plain ones, but for a line feed at the end; and whatever is done
under such a name is done in an entry of the directory for personas, for profiles or for runs -/
theorem named_paths (s : String) (l : Library) (name : Value) (a : CommandLine.Arguments)
    (settings : Settings) (state : Path) (session : CommandLine.Session) :
    ((isName s = true ↔ IsAccepted s) ∧
      ((isName s = true ↔ IsPlainName s) ↔ ∀ w, IsPlainName w → s ≠ w ++ "\n")) ∧
    l.AsksFor "persona" "personas" ".md" name Document.load {} (l.persona name) ∧
    l.AsksFor "profile" "profiles" ".json" (.text s)
      (fun p => Loading.readRecordOr p (.object [])) (.object []) (l.profile s) ∧
    session.RunsUnder a settings state :=
  ⟨⟨isName_iff, isName_agrees_iff⟩, l.asksFor_persona name, l.asksFor_profile s,
    session.runsUnder a settings state⟩

end Debate
