import Debate.Proofs.Moving

/-!
# What a file holds while others are written

A path leads to one place or to none, whatever the tree is like. So the bytes of a file are those at
its place, and a step on the disk leaves them as they are unless it goes to that place. A line that is
added to a file stands behind what was there.

* `Path.place`                 the place of a path, if it leads anywhere;
* `Tree.bytesAt`               the bytes of the file at a place;
* `Disk.Leaves`                a computation that leaves the bytes at a place as they are;
* `Disk.leaves_replaceWith`    a file that is written leaves the others as they are;
* `Disk.bytesAt_of_appendRecord`, `Disk.bytesAt_of_writeContent`   what was written is there.
-/

namespace Debate.Files

open Debate.Text

/-! ## places -/

/-- where a name leads from a place -/
def stepInto (here : Place) (name : String) : Place :=
  if name = ".." then here.dropLast else here ++ [name]

/-- the place that a path leads to, if it leads anywhere -/
def Path.place (p : Path) : Place := p.names.foldl stepInto []

theorem Path.place_child (p : Path) {name : String} (hname : name ≠ "..") :
    (p.child name).place = p.place ++ [name] := by
  have hstep : stepInto p.place name = p.place ++ [name] := if_neg hname
  rw [Path.place, Path.child, List.foldl_append, List.foldl_cons, List.foldl_nil]
  exact hstep

theorem Path.place_child_ne (p : Path) {name name' : String} (hname : name ≠ "..")
    (hname' : name' ≠ "..") (h : name ≠ name') : (p.child name).place ≠ (p.child name').place := by
  rw [p.place_child hname, p.place_child hname']
  exact fun hplaces => h (List.singleton_inj.mp (List.append_cancel_left hplaces))

/-- a file whose name does not start with a dot is none of those that another one is written by way
of -/
theorem Path.place_child_ne_beside (p : Path) {name name' : String}
    (hdot : name.toList.head? ≠ some '.') (n : Nat) : (p.child name).place ≠
      ((p.child name').parent.child (Disk.besideName (p.child name').name n)).place := by
  have hbeside : (Disk.besideName (p.child name').name n).toList.head? = some '.' := by
    rw [Disk.besideName, String.toList_append, String.toList_append, String.toList_append]
    rfl
  rw [Path.parent_child]
  refine p.place_child_ne (fun h => ?_) (Disk.besideName_ne _ n) fun h => hdot (h ▸ hbeside)
  exact hdot (h ▸ by decide +kernel)

namespace Tree

variable {t : Tree} {p q : Place}

theorem place_of_resolveFrom {names : List String} {here : Place}
    (h : t.resolveFrom here names = .ok p) : p = names.foldl stepInto here := by
  induction names generalizing here with
  | nil => exact (Except.ok.inj h).symm
  | cons name names ih =>
    rw [List.foldl_cons, stepInto]
    rw [resolveFrom] at h
    split at h
    · split at h
      · rename_i hname
        rw [if_pos hname]
        exact ih h
      · rename_i hname
        rw [if_neg hname]
        split at h
        · cases h
        · exact ih h
    · cases h
    · cases h

theorem place_of_resolve {path : Path} (h : t.resolve path = .ok p) : p = path.place := by
  rw [resolve] at h
  split at h
  · exact place_of_resolveFrom h
  · cases h

/-! ## bytes -/

/-- the bytes of the file at a place; none if no file stands there -/
def bytesAt (t : Tree) (q : Place) : List UInt8 :=
  match t.get? q with
  | some (.file bytes) => bytes
  | _ => []

theorem bytesAt_of_get? {bytes : List UInt8} (h : t.get? q = some (.file bytes)) :
    t.bytesAt q = bytes := by
  rw [bytesAt, h]

theorem bytesAt_of_stat {path : Path} {bytes : List UInt8} (h : t.stat path = .ok (.file bytes)) :
    t.bytesAt path.place = bytes := by
  obtain ⟨place, hresolve, hget⟩ := stat_eq_ok_iff.mp h
  rw [← place_of_resolve hresolve]
  exact bytesAt_of_get? hget

theorem bytesAt_nil (t : Tree) : t.bytesAt [] = [] := rfl

theorem bytesAt_put_of_ne (h : q ≠ p) (n : Node) : (t.put p n).bytesAt q = t.bytesAt q := by
  by_cases hq : q = []
  · rw [hq, bytesAt_nil, bytesAt_nil]
  · rw [bytesAt, bytesAt, get?_put t n hq, if_neg h]

theorem bytesAt_remove_of_ne (h : q ≠ p) : (t.remove p).bytesAt q = t.bytesAt q := by
  by_cases hq : q = []
  · rw [hq, bytesAt_nil, bytesAt_nil]
  · rw [bytesAt, bytesAt, get?_remove t hq, if_neg h]

/-- something without bytes, put where nothing stands, changes no bytes -/
theorem bytesAt_put_of_none {n : Node} (hp : t.get? p = none) (hn : ∀ bytes, n = .file bytes → bytes = [])
    (q : Place) : (t.put p n).bytesAt q = t.bytesAt q := by
  by_cases h : q = p
  · have hq : q ≠ [] := by
      rintro rfl
      rw [← h] at hp
      cases hp
    rw [bytesAt, bytesAt, get?_put t n hq, if_pos h, h, hp]
    cases n with
    | file bytes => exact hn bytes rfl
    | directory ownerOnly => rfl
  · exact bytesAt_put_of_ne h n

end Tree

namespace Disk

/-- a step at the place of its path keeps what it keeps where it goes well, if that is kept by the
passing of an outage, too -/
theorem moves_stepAt {R : Disk → Disk → Prop} {p : Path} {g : Tree → Place → Except FileError Tree}
    (hrefl : ∀ d, R d d) (houtage : ∀ d : Disk, R d { d with outages := d.outages.tail })
    (h : ∀ (d : Disk) t', isUnspeakable p = false → d.tree.resolve p = .ok p.place →
      g d.tree p.place = .ok t' → R d { tree := t', outages := d.outages.tail }) :
    Moves R (step p fun t => t.resolve p >>= g t) := by
  refine moves_step hrefl houtage fun d t' hp ht => ?_
  cases hr : d.tree.resolve p with
  | error e =>
    rw [hr] at ht
    cases ht
  | ok place =>
    rw [hr, Tree.place_of_resolve hr] at ht
    exact h d t' hp (Tree.place_of_resolve hr ▸ hr) ht

/-- what is known of a step at the place of its path that went well -/
theorem of_stepAt {p : Path} {d d' : Disk} {g : Tree → Place → Except FileError Tree}
    (h : carriedOut (step p fun t => t.resolve p >>= g t) d = (.ok (), d')) :
    d.tree.resolve p = .ok p.place ∧ g d.tree p.place = .ok d'.tree := by
  obtain ⟨-, hstep⟩ := of_step h
  cases hr : d.tree.resolve p with
  | error e =>
    rw [hr] at hstep
    exact nomatch hstep
  | ok place =>
    rw [hr] at hstep
    obtain rfl := Tree.place_of_resolve hr
    exact ⟨rfl, hstep⟩

/-! ## computations that leave the bytes at a place -/

/-- the bytes at a place are the same on two disks -/
def SameBytes (q : Place) (d d' : Disk) : Prop := d'.tree.bytesAt q = d.tree.bytesAt q

instance (q : Place) : Std.Refl (SameBytes q) := ⟨fun _ => rfl⟩

instance (q : Place) : IsTrans Disk (SameBytes q) := ⟨fun _ _ _ h h' => h'.trans h⟩

/-- a computation that leaves the bytes at a place as they are, however it ends -/
def Leaves {α : Type} (q : Place) (x : OnDisk α) : Prop :=
  ∀ d : Disk, (carriedOut x d).2.tree.bytesAt q = d.tree.bytesAt q

section

variable {α β : Type} {q : Place}

theorem leaves_iff_moves {x : OnDisk α} : Leaves q x ↔ Moves (SameBytes q) x := Iff.rfl

theorem leaves_pure (a : α) : Leaves q (pure a : OnDisk α) := fun _ => rfl

theorem leaves_throw (e : Fault) : Leaves q (throw e : OnDisk α) := fun _ => rfl

theorem leaves_get : Leaves q (get : OnDisk Disk) := fun _ => rfl

theorem leaves_lift (r : Except Fault α) : Leaves q (liftM r : OnDisk α) := fun d => by
  rw [carriedOut_lift]

theorem Leaves.bind {x : OnDisk α} {f : α → OnDisk β} (hx : Leaves q x) (hf : ∀ a, Leaves q (f a)) :
    Leaves q (x >>= f) :=
  Moves.bind (R := SameBytes q) hx hf

theorem Leaves.attempt {x : OnDisk α} (hx : Leaves q x) : Leaves q (attempt x) := hx

theorem leaves_exists (p : Path) : Leaves q («exists» p) := leaves_iff_moves.mpr (moves_exists p)

/-- a step at the place of its path leaves what it leaves where it goes well -/
theorem leaves_stepAt {p : Path} {g : Tree → Place → Except FileError Tree}
    (h : ∀ t t', g t p.place = .ok t' → t'.bytesAt q = t.bytesAt q) :
    Leaves q (step p fun t => t.resolve p >>= g t) :=
  leaves_iff_moves.mpr (moves_stepAt (fun _ => rfl) (fun _ => rfl) fun d t' _ _ ht => h d.tree t' ht)

theorem leaves_makeDirectory (p : Path) : Leaves q (makeDirectory p) := by
  refine leaves_stepAt fun t t' h => ?_
  split at h
  · cases h
  · rename_i hn
    rw [← Except.ok.inj h]
    exact Tree.bytesAt_put_of_none hn (fun bytes hb => by cases hb) q

theorem leaves_create (p : Path) : Leaves q (create p) := by
  refine leaves_stepAt fun t t' h => ?_
  split at h
  · cases h
  · rename_i hn
    rw [← Except.ok.inj h]
    exact Tree.bytesAt_put_of_none hn (fun bytes hb => (Node.file.inj hb).symm) q

theorem leaves_fill {p : Path} (hq : q ≠ p.place) (bytes : List UInt8) : Leaves q (fill p bytes) := by
  refine leaves_stepAt fun t t' h => ?_
  split at h
  · rw [← Except.ok.inj h]
    exact Tree.bytesAt_put_of_ne hq _
  · cases h
  · cases h

theorem leaves_append {p : Path} (hq : q ≠ p.place) (bytes : List UInt8) :
    Leaves q (append p bytes) := by
  refine leaves_stepAt fun t t' h => ?_
  split at h
  · rw [← Except.ok.inj h]
    exact Tree.bytesAt_put_of_ne hq _
  · cases h
  · rw [← Except.ok.inj h]
    exact Tree.bytesAt_put_of_ne hq _

theorem leaves_remove {p : Path} (hq : q ≠ p.place) : Leaves q (remove p) := by
  refine leaves_stepAt fun t t' h => ?_
  split at h
  · rw [← Except.ok.inj h]
    exact Tree.bytesAt_remove_of_ne hq
  · cases h
  · cases h

theorem leaves_rename {p p' : Path} (hq : q ≠ p.place) (hq' : q ≠ p'.place) :
    Leaves q (rename p p') := by
  refine leaves_stepAt fun t t' h => ?_
  cases htarget : t.resolve p' with
  | error e =>
    simp only [htarget, bind, Except.bind] at h
    cases h
  | ok target =>
    have ht : q ≠ target := Tree.place_of_resolve htarget ▸ hq'
    simp only [htarget, bind, Except.bind] at h
    split at h
    · cases h
    split at h
    · cases h
    · rw [← Except.ok.inj h, Tree.bytesAt_put_of_ne ht, Tree.bytesAt_remove_of_ne hq]
    · cases h

/-! ## directories and whole files -/

theorem leaves_ensureDirectory (p : Path) : Leaves q (ensureDirectory p) :=
  leaves_iff_moves.mpr (moves_ensureDirectory fun _ _ => leaves_makeDirectory _)

/-- what is written to a file leaves the other files as they are -/
theorem leaves_replaceWith {p : Path} (hq : q ≠ p.place)
    (hbeside : ∀ n, q ≠ (p.parent.child (besideName p.name n)).place)
    (content : Except Fault (List UInt8)) : Leaves q (replaceWith p content) := by
  refine (leaves_ensureDirectory _).bind fun _ => leaves_get.bind fun d => ?_
  have hfree : q ≠ (besidePath d.tree p).place := hbeside _
  generalize besidePath d.tree p = beside at hfree
  refine (leaves_create beside).bind fun _ => ?_
  have hfilled : Leaves q (do
      fill beside (← content)
      rename beside p) :=
    (leaves_lift content).bind fun bytes =>
      (leaves_fill hfree bytes).bind fun _ => leaves_rename hfree hq
  refine hfilled.attempt.bind fun r => ?_
  split
  · exact leaves_pure ()
  · refine (leaves_exists beside).bind fun b => ?_
    split
    · exact (leaves_remove hfree).bind fun _ => leaves_throw _
    · exact leaves_throw _

end

/-! ## what was written -/

theorem bytesAt_of_append {p : Path} {bytes : List UInt8} {d d' : Disk}
    (h : carriedOut (append p bytes) d = (.ok (), d')) :
    d'.tree.bytesAt p.place = d.tree.bytesAt p.place ++ bytes := by
  obtain ⟨-, hf⟩ := of_step h
  cases hr : d.tree.resolve p with
  | error e =>
    simp only [hr, bind, Except.bind] at hf
    cases hf
  | ok place =>
    have hput (new : List UInt8) (hplace : d.tree.isDirectory place = false) :
        (d.tree.put place (.file new)).bytesAt place = new := by
      have hne : place ≠ [] := Tree.ne_nil_of_isDirectory hplace
      exact Tree.bytesAt_of_get? ((Tree.get?_put _ _ hne).trans (if_pos rfl))
    rw [← Tree.place_of_resolve hr]
    simp only [hr, bind, Except.bind] at hf
    rcases hn : d.tree.get? place with _ | old | ownerOnly
    · simp only [hn] at hf
      have hnone : d.tree.bytesAt place = [] := by rw [Tree.bytesAt, hn]
      rw [← Except.ok.inj hf, hput _ (by rw [Tree.isDirectory, hn]), hnone, List.nil_append]
    · simp only [hn] at hf
      rw [← Except.ok.inj hf, hput _ (by rw [Tree.isDirectory, hn]), Tree.bytesAt_of_get? hn]
    · simp only [hn] at hf
      cases hf

/-- a value that was added to a file stands behind what was there, as one more line -/
theorem bytesAt_of_appendRecord {p : Path} {v : Value} {d d' : Disk}
    (h : carriedOut (appendRecord p v) d = (.ok (), d')) :
    d'.tree.bytesAt p.place = d.tree.bytesAt p.place ++ Utf8.encode (recordLine v) := by
  obtain ⟨⟨⟩, d₁, hmake, h⟩ := exists_of_carriedOut_bind h
  obtain ⟨line, d₂, hline, happend⟩ := exists_of_carriedOut_bind h
  have hleft : d₁.tree.bytesAt p.place = d.tree.bytesAt p.place := by
    have hleaves := leaves_ensureDirectory (q := p.place) p.parent d
    rwa [hmake] at hleaves
  rw [carriedOut_lift, written] at hline
  split at hline
  · cases hline
  · cases hline
    rw [bytesAt_of_append happend, hleft]

/-- only what can be turned into bytes is written -/
theorem exists_of_replaceWith {p : Path} {content : Except Fault (List UInt8)} {d d' : Disk}
    (h : carriedOut (replaceWith p content) d = (.ok (), d')) : ∃ bytes, content = .ok bytes := by
  cases content with
  | ok bytes => exact ⟨bytes, rfl⟩
  | error e =>
    unfold replaceWith at h
    obtain ⟨-, d₁, -, h⟩ := exists_of_carriedOut_bind h
    rw [carriedOut_bind_ok (carriedOut_get d₁)] at h
    dsimp only at h
    obtain ⟨⟨⟩, d₂, -, h⟩ := exists_of_carriedOut_bind h
    generalize besidePath d₁.tree p = beside at h
    have hfilled : carriedOut (do
        fill beside (← (.error e : Except Fault (List UInt8)))
        rename beside p) d₂ = (.error e, d₂) := carriedOut_bind_error (carriedOut_lift _ d₂) _
    rw [carriedOut_bind_ok (carriedOut_attempt _ d₂), hfilled] at h
    obtain ⟨b, d₃, -, h⟩ := exists_of_carriedOut_bind h
    cases b
    · cases h
    · obtain ⟨-, d₄, -, h⟩ := exists_of_carriedOut_bind h
      cases h

theorem text_of_writeContent {p : Path} {v : Value} {d d' : Disk}
    (h : carriedOut (writeContent p v) d = (.ok (), d')) : ∃ t, v = .text t := by
  obtain ⟨bytes, hbytes⟩ := exists_of_replaceWith h
  cases v with
  | text t => exact ⟨t, rfl⟩
  | _ => cases hbytes

theorem leaves_appendRecord {p : Path} {q : Place} (hq : q ≠ p.place) (v : Value) :
    Leaves q (appendRecord p v) :=
  (leaves_ensureDirectory _).bind fun _ => (leaves_lift _).bind fun _ => leaves_append hq _

/-- a text that was put in a file is what the file holds -/
theorem bytesAt_of_writeContent {p : Path} {name : String} {s : String} {d d' : Disk}
    (h : carriedOut (writeContent (p.child name) (.text s)) d = (.ok (), d')) :
    d'.tree.bytesAt (p.child name).place = Utf8.encode s :=
  Tree.bytesAt_of_stat (stat_of_replaceWith h).2

end Disk

end Debate.Files
