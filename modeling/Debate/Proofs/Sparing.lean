import Debate.Proofs.Leaving

/-!
# What stands in a file when a write fails

A file is written by way of another one, and takes its place in one step. If any step on the way fails,
the file stands as it stood before, or is missing as before.

* `Tree.fileAt?`                     the bytes of the file at a place, if one stands there;
* `Disk.Spares`                      a computation that leaves the file at a place as it is;
* `Disk.fileAt?_of_writeContent`     what stands in a file that was written;
* `Disk.fileAt?_of_replaceWith_error`   what stands in a file that could not be written.
-/

namespace Debate.Files

open Debate.Text

namespace Tree

variable {t : Tree} {p q : Place}

/-- the bytes of the file at a place, if one stands there -/
def fileAt? (t : Tree) (q : Place) : Option (List UInt8) :=
  match t.get? q with
  | some (.file bytes) => some bytes
  | _ => none

theorem fileAt?_nil (t : Tree) : t.fileAt? [] = none := rfl

theorem fileAt?_put_of_ne (h : q ≠ p) (n : Node) : (t.put p n).fileAt? q = t.fileAt? q := by
  by_cases hq : q = []
  · rw [hq, fileAt?_nil, fileAt?_nil]
  · rw [fileAt?, fileAt?, get?_put t n hq, if_neg h]

theorem fileAt?_remove_of_ne (h : q ≠ p) : (t.remove p).fileAt? q = t.fileAt? q := by
  by_cases hq : q = []
  · rw [hq, fileAt?_nil, fileAt?_nil]
  · rw [fileAt?, fileAt?, get?_remove t hq, if_neg h]

theorem fileAt?_put_directory (hp : t.get? p = none) (b : Bool) (q : Place) :
    (t.put p (.directory b)).fileAt? q = t.fileAt? q := by
  by_cases h : q = p
  · have hq : q ≠ [] := by
      rintro rfl
      rw [← h] at hp
      cases hp
    rw [fileAt?, fileAt?, get?_put t _ hq, if_pos h, h, hp]
  · exact fileAt?_put_of_ne h _

theorem fileAt?_of_stat {path : Path} {bytes : List UInt8} (h : t.stat path = .ok (.file bytes)) :
    t.fileAt? path.place = some bytes := by
  obtain ⟨place, hresolve, hget⟩ := stat_eq_ok_iff.mp h
  rw [← place_of_resolve hresolve, fileAt?, hget]

end Tree

namespace Disk

theorem tree_of_step_error {p : Path} {f : Tree → Except FileError Tree} {d d' : Disk} {e : Fault}
    (h : carriedOut (step p f) d = (.error e, d')) : d'.tree = d.tree := by
  rw [carriedOut_step] at h
  split at h
  · cases h
    rfl
  · split at h <;> cases h <;> rfl

/-! ## computations that leave the file at a place -/

def SameFile (q : Place) (d d' : Disk) : Prop := d'.tree.fileAt? q = d.tree.fileAt? q

instance (q : Place) : Std.Refl (SameFile q) := ⟨fun _ => rfl⟩

instance (q : Place) : IsTrans Disk (SameFile q) := ⟨fun _ _ _ h h' => h'.trans h⟩

/-- a computation that leaves the file at a place as it is, however it ends -/
def Spares {α : Type} (q : Place) (x : OnDisk α) : Prop := Moves (SameFile q) x

section

variable {α : Type} {q : Place} {p : Path}

theorem Spares.eq {x : OnDisk α} (h : Spares q x) {d d' : Disk} {r : Except Fault α}
    (hx : carriedOut x d = (r, d')) : d'.tree.fileAt? q = d.tree.fileAt? q := by
  have hd := h d
  rw [hx] at hd
  exact hd

theorem spares_lift (r : Except Fault α) : Spares q (liftM r : OnDisk α) := by
  intro d
  rw [carriedOut_lift]
  exact Std.Refl.refl d

theorem spares_stepAt {g : Tree → Place → Except FileError Tree}
    (h : ∀ t t', g t p.place = .ok t' → t'.fileAt? q = t.fileAt? q) :
    Spares q (step p fun t => t.resolve p >>= g t) :=
  moves_stepAt (fun _ => rfl) (fun _ => rfl) fun d t' _ _ ht => h d.tree t' ht

theorem spares_makeDirectory (p : Path) : Spares q (makeDirectory p) := by
  refine spares_stepAt fun t t' h => ?_
  split at h
  · cases h
  · rename_i hn
    rw [← Except.ok.inj h]
    exact Tree.fileAt?_put_directory hn _ q

theorem spares_create (hq : q ≠ p.place) : Spares q (create p) := by
  refine spares_stepAt fun t t' h => ?_
  split at h
  · cases h
  · rw [← Except.ok.inj h]
    exact Tree.fileAt?_put_of_ne hq _

theorem spares_fill (hq : q ≠ p.place) (bytes : List UInt8) : Spares q (fill p bytes) := by
  refine spares_stepAt fun t t' h => ?_
  split at h
  · rw [← Except.ok.inj h]
    exact Tree.fileAt?_put_of_ne hq _
  · cases h
  · cases h

theorem spares_append (hq : q ≠ p.place) (bytes : List UInt8) : Spares q (append p bytes) := by
  refine spares_stepAt fun t t' h => ?_
  split at h
  · rw [← Except.ok.inj h]
    exact Tree.fileAt?_put_of_ne hq _
  · cases h
  · rw [← Except.ok.inj h]
    exact Tree.fileAt?_put_of_ne hq _

theorem spares_remove (hq : q ≠ p.place) : Spares q (remove p) := by
  refine spares_stepAt fun t t' h => ?_
  split at h
  · rw [← Except.ok.inj h]
    exact Tree.fileAt?_remove_of_ne hq
  · cases h
  · cases h

theorem spares_ensureDirectory (p : Path) : Spares q (ensureDirectory p) :=
  moves_ensureDirectory fun _ _ => spares_makeDirectory _

theorem spares_appendRecord (hq : q ≠ p.place) (v : Value) : Spares q (appendRecord p v) :=
  Moves.bind (spares_ensureDirectory _) fun _ =>
    Moves.bind (spares_lift _) fun _ => spares_append hq _

end

/-! ## files that are written -/

theorem fileAt?_of_writeContent {p : Path} {name s : String} {d d' : Disk}
    (h : carriedOut (writeContent (p.child name) (.text s)) d = (.ok (), d')) :
    d'.tree.fileAt? (p.child name).place = some (Utf8.encode s) :=
  Tree.fileAt?_of_stat (stat_of_replaceWith h).2

theorem of_carriedOut_bind_error {α β : Type} {x : OnDisk α} {f : α → OnDisk β} {d d' : Disk}
    {e : Fault} (h : carriedOut (x >>= f) d = (.error e, d')) :
    carriedOut x d = (.error e, d') ∨
      ∃ a d₁, carriedOut x d = (.ok a, d₁) ∧ carriedOut (f a) d₁ = (.error e, d') := by
  rw [carriedOut_bind] at h
  rcases hx : carriedOut x d with ⟨e' | a, d₁⟩ <;> rw [hx] at h
  · cases h
    exact .inl rfl
  · exact .inr ⟨a, d₁, rfl, h⟩

theorem fileAt?_of_fill_rename_error {p beside : Path} (hbeside : p.place ≠ beside.place)
    {content : Except Fault (List UInt8)} {d d' : Disk} {e : Fault}
    (h : carriedOut (do fill beside (← content); rename beside p) d = (.error e, d')) :
    d'.tree.fileAt? p.place = d.tree.fileAt? p.place := by
  rcases of_carriedOut_bind_error h with hcontent | ⟨bytes, d₁, hcontent, h⟩
  · exact (spares_lift content).eq hcontent
  · rw [← (spares_lift (q := p.place) content).eq hcontent]
    rcases of_carriedOut_bind_error h with hfill | ⟨_, d₂, hfill, hrename⟩
    · exact (spares_fill hbeside bytes).eq hfill
    · rw [← (spares_fill hbeside bytes).eq hfill, tree_of_step_error hrename]

/-- a file that cannot be written stands as it did -/
theorem fileAt?_of_replaceWith_error {p : Path} {content : Except Fault (List UInt8)}
    (hbeside : ∀ n, p.place ≠ (p.parent.child (besideName p.name n)).place) {d d' : Disk}
    {e : Fault} (h : carriedOut (replaceWith p content) d = (.error e, d')) :
    d'.tree.fileAt? p.place = d.tree.fileAt? p.place := by
  unfold replaceWith at h
  rcases of_carriedOut_bind_error h with hmake | ⟨_, d₁, hmake, h⟩
  · exact (spares_ensureDirectory _).eq hmake
  rw [← (spares_ensureDirectory (q := p.place) p.parent).eq hmake]
  rw [carriedOut_bind_ok (carriedOut_get d₁)] at h
  have hfree : p.place ≠ (besidePath d₁.tree p).place := hbeside _
  dsimp only at h
  generalize besidePath d₁.tree p = beside at h hfree
  rcases of_carriedOut_bind_error h with hcreate | ⟨_, d₂, hcreate, h⟩
  · exact (spares_create hfree).eq hcreate
  rw [← (spares_create hfree).eq hcreate]
  rw [carriedOut_bind_ok (carriedOut_attempt _ d₂)] at h
  rcases hfilled : carriedOut (do fill beside (← content); rename beside p) d₂ with ⟨r, d₃⟩
  rw [hfilled] at h
  cases r with
  | ok _ => cases h
  | error e' =>
    rw [← fileAt?_of_fill_rename_error hfree hfilled]
    -- what was left beside the file is taken away
    have hcleared : Spares p.place (do
        if ← «exists» beside then remove beside
        throw e' : OnDisk Unit) := by
      refine Moves.bind (moves_exists beside) fun b => ?_
      split
      · exact Moves.bind (spares_remove hfree) fun _ => moves_throw _
      · exact moves_throw _
    exact hcleared.eq h

end Disk

end Debate.Files
