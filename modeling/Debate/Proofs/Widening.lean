import Debate.Proofs.Leaving
import Mathlib.Data.List.Infix

/-!
# Directories that are made

Making a directory with those that it lies in adds directories to a tree and does nothing else,
however it ends. They stand on the way to the directory. It is made wherever no file stands on that
way and the path can be handed to a disk.

* `Path.way`                    the places that a path leads by;
* `Tree.Widens`                 a tree has what another has, and perhaps more directories;
* `Disk.widens_ensureDirectory` what is added when a directory is made;
* `Tree.Admits`                 nothing hinders that a directory is made;
* `Disk.exists_ensureDirectory` it is made then.
-/

namespace Debate.Files

/-- the places that a path leads by, the first and the last one included -/
def Path.way (p : Path) : List Place := p.names.inits.map fun names => names.foldl stepInto []

theorem Path.mem_way {p : Path} {q : Place} :
    q ∈ p.way ↔ ∃ names, names <+: p.names ∧ names.foldl stepInto [] = q := by
  simp [way, List.mem_inits]

theorem Path.place_mem_way (p : Path) : p.place ∈ p.way :=
  mem_way.mpr ⟨p.names, List.prefix_refl _, rfl⟩

namespace Tree

variable {t t' t'' : Tree} {A : List Place} {q : Place}

theorem exists_of_isFile (h : t.isFile q = true) : ∃ bytes, t.get? q = some (.file bytes) := by
  unfold isFile at h
  split at h
  · exact ⟨_, ‹_›⟩
  · cases h

theorem isFile_put {p : Place} (hp : t.isDirectory p = false) (bytes : List UInt8) (q : Place) :
    (t.put p (.file bytes)).isFile q = if q = p then true else t.isFile q := by
  by_cases hq : q = []
  · have hne : q ≠ p := hq ▸ (ne_nil_of_isDirectory hp).symm
    rw [if_neg hne, hq]
    rfl
  · unfold isFile
    rw [get?_put t _ hq]
    by_cases hqp : q = p
    · rw [if_pos hqp, if_pos hqp]
    · rw [if_neg hqp, if_neg hqp]

theorem isFile_remove (p q : Place) :
    (t.remove p).isFile q = if q = p then false else t.isFile q := by
  by_cases hq : q = []
  · rw [hq]
    exact (ite_self false).symm
  · unfold isFile
    rw [get?_remove t hq]
    by_cases hqp : q = p
    · rw [if_pos hqp, if_pos hqp]
    · rw [if_neg hqp, if_neg hqp]

/-- a tree has what another has, and perhaps more directories at some of these places -/
def Widens (A : List Place) (t t' : Tree) : Prop :=
  ∀ q, t'.get? q = t.get? q ∨ q ∈ A ∧ t.get? q = none ∧ t'.get? q = some (.directory false)

theorem Widens.refl (A : List Place) (t : Tree) : t.Widens A t := fun _ => Or.inl rfl

theorem Widens.trans (h : t.Widens A t') (h' : t'.Widens A t'') : t.Widens A t'' := by
  intro q
  rcases h' q with heq | ⟨hq, hnone, hnew⟩
  · rw [heq]
    exact h q
  · rcases h q with heq | ⟨-, -, hdirectory⟩
    · exact Or.inr ⟨hq, heq ▸ hnone, hnew⟩
    · rw [hdirectory] at hnone
      cases hnone

theorem widens_put (hq : q ∈ A) (hnone : t.get? q = none) :
    t.Widens A (t.put q (.directory false)) := by
  intro p
  have hnil : q ≠ [] := by
    rintro rfl
    cases hnone
  by_cases hp : p = []
  · exact Or.inl (by rw [hp]; rfl)
  rw [get?_put t _ hp]
  by_cases hpq : p = q
  · rw [if_pos hpq, hpq]
    exact Or.inr ⟨hq, hnone, rfl⟩
  · exact Or.inl (if_neg hpq)

theorem Widens.isFile (h : t.Widens A t') (q : Place) : t'.isFile q = t.isFile q := by
  unfold Tree.isFile
  rcases h q with heq | ⟨-, hnone, hnew⟩
  · rw [heq]
  · rw [hnone, hnew]

theorem Widens.extends (h : t.Widens A t') : t.Extends t' := by
  intro q hq
  unfold isDirectory at hq ⊢
  rcases h q with heq | ⟨-, hnone, -⟩
  · rw [heq]
    exact hq
  · rw [hnone] at hq
    cases hq

/-- no directory is new but at the places in question -/
theorem Widens.isDirectory (h : t.Widens A t') (hq : q ∉ A) : t'.isDirectory q = t.isDirectory q := by
  unfold Tree.isDirectory
  rw [(h q).resolve_right fun hnew => hq hnew.1]

/-! ## where nothing is in the way -/

/-- nothing hinders that a directory is made: the path starts at the directory at hand and can be
handed to a disk, its names are not too long, and no file stands on the way -/
structure Admits (t : Tree) (p : Path) : Prop where
  relative : p.root = ""
  isSpeakable : Disk.isUnspeakable p = false
  short : ∀ name ∈ p.names, name.utf8ByteSize ≤ maxName
  clear : ∀ q ∈ p.way, t.isFile q = false

theorem Admits.widens {p : Path} (h : t.Admits p) (ht : t.Widens A t') : t'.Admits p :=
  { h with clear := fun q hq => (ht.isFile q).trans (h.clear q hq) }

/-- what nothing hinders for a directory, nothing hinders for one that it lies in -/
theorem Admits.of_start {root : String} {names names' : List String}
    (h : t.Admits { root, names }) (hstart : names' <+: names) : t.Admits { root, names := names' } where
  relative := h.relative
  isSpeakable := by
    obtain ⟨hroot, hnames⟩ := Disk.isUnspeakable_eq_false_iff.mp h.isSpeakable
    exact Disk.isUnspeakable_eq_false_iff.mpr ⟨hroot, fun n hn => hnames n (hstart.subset hn)⟩
  short := fun n hn => h.short n (hstart.subset hn)
  clear := fun q hq => by
    obtain ⟨before, hbefore, hplace⟩ := Path.mem_way.mp hq
    exact h.clear q (Path.mem_way.mpr ⟨before, hbefore.trans hstart, hplace⟩)

/-- where no file is in the way, either the way is there or a part of it is missing -/
theorem resolveFrom_of_clear {names : List String} {here : Place}
    (hshort : ∀ name ∈ names, name.utf8ByteSize ≤ maxName)
    (hclear : ∀ before, before <+: names → t.isFile (before.foldl stepInto here) = false) :
    t.resolveFrom here names = .ok (names.foldl stepInto here) ∨
      t.resolveFrom here names = .error .missing := by
  induction names generalizing here with
  | nil => exact Or.inl rfl
  | cons name names ih =>
    have hhere : t.isFile here = false := hclear [] (List.nil_prefix)
    have hrest : t.resolveFrom (stepInto here name) names =
          .ok (names.foldl stepInto (stepInto here name)) ∨
        t.resolveFrom (stepInto here name) names = .error .missing :=
      ih (fun n hn => hshort n (List.mem_cons_of_mem _ hn)) fun before hbefore =>
        hclear (name :: before) (List.cons_prefix_cons.mpr ⟨rfl, hbefore⟩)
    rw [resolveFrom, List.foldl_cons]
    rcases hn : t.get? here with _ | _ | b
    · exact Or.inr rfl
    · rw [Tree.isFile, hn] at hhere
      cases hhere
    dsimp only
    by_cases hup : name = ".."
    · rw [if_pos hup]
      rwa [stepInto, if_pos hup] at hrest ⊢
    · rw [if_neg hup, if_neg (Nat.not_lt.mpr (hshort name List.mem_cons_self))]
      rwa [stepInto, if_neg hup] at hrest ⊢

theorem Admits.resolve {p : Path} (h : t.Admits p) :
    t.resolve p = .ok p.place ∨ t.resolve p = .error .missing := by
  rw [Tree.resolve, if_pos h.relative]
  exact resolveFrom_of_clear h.short fun before hbefore =>
    h.clear _ (Path.mem_way.mpr ⟨before, hbefore, rfl⟩)

end Tree

namespace Disk

variable {A : List Place} {t : Tree}

/-! ## what is added -/

/-- more directories at some places, and no outage where there was none -/
def Widens (A : List Place) (d d' : Disk) : Prop :=
  d.tree.Widens A d'.tree ∧ (d.outages = [] → d'.outages = [])

instance (A : List Place) : Std.Refl (Widens A) := ⟨fun d => ⟨.refl A d.tree, id⟩⟩

instance (A : List Place) : IsTrans Disk (Widens A) :=
  ⟨fun _ _ _ h h' => ⟨h.1.trans h'.1, fun houtages => h'.2 (h.2 houtages)⟩⟩

theorem widens_makeDirectory {p : Path} (hp : p.place ∈ A) :
    Moves (Widens A) (makeDirectory p) := by
  have htail {d : Disk} (h : d.outages = []) : d.outages.tail = [] := by rw [h, List.tail_nil]
  refine moves_stepAt Std.Refl.refl (fun d => ⟨.refl A _, htail⟩) fun d t' _ _ h => ?_
  split at h
  · cases h
  · rename_i hnone
    rw [← Except.ok.inj h]
    exact ⟨Tree.widens_put hp hnone, htail⟩

/-- a directory that is made adds directories on its way, and nothing else -/
theorem widens_ensureDirectory (p : Path) : Moves (Widens p.way) (ensureDirectory p) :=
  moves_ensureDirectory fun names hnames =>
    widens_makeDirectory (Path.mem_way.mpr ⟨names, hnames, rfl⟩)

/-! ## when a directory is made -/

theorem carriedOut_attempt_makeDirectory {p : Path} (hp : isUnspeakable p = false)
    (hr : t.resolve p = .ok p.place) (hfile : t.isFile p.place = false) :
    (t.get? p.place = none ∧ carriedOut (attempt (makeDirectory p)) { tree := t } =
      (.ok (.ok ()), { tree := t.put p.place (.directory false) })) ∨
    ∃ b, t.stat p = .ok (.directory b) ∧ carriedOut (attempt (makeDirectory p)) { tree := t } =
      (.ok (.error (faultAt p .exists)), { tree := t }) := by
  rw [carriedOut_attempt]
  rcases hn : t.get? p.place with _ | _ | b
  · exact Or.inl ⟨rfl, by rw [carriedOut_makeDirectory hp hr hn]⟩
  · rw [Tree.isFile, hn] at hfile
    cases hfile
  · have hstat : t.stat p = .ok (.directory b) := Tree.stat_eq_ok_iff.mpr ⟨_, hr, hn⟩
    exact Or.inr ⟨b, hstat, by rw [carriedOut_makeDirectory_there hp hstat]⟩

theorem stat_put_directory {p : Path} (hr : t.resolve p = .ok p.place)
    (hnone : t.get? p.place = none) :
    (t.put p.place (.directory false)).stat p = .ok (.directory false) :=
  Tree.stat_put hr (by rw [Tree.isDirectory, hnone]) _

/-- a directory whose place can be reached is made, unless a file is there -/
theorem exists_ensureOne {p : Path} (hp : isUnspeakable p = false) (hr : t.resolve p = .ok p.place)
    (hfile : t.isFile p.place = false) : ∃ t' b, carriedOut (ensureOne p) { tree := t } =
      (.ok (), { tree := t' }) ∧ t'.stat p = .ok (.directory b) := by
  rcases carriedOut_attempt_makeDirectory hp hr hfile with ⟨hnone, hmake⟩ | ⟨b, hstat, hmake⟩
  · refine ⟨_, false, ?_, stat_put_directory hr hnone⟩
    rw [ensureOne, carriedOut_bind_ok hmake]
    rfl
  · refine ⟨t, b, ?_, hstat⟩
    rw [ensureOne, carriedOut_bind_ok hmake]
    exact carriedOut_bind_ok (carriedOut_isDirectory hstat) _

/-- the place of a path can be reached once the directory that it lies in is there -/
theorem resolve_concat {root : String} {names : List String} {name : String} {b : Bool}
    (habove : t.stat { root, names } = .ok (.directory b)) (hshort : name.utf8ByteSize ≤ Tree.maxName) :
    t.resolve { root, names := names ++ [name] } =
      .ok (Path.place { root, names := names ++ [name] }) := by
  obtain ⟨place, hr, hplace⟩ := Tree.stat_eq_ok_iff.mp habove
  have heq : place = names.foldl stepInto [] := Tree.place_of_resolve hr
  rw [Tree.resolve] at hr ⊢
  split at hr
  · rw [if_pos ‹_›, Path.place, Tree.resolveFrom_append, List.foldl_append, ← heq, hr]
    change t.resolveFrom place [name] = _
    rw [Tree.resolveFrom, hplace]
    dsimp only
    rw [List.foldl_cons, stepInto]
    by_cases hup : name = ".."
    · rw [if_pos hup, if_pos hup]
      rfl
    · rw [if_neg hup, if_neg hup, if_neg (Nat.not_lt.mpr hshort)]
      rfl
  · cases hr

theorem exists_ensureFrom {names : List String}
    (h : t.Admits { root := "", names := names.reverse }) :
    ∃ t' b, carriedOut (ensureFrom "" names) { tree := t } = (.ok (), { tree := t' }) ∧
      t'.stat { root := "", names := names.reverse } = .ok (.directory b) := by
  induction names generalizing t with
  | nil =>
    exact exists_ensureOne h.isSpeakable rfl (h.clear _ (Path.place_mem_way _))
  | cons name above ih =>
    have hnames : (name :: above).reverse = above.reverse ++ [name] := List.reverse_cons
    have hshort := h.short name (List.mem_reverse.mpr List.mem_cons_self)
    have habove : t.Admits { root := "", names := above.reverse } :=
      h.of_start (hnames ▸ List.prefix_append _ _)
    generalize hp : ({ root := "", names := (name :: above).reverse } : Path) = p at h
    have hfile : t.isFile p.place = false := h.clear _ (Path.place_mem_way p)
    rw [ensureFrom, hp]
    rcases h.resolve with hr | hr
    · rcases carriedOut_attempt_makeDirectory h.isSpeakable hr hfile with
        ⟨hnone, hmake⟩ | ⟨b, hstat, hmake⟩
      · refine ⟨_, false, ?_, stat_put_directory hr hnone⟩
        rw [carriedOut_bind_ok hmake]
        rfl
      · refine ⟨t, b, ?_, hstat⟩
        rw [carriedOut_bind_ok hmake]
        exact carriedOut_bind_ok (carriedOut_isDirectory hstat) _
    · -- the directory that it lies in is made first
      have hmake : carriedOut (attempt (makeDirectory p)) { tree := t } =
          (.ok (.error (faultAt p .missing)), { tree := t }) := by
        have hstep : carriedOut (makeDirectory p) { tree := t } =
            (.error (faultAt p .missing), { tree := t }) :=
          carriedOut_step_error h.isSpeakable (by simp only [hr, bind, Except.bind])
        rw [carriedOut_attempt, hstep]
      obtain ⟨t', b, hrun, hstat⟩ := ih habove
      have hwidens := widens_ensureDirectory { root := "", names := above.reverse } { tree := t }
      rw [ensureDirectory, List.reverse_reverse, hrun] at hwidens
      have hr' : t'.resolve p = .ok p.place := by
        rw [← hp, hnames]
        exact resolve_concat hstat hshort
      obtain ⟨t'', b', hlast, hstat'⟩ := exists_ensureOne h.isSpeakable hr'
        ((hwidens.1.isFile p.place).trans hfile)
      refine ⟨t'', b', ?_, hstat'⟩
      rw [carriedOut_bind_ok hmake]
      exact (carriedOut_bind_ok hrun _).trans hlast

/-- a directory is made where nothing hinders it -/
theorem exists_ensureDirectory {p : Path} (h : t.Admits p) :
    ∃ t' b, carriedOut (ensureDirectory p) { tree := t } = (.ok (), { tree := t' }) ∧
      t'.stat p = .ok (.directory b) := by
  obtain ⟨root, names⟩ := p
  obtain rfl : root = "" := h.relative
  have hmade := @exists_ensureFrom t names.reverse
  rw [List.reverse_reverse] at hmade
  exact hmade h

end Disk

end Debate.Files
