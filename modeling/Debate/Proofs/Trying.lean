import Debate.Proofs.Lasting
import Debate.Proofs.Recording
import Debate.Proofs.Sparing

/-!
# The file of the notepad when writes fail

A writer tries to write the notepad when it is another one than the one that it tried last, whether
that try went well or not. So the file holds what the last try that went well put there; after a try
that failed it falls behind the notepad, until the notepad is another one again.

* `Try`, `Writer.attempt?`        a try to write the notepad, and the one that a writer makes;
* `Try.bytes?`                what a try puts in the file, if it goes well;
* `Writer.tried_of_hear`      what a writer that is shown a conversation does to the file;
* `Recording.tries`           the tries in the course of changes, in order;
* `Recording.tried_after`     what they leave in the file;
* `notepad_of_tries`          the file and the notepad after a change that goes well.
-/

namespace Debate

open Debate.Files Debate.Text

/-- a change brings a text for a notepad, if any -/
def Action.BringsText (a : Action) : Prop := ∀ v, a.notepad? = some v → ∃ t, v = .text t

theorem Conversation.document_apply (c : Conversation) (a : Action) :
    (c.apply a).document = a.notepad?.getD c.document := by
  cases a <;> rfl

theorem Conversation.exists_text_apply {c : Conversation} (hc : ∃ t, c.document = .text t)
    {a : Action} (ha : a.BringsText) : ∃ t, (c.apply a).document = .text t := by
  rw [document_apply]
  cases hv : a.notepad? with
  | none => exact hc
  | some v => exact ha v hv

namespace Transcript

/-- a try to write the notepad, and how it ended -/
structure Try where
  document : Value
  result : Except Fault Unit

/-- what a try puts in the file, if it goes well -/
def Try.bytes? (x : Try) : Option (List UInt8) :=
  match x.result, Disk.bytesOf x.document with
  | .ok _, .ok bytes => some bytes
  | _, _ => none

theorem Try.bytes?_of_ok {x : Try} {t : String} (hx : x.document = .text t)
    (h : x.result = .ok ()) : x.bytes? = some (Utf8.encode t) := by
  rw [bytes?, h, hx]
  rfl

theorem Try.bytes?_of_error {x : Try} {e : Fault} (h : x.result = .error e) : x.bytes? = none := by
  rw [bytes?, h]

/-! ## the writer -/

namespace Writer

variable {w w' : Writer} {d d' : Disk}

theorem notepadPath_of_run (h : w'.run = w.run) : w'.notepadPath = w.notepadPath := by
  rw [notepadPath, notepadPath, h]

theorem notepad_ne_thread (w : Writer) : w.notepadPath.place ≠ w.threadPath.place :=
  w.thread_ne_notepad.symm

theorem notepad_ne_beside (w : Writer) (n : Nat) : w.notepadPath.place ≠
    (w.notepadPath.parent.child (Disk.besideName w.notepadPath.name n)).place :=
  w.run.place_child_ne_beside (by decide +kernel) n

/-- messages that are recorded, or not, leave the notepad, and what was tried of it, as they are -/
theorem hearMessages_spares {ms : List Message} {r : Except Fault Unit}
    (h : w.hearMessages d ms = (r, w', d')) :
    w'.run = w.run ∧ w'.document = w.document ∧
      ∀ q, q ≠ w.threadPath.place → d'.tree.fileAt? q = d.tree.fileAt? q := by
  induction ms generalizing w d with
  | nil =>
    cases h
    exact ⟨rfl, rfl, fun _ _ => rfl⟩
  | cons m ms ih =>
    rw [hearMessages] at h
    split at h
    · cases h
      exact ⟨rfl, rfl, fun _ _ => rfl⟩
    split at h
    · have hspared {q : Place} (hq : q ≠ w.threadPath.place) {r : Except Fault Unit} {d₁ : Disk}
          (happend : (Disk.appendRecord w.threadPath (w.entry m)).run d = (r, d₁)) :
          d₁.tree.fileAt? q = d.tree.fileAt? q :=
        (Disk.spares_appendRecord hq (w.entry m)).eq happend
      split at h
      · rename_i d₁ happend
        obtain ⟨hrun, hdocument, hfiles⟩ := ih h
        exact ⟨hrun, hdocument, fun q hq => (hfiles q hq).trans (hspared hq happend)⟩
      · rename_i e d₁ happend
        cases h
        exact ⟨rfl, rfl, fun q hq => hspared hq happend⟩
    · exact ih h

/-- the try to write the notepad that a writer makes when it is shown a conversation: none if a
message could not be recorded, or if the notepad is the one that it tried last -/
def attempt? (w : Writer) (d : Disk) (c : Conversation) : Option Try :=
  match w.hearMessages d c.messages with
  | (.ok (), w', d') =>
    if c.document.same w'.document then none
    else some ⟨c.document, (carriedOut (Disk.writeContent w'.notepadPath c.document) d').1⟩
  | _ => none

/-- a writer that is shown a conversation: it remembers what it tried, the file holds what a try put
there or stands as it did, and if all went well the notepad is the one that was tried last -/
theorem tried_of_hear {c : Conversation} {t : String} (ht : c.document = .text t)
    {r : Except Fault Unit} (h : w.hear d c = (r, w', d')) :
    w'.run = w.run ∧
      w'.document = ((w.attempt? d c).map (·.document)).getD w.document ∧
      d'.tree.fileAt? w.notepadPath.place =
        ((w.attempt? d c).bind Try.bytes?).or (d.tree.fileAt? w.notepadPath.place) ∧
      (∀ x, w.attempt? d c = some x → x.document = c.document ∧ x.document ≠ w.document ∧ x.result = r) ∧
      (r = .ok () → w'.document = c.document) := by
  rw [hear] at h
  rw [attempt?]
  rcases hmessages : w.hearMessages d c.messages with ⟨e | _, w₁, d₁⟩
  · obtain ⟨hrun, hdocument, hfiles⟩ := hearMessages_spares hmessages
    rw [hmessages] at h
    cases h
    refine ⟨hrun, hdocument, hfiles _ w.notepad_ne_thread, ?_, ?_⟩
    · intro x hx
      cases hx
    · intro he
      cases he
  obtain ⟨hrun, hdocument, hfiles⟩ := hearMessages_spares hmessages
  have hfile := hfiles _ w.notepad_ne_thread
  have hpath : w₁.notepadPath = w.notepadPath := notepadPath_of_run hrun
  rw [hmessages] at h
  dsimp only at h ⊢
  rw [hearDocument] at h
  by_cases hsame : c.document.same w₁.document = true
  · rw [if_pos hsame] at h ⊢
    cases h
    rw [ht] at hsame ⊢
    refine ⟨hrun, hdocument, hfile, ?_, fun _ => Value.text_same_iff.mp hsame⟩
    intro x hx
    cases hx
  · rw [if_neg hsame] at h ⊢
    have hne : c.document ≠ w.document := by
      rw [ht] at hsame ⊢
      rw [← hdocument]
      exact fun heq => hsame (Value.text_same_iff.mpr heq.symm)
    rcases hwrite : carriedOut (Disk.writeContent w₁.notepadPath c.document) d₁ with ⟨r', d₂⟩
    have hresult : (carriedOut (Disk.writeContent w₁.notepadPath c.document) d₁).1 = r :=
      (congrArg Prod.fst h :)
    have hdisk : (carriedOut (Disk.writeContent w₁.notepadPath c.document) d₁).2 = d' :=
      (congrArg (·.2.2) h :)
    have hwriter : { w₁ with document := c.document } = w' := (congrArg (·.2.1) h :)
    rw [hwrite] at hresult hdisk
    obtain rfl : r' = r := hresult
    obtain rfl : d₂ = d' := hdisk
    rw [← hwriter, ← hfile]
    refine ⟨hrun, rfl, ?_, ?_, fun _ => rfl⟩
    · -- a try that fails leaves the file as it is
      rw [← hpath]
      cases r' with
      | error e =>
        rw [Option.bind_some, Try.bytes?_of_error rfl, Option.none_or]
        exact Disk.fileAt?_of_replaceWith_error w₁.notepad_ne_beside hwrite
      | ok _ =>
        rw [Option.bind_some, Try.bytes?_of_ok ht rfl, Option.some_or]
        rw [ht] at hwrite
        exact Disk.fileAt?_of_writeContent hwrite
    · rintro x hx
      cases hx
      exact ⟨rfl, hne, rfl⟩

end Writer

/-! ## changes -/

namespace Recording

/-- the bytes of the notepad's file, if it is there -/
def notepad? (r : Recording) : Option (List UInt8) := r.disk.tree.fileAt? r.writer.notepadPath.place

def attempt? (r : Recording) (a : Action) : Option Try :=
  match r.store.refusal? (.dispatch a) with
  | some _ => none
  | none => r.writer.attempt? r.disk (r.store.perform (.dispatch a)).1.conversation

/-- what is left after changes, whether they go well or not -/
def after (r : Recording) (as : List Action) : Recording := as.foldl (fun r a => (r.dispatch a).2) r

def tries (r : Recording) : List Action → List Try
  | [] => []
  | a :: as => (r.attempt? a).toList ++ (r.dispatch a).2.tries as

theorem after_append (r : Recording) (as bs : List Action) :
    r.after (as ++ bs) = (r.after as).after bs := List.foldl_append

theorem tried_of_dispatch {r r' : Recording} {a : Action} {result : Except Fault Unit} {t : String}
    (ht : (r.store.conversation.apply a).document = .text t) (h : r.dispatch a = (result, r')) :
    r'.writer.run = r.writer.run ∧
      r'.writer.document = ((r.attempt? a).map (·.document)).getD r.writer.document ∧
      r'.notepad? = ((r.attempt? a).bind Try.bytes?).or r.notepad? ∧
      (∀ x, r.attempt? a = some x → x.document ≠ r.writer.document ∧ x.result = result) ∧
      (r'.store.conversation.document = .text t ∨ r'.store = r.store) ∧
      (result = .ok () → r'.store.conversation.document = r'.writer.document) := by
  rw [dispatch] at h
  rw [attempt?]
  cases hrefusal : r.store.refusal? (.dispatch a) with
  | some e =>
    rw [hrefusal] at h
    cases h
    refine ⟨rfl, rfl, rfl, ?_, .inr rfl, ?_⟩
    · intro x hx
      cases hx
    · intro he
      cases he
  | none =>
    rw [hrefusal] at h
    obtain ⟨hresult, hrest⟩ := Prod.mk.inj h
    obtain ⟨hrun, hdocument, hfile, htry, hok⟩ :=
      Writer.tried_of_hear (w := r.writer) (d := r.disk) ht (Prod.ext hresult rfl)
    rw [← hrest]
    refine ⟨hrun, hdocument, ?_, fun x hx => (htry x hx).2, .inl ht, fun h => (hok h).symm⟩
    change Tree.fileAt? _ (r.writer.hear r.disk (r.store.conversation.apply a)).2.1.notepadPath.place = _
    rw [Writer.notepadPath_of_run hrun]
    exact hfile

/-- what changes leave: the writer remembers what was tried last, and the file holds what the last try
that went well put there, or stands as it did -/
theorem tried_after {r : Recording} {as : List Action} (has : ∀ a ∈ as, a.BringsText)
    (hr : ∃ t, r.store.conversation.document = .text t) :
    (∃ t, (r.after as).store.conversation.document = .text t) ∧
      (r.after as).writer.document =
        ((r.tries as).getLast?.map (·.document)).getD r.writer.document ∧
      (r.after as).notepad? = ((r.tries as).filterMap Try.bytes?).getLast?.or r.notepad? := by
  induction as generalizing r with
  | nil => exact ⟨hr, rfl, rfl⟩
  | cons a as ih =>
    obtain ⟨t, ht⟩ := Conversation.exists_text_apply hr (has a List.mem_cons_self)
    obtain ⟨-, hdocument, hfile, -, hstore, -⟩ := tried_of_dispatch ht (r.dispatch a).eta.symm
    obtain ⟨hlast, hdocuments, hfiles⟩ := ih (r := (r.dispatch a).2)
      (fun b hb => has b (List.mem_cons_of_mem a hb)) (by
        rcases hstore with hnew | hold
        · exact ⟨t, hnew⟩
        · rw [hold]
          exact hr)
    refine ⟨hlast, hdocuments.trans ?_, hfiles.trans ?_⟩
    · rw [tries, List.getLast?_append, hdocument]
      cases r.attempt? a <;> cases ((r.dispatch a).2.tries as).getLast? <;> rfl
    · rw [tries, List.filterMap_append, List.getLast?_append, hfile, Option.or_assoc]
      cases r.attempt? a with
      | none => rfl
      | some x =>
        rw [Option.toList_some, List.filterMap_cons, Option.bind_some]
        cases x.bytes? <;> rfl

/-- where every change goes well, every try does; and where there is none, the notepad stays what it
was -/
theorem tries_of_dispatchAll {r r' : Recording} {as : List Action}
    (has : ∀ a ∈ as, a.BringsText) (hr : r.store.conversation.document = r.writer.document)
    (htext : ∃ t, r.writer.document = .text t) (h : r.dispatchAll as = .ok r') :
    (∀ x ∈ r.tries as, x.result = .ok ()) ∧
      (r.tries as = [] → ∀ before, before <+: as →
        (r.after before).store.conversation.document = r.writer.document) := by
  induction as generalizing r with
  | nil =>
    refine ⟨fun x hx => absurd hx List.not_mem_nil, fun _ before hbefore => ?_⟩
    rw [List.prefix_nil.mp hbefore]
    exact hr
  | cons a as ih =>
    obtain ⟨r₁, hdispatch, hrest⟩ := of_dispatchAll_cons h
    obtain ⟨t, ht⟩ := Conversation.exists_text_apply (hr ▸ htext) (has a List.mem_cons_self)
    obtain ⟨-, hdocument, -, htry, -, hsame⟩ := tried_of_dispatch ht hdispatch
    have htext' : ∃ t, r₁.writer.document = .text t := by
      rw [← hsame rfl, (of_dispatch hdispatch).1]
      exact ⟨t, ht⟩
    obtain ⟨hresults, hnone⟩ :=
      ih (fun b hb => has b (List.mem_cons_of_mem a hb)) (hsame rfl) htext' hrest
    have htries : r.tries (a :: as) = (r.attempt? a).toList ++ r₁.tries as := by
      rw [tries, hdispatch]
    rw [htries]
    constructor
    · intro x hx
      rcases List.mem_append.mp hx with hx | hx
      · exact (htry x (Option.mem_toList.mp hx)).2
      · exact hresults x hx
    · intro hempty before hbefore
      obtain ⟨hfirst, hlater⟩ := List.append_eq_nil_iff.mp hempty
      rw [Option.toList_eq_nil_iff.mp hfirst] at hdocument
      rcases List.prefix_cons_iff.mp hbefore with rfl | ⟨rest, rfl, hprefix⟩
      · exact hr
      · have hkept : r.after (a :: rest) = r₁.after rest := by
          rw [after, List.foldl_cons, hdispatch]
          rfl
        rw [hkept, hnone hlater rest hprefix, hdocument]
        rfl

end Recording

/-- the file of the notepad and the notepad, after a change that goes well, however many of the changes
before it failed. Either nothing was tried, and both are as they were at the start; or the notepad is
the one that was tried last. If that try went well, the file holds it; if it failed, the file holds
what the tries before it left there, and only another notepad is tried again. If no change failed, the
notepad was the same all the time, or the file holds it -/
theorem notepad_of_tries {c : Conversation} (hc : ∃ t, c.document = .text t) {as : List Action}
    (has : ∀ b ∈ as, b.BringsText) {a : Action} (ha : a.BringsText) (run : Path) (d : Disk)
    (hok : (((Recording.start run c d).after as).dispatch a).1 = .ok ()) :
    let r := Recording.start run c d
    let r' := r.after (as ++ [a])
    ∃ t, r'.store.conversation.document = .text t ∧
      (r.tries (as ++ [a]) = [] ∧ c.document = .text t ∧ r'.notepad? = r.notepad? ∨
        ∃ before x, r.tries (as ++ [a]) = before ++ [x] ∧ x.document = .text t ∧
          (x.result = .ok () ∧ r'.notepad? = some (Utf8.encode t) ∨
            (∃ e, x.result = .error e) ∧
              r'.notepad? = (before.filterMap Try.bytes?).getLast?.or r.notepad? ∧
              ∀ b y, b.BringsText → r'.attempt? b = some y → y.document ≠ .text t)) ∧
      ((∃ r'', r.dispatchAll (as ++ [a]) = .ok r'') →
        (∀ before, before <+: as ++ [a] →
          (r.after before).store.conversation.document = c.document) ∨
        r'.notepad? = some (Utf8.encode t)) := by
  intro r r'
  have hall : ∀ b ∈ as ++ [a], b.BringsText := by
    intro b hb
    rcases List.mem_append.mp hb with hb | hb
    · exact has b hb
    · rw [List.mem_singleton.mp hb]
      exact ha
  obtain ⟨⟨t, ht⟩, hdocument, hfile⟩ := Recording.tried_after (r := r) hall hc
  obtain ⟨htext, -, -⟩ := Recording.tried_after (r := r) has hc
  have hlast : (r.after as).dispatch a = (.ok (), r') := by
    refine Prod.ext hok ?_
    change ((r.after as).dispatch a).2 = r.after (as ++ [a])
    rw [Recording.after_append]
    rfl
  obtain ⟨u, hu⟩ := Conversation.exists_text_apply htext ha
  obtain ⟨-, -, -, -, -, hsame⟩ := Recording.tried_of_dispatch hu hlast
  have hremembered : r'.writer.document = .text t := (hsame rfl).symm.trans ht
  rw [show (r.after (as ++ [a])).writer.document = _ from hremembered] at hdocument
  rcases List.eq_nil_or_concat (r.tries (as ++ [a])) with hnone | ⟨before, x, htries⟩
  · rw [hnone] at hdocument hfile
    refine ⟨t, ht, .inl ⟨hnone, hdocument.symm, hfile⟩, ?_⟩
    rintro ⟨r'', hwell⟩
    exact .inl ((Recording.tries_of_dispatchAll hall rfl hc hwell).2 hnone)
  · rw [List.concat_eq_append] at htries
    rw [htries, List.getLast?_concat] at hdocument
    rw [htries, List.filterMap_append, List.getLast?_append, Option.or_assoc] at hfile
    have hx : x.document = .text t := hdocument.symm
    cases hresult : x.result with
    | ok _ =>
      have hwritten : r'.notepad? = some (Utf8.encode t) := by
        rw [List.filterMap_cons, Try.bytes?_of_ok hx hresult] at hfile
        exact hfile
      exact ⟨t, ht, .inr ⟨before, x, htries, hx, .inl ⟨hresult, hwritten⟩⟩, fun _ => .inr hwritten⟩
    | error e =>
      rw [List.filterMap_cons, Try.bytes?_of_error hresult] at hfile
      refine ⟨t, ht, .inr ⟨before, x, htries, hx, .inr ⟨⟨e, hresult⟩, hfile, fun b y hb hy => ?_⟩⟩, ?_⟩
      · obtain ⟨v, hv⟩ := Conversation.exists_text_apply ⟨t, ht⟩ hb
        obtain ⟨-, -, -, htry, -⟩ := Recording.tried_of_dispatch hv (r'.dispatch b).eta.symm
        rw [← hremembered]
        exact (htry y hy).1
      · rintro ⟨r'', hwell⟩
        have hwent := (Recording.tries_of_dispatchAll hall rfl hc hwell).1 x (by rw [htries]; simp)
        rw [hresult] at hwent
        cases hwent

/-- an empty conversation, with a directory where the file of its notepad is meant to be -/
def obstructed : Recording :=
  .start { names := ["run"] } { id := .text "c", createdAt := .text "t0" }
    { tree := { entries :=
      [(["run"], .directory false), (["run", "notepad.md"], .directory false)] } }

/-- the write fails, and when the writer is shown the same notepad once more all seems to be well:
the notepad is another one than at the start, and its file is not there -/
theorem notepad_lost :
    let change : Action := .setDocument (.text "new")
    (∃ e paths, (obstructed.dispatch change).1 = .error (.file e paths)) ∧
      ((obstructed.after [change]).dispatch change).1 = .ok () ∧
      obstructed.store.conversation.document = .text "" ∧
      (obstructed.after [change, change]).store.conversation.document = .text "new" ∧
      (obstructed.after [change, change]).notepad? = none := by
  refine ⟨⟨.isDirectory, ["run/.notepad.md.00000000"], ?_⟩, ?_⟩ <;> decide +kernel

/-- the try failed, and the same notepad is not tried again -/
theorem notepad_of_tries_obstructed :
    let change : Action := .setDocument (.text "new")
    ∃ before x, obstructed.tries [change, change] = before ++ [x] ∧ (∃ e, x.result = .error e) ∧
      ∀ b y, b.BringsText → (obstructed.after [change, change]).attempt? b = some y →
        y.document ≠ .text "new" := by
  intro change
  have hchange : change.BringsText := by
    intro v hv
    cases hv
    exact ⟨_, rfl⟩
  have hnew : (obstructed.after [change, change]).store.conversation.document = .text "new" := by
    decide +kernel
  have hmissing : (obstructed.after [change, change]).notepad? = none := by decide +kernel
  have hbefore : ∀ b ∈ [change], b.BringsText := fun b hb => List.mem_singleton.mp hb ▸ hchange
  obtain ⟨t, ht, htries, -⟩ := notepad_of_tries ⟨_, rfl⟩ hbefore hchange _ _
    (show ((obstructed.after [change]).dispatch change).1 = .ok () by decide +kernel)
  cases hnew.symm.trans ht
  rcases htries with ⟨-, hc, -⟩ | ⟨before, x, hlast, -, ⟨-, hfile⟩ | ⟨herror, -, hothers⟩⟩
  · exact absurd (show Value.text "" = .text "new" from hc) (by decide)
  · cases hmissing.symm.trans hfile
  · exact ⟨before, x, hlast, herror, hothers⟩

end Transcript

end Debate
