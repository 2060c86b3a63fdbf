import Debate.CommandLine.Session
import Debate.Proofs.Remembering
import Debate.Proofs.Runs

/-!
# Writers among the listeners

A writer of the thread log listens to the moderator, perhaps with others beside it. What it writes
depends on nothing but what it remembers, so two writers that remember the same add the same to their
logs and keep the same notepad, and so two moderators before such writers stay side by side.

* `Writer.Alike`              two writers of one run that remember the same;
* `Writer.effect_of_hear`     what a writer leaves when it is shown a conversation;
* `Surroundings.HasScribe`    surroundings with a writer among the listeners;
* `scribes`                   two such audiences side by side;
* `Surroundings.watched`      surroundings in which it is remembered whether a listener failed.
-/

namespace Debate

open Debate.Files Debate.Text

variable {σ : Type}

theorem Value.isAmong_cons (v x : Value) (xs : List Value) :
    v.isAmong (x :: xs) = (v.isAmong [x] || v.isAmong xs) := by
  simp only [Value.isAmong, List.any_cons, List.any_nil, Bool.or_false]

namespace Transcript

/-- two writers of one run that remember the same: of a text only what they remember of messages that
were recorded counts -/
structure Writer.Alike (w w' : Writer) : Prop where
  run : w'.run = w.run
  written : ∀ v, Value.isAmong v w'.written = Value.isAmong v w.written
  texts : ∀ v, Value.isAmong v w.written = true → w'.textOf? v = w.textOf? v
  document : w'.document = w.document

namespace Writer

variable {w w' w₁ w₁' : Writer} {d d' d₁ d₁' : Disk}

theorem textOf?_remembered (w : Writer) (m : Message) (v : Value) :
    (w.remember m).textOf? v = if v.isAmong [m.id] then some m.text else w.textOf? v := by
  rw [textOf?, remember, List.find?_cons]
  cases h : v.isAmong [m.id] with
  | true => rfl
  | false => exact (if_neg Bool.false_ne_true).symm

namespace Alike

theorem refl (w : Writer) : w.Alike w := ⟨rfl, fun _ => rfl, fun _ _ => rfl, rfl⟩

theorem hasWritten (h : w.Alike w') (m : Message) : w'.hasWritten m = w.hasWritten m := h.written m.id

theorem isNews (h : w.Alike w') (m : Message) : w'.isNews m = w.isNews m := by
  rw [Writer.isNews, Writer.isNews, h.hasWritten]
  cases hwritten : w.hasWritten m with
  | false => rfl
  | true => rw [hasText, hasText, h.texts m.id hwritten]

theorem remember (h : w.Alike w') (m : Message) : (w.remember m).Alike (w'.remember m) where
  run := h.run
  written v := by
    show v.isAmong (m.id :: w'.written) = v.isAmong (m.id :: w.written)
    rw [Value.isAmong_cons, h.written, ← Value.isAmong_cons]
  texts v hv := by
    have hcons : v.isAmong (m.id :: w.written) = true := hv
    rw [Value.isAmong_cons, Bool.or_eq_true] at hcons
    rw [textOf?_remembered, textOf?_remembered]
    rcases hcons with hsame | hold
    · rw [if_pos hsame, if_pos hsame]
    · rw [h.texts v hold]
  document := h.document

/-- two writers that remember the same record the same -/
theorem recording (h : w.Alike w') (ms : List Message) :
    (w.recording ms).1.Alike (w'.recording ms).1 ∧ (w'.recording ms).2 = (w.recording ms).2 := by
  induction ms generalizing w w' with
  | nil => exact ⟨h, rfl⟩
  | cons m ms ih =>
    have hnews := h.isNews m
    by_cases hm : w.isNews m = true
    · rw [recording_cons_of_news hm, recording_cons_of_news (hnews.trans hm), h.hasWritten]
      obtain ⟨halike, hrecords⟩ := ih (h.remember m)
      rw [hrecords]
      exact ⟨halike, rfl⟩
    · rw [recording_cons_of_old hm, recording_cons_of_old (hnews ▸ hm)]
      exact ih h

end Alike

/-- the notepad that a writer remembers after it was shown one -/
def noting (w : Writer) (document : Value) : Value :=
  if document.same w.document then w.document else document

/-- what a writer remembers after it was shown a conversation -/
def heard (w : Writer) (c : Conversation) : Writer :=
  { (w.recording c.messages).1 with document := w.noting c.document }

theorem run_heard (w : Writer) (c : Conversation) : (w.heard c).run = w.run :=
  (recording_frame w c.messages).1

/-- two writers that remember the same do so after they were shown the same -/
theorem Alike.heard (h : w.Alike w') {c c' : Conversation} (hc : c.SameTalk c') :
    (w.heard c).Alike (w'.heard c') := by
  obtain ⟨hwriter, -⟩ := h.recording c.messages
  rw [Writer.heard, Writer.heard, hc.messages, hc.document, noting, noting, h.document]
  exact ⟨hwriter.run, hwriter.written, hwriter.texts, rfl⟩

/-- what a writer leaves when it is shown a conversation without fail: it remembers the messages and the
notepad, adds the records that are due to its log, and writes the notepad if it is another one -/
theorem effect_of_hear {c : Conversation} (h : w.hear d c = (.ok (), w', d')) :
    w' = w.heard c ∧
      d'.tree.bytesAt w.threadPath.place =
        d.tree.bytesAt w.threadPath.place ++ (w.recording c.messages).2.flatMap Record.bytes ∧
      if c.document.same w.document then
        d'.tree.bytesAt w.notepadPath.place = d.tree.bytesAt w.notepadPath.place
      else ∃ t, c.document = .text t ∧ d'.tree.bytesAt w.notepadPath.place = Utf8.encode t := by
  obtain ⟨w₁, d₁, hmessages, hdocument⟩ := exists_of_hear h
  obtain ⟨hw₁, hlog, hothers⟩ := recording_of_hearMessages hmessages
  obtain ⟨hrun, hkept⟩ := recording_frame w c.messages
  rw [← hw₁] at hrun hkept
  obtain ⟨hw', hthread⟩ := hearDocument_leaves hdocument
  have hthreadPath : w₁.threadPath = w.threadPath := by rw [threadPath, threadPath, hrun]
  have hnotepadPath : w₁.notepadPath = w.notepadPath := by rw [notepadPath, notepadPath, hrun]
  have hnotepad := hothers _ w.thread_ne_notepad.symm
  rw [hthreadPath] at hthread
  rw [hearDocument, hkept] at hdocument
  rw [heard, noting, ← hw₁]
  by_cases hsame : c.document.same w.document = true
  · rw [if_pos hsame] at hdocument ⊢
    obtain ⟨rfl, rfl⟩ := Prod.mk.inj (Prod.mk.inj hdocument).2
    rw [if_pos hsame]
    exact ⟨by rw [← hkept], hlog, hnotepad⟩
  · rw [if_neg hsame] at hdocument ⊢
    obtain ⟨hok, hrest⟩ := Prod.mk.inj hdocument
    obtain ⟨rfl, hdisk⟩ := Prod.mk.inj hrest
    have hwrite : carriedOut (Disk.writeContent w₁.notepadPath c.document) d₁ = (.ok (), d') :=
      Prod.ext hok hdisk
    obtain ⟨t, ht⟩ := Disk.text_of_writeContent hwrite
    rw [ht] at hwrite
    have hbytes := Disk.bytesAt_of_writeContent hwrite
    rw [if_neg hsame]
    refine ⟨rfl, hthread.trans hlog, t, ht, ?_⟩
    rw [← hnotepadPath]
    exact hbytes

end Writer

/-! ## writers with their disks -/

/-- a writer, and the disk that it writes to -/
abbrev Scribe := Writer × Disk

namespace Scribe

/-- the bytes of the thread log -/
def log (x : Scribe) : List UInt8 := x.2.tree.bytesAt x.1.threadPath.place

/-- the bytes of the notepad -/
def notepad (x : Scribe) : List UInt8 := x.2.tree.bytesAt x.1.notepadPath.place

/-- what a writer does when it is shown a conversation -/
def hear (x : Scribe) (c : Conversation) : Except Fault Unit × Scribe := x.1.hear x.2 c

/-- two writers that remember the same and keep the same notepad; what was added to the logs since they
had certain contents is the same -/
structure Alike (log log' : List UInt8) (x x' : Scribe) : Prop where
  writer : x.1.Alike x'.1
  records : ∃ es : List Record, x.log = log ++ es.flatMap Record.bytes ∧
    x'.log = log' ++ es.flatMap Record.bytes
  notepad : x'.notepad = x.notepad

variable {log log' : List UInt8} {x x' : Scribe}

/-- what such a writer leaves when it is shown a conversation without fail -/
theorem effect_of_hear {x y : Scribe} {c : Conversation} (h : x.hear c = (.ok (), y)) :
    y.1 = x.1.heard c ∧
      y.log = x.log ++ (x.1.recording c.messages).2.flatMap Record.bytes ∧
      if c.document.same x.1.document then y.notepad = x.notepad
      else ∃ t, c.document = .text t ∧ y.notepad = Utf8.encode t := by
  obtain ⟨hy, hlog, hnotepad⟩ :=
    Writer.effect_of_hear (show x.1.hear x.2 c = (.ok (), y.1, y.2) from h)
  have hrun : y.1.run = x.1.run := by
    rw [hy, Writer.run_heard]
  have hthread : y.1.threadPath = x.1.threadPath := by rw [Writer.threadPath, Writer.threadPath, hrun]
  have hpath : y.1.notepadPath = x.1.notepadPath := by rw [Writer.notepadPath, Writer.notepadPath, hrun]
  refine ⟨hy, ?_, ?_⟩
  · rw [log, hthread]
    exact hlog
  · rw [notepad, hpath]
    exact hnotepad

/-- two such writers are such writers again after they were shown the same -/
theorem Alike.hear (h : Alike log log' x x') {c c' : Conversation} (hc : c.SameTalk c')
    {y y' : Scribe} (hx : x.hear c = (.ok (), y)) (hx' : x'.hear c' = (.ok (), y')) :
    Alike log log' y y' := by
  obtain ⟨hy, hlog, hnotepad⟩ := effect_of_hear hx
  obtain ⟨hy', hlog', hnotepad'⟩ := effect_of_hear hx'
  obtain ⟨-, hrecords⟩ := h.writer.recording c.messages
  obtain ⟨es, hes, hes'⟩ := h.records
  rw [hc.messages] at hlog'
  rw [hc.document, h.writer.document] at hnotepad'
  refine ⟨?_, ⟨es ++ (x.1.recording c.messages).2, ?_, ?_⟩, ?_⟩
  · rw [hy, hy']
    exact h.writer.heard hc
  · rw [hlog, hes, List.flatMap_append, List.append_assoc]
  · rw [hlog', hes', hrecords, List.flatMap_append, List.append_assoc]
  · by_cases hsame : c.document.same x.1.document = true
    · rw [if_pos hsame] at hnotepad hnotepad'
      rw [hnotepad, hnotepad', h.notepad]
    · rw [if_neg hsame] at hnotepad hnotepad'
      obtain ⟨t, ht, hbytes⟩ := hnotepad
      obtain ⟨t', ht', hbytes'⟩ := hnotepad'
      obtain rfl : t = t' := Value.text.inj (ht.symm.trans ht')
      rw [hbytes, hbytes']

end Scribe

/-! ## surroundings -/

/-- surroundings with a writer among the listeners: it writes down what is shown, and a moderator for
whom all is fine has seen no listener fail -/
structure HasScribe (s : Surroundings σ) (scribe : σ → Scribe) (fine : σ → Prop) : Prop where
  quiet : s.IsQuiet fine
  hears : ∀ now c a, scribe (s.hear now c a).audience = ((scribe a).hear c).2
  writes : ∀ now c a, fine (s.hear now c a).audience → ((scribe a).hear c).1 = .ok ()

/-- two audiences with writers that stay alike, given what was in their logs and had been sent -/
def scribes (scribe : σ → Scribe) (fine : σ → Prop) (log log' : List UInt8)
    (sent sent' : List Value) : Pairing σ σ where
  alike a a' := (scribe a).Alike log log' (scribe a')
  fine := fine
  fine' := fine
  sent := sent
  sent' := sent'

/-- moderators before such writers stay side by side -/
theorem HasScribe.fits {s : Surroundings σ} {scribe : σ → Scribe} {fine : σ → Prop}
    (h : HasScribe s scribe fine) (log log' : List UInt8) (sent sent' : List Value) :
    (scribes scribe fine log log' sent sent').Fits s s where
  quiet := h.quiet
  quiet' := h.quiet
  voice := rfl
  environment := rfl
  alike now c c' a a' hc halike hfine hfine' := by
    have hheard : (scribe a).hear c = (.ok (), scribe (s.hear now c a).audience) :=
      Prod.ext (h.writes now c a hfine) (h.hears now c a).symm
    have hheard' : (scribe a').hear c' = (.ok (), scribe (s.hear now c' a').audience) :=
      Prod.ext (h.writes now c' a' hfine') (h.hears now c' a').symm
    exact halike.hear hc hheard hheard'

end Transcript

/-- surroundings in which it is remembered whether a listener failed -/
def Surroundings.watched (s : Surroundings σ) : Surroundings (σ × Bool) where
  hear now c a :=
    let h := s.hear now c a.1
    { audience := (h.audience, a.2 || h.fault.isSome)
      entries := h.entries, requests := h.requests, fault := h.fault }
  voice := s.voice
  environment := s.environment
  depth := s.depth

namespace CommandLine

open Transcript

theorem prompts_hear (console : Console) (now : Instant) (ms : List Message) :
    Journal.prompts (console.hear now ms).2.2 = [] := by
  induction ms generalizing console with
  | nil => rfl
  | cons m ms ih =>
    rw [Console.hear]
    split
    · exact ih console
    · split
      · rfl
      · split
        · exact ih console
        · rw [Journal.prompts_append, ih]
          rfl

theorem hear_ok {a : Audience} {c : Conversation} {w : Writer} {d : Disk}
    (h : a.writer.hear a.disk c = (.ok (), w, d)) (now : Instant) :
    Audience.hear now c a = {
      audience := { writer := w, console := (a.console.hear now c.messages).2.1, disk := d }
      entries := (a.console.hear now c.messages).2.2
      fault := (a.console.hear now c.messages).1 } := by
  rw [Audience.hear, h]

theorem hear_error {a : Audience} {c : Conversation} {e : Fault} {w : Writer} {d : Disk}
    (h : a.writer.hear a.disk c = (.error e, w, d)) (now : Instant) :
    Audience.hear now c a = { audience := { a with writer := w, disk := d }, fault := some e } := by
  rw [Audience.hear, h]

/-- the writer among the listeners of a command line -/
def Audience.scribe (a : Audience) : Scribe := (a.writer, a.disk)

/-- the listeners of a command line: the writer, and the console -/
theorem hasScribe_watched (environment : Environment) :
    HasScribe (Session.surroundings environment).watched (fun a => a.1.scribe)
      (fun a => a.2 = false) := by
  have heard (now : Instant) (c : Conversation) (a : Audience × Bool) :
      (Session.surroundings environment).watched.hear now c a =
        { Audience.hear now c a.1 with
          audience := ((Audience.hear now c a.1).audience,
            a.2 || (Audience.hear now c a.1).fault.isSome) } := rfl
  have hquiet (now : Instant) (c : Conversation) (a : Audience) :
      (Audience.hear now c a).requests = [] ∧ Journal.prompts (Audience.hear now c a).entries = [] := by
    rcases hw : a.writer.hear a.disk c with ⟨e | ⟨⟩, w, d⟩
    · rw [hear_error hw]
      exact ⟨rfl, rfl⟩
    · rw [hear_ok hw]
      exact ⟨rfl, prompts_hear ..⟩
  have hfine {old : Bool} {fault : Option Fault} (h : (old || fault.isSome) = false) :
      old = false ∧ fault = none := by
    obtain ⟨hold, hfault⟩ := Bool.or_eq_false_iff.mp h
    exact ⟨hold, Option.isNone_iff_eq_none.mp (Option.isSome_eq_false_iff.mp hfault)⟩
  refine ⟨fun now c a => ?_, fun now c a => ?_, fun now c a h => ?_⟩
  · rw [heard]
    exact ⟨(hquiet now c a.1).1, (hquiet now c a.1).2, hfine⟩
  · rw [heard]
    rcases hw : a.1.writer.hear a.1.disk c with ⟨e | ⟨⟩, w, d⟩
    · rw [hear_error hw, Scribe.hear, show a.1.scribe.1.hear a.1.scribe.2 c = _ from hw]
      rfl
    · rw [hear_ok hw, Scribe.hear, show a.1.scribe.1.hear a.1.scribe.2 c = _ from hw]
      rfl
  · rw [heard] at h
    have hnone := (hfine h).2
    rcases hw : a.1.writer.hear a.1.disk c with ⟨e | ⟨⟩, w, d⟩
    · rw [hear_error hw] at hnone
      cases hnone
    · exact congrArg Prod.fst hw

end CommandLine

end Debate
