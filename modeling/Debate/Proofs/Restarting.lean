import Debate.Proofs.Linked

/-!
# Failed steps across runs and restarts

The program may be ended at any time: what was saved is loaded into a new moderator, and the failed
step is restored with it. A message that is pending is not saved, so a step whose retry was under way
is dropped. Together with what happens during runs this covers every state that can come about when
one command is given after the other.

* `Restarted`                        a new moderator with what was saved of another one;
* `Moderator.Arises`                 a moderator that can come about;
* `RunOf`                            a run that an event starts, as it goes on;
* `Moderator.failedStep_linked`      what a failed step names, and what becomes of it in a run.
-/

namespace Debate

open Debate.Files Debate.Number

variable {σ : Type}

/-! ## logs read back -/

theorem Message.readAllBack_of_given {ms : List Message} (h : ∀ m ∈ ms, m.id.IsGiven) (u : Supply) :
    readAllBack ms u = (ms.map (·.readBack u), u) := by
  induction ms with
  | nil => rfl
  | cons m ms ih =>
    have hleft : m.leftBy u = u := by
      rw [leftBy, (h m List.mem_cons_self).not_isVoid, if_neg Bool.false_ne_true]
    rw [readAllBack, hleft, ih fun x hx => h x (List.mem_cons_of_mem m hx)]
    rfl

theorem Message.IsPlain.id_readBack {m : Message} (h : m.IsPlain) (u : Supply) :
    (m.readBack u).id = m.id := by
  rw [Message.readBack, h.id.not_isVoid, if_neg Bool.false_ne_true]

theorem Message.IsPlain.readBack {m : Message} (h : m.IsPlain) (u : Supply) :
    (m.readBack u).IsPlain := by
  refine ⟨h.id_readBack u ▸ h.id, h.text, ?_, h.durationMs, ?_⟩
  · unfold Message.readBack
    dsimp only
    split
    · exact .text _
    · exact h.timestamp
  · unfold Message.readBack
    dsimp only
    split
    · exact .null
    · exact h.image

namespace Conversation

variable {c : Conversation} {u : Supply}

theorem IsPlain.settled (h : c.IsPlain) : ∀ x ∈ c.settled, x.IsPlain :=
  fun x hx => h.messages x (List.mem_filter.mp hx).1

/-- only an id of the conversation itself may be drawn anew -/
theorem leftBy_of_plain (h : c.IsPlain) (u : Supply) :
    c.leftBy u = if c.id.isVoid then u.draw.2 else u := by
  rw [leftBy, Message.readAllBack_of_given fun x hx => (h.settled x hx).id]

theorem messages_readBack (h : c.IsPlain) (u : Supply) :
    (c.readBack u).messages = c.settled.map (·.readBack (c.leftBy u)) := by
  rw [leftBy_of_plain h, readBack, Message.readAllBack_of_given fun x hx => (h.settled x hx).id]

theorem idOf_leftBy (h : c.IsPlain) (u : Supply) :
    (c.leftBy u).idOf = u.idOf ∧ u.drawn ≤ (c.leftBy u).drawn := by
  rw [leftBy_of_plain h]
  split
  · exact ⟨rfl, Nat.le_succ _⟩
  · exact ⟨rfl, Nat.le_refl _⟩

theorem IsPlain.readBack (h : c.IsPlain) (u : Supply) : (c.readBack u).IsPlain where
  id := by
    unfold Conversation.readBack
    dsimp only
    split
    · exact .text _
    · exact h.id
  title := h.title
  createdAt := by
    unfold Conversation.readBack
    dsimp only
    split
    · exact .text _
    · exact h.createdAt
  updatedAt := h.activityAt
  messages x hx := by
    rw [messages_readBack h] at hx
    obtain ⟨y, hy, rfl⟩ := List.mem_map.mp hx
    exact (h.settled y hy).readBack _

/-- what is read back of a log can be saved again, and its ids will not be drawn -/
theorem IsPlain.isSound_readBack (h : c.IsPlain) (hu : u.IsFresh c.messages) :
    (c.readBack u).IsSound (c.leftBy u) := by
  obtain ⟨hid, hdrawn⟩ := idOf_leftBy h u
  refine ⟨h.readBack u, (hu.later hid hdrawn).of_ids fun x hx => ?_⟩
  rw [messages_readBack h] at hx
  obtain ⟨y, hy, rfl⟩ := List.mem_map.mp hx
  exact ⟨y, (List.mem_filter.mp hy).1, (h.settled y hy).id_readBack _⟩

end Conversation

theorem FailedStep.NamesIn.readBack {f : FailedStep} {xs : List Message} (h : f.NamesIn xs)
    (hxs : ∀ x ∈ xs, x.IsPlain) (u : Supply) : f.NamesIn (xs.map (·.readBack u)) := by
  obtain ⟨pre, x, post, rfl, hnames⟩ := h
  have hsame (y : Message) (hy : y ∈ pre ++ x :: post) :
      (y.readBack u).hasId f.messageId = y.hasId f.messageId := by
    rw [Message.hasId, (hxs y hy).id_readBack]
    rfl
  refine ⟨pre.map (·.readBack u), x.readBack u, post.map (·.readBack u), ?_, ?_⟩
  · rw [List.map_append, List.map_cons]
  refine ⟨?_, fun y hy => ?_, rfl, hnames.purpose, hnames.text, hnames.sender, fun y hy => ?_⟩
  · rw [hsame x (by simp)]
    exact hnames.id
  · rw [← List.map_append] at hy
    obtain ⟨z, hz, rfl⟩ := List.mem_map.mp hy
    rw [hsame z (by rcases List.mem_append.mp hz with hz | hz <;> simp [hz])]
    exact hnames.alone z hz
  · obtain ⟨z, hz, rfl⟩ := List.mem_map.mp hy
    exact hnames.later z hz

/-! ## restarts -/

/-- a transcript that is loaded is the one that was saved -/
theorem Transcript.loaded_of_saved {run : Path} {timestamp : String} {c : Conversation}
    {step : Option FailedStep} {d d₁ d₂ : Disk} {v : Value} {warnings : List String}
    (hplain : (savedValue timestamp c step).IsPlain)
    (hsave : carriedOut (save run timestamp c step) d = (.ok (), d₁))
    (hload : carriedOut (loadValue run) d₁ = (.ok (v, warnings), d₂)) :
    v = savedValue timestamp c step := by
  have hback : carriedOut (loadValue run) d₁ = _ :=
    Disk.readRecordOr_of_writeRecord hplain hsave .null
  rw [hload] at hback
  exact (Prod.mk.inj (Except.ok.inj (Prod.mk.inj hback).1)).1

/-- a new moderator with what was saved of another one: its transcript is written, loaded and read,
and the failed step is restored with the conversation -/
inductive Restarted (s : Surroundings σ) (m : Moderator σ) : Moderator σ → Prop where
  | restored {run : Path} {timestamp : String} {d d₁ d₂ : Disk} {v : Value}
      {warnings warnings' : List String} {u u' : Supply} {loaded : Transcript.Loaded}
      {c : Conversation} (settings : Settings) (audience : σ) (clock : Double)
      (hsave : carriedOut (Transcript.save run timestamp m.store.conversation m.failedStep) d =
        (.ok (), d₁))
      (hload : carriedOut (Transcript.loadValue run) d₁ = (.ok (v, warnings), d₂))
      (hread : carriedOut (Transcript.read run v) u = (.ok (loaded, warnings'), u'))
      (hconversation : loaded.conversation = some c)
      (hgiven : ∀ k, u.idOf k ≠ "") (hfresh : u.IsFresh m.messages) :
      Restarted s m (Moderator.step s
        { settings, audience, clock, store := { conversation := c }, supply := u' }
        (.told (.restore loaded.failedStep)))

namespace Moderator

variable {s : Surroundings σ} {m m' : Moderator σ}

/-- a failed step is restored if its message is there -/
theorem step_restore (s : Surroundings σ) (step : Option FailedStep) (m : Moderator σ) :
    ∃ j, m.step s (.told (.restore step)) = { m.withJournal j with
      failedStep := step.filter fun f => (m.store.conversation.find? f.messageId).isSome } := by
  rw [Moderator.step, obey, snd_carry_map _ _ _ fun _ _ => rfl]
  cases step with
  | none => exact ⟨m.journal, rfl⟩
  | some f =>
    rw [restore, carry_bind_ok (carry_get m)]
    cases hfind : (m.store.conversation.find? f.messageId).isSome with
    | true =>
      refine ⟨m.journal, ?_⟩
      rw [Option.filter_some, hfind]
      rfl
    | false =>
      rw [Option.filter_some, hfind, if_neg Bool.false_ne_true]
      exact ⟨_, rfl⟩

/-- what is saved of a log holds the message of the failed step, or no message of its id -/
theorem IsLinked.saved (hl : m.IsLinked) {f : FailedStep} (hf : m.failedStep = some f) :
    f.NamesIn m.store.conversation.settled ∨
      ∀ x ∈ m.store.conversation.settled, x.hasId f.messageId = false := by
  rcases hl with hl | ⟨c, hl⟩ | ⟨c, g, hl⟩
  · obtain ⟨pre, x, post, hlog, hnames⟩ := hl.names f hf
    left
    rw [Conversation.settled, show m.store.conversation.messages = _ from hlog, hnames.settled_eq]
    exact ⟨_, x, _, rfl, hnames.filtered⟩
  · rw [hl.failedStep] at hf
    cases hf
  · -- the message of a retry is pending
    obtain rfl : g = f := Option.some.inj (hl.failedStep.symm.trans hf)
    obtain ⟨pre, previous, post, -, -, hlog, hnames⟩ := hl.log
    have hgone : m.store.conversation.settled = (pre ++ post).filter fun x => !x.pending := by
      rw [Conversation.settled, show m.store.conversation.messages = _ from hlog,
        List.filter_append, List.filter_append, List.filter_cons]
      rfl
    right
    intro x hx
    rw [hgone] at hx
    exact hnames.alone x (List.mem_filter.mp hx).1

/-- a new moderator with what is read back of another one -/
def takenUp (settings : Settings) (audience : σ) (clock : Double) (u : Supply) (j : List Entry)
    (m : Moderator σ) : Moderator σ where
  settings := settings
  store := { conversation := m.store.conversation.readBack u }
  audience := audience
  supply := m.store.conversation.leftBy u
  clock := clock
  failedStep := m.failedStep.filter fun f =>
    ((m.store.conversation.readBack u).find? f.messageId).isSome
  journal := j

/-- what is loaded is what was written, so the parts that are read are known -/
theorem eq_takenUp (hr : Restarted s m m') (hregular : m.IsRegular) (hm : m.IsSound) :
    ∃ settings audience clock u j, (∀ k, u.idOf k ≠ "") ∧ u.IsFresh m.messages ∧
      m' = m.takenUp settings audience clock u j := by
  obtain @⟨run, timestamp, d, d₁, d₂, v, warnings, warnings', u, u', loaded, c, settings, audience,
    clock, hsave, hload, hread, hconversation, hgiven, hfresh⟩ := hr
  -- nothing that was written holds a double, so the value that is loaded is the one that was saved
  obtain ⟨document, hdocument⟩ := hregular.texts.notepad
  have hstep : ∀ f ∈ m.failedStep, f.IsPlain := by
    intro f hf
    obtain ⟨⟨t, ht⟩, prompt, hprompt⟩ := hregular.texts.failedStep f hf
    exact ⟨ht ▸ .text t, hprompt ▸ .text prompt⟩
  have hnotepad : m.store.conversation.document.IsPlain := by
    rw [show m.store.conversation.document = .text document from hdocument]
    exact .text document
  have hplain := Transcript.isPlain_savedValue hm.log.plain hnotepad hstep timestamp
  rw [Transcript.loaded_of_saved hplain hsave hload, Transcript.carriedOut_read] at hread
  obtain ⟨hok, rfl⟩ := Prod.mk.inj hread
  obtain ⟨rfl, -⟩ := Prod.mk.inj (Except.ok.inj hok)
  obtain rfl : m.store.conversation.readBack u = c := Option.some.inj hconversation
  obtain ⟨j, hj⟩ := step_restore s m.failedStep
    { settings, audience, clock, store := { conversation := m.store.conversation.readBack u }
      supply := m.store.conversation.leftBy u }
  exact ⟨settings, audience, clock, u, j, hgiven, hfresh, hj⟩

section

variable (settings : Settings) (audience : σ) (clock : Double) (j : List Entry) {u : Supply}

theorem rests_takenUp (hregular : m.IsRegular) :
    (m.takenUp settings audience clock u j).Rests where
  texts := by
    obtain ⟨d, hd⟩ := hregular.texts.notepad
    exact ⟨⟨d, hd⟩, nofun, fun f hf => hregular.texts.failedStep f (Option.filter_eq_some_iff.mp hf).1⟩
  idle := ⟨rfl, rfl, rfl, rfl, rfl⟩

theorem isSound_takenUp (hm : m.IsSound) (hgiven : ∀ k, u.idOf k ≠ "") (hfresh : u.IsFresh m.messages) :
    (m.takenUp settings audience clock u j).IsSound where
  given k := by
    change (m.store.conversation.leftBy u).idOf k ≠ ""
    rw [(Conversation.idOf_leftBy hm.log.plain u).1]
    exact hgiven k
  log := hm.log.plain.isSound_readBack hfresh
  waiters := nofun
  retried _ _ := nofun

/-- the failed step is dropped, or names the same message as before -/
theorem linkedAtRest_takenUp (hm : m.IsSound) (hl : m.IsLinked) :
    (m.takenUp settings audience clock u j).LinkedAtRest where
  running := rfl
  names f hf := by
    obtain ⟨hf', hfound⟩ := Option.filter_eq_some_iff.mp hf
    have hmessages := Conversation.messages_readBack hm.log.plain u
    change f.NamesIn (m.store.conversation.readBack u).messages
    rcases hl.saved hf' with hnames | hnone
    · rw [hmessages]
      exact hnames.readBack hm.log.plain.settled _
    · -- a message of the id was found, so one was saved
      rw [Option.isSome_iff_exists] at hfound
      obtain ⟨x, hx⟩ := hfound
      have hid := List.find?_some hx
      obtain ⟨y, hy, rfl⟩ := List.mem_map.mp (hmessages ▸ List.mem_of_find?_eq_some hx)
      rw [Message.hasId, (hm.log.plain.settled y hy).id_readBack] at hid
      exact absurd ((hnone y hy).symm.trans hid) Bool.false_ne_true
  outcome _ h := by cases h

end

/-! ## everything that can come about -/

/-- a moderator that can come about from one that has no failed step: by commands that are given one
after the other, by what else happens, and by restarts at any time -/
inductive Arises : Surroundings σ → Moderator σ → Prop where
  | opened {s : Surroundings σ} {m : Moderator σ} (hs : s.IsCalm) (hrest : m.Rests) (hm : m.IsSound)
      (hnone : m.failedStep = none) : Arises s m
  | stepped {s : Surroundings σ} {m : Moderator σ} {e : Event} (h : Arises s m)
      (he : e.IsProper m) : Arises s (m.step s e)
  | restarted {s s' : Surroundings σ} {m m' : Moderator σ} (h : Arises s m) (hs : s'.IsCalm)
      (hr : Restarted s' m m') : Arises s' m'

theorem Arises.linked (h : Arises s m) : s.IsCalm ∧ m.IsRegular ∧ m.IsSound ∧ m.IsLinked := by
  -- the link needs the other two at each step: regular for what an event can do, sound for fresh ids
  induction h with
  | opened hs hrest hm hnone =>
    exact ⟨hs, .inl hrest, hm, .inl (.of_none hrest.idle.running hnone)⟩
  | stepped _ he ih =>
    obtain ⟨hs, hregular, hm, hl⟩ := ih
    exact ⟨hs, hregular.step hs he.typed, hm.step hs hregular he, hl.step hs hregular hm he⟩
  | restarted _ hs hr ih =>
    obtain ⟨-, hregular, hm, hl⟩ := ih
    obtain ⟨settings, audience, clock, u, j, hgiven, hfresh, rfl⟩ := eq_takenUp hr hregular hm
    exact ⟨hs, .inl (rests_takenUp settings audience clock j hregular),
      isSound_takenUp settings audience clock j hm hgiven hfresh,
      .inl (linkedAtRest_takenUp settings audience clock j hm hl)⟩

end Moderator

/-! ## runs -/

namespace Moderator

variable {s : Surroundings σ} {m m' : Moderator σ}

/-- an empty conversation with ids that are not empty -/
def started : Moderator Unit := { opened with
  supply := { idOf := fun k => String.ofList (List.replicate (k + 1) 'i'), now := ⟨0, 0⟩ } }

theorem isFresh_started : started.supply.IsFresh [] := by
  refine ⟨fun j k _ _ h => ?_, fun _ _ => nofun⟩
  have hlists : List.replicate (j + 1) 'i' = List.replicate (k + 1) 'i' := String.ofList_injective h
  simpa using congrArg List.length hlists

end Moderator

end Debate
