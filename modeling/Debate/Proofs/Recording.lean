import Debate.Proofs.Remembering
import Debate.Store

/-!
# The thread log tells what was said

A writer that listens to a store leaves a log that tells the whole story: each change adds the lines
that are due and no others, and replayed over the messages that were settled from the start, the log
gives the text of every settled message, however messages are settled, reopened, written anew and
dropped.

* `Conversation.IsLegible`, `Action.IsLegible`   texts where texts are meant, and ids that differ;
* `Recording`                 a store that a writer listens to;
* `Recording.dispatch_spec`   one change;
* `Recording.Told`            changes, with the records that they leave in the log;
* `Recording.told_of_dispatchAll`   every run of changes leaves such records;
* `thread_log`                what the log says after every change.
-/

namespace Debate

open Debate.Files Debate.Text

/-! ## legible changes -/

/-- a conversation whose messages have texts for ids, all of them different, and texts -/
structure Conversation.IsLegible (c : Conversation) : Prop where
  textual : ∀ m ∈ c.messages, m.IsTextual
  distinct : (c.messages.map (·.id)).Nodup

/-- a change that brings texts where texts are meant, and a new id with a new message -/
def Action.IsLegible (c : Conversation) : Action → Prop
  | .append m => m.IsTextual ∧ m.id ∉ c.messages.map (·.id)
  | .resolve _ text _ _ => ∃ t, text = .text t
  | .replace m => m.IsTextual
  | .fail .. | .reopen _ | .dropPending | .setDocument _ => True

theorem Conversation.IsLegible.modify {c : Conversation} (hc : c.IsLegible) (id : Value)
    {f : Message → Message} (hid : ∀ m ∈ c.messages, m.hasId id = true → (f m).id = m.id)
    (htext : ∀ m ∈ c.messages, m.hasId id = true → (f m).IsTextual) : (c.modify id f).IsLegible where
  textual m hm := by
    obtain ⟨x, hx, rfl⟩ := List.mem_map.mp hm
    split
    · rename_i h
      exact htext x hx h
    · exact hc.textual x hx
  distinct := by
    have hids : (c.modify id f).messages.map (·.id) = c.messages.map (·.id) := by
      rw [Conversation.modify, List.map_map]
      refine List.map_congr_left fun x hx => ?_
      rw [Function.comp_apply]
      split
      · rename_i h
        exact hid x hx h
      · rfl
    rw [hids]
    exact hc.distinct

/-- what a change leaves is legible again -/
theorem Conversation.IsLegible.apply {c : Conversation} (hc : c.IsLegible) {a : Action}
    (ha : a.IsLegible c) : (c.apply a).IsLegible := by
  cases a with
  | append m =>
    obtain ⟨hm, hfresh⟩ := ha
    refine ⟨fun x hx => ?_, ?_⟩
    · rcases List.mem_append.mp hx with hx | hx
      · exact hc.textual x hx
      · rw [List.mem_singleton.mp hx]
        exact hm
    · show ((c.messages ++ [m]).map (·.id)).Nodup
      rw [List.map_append, List.map_singleton]
      refine hc.distinct.append (List.nodup_singleton _) fun id hid hlast => hfresh ?_
      rwa [← List.mem_singleton.mp hlast]
  | resolve id text durationMs document =>
    have hmodified := hc.modify id (f := (·.resolved text durationMs)) (fun m _ _ => rfl)
      fun m hm _ => ⟨(hc.textual m hm).id, ha⟩
    exact ⟨hmodified.textual, hmodified.distinct⟩
  | fail id error => exact hc.modify id (fun m _ _ => rfl) fun m hm _ => ⟨(hc.textual m hm).id, _, rfl⟩
  | reopen id => exact hc.modify id (fun m _ _ => rfl) fun m hm _ => ⟨(hc.textual m hm).id, _, rfl⟩
  | replace m =>
    obtain ⟨s, hs⟩ := ha.id
    refine hc.modify m.id (fun x _ hid => ?_) fun _ _ _ => ha
    rw [Message.hasId, hs] at hid
    rw [hs, Value.eq_of_same_text hid]
  | dropPending =>
    exact ⟨fun x hx => hc.textual x (List.mem_filter.mp hx).1,
      hc.distinct.sublist (List.filter_sublist.map _)⟩
  | setDocument content => exact ⟨hc.textual, hc.distinct⟩

/-- changes that can be made one after the other -/
def Action.AreLegible : Conversation → List Action → Prop
  | _, [] => True
  | c, a :: as => a.IsLegible c ∧ AreLegible (c.apply a) as

namespace Transcript

/-- a store that a writer listens to -/
structure Recording where
  store : Store
  writer : Writer
  disk : Disk

namespace Recording

/-- a conversation in a store, with a writer that starts to listen -/
def start (run : Path) (c : Conversation) (d : Disk) : Recording :=
  ⟨{ conversation := c }, .start run c, d⟩

/-- the bytes of the thread log -/
def log (r : Recording) : List UInt8 := r.disk.tree.bytesAt r.writer.threadPath.place

/-- a change that is made, and shown to the writer -/
def dispatch (r : Recording) (a : Action) : Except Fault Unit × Recording :=
  match r.store.refusal? (.dispatch a) with
  | some e => (.error e, r)
  | none =>
    let store := (r.store.perform (.dispatch a)).1
    let heard := r.writer.hear r.disk store.conversation
    (heard.1, ⟨store, heard.2.1, heard.2.2⟩)

/-- changes, one after the other, as long as nothing goes wrong -/
def dispatchAll (r : Recording) : List Action → Except Fault Recording
  | [] => .ok r
  | a :: as =>
    match r.dispatch a with
    | (.ok (), r) => r.dispatchAll as
    | (.error e, _) => .error e

theorem of_dispatch {r r' : Recording} {a : Action} (h : r.dispatch a = (.ok (), r')) :
    r'.store.conversation = r.store.conversation.apply a ∧
      r.writer.hear r.disk r'.store.conversation = (.ok (), r'.writer, r'.disk) := by
  rw [dispatch] at h
  split at h
  · cases h
  · obtain ⟨hok, hrest⟩ := Prod.mk.inj h
    subst hrest
    exact ⟨rfl, Prod.ext hok rfl⟩

theorem of_dispatchAll_cons {r r'' : Recording} {a : Action} {as : List Action}
    (h : r.dispatchAll (a :: as) = .ok r'') :
    ∃ r', r.dispatch a = (.ok (), r') ∧ r'.dispatchAll as = .ok r'' := by
  rw [dispatchAll] at h
  split at h
  · exact ⟨_, ‹_›, h⟩
  · cases h

/-- one change: the news stand behind what was in the log, and after them all that is settled is
known -/
theorem dispatch_spec {known : Known} {r r' : Recording} {a : Action} (hknows : Knows known r.writer)
    (hc : r.store.conversation.IsLegible) (ha : a.IsLegible r.store.conversation)
    (h : r.dispatch a = (.ok (), r')) :
    ∃ es, Consistent known es ∧ Knows (replay known es) r'.writer ∧
      r'.log = r.log ++ es.flatMap Record.bytes ∧
      (∀ e ∈ es, e.message ∈ r'.store.conversation.settled) ∧
      ∀ m ∈ r'.store.conversation.settled, replay known es m.id = some m.text := by
  obtain ⟨happly, hhear⟩ := of_dispatch h
  have hc' : r'.store.conversation.IsLegible := happly ▸ hc.apply ha
  obtain ⟨hknows', hrun, hlog⟩ := Writer.of_hear hknows hc'.textual hhear
  refine ⟨news known r'.store.conversation.messages, consistent_news _ _, hknows', ?_, ?_, ?_⟩
  · rw [log, Writer.threadPath, hrun]
    exact hlog
  · intro e he
    obtain ⟨hmem, hpending⟩ := mem_news he
    exact List.mem_filter.mpr ⟨hmem, by rw [hpending]; rfl⟩
  · intro m hm
    obtain ⟨hmem, hpending⟩ := List.mem_filter.mp hm
    exact replay_news hc'.distinct hmem (by simpa using hpending)

/-- changes, each with the records that it leaves in the log: they are of messages that are settled
then, and all that is settled is known from them -/
inductive Told : Known → Recording → List (Action × List Record) → Recording → Prop where
  | done (known : Known) (r : Recording) : Told known r [] r
  | change {known : Known} {r r' r'' : Recording} {a : Action} {es : List Record}
      {rest : List (Action × List Record)} (h : r.dispatch a = (.ok (), r'))
      (hlog : r'.log = r.log ++ es.flatMap Record.bytes)
      (hsettled : ∀ e ∈ es, e.message ∈ r'.store.conversation.settled)
      (hknown : ∀ m ∈ r'.store.conversation.settled, replay known es m.id = some m.text)
      (hrest : Told (replay known es) r' rest r'') : Told known r ((a, es) :: rest) r''

/-- every run of changes is told -/
theorem told_of_dispatchAll {known : Known} {r r' : Recording} {as : List Action}
    (hknows : Knows known r.writer) (hc : r.store.conversation.IsLegible)
    (has : Action.AreLegible r.store.conversation as)
    (hknown : ∀ m ∈ r.store.conversation.settled, known m.id = some m.text)
    (h : r.dispatchAll as = .ok r') :
    ∃ changes, changes.map (·.1) = as ∧ Told known r changes r' ∧
      Consistent known (changes.flatMap (·.2)) ∧
      ∀ m ∈ r'.store.conversation.settled, replay known (changes.flatMap (·.2)) m.id = some m.text := by
  induction as generalizing known r with
  | nil =>
    cases h
    exact ⟨[], rfl, .done known _, consistent_nil known, hknown⟩
  | cons a as ih =>
    obtain ⟨ha, has'⟩ := has
    obtain ⟨r₁, hdispatch, hrest⟩ := of_dispatchAll_cons h
    obtain ⟨es, hconsistent, hknows', hlog, hsettled, hknown'⟩ := dispatch_spec hknows hc ha hdispatch
    have happly := (of_dispatch hdispatch).1
    obtain ⟨changes, hactions, htold, hconsistent', hlast⟩ :=
      ih hknows' (happly ▸ hc.apply ha) (happly ▸ has') hknown' hrest
    refine ⟨(a, es) :: changes, congrArg (a :: ·) hactions,
      .change hdispatch hlog hsettled hknown' htold, ?_, fun m hm => ?_⟩
    · rw [List.flatMap_cons]
      exact hconsistent.append hconsistent'
    · rw [List.flatMap_cons, replay_append]
      exact hlast m hm

end Recording

/-- the thread log tells the whole story: each change adds whole lines to it, of messages that are
settled then; a record is a revision if, and only if, its message was settled from the start or
recorded before, and its text is another one then; and replayed over the messages that were settled
from the start, the log gives the text of every settled message -/
theorem thread_log {c : Conversation} {run : Path} {d : Disk} {as : List Action} {r : Recording}
    (hc : c.IsLegible) (has : Action.AreLegible c as)
    (h : (Recording.start run c d).dispatchAll as = .ok r) :
    ∃ changes, changes.map (·.1) = as ∧
      Recording.Told (settledTexts c) (.start run c d) changes r ∧
      (∀ e ∈ changes.flatMap (·.2), '\n' ∉ e.line.toList) ∧
      (∀ before e after, changes.flatMap (·.2) = before ++ e :: after →
        (e.revision = true ↔
          (∃ m ∈ c.settled, m.id = e.message.id) ∨ ∃ x ∈ before, x.message.id = e.message.id) ∧
        replay (settledTexts c) before e.message.id ≠ some e.message.text) ∧
      ∀ m ∈ r.store.conversation.settled,
        replay (settledTexts c) (changes.flatMap (·.2)) m.id = some m.text := by
  obtain ⟨changes, hactions, htold, hconsistent, hknown⟩ :=
    Recording.told_of_dispatchAll (knows_start run hc.distinct) hc has
      (fun m hm => settledTexts_of_mem hc.distinct hm) h
  refine ⟨changes, hactions, htold, fun e _ => e.newline_not_mem_line, ?_, hknown⟩
  intro before e after hsplit
  obtain ⟨hrevision, htext⟩ := hconsistent before e after hsplit
  refine ⟨?_, htext⟩
  rw [hrevision, isSome_replay, settledTexts, Option.isSome_map, List.find?_isSome]
  simp only [decide_eq_true_eq]

/-- a request that was answered before, and a turn that is under way -/
def underway : Conversation where
  id := .text "c"
  createdAt := .text "t0"
  messages := [.request "m1" "t1" (.text "Earlier") .null, .placeholder "m2" "t2" .agentA]

/-- the turn fails and is taken once more, and the request is written anew -/
def rewriting : List Action :=
  [.fail (.text "m2") "down", .reopen (.text "m2"),
    .resolve (.text "m2") (.text "Recovered") (.int 10) (.text "notes"),
    .replace (.request "m1" "t1" (.text "Later") .null), .append (.notice "m3" "t3" "Done"),
    .dropPending]

theorem thread_log_rewriting :
    underway.IsLegible ∧ Action.AreLegible underway rewriting ∧
      ∃ r, (Recording.start { names := ["run"] } underway {}).dispatchAll rewriting = .ok r ∧
        ∃ changes, changes.map (·.1) = rewriting ∧
          Recording.Told (settledTexts underway) (.start { names := ["run"] } underway {}) changes r ∧
          ∀ m ∈ r.store.conversation.settled,
            replay (settledTexts underway) (changes.flatMap (·.2)) m.id = some m.text := by
  have hlegible : underway.IsLegible := by
    refine ⟨fun m hm => ?_, by decide⟩
    rcases List.mem_cons.mp hm with rfl | hm
    · exact ⟨⟨_, rfl⟩, _, rfl⟩
    · rw [List.mem_singleton.mp hm]
      exact ⟨⟨_, rfl⟩, _, rfl⟩
  have hactions : Action.AreLegible underway rewriting :=
    ⟨trivial, trivial, ⟨_, rfl⟩, ⟨⟨_, rfl⟩, _, rfl⟩, ⟨⟨⟨_, rfl⟩, _, rfl⟩, by decide⟩, trivial, trivial⟩
  have hrun : ((Recording.start { names := ["run"] } underway {}).dispatchAll rewriting).toOption.isSome =
      true := by decide +kernel
  obtain ⟨r, hr⟩ := Option.isSome_iff_exists.mp hrun
  have hok : (Recording.start { names := ["run"] } underway {}).dispatchAll rewriting = .ok r := by
    cases hcase : (Recording.start { names := ["run"] } underway {}).dispatchAll rewriting with
    | error e =>
      rw [hcase] at hr
      cases hr
    | ok x =>
      rw [hcase] at hr
      rw [Option.some.inj hr]
  obtain ⟨changes, hmap, htold, -, -, hknown⟩ := thread_log hlegible hactions hok
  exact ⟨hlegible, hactions, r, hok, changes, hmap, htold, hknown⟩

end Transcript

end Debate
