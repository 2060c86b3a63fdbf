import Debate.Proofs.Reporting
import Debate.Proofs.Resuming

/-!
# What is on the screen

A process of the command line takes up the conversation of a directory, or starts one, and leads a debate
or takes a failed turn once more. Whatever is replied meanwhile, and whoever cancels it, what it prints of
messages is what it adds to the thread log: the same messages in the same order, none of them pending, and
of those that were loaded only ones whose text was changed.

* `Yields`                 what is known of the result of a computation;
* `Session.TakesUp`        how a process comes to its conversation;
* `Session.process`        the moderator after a process;
* `Session.log_process`    what a process adds to the thread log;
* `Session.isEven_opening` its listeners know the same of each message to start with;
* `Session.screen_log`     what is on the screen is what is in the log.
-/

namespace Debate

open Debate.Files Debate.Transcript Debate.CommandLine

/-! ## what is loaded -/

section

variable {τ α β : Type} {P : α → Prop} {Q : β → Prop} {x : ExceptT Fault (StateM τ) α}
  {f : α → ExceptT Fault (StateM τ) β}

/-- what every result of a computation is like -/
def Yields (P : α → Prop) (x : ExceptT Fault (StateM τ) α) : Prop :=
  ∀ t a t', carriedOut x t = (.ok a, t') → P a

namespace Yields

theorem pure {a : α} (h : P a) : Yields P (pure a : ExceptT Fault (StateM τ) α) := by
  rintro t b t' hb
  obtain rfl := Except.ok.inj (congrArg Prod.fst hb)
  exact h

theorem bind (hx : Yields P x) (hf : ∀ a, P a → Yields Q (f a)) : Yields Q (x >>= f) := by
  intro t b t'' hb
  obtain ⟨a, t', ha, hb⟩ := exists_of_carriedOut_bind hb
  exact hf a (hx t a t' ha) t' b t'' hb

theorem skip (hf : ∀ a, Yields Q (f a)) : Yields Q (x >>= f) :=
  bind (P := fun _ => True) (fun _ _ _ _ => trivial) fun a _ => hf a

theorem mapM (h : ∀ a, Yields Q (f a)) (as : List α) :
    Yields (fun bs => ∀ b ∈ bs, Q b) (as.mapM f) := by
  induction as with
  | nil => exact pure nofun
  | cons a as ih =>
    rw [List.mapM_cons]
    exact (h a).bind fun b hb => ih.bind fun bs hbs => pure (List.forall_mem_cons.mpr ⟨hb, hbs⟩)

end Yields

end

theorem Message.yields_read (v : Value) : Yields (fun m => m.pending = false) (Message.read v) :=
  .skip fun _ => .skip fun _ => .skip fun _ => .skip fun _ => .skip fun _ => .pure rfl

theorem Conversation.yields_read (v : Value) : Yields (fun c => AllSettled c.messages) (Conversation.read v) :=
  .skip fun _ => .skip fun _ => .skip fun _ => .skip fun items =>
    (Yields.mapM Message.yields_read items).bind fun _ h => .pure h

/-- a saved run whose conversation has no pending message -/
def Transcript.Loaded.IsSettled (l : Loaded) : Prop :=
  ∀ c, l.conversation = some c → AllSettled c.messages

theorem Transcript.yields_parts (v : Value) : Yields Loaded.IsSettled (parts v) := by
  refine .skip fun fs => (Conversation.yields_read _).bind fun c hc => ?_
  have hloaded (step : Option FailedStep) : Loaded.IsSettled { conversation := some c, failedStep := step } := by
    rintro _ ⟨⟩
    exact hc
  dsimp only
  split
  · exact .pure (hloaded none)
  · exact .skip fun step => .pure (hloaded (some step))

theorem Transcript.isSettled_empty : Loaded.IsSettled {} := by
  rintro c ⟨⟩

theorem Transcript.yields_read (run : Path) (v : Value) :
    Yields (fun l => Loaded.IsSettled l.1) (Transcript.read run v) := by
  intro u l u' h
  have hread : Transcript.read run v u = (.ok l, u') := h
  rw [Transcript.read] at hread
  split at hread
  · obtain rfl := Except.ok.inj (congrArg Prod.fst hread)
    exact isSettled_empty
  · split at hread
    · rename_i loaded _ hparts
      obtain rfl := Except.ok.inj (congrArg Prod.fst hread)
      exact yields_parts v u loaded _ hparts
    · split at hread
      · obtain rfl := Except.ok.inj (congrArg Prod.fst hread)
        exact isSettled_empty
      · cases congrArg Prod.fst hread

/-! ## records -/

namespace Transcript.Record

/-- the bytes of records, as a text with a line for each -/
theorem exists_text (rs : List Record) :
    ∃ s : String, rs.flatMap bytes = Text.Utf8.encode s ∧ s.toList.count '\n' = rs.length := by
  induction rs with
  | nil => exact ⟨"", rfl, rfl⟩
  | cons r rs ih =>
    obtain ⟨s, hs, hcount⟩ := ih
    refine ⟨r.line ++ "\n" ++ s, ?_, ?_⟩
    · rw [List.flatMap_cons, hs, bytes, Text.Utf8.encode, Text.Utf8.encode, Text.Utf8.encode,
        String.toList_append (s := r.line ++ "\n"), List.flatMap_append]
    · rw [String.toList_append, String.toList_append, List.count_append, List.count_append, hcount,
        List.count_eq_zero_of_not_mem r.newline_not_mem_line, Nat.zero_add, Nat.add_comm,
        List.length_cons]
      rfl

/-- the bytes of records tell how many there are -/
theorem length_eq_of_bytes {rs rs' : List Record} (h : rs.flatMap bytes = rs'.flatMap bytes) :
    rs.length = rs'.length := by
  obtain ⟨s, hs, hcount⟩ := exists_text rs
  obtain ⟨s', hs', hcount'⟩ := exists_text rs'
  have hencoded : Text.Utf8.encode s = Text.Utf8.encode s' := by rw [← hs, ← hs', h]
  have hsome := congrArg Text.Utf8.decode? hencoded
  rw [Text.Utf8.decode?_encode, Text.Utf8.decode?_encode] at hsome
  rw [← hcount, ← hcount', Option.some.inj hsome]

end Transcript.Record

namespace CommandLine.Session

/-- how a process comes to its conversation: it is loaded, with the failed step that was saved, or there
is none to be loaded and a new one is made -/
inductive TakesUp (run : Path) (s : Session) : Loaded → Conversation → Session → Prop
  | loaded {saved : Loaded} {c : Conversation} {s' : Session}
      (hsaved : carriedOut (resumeSaved run) s = (.ok saved, s')) (hc : saved.conversation = some c) :
      TakesUp run s saved c s'
  | made {saved : Loaded} {notepad : Option String} {c : Conversation} {s' s'' : Session}
      (hsaved : carriedOut (resumeSaved run) s = (.ok saved, s')) (hnone : saved.conversation = none)
      (hc : carriedOut (fresh notepad) s' = (.ok c, s'')) : TakesUp run s saved c s''

theorem yields_resumeSaved (run : Path) : Yields Loaded.IsSettled (resumeSaved run) := by
  refine .skip fun value => .skip fun _ => ?_
  have hdraw : Yields (fun l : Loaded × List String => l.1.IsSettled)
      (draw (Transcript.read run value.1)) := by
    intro s l s' h
    have hread : (carriedOut (Transcript.read run value.1) s.supply).1 = .ok l := congrArg Prod.fst h
    exact Transcript.yields_read run value.1 s.supply l _ (Prod.ext hread rfl)
  exact hdraw.bind fun l hl => .skip fun _ => .pure hl

theorem yields_fresh (notepad : Option String) : Yields (fun c => c.messages = []) (fresh notepad) :=
  .skip fun _ => .skip fun _ => .skip fun _ => .pure rfl

theorem TakesUp.allSettled {run : Path} {s s' : Session} {saved : Loaded} {c : Conversation}
    (h : TakesUp run s saved c s') : AllSettled c.messages := by
  cases h with
  | loaded hsaved hc => exact yields_resumeSaved run _ _ _ hsaved c hc
  | made hsaved hnone hc =>
    rw [yields_fresh _ _ _ _ hc]
    exact nofun

/-! ## processes -/

variable {environment : Environment} {settings : Settings} {run : Path} {name : String}
  {c : Conversation} {s s' : Session} {saved : Loaded} {st : Stage}

/-- the moderator after a process: a failed step that was saved is taken up, and a command is carried out
with whatever happens until its run ends; but nothing is done if the messages cannot be remembered -/
def after {σ : Type} (around : Surroundings σ) (m : Moderator σ) (step : Option FailedStep)
    (command : Command) (es : List Event) : Moderator σ :=
  if (m.store.conversation.idFault?.or (Console.fault? m.store.conversation)).isSome then
    m.step around (.told (.restore step))
  else ((m.step around (.told (.restore step))).step around (.told command)).during around es

/-- the moderator of a process as it starts; no listener has failed -/
def opening (st : Stage) : Moderator (Audience × Bool) :=
  { st.moderator with audience := (st.moderator.audience, false) }

/-- the moderator of a process as it ends -/
def process (environment : Environment) (st : Stage) (step : Option FailedStep) (command : Command)
    (es : List Event) : Moderator (Audience × Bool) :=
  after (watching environment) (opening st) step command es

/-! ### what is in the log -/

/-- listeners that only keep what a writer would record -/
def ledger (environment : Environment) : Surroundings (Writer × List Record) where
  hear _ c a := { audience := (a.1.heard c, a.2 ++ (a.1.recording c.messages).2) }
  environment := environment

/-- such listeners beside those of a command line, given what was in the log before -/
def ledgers (log : List UInt8) : Pairing (Writer × List Record) (Audience × Bool) where
  alike a a' := a'.1.writer = a.1 ∧ a'.1.scribe.log = log ++ a.2.flatMap Record.bytes
  fine _ := True
  fine' := Moderator.Fine

theorem fits_ledgers (log : List UInt8) (environment : Environment) :
    (ledgers log).Fits (ledger environment) (watching environment) where
  quiet := fun _ _ _ => ⟨rfl, rfl, fun _ => ⟨trivial, rfl⟩⟩
  quiet' := Moderator.isQuiet_watching environment
  voice := rfl
  environment := rfl
  alike now c c' a a' hc halike _ hfine := by
    have hs := hasScribe_watched environment
    obtain ⟨hwriter, hlog⟩ := halike
    have hheard : a'.1.scribe.hear c' =
        (.ok (), ((watching environment).hear now c' a').audience.1.scribe) :=
      Prod.ext (hs.writes now c' a' hfine) (hs.hears now c' a').symm
    obtain ⟨hwriter', hlog', -⟩ := Scribe.effect_of_hear hheard
    have hsame : a'.1.scribe.1 = a.1 := hwriter
    rw [hsame, Writer.heard, hc.messages, hc.document] at hwriter'
    rw [hsame, hc.messages, hlog] at hlog'
    refine ⟨hwriter', ?_⟩
    rw [hlog', List.append_assoc, ← List.flatMap_append]
    rfl

/-- the moderator of a process as it starts, before such listeners -/
def ledgerOpening (st : Stage) : Moderator (Writer × List Record) :=
  { st.moderator with audience := (st.moderator.audience.writer, []) }

/-- a process adds to its log what its writer records -/
theorem log_process (step : Option FailedStep) (command : Command) {es : List Event}
    (hes : ∀ e ∈ es, e.isOfRun = true)
    (hfine : Moderator.Fine (process environment st step command es).audience) :
    (process environment st step command es).audience.1.scribe.log =
      st.moderator.audience.scribe.log ++
        (after (ledger environment) (ledgerOpening st) step command es).audience.2.flatMap Record.bytes := by
  have : Nonempty (Writer × List Record) := ⟨(st.moderator.audience.writer, [])⟩
  have : Nonempty (Audience × Bool) := ⟨(st.moderator.audience, false)⟩
  have hfits := fits_ledgers st.moderator.audience.scribe.log environment
  have hstart : Twins (ledgers st.moderator.audience.scribe.log) (ledgerOpening st) (opening st) :=
    ⟨(Moderator.Agrees.before (ledgerOpening st) _).1, ⟨rfl, (List.append_nil _).symm⟩, _, rfl, rfl⟩
  have hevents (e : Event) (he : e ∈ es) : e ≠ .attached := Event.ne_attached (hes e he)
  have hrestore : Event.told (.restore step) ≠ .attached := nofun
  have hcommand : Event.told command ≠ .attached := nofun
  have hguard : (ledgerOpening st).store.conversation = (opening st).store.conversation := rfl
  rw [process, after] at hfine ⊢
  rw [after, hguard]
  split at hfine <;> rename_i hfault
  · rw [if_pos hfault, if_pos hfault]
    exact (hstart.step hfits hrestore trivial hfine).audience.2
  · rw [if_neg hfault, if_neg hfault]
    -- no listener had failed before
    have hstarted := (Twins.fine_of_during hfits (ledgerOpening st) _ hevents).2 hfine
    have hrestored := (Twins.fine_of_step hfits (ledgerOpening st) _ hcommand).2 hstarted
    have htwins := (hstart.step hfits hrestore trivial hrestored).step hfits hcommand trivial hstarted
    exact (htwins.during hfits hevents trivial hfine).audience.2

/-! ### what is on the screen -/

theorem reported_opening (hstage : carriedOut (stageFor settings run name c) s = (.ok st, s)) :
    Reported st.moderator.audience.scribe.log c.messages (opening st).audience.1 (opening st).journal [] := by
  obtain rfl := Except.ok.inj (congrArg Prod.fst hstage)
  exact ⟨(List.append_nil _).symm, rfl, nofun, nofun⟩

/-- the listeners of a process that starts know the same of each message -/
theorem isEven_opening (hstage : carriedOut (stageFor settings run name c) s = (.ok st, s))
    (hsettled : AllSettled c.messages) (hids : (c.messages.map (·.id)).Pairwise Value.Apart)
    (htexts : ∀ x ∈ c.messages, x.text.same x.text = true) (hfresh : s.supply.IsFresh c.messages) :
    (opening st).IsEven st.moderator.audience.scribe.log c.messages := by
  have hreported := reported_opening hstage
  obtain rfl := Except.ok.inj (congrArg Prod.fst hstage)
  have heven (x : Message) (hx : x ∈ c.messages) : Even (.start run c) (.start settings c) x.id ∧
      Told (.start run c) (.start settings c) x :=
    even_start hids (List.mem_filter.mpr ⟨hx, by rw [hsettled x hx, Bool.not_false]⟩) (htexts x hx)
  constructor
  · constructor
    · constructor
      · exact ⟨[], hreported⟩
      · exact fun x hx => List.mem_map_of_mem (f := fun m : Message => (m.id, m.text)) hx
      · exact hids
      · exact hfresh
      · exact fun n hn => unknown_start fun x hx => (hfresh.apart hn hx).1
      · exact htexts
      · exact fun x hx _ => (heven x hx).1
    · exact fun x hx _ => (heven x hx).2
  · rfl
  · exact fun x hx => (heven x hx).1

/-- what a process is asked for: a debate on a text, or a failed turn once more -/
inductive Starts : Command → Prop
  | debate (text : String) (image : Value) : Starts (.submit (.text text) image)
  | retry : Starts .retry

/-- what starts a run leaves what is on the screen in accord with what is in the log -/
theorem being_started {log : List UInt8} {loaded : List Message} {m : Moderator (Audience × Bool)}
    {command : Command} (hcommand : Starts command)
    (hfine : Moderator.Fine (m.step (watching environment) (.told command)).audience)
    (h : m.IsEven log loaded) :
    (m.step (watching environment) (.told command)).Being log loaded Waiting := by
  cases hcommand with
  | debate text image =>
    have hobey : m.step (watching environment) (.told (.submit (.text text) image)) = _ :=
      Moderator.snd_carry_map m _ _ fun a _ => by cases a <;> rfl
    rw [hobey] at hfine ⊢
    exact (((Moderator.assures_submit text image).to_fault fun _ => Moderator.Being.waiting).after hfine).2 h.being
  | retry =>
    have hobey : m.step (watching environment) (.told .retry) = _ :=
      Moderator.snd_carry_map m _ _ fun a _ => by cases a <;> rfl
    rw [hobey] at hfine ⊢
    exact ((Moderator.assures_retry.to_fault fun _ => Moderator.Being.waiting).after hfine).2 h

theorem isKey_text_of_fault? {c : Conversation} (h : Console.fault? c = none) {x : Message}
    (hx : x ∈ c.messages) : x.text.isKey = true := by
  have hmessage := Option.map_eq_none_iff.mp (List.findSome?_eq_none_iff.mp h x hx)
  have htext := List.find?_eq_none.mp hmessage x.text (List.mem_cons_of_mem _ List.mem_cons_self)
  simpa using htext

/-- whatever is replied to a process, whoever cancels it, and whatever else it is told meanwhile: if no
listener fails, what was printed of messages is, in order, what was added to the thread log; none of these
messages is pending, and one that has the id of a message that was loaded has another text than that had -/
theorem screen_log (htaken : TakesUp run s saved c s')
    (hstage : carriedOut (stageFor settings run name c) s' = (.ok st, s'))
    (hids : (c.messages.map (·.id)).Pairwise Value.Apart)
    (htexts : ∀ x ∈ c.messages, x.text ≠ .float .undefined) (hfresh : s'.supply.IsFresh c.messages)
    {command : Command} (hcommand : Starts command) {es : List Event} (hes : ∀ e ∈ es, e.isOfRun = true)
    (hfine : Moderator.Fine (process environment st saved.failedStep command es).audience) :
    ∃ rs, Reported st.moderator.audience.scribe.log c.messages
      (process environment st saved.failedStep command es).audience.1
      (process environment st saved.failedStep command es).journal rs := by
  have hrestored : Aside (opening st)
      ((opening st).step (watching environment) (.told (.restore saved.failedStep))) := by
    have hobey : (opening st).step (watching environment) (.told (.restore saved.failedStep)) = _ :=
      Moderator.snd_carry_map (opening st) _ _ fun _ _ => rfl
    rw [hobey]
    exact Moderator.aside_restore _ _
  have hconversation : (opening st).store.conversation = c := by
    obtain rfl := Except.ok.inj (congrArg Prod.fst hstage)
    rfl
  rw [process, after, hconversation] at hfine ⊢
  cases hfault : c.idFault?.or (Console.fault? c) with
  | some e => exact ⟨[], Moderator.reported_aside (reported_opening hstage) hrestored⟩
  | none =>
    rw [hfault, if_neg (by decide)] at hfine
    rw [if_neg (by decide)]
    have htexts (x : Message) (hx : x ∈ c.messages) : x.text.same x.text = true :=
      Value.same_self_of_isKey (isKey_text_of_fault? (Option.or_eq_none_iff.mp hfault).2 hx) (htexts x hx)
    have heven := (isEven_opening hstage htaken.allSettled hids htexts hfresh).aside hrestored
    obtain ⟨hstarted, hduring⟩ : _ ∧ (Moderator.Being st.moderator.audience.scribe.log c.messages Waiting _ →
      _) := Moderator.Being.during hes hfine
    exact (hduring (being_started hcommand hstarted heven)).1.reported

/-! ### two processes -/

section

open Debate.Moderator Debate.Text

/-- a session that finds a text in the file of the conversation -/
def arriving (text : String) : Session where
  desk := { disk := { tree := ⟨[(["run"], .directory true),
    (["run", "conversation.json"], .file (Utf8.encode text))]⟩ } }
  supply := started.supply

/-- the stage of a process over a conversation -/
def staged (c : Conversation) (s : Session) : Stage where
  moderator := {
    settings := {}
    store := { conversation := c }
    audience := { writer := .start { names := ["run"] } c, console := .start {} c, disk := s.desk.disk }
    supply := s.supply }
  run := { names := ["run"] }
  name := "r"

theorem stageFor_staged (c : Conversation) (s : Session) :
    carriedOut (stageFor {} { names := ["run"] } "r" c) s = (.ok (staged c s), s) := rfl

/-- an environment with a key for a service -/
def equipped : Environment := { bindings := [("GEMINI_API_KEY", "key")] }

/-- a conversation in which one thing was said -/
def remarked (sender : Sender) (text : Value) (purpose : Purpose) : Conversation where
  id := .text "c"
  createdAt := .text "1970-01-01T00:00:00+00:00"
  messages := [{ id := .text "m1", sender, text, purpose, timestamp := .text "1970-01-01T00:00:00+00:00" }]

theorem isFresh_remarked (sender : Sender) (text : Value) (purpose : Purpose) :
    started.supply.IsFresh (remarked sender text purpose).messages := by
  refine ⟨isFresh_started.distinct, fun k _ x hx => ?_⟩
  rw [List.mem_singleton.mp hx, Message.hasId, Value.same_text]
  refine beq_false_of_ne fun h => ?_
  have hlists : ['m', '1'] = List.replicate (k + 1) 'i' := by
    rw [← String.toList_ofList (l := List.replicate (k + 1) 'i')]
    exact congrArg String.toList h
  rw [List.replicate_succ] at hlists
  cases hlists

theorem takesUp_arriving {text : String} {v : Value} {saved : Loaded} {c : Conversation}
    (hvalue : carriedOut (loadValue { names := ["run"] }) (arriving text).desk.disk =
      (.ok (v, []), (arriving text).desk.disk))
    (hread : carriedOut (Transcript.read { names := ["run"] } v) started.supply =
      (.ok (saved, []), started.supply)) (hc : saved.conversation = some c) :
    TakesUp { names := ["run"] } (arriving text) saved c (arriving text) := by
  have hloaded : carriedOut (onDisk (loadValue { names := ["run"] })) (arriving text) =
      (.ok (v, []), arriving text) := by
    have hboth : carriedOut (onDisk (loadValue { names := ["run"] })) (arriving text) =
        let r := carriedOut (loadValue { names := ["run"] }) (arriving text).desk.disk
        (r.1, { arriving text with desk := { disk := r.2 } }) := rfl
    rw [hboth, hvalue]
    rfl
  have hdrawn : carriedOut (draw (Transcript.read { names := ["run"] } v)) (arriving text) =
      (.ok (saved, []), arriving text) := by
    have hboth : carriedOut (draw (Transcript.read { names := ["run"] } v)) (arriving text) =
        let r := carriedOut (Transcript.read { names := ["run"] } v) started.supply
        (r.1, { arriving text with supply := r.2 }) := rfl
    rw [hboth, hread]
    rfl
  have hnote : carriedOut (note ([].map (Entry.log .warning))) (arriving text) =
      (.ok (), arriving text) := rfl
  refine .loaded ?_ hc
  rw [resumeSaved, carriedOut_bind_ok hloaded, carriedOut_bind_ok hnote, carriedOut_bind_ok hdrawn,
    carriedOut_bind_ok hnote]
  rfl

/-- a conversation whose only turn failed, and the step of that turn -/
def stuck : Conversation :=
  { remarked .agentA (.text "Error: down") .error with updatedAt := .text "1970-01-01T00:00:00+00:00" }

def stuckStep : FailedStep := { messageId := .text "m1", prompt := .text "Go", sender := .agentA }

/-- the file in which both were saved -/
def stuckText : String := (savedValue "t" stuck (some stuckStep)).toIndented

theorem takesUp_stuck : TakesUp { names := ["run"] } (arriving stuckText)
    { conversation := some stuck, failedStep := some stuckStep } stuck (arriving stuckText) := by
  have hplain : (savedValue "t" stuck (some stuckStep)).IsPlain := by
    refine isPlain_savedValue ⟨.text _, .text _, .text _, .text _, ?_⟩ (.text _) ?_ _
    · rintro x hx
      obtain rfl := List.mem_singleton.mp hx
      exact ⟨⟨"m1", by decide, rfl⟩, .text _, .text _, .null, .null⟩
    · rintro _ ⟨⟩
      exact ⟨.text _, .text _⟩
  have hread := Disk.carriedOut_readRecord (p := conversationPath { names := ["run"] })
    (d := (arriving stuckText).desk.disk) (by decide) rfl hplain
  rw [show (savedValue "t" stuck (some stuckStep)).tooLong? = none by decide +kernel] at hread
  refine takesUp_arriving (v := savedValue "t" stuck (some stuckStep)) ?_ rfl rfl
  rw [loadValue, Disk.readRecordOr, carriedOut_bind_ok hread]
  rfl

/-- the turn is taken once more and goes well: the message that was loaded has another text, and is shown
and recorded, with a notice after it -/
theorem screen_log_stuck :
    TakesUp { names := ["run"] } (arriving stuckText)
        { conversation := some stuck, failedStep := some stuckStep } stuck (arriving stuckText) ∧
      ∃ m, m = process equipped (staged stuck (arriving stuckText)) (some stuckStep) .retry
          [.replied (.ok (.text "Recovered"))] ∧
        (∃ rs, Reported [] stuck.messages m.audience.1 m.journal rs) ∧
        Journal.screen m.journal = ["\n[Cognito] (0 ms)\nRecovered", "\n[System]\n" ++ retryNotice] := by
  refine ⟨takesUp_stuck, _, rfl, ?_, by decide +kernel⟩
  refine screen_log takesUp_stuck (stageFor_staged stuck (arriving stuckText)) ?_ ?_ ?_ .retry ?_ ?_
  · exact List.pairwise_singleton _ _
  · decide +kernel
  · exact isFresh_remarked _ _ _
  · decide
  · show _ = false
    decide +kernel

/-- a conversation in which the text of a message is not a number, and the file that holds it -/
def unequal : Conversation := remarked .system (.float .undefined) .systemNotice

def unequalText : String :=
  "\x7b\"conversation\": \x7b\"id\": \"c\", \"messages\": [\x7b\"id\": \"m1\", \"text\": NaN\x7d]\x7d\x7d"

theorem takesUp_unequal : TakesUp { names := ["run"] } (arriving unequalText)
    { conversation := some unequal } unequal (arriving unequalText) := by
  refine takesUp_arriving (v := .object [("conversation", .object [("id", .text "c"),
    ("messages", .list [.object [("id", .text "m1"), ("text", .float .undefined)]])])]) ?_ rfl rfl
  decide +kernel

/-- a debate over it, whose first turn fails -/
def unequalled : Stage := staged unequal (arriving unequalText)

/-- what is added to the thread log meanwhile: the message that was loaded time and again, as its text is
not equal to itself -/
def unequalRecords : List Record :=
  let loaded : List Record := unequal.messages.map fun x => ⟨x, true⟩
  let request : Record := ⟨.request "i" "1970-01-01T00:00:00+00:00" (.text "Go") .null, false⟩
  let failed := (Message.placeholder "ii" "1970-01-01T00:00:00+00:00" .agentA).failed "down"
  loaded ++ [request] ++ loaded ++ loaded ++ [⟨failed, false⟩] ++ loaded

/-- a debate whose first turn fails, over a text that is not a number: it is recorded with every change, but
never shown -/
theorem log_beyond_screen :
    TakesUp { names := ["run"] } (arriving unequalText) { conversation := some unequal } unequal
        (arriving unequalText) ∧
      carriedOut (stageFor {} { names := ["run"] } "r" unequal) (arriving unequalText) =
        (.ok unequalled, arriving unequalText) ∧
      (unequal.messages.map (·.id)).Pairwise Value.Apart ∧
      (arriving unequalText).supply.IsFresh unequal.messages ∧
      ∃ m, m = process equipped unequalled none (.submit (.text "Go") .null)
          [.replied (.error (.provider "down"))] ∧ Fine m.audience ∧
        ¬ ∃ rs, Reported unequalled.moderator.audience.scribe.log unequal.messages m.audience.1 m.journal rs := by
  have hfine : Fine (process equipped unequalled none (.submit (.text "Go") .null)
      [.replied (.error (.provider "down"))]).audience := show _ = false by decide +kernel
  have hscreen : Journal.screen (process equipped unequalled none (.submit (.text "Go") .null)
      [.replied (.error (.provider "down"))]).journal =
        ["\n[User]\nGo", "\n[Cognito]\nError: down"] := by decide +kernel
  have hrecords : (after (ledger equipped) (ledgerOpening unequalled) none (.submit (.text "Go") .null)
      [.replied (.error (.provider "down"))]).audience.2 = unequalRecords := by decide +kernel
  have hlog := log_process none (.submit (.text "Go") .null) (by decide) hfine
  rw [hrecords] at hlog
  refine ⟨takesUp_unequal, stageFor_staged unequal _, List.pairwise_singleton _ _, isFresh_remarked _ _ _, _, rfl, hfine, ?_⟩
  rintro ⟨rs, hrs⟩
  have htwo := congrArg List.length (hrs.screen.symm.trans hscreen)
  rw [List.length_map] at htwo
  have hsix := Record.length_eq_of_bytes (List.append_cancel_left (hrs.log.symm.trans hlog))
  rw [htwo] at hsix
  cases hsix

end

end CommandLine.Session

end Debate
