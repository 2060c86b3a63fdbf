import Debate.Proofs.Tallying

/-!
# What a run reports

The parts of a run keep the writer and the console of a command line in accord: what a part changes is
shown at once, and it changes only messages that are new or pending, or that were put back as they had
been. While a call waits its message is pending, and in a retry so is the message that may be put back.

* `AtStake`              the messages that a call is about: pending, and in a retry the one to put back;
* `Moderator.Being`      a moderator in accord, with messages and a call of some kind;
* `assures_dispatch`     a change of the conversation, once what is due after it is known;
* `assures_finishTurn`   a turn from its reply on;
* `assures_resume`       how a run goes on;
* `assures_submit`, `assures_retry`   how it starts.
-/

namespace Debate

open Debate.Files Debate.Transcript Debate.CommandLine

/-! ## calls -/

/-- messages that a call is about are pending; so is the message that a retry may put back, whose id is
what it was -/
structure AtStake (task : Task) (id : Value) (xs : List Message) : Prop where
  pending : ∀ x ∈ xs, x.hasId id = true → x.pending = true
  previous : ∀ p, task = .retry p → p.text.same p.text = true ∧
    ∀ x ∈ xs, x.hasId p.id = true → x.id = p.id ∧ x.pending = true

/-- no call waits -/
def Unasked (_ : List Message) (c : Option Call) : Prop := c = none

/-- no call waits, and the messages of an id are pending -/
def Hanging (id : Value) (xs : List Message) (c : Option Call) : Prop :=
  c = none ∧ ∀ x ∈ xs, x.hasId id = true → x.pending = true

/-- no call waits, and messages are at stake -/
def Staked (task : Task) (id : Value) (xs : List Message) (c : Option Call) : Prop :=
  c = none ∧ AtStake task id xs

/-- if a call waits its messages are at stake -/
def Waiting (xs : List Message) (c : Option Call) : Prop :=
  ∀ call, c = some call → AtStake call.task call.messageId xs

theorem Unasked.waiting {xs : List Message} {c : Option Call} (h : Unasked xs c) : Waiting xs c := by
  rintro call rfl
  cases h

theorem Staked.hanging {task : Task} {id : Value} {xs : List Message} {c : Option Call}
    (h : Staked task id xs c) : Hanging id xs c := ⟨h.1, h.2.pending⟩

namespace Moderator

variable {environment : Environment} {log : List UInt8} {loaded : List Message}
  {m : Moderator (Audience × Bool)} {R R' : List Message → Option Call → Prop}
  {P : Moderator (Audience × Bool) → Prop}

/-- a moderator in accord, whose messages and call are of some kind -/
def Being (log : List UInt8) (loaded : List Message) (R : List Message → Option Call → Prop)
    (m : Moderator (Audience × Bool)) : Prop := m.InAccord log loaded ∧ R m.messages m.call

theorem Being.mono (h : m.Being log loaded R) (hR : ∀ {xs c}, R xs c → R' xs c) :
    m.Being log loaded R' := ⟨h.1, hR h.2⟩

theorem Being.waiting (h : m.Being log loaded Unasked) : m.Being log loaded Waiting :=
  h.mono Unasked.waiting

theorem steady_being : Steady (Being log loaded R) := by
  intro m m' ha h
  refine ⟨h.1.aside ha, ?_⟩
  rw [ha.messages, ha.call]
  exact h.2

/-! ## what is shown -/

theorem InAccord.isPrimed (h : m.InAccord log loaded) : m.IsPrimed log loaded :=
  ⟨h.toIsTallied, fun x hx hpending => .inl (h.told x hx hpending)⟩

theorem isQuiet_watching (environment : Environment) : (watching environment).IsQuiet Fine :=
  (hasScribe_watched environment).quiet

/-- the listeners are shown the conversation -/
theorem assures_announce (depth : Nat) :
    Assures Fine (fun m => m.IsPrimed log loaded ∧ R m.messages m.call)
      (announce (watching environment) depth) (fun _ => Being log loaded R) Never := by
  intro m hfine
  rw [carry_announce_quiet (isQuiet_watching environment), carry_raise] at hfine ⊢
  obtain ⟨hbefore, hnone⟩ := (isQuiet_watching environment _ _ _).2.2 hfine
  refine ⟨hbefore, fun h => ?_⟩
  rw [hnone]
  exact ⟨h.1.presented hfine, h.2⟩

/-- an operation that can be carried out: what it shows is due then, and otherwise nothing is -/
theorem assures_perform {op : Store.Operation}
    (hop : ∀ m, P m → m.store.refusal? op = none ∧
      R { m with store := (m.store.perform op).1 }.messages m.call ∧
        if (m.store.perform op).2 then { m with store := (m.store.perform op).1 }.IsPrimed log loaded
        else { m with store := (m.store.perform op).1 }.InAccord log loaded) :
    Assures Fine P (perform (watching environment) op) (fun _ => Being log loaded R) Never := by
  intro m hfine
  have hannounce : Assures Fine (fun m => m.IsPrimed log loaded ∧ R m.messages m.call)
      (announce (watching environment) (watching environment).depth) (fun _ => Being log loaded R) Never :=
    assures_announce _
  refine ⟨kept_performWith (fun m hm => (hannounce m hm).1) op m hfine, fun hm => ?_⟩
  obtain ⟨hnone, hR, hafter⟩ := hop m hm
  rw [perform, carry_performWith _ hnone] at hfine ⊢
  dsimp only at hfine ⊢
  split at hafter
  · rename_i hshown
    rw [if_pos hshown] at hfine ⊢
    exact (hannounce _ hfine).2 ⟨hafter, hR⟩
  · rename_i hkept
    rw [if_neg hkept]
    exact ⟨hafter, hR⟩

/-- a change of the conversation that can be made, with what is due after it -/
theorem assures_dispatch {a : Action}
    (ha : ∀ m, P m → m.store.conversation.refusal? a = none ∧ (m.acted a).IsPrimed log loaded ∧
      R (m.acted a).messages m.call) :
    Assures Fine P (dispatch (watching environment) a) (fun _ => Being log loaded R) Never :=
  assures_perform fun m hm => ⟨(ha m hm).1, (ha m hm).2.2, (ha m hm).2.1⟩

/-- an operation that changes no message -/
theorem assures_perform_still {op : Store.Operation} (hnone : ∀ t : Store, t.refusal? op = none)
    (hop : ∀ t : Store, (t.perform op).1.conversation.messages = t.conversation.messages) :
    Assures Fine (Being log loaded R) (perform (watching environment) op)
      (fun _ => Being log loaded R) Never := by
  refine assures_perform fun m hm => ?_
  have hmessages : { m with store := (m.store.perform op).1 }.messages = m.messages := hop m.store
  have haccord : { m with store := (m.store.perform op).1 }.InAccord log loaded :=
    hm.1.aside ⟨rfl, hmessages, rfl, rfl, Nat.le_refl _, rfl⟩
  refine ⟨hnone _, hmessages ▸ hm.2, ?_⟩
  split
  · exact haccord.isPrimed
  · exact haccord

theorem assures_beginTurn : Assures Fine (Being log loaded R) (perform (watching environment) .beginTurn)
    (fun _ => Being log loaded R) Never := assures_perform_still (fun _ => rfl) fun _ => rfl

theorem assures_endTurn : Assures Fine (Being log loaded R) (perform (watching environment) .endTurn)
    (fun _ => Being log loaded R) Never := by
  refine assures_perform_still (fun _ => rfl) fun t => ?_
  rw [Store.perform]
  split <;> rfl

theorem assures_edit (content : Value) : Assures Fine (Being log loaded R)
    (perform (watching environment) (.edit content)) (fun _ => Being log loaded R) Never := by
  refine assures_perform_still (fun _ => rfl) fun t => ?_
  rw [Store.perform]
  split <;> rfl

/-! ## new messages -/

theorem assures_newId : Assures Fine (Being log loaded R) (newId (σ := Audience × Bool))
    (fun id m => m.Being log loaded R ∧ m.IsSpare id) Never := fun m hfine =>
  ⟨hfine, fun h => ⟨steady_being _ _ (aside_newId m) h, h.1.isSpare_draw⟩⟩

theorem steady_spare (id : String) :
    Steady fun m : Moderator (Audience × Bool) => m.Being log loaded R ∧ m.IsSpare id :=
  fun m m' ha h => ⟨steady_being m m' ha h.1, h.2.aside ha⟩

/-- a message with a new id is added -/
theorem assures_append {id : String} {x : Message} (hid : x.id = .text id) (htext : ∃ t, x.text = .text t)
    (hR : ∀ xs : List Message, (∀ y ∈ xs, y.id ≠ .text id) → R (xs ++ [x]) none) :
    Assures Fine (fun m => m.Being log loaded Unasked ∧ m.IsSpare id)
      (dispatch (watching environment) (.append x)) (fun _ => Being log loaded R) Never := by
  obtain ⟨t, ht⟩ := htext
  refine assures_dispatch fun m hm => ?_
  obtain ⟨⟨haccord, hcall⟩, hspare⟩ := hm
  refine ⟨Conversation.refusal?_request ht, haccord.added hspare hid ?_, ?_⟩
  · rw [ht]
    exact Value.same_text_self t
  · rw [show m.call = none from hcall]
    exact hR m.messages hspare.unused

theorem assures_notify (text : String) :
    Assures Fine (Being log loaded Unasked) (notify (watching environment) text)
      (fun _ => Being log loaded Unasked) Never :=
  assures_newId.sure_bind fun id => .timestamp_bind (steady_spare id) fun _ =>
    assures_append rfl ⟨text, rfl⟩ fun _ _ => rfl

/-! ## turns -/

variable {task : Task} {v : Value}

/-- the call counts for nothing in what was reported -/
theorem InAccord.calling (h : m.InAccord log loaded) (c : Option Call) :
    { m with call := c }.InAccord log loaded :=
  ⟨⟨h.reported, h.seen, h.apart, h.fresh, h.unknown, h.whole, h.even⟩, h.told⟩

/-- a turn up to the point where it waits -/
theorem assures_startTurn (voice : Voice) (persona : Persona) (prompt document : Value) :
    Assures Fine (Being log loaded (Staked task v))
      (startTurn (watching environment) task voice persona v prompt document)
      (fun _ => Being log loaded Waiting) (Being log loaded (Staked task v)) := by
  refine .aside_bind aside_checkToken steady_being (fun _ => ?_) fun _ => id
  refine .live_bind steady_being fun _ => ?_
  refine .lift_bind (fun length => ?_) fun _ => id
  refine .log_bind steady_being fun _ => ?_
  refine .look_bind fun n => assures_beginTurn.sure_bind fun _ => ?_
  refine .update (fun _ => rfl) fun m h => ?_
  refine ⟨(h.1.aside (aside_entry m (e := .prompt prompt) rfl)).calling _, ?_⟩
  rintro call ⟨⟩
  exact h.2.2

/-- a reply put into the conversation: without it the messages stay at stake -/
theorem assures_commit (c : Call) (reply : Except Fault Value) :
    Assures Fine (Being log loaded (Staked c.task c.messageId)) (commit (watching environment) c reply)
      (fun _ => Being log loaded Unasked) (Being log loaded (Staked c.task c.messageId)) := by
  refine .lift_bind (fun value => ?_) fun _ => id
  refine .aside_bind aside_checkToken steady_being (fun _ => ?_) fun _ => id
  refine .lift_bind (fun raw => ?_) fun _ => id
  refine .remarks_bind steady_being fun _ => ?_
  refine .lift_bind (fun parsed => ?_) fun _ => id
  refine .aside_bind (aside_editedNotepad c _) steady_being (fun document => ?_) fun _ => id
  refine .look_bind fun n => .lift_bind (fun took => ?_) fun _ => id
  refine Assures.sure_bind (Q := fun _ => Being log loaded Unasked) ?_ fun _ => .pure fun _ => id
  refine assures_dispatch fun m hm => ?_
  obtain ⟨haccord, hcall, hstake⟩ := hm
  refine ⟨rfl, haccord.modified rfl fun x hx hid => ⟨rfl, ?_, Value.same_text_self _⟩, hcall⟩
  exact haccord.even x hx (hstake.pending x hx hid)

/-- a turn from its reply on -/
theorem assures_finishTurn (c : Call) (reply : Except Fault Value) :
    Assures Fine (Being log loaded fun xs _ => AtStake c.task c.messageId xs)
      (finishTurn (watching environment) c reply)
      (fun _ => Being log loaded Unasked) (Being log loaded (Staked c.task c.messageId)) := by
  refine Assures.bind (Q := fun _ => Being log loaded (Staked c.task c.messageId))
    (.update (fun _ => rfl) fun m h => ⟨h.1.calling none, rfl, h.2⟩) fun _ => ?_
  refine (assures_commit c reply).attempt_bind (fun result => ?_) fun e => ?_
  · refine assures_endTurn.sure_bind fun _ => .ok_bind ?_
    exact .live_bind steady_being fun _ => .pure fun _ => id
  · exact assures_endTurn.sure_bind fun _ => .error_bind fun _ => id

/-- a failure put into the conversation -/
theorem assures_reportFailure (persona : Persona) (e : Fault) :
    Assures Fine (Being log loaded (Hanging v)) (reportFailure (watching environment) persona v e)
      (fun _ => Being log loaded Unasked) Never := by
  have hlogged (level : Level) (text : String) :
      Assures Fine (Being log loaded (Hanging v)) (do
        Moderator.log level text
        Moderator.live ("ERROR (" ++ persona.title ++ "): " ++ e.message)
        Moderator.dispatch (watching environment) (.fail v (failureText e)))
        (fun _ => Being log loaded Unasked) Never := by
    refine .log_bind steady_being fun _ => .live_bind steady_being fun _ => ?_
    refine assures_dispatch fun m hm => ?_
    obtain ⟨haccord, hcall, hpending⟩ := hm
    refine ⟨rfl, haccord.modified rfl fun x hx hid => ⟨rfl, ?_, Value.same_text_self _⟩, hcall⟩
    exact haccord.even x hx (hpending x hx hid)
  cases e <;> exact hlogged _ _

/-- the end of a run -/
theorem assures_finish (outcome : Outcome) :
    Assures Fine (Being log loaded Unasked) (finish (watching environment) outcome)
      (fun _ => Being log loaded Unasked) Never := by
  have hdrop : Assures Fine (Being log loaded Unasked) (dispatch (watching environment) .dropPending)
      (fun _ => Being log loaded Unasked) Never :=
    assures_dispatch fun m hm => ⟨rfl, hm.1.thinned List.filter_sublist, hm.2⟩
  have hclose : Assures Fine (Being log loaded Unasked) (do
      Moderator.log .info ("Discussion settled: " ++ outcome.name)
      Moderator.live ("SETTLED: " ++ outcome.name)
      modify (closed outcome)) (fun _ => Being log loaded Unasked) Never := by
    refine .log_bind steady_being fun _ => .live_bind steady_being fun _ => ?_
    exact .update (fun _ => rfl) fun m => steady_being m _ .elsewhere
  refine hdrop.sure_bind fun _ => ?_
  exact .ite (fun _ => (assures_notify _).sure_bind fun _ => hclose) fun _ => hclose

/-! ## debates -/

/-- a persona's turn in a debate, up to the point where it waits -/
theorem assures_takeTurn (voice : Voice) (p : Progress) (persona : Persona) :
    Assures Fine (Being log loaded Unasked) (takeTurn (watching environment) voice p persona)
      (fun _ => Being log loaded Waiting) (Being log loaded Unasked) := by
  refine .aside_bind aside_checkToken steady_being (fun _ => ?_) fun _ => id
  refine .look_bind fun n => assures_newId.sure_bind fun t => ?_
  refine .timestamp_bind (steady_spare t) fun now => ?_
  -- the placeholder is the only message of the new id
  have hstaked (xs : List Message) (hxs : ∀ y ∈ xs, y.id ≠ .text t) :
      Staked (.debate p) (.text t) (xs ++ [.placeholder t now persona.sender]) none := by
    refine ⟨rfl, List.forall_mem_append.mpr ⟨fun y hy hid => ?_, ?_⟩, nofun⟩
    · exact absurd (Value.eq_of_same_text hid) (hxs y hy)
    · exact List.forall_mem_singleton.mpr fun _ => rfl
  refine (assures_append rfl ⟨_, rfl⟩ hstaked).sure_bind fun _ => ?_
  refine .look_bind fun m => .lift_bind (fun document => ?_) fun _ h => h.mono And.left
  exact (assures_startTurn voice persona _ _).to_fault fun _ h => h.mono And.left

theorem assures_beginIteration (voice : Voice) (p : Progress) :
    Assures Fine (Being log loaded Unasked) (beginIteration (watching environment) voice p)
      (fun _ => Being log loaded Waiting) (Being log loaded Unasked) := by
  refine .log_bind steady_being fun _ => .live_bind steady_being fun _ => ?_
  refine .live_bind steady_being fun _ => .live_bind steady_being fun _ => ?_
  exact .look_bind fun n => assures_takeTurn _ _ _

theorem assures_beginDebate (voice : Voice) (text : Value) :
    Assures Fine (Being log loaded Unasked) (beginDebate (watching environment) voice text)
      (fun _ => Being log loaded Waiting) (Being log loaded Unasked) := by
  exact .look_bind fun n => .lift_bind (fun iterations => assures_beginIteration _ _) fun _ => id

/-- what is the case of a run that ended with an outcome, or goes on -/
def Paused (log : List UInt8) (loaded : List Message) :
    Option Outcome → Moderator (Audience × Bool) → Prop
  | none => Being log loaded Waiting
  | some _ => Being log loaded Unasked

theorem Paused.waiting {o : Option Outcome} (h : Paused log loaded o m) : m.Being log loaded Waiting := by
  cases o with
  | none => exact h
  | some outcome => exact Being.waiting h

/-- what follows a turn that went well -/
theorem assures_afterTurn (voice : Voice) (p : Progress) (marked : Bool) :
    Assures Fine (Being log loaded Unasked) (afterTurn (watching environment) voice p marked)
      (Paused log loaded) (Being log loaded Unasked) := by
  rw [afterTurn]
  cases p.position with
  | first =>
    exact .look_bind fun n => (assures_takeTurn _ _ _).bind fun _ => .pure fun _ => id
  | second before =>
    refine .ite (fun _ => ?_) fun _ => .ite (fun _ => ?_) fun _ => ?_
    · exact .log_bind steady_being fun _ => (assures_notify _).sure_bind fun _ => .pure fun _ => id
    · exact (assures_beginIteration _ _).bind fun _ => .pure fun _ => id
    · exact .log_bind steady_being fun _ => .pure fun _ => id

/-- how a debate goes on after a turn -/
theorem assures_continueDebate (c : Call) (p : Progress) (reply : Except Fault Value) :
    Assures Fine (Being log loaded fun xs _ => AtStake c.task c.messageId xs)
      (continueDebate (watching environment) c p reply) (Paused log loaded)
      (Being log loaded Unasked) := by
  refine (assures_finishTurn c reply).attempt_bind (fun result => assures_afterTurn _ _ _) fun e => ?_
  have hfailed (e : Fault) : Assures Fine (Being log loaded (Staked c.task c.messageId)) (do
      Moderator.reportFailure (watching environment) c.persona c.messageId e
      modify fun m => { m with failedStep := some {
        messageId := c.messageId, prompt := c.prompt, sender := c.persona.sender } }
      return some Outcome.failed) (Paused log loaded) (Being log loaded Unasked) := by
    refine ((assures_reportFailure _ e).of_before fun _ h => h.mono Staked.hanging).sure_bind fun _ => ?_
    exact .change_bind steady_being (fun _ => .elsewhere) fun _ => .pure fun _ => id
  cases e with
  | cancelled => exact .throw fun _ h => h.mono And.left
  | aborted => exact .throw fun _ h => h.mono And.left
  | _ => exact hfailed _

/-- a debate is settled that came to its end -/
theorem assures_settleDebate (r : Except Fault (Option Outcome)) :
    Assures Fine (Upon (Paused log loaded) (Being log loaded Unasked) r)
      (settleDebate (watching environment) r)
      (Paused log loaded) (Being log loaded Unasked) := by
  have hfinish {α : Type} (outcome : Outcome) {x : Moderating (Audience × Bool) α}
      {Q : α → Moderator (Audience × Bool) → Prop}
      (hx : Assures Fine (Being log loaded Unasked) x Q (Being log loaded Unasked)) :
      Assures Fine (Being log loaded Unasked) (finish (watching environment) outcome >>= fun _ => x) Q
        (Being log loaded Unasked) := (assures_finish outcome).sure_bind fun _ => hx
  unfold settleDebate
  split
  · exact .pure fun _ => id
  · exact hfinish _ (.pure fun _ => id)
  · exact hfinish _ (.pure fun _ => id)
  · exact hfinish _ (.throw fun _ => id)
  · exact hfinish _ (.throw fun _ => id)

/-- a debate starts on a request -/
theorem assures_submit (text : String) (image : Value) :
    Assures Fine (Being log loaded Unasked) (submit (watching environment) (.text text) image)
      (fun _ => Being log loaded Waiting) (Being log loaded Unasked) := by
  have hbegin (voice : Voice) : Assures Fine (Being log loaded Unasked) (do
      let r ← attempt (beginDebate (watching environment) voice (.text text))
      return (← settleDebate (watching environment) (r.map fun _ => none)).map RunState.settled)
      (fun _ => Being log loaded Waiting) (Being log loaded Unasked) := by
    refine (assures_beginDebate _ _).attempt_bind (fun _ => ?_) fun e => ?_
    · exact (assures_settleDebate (.ok none)).bind fun o => .pure fun _ => Paused.waiting
    · exact (assures_settleDebate (.error e)).bind fun o => .pure fun _ => Paused.waiting
  refine .look_bind fun n => .ite (fun _ => ?_) fun _ => ?_
  · exact .log_bind steady_being fun _ => .pure fun _ => Being.waiting
  refine .aside_bind (aside_chooseVoice _) steady_being (fun voice => ?_) fun _ => id
  refine assures_newId.sure_bind fun t => .timestamp_bind (steady_spare t) fun now => ?_
  refine (assures_append (R := Unasked) rfl ⟨text, rfl⟩ fun _ _ => rfl).sure_bind fun _ => ?_
  refine .change_bind steady_being (fun _ => .elsewhere) fun _ => ?_
  exact .change_bind steady_being (fun _ => .elsewhere) fun _ => hbegin voice

/-! ## retries -/

/-- the message of a retry is put back as it was -/
theorem assures_replace (previous : Message) :
    Assures Fine (Being log loaded (Staked (.retry previous) v))
      (dispatch (watching environment) (.replace previous)) (fun _ => Being log loaded Unasked) Never := by
  refine assures_dispatch fun m hm => ?_
  obtain ⟨haccord, hcall, hstake⟩ := hm
  obtain ⟨htext, hprevious⟩ := hstake.previous previous rfl
  refine ⟨rfl, haccord.modified rfl fun x hx hid => ?_, hcall⟩
  obtain ⟨hsame, hpending⟩ := hprevious x hx hid
  exact ⟨hsame.symm, haccord.even x hx hpending, htext⟩

/-- a retry is settled: its message is put back if it was cancelled -/
theorem assures_settleRetry (persona : Persona) (previous : Message) (r : Except Fault Unit) :
    Assures Fine (Upon (fun _ => Being log loaded Unasked)
        (Being log loaded (Staked (.retry previous) v)) r)
      (settleRetry (watching environment) persona previous r)
      (fun _ => Being log loaded Unasked) (Being log loaded Unasked) := by
  have hreport (e : Fault) : Assures Fine (Being log loaded (Staked (.retry previous) v))
      (reportFailure (watching environment) persona previous.id e)
      (fun _ => Being log loaded Unasked) Never := by
    refine (assures_reportFailure persona e).of_before fun m h => h.mono fun hstaked => ?_
    exact ⟨hstaked.1, fun x hx hid => ((hstaked.2.previous previous rfl).2 x hx hid).2⟩
  refine Assures.attempt_bind (Q := fun _ => Being log loaded Unasked) (F := Never) ?_ ?_ ?_
  · split
    · exact .pure fun _ => id
    · exact (assures_replace previous).sure_bind fun _ => .pure fun _ => id
    · exact (assures_replace previous).sure_bind fun _ => .pure fun _ => id
    · exact (hreport _).sure_bind fun _ => .pure fun _ => id
  · rintro ⟨outcome, e⟩
    refine (assures_finish outcome).sure_bind fun _ => ?_
    cases e with
    | none => exact .pure fun _ => id
    | some e => exact .error_bind fun _ => id
  · exact fun e => ((assures_finish .failed).of_before fun _ => False.elim).sure_bind fun _ =>
      .throw fun _ => id

/-- a moderator of whose messages both listeners know the same -/
structure IsEven (log : List UInt8) (loaded : List Message) (m : Moderator (Audience × Bool)) : Prop
    extends m.InAccord log loaded where
  unasked : m.call = none
  level : ∀ x ∈ m.messages, Even m.audience.1.writer m.audience.1.console x.id

/-- such a moderator, and the message that is found for an id -/
def CanReopen (log : List UInt8) (loaded : List Message) (v : Value) (previous : Message)
    (m : Moderator (Audience × Bool)) : Prop :=
  m.IsEven log loaded ∧ m.messages.find? (·.hasId v) = some previous

theorem IsEven.being (h : m.IsEven log loaded) : m.Being log loaded Unasked := ⟨h.toInAccord, h.unasked⟩

theorem IsEven.aside {m' : Moderator (Audience × Bool)} (h : m.IsEven log loaded) (ha : Aside m m') :
    m'.IsEven log loaded where
  toInAccord := h.toInAccord.aside ha
  unasked := ha.call.trans h.unasked
  level := by
    rw [ha.messages, ha.audience]
    exact h.level

theorem steady_canReopen (v : Value) (previous : Message) : Steady (CanReopen log loaded v previous) := by
  intro m m' ha h
  refine ⟨h.1.aside ha, ?_⟩
  rw [ha.messages]
  exact h.2

/-- a message is opened again: it is pending then, and may be put back -/
theorem assures_reopen (previous : Message) :
    Assures Fine (CanReopen log loaded v previous) (dispatch (watching environment) (.reopen v))
      (fun _ => Being log loaded (Staked (.retry previous) v)) Never := by
  refine assures_dispatch fun m hm => ?_
  obtain ⟨heven, hfound⟩ := hm
  have haccord := heven.toInAccord
  have hprevious : previous ∈ m.messages := List.mem_of_find?_eq_some hfound
  have hid : previous.hasId v = true := by simpa using List.find?_some hfound
  refine ⟨rfl, haccord.modified rfl fun x hx _ => ⟨rfl, heven.level x hx, Value.same_text_self _⟩,
    heven.unasked, fun y hy hyid => ?_, ?_⟩
  · obtain ⟨x, hx, rfl⟩ := List.mem_map.mp hy
    dsimp only at hyid ⊢
    split at hyid
    · rename_i hxid
      rw [if_pos hxid]
      rfl
    · contradiction
  · rintro p ⟨⟩
    -- no other message has the id of the one that is found
    refine ⟨haccord.whole previous hprevious, fun y hy hyid => ?_⟩
    obtain ⟨x, hx, rfl⟩ := List.mem_map.mp hy
    have hxid : x.id.same previous.id = true := by
      dsimp only at hyid
      split at hyid <;> exact hyid
    have hfound : previous.id.isAmong [x.id] = true := by
      rw [Value.isAmong_singleton, hxid, Bool.or_true]
    obtain rfl := Value.eq_of_isAmong haccord.apart hprevious hx hfound
    dsimp only
    rw [if_pos hid]
    exact ⟨rfl, rfl⟩

/-- the failed turn is taken once more, if both listeners know the same of each message -/
theorem assures_retry :
    Assures Fine (IsEven log loaded) (retry (watching environment))
      (fun _ => Being log loaded Waiting) (Being log loaded Unasked) := by
  refine .get_bind fun n => ?_
  cases n.failedStep with
  | none =>
    refine Assures.of_before ?_ fun _ h => h.2.being
    exact .log_bind steady_being fun _ => .pure fun _ => Being.waiting
  | some step =>
    refine .ite (fun _ => ?_) fun _ => ?_
    · refine Assures.of_before ?_ fun _ h => h.2.being
      exact .log_bind steady_being fun _ => .pure fun _ => Being.waiting
    cases hfound : n.store.conversation.find? step.messageId with
    | none =>
      refine Assures.of_before ?_ fun _ h => h.2.being
      exact .log_bind steady_being fun _ =>
        .change_bind steady_being (fun _ => .elsewhere) fun _ => .pure fun _ => Being.waiting
    | some previous =>
      dsimp only
      cases n.settings.debater step.sender with
      | error e => exact .throw fun _ h => h.2.being
      | ok persona =>
        refine Assures.of_before (P := CanReopen log loaded step.messageId previous) ?_
          fun m h => ⟨h.2, h.1 ▸ hfound⟩
        refine .aside_bind (aside_chooseVoice _) (steady_canReopen _ _) (fun voice => ?_)
          fun _ h => h.1.being
        refine .change_bind (steady_canReopen _ _) (fun _ => .elsewhere) fun _ => ?_
        refine (assures_reopen previous).sure_bind fun _ => .live_bind steady_being fun _ => ?_
        refine .look_bind fun n => (assures_startTurn _ _ _ _).attempt_bind (fun _ => ?_) fun e => ?_
        · exact .pure fun _ => id
        · exact (assures_settleRetry persona previous (.error e)).bind fun _ => .pure fun _ => Being.waiting

/-- how a retry goes on when its reply arrives -/
theorem assures_continueRetry (c : Call) (previous : Message) (htask : c.task = .retry previous)
    (reply : Except Fault Value) :
    Assures Fine (Being log loaded fun xs _ => AtStake c.task c.messageId xs)
      (continueRetry (watching environment) c previous reply)
      (fun _ => Being log loaded Unasked) (Being log loaded Unasked) := by
  refine Assures.attempt_bind (Q := fun _ => Being log loaded Unasked)
    (F := Being log loaded (Staked (.retry previous) c.messageId)) ?_ (fun _ => ?_) fun e => ?_
  · rw [← htask]
    refine (assures_finishTurn c reply).bind fun _ => ?_
    refine .change_bind steady_being (fun _ => .elsewhere) fun _ => ?_
    exact (assures_notify _).to_fault fun _ => False.elim
  · exact assures_settleRetry (v := c.messageId) c.persona previous (.ok ())
  · exact assures_settleRetry c.persona previous (.error e)

/-! ## events of a run -/

/-- a run goes on with a reply -/
theorem assures_resume (reply : Except Fault Value) :
    Assures Fine (Being log loaded Waiting) (resume (watching environment) reply)
      (fun _ => Being log loaded Waiting) (Being log loaded Waiting) := by
  refine .get_bind fun n => ?_
  cases hcall : n.call with
  | none => exact .pure fun _ h => h.2
  | some c =>
    have hstake (m : Moderator (Audience × Bool)) (h : m = n ∧ m.Being log loaded Waiting) :
        m.Being log loaded fun xs _ => AtStake c.task c.messageId xs :=
      ⟨h.2.1, h.2.2 c (h.1 ▸ hcall)⟩
    cases htask : c.task with
    | debate p =>
      simp only [htask]
      refine ((assures_continueDebate c p reply).of_before hstake).attempt_bind (fun o => ?_) fun e => ?_
      · exact ((assures_settleDebate (.ok o)).to_fault fun _ => Being.waiting).bind fun _ =>
          .pure fun _ => Paused.waiting
      · exact ((assures_settleDebate (.error e)).to_fault fun _ => Being.waiting).bind fun _ =>
          .pure fun _ => Paused.waiting
    | retry previous =>
      simp only [htask]
      exact (((assures_continueRetry c previous htask reply).of_before hstake).to_fault
        fun _ => Being.waiting).bind fun _ => .pure fun _ => Being.waiting

/-- an edit that comes in -/
theorem assures_editWith (content : Value) :
    Assures Fine (Being log loaded R)
      (editWith (announce (watching environment) (watching environment).depth) content)
      (fun _ => Being log loaded R) Never := by
  refine .look_bind fun n => .ite (fun _ => ?_) fun _ => assures_edit content
  exact .log_bind steady_being fun _ => assures_edit content

/-- an event of a run that is under way -/
theorem Being.step {e : Event} (he : e.isOfRun = true) (hrun : m.running = true)
    (hfine : Fine (m.step (watching environment) e).audience) :
    Fine m.audience ∧ (m.Being log loaded Waiting →
      (m.step (watching environment) e).Being log loaded Waiting) := by
  have haside {m' : Moderator (Audience × Bool)} (h : Aside m m') (hfine : Fine m'.audience) :
      Fine m.audience ∧ (m.Being log loaded Waiting → m'.Being log loaded Waiting) :=
    ⟨h.audience ▸ hfine, steady_being m m' h⟩
  cases e with
  | told c =>
    by_cases hedit : ∃ v, c = .edit v
    · obtain ⟨v, rfl⟩ := hedit
      have hobey : (m.step (watching environment) (.told (.edit v))) = _ :=
        snd_carry_map m _ _ fun _ _ => rfl
      rw [hobey] at hfine ⊢
      exact ((assures_editWith v).to_fault fun _ => False.elim).after hfine
    · exact haside (aside_told _ hrun he fun v hv => hedit ⟨v, hv⟩) hfine
  | replied reply => exact (assures_resume reply).after hfine
  | attached => cases he
  | passed now clock => exact haside ⟨rfl, rfl, rfl, rfl, Nat.le_refl _, rfl⟩ hfine

/-- a run, whatever happens until it ends -/
theorem Being.during {es : List Event} (hes : ∀ e ∈ es, e.isOfRun = true)
    (hfine : Fine (m.during (watching environment) es).audience) :
    Fine m.audience ∧ (m.Being log loaded Waiting →
      (m.during (watching environment) es).Being log loaded Waiting) := by
  induction es generalizing m with
  | nil => exact ⟨hfine, id⟩
  | cons e es ih =>
    obtain ⟨he, hrest⟩ := List.forall_mem_cons.mp hes
    cases hrun : m.running with
    | false =>
      rw [during_of_idle _ hrun] at hfine ⊢
      exact ⟨hfine, id⟩
    | true =>
      rw [during_cons _ hrun] at hfine ⊢
      obtain ⟨hbetween, hduring⟩ := ih hrest hfine
      obtain ⟨hbefore, hstep⟩ := Being.step he hrun hbetween
      exact ⟨hbefore, fun h => hduring (hstep h)⟩

end Moderator

end Debate
