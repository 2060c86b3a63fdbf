import Debate.Proofs.Blaming
import Debate.Proofs.Lineage

/-!
# The service of a run

The service that replies is chosen once, when a run starts. Whatever happens until the run is
settled, it is the one that every reply of the run is asked of.

* `Voiced`                   before and after a step that asks for a reply of one service at most;
* `Moderator.start_refused_or_voiced`  starts that are refused, and starts that are not.
-/

namespace Debate

variable {σ α β : Type}

/-- before and after a step that leaves the call as it was, or one of some service, if any -/
def Voiced (voice : Voice) (m m' : Moderator σ) : Prop :=
  m'.call = m.call ∨ ∀ c, m'.call = some c → c.voice = voice

namespace Voiced

variable {voice : Voice} {m m' m'' : Moderator σ}

theorem refl (voice : Voice) (m : Moderator σ) : Voiced voice m m := .inl rfl

theorem trans (h : Voiced voice m m') (h' : Voiced voice m' m'') : Voiced voice m m'' := by
  rcases h' with h' | h'
  · rcases h with h | h
    · exact .inl (h'.trans h)
    · exact .inr fun c hc => h c (h'.symm.trans hc)
  · exact .inr h'

theorem bind {x : Moderating σ α} {f : α → Moderating σ β} (hx : Keeps (Voiced voice) x)
    (hf : ∀ a, Keeps (Voiced voice) (f a)) : Keeps (Voiced voice) (x >>= f) :=
  Keeps.bind (fun _ _ _ h h' => h.trans h') hx hf

theorem of_settling {x : Moderating σ α} (h : Keeps Settling x) : Keeps (Voiced voice) x :=
  fun m => .inl (h m).call

theorem of_still {x : Moderating σ α} (h : Keeps Still x) : Keeps (Voiced voice) x :=
  fun m => .inl (h m).call

theorem modify {f : Moderator σ → Moderator σ} (h : ∀ m, (f m).call = m.call) :
    Keeps (Voiced voice) (modify f : Moderating σ _) := fun m => .inl (h m)

theorem get : Keeps (Voiced (σ := σ) voice) (get : Moderating σ _) := fun _ => .inl rfl

theorem pure (a : α) : Keeps (Voiced voice) (pure a : Moderating σ α) := fun _ => .inl rfl

end Voiced

namespace Moderator

variable (s : Surroundings σ) (voice : Voice)

/-! ## turns -/

theorem voiced_startTurn (task : Task) (persona : Persona) (messageId prompt document : Value) :
    Keeps (Voiced voice) (startTurn s task voice persona messageId prompt document) := by
  refine Voiced.bind (.of_still still_checkToken) fun _ => ?_
  refine Voiced.bind (.of_still (still_live _)) fun _ => ?_
  refine Voiced.bind (Keeps.lift (Voiced.refl voice) _) fun length => ?_
  refine Voiced.bind (.of_still (still_log _ _)) fun _ => ?_
  refine Voiced.bind Voiced.get fun m => ?_
  refine Voiced.bind (.of_still (still_perform s nofun)) fun _ => ?_
  intro m'
  refine .inr fun c hc => ?_
  cases hc
  rfl

theorem voiced_takeTurn (p : Progress) (persona : Persona) :
    Keeps (Voiced voice) (takeTurn s voice p persona) := by
  refine Voiced.bind (.of_still still_checkToken) fun _ => ?_
  refine Voiced.bind Voiced.get fun m => ?_
  refine Voiced.bind (.of_still still_newId) fun id => ?_
  refine Voiced.bind (.of_still still_timestamp) fun now => ?_
  refine Voiced.bind (.of_still (still_dispatch s _)) fun _ => ?_
  refine Voiced.bind Voiced.get fun m' => ?_
  refine Voiced.bind (Keeps.lift (Voiced.refl voice) _) fun document => ?_
  exact voiced_startTurn s voice _ _ _ _ _

theorem voiced_beginIteration (p : Progress) :
    Keeps (Voiced voice) (beginIteration s voice p) := by
  refine Voiced.bind (.of_still (still_log _ _)) fun _ => ?_
  refine Voiced.bind (.of_still (still_live _)) fun _ => ?_
  refine Voiced.bind (.of_still (still_live _)) fun _ => ?_
  refine Voiced.bind (.of_still (still_live _)) fun _ => ?_
  exact Voiced.bind Voiced.get fun m => voiced_takeTurn s voice _ _

theorem voiced_beginDebate (text : Value) : Keeps (Voiced voice) (beginDebate s voice text) := by
  refine Voiced.bind Voiced.get fun m => ?_
  refine Voiced.bind (Keeps.lift (Voiced.refl voice) _) fun n => ?_
  exact voiced_beginIteration s voice _

theorem voiced_afterTurn (p : Progress) (marked : Bool) :
    Keeps (Voiced voice) (afterTurn s voice p marked) := by
  rw [afterTurn]
  cases p.position with
  | first =>
    refine Voiced.bind Voiced.get fun m => ?_
    exact Voiced.bind (voiced_takeTurn s voice _ _) fun _ => Voiced.pure _
  | second before =>
    refine Keeps.ite ?_ (Keeps.ite ?_ ?_)
    · refine Voiced.bind (.of_still (still_log _ _)) fun _ => ?_
      exact Voiced.bind (.of_still (still_notify s _)) fun _ => Voiced.pure _
    · exact Voiced.bind (voiced_beginIteration s voice _) fun _ => Voiced.pure _
    · exact Voiced.bind (.of_still (still_log _ _)) fun _ => Voiced.pure _

theorem voiced_finishTurn (c : Call) (reply : Except Fault Value) :
    Keeps (Voiced voice) (finishTurn s c reply) := by
  intro m
  refine .inr fun c' hc => ?_
  rw [(onward_finishTurn s c reply m).2] at hc
  cases hc

theorem voiced_continueDebate (c : Call) (p : Progress) (reply : Except Fault Value) :
    Keeps (Voiced c.voice) (continueDebate s c p reply) := by
  refine Voiced.bind (Keeps.attempt (voiced_finishTurn s c.voice c reply)) fun r => ?_
  cases r with
  | ok result => exact voiced_afterTurn s c.voice _ _
  | error e =>
    have hreport : Keeps (Voiced c.voice) (do
        reportFailure s c.persona c.messageId e
        modify fun m => { m with
          failedStep := some {
            messageId := c.messageId, prompt := c.prompt, sender := c.persona.sender } }
        return some Outcome.failed) := by
      refine Voiced.bind (.of_still (still_reportFailure s _ _ _)) fun _ => ?_
      exact Voiced.bind (Voiced.modify fun _ => rfl) fun _ => Voiced.pure _
    cases e with
    | cancelled => exact Keeps.throw (Voiced.refl _) _
    | aborted => exact Keeps.throw (Voiced.refl _) _
    | _ => exact hreport

theorem voiced_continueRetry (c : Call) (previous : Message) (reply : Except Fault Value) :
    Keeps (Voiced voice) (continueRetry s c previous reply) := by
  refine Voiced.bind (Keeps.attempt ?_) fun r => .of_settling (settling_settleRetry s _ _ _)
  refine Voiced.bind (voiced_finishTurn s voice c reply) fun _ => ?_
  exact Voiced.bind (Voiced.modify fun _ => rfl) fun _ => .of_still (still_notify s _)

/-! ## events -/

variable {voice}

theorem voiced_perform (op : Store.Operation) : Keeps (Voiced voice) (perform s op) := by
  intro m
  cases h : m.store.refusal? op with
  | some e =>
    rw [perform, performWith, carry_bind_ok (carry_get m), h]
    exact Voiced.refl voice m
  | none =>
    have hstored : Voiced voice m { m with store := (m.store.perform op).1 } := .inl rfl
    rw [perform, carry_performWith _ h]
    dsimp only
    split
    · exact hstored.trans (.inl (still_announce s _).call)
    · exact hstored

theorem voiced_attachNow (c : Conversation) : Keeps (Voiced voice) (attachNow s c) :=
  Voiced.bind (voiced_perform s _) fun _ => Voiced.modify fun _ => rfl

theorem voiced_switch (c : Conversation) : Keeps (Voiced voice) (switch s c) := by
  refine Voiced.bind (.of_still still_cancel) fun _ => ?_
  refine Voiced.bind Voiced.get fun m => ?_
  exact Keeps.ite (Voiced.modify fun _ => rfl) (voiced_attachNow s c)

theorem voiced_attach : Keeps (Voiced voice) (attach s) := by
  refine Voiced.bind Voiced.get fun m => ?_
  cases m.waiting with
  | nil => exact Voiced.pure _
  | cons w rest =>
    refine Keeps.ite ?_ (Voiced.pure _)
    refine Voiced.bind (Voiced.modify fun _ => rfl) fun _ => ?_
    exact Voiced.bind (voiced_attachNow s _) fun _ => Voiced.pure _

theorem voiced_restore (step : Option FailedStep) :
    Keeps (Voiced (σ := σ) voice) (restore step) := by
  cases step with
  | none => exact Voiced.modify fun _ => rfl
  | some x =>
    refine Voiced.bind Voiced.get fun m => Keeps.ite (Voiced.modify fun _ => rfl) ?_
    exact Voiced.bind (.of_still (still_log _ _)) fun _ => Voiced.modify fun _ => rfl

/-- while a run is under way nothing that the moderator is told starts another one -/
theorem voiced_obey {m : Moderator σ} (hrun : m.running = true) (cmd : Command) :
    Voiced voice m (m.carry (obey s cmd)).2 := by
  cases cmd with
  | submit text image =>
    obtain ⟨j, hj⟩ := carry_submit_running s hrun text image
    rw [obey, carry_bind_ok hj]
    exact .inl rfl
  | retry =>
    obtain ⟨j, hj⟩ := carry_retry_running s hrun
    rw [obey, carry_bind_ok hj]
    exact .inl rfl
  | cancel => exact Voiced.bind (.of_still still_cancel) (fun _ => Voiced.pure _) m
  | edit content => exact Voiced.bind (.of_still (still_editWith s _)) (fun _ => Voiced.pure _) m
  | switch c => exact Voiced.bind (voiced_switch s c) (fun _ => Voiced.pure _) m
  | startNew document =>
    have hnew : Keeps (Voiced (σ := σ) voice) (newConversation document) := fun _ => .inl rfl
    refine Voiced.bind hnew (fun c => ?_) m
    exact Voiced.bind (voiced_switch s c) fun _ => Voiced.pure _
  | restore step => exact Voiced.bind (voiced_restore step) (fun _ => Voiced.pure _) m
  | load c => exact Voiced.bind (voiced_perform s _) (fun _ => Voiced.pure _) m
  | configure mode maxTurns => exact .inl rfl
  | look => exact .inl rfl

theorem voiced_resume {m : Moderator σ} (hm : ∀ c, m.call = some c → c.voice = voice)
    (reply : Except Fault Value) : Voiced voice m (m.carry (resume s reply)).2 := by
  cases hc : m.call with
  | none =>
    rw [carry_resume_of_none s hc]
    exact Voiced.refl voice m
  | some c =>
    rw [resume, carry_bind_ok (carry_get m), hc, ← hm c hc]
    dsimp only
    cases c.task with
    | debate p =>
      refine Voiced.bind (Keeps.attempt (voiced_continueDebate s c p reply)) (fun r => ?_) m
      exact Voiced.bind (.of_settling (settling_settleDebate s r)) fun _ => Voiced.pure _
    | retry previous =>
      exact Voiced.bind (voiced_continueRetry s _ c previous reply) (fun _ => Voiced.pure _) m

theorem voiced_step {m : Moderator σ} (hrun : m.running = true)
    (hm : ∀ c, m.call = some c → c.voice = voice) (e : Event) :
    ∀ c, (m.step s e).call = some c → c.voice = voice := by
  have hstep : Voiced voice m (m.step s e) := by
    cases e with
    | told cmd => exact voiced_obey s hrun cmd
    | replied reply => exact voiced_resume s hm reply
    | attached => exact voiced_attach s m
    | passed now clock => exact .inl rfl
  rcases hstep with hcall | hcall
  · rw [hcall]
    exact hm
  · exact hcall

theorem voiced_during {m : Moderator σ} (hm : ∀ c, m.call = some c → c.voice = voice)
    (es : List Event) : ∀ c, (m.during s es).call = some c → c.voice = voice := by
  induction es generalizing m with
  | nil => exact hm
  | cons e es ih =>
    cases hrun : m.running with
    | false =>
      rw [during_of_idle s hrun]
      exact hm
    | true =>
      rw [during_cons s hrun]
      exact ih (voiced_step s hrun hm e)

/-! ## starts -/

/-- a request, once a service is chosen -/
def submitWith (s : Surroundings σ) (voice : Voice) (text image : Value) :
    Moderating σ (Option RunState) := do
  let id ← newId
  let now ← timestamp
  dispatch s (.append (.request id now text image))
  modify fun m => { m with failedStep := none }
  markRunning
  let r ← attempt (beginDebate s voice text)
  return (← settleDebate s (r.map fun _ => none)).map .settled

def retryWith (s : Surroundings σ) (voice : Voice) (step : FailedStep) (previous : Message)
    (persona : Persona) : Moderating σ (Option Bool) := do
  markRunning
  dispatch s (.reopen step.messageId)
  live ("RETRY: " ++ persona.title)
  let document := (← get).store.conversation.document
  match ← attempt (startTurn s (.retry previous) voice persona step.messageId step.prompt
      document) with
  | .ok () => return none
  | .error e => return some (← settleRetry s persona previous (.error e))

theorem voiced_submitWith (text image : Value) :
    Keeps (Voiced voice) (submitWith s voice text image) := by
  refine Voiced.bind (.of_still still_newId) fun id => ?_
  refine Voiced.bind (.of_still still_timestamp) fun now => ?_
  refine Voiced.bind (.of_still (still_dispatch s _)) fun _ => ?_
  refine Voiced.bind (Voiced.modify fun _ => rfl) fun _ => ?_
  refine Voiced.bind (Voiced.modify fun _ => rfl) fun _ => ?_
  refine Voiced.bind (Keeps.attempt (voiced_beginDebate s voice text)) fun r => ?_
  exact Voiced.bind (.of_settling (settling_settleDebate s _)) fun _ => Voiced.pure _

theorem faults_submitWith (text image : Value) :
    Faults s.Explains (submitWith s voice text image) := by
  refine Faults.bind (faults_newId s) fun id => ?_
  refine Faults.bind (faults_timestamp s) fun now => ?_
  refine Faults.bind (faults_dispatch s _) fun _ => ?_
  refine Faults.bind (Faults.modify _) fun _ => ?_
  refine Faults.bind (Faults.modify _) fun _ => ?_
  refine Faults.attempt_bind (P := fun _ => True) (faults_beginDebate s voice text)
    (fun _ _ _ => trivial) (fun o _ => ?_) fun e he => ?_
  · exact Faults.bind (faults_settleDebate s nofun) fun _ => Faults.pure _
  · refine Faults.bind (faults_settleDebate s fun e' he' => ?_) fun _ => Faults.pure _
    cases he'
    exact he

theorem voiced_retryWith (step : FailedStep) (previous : Message) (persona : Persona) :
    Keeps (Voiced voice) (retryWith s voice step previous persona) := by
  refine Voiced.bind (Voiced.modify fun _ => rfl) fun _ => ?_
  refine Voiced.bind (.of_still (still_dispatch s _)) fun _ => ?_
  refine Voiced.bind (.of_still (still_live _)) fun _ => ?_
  refine Voiced.bind Voiced.get fun m => ?_
  refine Voiced.bind (Keeps.attempt (voiced_startTurn s voice _ _ _ _ _)) fun r => ?_
  cases r with
  | ok _ => exact Voiced.pure _
  | error e =>
    exact Voiced.bind (.of_settling (settling_settleRetry s _ _ _)) fun _ => Voiced.pure _

theorem faults_retryWith (step : FailedStep) (previous : Message) (persona : Persona) :
    Faults s.Explains (retryWith s voice step previous persona) := by
  refine Faults.bind (Faults.modify _) fun _ => ?_
  refine Faults.bind (faults_dispatch s _) fun _ => ?_
  refine Faults.bind (faults_live s _) fun _ => ?_
  refine Faults.bind Faults.get fun m => ?_
  refine Faults.bind Faults.attempt fun r => ?_
  cases r with
  | ok _ => exact Faults.pure _
  | error e => exact Faults.bind (faults_settleRetry s _ _ _) fun _ => Faults.pure _

/-- a start asks no service but the one that was chosen, and no fault of the configuration comes out
of it any more -/
theorem start_of_chosen {m m' : Moderator σ} (hrun : m.running = false) {cmd : Command}
    (hcmd : m.IsStart cmd) (hvoice : m.carry (chooseVoice s) = (.ok voice, m')) :
    Voiced voice m' (m.carry (obey s cmd)).2 ∧
      ∀ e, (m.carry (obey s cmd)).1 = .error e → s.Explains e := by
  cases hcmd with
  | submit text image =>
    have hwith : m.carry (submit s text image) = m'.carry (submitWith s voice text image) := by
      rw [submit, carry_bind_ok (carry_get m), hrun, if_neg Bool.false_ne_true,
        carry_bind_ok hvoice]
      rfl
    rw [obey, carry_bind, hwith, ← carry_bind]
    constructor
    · refine Voiced.bind (voiced_submitWith s _ _) (fun r => ?_) m'
      cases r <;> exact Voiced.pure _
    · refine Faults.bind (faults_submitWith s _ _) (fun r => ?_) m'
      cases r <;> exact Faults.pure _
  | @retry step previous failed found sender =>
    obtain ⟨persona, hpersona⟩ := m.settings.exists_debater sender
    have hwith : m.carry (retry s) = m'.carry (retryWith s voice step previous persona) := by
      rw [retry, carry_bind_ok (carry_get m), failed]
      dsimp only
      rw [hrun, if_neg Bool.false_ne_true, found]
      dsimp only
      rw [hpersona]
      dsimp only
      rw [carry_bind_ok hvoice]
      rfl
    rw [obey, carry_bind, hwith, ← carry_bind]
    constructor
    · refine Voiced.bind (voiced_retryWith s _ _ _) (fun r => ?_) m'
      cases r <;> exact Voiced.pure _
    · refine Faults.bind (faults_retryWith s _ _ _) (fun r => ?_) m'
      cases r <;> exact Faults.pure _

/-- a start, while no run is under way. One that is refused ends in a fault of the configuration and
leaves everything as it was. One that is not refused ends in no such fault, neither at once nor at a
later reply of the run, unless a listener has it; and the whole run asks one service -/
theorem start_refused_or_voiced {s : Surroundings σ} {m : Moderator σ}
    (hst : m.settings.IsTyped) (hrun : m.running = false) (hcall : m.call = none) {cmd : Command}
    (hcmd : m.IsStart cmd) :
    (s.Refuses m.settings →
      ∃ message, m.carry (obey s cmd) = (.error (.configuration message), m)) ∧
    (¬ s.Refuses m.settings →
      (∀ e, (m.carry (obey s cmd)).1 = .error e → s.Explains e) ∧
      (∀ es reply e, (((m.step s (.told cmd)).during s es).carry (resume s reply)).1 = .error e →
        s.Explains e) ∧
      ∃ voice, s.Provides m.settings voice ∧
        ∀ es c, ((m.step s (.told cmd)).during s es).call = some c → c.voice = voice) := by
  constructor
  · intro hrefused
    obtain ⟨message, hchoice⟩ := carry_chooseVoice_of_refuses hst hrefused
    exact ⟨message, carry_obey_of_isStart hrun hcmd hchoice⟩
  · intro hfree
    obtain ⟨voice, j, hprovides, hchoice⟩ := carry_chooseVoice_of_not_refuses hst hfree
    obtain ⟨hvoiced, hfaults⟩ := start_of_chosen s hrun hcmd hchoice
    have hstart : ∀ c, (m.step s (.told cmd)).call = some c → c.voice = voice := by
      rcases hvoiced with hnone | hvoiced
      · intro c hc
        rw [show (m.step s (.told cmd)).call = none from hnone.trans hcall] at hc
        cases hc
      · exact hvoiced
    exact ⟨hfaults, fun es reply => faults_resume s reply _, voice, hprovides,
      fun es => voiced_during s hstart es⟩

/-- asks for one provider, with another one configured -/
def standingIn : Moderator Unit :=
  { opened with settings := { providers := {
      provider := .text "openai", ollama := { baseUrl := .text "http://localhost/" } } } }

/-- a request is answered by the provider that stands in; without an address there is none, and the
request leaves nothing behind -/
theorem start_refused_or_voiced_standingIn :
    let s : Surroundings Unit := { Surroundings.silent with voice := none }
    (∃ c, (standingIn.step s (.told (.submit (.text "Go") .null))).call = some c ∧
        c.voice = .chosen (.ollama "http://localhost" (.text "llama3"))) ∧
      ∃ message, Moderator.carry { standingIn with settings := {} }
          (obey s (.submit (.text "Go") .null)) =
        (.error (.configuration message), { standingIn with settings := {} }) := by
  intro s
  have htyped : standingIn.settings.IsTyped :=
    ⟨(by intro hfixed; cases hfixed), ⟨_, rfl⟩, ⟨_, rfl⟩, ⟨_, rfl⟩, ⟨_, rfl⟩⟩
  have hfree : ¬ s.Refuses standingIn.settings := by
    rintro (⟨mode, -, -⟩ | ⟨-, unknown⟩ | ⟨-, missing⟩)
    · cases mode
    · exact unknown .openai rfl
    · exact absurd (missing .ollama) (by decide)
  constructor
  · obtain ⟨-, -, voice, hprovides, hvoiced⟩ :=
      (start_refused_or_voiced htyped rfl rfl (.submit (.text "Go") .null)).2 hfree
    obtain ⟨c, hc⟩ : ∃ c, (standingIn.step s (.told (.submit (.text "Go") .null))).call = some c :=
      Option.isSome_iff_exists.mp (by decide +kernel)
    refine ⟨c, hc, (hvoiced [] c hc).trans ?_⟩
    exact hprovides.unique (.standing (p := .openai) (q := .ollama) rfl rfl (by decide) (by decide) rfl)
  · refine (start_refused_or_voiced
      ⟨(by intro hfixed; cases hfixed), ⟨_, rfl⟩, ⟨_, rfl⟩, ⟨_, rfl⟩, ⟨_, rfl⟩⟩ rfl rfl
      (.submit (.text "Go") .null)).1 (.service rfl fun p => ?_)
    cases p <;> decide

end Moderator

end Debate
