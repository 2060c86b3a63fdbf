import Debate.Proofs.Refusing

/-!
# Faults of the configuration

Once a service is chosen, nothing that a run does ends in a fault of the configuration, at its start
or at any later reply, unless it is a listener's own. A reply that is itself a fault of that kind is
no exception: it makes the turn fail.

* `Faults`                  a step whose faults are all of some kind;
* `Surroundings.Raises`     a fault that a listener has;
* `Surroundings.Explains`   a fault that is none of the configuration, unless a listener has it.
-/

namespace Debate

variable {σ α β : Type}

/-! ## the faults of a step -/

/-- every fault that a step ends in is of some kind -/
def Faults (F : Fault → Prop) (x : Moderating σ α) : Prop :=
  ∀ (m : Moderator σ) (e : Fault), (m.carry x).1 = .error e → F e

namespace Faults

open Moderator

variable {F : Fault → Prop} {x : Moderating σ α}

theorem of_passes (h : Passes x) : Faults F x := by
  intro m e he
  obtain ⟨a, ha⟩ := h m
  rw [ha] at he
  cases he

theorem pure (a : α) : Faults F (pure a : Moderating σ α) := of_passes (Passes.pure a)

theorem get : Faults F (get : Moderating σ _) := fun _ _ => nofun

theorem modify (f : Moderator σ → Moderator σ) : Faults F (modify f : Moderating σ _) :=
  of_passes (Passes.modify f)

theorem attempt : Faults F (attempt x) := fun _ _ => nofun

theorem lift {r : Except Fault α} (h : ∀ e, r = .error e → F e) :
    Faults F (liftM r : Moderating σ α) := by
  intro m e he
  rw [carry_lift] at he
  exact h e he

theorem throw {e : Fault} (h : F e) : Faults F (throw e : Moderating σ α) := by
  intro m e' he
  cases he
  exact h

theorem raise {r : Option Fault} (h : ∀ e, r = some e → F e) : Faults F (raise (σ := σ) r) := by
  intro m e he
  rw [carry_raise] at he
  cases r with
  | none => cases he
  | some e' =>
    cases he
    exact h e rfl

theorem bind {f : α → Moderating σ β} (hx : Faults F x) (hf : ∀ a, Faults F (f a)) :
    Faults F (x >>= f) := by
  intro m e he
  rw [carry_bind] at he
  rcases hr : m.carry x with ⟨e' | a, m'⟩ <;> rw [hr] at he
  · cases he
    exact hx m e (by rw [hr])
  · exact hf a m' e he

theorem attempt_bind {P : α → Prop} {f : Except Fault α → Moderating σ β} (hx : Faults F x)
    (hp : ∀ (m : Moderator σ) (a : α), (m.carry x).1 = .ok a → P a)
    (hok : ∀ a, P a → Faults F (f (.ok a))) (herror : ∀ e, F e → Faults F (f (.error e))) :
    Faults F (Moderator.attempt x >>= f) := by
  intro m e he
  rcases hr : m.carry x with ⟨e' | a, m'⟩ <;> rw [carry_attempt_bind hr] at he
  · exact herror e' (hx m e' (by rw [hr])) m' e he
  · exact hok a (hp m a (by rw [hr])) m' e he

theorem ite {p : Prop} [Decidable p] {y : Moderating σ α} (hx : Faults F x) (hy : Faults F y) :
    Faults F (if p then x else y) := by
  split <;> assumption

theorem forM {f : β → Moderating σ PUnit} (hf : ∀ b, Faults F (f b)) (bs : List β) :
    Faults F (bs.forM f) := by
  induction bs with
  | nil => exact pure PUnit.unit
  | cons b bs ih => exact bind (hf b) fun _ => ih

end Faults

/-! ## faults that need no explanation -/

def Surroundings.Raises (s : Surroundings σ) (e : Fault) : Prop :=
  ∃ now c audience, (s.hear now c audience).fault = some e

/-- a fault that is none of the configuration, unless a listener has it -/
def Surroundings.Explains (s : Surroundings σ) (e : Fault) : Prop :=
  ∀ message, e = .configuration message → s.Raises e

theorem Surroundings.explains_unsupported (s : Surroundings σ) (text : String) :
    s.Explains (.unsupported text) := fun _ => nofun

variable (s : Surroundings σ)

theorem explains_length {v : Value} {e : Fault} (h : v.length = .error e) : s.Explains e := by
  cases v <;> cases h <;> exact s.explains_unsupported _

theorem explains_titleOf {v : Value} {e : Fault} (h : titleOf v = .error e) : s.Explains e := by
  have hlong (w : Value) (hw : (do
      if (← w.length) > titleLength then throw (w.lacks "start") else return w) = .error e) :
      s.Explains e := by
    cases hlength : w.length with
    | error e' =>
      rw [hlength] at hw
      cases hw
      exact explains_length s hlength
    | ok n =>
      rw [hlength] at hw
      change (if n > titleLength then .error (w.lacks "start") else .ok w) = Except.error e at hw
      split at hw <;> cases hw
      exact s.explains_unsupported _
  cases v with
  | text t => cases h
  | _ => exact hlong _ h

theorem explains_refusal {c : Conversation} {a : Action} {e : Fault} (h : c.refusal? a = some e) :
    s.Explains e := by
  cases a with
  | append x =>
    rw [Conversation.refusal?] at h
    split at h
    · split at h
      · cases h
      · rename_i htitle
        cases h
        exact explains_titleOf s htitle
    · cases h
  | _ => cases h

theorem explains_iterations {st : Settings} {e : Fault} (h : st.iterations = .error e) :
    s.Explains e := by
  rw [Settings.iterations] at h
  split at h <;> cases h
  exact s.explains_unsupported _

theorem explains_notepadText {v : Value} {e : Fault} (h : Prompt.notepadText v = .error e) :
    s.Explains e := by
  cases v <;> cases h <;> exact s.explains_unsupported _

namespace Moderator

/-! ## the faults of a run -/

theorem faults_log (level : Level) (text : String) : Faults s.Explains (log (σ := σ) level text) :=
  Faults.modify _

theorem faults_live (text : String) : Faults s.Explains (live (σ := σ) text) := Faults.modify _

theorem faults_newId : Faults s.Explains (newId (σ := σ)) := fun _ _ => nofun

theorem faults_timestamp : Faults s.Explains (timestamp (σ := σ)) := fun _ _ => nofun

theorem faults_checkToken : Faults s.Explains (checkToken (σ := σ)) :=
  Faults.bind Faults.get fun _ => Faults.ite (Faults.throw fun _ => nofun) (Faults.pure _)

theorem faults_performWith {announce : Moderating σ Unit} (ha : Faults s.Explains announce)
    (op : Store.Operation) : Faults s.Explains (performWith announce op) := by
  refine Faults.bind Faults.get fun m => ?_
  refine Faults.bind (Faults.raise fun e he => ?_) fun _ => ?_
  · cases op with
    | dispatch a => exact explains_refusal s he
    | _ => cases he
  · exact Faults.bind (Faults.modify _) fun _ => Faults.ite ha (Faults.pure _)

theorem faults_editWith {announce : Moderating σ Unit} (ha : Faults s.Explains announce)
    (content : Value) : Faults s.Explains (editWith announce content) := by
  have hedit := faults_performWith s ha (.edit content)
  refine Faults.bind Faults.get fun m => ?_
  exact Faults.ite (Faults.bind (faults_log s _ _) fun _ => hedit) hedit

theorem faults_cancel : Faults s.Explains (cancel (σ := σ)) := by
  intro m e he
  rw [carry_cancel] at he
  split at he <;> cases he

theorem faults_meet {announce : Moderating σ Unit} (ha : Faults s.Explains announce)
    (r : Request) : Faults s.Explains (meet announce r) := by
  cases r with
  | cancel => exact Faults.bind (faults_cancel s) fun _ => Faults.modify _
  | edit content => exact Faults.bind (faults_editWith s ha content) fun _ => Faults.modify _
  | look => exact Faults.bind Faults.get fun _ => Faults.modify _

/-- what is shown to the listeners ends in a fault of their own, or in that of an edit -/
theorem faults_announce (depth : Nat) : Faults s.Explains (announce s depth) := by
  have hraise (m m' : Moderator σ) (e : Fault)
      (he : (m'.carry (raise
        (s.hear m.supply.now m.store.conversation m.audience).fault)).1 = .error e) :
      s.Explains e := by
    refine Faults.raise (fun e' he' => ?_) m' e he
    exact fun _ _ => ⟨_, _, _, he'⟩
  induction depth with
  | zero => exact fun m e he => hraise m _ e he
  | succ depth ih =>
    intro m e he
    have hall := Faults.forM (faults_meet s ih)
      (s.hear m.supply.now m.store.conversation m.audience).requests
    exact Faults.bind hall (fun _ m' e' he' => hraise m m' e' he') _ e he

theorem faults_perform (op : Store.Operation) : Faults s.Explains (perform s op) :=
  faults_performWith s (faults_announce s _) op

theorem faults_dispatch (a : Action) : Faults s.Explains (dispatch s a) := faults_perform s _

theorem faults_notify (text : String) : Faults s.Explains (notify s text) :=
  Faults.bind (faults_newId s) fun _ => Faults.bind (faults_timestamp s) fun _ => faults_dispatch s _

theorem faults_reportFailure (persona : Persona) (messageId : Value) (e : Fault) :
    Faults s.Explains (reportFailure s persona messageId e) := by
  have logged (level : Level) (text : String) : Faults s.Explains (do
      log level text
      live ("ERROR (" ++ persona.title ++ "): " ++ e.message)
      dispatch s (.fail messageId (if e.message.isEmpty then unknownError else e.message))) :=
    Faults.bind (faults_log s _ _) fun _ =>
      Faults.bind (faults_live s _) fun _ => faults_dispatch s _
  cases e <;> exact logged _ _

theorem faults_startTurn (task : Task) (voice : Voice) (persona : Persona)
    (messageId prompt document : Value) :
    Faults s.Explains (startTurn s task voice persona messageId prompt document) := by
  refine Faults.bind (faults_checkToken s) fun _ => ?_
  refine Faults.bind (faults_live s _) fun _ => ?_
  refine Faults.bind (Faults.lift fun _ => explains_length s) fun _ => ?_
  refine Faults.bind (faults_log s _ _) fun _ => ?_
  refine Faults.bind Faults.get fun m => ?_
  exact Faults.bind (faults_perform s _) fun _ => Faults.modify _

theorem faults_takeTurn (voice : Voice) (p : Progress) (persona : Persona) :
    Faults s.Explains (takeTurn s voice p persona) := by
  refine Faults.bind (faults_checkToken s) fun _ => ?_
  refine Faults.bind Faults.get fun m => ?_
  refine Faults.bind (faults_newId s) fun id => ?_
  refine Faults.bind (faults_timestamp s) fun now => ?_
  refine Faults.bind (faults_dispatch s _) fun _ => ?_
  refine Faults.bind Faults.get fun m' => ?_
  refine Faults.bind (Faults.lift fun _ => explains_notepadText s) fun document => ?_
  exact faults_startTurn s _ _ _ _ _ _

theorem faults_beginIteration (voice : Voice) (p : Progress) :
    Faults s.Explains (beginIteration s voice p) := by
  refine Faults.bind (faults_log s _ _) fun _ => ?_
  refine Faults.bind (faults_live s _) fun _ => ?_
  refine Faults.bind (faults_live s _) fun _ => ?_
  refine Faults.bind (faults_live s _) fun _ => ?_
  exact Faults.bind Faults.get fun m => faults_takeTurn s _ _ _

theorem faults_beginDebate (voice : Voice) (text : Value) :
    Faults s.Explains (beginDebate s voice text) := by
  refine Faults.bind Faults.get fun m => ?_
  refine Faults.bind (Faults.lift fun _ => explains_iterations s) fun n => ?_
  exact faults_beginIteration s _ _

theorem faults_afterTurn (voice : Voice) (p : Progress) (marked : Bool) :
    Faults s.Explains (afterTurn s voice p marked) := by
  rw [afterTurn]
  cases p.position with
  | first =>
    refine Faults.bind Faults.get fun m => ?_
    exact Faults.bind (faults_takeTurn s _ _ _) fun _ => Faults.pure _
  | second before =>
    refine Faults.ite ?_ (Faults.ite ?_ ?_)
    · refine Faults.bind (faults_log s _ _) fun _ => ?_
      exact Faults.bind (faults_notify s _) fun _ => Faults.pure _
    · exact Faults.bind (faults_beginIteration s _ _) fun _ => Faults.pure _
    · exact Faults.bind (faults_log s _ _) fun _ => Faults.pure _

theorem faults_finish (outcome : Outcome) : Faults s.Explains (finish s outcome) := by
  have hclose : Faults s.Explains (σ := σ) (do
      log .info ("Discussion settled: " ++ outcome.name)
      live ("SETTLED: " ++ outcome.name)
      modify (closed outcome)) := by
    refine Faults.bind (faults_log s _ _) fun _ => ?_
    exact Faults.bind (faults_live s _) fun _ => Faults.modify _
  refine Faults.bind (faults_dispatch s _) fun _ => ?_
  exact Faults.ite (Faults.bind (faults_notify s _) fun _ => hclose) hclose

/-- a turn that failed is reported, whatever it failed with -/
theorem faults_continueDebate (c : Call) (p : Progress) (reply : Except Fault Value) :
    Faults s.Explains (continueDebate s c p reply) := by
  refine Faults.bind Faults.attempt fun r => ?_
  cases r with
  | ok result => exact faults_afterTurn s _ _ _
  | error e =>
    have hreport : Faults s.Explains (do
        reportFailure s c.persona c.messageId e
        modify fun m => { m with
          failedStep := some {
            messageId := c.messageId, prompt := c.prompt, sender := c.persona.sender } }
        return some Outcome.failed) := by
      refine Faults.bind (faults_reportFailure s _ _ _) fun _ => ?_
      exact Faults.bind (Faults.modify _) fun _ => Faults.pure _
    cases e with
    | cancelled => exact Faults.throw fun _ => nofun
    | aborted => exact Faults.throw fun _ => nofun
    | _ => exact hreport

theorem faults_settleDebate {r : Except Fault (Option Outcome)}
    (hr : ∀ e, r = .error e → s.Explains e) : Faults s.Explains (settleDebate s r) := by
  unfold settleDebate
  split
  · exact Faults.pure _
  · exact Faults.bind (faults_finish s _) fun _ => Faults.pure _
  · exact Faults.bind (faults_finish s _) fun _ => Faults.pure _
  · exact Faults.bind (faults_finish s _) fun _ => Faults.throw fun _ => nofun
  · exact Faults.bind (faults_finish s _) fun _ => Faults.throw (hr _ rfl)

theorem faults_settleRetry (persona : Persona) (previous : Message) (r : Except Fault Unit) :
    Faults s.Explains (settleRetry s persona previous r) := by
  -- a fault that is handed over is that of a task that was called off
  have hmap {x : Moderating σ Unit} {a b : Outcome × Option Fault} {m : Moderator σ}
      (hb : ∀ e, b.2 = some e → s.Explains e) (h : (m.carry (do x; return b)).1 = .ok a) :
      ∀ e, a.2 = some e → s.Explains e := by
    rw [carry_bind] at h
    rcases hr : m.carry x with ⟨_ | _, m'⟩ <;> rw [hr] at h <;> cases h
    exact hb
  have hnone (outcome : Outcome) : ∀ e, (outcome, (none : Option Fault)).2 = some e → s.Explains e := by
    intro e he
    cases he
  have haborted : ∀ e, (Outcome.cancelled, some Fault.aborted).2 = some e → s.Explains e := by
    intro e he
    cases he
    exact fun _ => nofun
  refine Faults.attempt_bind (P := fun a => ∀ e, a.2 = some e → s.Explains e) ?_ ?_ ?_ ?_
  · split
    · exact Faults.pure _
    · exact Faults.bind (faults_dispatch s _) fun _ => Faults.pure _
    · exact Faults.bind (faults_dispatch s _) fun _ => Faults.pure _
    · exact Faults.bind (faults_reportFailure s _ _ _) fun _ => Faults.pure _
  · intro m a ha
    cases r with
    | ok _ =>
      cases ha
      exact hnone _
    | error e =>
      cases e with
      | aborted => exact hmap haborted ha
      | _ => exact hmap (hnone _) ha
  · intro a ha
    refine Faults.bind (faults_finish s _) fun _ => ?_
    exact Faults.bind (Faults.raise ha) fun _ => Faults.pure _
  · exact fun e he => Faults.bind (faults_finish s _) fun _ => Faults.throw he

/-! ## starts and replies -/

theorem faults_resume (reply : Except Fault Value) : Faults s.Explains (resume s reply) := by
  refine Faults.bind Faults.get fun m => ?_
  cases m.call with
  | none => exact Faults.pure _
  | some c =>
    dsimp only
    cases c.task with
    | debate p =>
      refine Faults.attempt_bind (P := fun _ => True) (faults_continueDebate s c p reply)
        (fun _ _ _ => trivial) (fun o _ => ?_) fun e he => ?_
      · exact Faults.bind (faults_settleDebate s nofun) fun _ => Faults.pure _
      · refine Faults.bind (faults_settleDebate s fun e' he' => ?_) fun _ => Faults.pure _
        cases he'
        exact he
    | retry previous =>
      refine Faults.bind (Faults.bind Faults.attempt fun r => ?_) fun _ => Faults.pure _
      exact faults_settleRetry s _ _ _

end Moderator

end Debate
