import Debate.Proofs.Lineage

/-!
# Two moderators side by side

Two moderators with the same settings, the same ids and clock and the same conversation do the same
when they are told the same. Who listens to them may differ, and so may what their writing made of
the time of the last message, as long as it says the same of the last activity. The listeners meant
here only take note of what they are shown: they ask for nothing, and they fail only if something goes
wrong with them. The comparison is of runs in which nothing does.

* `Conversation.SameTalk`    conversations that say the same;
* `Pairing`                  when two audiences are alike, and when nothing has gone wrong with one;
* `Pairing.Fits`             surroundings whose listeners stay alike;
* `Twins`                    two moderators side by side;
* `InStep`                   two steps that are taken side by side: their results are the same.
-/

namespace Debate

open Debate.Number

variable {σ σ' α β : Type}

/-! ## conversations -/

/-- conversations that say the same: they differ in the time of the last message at most, and if they
do, one has the time of the other's last activity -/
structure Conversation.SameTalk (c c' : Conversation) : Prop where
  same : c' = { c with updatedAt := c'.updatedAt }
  updatedAt : c'.updatedAt = c.updatedAt ∨ c'.updatedAt = c.activityAt

namespace Conversation.SameTalk

variable {c c' : Conversation}

theorem refl (c : Conversation) : c.SameTalk c := ⟨rfl, .inl rfl⟩

theorem messages (h : c.SameTalk c') : c'.messages = c.messages :=
  (congrArg Conversation.messages h.same :)

theorem document (h : c.SameTalk c') : c'.document = c.document :=
  (congrArg Conversation.document h.same :)

theorem settled (h : c.SameTalk c') : c'.settled = c.settled := by
  rw [Conversation.settled, Conversation.settled, h.messages]

theorem activityAt (h : c.SameTalk c') : c'.activityAt = c.activityAt := by
  have hcreated : c'.createdAt = c.createdAt := (congrArg Conversation.createdAt h.same :)
  rw [Conversation.activityAt, hcreated]
  rcases h.updatedAt with hu | hu
  · rw [hu]
    rfl
  · -- where the time of creation stands for a missing one it does so again
    rw [hu, Conversation.activityAt, Value.orElse, Value.orElse]
    split
    · exact ite_self _
    · rfl

theorem find? (h : c.SameTalk c') (id : Value) : c'.find? id = c.find? id := by
  rw [Conversation.find?, Conversation.find?, h.messages]

theorem refusal? (h : c.SameTalk c') (a : Action) : c'.refusal? a = c.refusal? a := by
  rw [h.same]
  cases a <;> rfl

theorem apply (h : c.SameTalk c') (a : Action) : (c.apply a).SameTalk (c'.apply a) := by
  have hsame := h.same
  have hupdated := h.updatedAt
  generalize c'.updatedAt = u at hsame hupdated
  subst hsame
  cases a with
  | append m => exact ⟨rfl, .inl rfl⟩
  | _ => exact ⟨rfl, hupdated⟩

end Conversation.SameTalk

/-- two stores that hold the same but for the time of the last message -/
structure Store.SameTalk (t t' : Store) : Prop where
  conversation : t.conversation.SameTalk t'.conversation
  inFlight : t'.turnInFlight = t.turnInFlight
  pendingEdit : t'.pendingEdit = t.pendingEdit

namespace Store.SameTalk

variable {t t' : Store}

theorem refusal? (h : t.SameTalk t') (op : Store.Operation) : t'.refusal? op = t.refusal? op := by
  cases op with
  | dispatch a => exact h.conversation.refusal? a
  | _ => rfl

/-- an operation keeps two stores the same, and both are shown after it or none -/
theorem perform (h : t.SameTalk t') (op : Store.Operation) :
    (t.perform op).1.SameTalk (t'.perform op).1 ∧ (t'.perform op).2 = (t.perform op).2 := by
  cases op with
  | dispatch a => exact ⟨⟨h.conversation.apply a, h.inFlight, h.pendingEdit⟩, rfl⟩
  | beginTurn => exact ⟨⟨h.conversation, rfl, h.pendingEdit⟩, rfl⟩
  | endTurn =>
    simp only [Store.perform, h.pendingEdit]
    split
    · exact ⟨⟨h.conversation, rfl, rfl⟩, rfl⟩
    · exact ⟨⟨h.conversation.apply (.setDocument t.pendingEdit), rfl, rfl⟩, rfl⟩
  | edit content =>
    simp only [Store.perform, h.inFlight]
    split
    · exact ⟨⟨h.conversation, rfl, rfl⟩, rfl⟩
    · exact ⟨⟨h.conversation.apply (.setDocument content), h.inFlight, h.pendingEdit⟩, rfl⟩
  | load c => exact ⟨⟨.refl c, rfl, rfl⟩, rfl⟩

end Store.SameTalk

/-! ## audiences -/

/-- listeners that only take note of what they are shown, and fail only if something goes wrong; what
they say sends no prompt -/
def Surroundings.IsQuiet (s : Surroundings σ) (fine : σ → Prop) : Prop :=
  ∀ now c audience, (s.hear now c audience).requests = [] ∧
    Journal.prompts (s.hear now c audience).entries = [] ∧
    (fine (s.hear now c audience).audience →
      fine audience ∧ (s.hear now c audience).fault = none)

/-- when two audiences are alike, and when nothing has gone wrong with one; and what two moderators had
sent before they are compared -/
structure Pairing (σ σ' : Type) where
  alike : σ → σ' → Prop
  fine : σ → Prop
  fine' : σ' → Prop
  sent : List Value := []
  sent' : List Value := []

/-- surroundings whose listeners stay alike as long as nothing goes wrong with them -/
structure Pairing.Fits (p : Pairing σ σ') (s : Surroundings σ) (s' : Surroundings σ') : Prop where
  quiet : s.IsQuiet p.fine
  quiet' : s'.IsQuiet p.fine'
  voice : s'.voice = s.voice
  environment : s'.environment = s.environment
  alike : ∀ now c c' a a', c.SameTalk c' → p.alike a a' → p.fine (s.hear now c a).audience →
    p.fine' (s'.hear now c' a').audience →
      p.alike (s.hear now c a).audience (s'.hear now c' a').audience

/-! ## moderators -/

/-- two moderators that hold the same, whoever listens to them -/
structure Moderator.Agrees (m : Moderator σ) (m' : Moderator σ') : Prop where
  settings : m'.settings = m.settings
  supply : m'.supply = m.supply
  clock : m'.clock = m.clock
  running : m'.running = m.running
  token : m'.token = m.token
  call : m'.call = m.call
  failedStep : m'.failedStep = m.failedStep
  store : m.store.SameTalk m'.store

/-- two moderators side by side -/
structure Twins (p : Pairing σ σ') (m : Moderator σ) (m' : Moderator σ') : Prop
    extends m.Agrees m' where
  audience : p.alike m.audience m'.audience
  sends : ∃ prompts, Journal.prompts m.journal = p.sent ++ prompts ∧
    Journal.prompts m'.journal = p.sent' ++ prompts

/-- two steps that are taken side by side: the results are the same, and so is what comes after them,
if nothing goes wrong with the listeners; and once something has gone wrong it stays so -/
structure InStep (p : Pairing σ σ') (x : Moderating σ α) (x' : Moderating σ' α) : Prop where
  fine : Keeps (fun m n => p.fine n.audience → p.fine m.audience) x
  fine' : Keeps (fun m n => p.fine' n.audience → p.fine' m.audience) x'
  both : ∀ {m m'}, Twins p m m' → p.fine (m.carry x).2.audience →
    p.fine' (m'.carry x').2.audience →
      (m'.carry x').1 = (m.carry x).1 ∧ Twins p (m.carry x).2 (m'.carry x').2

namespace Moderator.Agrees

variable {m : Moderator σ} {m' : Moderator σ'}

/-- the same moderator before another audience -/
theorem before (m : Moderator σ) (audience : σ') :
    m.Agrees { m with audience } ∧ { m with audience }.Agrees m :=
  ⟨⟨rfl, rfl, rfl, rfl, rfl, rfl, rfl, .refl _, rfl, rfl⟩,
    rfl, rfl, rfl, rfl, rfl, rfl, rfl, .refl _, rfl, rfl⟩

theorem messages (h : m.Agrees m') : m'.messages = m.messages := h.store.conversation.messages

theorem document (h : m.Agrees m') : m'.document = m.document := h.store.conversation.document

theorem isCancelled (h : m.Agrees m') : m'.isCancelled = m.isCancelled := by
  rw [Moderator.isCancelled, Moderator.isCancelled, h.token]

end Moderator.Agrees

theorem Journal.prompts_append (es fs : List Entry) : prompts (es ++ fs) = prompts es ++ prompts fs :=
  List.filterMap_append

/-- entries in both journals that send the same -/
theorem Twins.journals {p : Pairing σ σ'} {m : Moderator σ} {m' : Moderator σ'} (h : Twins p m m')
    {es es' : List Entry} (hes : Journal.prompts es' = Journal.prompts es) :
    Twins p { m with journal := m.journal ++ es } { m' with journal := m'.journal ++ es' } := by
  obtain ⟨prompts, hsent, hsent'⟩ := h.sends
  refine { h with sends := ⟨prompts ++ Journal.prompts es, ?_, ?_⟩ }
  · rw [Journal.prompts_append, hsent, List.append_assoc]
  · rw [Journal.prompts_append, hsent', hes, List.append_assoc]

theorem Twins.record {p : Pairing σ σ'} {m : Moderator σ} {m' : Moderator σ'} (h : Twins p m m')
    (e : Entry) : Twins p (m.record e) (m'.record e) := h.journals rfl

namespace Moderator

/-- the moderator after its listeners were shown the conversation, whatever they ask for -/
def presented (s : Surroundings σ) (m : Moderator σ) : Moderator σ :=
  let h := s.hear m.supply.now m.store.conversation m.audience
  { m with audience := h.audience, shown := m.shown + 1, journal := m.journal ++ h.entries }

/-- listeners that ask for nothing: showing them the conversation is all there is to it -/
theorem carry_announce_quiet {s : Surroundings σ} {fine : σ → Prop} (hs : s.IsQuiet fine) (depth : Nat)
    (m : Moderator σ) :
    m.carry (announce s depth) = (m.presented s).carry
      (raise (s.hear m.supply.now m.store.conversation m.audience).fault) := by
  have hpresent : m.carry (present s) =
    (.ok (s.hear m.supply.now m.store.conversation m.audience), m.presented s) := rfl
  cases depth with
  | zero => exact carry_bind_ok hpresent _
  | succ depth =>
    rw [announce, carry_bind_ok hpresent, (hs _ _ _).1]
    exact carry_bind_ok (carry_pure _ _) _

theorem carry_performWith_refused {m : Moderator σ} (a : Moderating σ Unit) {op : Store.Operation}
    {e : Fault} (h : m.store.refusal? op = some e) :
    m.carry (performWith a op) = (.error e, m) := by
  rw [performWith, carry_bind_ok (carry_get m), h]
  rfl

/-- an operation on the store changes an audience only where it is shown -/
theorem kept_performWith {fine : σ → Prop} {a : Moderating σ Unit}
    (ha : Keeps (fun m n => fine n.audience → fine m.audience) a) (op : Store.Operation) :
    Keeps (fun m n => fine n.audience → fine m.audience) (performWith a op) := by
  intro m
  cases h : m.store.refusal? op with
  | some e =>
    rw [carry_performWith_refused a h]
    exact id
  | none =>
    rw [carry_performWith a h]
    dsimp only
    split
    · exact ha { m with store := (m.store.perform op).1 }
    · exact id

end Moderator

namespace InStep

open Moderator

variable {p : Pairing σ σ'} {x : Moderating σ α} {x' : Moderating σ' α}

/-! ### parts -/

/-- a step that nobody is shown -/
theorem of_unseen (hx : ∀ m : Moderator σ, (m.carry x).2.audience = m.audience)
    (hx' : ∀ m : Moderator σ', (m.carry x').2.audience = m.audience)
    (h : ∀ {m m'}, Twins p m m' →
      (m'.carry x').1 = (m.carry x).1 ∧ Twins p (m.carry x).2 (m'.carry x').2) : InStep p x x' where
  fine m hm := by rwa [hx] at hm
  fine' m hm := by rwa [hx'] at hm
  both hm _ _ := h hm

theorem pure (a : α) : InStep p (pure a) (pure a) :=
  of_unseen (fun _ => rfl) (fun _ => rfl) fun h => ⟨rfl, h⟩

theorem throw (e : Fault) : InStep (α := α) p (throw e) (throw e) :=
  of_unseen (fun _ => rfl) (fun _ => rfl) fun h => ⟨rfl, h⟩

theorem lift (r : Except Fault α) : InStep p (liftM r) (liftM r) := by
  cases r with
  | error e => exact throw e
  | ok a => exact pure a

theorem update {f : Moderator σ → Moderator σ} {f' : Moderator σ' → Moderator σ'}
    (hf : ∀ m, (f m).audience = m.audience) (hf' : ∀ m, (f' m).audience = m.audience)
    (h : ∀ {m m'}, Twins p m m' → Twins p (f m) (f' m')) :
    InStep p (modify f : Moderating σ _) (modify f' : Moderating σ' _) :=
  of_unseen hf hf' fun hm => ⟨rfl, h hm⟩

theorem bind {f : α → Moderating σ β} {f' : α → Moderating σ' β} (hx : InStep p x x')
    (hf : ∀ a, InStep p (f a) (f' a)) : InStep p (x >>= f) (x' >>= f') where
  fine := Keeps.bind (fun _ _ _ h h' hfine => h (h' hfine)) hx.fine fun a => (hf a).fine
  fine' := Keeps.bind (fun _ _ _ h h' hfine => h (h' hfine)) hx.fine' fun a => (hf a).fine'
  both {m m'} hm hfine hfine' := by
    -- what is fine after both steps was so between them
    have hboth := hx.both hm
    rw [carry_bind] at hfine hfine' ⊢
    rw [carry_bind]
    rcases hr : m.carry x with ⟨r, n⟩
    rcases hr' : m'.carry x' with ⟨r', n'⟩
    rw [hr] at hfine hboth
    rw [hr'] at hfine' hboth
    have hmid : p.fine n.audience := by
      cases r with
      | error e => exact hfine
      | ok a => exact (hf a).fine n hfine
    have hmid' : p.fine' n'.audience := by
      cases r' with
      | error e => exact hfine'
      | ok a => exact (hf a).fine' n' hfine'
    obtain ⟨hresult, hn⟩ := hboth hmid hmid'
    obtain rfl : r' = r := hresult
    cases r' with
    | error e => exact ⟨rfl, hn⟩
    | ok a => exact (hf a).both hn hfine hfine'

/-- each looks at itself: what it finds is the same -/
theorem get [Nonempty σ] [Nonempty σ'] {f : Moderator σ → Moderating σ α}
    {f' : Moderator σ' → Moderating σ' α}
    (h : ∀ {m : Moderator σ} {m' : Moderator σ'}, m.Agrees m' → InStep p (f m) (f' m')) :
    InStep p (MonadState.get >>= f) (MonadState.get >>= f') where
  fine m := by
    rw [carry_bind_ok (carry_get m)]
    exact (h (Agrees.before m (Classical.choice ‹Nonempty σ'›)).1).fine m
  fine' m' := by
    rw [carry_bind_ok (carry_get m')]
    exact (h (Agrees.before m' (Classical.choice ‹Nonempty σ›)).2).fine' m'
  both {m m'} hm := by
    rw [carry_bind_ok (carry_get m), carry_bind_ok (carry_get m')]
    exact (h hm.toAgrees).both hm

theorem attempt (hx : InStep p x x') : InStep p (attempt x) (attempt x') where
  fine := hx.fine
  fine' := hx.fine'
  both hm hfine hfine' := by
    obtain ⟨hresult, htwins⟩ := hx.both hm hfine hfine'
    exact ⟨congrArg Except.ok hresult, htwins⟩

theorem ite {q : Prop} [Decidable q] {y : Moderating σ α} {y' : Moderating σ' α}
    (hx : InStep p x x') (hy : InStep p y y') :
    InStep p (if q then x else y) (if q then x' else y') := by
  split <;> assumption

theorem raise (e : Option Fault) : InStep p (raise e) (raise e) := by
  cases e with
  | none => exact pure ()
  | some e => exact throw e

theorem log (level : Level) (text : String) : InStep p (log level text) (log level text) :=
  update (fun _ => rfl) (fun _ => rfl) fun h => h.record _

theorem live (text : String) : InStep p (live text) (live text) := by
  refine update (fun _ => rfl) (fun _ => rfl) fun {m m'} h => ?_
  rw [h.supply]
  exact h.record _

theorem newId : InStep p newId newId := by
  refine of_unseen (fun _ => rfl) (fun _ => rfl) fun {m m'} h => ?_
  rw [carry_newId, carry_newId, h.supply]
  exact ⟨rfl, { h with supply := rfl }⟩

theorem markRunning : InStep p markRunning markRunning :=
  update (fun _ => rfl) (fun _ => rfl) fun h => { h with token := rfl, running := rfl }

/-- remarks are logged one after the other -/
theorem remarks (level : Level) (remarks : List String) :
    InStep p (forIn remarks PUnit.unit fun remark _ => do
      Moderator.log (σ := σ) level remark
      Pure.pure (ForInStep.yield PUnit.unit)) (forIn remarks PUnit.unit fun remark _ => do
      Moderator.log (σ := σ') level remark
      Pure.pure (ForInStep.yield PUnit.unit)) := by
  induction remarks with
  | nil => exact pure _
  | cons remark remarks ih =>
    rw [List.forIn_cons, List.forIn_cons]
    refine bind (bind (log level remark) fun _ => pure _) fun r => ?_
    cases r with
    | done _ => exact pure _
    | yield _ => exact ih

variable {s : Surroundings σ} {s' : Surroundings σ'}

theorem announce (hp : p.Fits s s') (depth depth' : Nat) :
    InStep p (announce s depth) (announce s' depth') where
  fine m hfine := by
    rw [carry_announce_quiet hp.quiet, carry_raise] at hfine
    exact ((hp.quiet _ _ _).2.2 hfine).1
  fine' m hfine := by
    rw [carry_announce_quiet hp.quiet', carry_raise] at hfine
    exact ((hp.quiet' _ _ _).2.2 hfine).1
  both {m m'} hm hfine hfine' := by
    rw [carry_announce_quiet hp.quiet, carry_raise] at hfine ⊢
    rw [carry_announce_quiet hp.quiet', carry_raise] at hfine' ⊢
    obtain ⟨-, hsaid, hleft⟩ := hp.quiet m.supply.now m.store.conversation m.audience
    obtain ⟨-, hsaid', hright⟩ := hp.quiet' m'.supply.now m'.store.conversation m'.audience
    rw [(hleft hfine).2, (hright hfine').2]
    have hjournals := hm.journals (hsaid'.trans hsaid.symm)
    have hnow : m'.supply.now = m.supply.now := congrArg Supply.now hm.supply
    have halike : p.alike (m.presented s).audience (m'.presented s').audience := by
      rw [presented, hnow] at hfine'
      rw [presented, presented, hnow]
      exact hp.alike _ _ _ _ _ hm.store.conversation hm.audience hfine hfine'
    exact ⟨rfl, { hjournals with audience := halike }⟩

theorem performWith {a : Moderating σ Unit} {a' : Moderating σ' Unit} (ha : InStep p a a')
    (op : Store.Operation) : InStep p (performWith a op) (performWith a' op) where
  fine := kept_performWith ha.fine op
  fine' := kept_performWith ha.fine' op
  both {m m'} hm := by
    have hrefusal := hm.store.refusal? op
    obtain ⟨hstore, hshown⟩ := hm.store.perform op
    cases h : m.store.refusal? op with
    | some e =>
      rw [carry_performWith_refused a h, carry_performWith_refused a' (hrefusal.trans h)]
      exact fun _ _ => ⟨rfl, hm⟩
    | none =>
      have hm' : Twins p { m with store := (m.store.perform op).1 }
          { m' with store := (m'.store.perform op).1 } := { hm with store := hstore }
      rw [carry_performWith a h, carry_performWith a' (hrefusal.trans h), hshown]
      dsimp only
      split
      · exact ha.both hm'
      · exact fun _ _ => ⟨rfl, hm'⟩

section

variable [Nonempty σ] [Nonempty σ']

theorem timestamp : InStep p timestamp timestamp := by
  refine get fun h => ?_
  rw [h.supply]
  exact pure _

theorem checkToken : InStep p checkToken checkToken := by
  refine get fun h => ?_
  rw [h.isCancelled]
  exact ite (throw _) (pure _)

theorem cancel : InStep p cancel cancel := by
  refine get fun {m m'} h => ?_
  rw [h.token]
  split
  · refine bind (log _ _) fun _ => ?_
    refine bind (update (fun _ => rfl) (fun _ => rfl) fun h => ?_) fun _ => pure _
    exact { h with token := rfl }
  · exact pure _

end

end InStep

end Debate
