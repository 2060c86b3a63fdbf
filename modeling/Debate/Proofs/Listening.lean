import Debate.Proofs.Carried

/-!
# What listeners can change

Whenever the conversation is shown, the listeners may ask for something: that the run be cancelled,
that the notepad be edited, or for a look at the state. All of it is done before the moderator goes
on. So a change of the conversation comes with whatever the listeners make of it; this module says
what that can be.

* `Surroundings.Asks`      a listener asks for something in some situation;
* `Surroundings.Fails`     a listener fails in some situation;
* `Surroundings.IsCalm`    no listener fails, and edits that listeners ask for are texts;
* `Surroundings.Yields`    a step has a result unless a listener fails;
* `Surroundings.heard`     the audience after it was shown conversations, one after the other;
* `Heeded`                 what can differ after the listeners were heeded: the token, the notepad,
                           the edit that is kept back, and what the listeners see and say; they see
                           no other log meanwhile;
* `Moderator.heeded`       the moderator after the listeners were shown the conversation;
* `Moderator.dispatched`   the moderator after a change of the conversation.
-/

namespace Debate

variable {σ α : Type}

/-- a listener asks for something, at some time and for some conversation -/
def Surroundings.Asks (s : Surroundings σ) (r : Request) : Prop :=
  ∃ now c audience, r ∈ (s.hear now c audience).requests

/-- a listener fails, at some time and for some conversation -/
def Surroundings.Fails (s : Surroundings σ) : Prop :=
  ∃ now c audience, (s.hear now c audience).fault ≠ none

/-- no listener fails, and edits that listeners ask for are texts -/
structure Surroundings.IsCalm (s : Surroundings σ) : Prop where
  noFault : ∀ now c audience, (s.hear now c audience).fault = none
  editsText : ∀ content, s.Asks (.edit content) → ∃ t, content = .text t

theorem Surroundings.IsCalm.not_fails {s : Surroundings σ} (hs : s.IsCalm) : ¬ s.Fails :=
  fun ⟨now, c, audience, hfault⟩ => hfault (hs.noFault now c audience)

/-- a step has a result, or a listener fails and the step ends in a fault -/
def Surroundings.Yields (s : Surroundings σ) (r x : Except Fault α) : Prop :=
  x = r ∨ s.Fails ∧ ∃ e, x = .error e

theorem Surroundings.IsCalm.eq_of_yields {s : Surroundings σ} (hs : s.IsCalm) {r x : Except Fault α}
    (h : s.Yields r x) : x = r :=
  h.resolve_right fun hfails => hs.not_fails hfails.1

theorem Surroundings.Yields.trans {s : Surroundings σ} {r x y : Except Fault α} (h : s.Yields r x)
    (h' : s.Yields x y) : s.Yields r y := by
  rcases h with rfl | ⟨hfails, e, rfl⟩
  · exact h'
  · rcases h' with rfl | hlost
    · exact .inr ⟨hfails, e, rfl⟩
    · exact .inr hlost

/-- the audience after it was shown conversations at one time, one after the other -/
def Surroundings.heard (s : Surroundings σ) (now : Instant) (cs : List Conversation) (audience : σ) :
    σ := cs.foldl (fun a c => (s.hear now c a).audience) audience

/-- nobody listens, and there is a service -/
def Surroundings.silent : Surroundings Unit where
  hear _ _ _ := { audience := () }
  voice := some "model"

theorem Surroundings.not_asks_silent (r : Request) : ¬ silent.Asks r := by
  rintro ⟨_, _, _, hr⟩
  cases hr

theorem Surroundings.isCalm_silent : silent.IsCalm :=
  ⟨fun _ _ _ => rfl, fun _ h => absurd h (not_asks_silent _)⟩

/-! ## what can differ -/

/-- one conversation has the log of another, and perhaps another notepad -/
def Conversation.SameLog (c c' : Conversation) : Prop := c' = { c with document := c'.document }

namespace Conversation.SameLog

variable {c c' c'' : Conversation}

theorem messages (h : c.SameLog c') : c'.messages = c.messages :=
  (congrArg Conversation.messages h :)

theorem trans (h : c.SameLog c') (h' : c'.SameLog c'') : c.SameLog c'' := by
  unfold SameLog at h h' ⊢
  rw [h', h]

end Conversation.SameLog

/-- the moderator before and after listeners were heeded -/
structure Heeded (s : Surroundings σ) (m m' : Moderator σ) : Prop where
  same : m' = { m with
    audience := m'.audience, shown := m'.shown, journal := m'.journal, granted := m'.granted
    token := m'.token, store := m'.store }
  store : m'.store = { m.store with
    conversation := { m.store.conversation with document := m'.store.conversation.document }
    pendingEdit := m'.store.pendingEdit }
  token : m'.token = m.token ∨ m.token = some false ∧ m'.token = some true ∧ s.Asks .cancel
  document : m'.store.conversation.document = m.store.conversation.document ∨
    m.store.turnInFlight = false ∧ s.Asks (.edit m'.store.conversation.document)
  pendingEdit : m'.store.pendingEdit = m.store.pendingEdit ∨
    m.store.turnInFlight = true ∧ s.Asks (.edit m'.store.pendingEdit)
  audience : ∃ cs, m'.audience = s.heard m.supply.now cs m.audience ∧
    ∀ c ∈ cs, c.messages = m.store.conversation.messages

namespace Heeded

variable {s : Surroundings σ} {m m' m'' : Moderator σ}

/-- a moderator that differs in what listeners see and say only -/
theorem of_same (h : m' = { m with
    audience := m'.audience, shown := m'.shown, journal := m'.journal, granted := m'.granted })
    (haudience : ∃ cs, m'.audience = s.heard m.supply.now cs m.audience ∧
      ∀ c ∈ cs, c.messages = m.store.conversation.messages) : Heeded s m m' := by
  have hstore : m'.store = m.store := (congrArg Moderator.store h :)
  have htoken : m'.token = m.token := (congrArg Moderator.token h :)
  constructor
  · rw [hstore, htoken]
    exact h
  · rw [hstore]
  · exact .inl htoken
  · exact .inl (by rw [hstore])
  · exact .inl (by rw [hstore])
  · exact haudience

/-- nothing is shown -/
theorem unseen (h : m'.audience = m.audience) :
    ∃ cs, m'.audience = s.heard m.supply.now cs m.audience ∧
      ∀ c ∈ cs, c.messages = m.store.conversation.messages :=
  ⟨[], h, fun _ hc => absurd hc List.not_mem_nil⟩

theorem refl (s : Surroundings σ) (m : Moderator σ) : Heeded s m m := of_same rfl (unseen rfl)

theorem messages (h : Heeded s m m') :
    m'.store.conversation.messages = m.store.conversation.messages :=
  (congrArg (fun x => x.conversation.messages) h.store :)

theorem turnInFlight (h : Heeded s m m') : m'.store.turnInFlight = m.store.turnInFlight :=
  (congrArg Store.turnInFlight h.store :)

theorem trans (h : Heeded s m m') (h' : Heeded s m' m'') : Heeded s m m'' := by
  constructor
  · rw [h'.same, h.same]
  · rw [h'.store, h.store]
  · rcases h'.token with ht' | ⟨ha, hb, hc⟩
    · rw [ht']
      exact h.token
    · rcases h.token with ht | ⟨-, hb', -⟩
      · exact .inr ⟨ht ▸ ha, hb, hc⟩
      · rw [hb'] at ha
        cases ha
  · rcases h'.document with hd' | ⟨ha, hb⟩
    · rw [hd']
      exact h.document
    · exact .inr ⟨h.turnInFlight ▸ ha, hb⟩
  · rcases h'.pendingEdit with hp' | ⟨ha, hb⟩
    · rw [hp']
      exact h.pendingEdit
    · exact .inr ⟨h.turnInFlight ▸ ha, hb⟩
  · obtain ⟨cs, ha, hcs⟩ := h.audience
    obtain ⟨cs', ha', hcs'⟩ := h'.audience
    have hsupply : m'.supply = m.supply := (congrArg Moderator.supply h.same :)
    refine ⟨cs ++ cs', ?_, fun c hc => ?_⟩
    · rw [ha', ha, hsupply, Surroundings.heard, Surroundings.heard, Surroundings.heard,
        List.foldl_append]
    · rcases List.mem_append.mp hc with hc | hc
      · exact hcs c hc
      · exact (hcs' c hc).trans h.messages

end Heeded

namespace Moderator

variable {s : Surroundings σ}

/-! ## one request, all requests -/

/-- the requests of a listener in one situation are requests that it asks for -/
theorem asks_present (s : Surroundings σ) (m : Moderator σ) {r : Request} {h : Heard σ}
    (hp : (m.carry (present s)).1 = .ok h) (hr : r ∈ h.requests) : s.Asks r := by
  have he : s.hear m.supply.now m.store.conversation m.audience = h := Except.ok.inj hp
  exact ⟨_, _, _, he ▸ hr⟩

theorem keeps_present (s : Surroundings σ) : Keeps (Heeded s) (present s) := by
  intro m
  refine Heeded.of_same rfl ⟨[m.store.conversation], rfl, fun c hc => ?_⟩
  rw [List.mem_singleton.mp hc]

theorem keeps_grant (s : Surroundings σ) (g : Granted) : Keeps (Heeded s) (grant g) := by
  intro m
  exact Heeded.of_same rfl (Heeded.unseen rfl)

/-- an edit that a listener asks for lands at once, or is kept back while a turn is in flight -/
theorem heeded_edit {content : Value} (h : s.Asks (.edit content)) (m : Moderator σ) :
    Heeded s m { m with store := (m.store.perform (.edit content)).1 } := by
  rcases hf : m.store.turnInFlight with _ | _
  · constructor
    · rfl
    · simp only [Store.perform, hf, Bool.false_eq_true, if_false, Store.dispatch,
        Conversation.apply]
    · exact .inl rfl
    · right
      simp only [Store.perform, hf, Bool.false_eq_true, if_false, Store.dispatch,
        Conversation.apply]
      exact ⟨trivial, h⟩
    · left
      simp only [Store.perform, hf, Bool.false_eq_true, if_false, Store.dispatch]
    · exact Heeded.unseen rfl
  · constructor
    · rfl
    · simp only [Store.perform, hf, if_true]
    · exact .inl rfl
    · left
      simp only [Store.perform, hf, if_true]
    · right
      simp only [Store.perform, hf, if_true]
      exact ⟨trivial, h⟩
    · exact Heeded.unseen rfl

theorem keeps_editWith {announce : Moderating σ Unit} (ha : Keeps (Heeded s) announce)
    {content : Value} (h : s.Asks (.edit content)) :
    Keeps (Heeded s) (editWith announce content) := by
  have keep : ∀ m : Moderator σ, Heeded s m (m.carry (performWith announce (.edit content))).2 := by
    intro m
    have hm := heeded_edit h m
    rw [carry_performWith announce rfl]
    dsimp only
    split
    · exact hm.trans (ha _)
    · exact hm
  intro m
  rw [editWith, carry_bind_ok (carry_get m)]
  split
  · rw [carry_bind_ok (carry_log _ _ _)]
    have hlogged (level : Level) (text : String) : Heeded s m (m.record (.log level text)) :=
      Heeded.of_same rfl (Heeded.unseen rfl)
    exact (hlogged _ _).trans (keep _)
  · exact keep m

theorem keeps_meet {announce : Moderating σ Unit} (ha : Keeps (Heeded s) announce) {r : Request}
    (hr : s.Asks r) : Keeps (Heeded s) (meet announce r) := by
  cases r with
  | cancel =>
    intro m
    rw [meet, carry_bind, carry_cancel]
    split <;> rename_i hc <;> split at hc <;> cases hc
    · rename_i ht
      refine Heeded.trans ?_ (keeps_grant s _ _)
      constructor
      · rfl
      · rfl
      · exact .inr ⟨ht, rfl, hr⟩
      · exact .inl rfl
      · exact .inl rfl
      · exact Heeded.unseen rfl
    · exact keeps_grant s _ m
  | edit content =>
    exact Keeps.bind (fun _ _ _ => Heeded.trans) (keeps_editWith ha hr) fun _ => keeps_grant s _
  | look =>
    intro m
    rw [meet, carry_bind_ok (carry_get m)]
    exact keeps_grant s _ m

theorem keeps_meetAll {announce : Moderating σ Unit} (ha : Keeps (Heeded s) announce)
    (rs : List Request) (hrs : ∀ r ∈ rs, s.Asks r) :
    Keeps (Heeded s) (rs.forM (meet announce)) := by
  induction rs with
  | nil => exact Keeps.pure (Heeded.refl s) PUnit.unit
  | cons r rs ih =>
    have hrest := ih fun x hx => hrs x (List.mem_cons_of_mem r hx)
    exact Keeps.bind (fun _ _ _ => Heeded.trans) (keeps_meet ha (hrs r List.mem_cons_self))
      fun _ => hrest

/-- however often requests lead to further requests -/
theorem keeps_announce (s : Surroundings σ) (depth : Nat) :
    Keeps (Heeded s) (announce s depth) := by
  induction depth with
  | zero =>
    exact Keeps.bind (fun _ _ _ => Heeded.trans) (keeps_present s)
      fun _ => Keeps.raise (Heeded.refl s) _
  | succ depth ih =>
    intro m
    have hp := keeps_present s m
    rw [announce, carry_bind]
    rcases hm : m.carry (present s) with ⟨_ | h, m'⟩ <;> rw [hm] at hp
    · exact hp
    · have hall := keeps_meetAll ih h.requests fun r hr =>
        asks_present s m (by rw [hm]) hr
      have hrest : Keeps (Heeded s) (do h.requests.forM (meet (announce s depth)); raise h.fault) :=
        Keeps.bind (fun _ _ _ => Heeded.trans) hall fun _ => Keeps.raise (Heeded.refl s) _
      exact hp.trans (hrest m')

/-! ## listeners that do not fail -/

theorem passes_editWith {announce : Moderating σ Unit} (ha : Passes announce) (content : Value) :
    Passes (editWith announce content) := by
  have keep : Passes (performWith announce (.edit content)) := by
    intro m
    rw [carry_performWith announce rfl]
    dsimp only
    split
    · exact ha _
    · exact Passes.pure () _
  intro m
  rw [editWith, carry_bind_ok (carry_get m)]
  split
  · rw [carry_bind_ok (carry_log _ _ _)]
    exact keep _
  · exact keep m

theorem passes_meet {announce : Moderating σ Unit} (ha : Passes announce) (r : Request) :
    Passes (meet announce r) := by
  cases r with
  | cancel =>
    intro m
    rw [meet, carry_bind, carry_cancel]
    split <;> rename_i hc <;> split at hc <;> cases hc <;> exact Passes.modify _ _
  | edit content => exact Passes.bind (passes_editWith ha content) fun _ => Passes.modify _
  | look => exact fun m => Passes.modify _ m

/-- what listeners said is raised only if it is a fault -/
theorem passes_announce (hs : ¬ s.Fails) (depth : Nat) : Passes (announce s depth) := by
  have hnone (now : Instant) (c : Conversation) (audience : σ) :
      (s.hear now c audience).fault = none :=
    Classical.not_not.mp fun hfault => hs ⟨now, c, audience, hfault⟩
  induction depth with
  | zero =>
    intro m
    refine ⟨(), ?_⟩
    show (Moderator.carry _ (raise (s.hear m.supply.now m.store.conversation m.audience).fault)).1 = _
    rw [hnone, carry_raise]
  | succ depth ih =>
    intro m
    have hall := Passes.forM (passes_meet ih)
      (s.hear m.supply.now m.store.conversation m.audience).requests
    refine Passes.bind hall (f := fun _ => raise _) (fun _ m' => ⟨(), ?_⟩) _
    rw [hnone, carry_raise]

/-! ## changes of the conversation -/

/-- the moderator after the listeners were shown the conversation -/
def heeded (s : Surroundings σ) (m : Moderator σ) : Moderator σ := (m.carry (announce s s.depth)).2

theorem heeded_heeded (s : Surroundings σ) (m : Moderator σ) : Heeded s m (m.heeded s) :=
  keeps_announce s s.depth m

theorem carry_announce (hs : s.IsCalm) (m : Moderator σ) :
    m.carry (announce s s.depth) = (.ok (), m.heeded s) :=
  (passes_announce hs.not_fails s.depth).carry_eq m

theorem yields_announce (s : Surroundings σ) (m : Moderator σ) :
    ∃ x, m.carry (announce s s.depth) = (x, m.heeded s) ∧ s.Yields (.ok ()) x := by
  refine ⟨_, carry_pair m _, ?_⟩
  by_cases hfails : s.Fails
  · cases hx : (m.carry (announce s s.depth)).1 with
    | ok _ => exact .inl rfl
    | error e => exact .inr ⟨hfails, e, rfl⟩
  · exact .inl (congrArg Prod.fst ((passes_announce hfails s.depth).carry_eq m))

/-- the moderator after a change of the conversation, which the listeners were shown -/
def dispatched (s : Surroundings σ) (a : Action) (m : Moderator σ) : Moderator σ :=
  heeded s { m with store := m.store.dispatch a }

theorem yields_dispatch (s : Surroundings σ) {m : Moderator σ} {a : Action}
    (h : m.store.conversation.refusal? a = none) :
    ∃ x, m.carry (dispatch s a) = (x, m.dispatched s a) ∧ s.Yields (.ok ()) x := by
  rw [dispatch, perform, carry_performWith _ (show m.store.refusal? (.dispatch a) = none from h)]
  exact yields_announce s _

theorem carry_dispatch (hs : s.IsCalm) {m : Moderator σ} {a : Action}
    (h : m.store.conversation.refusal? a = none) :
    m.carry (dispatch s a) = (.ok (), m.dispatched s a) := by
  obtain ⟨x, hx, hyields⟩ := yields_dispatch s h
  rw [hx, hs.eq_of_yields hyields]

/-- the messages of the conversation at hand -/
abbrev messages (m : Moderator σ) : List Message := m.store.conversation.messages

/-- the notepad of the conversation at hand -/
abbrev document (m : Moderator σ) : Value := m.store.conversation.document

section

variable (s : Surroundings σ) (a : Action) (m : Moderator σ)

theorem heeded_dispatched :
    Heeded s { m with store := m.store.dispatch a } (m.dispatched s a) :=
  heeded_heeded s _

theorem sameLog_dispatched :
    (m.store.conversation.apply a).SameLog (m.dispatched s a).store.conversation :=
  (congrArg Store.conversation (heeded_dispatched s a m).store :)

@[simp] theorem settings_dispatched : (m.dispatched s a).settings = m.settings :=
  (congrArg Moderator.settings (heeded_dispatched s a m).same :)

@[simp] theorem supply_dispatched : (m.dispatched s a).supply = m.supply :=
  (congrArg Moderator.supply (heeded_dispatched s a m).same :)

@[simp] theorem clock_dispatched : (m.dispatched s a).clock = m.clock :=
  (congrArg Moderator.clock (heeded_dispatched s a m).same :)

@[simp] theorem running_dispatched : (m.dispatched s a).running = m.running :=
  (congrArg Moderator.running (heeded_dispatched s a m).same :)

@[simp] theorem call_dispatched : (m.dispatched s a).call = m.call :=
  (congrArg Moderator.call (heeded_dispatched s a m).same :)

@[simp] theorem lastOutcome_dispatched : (m.dispatched s a).lastOutcome = m.lastOutcome :=
  (congrArg Moderator.lastOutcome (heeded_dispatched s a m).same :)

@[simp] theorem failedStep_dispatched : (m.dispatched s a).failedStep = m.failedStep :=
  (congrArg Moderator.failedStep (heeded_dispatched s a m).same :)

@[simp] theorem waiting_dispatched : (m.dispatched s a).waiting = m.waiting :=
  (congrArg Moderator.waiting (heeded_dispatched s a m).same :)

@[simp] theorem turnInFlight_dispatched :
    (m.dispatched s a).store.turnInFlight = m.store.turnInFlight :=
  (heeded_dispatched s a m).turnInFlight

@[simp] theorem messages_dispatched :
    (m.dispatched s a).messages = (m.store.conversation.apply a).messages :=
  (congrArg (fun x => x.conversation.messages) (heeded_dispatched s a m).store :)

theorem document_dispatched :
    (m.dispatched s a).document = (m.store.conversation.apply a).document ∨
      m.store.turnInFlight = false ∧ s.Asks (.edit (m.dispatched s a).document) :=
  (heeded_dispatched s a m).document

theorem pendingEdit_dispatched :
    (m.dispatched s a).store.pendingEdit = m.store.pendingEdit ∨
      m.store.turnInFlight = true ∧ s.Asks (.edit (m.dispatched s a).store.pendingEdit) :=
  (heeded_dispatched s a m).pendingEdit

/-- between turns no edit is kept back -/
theorem pendingEdit_dispatched_of_landed (h : m.store.turnInFlight = false) :
    (m.dispatched s a).store.pendingEdit = m.store.pendingEdit := by
  rcases pendingEdit_dispatched s a m with hp | ⟨hf, -⟩
  · exact hp
  · rw [h] at hf
    cases hf

theorem token_dispatched :
    (m.dispatched s a).token = m.token ∨
      m.token = some false ∧ (m.dispatched s a).token = some true ∧ s.Asks .cancel :=
  (heeded_dispatched s a m).token

end

end Moderator

end Debate
