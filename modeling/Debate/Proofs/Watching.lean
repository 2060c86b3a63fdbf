import Debate.Proofs.Tidy

/-!
# What listeners get to see

Listeners may keep a record of the conversations that they are shown. With it what they see can be
told from the moderator after an event. Whatever happens, and in whatever order, they never see more
than one pending message, in a debate only the last one, and once the moderator is idle everything is
in order again.

* `Surroundings.Records`   an audience that keeps a record; `Surroundings.recorded` is one;
* `Sees`                   what an audience has seen from one moderator to another;
* `Presents`               a change that shows no other log than the one that it leaves;
* `Moderator.IsKept`       an idle moderator with a clean conversation, or one that waits;
* `Event.IsFit`            an event that brings clean conversations only;
* `Moderator.IsKept.step`  what one event keeps, and what is seen meanwhile;
* `Moderator.settled_state`  the same for every order of events.
-/

namespace Debate

variable {σ : Type}

/-! ## records -/

/-- an audience that keeps the conversations that it is shown, in order -/
def Surroundings.Records (s : Surroundings σ) (seen : σ → List Conversation) : Prop :=
  ∀ now c a, seen (s.hear now c a).audience = seen a ++ [c]

/-- the same listeners, with a record of what they are shown -/
def Surroundings.recorded (s : Surroundings σ) : Surroundings (σ × List Conversation) where
  hear now c a := {
    audience := ((s.hear now c a.1).audience, a.2 ++ [c])
    entries := (s.hear now c a.1).entries
    requests := (s.hear now c a.1).requests
    fault := (s.hear now c a.1).fault }
  voice := s.voice
  environment := s.environment
  depth := s.depth

theorem Surroundings.records_recorded (s : Surroundings σ) : s.recorded.Records (·.2) :=
  fun _ _ _ => rfl

theorem Surroundings.asks_recorded {s : Surroundings σ} {r : Request} (h : s.recorded.Asks r) :
    s.Asks r := by
  obtain ⟨now, c, a, hr⟩ := h
  exact ⟨now, c, a.1, hr⟩

theorem Surroundings.IsCalm.recorded {s : Surroundings σ} (h : s.IsCalm) : s.recorded.IsCalm :=
  ⟨fun now c a => h.noFault now c a.1, fun content hr => h.editsText content (asks_recorded hr)⟩

theorem Surroundings.Records.seen_heard {s : Surroundings σ} {seen : σ → List Conversation}
    (h : s.Records seen) (now : Instant) (cs : List Conversation) (a : σ) :
    seen (s.heard now cs a) = seen a ++ cs := by
  induction cs generalizing a with
  | nil => exact (List.append_nil _).symm
  | cons c cs ih =>
    change seen (s.heard now cs (s.hear now c a).audience) = _
    rw [ih, h, List.append_assoc]
    rfl

/-- what an audience that keeps a record has seen from one moderator to another: only logs of one
kind -/
def Sees (seen : σ → List Conversation) (P : List Message → Prop) (m m' : Moderator σ) : Prop :=
  ∃ cs, seen m'.audience = seen m.audience ++ cs ∧ ∀ c ∈ cs, P c.messages

/-- a change that shows no other log than the one that it leaves -/
def Presents (seen : σ → List Conversation) (f : Moderator σ → Moderator σ) : Prop :=
  ∀ (m : Moderator σ) (P : List Message → Prop), P (f m).messages → Sees seen P m (f m)

namespace Sees

variable {seen : σ → List Conversation} {P Q : List Message → Prop} {m m' m'' : Moderator σ}

theorem unseen (h : m'.audience = m.audience) : Sees seen P m m' :=
  ⟨[], by rw [h, List.append_nil], fun _ hc => absurd hc List.not_mem_nil⟩

theorem trans (h : Sees seen P m m') (h' : Sees seen P m' m'') : Sees seen P m m'' := by
  obtain ⟨cs, ha, hcs⟩ := h
  obtain ⟨cs', ha', hcs'⟩ := h'
  refine ⟨cs ++ cs', by rw [ha', ha, List.append_assoc], fun c hc => ?_⟩
  exact (List.mem_append.mp hc).elim (hcs c) (hcs' c)

theorem mono (h : Sees seen P m m') (hPQ : ∀ {xs}, P xs → Q xs) : Sees seen Q m m' := by
  obtain ⟨cs, ha, hcs⟩ := h
  exact ⟨cs, ha, fun c hc => hPQ (hcs c hc)⟩

theorem heeded {s : Surroundings σ} (hseen : s.Records seen) (h : Heeded s m m')
    (hP : P m'.messages) : Sees seen P m m' := by
  obtain ⟨cs, ha, hcs⟩ := h.audience
  refine ⟨cs, by rw [ha, hseen.seen_heard], fun c hc => ?_⟩
  rw [hcs c hc, ← h.messages]
  exact hP

end Sees

section

open Moderator

variable {seen : σ → List Conversation} {s : Surroundings σ} {m m' : Moderator σ}

theorem presents_dispatched (hseen : s.Records seen) (a : Action) :
    Presents seen (dispatched s a) := by
  intro m P hP
  exact Sees.heeded (m := { m with store := m.store.dispatch a }) hseen (heeded_dispatched s a m) hP

theorem presents_appended (hseen : s.Records seen) (make : String → String → Message) :
    Presents seen (appended s make) := by
  intro m P hP
  exact presents_dispatched hseen (.append (make m.supply.draw.1 m.supply.timestamp))
    { m with supply := m.supply.draw.2 } P hP

theorem presents_turnEnded (hseen : s.Records seen) : Presents seen (turnEnded s) := by
  intro m P hP
  unfold turnEnded at hP ⊢
  split
  · exact Sees.unseen rfl
  · rename_i hedit
    rw [if_neg hedit] at hP
    exact presents_dispatched hseen (.setDocument m.store.pendingEdit)
      { m with store := { m.store with turnInFlight := false, pendingEdit := .null } } P hP

/-- the log is shown with the result, and perhaps once more with an edit that was kept back -/
theorem presents_committed (hseen : s.Records seen) (c : Call) (r : Except Fault Turn.Result) :
    Presents seen (committed s c r) := by
  intro m P hP
  cases r with
  | error e => exact presents_turnEnded hseen m.withoutCall P hP
  | ok r =>
    have hresolved : P (m.withoutCall.dispatched s (resolution c r)).messages := by
      rw [← messages_turnEnded s]
      exact hP
    exact (presents_dispatched hseen (resolution c r) m.withoutCall P hresolved).trans
      (presents_turnEnded hseen _ P hP)

theorem presents_requested (hseen : s.Records seen) (text : String) (image : Value) :
    Presents seen (requested s text image) := by
  intro m P hP
  exact presents_appended hseen (fun id now => .request id now (.text text) image) m P hP

theorem presents_reopened (hseen : s.Records seen) (previous : Message) :
    Presents seen (reopened s previous) := by
  intro m P hP
  exact presents_dispatched hseen (.reopen previous.id)
    { m with token := some false, running := true } P hP

theorem presents_broken (hseen : s.Records seen) (c : Call) (e : Fault) :
    Presents seen (broken s c e) := by
  intro m P hP
  exact presents_dispatched hseen (.fail c.messageId (failureText e)) m P hP

theorem presents_playedBack (hseen : s.Records seen) {α : Type} (r : Except Fault α) :
    Presents seen (playedBack s r) := by
  intro m P hP
  cases r with
  | error e => exact Sees.unseen rfl
  | ok _ =>
    exact presents_appended hseen (fun id now => .notice id now retryNotice)
      { m with failedStep := none } P hP

theorem presents_mended (hseen : s.Records seen) (previous : Message) {α : Type}
    (r : Except Fault α) : Presents seen (mended s previous r) := by
  intro m P hP
  cases r with
  | ok _ => exact Sees.unseen rfl
  | error e => cases e <;> exact presents_dispatched hseen _ m P hP

theorem presents_attachedTo (hseen : s.Records seen) (c : Conversation) :
    Presents seen (attachedTo s c) := by
  intro m P hP
  have hload := heeded_heeded s { m with store := { conversation := c } }
  have hshown : Sees seen P { m with store := { conversation := c } }
    (heeded s { m with store := { conversation := c } }) := Sees.heeded hseen hload hP
  exact hshown

theorem Follows.sees {f : Moderator σ → Moderator σ} (h : Follows f m m') (hf : Presents seen f)
    {P : List Message → Prop} (hP : P m'.messages) : Sees seen P m m' := by
  obtain ⟨j, k, rfl⟩ := h
  exact hf (m.withJournal j) P hP

/-- a run that is settled shows nothing pending -/
theorem sees_settled (hseen : s.Records seen) (o : Outcome) (m : Moderator σ) :
    Sees seen AllSettled m (m.settled s o) := by
  have hdropped := presents_dispatched hseen .dropPending m AllSettled (allSettled_dropped s m)
  have hcleared : Sees seen AllSettled m (m.cleared s o) := by
    unfold cleared
    split
    · refine hdropped.trans (presents_appended hseen _ _ AllSettled fun x hx => ?_)
      rw [messages_appended] at hx
      rcases List.mem_append.mp hx with hx | hx
      · exact allSettled_dropped s m x hx
      · rw [List.mem_singleton.mp hx]
        rfl
    · exact hdropped
  exact hcleared

/-! ## what becomes of a run -/

theorem Follows.isKept {o : Outcome} (h : Follows (settled s o) m m') (hm : m.MaySettle o) :
    m'.IsKept := by
  have htidy : m'.IsTidy := h.preserves (P := (MaySettle · o)) hm (fun _ j hn => hn.withJournal j)
    (fun _ hn => hn.settled s) fun _ j hn => hn.withJournal j
  obtain ⟨j, k, rfl⟩ := h
  exact .inl ⟨rfl, htidy⟩

theorem Follows.sees_settled {o : Outcome} (h : Follows (settled s o) m m')
    (hseen : s.Records seen) : Sees seen AllSettled m m' := by
  obtain ⟨j, k, rfl⟩ := h
  exact Debate.sees_settled hseen o (m.withJournal j)

theorem Follows.isTidy {f : Moderator σ → Moderator σ} (h : Follows f m m') (hm : m.IsTidy)
    (hf : ∀ n : Moderator σ, n.IsTidy → (f n).IsTidy) : m'.IsTidy :=
  h.preserves hm (fun _ j hn => hn.withJournal j) hf fun _ j hn => hn.withJournal j

theorem Continued.isKept (h : Continued s m m') (hseen : s.Records seen) (hm : m.IsTidy) :
    m'.IsKept ∧ Sees seen OnlyLastPending m m' := by
  cases h with
  | @waits m₁ c p d t hplaced htask hid hdocument hprompt =>
    obtain ⟨hholds, honly⟩ := hm.placed hplaced
    refine ⟨.inr ⟨c, rfl, ⟨⟨⟨hholds.known, hholds.waiters⟩, hholds.dated, hid ▸ hholds.pending⟩,
      fun _ _ => honly, fun previous hprevious => ?_⟩⟩, ?_⟩
    · rw [htask] at hprevious
      cases hprevious
    · exact hplaced.sees (presents_appended hseen _) honly
  | stopped hend =>
    exact ⟨hend.isKept hm.toKnows.maySettle_cancelled,
      (hend.sees_settled hseen).mono AllSettled.onlyLast⟩
  | stoppedLate hplaced hend =>
    obtain ⟨hholds, honly⟩ := hm.placed hplaced
    refine ⟨hend.isKept hholds.toKnows.maySettle_cancelled, ?_⟩
    exact (hplaced.sees (presents_appended hseen _) honly).trans
      ((hend.sees_settled hseen).mono AllSettled.onlyLast)
  | complete hend =>
    exact ⟨hend.isKept (hm.maySettle _), (hend.sees_settled hseen).mono AllSettled.onlyLast⟩
  | agreed hsaid hend =>
    have hm₁ := hsaid.isTidy hm fun _ hn => hn.appended s _ fun _ _ => ⟨rfl, rfl⟩
    refine ⟨hend.isKept (hm₁.maySettle _), ?_⟩
    exact (hsaid.sees (presents_appended hseen _) hm₁.clean.settled.onlyLast).trans
      ((hend.sees_settled hseen).mono AllSettled.onlyLast)
  | failed hend =>
    exact ⟨hend.isKept (hm.maySettle _), (hend.sees_settled hseen).mono AllSettled.onlyLast⟩

theorem Follows.isTidy_committed {c : Call} {r : Turn.Result}
    (h : Follows (committed s c (.ok r)) m m') (hm : m.Holds c.messageId) : m'.IsTidy := by
  obtain ⟨j, k, rfl⟩ := h
  exact ((hm.withJournal j).committed_ok s r).withJournal k

theorem Follows.holds_committed {c : Call} {e : Fault} {id : Value}
    (h : Follows (committed s c (.error e)) m m') (hm : m.Holds id) :
    m'.Holds id ∧ m'.messages = m.messages := by
  obtain ⟨j, k, rfl⟩ := h
  exact ⟨((hm.withJournal j).committed_error s c e).withJournal k, messages_committed s c _ _⟩

theorem Follows.holds_reopened {previous : Message} (h : Follows (reopened s previous) m m')
    (hm : m.IsTidy) : m'.Holds previous.id := by
  obtain ⟨j, k, rfl⟩ := h
  exact ((hm.withJournal j).reopened s previous).withJournal k

/-- a failed turn is taken once more: until it has an end its message is pending, and no other -/
theorem Reopened.isKept (h : Reopened s m m') (hseen : s.Records seen) (hrest : m.Rests)
    (hm : m.IsTidy) : m'.IsKept ∧ Sees seen AtMostOnePending m m' := by
  have opened {previous : Message} {m₁ : Moderator σ} {f : FailedStep}
      (hstep : m.failedStep = some f) (hid : f.messageId = previous.id)
      (hfound : m.store.conversation.find? f.messageId = some previous)
      (hopen : Follows (reopened s previous) m m₁) :
      (∃ t, previous.id = .text t) ∧ previous.pending = false ∧ m₁.Holds previous.id ∧
        Sees seen AtMostOnePending m m₁ := by
    obtain ⟨⟨t, ht⟩, -⟩ := hrest.texts.failedStep f hstep
    have htext : previous.id = .text t := hid.symm.trans ht
    have hholds := hopen.holds_reopened hm
    exact ⟨⟨t, htext⟩, hm.clean.settled previous (List.mem_of_find?_eq_some hfound), hholds,
      hopen.sees (presents_reopened hseen previous) (hholds.atMostOne ⟨t, htext⟩)⟩
  cases h with
  | refused j => exact ⟨.inl ⟨hrest.idle.running, hm.withJournal j⟩, .unseen rfl⟩
  | gone j _ _ =>
    exact ⟨.inl ⟨hrest.idle.running, ⟨hm.known, hm.waiters⟩, hm.clean⟩, .unseen rfl⟩
  | @waits m₁ f previous c hstep hid hfound hopen htask hmessage hprompt hdocument =>
    obtain ⟨-, hsettled, hholds, hsees⟩ := opened hstep hid hfound hopen
    refine ⟨.inr ⟨c, rfl, ⟨⟨⟨hholds.known, hholds.waiters⟩, hholds.dated,
      hmessage ▸ hholds.pending⟩, fun p hp => ?_, fun previous' hprevious => ?_⟩⟩, hsees⟩
    · rw [htask] at hp
      cases hp
    · rw [htask] at hprevious
      cases hprevious
      exact hsettled
  | @stopped m₁ m₂ _ f previous hstep hid hfound hopen hback hend =>
    obtain ⟨htext, hsettled, hholds, hsees⟩ := opened hstep hid hfound hopen
    obtain ⟨hm₂, hall⟩ : m₂.Knows ∧ AllSettled m₂.messages := by
      obtain ⟨j, k, rfl⟩ := hback
      obtain ⟨hknows, hall⟩ := (hholds.withJournal j).replaced s htext hsettled
      exact ⟨hknows.withJournal k, hall⟩
    have hshown : Sees seen AllSettled m₁ m' :=
      (hback.sees (presents_dispatched hseen _) hall).trans (hend.sees_settled hseen)
    exact ⟨hend.isKept hm₂.maySettle_cancelled, hsees.trans (hshown.mono AllSettled.atMostOne)⟩

theorem Replied.isKept_debate {c : Call} {p : Progress} (h : Replied s c m m')
    (hseen : s.Records seen) (hm : m.IsSteady c) (htask : c.task = .debate p) :
    m'.IsKept ∧ Sees seen OnlyLastPending m m' := by
  have gaveUp {e : Fault} {m₁ : Moderator σ} (hturn : Follows (committed s c (.error e)) m m₁) :
      m₁.Holds c.messageId ∧ Sees seen OnlyLastPending m m₁ := by
    obtain ⟨hholds, hmessages⟩ := hturn.holds_committed hm.toHolds
    refine ⟨hholds, hturn.sees (presents_committed hseen c _) ?_⟩
    rw [hmessages]
    exact hm.debate p htask
  cases h with
  | went _ _ hturn hrest =>
    have hm₁ := hturn.isTidy_committed hm.toHolds
    obtain ⟨hkept, hsees⟩ := hrest.isKept hseen hm₁
    exact ⟨hkept, (hturn.sees (presents_committed hseen c _) hm₁.clean.settled.onlyLast).trans hsees⟩
  | cancelled _ hturn hend =>
    obtain ⟨hm₁, hsees⟩ := gaveUp hturn
    exact ⟨hend.isKept hm₁.toKnows.maySettle_cancelled,
      hsees.trans ((hend.sees_settled hseen).mono AllSettled.onlyLast)⟩
  | @broke m₁ m₂ _ _ e _ hturn hbroken hend =>
    obtain ⟨hm₁, hsees⟩ := gaveUp hturn
    have hm₂ : m₂.IsTidy := by
      obtain ⟨j, k, rfl⟩ := hbroken
      exact ((hm₁.withJournal j).broken s e).withJournal k
    have hshown : Sees seen AllSettled m₁ m' :=
      (hbroken.sees (presents_broken hseen c e) hm₂.clean.settled).trans (hend.sees_settled hseen)
    exact ⟨hend.isKept (hm₂.maySettle _), hsees.trans (hshown.mono AllSettled.onlyLast)⟩
  | replayed hretry _ _ _ _ _ =>
    rw [htask] at hretry
    cases hretry

theorem Replied.isKept_retry {c : Call} {previous : Message} (h : Replied s c m m')
    (hseen : s.Records seen) (hwaits : m.Awaits c) (hm : m.IsSteady c)
    (htask : c.task = .retry previous) : m'.IsKept ∧ Sees seen AtMostOnePending m m' := by
  have hid := hwaits.task previous htask
  have htext : ∃ t, previous.id = .text t := hid ▸ hwaits.messageId
  cases h with
  | @replayed m₁ m₂ m₃ _ previous' r hretry hr hturn hplayed hmended hend =>
    obtain rfl : previous = previous' := Task.retry.inj (htask.symm.trans hretry)
    -- the reply, the notice and the mended message are shown before the run is settled
    suffices hm₃ : m₃.MaySettle (retryOutcome r) ∧ Sees seen AtMostOnePending m m₃ from
      ⟨hend.isKept hm₃.1, hm₃.2.trans ((hend.sees_settled hseen).mono AllSettled.atMostOne)⟩
    cases r with
    | ok t =>
      have hm₁ := hturn.isTidy_committed hm.toHolds
      have hm₂ : m₂.IsTidy := hplayed.isTidy hm₁ fun _ hn => hn.playedBack s t
      have hm₃ : m₃.IsTidy := hmended.isTidy hm₂ fun _ hn => hn
      have hshown : Sees seen AllSettled m m₂ :=
        (hturn.sees (presents_committed hseen c _) hm₁.clean.settled).trans
          (hplayed.sees (presents_playedBack hseen _) hm₂.clean.settled)
      have hshown' := hmended.sees (presents_mended hseen previous _) hm₃.clean.settled
      exact ⟨hm₃.maySettle _, (hshown.trans hshown').mono AllSettled.atMostOne⟩
    | error e =>
      obtain ⟨hm₁, hmessages⟩ := hturn.holds_committed (hid ▸ hm.toHolds)
      obtain ⟨hm₂, hkept⟩ : m₂.Holds previous.id ∧ m₂.messages = m₁.messages := by
        obtain ⟨j, k, rfl⟩ := hplayed
        exact ⟨(hm₁.withJournal j).withJournal k, rfl⟩
      obtain ⟨hm₃, hall⟩ : m₃.MaySettle (retryOutcome (.error e : Except Fault Turn.Result)) ∧
          AllSettled m₃.messages := by
        obtain ⟨j, k, rfl⟩ := hmended
        have hended := (hm₂.withJournal j).mended s htext (hm.retry previous htask) e
        exact ⟨hended.1.withJournal k, hended.2⟩
      have hone₁ : Sees seen AtMostOnePending m m₁ :=
        hturn.sees (presents_committed hseen c _) (hm₁.atMostOne htext)
      have hone₂ : Sees seen AtMostOnePending m₁ m₂ :=
        hplayed.sees (presents_playedBack hseen _) (hm₂.atMostOne htext)
      have hshown := hmended.sees (presents_mended hseen previous _) hall
      exact ⟨hm₃, hone₁.trans (hone₂.trans (hshown.mono AllSettled.atMostOne))⟩
  | went hdebate _ _ _ =>
    rw [htask] at hdebate
    cases hdebate
  | cancelled hdebate _ _ =>
    rw [htask] at hdebate
    cases hdebate
  | broke hdebate _ _ _ =>
    rw [htask] at hdebate
    cases hdebate

end

/-! ## after every event -/

/-- an event that the program can bring about, and that brings clean conversations only -/
structure Event.IsFit (m : Moderator σ) (e : Event) : Prop where
  typed : e.IsTyped
  clean : ∀ c, e = .told (.switch c) → c.IsClean ∧ c.IsKnown m.supply

theorem Event.IsFit.brings {m : Moderator σ} {e : Event} {c : Conversation} (he : e.IsFit m)
    (hm : m.Knows) (hc : e.Brings m c) : c.IsClean ∧ c.IsKnown m.supply := by
  cases hc with
  | switch c => exact he.clean c rfl
  | startNew text =>
    exact ⟨⟨nofun, nofun⟩, ⟨nofun, List.nodup_nil⟩, hm.known.fresh.of_sublist (List.nil_sublist _)⟩

namespace Moderator

/-- events that are fit, one after the other -/
def AllFit (s : Surroundings σ) : Moderator σ → List Event → Prop
  | _, [] => True
  | m, e :: es => e.IsFit m ∧ AllFit s (m.step s e) es

/-- an event that starts a debate, or that comes while a debate waits for a reply -/
def Debates (m : Moderator σ) (e : Event) : Prop :=
  (∃ text image, e = .told (.submit text image)) ∨ ∃ c p, m.call = some c ∧ c.task = .debate p

variable {seen : σ → List Conversation} {s : Surroundings σ} {m : Moderator σ}

/-- a moderator that is kept in order, by what it does -/
theorem IsKept.cases (hk : m.IsKept) (hm : m.IsRegular) :
    m.Rests ∧ m.IsTidy ∨ ∃ c, m.Awaits c ∧ m.IsSteady c := by
  rcases hm with hm | ⟨c, hm⟩
  · rcases hk with ⟨-, hk⟩ | ⟨c, hcall, -⟩
    · exact .inl ⟨hm, hk⟩
    · rw [hm.idle.call] at hcall
      cases hcall
  · rcases hk with ⟨hrun, -⟩ | ⟨c', hcall, hk⟩
    · rw [hm.running] at hrun
      cases hrun
    · rw [hm.call] at hcall
      cases hcall
      exact .inr ⟨c, hm, hk⟩

theorem IsKept.isTidy (hk : m.IsKept) (hm : m.IsRegular) (hrun : m.running = false) : m.IsTidy := by
  rcases hk.cases hm with ⟨-, hk⟩ | ⟨c, hwaits, -⟩
  · exact hk
  · rw [hwaits.running] at hrun
    cases hrun

theorem IsKept.isSteady {c : Call} (hk : m.IsKept) (hm : m.IsRegular) (hcall : m.call = some c) :
    m.IsSteady c := by
  rcases hk.cases hm with ⟨hrest, -⟩ | ⟨c', hwaits, hk⟩
  · rw [hrest.idle.call] at hcall
    cases hcall
  · rw [hwaits.call] at hcall
    cases hcall
    exact hk

theorem IsKept.knows (hk : m.IsKept) : m.Knows := by
  rcases hk with ⟨-, hk⟩ | ⟨c, -, hk⟩
  · exact hk.toKnows
  · exact hk.toKnows

theorem IsKept.beside {m' : Moderator σ} (hk : m.IsKept) (hb : Beside m m')
    (hwaiting : ∀ w ∈ m'.waiting, w ∈ m.waiting ∨
      w.conversation.IsClean ∧ w.conversation.IsKnown m.supply) : m'.IsKept := by
  rcases hk with ⟨hrun, hk⟩ | ⟨c, hcall, hk⟩
  · exact .inl ⟨hb.running.trans hrun, hk.beside hb hwaiting⟩
  · exact .inr ⟨c, hb.call.trans hcall, hk.beside hb hwaiting⟩

/-- a conversation that is attached, also while a run waits for a reply -/
theorem IsKept.attached {n m' : Moderator σ} {e : Event} (hk : m.IsKept) (hrun : m'.running = m.running)
    (hcall : m'.call = m.call) (htidy : m'.IsTidy) (hsees : Sees seen AllSettled n m') :
    m'.IsKept ∧ Sees seen AtMostOnePending n m' ∧ (m.Debates e → Sees seen OnlyLastPending n m') := by
  refine ⟨?_, hsees.mono AllSettled.atMostOne, fun _ => hsees.mono AllSettled.onlyLast⟩
  rcases hk with ⟨hrest, -⟩ | ⟨c, hc, hk⟩
  · exact .inl ⟨hrun.trans hrest, htidy⟩
  · exact .inr ⟨c, hcall.trans hc, hk.of_tidy htidy⟩

/-- what one event keeps, and what is seen meanwhile -/
theorem IsKept.step (hk : m.IsKept) (hs : s.IsCalm) (hseen : s.Records seen) (hm : m.IsRegular)
    {e : Event} (he : e.IsFit m) :
    (m.step s e).IsKept ∧ Sees seen AtMostOnePending m (m.step s e) ∧
      (m.Debates e → Sees seen OnlyLastPending m (m.step s e)) := by
  have hhappened := hm.happened hs he.typed
  generalize m.step s e = m' at hhappened
  cases hhappened with
  | beside h hedit hwaiting =>
    have haudience : m'.audience = m.audience := (congrArg Moderator.audience h.same :)
    exact ⟨hk.beside h fun w hw => .inl (hwaiting ▸ hw), .unseen haudience,
      fun _ => .unseen haudience⟩
  | @queued _ _ c hc _ h hedit hwaiting =>
    have haudience : m'.audience = m.audience := (congrArg Moderator.audience h.same :)
    refine ⟨hk.beside h fun w hw => ?_, .unseen haudience, fun _ => .unseen haudience⟩
    rw [hwaiting] at hw
    rcases List.mem_append.mp hw with hw | hw
    · exact .inl hw
    · rw [List.mem_singleton.mp hw]
      exact .inr (he.brings hk.knows hc)
  | @edited text hflight =>
    have hshown := presents_dispatched hseen (.setDocument (.text text)) m
    rcases hk.cases hm with ⟨hrest, htidy⟩ | ⟨c, hwaits, hsteady⟩
    · have htidy' := htidy.edited s (.text text)
      refine ⟨.inl ⟨?_, htidy'⟩, hshown _ htidy'.clean.settled.atMostOne,
        fun _ => hshown _ htidy'.clean.settled.onlyLast⟩
      exact (running_dispatched s _ m).trans hrest.idle.running
    · -- an edit shows the message of the call again
      have hsteady' := hsteady.edited s (.text text)
      refine ⟨.inr ⟨c, (call_dispatched s _ m).trans hwaits.call, hsteady'⟩,
        hshown _ (hsteady'.atMostOne hwaits.messageId), ?_⟩
      rintro (⟨_, _, ⟨⟩⟩ | ⟨c', p, hcall, htask⟩)
      rw [hwaits.call] at hcall
      cases hcall
      exact hshown _ (hsteady'.debate p htask)
  -- what is attached is clean, also when a run waits: its message is not in the log any more
  | @attachedNow _ c hc hrun supply hid hdrawn =>
    obtain ⟨hclean, hknown⟩ := he.brings hk.knows hc
    have hload := heeded_heeded s { m with supply, store := { conversation := c } }
    have hrest : { m with supply }.Knows :=
      hk.knows.beside ⟨rfl, rfl, hid, hdrawn, .inl rfl⟩ fun w hw => .inl hw
    have htidy := hrest.attachedTo s hclean (hknown.later hid hdrawn)
    exact hk.attached (congrArg Moderator.running hload.same :)
      (congrArg Moderator.call hload.same :) htidy
      (presents_attachedTo hseen c { m with supply } AllSettled htidy.clean.settled)
  | @attachedLate w rest hwaiting _ =>
    have hload := heeded_heeded s { m with waiting := rest, store := { conversation := w.conversation } }
    have hrest : { m with waiting := rest }.Knows :=
      ⟨hk.knows.known, fun x hx => hk.knows.waiters x (hwaiting ▸ List.mem_cons_of_mem w hx)⟩
    obtain ⟨hclean, hknown⟩ := hk.knows.waiters w (hwaiting ▸ List.mem_cons_self)
    have htidy := hrest.attachedTo s hclean hknown
    exact hk.attached (congrArg Moderator.running hload.same :)
      (congrArg Moderator.call hload.same :) htidy
      (presents_attachedTo hseen w.conversation { m with waiting := rest } AllSettled
        htidy.clean.settled)
  | begun hrun hrequest hrest =>
    have hm₁ := hrequest.isTidy (hk.isTidy hm hrun) fun _ hn => hn.requested s _ _
    obtain ⟨hkept, hsees⟩ := hrest.isKept hseen hm₁
    have hshown := (hrequest.sees (presents_requested hseen _ _)
      hm₁.clean.settled.onlyLast).trans hsees
    exact ⟨hkept, hshown.mono OnlyLastPending.atMostOne, fun _ => hshown⟩
  | reopened hrun h =>
    have hrest := hm.rests hrun
    obtain ⟨hkept, hsees⟩ := h.isKept hseen hrest (hk.isTidy hm hrun)
    refine ⟨hkept, hsees, ?_⟩
    rintro (⟨_, _, ⟨⟩⟩ | ⟨c, p, hcall, -⟩)
    rw [hrest.idle.call] at hcall
    cases hcall
  | @replied reply c m' hcall h =>
    have hsteady := hk.isSteady hm hcall
    cases htask : c.task with
    | debate p =>
      obtain ⟨hkept, hsees⟩ := h.isKept_debate hseen hsteady htask
      exact ⟨hkept, hsees.mono OnlyLastPending.atMostOne, fun _ => hsees⟩
    | retry previous =>
      obtain ⟨hkept, hsees⟩ := h.isKept_retry hseen (hm.awaits hcall) hsteady htask
      refine ⟨hkept, hsees, ?_⟩
      rintro (⟨_, _, ⟨⟩⟩ | ⟨c, p, hcall', hdebate⟩)
      rw [hcall] at hcall'
      cases hcall'
      rw [htask] at hdebate
      cases hdebate

/-- whatever happens, the moderator is kept in order -/
theorem IsKept.after (hk : m.IsKept) (hs : s.IsCalm) (hseen : s.Records seen) (hm : m.IsRegular)
    {es : List Event} (hes : m.AllFit s es) : (m.after s es).IsRegular ∧ (m.after s es).IsKept := by
  induction es generalizing m with
  | nil => exact ⟨hm, hk⟩
  | cons e es ih =>
    obtain ⟨he, hrest⟩ := hes
    exact ih (hk.step hs hseen hm he).1 (hm.step hs he.typed) hrest

/-- from an idle moderator with a clean conversation on, in every order of events: whenever it is
idle again nothing is left of a run and the conversation is clean; no more than one message is pending
when listeners are shown the conversation, and in a debate it is the last one -/
theorem settled_state (hs : s.IsCalm) (hseen : s.Records seen) (hrest : m.Rests) (htidy : m.IsTidy)
    {es : List Event} (hes : m.AllFit s es) :
    ((m.after s es).running = false →
        (m.after s es).IsIdle ∧ (m.after s es).store.conversation.IsClean) ∧
      ∀ e : Event, e.IsFit (m.after s es) →
        Sees seen AtMostOnePending (m.after s es) ((m.after s es).step s e) ∧
          ((m.after s es).Debates e →
            Sees seen OnlyLastPending (m.after s es) ((m.after s es).step s e)) := by
  have hkept : m.IsKept := .inl ⟨hrest.idle.running, htidy⟩
  obtain ⟨hregular, hkept⟩ := hkept.after hs hseen (.inl hrest) hes
  exact ⟨fun hrun => ⟨(hregular.rests hrun).idle, (hkept.isTidy hregular hrun).clean⟩,
    fun e he => (hkept.step hs hseen hregular he).2⟩

/-- an empty conversation, and listeners who keep a record -/
def watched : Moderator (Unit × List Conversation) where
  settings := opened.settings
  store := opened.store
  audience := ((), [])
  supply := opened.supply

/-- a debate fails, and its turn is taken once more -/
def failing : List Event := [
  .told (.submit (.text "Go") .null), .told (.edit (.text "kept")),
  .replied (.error (.provider "down")), .told .retry]

/-- a reply that goes well -/
def mending : Event := .replied (.ok (.text "late"))

theorem rests_watched : watched.Rests where
  texts := ⟨⟨"", rfl⟩, nofun, nofun⟩
  idle := ⟨rfl, rfl, rfl, rfl, rfl⟩

theorem isTidy_watched : watched.IsTidy where
  known := ⟨⟨nofun, List.nodup_nil⟩, isReady_opened.fresh⟩
  waiters := nofun
  clean := ⟨nofun, nofun⟩

theorem isFit_mending {m : Moderator σ} : mending.IsFit m := ⟨.replied _, nofun⟩

theorem allFit_failing : watched.AllFit Surroundings.silent.recorded failing :=
  ⟨⟨.submit _ _, nofun⟩, ⟨.edit _, nofun⟩, ⟨.replied _, nofun⟩, ⟨.retry, nofun⟩, trivial⟩

theorem allFit_mended : watched.AllFit Surroundings.silent.recorded (failing ++ [mending]) :=
  ⟨⟨.submit _ _, nofun⟩, ⟨.edit _, nofun⟩, ⟨.replied _, nofun⟩, ⟨.retry, nofun⟩, isFit_mending,
    trivial⟩

/-- a turn that is taken once more shows no pending message but its own, and leaves everything in order -/
theorem settled_state_failing :
    Surroundings.silent.recorded.IsCalm ∧ Surroundings.silent.recorded.Records (·.2) ∧
      watched.Rests ∧ watched.IsTidy ∧
      watched.AllFit Surroundings.silent.recorded (failing ++ [mending]) ∧
      Sees (·.2) AtMostOnePending (watched.after Surroundings.silent.recorded failing)
        ((watched.after Surroundings.silent.recorded failing).step Surroundings.silent.recorded
          mending) ∧
      (watched.after Surroundings.silent.recorded (failing ++ [mending])).IsIdle ∧
      (watched.after Surroundings.silent.recorded
        (failing ++ [mending])).store.conversation.IsClean := by
  have hs := Surroundings.isCalm_silent.recorded
  have hseen := Surroundings.records_recorded Surroundings.silent
  have hstate := settled_state hs hseen rests_watched isTidy_watched allFit_failing
  have hmended := settled_state hs hseen rests_watched isTidy_watched allFit_mended
  exact ⟨hs, hseen, rests_watched, isTidy_watched, allFit_mended,
    (hstate.2 mending isFit_mending).1, hmended.1 (by decide +kernel)⟩

end Moderator

end Debate
