import Debate.Proofs.Lineage
import Debate.Proofs.Shape

/-!
# Conversations that are attached

Another conversation is attached at once if no run is under way. Otherwise the run is cancelled and
the conversation waits until it is woken by the end of the run; but it is attached only when its
turn comes, and what else happens before may be the start of another run. Then the conversation is
attached while that run waits for a reply, and gets what the run makes of it.

* `Moderator.attaches?`    the conversation that an event attaches;
* `Moderator.after`        the moderator after events, one after the other;
* `Stepped`                what an event does, as far as runs and attaching are concerned;
* `Moderator.IsOrderly`    when no run is under way no reply is waited for, and all are awake;
* `Moderator.Apart`        runs and the conversations that they were not started on are kept apart;
* `Moderator.Overtaken`    a run is started while a conversation waits, and is still under way when
                           the turn of the conversation has come.

The last thing is the only one that breaks the one before.
-/

namespace Debate

variable {σ : Type}

/-- an event that does not put another conversation in place of the one at hand behind the back of
the moderator -/
def Event.isOrdinary : Event → Bool
  | .told (.load _) => false
  | _ => true

namespace Moderator

/-- the conversation that an event attaches, if it attaches one -/
def attaches? (m : Moderator σ) : Event → Option Conversation
  | .attached => (m.waiting.head?.filter (·.woken)).map (·.conversation)
  | .told (.switch c) => if m.running then none else some c
  | .told (.startNew document) =>
    if m.running then none else (m.carry (newConversation document)).1.toOption
  | _ => none

end Moderator

/-! ## what an event does -/

/-- a conversation is as it was given, but for an edit that a listener asks for -/
structure Shown (s : Surroundings σ) (given c : Conversation) : Prop where
  same : c = { given with document := c.document }
  document : c.document = given.document ∨ s.Asks (.edit c.document)

/-- what an event does, as far as runs and attaching are concerned -/
inductive Stepped (s : Surroundings σ) (m : Moderator σ) (e : Event) (m' : Moderator σ) : Prop
  /-- a run may be started, go on, or be settled -/
  | worked (hnone : m.attaches? e = none) (h : Worked m m')
  /-- a conversation has to wait for the end of the run -/
  | queued (c : Conversation) (hnone : m.attaches? e = none) (hrun : m.running = true)
      (h : Still { m with waiting := m.waiting ++ [{ conversation := c }] } m')
  /-- a conversation is attached at once -/
  | attachedNow (c : Conversation) (hsome : m.attaches? e = some c)
      (hshown : Shown s c m'.store.conversation) (hrun : m.running = false)
      (h : Still { m with store := { conversation := c } } m')
  /-- the turn of a conversation that waits has come -/
  | attachedLate (w : Waiter) (rest : List Waiter) (hsome : m.attaches? e = some w.conversation)
      (hshown : Shown s w.conversation m'.store.conversation) (he : e = .attached)
      (hwoken : w.woken = true) (hwaiting : m.waiting = w :: rest)
      (h : Still { m with store := { conversation := w.conversation }, waiting := rest } m')

namespace Moderator

variable {m : Moderator σ}

/-- attaching a conversation changes nothing of a run -/
theorem still_attachNow (s : Surroundings σ) (c : Conversation) (m : Moderator σ) :
    Still { m with store := { conversation := c } } (m.carry (attachNow s c)).2 := by
  have hload : Keeps Still (do
      announce s s.depth
      modify fun m => { m with failedStep := none }) :=
    Still.bind (still_announce s) fun _ => Keeps.modify fun _ => ⟨⟨.refl _, rfl, rfl⟩, rfl⟩
  exact hload { m with store := { conversation := c } }

/-- the listeners are shown a conversation that is attached -/
theorem shown_attachNow (s : Surroundings σ) (c : Conversation) (m : Moderator σ) :
    Shown s c (m.carry (attachNow s c)).2.store.conversation := by
  have hload := heeded_heeded s { m with store := { conversation := c } }
  have hshown : Shown s c (heeded s { m with store := { conversation := c } }).store.conversation :=
    ⟨(congrArg Store.conversation hload.store :), hload.document.imp_right And.right⟩
  have hattach : (m.carry (attachNow s c)).2.store =
      (heeded s { m with store := { conversation := c } }).store := by
    change (Moderator.carry { m with store := { conversation := c } } (do
      announce s s.depth
      modify fun m => { m with failedStep := none })).2.store = _
    rw [heeded, carry_bind]
    rcases Moderator.carry { m with store := { conversation := c } } (announce s s.depth) with
      ⟨_ | _, _⟩ <;> rfl
  rw [hattach]
  exact hshown

theorem carry_switch (s : Surroundings σ) (m : Moderator σ) (c : Conversation) :
    m.running = true ∧
        Still { m with waiting := m.waiting ++ [{ conversation := c }] } (m.carry (switch s c)).2 ∨
      m.running = false ∧ Shown s c (m.carry (switch s c)).2.store.conversation ∧
        Still { m with store := { conversation := c } } (m.carry (switch s c)).2 := by
  have hcancel : ∃ b t j, m.carry cancel = (.ok b, { m with token := t, journal := j }) := by
    rw [carry_cancel]
    split
    · exact ⟨true, some true, _, rfl⟩
    · exact ⟨false, m.token, m.journal, rfl⟩
  obtain ⟨b, t, j, hb⟩ := hcancel
  rw [switch, carry_bind_ok hb, carry_bind_ok (carry_get _)]
  by_cases hrun : m.running = true
  · refine .inl ⟨hrun, ?_⟩
    rw [if_pos hrun]
    exact ⟨⟨.refl _, rfl, rfl⟩, rfl⟩
  · refine .inr ⟨Bool.eq_false_iff.mpr hrun, ?_⟩
    have htoken : Still { m with store := { conversation := c } }
        { m with token := t, journal := j, store := { conversation := c } } :=
      ⟨⟨.refl _, rfl, rfl⟩, rfl⟩
    rw [if_neg hrun]
    exact ⟨shown_attachNow s c _,
      htoken.trans (still_attachNow s c { m with token := t, journal := j })⟩

theorem still_restore (step : Option FailedStep) : Keeps Still (restore (σ := σ) step) := by
  have hset (f : Option FailedStep) :
      Keeps Still (σ := σ) (modify fun m => { m with failedStep := f }) :=
    Keeps.modify fun _ => ⟨⟨.refl _, rfl, rfl⟩, rfl⟩
  cases step with
  | none => exact hset none
  | some x =>
    refine Still.bind (Keeps.get Still.refl) fun m => ?_
    exact Keeps.ite (hset (some x)) (Still.bind (still_log _ _) fun _ => hset none)

/-- one event, whatever the moderator is told; `hcall` rules out a reply to a run that is over -/
theorem stepped (s : Surroundings σ) (hcall : m.running = false → m.call = none) {e : Event}
    (he : e.isOrdinary = true) : Stepped s m e (m.step s e) := by
  have still {m' : Moderator σ} (hnone : m.attaches? e = none) (h : Still m m') :
      Stepped s m e m' := .worked hnone (Worked.of_still h hcall)
  cases e with
  | replied reply => exact .worked rfl (worked_resume s hcall reply)
  | passed now clock => exact still rfl ⟨⟨.refl _, rfl, rfl⟩, rfl⟩
  | attached =>
    rw [step, attach, carry_bind_ok (carry_get m)]
    cases hw : m.waiting with
    | nil => exact still (by rw [attaches?, hw]; rfl) (Still.refl m)
    | cons w rest =>
      dsimp only
      cases hwoken : w.woken with
      | false =>
        refine still ?_ (Still.refl m)
        rw [attaches?, hw, List.head?_cons, Option.filter_some, hwoken]
        rfl
      | true =>
        have hsome : m.attaches? .attached = some w.conversation := by
          rw [attaches?, hw, List.head?_cons, Option.filter_some, hwoken]
          rfl
        rw [if_pos rfl, carry_bind_ok (carry_modify m _), snd_carry_map _ _ _ fun _ _ => rfl]
        exact .attachedLate w rest hsome (shown_attachNow s w.conversation _) rfl hwoken hw
          (still_attachNow s w.conversation { m with waiting := rest })
  | told c =>
    rw [step]
    cases c with
    | load _ => cases he
    | submit text image =>
      rw [obey, snd_carry_map _ _ _ fun a _ => by cases a <;> rfl]
      exact .worked rfl (worked_submit s hcall text image)
    | retry =>
      rw [obey, snd_carry_map _ _ _ fun a _ => by cases a <;> rfl]
      exact .worked rfl (worked_retry s hcall)
    | cancel =>
      rw [obey, snd_carry_map _ _ _ fun _ _ => rfl]
      exact still rfl (still_cancel m)
    | edit content =>
      rw [obey, snd_carry_map _ _ _ fun _ _ => rfl]
      exact still rfl (still_editWith s content m)
    | switch c =>
      rw [obey, snd_carry_map _ _ _ fun _ _ => rfl]
      rcases carry_switch s m c with ⟨hrun, h⟩ | ⟨hrun, hshown, h⟩
      · exact .queued c (by rw [attaches?, hrun, if_pos rfl]) hrun h
      · exact .attachedNow c (by rw [attaches?, hrun, if_neg Bool.false_ne_true]) hshown hrun h
    | startNew document =>
      obtain ⟨c, hc⟩ : ∃ c, m.carry (newConversation document) =
        (.ok c, { m with supply := m.supply.draw.2 }) := ⟨_, rfl⟩
      rw [obey, carry_bind_ok hc, snd_carry_map _ _ _ fun _ _ => rfl]
      rcases carry_switch s { m with supply := m.supply.draw.2 } c with
        ⟨hrun, h⟩ | ⟨hrun, hshown, h⟩
      · have hdrawn : Still { m with waiting := m.waiting ++ [{ conversation := c }] }
            { m with supply := m.supply.draw.2, waiting := m.waiting ++ [{ conversation := c }] } :=
          ⟨⟨.refl _, rfl, rfl⟩, rfl⟩
        exact .queued c (if_pos hrun) hrun (hdrawn.trans h)
      · have hdrawn : Still { m with store := { conversation := c } }
            { m with supply := m.supply.draw.2, store := { conversation := c } } :=
          ⟨⟨.refl _, rfl, rfl⟩, rfl⟩
        refine .attachedNow c ?_ hshown hrun (hdrawn.trans h)
        rw [attaches?, hc, show m.running = false from hrun, if_neg Bool.false_ne_true]
        rfl
    | restore step =>
      rw [obey, snd_carry_map _ _ _ fun _ _ => rfl]
      exact still rfl (still_restore step m)
    | configure mode maxTurns => exact still rfl ⟨⟨.refl _, rfl, rfl⟩, rfl⟩
    | look => exact still rfl (Still.refl m)

/-! ## what holds after every event -/

/-- when no run is under way, no reply is waited for, and all who wait are awake -/
structure IsOrderly (m : Moderator σ) : Prop where
  call : m.running = false → m.call = none
  awake : m.running = false → ∀ w ∈ m.waiting, w.woken = true

theorem IsOrderly.of_still {m m' n : Moderator σ} (hm : m.IsOrderly) (h : Still n m')
    (hrun : n.running = m.running) (hcall : n.call = m.call)
    (hwaiting : m.running = false → ∀ w ∈ n.waiting, w ∈ m.waiting) : m'.IsOrderly where
  call hidle := by
    rw [h.call, hcall]
    exact hm.call (by rw [← hrun, ← h.running, hidle])
  awake hidle w hw := by
    have hm' : m.running = false := by rw [← hrun, ← h.running, hidle]
    exact hm.awake hm' w (hwaiting hm' w (h.waiting ▸ hw))

/-- however a run was settled, whoever waited for that is woken -/
theorem IsOrderly.step (s : Surroundings σ) (hm : m.IsOrderly) {e : Event}
    (he : e.isOrdinary = true) : (m.step s e).IsOrderly := by
  cases stepped s hm.call he with
  | worked _ h =>
    refine ⟨h.call, fun hidle w hw => ?_⟩
    rcases h.waiting with ⟨hrun, hsame⟩ | ⟨-, hwoken⟩
    · exact hm.awake (hrun hidle) w (hsame ▸ hw)
    · exact woken_of_mem_woken (hwoken ▸ hw)
  | queued c _ hrun h =>
    refine hm.of_still h rfl rfl fun hidle => ?_
    rw [hrun] at hidle
    cases hidle
  | attachedNow c _ _ _ h => exact hm.of_still h rfl rfl fun _ _ hw => hw
  | attachedLate w rest _ _ _ _ hwaiting h =>
    refine hm.of_still h rfl rfl fun _ x hx => ?_
    rw [hwaiting]
    exact List.mem_cons_of_mem w hx

/-- an event that attaches nothing only changes the conversation at hand -/
theorem becomes_step (s : Surroundings σ) (hm : m.IsOrderly) {e : Event}
    (he : e.isOrdinary = true) (hnone : m.attaches? e = none) :
    m.store.conversation.Becomes (m.step s e).store.conversation := by
  cases stepped s hm.call he with
  | worked _ h => exact h.becomes
  | queued _ _ _ h => exact h.becomes
  | attachedNow _ hsome _ _ _ => rw [hsome] at hnone; cases hnone
  | attachedLate _ _ hsome _ _ _ _ _ => rw [hsome] at hnone; cases hnone

/-- an event that attaches a conversation attaches it as it was given -/
theorem shown_step (s : Surroundings σ) (hm : m.IsOrderly) {e : Event}
    (he : e.isOrdinary = true) {c : Conversation} (hc : m.attaches? e = some c) :
    Shown s c (m.step s e).store.conversation := by
  cases stepped s hm.call he with
  | worked hnone _ => rw [hnone] at hc; cases hc
  | queued _ hnone _ _ => rw [hnone] at hc; cases hc
  | attachedNow c' hsome hshown _ _ =>
    rw [hsome] at hc
    cases hc
    exact hshown
  | attachedLate w _ hsome hshown _ _ _ _ =>
    rw [hsome] at hc
    cases hc
    exact hshown

/-- the moderator after events, one after the other -/
def after (s : Surroundings σ) (m : Moderator σ) (events : List Event) : Moderator σ :=
  events.foldl (step s) m

theorem after_append (s : Surroundings σ) (m : Moderator σ) (es es' : List Event) :
    m.after s (es ++ es') = (m.after s es).after s es' := List.foldl_append

theorem after_concat (s : Surroundings σ) (m : Moderator σ) (es : List Event) (e : Event) :
    m.after s (es ++ [e]) = (m.after s es).step s e := after_append s m es [e]

theorem IsOrderly.after (s : Surroundings σ) (hm : m.IsOrderly) {es : List Event}
    (hes : ∀ e ∈ es, e.isOrdinary = true) : (m.after s es).IsOrderly := by
  induction es generalizing m with
  | nil => exact hm
  | cons e es ih =>
    exact ih (hm.step s (hes e List.mem_cons_self)) fun x hx => hes x (List.mem_cons_of_mem e hx)

/-- a run that is still under way has seen all events -/
theorem during_eq_after (s : Surroundings σ) {es : List Event}
    (h : (m.during s es).running = true) : m.during s es = m.after s es := by
  induction es generalizing m with
  | nil => rfl
  | cons e es ih =>
    cases hrun : m.running with
    | false =>
      rw [during_of_idle s hrun, hrun] at h
      cases h
    | true =>
      rw [during_cons s hrun] at h ⊢
      exact ih h

/-! ## the start of a run -/

/-- an event that starts a run -/
def Starts (s : Surroundings σ) (m : Moderator σ) (e : Event) : Prop :=
  m.running = false ∧ (m.step s e).running = true

/-- a run that is under way after events was under way before them, or one of them started it -/
theorem exists_starts (s : Surroundings σ) {es : List Event} (h : (m.after s es).running = true) :
    m.running = true ∧ m.during s es = m.after s es ∨
      ∃ before e rest, es = before ++ e :: rest ∧ (m.after s before).Starts s e ∧
        ((m.after s before).step s e).during s rest = m.after s es := by
  induction es generalizing m with
  | nil => exact .inl ⟨h, rfl⟩
  | cons e es ih =>
    rcases ih (m := m.step s e) h with ⟨hstep, hlast⟩ | ⟨before, x, rest, rfl, hstarts, hlast⟩
    · cases hrun : m.running with
      | true => exact .inl ⟨rfl, (during_cons s hrun e es).trans hlast⟩
      | false => exact .inr ⟨[], e, es, rfl, ⟨hrun, hstep⟩, hlast⟩
    · exact .inr ⟨e :: before, x, rest, rfl, hstarts, hlast⟩

/-- a run is started by an event that attaches nothing, and nobody begins to wait for its end -/
theorem Starts.attaches?_eq_none {s : Surroundings σ} {e : Event} (h : m.Starts s e)
    (hm : m.IsOrderly) (he : e.isOrdinary = true) :
    m.attaches? e = none ∧ (m.step s e).waiting = m.waiting := by
  obtain ⟨hidle, hrun⟩ := h
  have hnew : (m.step s e).running ≠ m.running := by
    rw [hidle, hrun]
    exact Bool.false_ne_true.symm
  cases stepped s hm.call he with
  | worked hnone hw =>
    refine ⟨hnone, ?_⟩
    rcases hw.waiting with ⟨-, hwaiting⟩ | ⟨hr, -⟩
    · exact hwaiting
    · rw [hr] at hrun
      cases hrun
  | queued _ _ _ hn => exact absurd hn.running hnew
  | attachedNow _ _ _ _ hn => exact absurd hn.running hnew
  | attachedLate _ _ _ _ _ _ _ hn => exact absurd hn.running hnew

/-! ## those who wait while a run is under way -/

/-- as long as a run is under way and the turn of nobody who is awake comes, those who wait go on
waiting, and those who come later wait behind them -/
theorem waiting_during (s : Surroundings σ) (hm : m.IsOrderly) (hrun : m.running = true)
    {es : List Event} (hes : ∀ e ∈ es, e.isOrdinary = true)
    (h : (m.during s es).running = true)
    (hstay : Event.attached ∉ es ∨ ∀ w ∈ m.waiting, w.woken = false) :
    ∃ later, (m.during s es).waiting = m.waiting ++ later ∧ ∀ w ∈ later, w.woken = false := by
  induction es generalizing m with
  | nil => exact ⟨[], (List.append_nil _).symm, nofun⟩
  | cons e es ih =>
    have he := hes e List.mem_cons_self
    have hnext : (m.step s e).running = true := by
      cases hstep : (m.step s e).running with
      | true => rfl
      | false => rw [during_cons s hrun, during_of_idle s hstep, hstep] at h; cases h
    have hone : ∃ later, (m.step s e).waiting = m.waiting ++ later ∧
        ∀ w ∈ later, w.woken = false := by
      cases stepped s hm.call he with
      | worked _ hw =>
        rcases hw.waiting with ⟨-, hwaiting⟩ | ⟨hr, -⟩
        · exact ⟨[], hwaiting.trans (List.append_nil _).symm, nofun⟩
        · rw [hr] at hnext
          cases hnext
      | queued c _ _ hn =>
        refine ⟨[{ conversation := c }], hn.waiting, fun w hw => ?_⟩
        rw [List.mem_singleton.mp hw]
      | attachedNow _ _ _ hidle _ =>
        rw [hidle] at hrun
        cases hrun
      | attachedLate w rest _ _ hattached hwoken hwaiting _ =>
        rcases hstay with hstay | hstay
        · exact absurd (hattached ▸ List.mem_cons_self) hstay
        · rw [hstay w (hwaiting ▸ List.mem_cons_self)] at hwoken
          cases hwoken
    obtain ⟨first, hfirst, hasleep⟩ := hone
    rw [during_cons s hrun] at h ⊢
    obtain ⟨later, hlater, hasleep'⟩ := ih (hm.step s he) hnext
      (fun x hx => hes x (List.mem_cons_of_mem e hx)) h <| by
        refine hstay.imp (fun hx hmem => hx (List.mem_cons_of_mem e hmem)) fun hx w hw => ?_
        rcases List.mem_append.mp (hfirst ▸ hw) with hw | hw
        · exact hx w hw
        · exact hasleep w hw
    refine ⟨first ++ later, by rw [hlater, hfirst, List.append_assoc], fun w hw => ?_⟩
    rcases List.mem_append.mp hw with hw | hw
    · exact hasleep w hw
    · exact hasleep' w hw

/-! ## runs and conversations kept apart -/

/-- no run touches another conversation than the one it was started on, over all of some events -/
structure Apart (s : Surroundings σ) (m : Moderator σ) (events : List Event) : Prop where
  /-- an event that attaches nothing changes the conversation at hand, or leaves it as it is -/
  kept : ∀ before e, before ++ [e] <+: events → (m.after s before).attaches? e = none →
    (m.after s before).store.conversation.Becomes (m.after s (before ++ [e])).store.conversation
  /-- from the start of a run to its end, all that it does is done to the conversation that was at
  hand when it was started -/
  home : ∀ before e rest, before ++ e :: rest <+: events → (m.after s before).Starts s e →
    (m.after s before).store.conversation.Becomes
      (((m.after s before).step s e).during s rest).store.conversation
  /-- a conversation is attached only when no run is under way -/
  idle : ∀ before e c, before ++ [e] <+: events → (m.after s before).attaches? e = some c →
    (m.after s before).running = false
  /-- a conversation that was just attached is as it was given, but for the edits of listeners -/
  clean : ∀ before e c, before ++ [e] <+: events → (m.after s before).attaches? e = some c →
    Shown s c (m.after s (before ++ [e])).store.conversation
  /-- when no run is under way, a reply to an earlier one that arrives late is dropped -/
  deaf : ∀ before, before <+: events → (m.after s before).running = false →
    ∀ reply, (m.after s before).step s (.replied reply) = m.after s before

/-- among some events, a run is started while a conversation waits, and is still under way when the
turn of the conversation has come -/
def Overtaken (s : Surroundings σ) (m : Moderator σ) (events : List Event) : Prop :=
  ∃ before e rest, before ++ e :: (rest ++ [.attached]) <+: events ∧
    (m.after s before).Starts s e ∧ (m.after s before).waiting ≠ [] ∧ Event.attached ∉ rest ∧
    (((m.after s before).step s e).during s rest).running = true

section

variable {s : Surroundings σ} {events : List Event}

/-- the turn of a conversation comes while a run is under way only if the run overtook it -/
theorem running_of_not_overtaken (hm : m.IsOrderly) (hidle : m.running = false)
    (hordinary : ∀ e ∈ events, e.isOrdinary = true) (h : ¬ m.Overtaken s events)
    {before : List Event} {e : Event} {c : Conversation} (hseen : before ++ [e] <+: events)
    (hc : (m.after s before).attaches? e = some c) : (m.after s before).running = false := by
  refine Bool.eq_false_iff.mpr fun hrun => ?_
  have hbefore : ∀ x ∈ before, x.isOrdinary = true := fun x hx =>
    hordinary x (hseen.subset (List.mem_append_left _ hx))
  -- the conversation waited and was awake
  obtain ⟨w, rest, rfl, hwoken, hwaiting⟩ : ∃ w rest, e = .attached ∧ w.woken = true ∧
      (m.after s before).waiting = w :: rest := by
    have he := hordinary e (hseen.subset (List.mem_append_right _ List.mem_cons_self))
    cases stepped s (hm.after s hbefore).call he with
    | worked hnone _ => rw [hnone] at hc; cases hc
    | queued _ hnone _ _ => rw [hnone] at hc; cases hc
    | attachedNow _ _ _ hfalse _ => rw [hrun] at hfalse; cases hfalse
    | attachedLate w rest _ _ he hwoken hwaiting _ => exact ⟨w, rest, he, hwoken, hwaiting⟩
  -- so it waited when the run that is under way was started
  rcases exists_starts s hrun with ⟨hfalse, -⟩ | ⟨first, x, rest', rfl, hstarts, hlast⟩
  · rw [hidle] at hfalse
    cases hfalse
  have hfirst := hm.after s fun y hy => hbefore y (List.mem_append_left _ hy)
  have hx := hbefore x (List.mem_append_right _ List.mem_cons_self)
  rw [← hlast] at hrun hwaiting
  refine h ?_
  have hwaited : (m.after s first).waiting ≠ [] := by
    intro hnobody
    obtain ⟨later, hlater, hasleep⟩ := waiting_during s (hfirst.step s hx) hstarts.2
      (fun y hy => hbefore y (List.mem_append_right _ (List.mem_cons_of_mem x hy))) hrun
      (.inr (by rw [(hstarts.attaches?_eq_none hfirst hx).2, hnobody]; nofun))
    rw [(hstarts.attaches?_eq_none hfirst hx).2, hnobody, List.nil_append, hwaiting] at hlater
    have hw := hasleep w (by rw [← hlater]; exact List.mem_cons_self)
    rw [hwoken] at hw
    cases hw
  by_cases hmem : Event.attached ∈ rest'
  · obtain ⟨early, later, rfl, hnot⟩ := List.eq_append_cons_of_mem hmem
    refine ⟨first, x, early, ?_, hstarts, hwaited, hnot, ?_⟩
    · refine List.IsPrefix.trans ⟨later ++ [.attached], ?_⟩ hseen
      simp only [List.append_assoc, List.cons_append, List.nil_append]
    · cases hearly : (((m.after s first).step s x).during s early).running with
      | true => rfl
      | false => rw [during_append, during_of_idle s hearly, hearly] at hrun; cases hrun
  · refine ⟨first, x, rest', ?_, hstarts, hwaited, hmem, hrun⟩
    rw [← List.cons_append, ← List.append_assoc]
    exact hseen

/-- events that attach nothing while a run is under way leave it at its conversation -/
theorem becomes_during (hm : m.IsOrderly) (hordinary : ∀ e ∈ events, e.isOrdinary = true)
    (h : ∀ before e, before ++ [e] <+: events → (m.during s before).running = true →
      (m.during s before).attaches? e = none) :
    m.store.conversation.Becomes (m.during s events).store.conversation := by
  induction events generalizing m with
  | nil => exact .refl _
  | cons e es ih =>
    cases hrun : m.running with
    | false =>
      rw [during_of_idle s hrun]
      exact .refl _
    | true =>
      have he := hordinary e List.mem_cons_self
      have hone := h [] e ⟨es, rfl⟩ hrun
      rw [during_cons s hrun]
      refine (becomes_step s hm he hone).trans ?_
      refine ih (hm.step s he) (fun x hx => hordinary x (List.mem_cons_of_mem e hx)) ?_
      intro before x hx hlasts
      have hlater := h (e :: before) x (List.cons_prefix_cons.mpr ⟨rfl, hx⟩)
      rw [during_cons s hrun] at hlater
      exact hlater hlasts

/-- a conversation that waits while a run is started is attached during that run, when its turn
comes before the run is settled -/
theorem Overtaken.exists_attaches (hm : m.IsOrderly) (hordinary : ∀ e ∈ events, e.isOrdinary = true)
    (h : m.Overtaken s events) :
    ∃ before c, before ++ [.attached] <+: events ∧ (m.after s before).running = true ∧
      (m.after s before).attaches? .attached = some c := by
  obtain ⟨before, e, rest, hseen, hstarts, hwaited, hnot, hrun⟩ := h
  have hall : ∀ x ∈ before ++ e :: (rest ++ [.attached]), x.isOrdinary = true := fun x hx =>
    hordinary x (hseen.subset hx)
  have hbefore := hm.after s fun y hy => hall y (List.mem_append_left _ hy)
  have he := hall e (List.mem_append_right _ List.mem_cons_self)
  obtain ⟨later, hlater, -⟩ := waiting_during s (hbefore.step s he) hstarts.2
    (fun y hy => hall y (by
      refine List.mem_append_right _ (List.mem_cons_of_mem e ?_)
      exact List.mem_append_left _ hy)) hrun (.inl hnot)
  obtain ⟨w, ws, hws⟩ := List.exists_cons_of_ne_nil hwaited
  have hwoken : w.woken = true := hbefore.awake hstarts.1 w (by rw [hws]; exact List.mem_cons_self)
  rw [(hstarts.attaches?_eq_none hbefore he).2, hws] at hlater
  have hlast : m.after s (before ++ e :: rest) = ((m.after s before).step s e).during s rest :=
    (after_append s m before (e :: rest)).trans (during_eq_after s hrun).symm
  refine ⟨before ++ e :: rest, w.conversation, ?_, hlast ▸ hrun, ?_⟩
  · rw [List.append_assoc]
    exact hseen
  · rw [hlast, Moderator.attaches?, hlater, List.cons_append, List.head?_cons, Option.filter_some,
      hwoken]
    rfl

end

/-- whatever the moderator is told, in whatever order, no run touches another conversation than the
one it was started on, unless a run is started while a conversation waits and is still under way
when the turn of the conversation has come; whenever that happens, the conversation is attached in
the middle of the run -/
theorem apart_iff_not_overtaken (s : Surroundings σ) (hm : m.IsOrderly) (hidle : m.running = false)
    {events : List Event} (hordinary : ∀ e ∈ events, e.isOrdinary = true) :
    m.Apart s events ↔ ¬ m.Overtaken s events := by
  constructor
  · intro h hover
    obtain ⟨before, c, hseen, hrun, hc⟩ := hover.exists_attaches hm hordinary
    rw [h.idle before .attached c hseen hc] at hrun
    cases hrun
  · intro h
    have hrest {before : List Event} {e : Event} (hseen : before ++ [e] <+: events) :
        (m.after s before).IsOrderly ∧ e.isOrdinary = true :=
      ⟨hm.after s fun x hx => hordinary x (hseen.subset (List.mem_append_left _ hx)),
        hordinary e (hseen.subset (List.mem_append_right _ List.mem_cons_self))⟩
    constructor
    · intro before e hseen hnone
      obtain ⟨hat, he⟩ := hrest hseen
      rw [after_concat]
      exact becomes_step s hat he hnone
    · intro before e rest hseen hstarts
      have hfirst : before ++ [e] <+: events := List.IsPrefix.trans ⟨rest, by simp⟩ hseen
      obtain ⟨hat, he⟩ := hrest hfirst
      refine (becomes_step s hat he (hstarts.attaches?_eq_none hat he).1).trans ?_
      refine becomes_during (hat.step s he) (fun x hx => hordinary x (hseen.subset ?_)) ?_
      · exact List.mem_append_right _ (List.mem_cons_of_mem e hx)
      · intro next x hnext hlasts
        have hlast : ((m.after s before).step s e).during s next =
            m.after s (before ++ e :: next) :=
          (during_eq_after s hlasts).trans (after_append s m before (e :: next)).symm
        rw [hlast] at hlasts ⊢
        refine Option.eq_none_iff_forall_ne_some.mpr fun c hc => ?_
        have hover := running_of_not_overtaken hm hidle hordinary h
          (List.IsPrefix.trans (by simpa using hnext) hseen) hc
        rw [hover] at hlasts
        cases hlasts
    · intro before e c hseen hc
      exact running_of_not_overtaken hm hidle hordinary h hseen hc
    · intro before e c hseen hc
      obtain ⟨hat, he⟩ := hrest hseen
      rw [after_concat]
      exact shown_step s hat he hc
    · intro before hseen hover reply
      have hat := hm.after s fun x hx => hordinary x (hseen.subset hx)
      rw [step, carry_resume_of_none s (hat.call hover)]

/-- it is enough that no run is started while a conversation waits -/
theorem not_overtaken_of_patient {s : Surroundings σ} {events : List Event}
    (h : ∀ k < events.length, (m.after s (events.take k)).running = false →
      (m.after s (events.take (k + 1))).running = true → (m.after s (events.take k)).waiting = []) :
    ¬ m.Overtaken s events := by
  rintro ⟨before, e, rest, ⟨later, rfl⟩, ⟨hidle, hrun⟩, hwaited, -⟩
  have hbefore : (before ++ e :: (rest ++ [.attached]) ++ later).take before.length = before := by
    rw [List.append_assoc, List.take_left]
  have hstarted : (before ++ e :: (rest ++ [.attached]) ++ later).take (before.length + 1) =
      before ++ [e] := by
    rw [List.append_assoc, List.cons_append, List.append_cons]
    exact List.take_left' List.length_append
  have hnobody := h before.length (by simp)
  rw [hbefore, hstarted, after_concat] at hnobody
  exact hwaited (hnobody hidle hrun)

/-- a conversation for others to attach -/
def other : Conversation := { id := .text "c", createdAt := .text "", document := .text "kept" }

/-- a request, and a conversation that is to be attached meanwhile -/
def switching : List Event :=
  [.told (.submit (.text "first") .null), .told (.switch other), .replied (.ok (.text "late"))]

/-- another request -/
def again : Event := .told (.submit (.text "second") .null)

/-- a reply that edits the notepad -/
def stale : Event := .replied (.ok (.text "<np-replace-all>stale</np-replace-all>"))

theorem isOrderly_opened : opened.IsOrderly := ⟨fun _ => rfl, fun _ => nofun⟩

/-- runs and conversations are kept apart if the conversation is attached before another request,
but not if the request overtakes it -/
theorem apart_switching :
    opened.IsOrderly ∧ opened.running = false ∧
      opened.Apart .silent (switching ++ [.attached, again, stale]) ∧
      ¬ opened.Apart .silent (switching ++ [again, .attached, stale]) := by
  refine ⟨isOrderly_opened, rfl, ?_, fun h => ?_⟩
  · refine (apart_iff_not_overtaken .silent isOrderly_opened rfl (by decide)).mpr ?_
    exact not_overtaken_of_patient (by decide +kernel)
  · refine (apart_iff_not_overtaken .silent isOrderly_opened rfl (by decide)).mp h ?_
    refine ⟨switching, again, [], ⟨[stale], rfl⟩, ?_, ?_, nofun, ?_⟩
    · exact ⟨by decide +kernel, by decide +kernel⟩
    · decide +kernel
    · decide +kernel

/-- the conversation that was attached gets the notepad and a message of a run that was started
before -/
theorem other_changed_by_run :
    (opened.after .silent (switching ++ [again])).running = true ∧
      (opened.after .silent (switching ++ [again])).attaches? .attached = some other ∧
      let m := opened.after .silent (switching ++ [again, .attached, stale])
      m.store.conversation.id = other.id ∧ m.document = .text "stale" ∧
        m.messages.map (·.sender) = [.agentB] := by
  decide +kernel

end Moderator

end Debate
