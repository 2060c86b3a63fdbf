import Debate.Conversation
import Mathlib.Data.List.Perm.Basic

/-!
# What lasts of a conversation

A conversation changes all the time, but most of it lasts. A change leaves the messages that it does not
name as they are, it keeps the others in their places and under their ids, and it takes away no message
but a pending one; the conversation itself keeps its id and the time of its making. So after any number
of changes the log holds what it held and what was added, in order, without the pending messages that
were dropped.

* `Action.target?`, `Action.added`, `Action.notepad?`   what a change names, adds and brings;
* `Message.Lasts`              what a change may make of a message;
* `Conversation.Lasts`         what a change may make of a conversation;
* `Conversation.IsIndexed`     a log whose messages are told apart by their ids;
* `Conversation.lasts_apply`   one change;
* `Conversation.dropped`       the messages that changes drop;
* `Conversation.applyAll_lasting`   any number of changes.
-/

namespace Debate

/-! ## changes -/

namespace Action

/-- the id that a change names -/
def target? : Action → Option Value
  | .resolve id .. | .fail id _ | .reopen id => some id
  | .replace m => some m.id
  | .append _ | .dropPending | .setDocument _ => none

def Names (a : Action) (m : Message) : Prop := ∃ id, a.target? = some id ∧ m.hasId id = true

def added : Action → List Message
  | .append m => [m]
  | _ => []

def notepad? : Action → Option Value
  | .resolve _ _ _ document => some document
  | .setDocument content => some content
  | _ => none

end Action

/-- what a change may make of a message: it stays under its id and as it is unless the change names it;
and who sent it, when, and with which image, only another message in its place can tell otherwise -/
structure Message.Lasts (a : Action) (m m' : Message) : Prop where
  id : m'.id = m.id
  same : ¬ a.Names m → m' = m
  origin : (∀ x, a ≠ .replace x) →
    m'.sender = m.sender ∧ m'.timestamp = m.timestamp ∧ m'.image = m.image

namespace Conversation

def ids (c : Conversation) : List Value := c.messages.map (·.id)

/-- the messages that a change drops: the pending ones, if it drops any -/
def droppedBy (c : Conversation) : Action → List Message
  | .dropPending => c.messages.filter (·.pending)
  | _ => []

def spared (c : Conversation) : Action → List Message
  | .dropPending => c.settled
  | _ => c.messages

/-- what a change may make of a conversation -/
structure Lasts (a : Action) (c c' : Conversation) : Prop where
  messages : ∃ f : Message → Message, c'.messages = (c.spared a).map f ++ a.added ∧
    ∀ m ∈ c.spared a, m.Lasts a (f m)
  id : c'.id = c.id
  createdAt : c'.createdAt = c.createdAt
  document : c'.document = a.notepad?.getD c.document
  updatedAt : c'.updatedAt = (a.added.getLast?.map (·.timestamp)).getD c.updatedAt
  title : c'.title = c.title ∨ ∃ m, a = .append m ∧ c.messages = [] ∧ m.sender = .user

/-- the messages of a log are told apart by their ids, which are texts -/
structure IsIndexed (c : Conversation) : Prop where
  texts : ∀ m ∈ c.messages, ∃ s, m.id = .text s
  distinct : c.ids.Nodup

end Conversation

/-- a change that adds a message adds it under an id that no message of the log has -/
def Action.IsFresh (c : Conversation) (a : Action) : Prop :=
  ∀ m ∈ a.added, (∃ s, m.id = .text s) ∧ m.id ∉ c.ids

/-- changes each of which adds its message under an id that no message of the log has then -/
def Action.AreFresh : Conversation → List Action → Prop
  | _, [] => True
  | c, a :: as => a.IsFresh c ∧ AreFresh (c.apply a) as

/-! ## one change -/

section

variable {a : Action} {m : Message}

theorem Message.Lasts.refl (a : Action) (m : Message) : m.Lasts a m :=
  ⟨rfl, fun _ => rfl, fun _ => ⟨rfl, rfl, rfl⟩⟩

theorem Message.lasts_ite {id : Value} (ha : a.target? = some id) {f : Message → Message}
    (hid : m.hasId id = true → (f m).id = m.id)
    (horigin : (∀ x, a ≠ .replace x) →
      (f m).sender = m.sender ∧ (f m).timestamp = m.timestamp ∧ (f m).image = m.image) :
    m.Lasts a (if m.hasId id then f m else m) := by
  by_cases h : m.hasId id = true
  · rw [if_pos h]
    exact ⟨hid h, fun hnot => absurd ⟨id, ha, h⟩ hnot, horigin⟩
  · rw [if_neg h]
    exact Message.Lasts.refl a m

end

namespace Conversation

variable {c : Conversation} {a : Action}

/-- of messages whose ids are texts, the one that is named has the very id that is named -/
theorem IsIndexed.eq_of_hasId (hc : c.IsIndexed) {m : Message} (hm : m ∈ c.messages) {id : Value}
    (h : m.hasId id = true) : id = m.id := by
  obtain ⟨s, hs⟩ := hc.texts m hm
  rw [Message.hasId, hs] at h
  rw [hs]
  exact Value.text_same_iff.mp h

theorem lasts_apply (hc : c.IsIndexed) (a : Action) : Lasts a c (c.apply a) := by
  constructor
  · cases a with
    | append m =>
      exact ⟨fun m => m, by rw [List.map_id']; rfl, fun m _ => .refl _ m⟩
    | resolve id text durationMs document =>
      exact ⟨_, (List.append_nil _).symm, fun m _ =>
        Message.lasts_ite rfl (fun _ => rfl) fun _ => ⟨rfl, rfl, rfl⟩⟩
    | fail id error =>
      exact ⟨_, (List.append_nil _).symm, fun m _ =>
        Message.lasts_ite rfl (fun _ => rfl) fun _ => ⟨rfl, rfl, rfl⟩⟩
    | reopen id =>
      exact ⟨_, (List.append_nil _).symm, fun m _ =>
        Message.lasts_ite rfl (fun _ => rfl) fun _ => ⟨rfl, rfl, rfl⟩⟩
    | replace x =>
      exact ⟨_, (List.append_nil _).symm, fun m hm =>
        Message.lasts_ite (f := fun _ => x) rfl (hc.eq_of_hasId hm) fun hnot => absurd rfl (hnot x)⟩
    | dropPending =>
      exact ⟨fun m => m, by rw [List.map_id']; exact (List.append_nil _).symm, fun m _ => .refl _ m⟩
    | setDocument content =>
      exact ⟨fun m => m, by rw [List.map_id']; exact (List.append_nil _).symm, fun m _ => .refl _ m⟩
  · cases a <;> rfl
  · cases a <;> rfl
  · cases a <;> rfl
  · cases a <;> rfl
  · cases a with
    | append m =>
      by_cases ht : c.isTitled m = true
      · obtain ⟨hempty, huser⟩ := Bool.and_eq_true_iff.mp ht
        exact .inr ⟨m, rfl, List.isEmpty_iff.mp hempty, of_decide_eq_true huser⟩
      · exact .inl (if_neg ht)
    | _ => exact .inl rfl

theorem Lasts.ids {c' : Conversation} (h : Lasts a c c') :
    c'.ids = (c.spared a).map (·.id) ++ a.added.map (·.id) := by
  obtain ⟨f, hmessages, hf⟩ := h.messages
  rw [Conversation.ids, hmessages, List.map_append, List.map_map]
  congr 1
  exact List.map_congr_left fun m hm => (hf m hm).id

theorem spared_sublist (c : Conversation) (a : Action) : (c.spared a).Sublist c.messages := by
  cases a with
  | dropPending => exact List.filter_sublist
  | _ => exact List.Sublist.refl _

theorem spared_append_droppedBy (c : Conversation) (a : Action) :
    (c.spared a ++ c.droppedBy a).Perm c.messages := by
  cases a with
  | dropPending =>
    refine List.perm_append_comm.trans ?_
    exact List.filter_append_perm (·.pending) c.messages
  | _ => exact .of_eq (List.append_nil _)

theorem IsIndexed.apply (hc : c.IsIndexed) (ha : a.IsFresh c) : (c.apply a).IsIndexed := by
  have hlasts := lasts_apply hc a
  have hids := hlasts.ids
  have hspared : ((c.spared a).map (·.id)).Sublist c.ids := (c.spared_sublist a).map _
  constructor
  · intro m hm
    have hid : m.id ∈ (c.apply a).ids := List.mem_map_of_mem hm
    rw [hids] at hid
    rcases List.mem_append.mp hid with hold | hnew
    · obtain ⟨x, hx, hxm⟩ := List.mem_map.mp (hspared.subset hold)
      exact hxm ▸ hc.texts x hx
    · obtain ⟨x, hx, hxm⟩ := List.mem_map.mp hnew
      exact hxm ▸ (ha x hx).1
  · have hadded : (a.added.map (·.id)).Nodup := by
      cases a <;> simp [Action.added]
    rw [hids, List.nodup_append]
    refine ⟨hc.distinct.sublist hspared, hadded, ?_⟩
    rintro id hold _ hnew rfl
    obtain ⟨x, hx, rfl⟩ := List.mem_map.mp hnew
    exact (ha x hx).2 (hspared.subset hold)

/-! ## any number of changes -/

/-- the messages that changes drop, as they were then -/
def dropped (c : Conversation) : List Action → List Message
  | [] => []
  | a :: as => c.droppedBy a ++ (c.apply a).dropped as

/-- only pending messages are dropped, by a change that drops such messages -/
theorem pending_of_mem_dropped {as : List Action} {m : Message} (hm : m ∈ c.dropped as) :
    ∃ pre post, as = pre ++ .dropPending :: post ∧ m ∈ (c.applyAll pre).messages ∧
      m.pending = true := by
  induction as generalizing c with
  | nil => cases hm
  | cons a as ih =>
    rcases List.mem_append.mp hm with hfirst | hrest
    · cases a with
      | dropPending =>
        obtain ⟨hmem, hpending⟩ := List.mem_filter.mp hfirst
        exact ⟨[], as, rfl, hmem, hpending⟩
      | _ => cases hfirst
    · obtain ⟨pre, post, rfl, hmem, hpending⟩ := ih hrest
      exact ⟨a :: pre, post, rfl, hmem, hpending⟩

/-- the log holds the ids that it held and those that were added, in order, without those that were
dropped -/
theorem ids_applyAll {as : List Action} (hc : c.IsIndexed) (has : Action.AreFresh c as) :
    (c.applyAll as).ids.Sublist (c.ids ++ (as.flatMap Action.added).map (·.id)) ∧
      ((c.applyAll as).ids ++ (c.dropped as).map (·.id)).Perm
        (c.ids ++ (as.flatMap Action.added).map (·.id)) := by
  induction as generalizing c with
  | nil => exact ⟨List.sublist_append_left _ _, .refl _⟩
  | cons a as ih =>
    obtain ⟨hsub, hperm⟩ := ih (hc.apply has.1) has.2
    have hids := (lasts_apply hc a).ids
    have hsplit : ((a :: as).flatMap Action.added).map (·.id) =
        a.added.map (·.id) ++ (as.flatMap Action.added).map (·.id) := by
      rw [List.flatMap_cons, List.map_append]
    rw [hids, List.append_assoc] at hsub hperm
    rw [hsplit]
    constructor
    · exact hsub.trans (((c.spared_sublist a).map _).append_right _)
    · have hboth : ((c.spared a).map (·.id) ++ (c.droppedBy a).map (·.id)).Perm c.ids := by
        rw [← List.map_append]
        exact (c.spared_append_droppedBy a).map _
      generalize a.added.map (·.id) ++ (as.flatMap Action.added).map (·.id) = added at hperm ⊢
      -- what the first change drops is brought next to what it spares
      have hmoved : ((c.applyAll (a :: as)).ids ++ (c.dropped (a :: as)).map (·.id)).Perm
          ((c.droppedBy a).map (·.id) ++
            (((c.apply a).applyAll as).ids ++ ((c.apply a).dropped as).map (·.id))) := by
        rw [dropped, List.map_append]
        exact List.perm_append_comm_assoc _ _ _
      refine hmoved.trans ((hperm.append_left _).trans ?_)
      rw [← List.append_assoc]
      exact (List.perm_append_comm.trans hboth).append_right _

theorem IsIndexed.applyAll {as : List Action} (hc : c.IsIndexed) (has : Action.AreFresh c as) :
    (c.applyAll as).IsIndexed := by
  induction as generalizing c with
  | nil => exact hc
  | cons a as ih => exact ih (hc.apply has.1) has.2

theorem frame_applyAll {as : List Action} (hc : c.IsIndexed) (has : Action.AreFresh c as) :
    (c.applyAll as).id = c.id ∧ (c.applyAll as).createdAt = c.createdAt := by
  induction as generalizing c with
  | nil => exact ⟨rfl, rfl⟩
  | cons a as ih =>
    have hlasts := lasts_apply hc a
    obtain ⟨hid, hcreated⟩ := ih (hc.apply has.1) has.2
    exact ⟨hid.trans hlasts.id, hcreated.trans hlasts.createdAt⟩

theorem document_applyAll {as : List Action} (hc : c.IsIndexed) (has : Action.AreFresh c as) :
    (c.applyAll as).document = (as.filterMap Action.notepad?).getLast?.getD c.document := by
  induction as generalizing c with
  | nil => rfl
  | cons a as ih =>
    have hrest : ((c.apply a).applyAll as).document = _ := ih (hc.apply has.1) has.2
    change ((c.apply a).applyAll as).document = _
    rw [hrest, (lasts_apply hc a).document]
    cases hnotepad : a.notepad? with
    | none => rw [List.filterMap_cons_none hnotepad, Option.getD_none]
    | some v =>
      rw [List.filterMap_cons_some hnotepad, List.getLast?_cons, Option.getD_some, Option.getD_some]

theorem updatedAt_applyAll {as : List Action} (hc : c.IsIndexed) (has : Action.AreFresh c as) :
    (c.applyAll as).updatedAt =
      ((as.flatMap Action.added).getLast?.map (·.timestamp)).getD c.updatedAt := by
  induction as generalizing c with
  | nil => rfl
  | cons a as ih =>
    have hrest : ((c.apply a).applyAll as).updatedAt = _ := ih (hc.apply has.1) has.2
    change ((c.apply a).applyAll as).updatedAt = _
    rw [hrest, (lasts_apply hc a).updatedAt, List.flatMap_cons, List.getLast?_append]
    cases (as.flatMap Action.added).getLast? <;> rfl

theorem title_applyAll {as : List Action} (hc : c.IsIndexed) (has : Action.AreFresh c as) :
    (c.applyAll as).title = c.title ∨
      ∃ pre m post, as = pre ++ .append m :: post ∧ (c.applyAll pre).messages = [] ∧
        m.sender = .user := by
  induction as generalizing c with
  | nil => exact .inl rfl
  | cons a as ih =>
    rcases ih (hc.apply has.1) has.2 with hrest | ⟨pre, m, post, rfl, hempty, huser⟩
    · rcases (lasts_apply hc a).title with hfirst | ⟨m, rfl, hempty, huser⟩
      · exact .inl (hrest.trans hfirst)
      · exact .inr ⟨[], m, as, rfl, hempty, huser⟩
    · exact .inr ⟨a :: pre, m, post, rfl, hempty, huser⟩

end Conversation

theorem Action.AreFresh.left {c : Conversation} {as as' : List Action}
    (h : Action.AreFresh c (as ++ as')) : Action.AreFresh c as := by
  induction as generalizing c with
  | nil => trivial
  | cons a as ih => exact ⟨h.1, ih h.2⟩

namespace Conversation

/-- any number of changes: the messages are still told apart by their ids, and the log holds the ids that
it held and those that were added, in order, without those of messages that were dropped, each of which
was pending then; each single change leaves the messages that it does not name as they are, and the rest
of the conversation is what the changes that say so have made of it -/
theorem applyAll_lasting {c : Conversation} {as : List Action} (hc : c.IsIndexed)
    (has : Action.AreFresh c as) :
    (c.applyAll as).IsIndexed ∧
      ((c.applyAll as).ids.Sublist (c.ids ++ (as.flatMap Action.added).map (·.id)) ∧
        ((c.applyAll as).ids ++ (c.dropped as).map (·.id)).Perm
          (c.ids ++ (as.flatMap Action.added).map (·.id)) ∧
        ∀ m ∈ c.dropped as, ∃ pre post, as = pre ++ .dropPending :: post ∧
          m ∈ (c.applyAll pre).messages ∧ m.pending = true) ∧
      (∀ pre a post, as = pre ++ a :: post → Lasts a (c.applyAll pre) ((c.applyAll pre).apply a)) ∧
      (c.applyAll as).id = c.id ∧ (c.applyAll as).createdAt = c.createdAt ∧
      (c.applyAll as).document = (as.filterMap Action.notepad?).getLast?.getD c.document ∧
      (c.applyAll as).updatedAt =
        ((as.flatMap Action.added).getLast?.map (·.timestamp)).getD c.updatedAt ∧
      ((c.applyAll as).title = c.title ∨
        ∃ pre m post, as = pre ++ .append m :: post ∧ (c.applyAll pre).messages = [] ∧
          m.sender = .user) := by
  obtain ⟨hsub, hperm⟩ := ids_applyAll hc has
  obtain ⟨hid, hcreated⟩ := frame_applyAll hc has
  refine ⟨hc.applyAll has, ⟨hsub, hperm, fun m hm => pending_of_mem_dropped hm⟩, ?_, hid, hcreated,
    document_applyAll hc has, updatedAt_applyAll hc has, title_applyAll hc has⟩
  rintro pre a post rfl
  exact lasts_apply (hc.applyAll has.left) a

/-- a turn that is under way after a request -/
def asked : Conversation where
  id := .text "c"
  createdAt := .text "t0"
  updatedAt := .text "t2"
  messages := [.request "m1" "t1" (.text "Go") .null, .placeholder "m2" "t2" .agentA]

/-- another turn starts, the first one gets its reply, and the other is dropped; its id is used again,
for a message that is then replaced -/
def turning : List Action :=
  [.append (.placeholder "m3" "t3" .agentB),
    .resolve (.text "m2") (.text "Yes") (.int 10) (.text "notes"), .dropPending,
    .append (.notice "m3" "t4" "Done"), .replace (.request "m3" "t5" (.text "Why?") .null),
    .fail (.text "m9") "down"]

theorem applyAll_lasting_turning :
    asked.IsIndexed ∧ Action.AreFresh asked turning ∧
      (asked.applyAll turning).ids = [.text "m1", .text "m2", .text "m3"] ∧
      (asked.dropped turning).map (·.id) = [.text "m3"] ∧
      ((asked.applyAll turning).ids ++ [Value.text "m3"]).Perm
        (asked.ids ++ [Value.text "m3", .text "m3"]) ∧
      (asked.applyAll turning).updatedAt = .text "t4" := by
  have hc : asked.IsIndexed := by
    refine ⟨fun m hm => ?_, by decide⟩
    rcases List.mem_cons.mp hm with rfl | hm
    · exact ⟨_, rfl⟩
    · rw [List.mem_singleton.mp hm]
      exact ⟨_, rfl⟩
  have has : Action.AreFresh asked turning := by
    refine ⟨?_, nofun, nofun, ?_, nofun, nofun, trivial⟩ <;>
    · intro m hm
      rw [List.mem_singleton.mp hm]
      exact ⟨⟨_, rfl⟩, by decide⟩
  obtain ⟨-, ⟨-, hperm, -⟩, -, -, -, -, hupdated, -⟩ := applyAll_lasting hc has
  exact ⟨hc, has, by decide, by decide, hperm, hupdated⟩

end Conversation

end Debate
