import Debate.Proofs.Saved

/-!
# Records of the wrong shape

A record that lacks a field, or names a sender or a purpose that does not exist, ends in a fault that is
passed over when a run is loaded. A record with a part of the wrong type ends in another one: to look for
a field of something that is no object, or for the elements of something that has none, is not passed
over. What comes first counts: the conversation before the failed step, a message before the next one.

* `Ends`                       a computation that goes well exactly if something is the case, and exactly
  if something else is the case ends in a fault that is not passed over;
* `Message.ends_read`, `Conversation.ends_read`, `FailedStep.ends_read`   how the reading of a record ends;
* `Transcript.IsLoadable`, `Transcript.Misshapen`   values that a run is loaded from, and values with a
  part of the wrong type;
* `Transcript.ends_parts`      how the reading of a saved run ends.
-/

namespace Debate

open Debate.Files Debate.Text

variable {α β : Type}

def Value.IsObject (v : Value) : Prop := ∃ fs, v = .object fs

/-! ## how a computation ends -/

/-- a computation that goes well exactly if something is the case, and exactly if something else is the
case ends in a fault that is not passed over -/
structure Ends (fine spoiled : Prop) (x : Drawing α) : Prop where
  fine : ∀ u, (∃ a, (carriedOut x u).1 = .ok a) ↔ fine
  spoiled : ∀ u, (∃ e, (carriedOut x u).1 = .error e ∧ Transcript.isReadable e = false) ↔ spoiled

namespace Ends

variable {fine fine' spoiled spoiled' : Prop} {x : Drawing α} {f : α → Drawing β}

theorem congr (h : Ends fine spoiled x) (hfine : fine ↔ fine') (hspoiled : spoiled ↔ spoiled') :
    Ends fine' spoiled' x :=
  ⟨fun u => (h.fine u).trans hfine, fun u => (h.spoiled u).trans hspoiled⟩

theorem of_ok (h : ∀ u, ∃ a, (carriedOut x u).1 = .ok a) : Ends True False x := by
  refine ⟨fun u => iff_of_true (h u) trivial, fun u => iff_of_false ?_ not_false⟩
  rintro ⟨e, he, -⟩
  obtain ⟨a, ha⟩ := h u
  rw [ha] at he
  cases he

theorem pure (a : α) : Ends True False (pure a : Drawing α) := of_ok fun _ => ⟨a, rfl⟩

/-- one computation after another, how it ends does not depend on the result of the first -/
theorem bind (hx : Ends fine spoiled x) (hf : ∀ a, Ends fine' spoiled' (f a)) :
    Ends (fine ∧ fine') (spoiled ∨ fine ∧ spoiled') (x >>= f) := by
  constructor
  · intro u
    have hfine := hx.fine u
    rw [carriedOut_bind]
    rcases hr : carriedOut x u with ⟨e | a, u'⟩ <;> rw [hr] at hfine
    · refine iff_of_false ?_ fun h => ?_
      · rintro ⟨b, hb⟩
        cases hb
      · obtain ⟨a, ha⟩ := hfine.mpr h.1
        cases ha
    · rw [and_iff_right (hfine.mp ⟨a, rfl⟩)]
      exact (hf a).fine u'
  · intro u
    have hfine := hx.fine u
    have hspoiled := hx.spoiled u
    rw [carriedOut_bind]
    rcases hr : carriedOut x u with ⟨e | a, u'⟩ <;> rw [hr] at hfine hspoiled
    · -- after a fault the second computation is not carried out
      have hnot : ¬ fine := fun h => by
        obtain ⟨a, ha⟩ := hfine.mpr h
        cases ha
      rw [or_iff_left (mt And.left hnot), ← hspoiled]
      constructor
      · rintro ⟨_, he, h⟩
        cases he
        exact ⟨_, rfl, h⟩
      · rintro ⟨_, he, h⟩
        cases he
        exact ⟨_, rfl, h⟩
    · have hnot : ¬ spoiled := fun h => by
        obtain ⟨e, he, -⟩ := hspoiled.mpr h
        cases he
      rw [or_iff_right hnot, and_iff_right (hfine.mp ⟨a, rfl⟩)]
      exact (hf a).spoiled u'

theorem skip (hx : Ends True False x) (hf : ∀ a, Ends fine spoiled (f a)) :
    Ends fine spoiled (x >>= f) :=
  (hx.bind hf).congr (by rw [true_and]) (by rw [false_or, true_and])

theorem lift (r : Except Fault α) :
    Ends (∃ a, r = .ok a) (∃ e, r = .error e ∧ Transcript.isReadable e = false) (liftM r) :=
  ⟨fun u => by rw [carriedOut_lift], fun u => by rw [carriedOut_lift]⟩

theorem lift_ok {r : Except Fault α} {a : α} (hr : r = .ok a) (hf : Ends fine spoiled (f a)) :
    Ends fine spoiled (liftM r >>= f) := by
  constructor
  · intro u
    rw [Drawing.carriedOut_lift_bind hr]
    exact hf.fine u
  · intro u
    rw [Drawing.carriedOut_lift_bind hr]
    exact hf.spoiled u

theorem lift_error {r : Except Fault α} {e : Fault} (hr : r = .error e) (hfine : ¬ fine)
    (hspoiled : Transcript.isReadable e = false ↔ spoiled) : Ends fine spoiled (liftM r >>= f) := by
  have hcarried (u : Supply) : carriedOut (liftM r >>= f) u = (.error e, u) := by
    rw [carriedOut_bind_error ((carriedOut_lift r u).trans (by rw [hr]))]
  constructor
  · intro u
    rw [hcarried]
    refine iff_of_false ?_ hfine
    rintro ⟨a, ha⟩
    cases ha
  · intro u
    rw [hcarried, ← hspoiled]
    constructor
    · rintro ⟨e', he, h⟩
      cases he
      exact h
    · exact fun h => ⟨e, rfl, h⟩

theorem fields {v : Value} {f : Fields → Drawing β} (hfine : fine → v.IsObject)
    (hspoiled : ¬ v.IsObject → spoiled) (hf : ∀ fs, v = .object fs → Ends fine spoiled (f fs)) :
    Ends fine spoiled (liftM v.fields >>= f) := by
  cases v with
  | object fs => exact .lift_ok rfl (hf fs rfl)
  | _ =>
    refine .lift_error (e := Value.lacks _ "get") rfl (mt hfine ?_) (iff_of_true rfl (hspoiled ?_)) <;>
    · rintro ⟨fs, hfs⟩
      cases hfs

/-- a part whose faults are passed over -/
theorem lift_readable {r : Except Fault α} {f : α → Drawing β}
    (hr : ∀ e, r = .error e → Transcript.isReadable e = true) (hfine : fine → ∃ a, r = .ok a)
    (hspoiled : ¬ spoiled) (hf : ∀ a, r = .ok a → Ends fine spoiled (f a)) :
    Ends fine spoiled (liftM r >>= f) := by
  cases r with
  | error e =>
    refine .lift_error rfl (fun h => ?_) ?_
    · obtain ⟨a, ha⟩ := hfine h
      cases ha
    · rw [hr e rfl]
      exact iff_of_false Bool.true_eq_false.mp hspoiled
  | ok a => exact .lift_ok rfl (hf a rfl)

/-- a computation on each of some items: the first one that does not go well counts -/
theorem mapM {fine spoiled : α → Prop} {f : α → Drawing β} (hf : ∀ v, Ends (fine v) (spoiled v) (f v))
    (items : List α) :
    Ends (∀ v ∈ items, fine v)
      (∃ before v after, items = before ++ v :: after ∧ (∀ w ∈ before, fine w) ∧ spoiled v)
      (items.mapM f) := by
  induction items with
  | nil =>
    refine (Ends.pure []).congr (iff_of_true trivial (List.forall_mem_nil _)) ?_
    refine iff_of_false not_false ?_
    rintro ⟨before, v, after, h, -⟩
    exact List.append_ne_nil_of_right_ne_nil before (List.cons_ne_nil v after) h.symm
  | cons v items ih =>
    rw [List.mapM_cons]
    refine ((hf v).bind fun b => ih.bind fun bs => .pure (b :: bs)).congr ?_ ?_
    · rw [and_true, List.forall_mem_cons]
    · rw [and_false, or_false]
      constructor
      · rintro (hv | ⟨hv, before, w, after, rfl, hbefore, hw⟩)
        · exact ⟨[], v, items, rfl, List.forall_mem_nil _, hv⟩
        · exact ⟨v :: before, w, after, rfl, List.forall_mem_cons.mpr ⟨hv, hbefore⟩, hw⟩
      · rintro ⟨before, w, after, h, hbefore, hw⟩
        rcases List.cons_eq_append_iff.mp h with ⟨rfl, h⟩ | ⟨before, rfl, rfl⟩
        · cases h
          exact .inl hw
        · obtain ⟨hv, hbefore⟩ := List.forall_mem_cons.mp hbefore
          exact .inr ⟨hv, before, w, after, rfl, hbefore, hw⟩

end Ends

/-! ## messages -/

theorem Value.bind_text?_eq_some_iff {name : α → String} {ofName? : String → Option α}
    (hname : ∀ s x, ofName? s = some x ↔ name x = s) {v : Value} {x : α} :
    v.text?.bind ofName? = some x ↔ v = .text (name x) := by
  cases v with
  | text s => exact (hname s x).trans (by rw [Value.text.injEq, eq_comm])
  | _ =>
    refine iff_of_false ?_ ?_
    · intro h
      cases h
    · intro h
      cases h

theorem Sender.ofName?_eq_some_iff (s : String) (x : Sender) : ofName? s = some x ↔ x.name = s := by
  constructor
  · exact fun h => of_decide_eq_true (List.find?_some (p := fun y : Sender => decide (y.name = s)) h)
  · rintro rfl
    exact ofName?_name x

theorem Purpose.ofName?_eq_some_iff (s : String) (x : Purpose) : ofName? s = some x ↔ x.name = s := by
  constructor
  · exact fun h => of_decide_eq_true (List.find?_some (p := fun y : Purpose => decide (y.name = s)) h)
  · rintro rfl
    exact ofName?_name x

theorem Sender.read_eq_ok_iff {v : Value} {x : Sender} : read v = .ok x ↔ v = .text x.name := by
  rw [read, ← Value.bind_text?_eq_some_iff ofName?_eq_some_iff]
  cases v.text?.bind ofName? <;> simp

theorem Purpose.read_eq_ok_iff {v : Value} {x : Purpose} : read v = .ok x ↔ v = .text x.name := by
  rw [read, ← Value.bind_text?_eq_some_iff ofName?_eq_some_iff]
  cases v.text?.bind ofName? <;> simp

/-- a sender or a purpose that does not exist is passed over -/
theorem Sender.isReadable_of_read {v : Value} {e : Fault} (h : read v = .error e) :
    Transcript.isReadable e = true := by
  rw [read] at h
  split at h <;> cases h
  rfl

theorem Purpose.isReadable_of_read {v : Value} {e : Fault} (h : read v = .error e) :
    Transcript.isReadable e = true := by
  rw [read] at h
  split at h <;> cases h
  rfl

theorem Drawing.ends_orNewId (v : Value) : Ends True False (orNewId v) := by
  refine .of_ok fun u => ?_
  rw [carriedOut_orNewId]
  exact ⟨_, rfl⟩

theorem Drawing.ends_orTimestamp (v : Value) : Ends True False (orTimestamp v) := by
  refine .of_ok fun u => ?_
  rw [carriedOut_orTimestamp]
  exact ⟨_, rfl⟩

namespace Message

/-- an object of which a message is read: its sender and its purpose exist, or are not named -/
def IsReadable (v : Value) : Prop :=
  ∃ fs, v = .object fs ∧
    (∃ x : Sender, Fields.getD fs "sender" (.text Sender.system.name) = .text x.name) ∧
    ∃ x : Purpose, Fields.getD fs "purpose" (.text Purpose.systemNotice.name) = .text x.name

theorem ends_read (v : Value) : Ends (IsReadable v) (¬ v.IsObject) (read v) := by
  refine .fields (Exists.imp fun _ => And.left) (fun h => h) fun fs hfs => ?_
  have hobject : ¬ ¬ v.IsObject := not_not_intro ⟨fs, hfs⟩
  subst hfs
  refine .skip (Drawing.ends_orNewId _) fun id => ?_
  refine .lift_readable (fun _ => Sender.isReadable_of_read) ?_ hobject fun sender hsender => ?_
  · rintro ⟨_, hgs, ⟨x, hx⟩, -⟩
    cases hgs
    exact ⟨x, Sender.read_eq_ok_iff.mpr hx⟩
  refine .lift_readable (fun _ => Purpose.isReadable_of_read) ?_ hobject fun purpose hpurpose => ?_
  · rintro ⟨_, hgs, -, x, hx⟩
    cases hgs
    exact ⟨x, Purpose.read_eq_ok_iff.mpr hx⟩
  have hread : IsReadable (.object fs) :=
    ⟨fs, rfl, ⟨sender, Sender.read_eq_ok_iff.mp hsender⟩, purpose, Purpose.read_eq_ok_iff.mp hpurpose⟩
  exact (Ends.skip (Drawing.ends_orTimestamp _) fun _ => .pure _).congr
    (iff_of_true trivial hread) (iff_of_false not_false hobject)

end Message

/-! ## conversations and failed steps -/

theorem Value.at_eq_ok_iff {fs : Fields} {key : String} {v : Value} :
    (Value.object fs).at key = .ok v ↔ Fields.get? fs key = some v := by
  unfold «at»
  dsimp only
  cases Fields.get? fs key with
  | none => simp
  | some w => simp

theorem Value.isObject_of_at {v w : Value} {key : String} (h : v.at key = .ok w) : v.IsObject := by
  cases v with
  | object fs => exact ⟨fs, rfl⟩
  | _ => cases h

/-- a key that is missing is passed over -/
theorem Value.isReadable_of_at {fs : Fields} {key : String} {e : Fault}
    (h : (Value.object fs).at key = .error e) : Transcript.isReadable e = true := by
  unfold «at» at h
  cases hv : Fields.get? fs key with
  | none =>
    simp only [hv] at h
    cases h
    rfl
  | some v =>
    simp only [hv] at h
    cases h

/-- a value without elements is not passed over -/
theorem Value.isReadable_of_elements {v : Value} {e : Fault} (h : v.elements = .error e) :
    Transcript.isReadable e = false := by
  unfold elements at h
  split at h <;> cases h
  rfl

namespace Conversation

/-- an object of which a conversation is read -/
def IsReadable (v : Value) : Prop :=
  ∃ fs, v = .object fs ∧ ∃ items,
    (Fields.getD fs "messages" (.list [])).elements = .ok items ∧ ∀ item ∈ items, Message.IsReadable item

/-- a value with a part of the wrong type: it is no object itself, its messages are nothing that has
elements, or one of them is no object while all those in front of it can be read -/
inductive Misshapen : Value → Prop where
  | noObject {v : Value} (h : ¬ v.IsObject) : Misshapen v
  | noElements {fs : Fields} {e : Fault}
      (h : (Fields.getD fs "messages" (.list [])).elements = .error e) : Misshapen (.object fs)
  | badItem {fs : Fields} {before : List Value} {item : Value} {after : List Value}
      (h : (Fields.getD fs "messages" (.list [])).elements = .ok (before ++ item :: after))
      (hbefore : ∀ v ∈ before, Message.IsReadable v) (hitem : ¬ item.IsObject) :
      Misshapen (.object fs)

theorem ends_read (v : Value) : Ends (IsReadable v) (Misshapen v) (read v) := by
  refine .fields (Exists.imp fun _ => And.left) .noObject fun fs hfs => ?_
  subst hfs
  refine .skip (Drawing.ends_orNewId _) fun id => ?_
  refine .skip (Drawing.ends_orTimestamp _) fun createdAt => ?_
  cases hitems : (Fields.getD fs "messages" (.list [])).elements with
  | error e =>
    refine .lift_error rfl ?_ (iff_of_true (Value.isReadable_of_elements hitems) (.noElements hitems))
    rintro ⟨_, hgs, items, h, -⟩
    cases hgs
    rw [h] at hitems
    cases hitems
  | ok items =>
    refine .lift_ok rfl (((Ends.mapM Message.ends_read items).bind fun _ => .pure _).congr ?_ ?_)
    · rw [and_true]
      constructor
      · exact fun h => ⟨fs, rfl, items, hitems, h⟩
      · rintro ⟨_, hgs, items', h, hread⟩
        cases hgs
        rw [h] at hitems
        exact Except.ok.inj hitems ▸ hread
    · rw [and_false, or_false]
      constructor
      · rintro ⟨before, item, after, rfl, hbefore, hitem⟩
        exact .badItem hitems hbefore hitem
      · rintro (h | h | ⟨h, hbefore, hitem⟩)
        · exact absurd ⟨fs, rfl⟩ h
        · rw [h] at hitems
          cases hitems
        · rw [h] at hitems
          exact ⟨_, _, _, (Except.ok.inj hitems).symm, hbefore, hitem⟩

end Conversation

namespace FailedStep

/-- an object of which a failed step is read -/
def IsReadable (v : Value) : Prop :=
  ∃ fs messageId prompt, ∃ sender : Sender, v = .object fs ∧
    Fields.get? fs "message_id" = some messageId ∧ Fields.get? fs "prompt" = some prompt ∧
    Fields.get? fs "sender" = some (.text sender.name)

theorem read_eq_ok_iff {v : Value} : (∃ s, read v = .ok s) ↔ IsReadable v := by
  constructor
  · rintro ⟨s, h⟩
    unfold read at h
    obtain ⟨messageId, hmessage, h⟩ := exists_of_bind_ok h
    obtain ⟨prompt, hprompt, h⟩ := exists_of_bind_ok h
    obtain ⟨value, hvalue, h⟩ := exists_of_bind_ok h
    obtain ⟨sender, hsender, -⟩ := exists_of_bind_ok h
    obtain ⟨fs, rfl⟩ := Value.isObject_of_at hmessage
    rw [Sender.read_eq_ok_iff.mp hsender] at hvalue
    exact ⟨fs, messageId, prompt, sender, rfl, Value.at_eq_ok_iff.mp hmessage,
      Value.at_eq_ok_iff.mp hprompt, Value.at_eq_ok_iff.mp hvalue⟩
  · rintro ⟨fs, messageId, prompt, sender, rfl, hmessage, hprompt, hsender⟩
    refine ⟨{ messageId, prompt, sender }, ?_⟩
    have hread (a : Sender → Except Fault FailedStep) :
        (Sender.read (.text sender.name) >>= a) = a sender := by
      rw [sender.read_name]
      rfl
    rw [read, Value.at_eq_ok_iff.mpr hmessage, Value.at_eq_ok_iff.mpr hprompt,
      Value.at_eq_ok_iff.mpr hsender]
    exact hread _

theorem isReadable_of_read {fs : Fields} {e : Fault} (h : read (.object fs) = .error e) :
    Transcript.isReadable e = true := by
  unfold read at h
  obtain h | ⟨_, -, h⟩ := of_bind_error h
  · exact Value.isReadable_of_at h
  obtain h | ⟨_, -, h⟩ := of_bind_error h
  · exact Value.isReadable_of_at h
  obtain h | ⟨_, -, h⟩ := of_bind_error h
  · exact Value.isReadable_of_at h
  obtain h | ⟨_, -, h⟩ := of_bind_error h
  · exact Sender.isReadable_of_read h
  · cases h

theorem ends_read (v : Value) : Ends (IsReadable v) (¬ v.IsObject) (liftM (read v)) := by
  refine (Ends.lift (read v)).congr read_eq_ok_iff ?_
  cases v with
  | object fs =>
    refine iff_of_false ?_ (not_not_intro ⟨fs, rfl⟩)
    rintro ⟨e, he, h⟩
    rw [isReadable_of_read he] at h
    cases h
  | _ =>
    refine iff_of_true ⟨_, rfl, rfl⟩ ?_
    rintro ⟨fs, hfs⟩
    cases hfs

end FailedStep

/-! ## saved runs -/

namespace Transcript

/-- an object of which a run is loaded -/
def IsLoadable (v : Value) : Prop :=
  ∃ fs, v = .object fs ∧ Conversation.IsReadable (Fields.getD fs "conversation" (.object [])) ∧
    ((Fields.getD fs "failed_step" .null).isVoid = true ∨
      FailedStep.IsReadable (Fields.getD fs "failed_step" .null))

/-- a value with a part of the wrong type: it is no object itself, its conversation is of the wrong
shape, or that can be read and the failed step is no object -/
inductive Misshapen : Value → Prop where
  | noObject {v : Value} (h : ¬ v.IsObject) : Misshapen v
  | conversation {fs : Fields}
      (h : Conversation.Misshapen (Fields.getD fs "conversation" (.object []))) :
      Misshapen (.object fs)
  | failedStep {fs : Fields}
      (hread : Conversation.IsReadable (Fields.getD fs "conversation" (.object [])))
      (hvoid : (Fields.getD fs "failed_step" .null).isVoid = false)
      (h : ¬ (Fields.getD fs "failed_step" .null).IsObject) : Misshapen (.object fs)

theorem ends_step (c : Conversation) (step : Value) :
    Ends (step.isVoid = true ∨ FailedStep.IsReadable step) (step.isVoid = false ∧ ¬ step.IsObject)
      (if step.isVoid then return { conversation := some c }
        else return { conversation := some c, failedStep := some (← FailedStep.read step) } :
        Drawing Loaded) := by
  cases step.isVoid with
  | true =>
    rw [if_pos rfl]
    exact (Ends.pure _).congr (iff_of_true trivial (.inl rfl)) (by simp)
  | false =>
    rw [if_neg Bool.false_ne_true]
    refine ((FailedStep.ends_read step).bind fun _ => .pure _).congr ?_ ?_
    · simp
    · simp

theorem ends_parts (v : Value) : Ends (IsLoadable v) (Misshapen v) (parts v) := by
  refine .fields (Exists.imp fun _ => And.left) .noObject fun fs hfs => ?_
  subst hfs
  refine ((Conversation.ends_read _).bind fun c => ends_step c _).congr ?_ ?_
  · constructor
    · exact fun h => ⟨fs, rfl, h⟩
    · rintro ⟨_, hgs, h⟩
      cases hgs
      exact h
  · constructor
    · rintro (h | ⟨hread, hvoid, h⟩)
      · exact .conversation h
      · exact .failedStep hread hvoid h
    · rintro (h | h | ⟨hread, hvoid, h⟩)
      · exact absurd ⟨fs, rfl⟩ h
      · exact .inl h
      · exact .inr ⟨hread, hvoid, h⟩

theorem exists_conversation_of_parts {v : Value} {u u' : Supply} {l : Loaded}
    (h : carriedOut (parts v) u = (.ok l, u')) : ∃ c, l.conversation = some c := by
  unfold parts at h
  obtain ⟨fs, u₁, -, h⟩ := exists_of_carriedOut_bind h
  obtain ⟨c, u₂, -, h⟩ := exists_of_carriedOut_bind h
  dsimp only at h
  split at h
  · cases h
    exact ⟨c, rfl⟩
  · obtain ⟨step, u₃, -, h⟩ := exists_of_carriedOut_bind h
    cases h
    exact ⟨c, rfl⟩

end Transcript

end Debate
