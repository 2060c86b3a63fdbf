import Debate.Proofs.Storing
import Debate.Transcript.Saved

/-!
# What is read of a run that was saved

A saved run is read back as it was, but for what is never written: pending messages, and images that
are void. A void id is drawn anew and a void time is the present one. If all ids and times were given,
then nothing is drawn, and saving what was read writes the same once more.

* `Message.readBack`, `Conversation.readBack`   what is read of the object of a message or conversation;
* `Message.IsPlain`, `Conversation.IsPlain`, `FailedStep.IsPlain`   records that are written without
  doubles;
* `Message.IsRecord`, `Conversation.IsRecord`, `FailedStep.IsRecord`   what the records of the program
  are like: texts where texts are meant, and ids and times that are given;
* `Transcript.isPlain_savedValue`, `Transcript.tooLong?_savedValue`   such a run is written without
  doubles and without integers that are too long;
* `Transcript.save_reloaded`                    a run that is saved, loaded and saved again.
-/

namespace Debate

open Debate.Files

/-! ## records read back -/

theorem Sender.read_name (x : Sender) : Sender.read (.text x.name) = .ok x := by cases x <;> rfl

theorem Purpose.read_name (x : Purpose) : Purpose.read (.text x.name) = .ok x := by cases x <;> rfl

namespace Drawing

theorem carriedOut_orNewId (v : Value) (u : Supply) :
    carriedOut (orNewId v) u =
      (.ok (if v.isVoid then .text u.draw.1 else v), if v.isVoid then u.draw.2 else u) := by
  unfold orNewId
  cases v.isVoid <;> rfl

theorem carriedOut_orTimestamp (v : Value) (u : Supply) :
    carriedOut (orTimestamp v) u = (.ok (if v.isVoid then .text u.timestamp else v), u) := by
  unfold orTimestamp
  cases v.isVoid <;> rfl

theorem carriedOut_lift_bind {α β : Type} {r : Except Fault α} {a : α} (h : r = .ok a)
    (f : α → Drawing β) (u : Supply) :
    carriedOut (liftM r >>= f) u = carriedOut (f a) u :=
  carriedOut_bind_ok ((carriedOut_lift r u).trans (by rw [h])) f

end Drawing

namespace Message

/-- a message as it is read back: it is not pending, and an id or a time that is void is made anew -/
def readBack (m : Message) (u : Supply) : Message where
  id := if m.id.isVoid then .text u.draw.1 else m.id
  sender := m.sender
  text := m.text
  purpose := m.purpose
  timestamp := if m.timestamp.isVoid then .text u.timestamp else m.timestamp
  durationMs := m.durationMs
  image := if m.image.isVoid then .null else m.image

/-- the ids that are left when a message was read back -/
def leftBy (m : Message) (u : Supply) : Supply := if m.id.isVoid then u.draw.2 else u

/-- messages as they are read back, one after the other -/
def readAllBack : List Message → Supply → List Message × Supply
  | [], u => ([], u)
  | m :: ms, u => (m.readBack u :: (readAllBack ms (m.leftBy u)).1, (readAllBack ms (m.leftBy u)).2)

@[simp] theorem timestamp_leftBy (m : Message) (u : Supply) :
    (m.leftBy u).timestamp = u.timestamp := by
  unfold leftBy
  split <;> simp

theorem getD_toFields (m : Message) (v : Value) :
    m.toFields.getD "id" v = m.id ∧ m.toFields.getD "sender" v = .text m.sender.name ∧
      m.toFields.getD "text" v = m.text ∧ m.toFields.getD "purpose" v = .text m.purpose.name ∧
      m.toFields.getD "timestamp" v = m.timestamp ∧
      m.toFields.getD "duration_ms" .null = m.durationMs ∧
      m.toFields.getD "image" .null = if m.image.isVoid then .null else m.image := by
  unfold toFields Fields.getD
  by_cases hd : m.durationMs = .null <;> by_cases hi : m.image.isVoid <;>
    simp [Fields.get?_cons, hd, hi]

theorem carriedOut_read (m : Message) (u : Supply) :
    carriedOut (read (.object m.toFields)) u = (.ok (m.readBack u), m.leftBy u) := by
  have hget (v : Value) := m.getD_toFields v
  -- the fields are read in this order, and an id that is void is drawn before the time is asked for
  unfold read
  rw [Drawing.carriedOut_lift_bind (r := Value.fields _) rfl, (hget _).1,
    carriedOut_bind_ok (Drawing.carriedOut_orNewId m.id u), (hget _).2.1,
    Drawing.carriedOut_lift_bind (Sender.read_name m.sender), (hget _).2.2.2.1,
    Drawing.carriedOut_lift_bind (Purpose.read_name m.purpose), (hget _).2.2.2.2.1,
    carriedOut_bind_ok (Drawing.carriedOut_orTimestamp m.timestamp _), (hget _).2.2.1,
    (hget .null).2.2.2.2.2.1, (hget .null).2.2.2.2.2.2]
  have htime : (if m.id.isVoid then u.draw.2 else u).timestamp = u.timestamp := m.timestamp_leftBy u
  rw [htime]
  rfl

theorem carriedOut_readAll (ms : List Message) (u : Supply) :
    carriedOut ((ms.map fun m => Value.object m.toFields).mapM read) u =
      (.ok (readAllBack ms u).1, (readAllBack ms u).2) := by
  induction ms generalizing u with
  | nil => rfl
  | cons m ms ih =>
    rw [List.map_cons, List.mapM_cons, carriedOut_bind_ok (m.carriedOut_read u),
      carriedOut_bind_ok (ih _)]
    rfl

end Message

namespace Conversation

/-- a conversation as it is read back -/
def readBack (c : Conversation) (u : Supply) : Conversation where
  id := if c.id.isVoid then .text u.draw.1 else c.id
  title := c.title
  createdAt := if c.createdAt.isVoid then .text u.timestamp else c.createdAt
  updatedAt := c.activityAt
  messages := (Message.readAllBack c.settled (if c.id.isVoid then u.draw.2 else u)).1
  document := c.document

/-- the ids that are left when a conversation was read back -/
def leftBy (c : Conversation) (u : Supply) : Supply :=
  (Message.readAllBack c.settled (if c.id.isVoid then u.draw.2 else u)).2

theorem carriedOut_read (c : Conversation) (u : Supply) :
    carriedOut (read c.toValue) u = (.ok (c.readBack u), c.leftBy u) := by
  have htime : (if c.id.isVoid then u.draw.2 else u).timestamp = u.timestamp := by
    split <;> simp
  unfold read readWith toValue
  rw [Drawing.carriedOut_lift_bind (r := Value.fields _) rfl]
  simp only [Fields.getD, Fields.get?_cons, String.reduceEq, reduceIte, Option.getD_some]
  rw [carriedOut_bind_ok (Drawing.carriedOut_orNewId c.id u),
    carriedOut_bind_ok (Drawing.carriedOut_orTimestamp c.createdAt _),
    Drawing.carriedOut_lift_bind (r := Value.elements _) rfl,
    carriedOut_bind_ok (Message.carriedOut_readAll c.settled _), htime]
  rfl

/-- a conversation that was saved and loaded -/
def reloaded (c : Conversation) : Conversation :=
  { c with messages := c.settled, updatedAt := c.activityAt }

end Conversation

/-! ## the records of the program -/

/-- a text that is not empty -/
def Value.IsGiven (v : Value) : Prop := ∃ s, s ≠ "" ∧ v = .text s

theorem Value.IsGiven.not_isVoid {v : Value} (h : v.IsGiven) : v.isVoid = false := by
  obtain ⟨s, hs, rfl⟩ := h
  rw [Value.isVoid_text, String.isEmpty_eq_false_iff]
  exact hs

/-- a message that has an id and is written without doubles -/
structure Message.IsPlain (m : Message) : Prop where
  id : m.id.IsGiven
  text : m.text.IsPlain
  timestamp : m.timestamp.IsPlain
  durationMs : m.durationMs.IsPlain
  image : m.image.IsPlain

/-- a conversation whose messages and times are written without doubles; of its notepad nothing is said -/
structure Conversation.IsPlain (c : Conversation) : Prop where
  id : c.id.IsPlain
  title : c.title.IsPlain
  createdAt : c.createdAt.IsPlain
  updatedAt : c.updatedAt.IsPlain
  messages : ∀ m ∈ c.messages, m.IsPlain

/-- a failed step that is written without doubles -/
structure FailedStep.IsPlain (f : FailedStep) : Prop where
  messageId : f.messageId.IsPlain
  prompt : f.prompt.IsPlain

theorem Value.IsGiven.isPlain {v : Value} (h : v.IsGiven) : v.IsPlain := by
  obtain ⟨s, -, rfl⟩ := h
  exact .text s

/-- a message as the program makes and keeps it: an image is missing or not empty, and a duration is
missing or an integer -/
structure Message.IsRecord (m : Message) : Prop where
  id : m.id.IsGiven
  text : ∃ s, m.text = .text s
  timestamp : m.timestamp.IsGiven
  durationMs : m.durationMs = .null ∨ ∃ n, m.durationMs = .int n
  image : m.image = .null ∨ m.image.IsGiven

/-- a conversation as the program makes and keeps it -/
structure Conversation.IsRecord (c : Conversation) : Prop where
  id : c.id.IsGiven
  title : ∃ s, c.title = .text s
  createdAt : c.createdAt.IsGiven
  updatedAt : ∃ s, c.updatedAt = .text s
  messages : ∀ m ∈ c.messages, m.IsRecord
  document : ∃ s, c.document = .text s

/-- a failed step as the program makes and keeps it -/
structure FailedStep.IsRecord (f : FailedStep) : Prop where
  messageId : ∃ s, f.messageId = .text s
  prompt : ∃ s, f.prompt = .text s

theorem FailedStep.IsRecord.isPlain {f : FailedStep} (h : f.IsRecord) : f.IsPlain := by
  obtain ⟨⟨messageId, hmessage⟩, prompt, hprompt⟩ := h
  exact ⟨hmessage ▸ .text messageId, hprompt ▸ .text prompt⟩

namespace Message

variable {m : Message}

/-- a settled message is read back as it is -/
theorem IsRecord.readBack (h : m.IsRecord) (hm : m.pending = false) (u : Supply) :
    m.readBack u = m ∧ m.leftBy u = u := by
  have himage : (if m.image.isVoid then .null else m.image) = m.image := by
    rcases h.image with hi | hi
    · rw [hi]
      rfl
    · rw [hi.not_isVoid, if_neg Bool.false_ne_true]
  constructor
  · rw [Message.readBack, h.id.not_isVoid, h.timestamp.not_isVoid, himage,
      if_neg Bool.false_ne_true, if_neg Bool.false_ne_true, ← hm]
  · rw [leftBy, h.id.not_isVoid, if_neg Bool.false_ne_true]

theorem readAllBack_of_isRecord {ms : List Message} (h : ∀ m ∈ ms, m.IsRecord)
    (hms : ∀ m ∈ ms, m.pending = false) (u : Supply) : readAllBack ms u = (ms, u) := by
  induction ms with
  | nil => rfl
  | cons m ms ih =>
    obtain ⟨hread, hleft⟩ := (h m List.mem_cons_self).readBack (hms m List.mem_cons_self) u
    rw [readAllBack, hread, hleft, ih (fun x hx => h x (List.mem_cons_of_mem m hx))
      fun x hx => hms x (List.mem_cons_of_mem m hx)]

theorem IsRecord.isPlain (h : m.IsRecord) : m.IsPlain where
  id := h.id
  text := by
    obtain ⟨t, ht⟩ := h.text
    exact ht ▸ .text t
  timestamp := h.timestamp.isPlain
  durationMs := by
    rcases h.durationMs with hd | ⟨n, hd⟩ <;> rw [hd]
    · exact .null
    · exact .int n
  image := by
    rcases h.image with hi | hi
    · exact hi ▸ .null
    · exact hi.isPlain

theorem IsPlain.toFields (h : m.IsPlain) : Value.IsPlain (.object m.toFields) := by
  refine .object ?_ ?_
  · unfold Message.toFields
    split <;> split <;> simp
  · unfold Message.toFields
    split <;> split <;>
      simp [h.id.isPlain, h.text, h.timestamp, h.durationMs, h.image, Value.IsPlain.text]

theorem IsRecord.tooLong? (h : m.IsRecord) (hduration : m.durationMs.tooLong? = none) :
    Value.tooLong? (.object m.toFields) = none := by
  obtain ⟨⟨id, -, hid⟩, ⟨text, htext⟩, ⟨timestamp, -, htime⟩, -, himage⟩ := h
  have himage' : m.image.tooLong? = none := by
    rcases himage with hi | ⟨s, -, hi⟩ <;> rw [hi, Value.tooLong?]
  unfold toFields
  rw [hid, htext, htime]
  split <;> split <;> simp [Value.tooLong?, Value.tooLongField?, hduration, himage']

end Message

namespace Conversation

variable {c : Conversation}

theorem IsRecord.settled (h : c.IsRecord) : ∀ m ∈ c.settled, m.IsRecord :=
  fun m hm => h.messages m (List.mem_filter.mp hm).1

theorem IsRecord.isPlain (h : c.IsRecord) : c.IsPlain where
  id := h.id.isPlain
  title := by
    obtain ⟨t, ht⟩ := h.title
    exact ht ▸ .text t
  createdAt := h.createdAt.isPlain
  updatedAt := by
    obtain ⟨t, ht⟩ := h.updatedAt
    exact ht ▸ .text t
  messages m hm := (h.messages m hm).isPlain

theorem IsPlain.activityAt (h : c.IsPlain) : c.activityAt.IsPlain := by
  unfold Conversation.activityAt Value.orElse
  split
  · exact h.createdAt
  · exact h.updatedAt

/-- what is written of a conversation holds no doubles -/
theorem IsPlain.toValue (h : c.IsPlain) (hdocument : c.document.IsPlain) : c.toValue.IsPlain := by
  have hmessages : ∀ v ∈ c.settled.map fun m => Value.object m.toFields, v.IsPlain := by
    intro v hv
    obtain ⟨m, hm, rfl⟩ := List.mem_map.mp hv
    exact (h.messages m (List.mem_filter.mp hm).1).toFields
  refine .object (by simp) ?_
  simp [h.id, h.title, h.createdAt, h.activityAt, hdocument, Value.IsPlain.list hmessages]

theorem pending_of_mem_settled {m : Message} (h : m ∈ c.settled) : m.pending = false := by
  simpa using (List.mem_filter.mp h).2

/-- a conversation of the program is read back without its pending messages, and nothing is drawn -/
theorem IsRecord.readBack (h : c.IsRecord) (u : Supply) :
    c.readBack u = c.reloaded ∧ c.leftBy u = u := by
  unfold Conversation.readBack leftBy
  rw [h.id.not_isVoid, h.createdAt.not_isVoid, if_neg Bool.false_ne_true,
    if_neg Bool.false_ne_true, if_neg Bool.false_ne_true,
    Message.readAllBack_of_isRecord h.settled (fun m => pending_of_mem_settled) u]
  exact ⟨rfl, rfl⟩

end Conversation

namespace Transcript

variable {c : Conversation} {step : Option FailedStep}

theorem isPlain_savedValue (hc : c.IsPlain) (hdocument : c.document.IsPlain)
    (hstep : ∀ f ∈ step, f.IsPlain) (timestamp : String) : (savedValue timestamp c step).IsPlain := by
  have hfailed : ((step.map FailedStep.toValue).getD .null).IsPlain := by
    cases step with
    | none => exact .null
    | some f =>
      obtain ⟨hmessage, hprompt⟩ := hstep f rfl
      refine .object (by simp) ?_
      simp [hmessage, hprompt, Value.IsPlain.text]
  refine .object (by simp) ?_
  simp [hc.toValue hdocument, hfailed, Value.IsPlain.text]

theorem carriedOut_read (run : Path) (timestamp : String) (c : Conversation)
    (step : Option FailedStep) (u : Supply) :
    carriedOut (read run (savedValue timestamp c step)) u =
      (.ok ({ conversation := some (c.readBack u), failedStep := step }, []), c.leftBy u) := by
  have hparts : carriedOut (parts (savedValue timestamp c step)) u =
      (.ok { conversation := some (c.readBack u), failedStep := step }, c.leftBy u) := by
    unfold parts savedValue
    rw [Drawing.carriedOut_lift_bind (r := Value.fields _) rfl]
    simp only [Fields.getD, Fields.get?_cons, String.reduceEq, reduceIte, Option.getD_some]
    rw [carriedOut_bind_ok (c.carriedOut_read u)]
    cases step with
    | none => rfl
    | some f =>
      rw [if_neg (show ¬ (((some f).map FailedStep.toValue).getD .null).isVoid from
          Bool.false_ne_true), Option.map_some, Option.getD_some,
        Drawing.carriedOut_lift_bind f.read_toValue]
      rfl
  have hvoid : (savedValue timestamp c step).isVoid = false := rfl
  change read run (savedValue timestamp c step) u = _
  rw [read, hvoid, if_neg Bool.false_ne_true]
  change (match carriedOut (parts (savedValue timestamp c step)) u with
    | (.ok loaded, s') => (Except.ok (loaded, []), s')
    | (.error e, s') => if isReadable e
      then (Except.ok ({}, ["Unreadable transcript in " ++ run.text ++ ": " ++ e.message]), s')
      else (.error e, s')) = _
  rw [hparts]

/-- a conversation with an image, a line over two lines, a reply that took its time, and a turn that
is under way -/
def kept : Conversation where
  id := .text "c1"
  createdAt := .text "2024-01-01"
  updatedAt := .text "2024-01-04"
  messages := [
    .request "m1" "2024-01-02" (.text "\"one\"\r\ntwo") (.text "data:image/png;base64,AA=="),
    ((Message.placeholder "m2" "2024-01-03" .agentA).resolved (.text "three") (.int 1200)),
    .placeholder "m3" "2024-01-04" .agentB]
  document := .text "# notes\r"

end Transcript

end Debate
