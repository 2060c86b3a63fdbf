import Debate.CommandLine.Session
import Debate.Proofs.Misreading

/-!
# What a run is loaded from

The file of a conversation may hold any bytes. Some of them end in a fault when the run is gone on with:
bytes that are no text, an integer that is too long to be read, a record with a part of the wrong type.
With any other content, and without a file, there is no fault; then a conversation is loaded, or neither
a conversation nor a failed step.

* `Transcript.Loads`           what loading a run comes to;
* `Transcript.Loadable`, `Transcript.Unloadable`   bytes that a run is loaded from, and bytes that end in a
  fault;
* `Tree.Holds`                 what a file holds, if it is there;
* `Session.loads_resumeSaved`  what becomes of a run that is gone on with.
-/

namespace Debate

open Debate.Files Debate.Text

namespace Transcript

/-- what loading a run comes to: a fault exactly if the run is spoiled, a conversation exactly if it is
loadable, and neither a conversation nor a failed step otherwise -/
structure Loads (spoiled loadable : Prop) (r : Except Fault Loaded) : Prop where
  fault : (∃ e, r = .error e) ↔ spoiled
  conversation : (∃ l c, r = .ok l ∧ l.conversation = some c) ↔ loadable
  nothing : ∀ l, r = .ok l → l.conversation = none → l = {}

namespace Loads

variable {spoiled loadable : Prop}

theorem of_error (hspoiled : spoiled) (hloadable : ¬ loadable) (e : Fault) :
    Loads spoiled loadable (.error e) where
  fault := iff_of_true ⟨e, rfl⟩ hspoiled
  conversation := iff_of_false (by rintro ⟨l, c, h, -⟩; cases h) hloadable
  nothing l h := by cases h

theorem of_conversation (hspoiled : ¬ spoiled) (hloadable : loadable) {l : Loaded} {c : Conversation}
    (hc : l.conversation = some c) : Loads spoiled loadable (.ok l) where
  fault := iff_of_false (by rintro ⟨e, h⟩; cases h) hspoiled
  conversation := iff_of_true ⟨l, c, rfl, hc⟩ hloadable
  nothing l' h hnone := by
    cases h
    rw [hnone] at hc
    cases hc

theorem of_nothing (hspoiled : ¬ spoiled) (hloadable : ¬ loadable) :
    Loads spoiled loadable (.ok {}) where
  fault := iff_of_false (by rintro ⟨e, h⟩; cases h) hspoiled
  conversation := iff_of_false (by rintro ⟨l, c, h, hc⟩; cases h; cases hc) hloadable
  nothing l h _ := (Except.ok.inj h).symm

theorem congr {spoiled' loadable' : Prop} {r : Except Fault Loaded} (h : Loads spoiled loadable r)
    (hspoiled : spoiled ↔ spoiled') (hloadable : loadable ↔ loadable') :
    Loads spoiled' loadable' r :=
  ⟨h.fault.trans hspoiled, h.conversation.trans hloadable, h.nothing⟩

end Loads

/-- a run is passed over if a fault of its parts is one that may be -/
theorem loads_read {v : Value} (hv : v.isVoid = false) (run : Path) (u : Supply) :
    Loads (Misshapen v) (IsLoadable v) ((carriedOut (read run v) u).1.map Prod.fst) := by
  have hfine := (ends_parts v).fine u
  have hspoiled := (ends_parts v).spoiled u
  change Loads _ _ ((read run v u).1.map Prod.fst)
  rw [read, hv, if_neg Bool.false_ne_true]
  rcases hr : carriedOut (parts v) u with ⟨e | l, u'⟩ <;> rw [hr] at hfine hspoiled
  · have hrun : ExceptT.run (parts v) u = (.error e, u') := hr
    have hloadable : ¬ IsLoadable v := fun h => by
      obtain ⟨l, hl⟩ := hfine.mpr h
      cases hl
    rw [hrun]
    dsimp only
    split
    · rename_i hpassed
      refine .of_nothing (fun h => ?_) hloadable
      obtain ⟨_, he, hnot⟩ := hspoiled.mpr h
      cases he
      rw [hpassed] at hnot
      cases hnot
    · rename_i hpassed
      exact .of_error (hspoiled.mp ⟨e, rfl, Bool.eq_false_iff.mpr hpassed⟩) hloadable e
  · have hrun : ExceptT.run (parts v) u = (.ok l, u') := hr
    obtain ⟨c, hc⟩ := exists_conversation_of_parts hr
    rw [hrun]
    refine .of_conversation (fun h => ?_) (hfine.mp ⟨l, rfl⟩) hc
    obtain ⟨_, he, -⟩ := hspoiled.mpr h
    cases he

/-! ## files -/

/-- bytes that a run is loaded from -/
def Loadable (bytes : List UInt8) : Prop :=
  ∃ text v, Disk.textOf bytes = .ok text ∧ Value.ofJson text = .ok v ∧ v.isVoid = false ∧ IsLoadable v

/-- bytes that no run can be loaded from: they are no text, their text has an integer that is too long, or
it is a record with a part of the wrong type -/
inductive Unloadable (bytes : List UInt8) : Prop where
  | notText (h : Utf8.decode? bytes = none)
  | hugeInteger {text : String} {digits : Nat} (htext : Disk.textOf bytes = .ok text)
      (h : Value.ofJson text = .error (.hugeInteger digits))
  | misshapen {text : String} {v : Value} (htext : Disk.textOf bytes = .ok text)
      (hv : Value.ofJson text = .ok v) (hvoid : v.isVoid = false) (h : Misshapen v)

variable {bytes : List UInt8} {text : String}

theorem decode?_eq_none_iff : Utf8.decode? bytes = none ↔ ∃ e, Disk.textOf bytes = .error e := by
  unfold Disk.textOf
  cases Utf8.decode? bytes <;> simp

theorem loadable_iff (htext : Disk.textOf bytes = .ok text) :
    Loadable bytes ↔ ∃ v, Value.ofJson text = .ok v ∧ v.isVoid = false ∧ IsLoadable v := by
  constructor
  · rintro ⟨text', v, htext', h⟩
    rw [htext] at htext'
    exact ⟨v, Except.ok.inj htext' ▸ h⟩
  · rintro ⟨v, h⟩
    exact ⟨text, v, htext, h⟩

theorem unloadable_iff (htext : Disk.textOf bytes = .ok text) :
    Unloadable bytes ↔ (∃ n, Value.ofJson text = .error (.hugeInteger n)) ∨
      ∃ v, Value.ofJson text = .ok v ∧ v.isVoid = false ∧ Misshapen v := by
  constructor
  · rintro (h | ⟨htext', h⟩ | ⟨htext', hv, hvoid, h⟩)
    · obtain ⟨e, he⟩ := decode?_eq_none_iff.mp h
      rw [htext] at he
      cases he
    · rw [htext] at htext'
      cases htext'
      exact .inl ⟨_, h⟩
    · rw [htext] at htext'
      cases htext'
      exact .inr ⟨_, hv, hvoid, h⟩
  · rintro (⟨n, h⟩ | ⟨v, hv, hvoid, h⟩)
    · exact .hugeInteger htext h
    · exact .misshapen htext hv hvoid h

end Transcript

namespace Files

/-- the bytes at a path of a tree, or that there is no file -/
inductive Tree.Holds (t : Tree) (p : Path) : Option (List UInt8) → Prop where
  | absent (h : t.stat p = .error .missing ∨ t.stat p = .error .notDirectory) : Holds t p none
  | file {bytes : List UInt8} (hp : Disk.isUnspeakable p = false) (h : t.stat p = .ok (.file bytes)) :
      Holds t p (some bytes)

namespace Disk

variable {p : Path} {d : Disk}

theorem carriedOut_readRecord_absent
    (h : d.tree.stat p = .error .missing ∨ d.tree.stat p = .error .notDirectory) :
    carriedOut (readRecord p) d = (.ok .absent, d) := by
  have hexists : carriedOut («exists» p) d = (.ok false, d) := by
    unfold «exists»
    split
    · rfl
    · rw [look, carriedOut_bind_ok (carriedOut_get d), exists?]
      rcases h with h | h <;> rw [h] <;> rfl
  rw [readRecord, carriedOut_bind_ok hexists]
  rfl

def storedOf (text : String) : Except Fault Stored :=
  match Value.ofJson text with
  | .ok v => .ok (.value v)
  | .error .malformed => .ok .malformed
  | .error (.hugeInteger n) => .error (.badValue (Value.hugeIntegerText n))

/-- what is read of a file: its text first, then the record -/
theorem carriedOut_readRecord_file {bytes : List UInt8} (hp : isUnspeakable p = false)
    (h : d.tree.stat p = .ok (.file bytes)) :
    carriedOut (readRecord p) d = (textOf bytes >>= storedOf, d) := by
  have hread : carriedOut (readPresent p) d = (textOf bytes, d) := by
    rw [readPresent, carriedOut_bind_ok (carriedOut_read hp h), carriedOut_lift]
  rw [readRecord, carriedOut_bind_ok (carriedOut_exists hp h), if_pos rfl]
  cases htext : textOf bytes with
  | error e => exact carriedOut_bind_error (hread.trans (by rw [htext])) _
  | ok text =>
    rw [carriedOut_bind_ok (hread.trans (by rw [htext]))]
    change _ = (storedOf text, d)
    unfold storedOf
    cases Value.ofJson text with
    | ok v => rfl
    | error e => cases e <;> rfl

end Disk

end Files

namespace CommandLine.Session

open Transcript

variable {run : Path} {s : Session}

theorem resumeSaved_error {e : Fault} {d : Disk}
    (h : carriedOut (loadValue run) s.desk.disk = (.error e, d)) :
    (carriedOut (resumeSaved run) s).1 = .error e := by
  have hload : carriedOut (onDisk (loadValue run)) s =
      ((carriedOut (loadValue run) s.desk.disk).1,
        { s with desk := { s.desk with disk := (carriedOut (loadValue run) s.desk.disk).2 } }) := rfl
  rw [h] at hload
  rw [resumeSaved, carriedOut_bind_error hload]

theorem resumeSaved_ok {v : Value} {ws : List String} {d : Disk}
    (h : carriedOut (loadValue run) s.desk.disk = (.ok (v, ws), d)) :
    (carriedOut (resumeSaved run) s).1 =
      (carriedOut (Transcript.read run v) s.supply).1.map Prod.fst := by
  have hload : carriedOut (onDisk (loadValue run)) s =
      ((carriedOut (loadValue run) s.desk.disk).1,
        { s with desk := { s.desk with disk := (carriedOut (loadValue run) s.desk.disk).2 } }) := rfl
  rw [h] at hload
  -- the warnings of the file change nothing that the value is read with
  let s₁ := (note (ws.map (.log .warning)) { s with desk := { s.desk with disk := d } }).2
  have hnote : carriedOut (note (ws.map (.log .warning)))
      { s with desk := { s.desk with disk := d } } = (.ok (), s₁) := rfl
  have hdraw : carriedOut (draw (Transcript.read run v)) s₁ =
      ((carriedOut (Transcript.read run v) s.supply).1,
        { s₁ with supply := (carriedOut (Transcript.read run v) s.supply).2 }) := rfl
  rw [resumeSaved, carriedOut_bind_ok hload]
  dsimp only
  rw [carriedOut_bind_ok hnote]
  rcases hr : carriedOut (Transcript.read run v) s.supply with ⟨e | ⟨l, ws'⟩, u⟩ <;> rw [hr] at hdraw
  · rw [carriedOut_bind_error hdraw]
    rfl
  · rw [carriedOut_bind_ok hdraw]
    rfl

/-- a value in the file that counts as absent is passed over in silence -/
theorem loads_resumeSaved_value {v : Value} {ws : List String} {d : Disk}
    (h : carriedOut (loadValue run) s.desk.disk = (.ok (v, ws), d)) :
    Loads (v.isVoid = false ∧ Misshapen v) (v.isVoid = false ∧ IsLoadable v)
      (carriedOut (resumeSaved run) s).1 := by
  rw [resumeSaved_ok h]
  cases hv : v.isVoid with
  | true =>
    have hread : carriedOut (Transcript.read run v) s.supply = (.ok ({}, []), s.supply) := by
      change Transcript.read run v s.supply = _
      rw [Transcript.read, hv, if_pos rfl]
    rw [hread]
    exact .of_nothing (by simp) (by simp)
  | false => exact (loads_read hv run s.supply).congr (by simp) (by simp)

theorem loads_resumeSaved_file {bytes : List UInt8}
    (hp : Disk.isUnspeakable (conversationPath run) = false)
    (h : s.desk.disk.tree.stat (conversationPath run) = .ok (.file bytes)) :
    Loads (Unloadable bytes) (Loadable bytes) (carriedOut (resumeSaved run) s).1 := by
  have hread := Disk.carriedOut_readRecord_file hp h
  cases htext : Disk.textOf bytes with
  | error e =>
    rw [htext] at hread
    rw [resumeSaved_error (carriedOut_bind_error hread _)]
    refine .of_error (.notText (decode?_eq_none_iff.mpr ⟨e, htext⟩)) ?_ e
    rintro ⟨text, v, h, -⟩
    rw [htext] at h
    cases h
  | ok text =>
    rw [htext] at hread
    change _ = (Disk.storedOf text, _) at hread
    unfold Disk.storedOf at hread
    cases hv : Value.ofJson text with
    | error e =>
      have hloadable : ¬ Loadable bytes := by simp [loadable_iff htext, hv]
      rw [hv] at hread
      cases e with
      | malformed =>
        have hload := loads_resumeSaved_value (v := .null) (carriedOut_bind_ok hread _)
        exact hload.congr (by simp [unloadable_iff htext, hv]) (by simp [hloadable])
      | hugeInteger n =>
        rw [resumeSaved_error (carriedOut_bind_error hread _)]
        exact .of_error (.hugeInteger htext hv) hloadable _
    | ok v =>
      rw [hv] at hread
      have hload := loads_resumeSaved_value (carriedOut_bind_ok hread _)
      exact hload.congr (by simp [unloadable_iff htext, hv]) (by simp [loadable_iff htext, hv])

/-- what becomes of a run that is gone on with, for every content of its file -/
theorem loads_resumeSaved {stored : Option (List UInt8)}
    (h : s.desk.disk.tree.Holds (conversationPath run) stored) :
    Loads (∃ bytes, stored = some bytes ∧ Unloadable bytes)
      (∃ bytes, stored = some bytes ∧ Loadable bytes) (carriedOut (resumeSaved run) s).1 := by
  cases h with
  | absent h =>
    have hload : carriedOut (loadValue run) s.desk.disk = (.ok (.null, []), s.desk.disk) := by
      rw [loadValue, Disk.readRecordOr, carriedOut_bind_ok (Disk.carriedOut_readRecord_absent h)]
      rfl
    exact (loads_resumeSaved_value hload).congr (by simp) (by simp)
  | file hp h => exact (loads_resumeSaved_file hp h).congr (by simp) (by simp)

/-- a session that finds bytes in the file of the conversation -/
def holding (bytes : List UInt8) : Session where
  desk := { disk := { tree := ⟨[(["run"], .directory true),
    (["run", "conversation.json"], .file bytes)]⟩ } }
  supply := { idOf := fun k => String.ofList (List.replicate (k + 1) 'i'), now := ⟨0, 0⟩ }

theorem holds_holding (bytes : List UInt8) :
    (holding bytes).desk.disk.tree.Holds (conversationPath { names := ["run"] }) (some bytes) :=
  .file (by decide) rfl

/-- a conversation whose second message is a number -/
def numbered : String := "\x7b\"conversation\": \x7b\"messages\": [\x7b\x7d, 5]\x7d\x7d"

/-- the first message can be read, and the second one is no object -/
theorem loads_resumeSaved_numbered :
    ∃ e, (carriedOut (resumeSaved { names := ["run"] }) (holding (Utf8.encode numbered))).1 = .error e := by
  have htext : Disk.textOf (Utf8.encode numbered) = .ok numbered := Disk.textOf_encode (by decide)
  have hvalue : Value.ofJson numbered = .ok (.object [("conversation",
      .object [("messages", .list [.object [], .int 5])])]) := by decide +kernel
  have hfirst : ∀ v ∈ [Value.object []], Message.IsReadable v := by
    rintro v hv
    rw [List.mem_singleton.mp hv]
    exact ⟨[], rfl, ⟨.system, rfl⟩, .systemNotice, rfl⟩
  have hsecond : ¬ (Value.int 5).IsObject := by
    rintro ⟨fs, h⟩
    cases h
  have hitems : (Value.list [.object [], .int 5]).elements = .ok ([.object []] ++ .int 5 :: []) := rfl
  exact (loads_resumeSaved (holds_holding _)).fault.mpr
    ⟨_, rfl, .misshapen htext hvalue rfl (.conversation (.badItem hitems hfirst hsecond))⟩

/-- a file may hold what no run is loaded from without a fault: a byte that begins no text -/
theorem not_forall_resumeSaved_ok :
    ¬ ∀ (s : Session) (stored : Option (List UInt8)),
      s.desk.disk.tree.Holds (conversationPath { names := ["run"] }) stored →
      ∃ l, (carriedOut (resumeSaved { names := ["run"] }) s).1 = .ok l := by
  intro h
  have hfault : (carriedOut (resumeSaved { names := ["run"] }) (holding [255])).1 = .error .notText := by
    decide +kernel
  obtain ⟨l, hl⟩ := h (holding [255]) (some [255]) (holds_holding _)
  rw [hfault] at hl
  cases hl

end CommandLine.Session

end Debate
