import Debate.Proofs.Looking
import Debate.Provider.Reply

/-!
# Answers of services

A response may be a value of any shape, and may be cut short, an error, or no value at all. A text comes of it
only if every value on the way to the text has the type that it is taken for, or counts as absent. A
failure of the service comes of it only if the exchange failed, or the service says that it blocked the
response. Whatever else comes back ends in another fault, or is handed over without being a text.

* `Arrival.Holds`, `Arrival.Fails`   exchanges that bring a value, and exchanges that fail;
* `OpenAI.Says`, `Ollama.Says`, `Gemini.Says`   responses that hold a text;
* `Gemini.Blocks`                responses that are blocked;
* `Lists`, `listing_eq_texts`    responses that list items of a kind, and when texts are listed;
* `OpenAI.Names`, `Gemini.Names`   items with texts for names;
* `Provider.outcome_iff`         what comes of asking a service, for all of them.
-/

namespace Debate

open Debate.Number

variable {α β : Type}

/-! ## what comes back -/

namespace Arrival

/-- a value comes back: the status is none of an error, and the value is the body -/
def Holds (a : Arrival) (v : Value) : Prop := ∃ status body, a = .answered status v body ∧ status < 400

/-- the exchange fails: nothing comes back, or the status of an error, with a body in which its wording can
be looked for -/
def Fails : Arrival → Prop
  | .answered status _ body => 400 ≤ status ∧ ∀ n, Value.ofJson body ≠ .error (.hugeInteger n)
  | .broken _ | .timedOut => True
  | .undecodable _ | .interrupted => False

end Arrival

namespace HttpResponse

theorem exists_detail (status : Int) {body : String}
    (h : ∀ n, Value.ofJson body ≠ .error (.hugeInteger n)) :
    ∃ text, detail status body = .ok text := by
  unfold detail
  split
  · exact ⟨_, rfl⟩
  · rename_i n hhuge
    exact absurd hhuge (h n)
  · split <;> exact ⟨_, rfl⟩

theorem detail_of_hugeInteger {status : Int} {n : Nat} {body : String}
    (h : Value.ofJson body = .error (.hugeInteger n)) :
    detail status body = .error (.badValue (Value.hugeIntegerText n)) := by
  rw [detail, h]

theorem read_eq_ok {service : String} {a : Arrival} {v : Value} :
    read service a = .ok v ↔ a.Holds v := by
  constructor
  · intro h
    cases a with
    | answered status json body =>
      rw [read] at h
      split at h
      · split at h <;> exact nomatch h
      · rename_i hstatus
        exact ⟨status, body, by rw [Except.ok.inj h], Int.not_le.mp hstatus⟩
    | undecodable text => exact nomatch h
    | broken text => exact nomatch h
    | timedOut => exact nomatch h
    | interrupted => exact nomatch h
  · rintro ⟨status, body, rfl, hstatus⟩
    rw [read, if_neg (Int.not_le.mpr hstatus)]

theorem read_fails {service : String} {a : Arrival} :
    (∃ m, read service a = .error (.provider m)) ↔ a.Fails := by
  cases a with
  | answered status json body =>
    constructor
    · rintro ⟨m, h⟩
      rw [read] at h
      split at h
      · rename_i hstatus
        refine ⟨hstatus, fun n hhuge => ?_⟩
        rw [detail_of_hugeInteger hhuge] at h
        exact nomatch h
      · exact nomatch h
    · rintro ⟨hstatus, hplain⟩
      obtain ⟨text, htext⟩ := exists_detail status hplain
      rw [read, if_pos hstatus, htext]
      exact ⟨_, rfl⟩
  | undecodable text => exact iff_of_false (fun ⟨_, h⟩ => nomatch h) not_false
  | broken text => exact iff_of_true ⟨_, rfl⟩ trivial
  | timedOut => exact iff_of_true ⟨_, rfl⟩ trivial
  | interrupted => exact iff_of_false (fun ⟨_, h⟩ => nomatch h) not_false

variable {service : String} {a : Arrival} {f : Value → Except Fault α}

theorem read_bind_eq_ok {r : α} :
    (read service a).bind f = .ok r ↔ ∃ v, a.Holds v ∧ f v = .ok r := by
  constructor
  · intro h
    obtain ⟨v, hv, h⟩ := exists_of_bind_ok h
    exact ⟨v, read_eq_ok.mp hv, h⟩
  · rintro ⟨v, hv, h⟩
    rw [read_eq_ok.mpr hv]
    exact h

theorem read_bind_fails :
    (∃ m, (read service a).bind f = .error (.provider m)) ↔
      a.Fails ∨ ∃ v, a.Holds v ∧ ∃ m, f v = .error (.provider m) := by
  constructor
  · rintro ⟨m, h⟩
    obtain h | ⟨v, hv, h⟩ := of_bind_error h
    · exact .inl (read_fails.mp ⟨m, h⟩)
    · exact .inr ⟨v, read_eq_ok.mp hv, m, h⟩
  · rintro (h | ⟨v, hv, m, h⟩)
    · obtain ⟨m, hm⟩ := read_fails.mpr h
      rw [hm]
      exact ⟨m, rfl⟩
    · rw [read_eq_ok.mpr hv]
      exact ⟨m, h⟩

theorem exists_read_bind_eq_ok {ι : Type} {r : ι → α} :
    (∃ i, (read service a).bind f = .ok (r i)) ↔ ∃ v, a.Holds v ∧ ∃ i, f v = .ok (r i) := by
  constructor
  · rintro ⟨i, h⟩
    obtain ⟨v, hv, h⟩ := read_bind_eq_ok.mp h
    exact ⟨v, hv, i, h⟩
  · rintro ⟨v, hv, i, h⟩
    exact ⟨i, read_bind_eq_ok.mpr ⟨v, hv, h⟩⟩

theorem read_bind_fails_of_acquits (hf : ∀ v, Acquits (f v)) :
    (∃ m, (read service a).bind f = .error (.provider m)) ↔ a.Fails := by
  rw [read_bind_fails]
  constructor
  · rintro (h | ⟨v, -, m, h⟩)
    · exact h
    · exact absurd h (hf v m)
  · exact .inl

end HttpResponse

/-! ## texts and models in a response -/

/-- what is picked from the items that a response lists, in order -/
def listing (listKey : String) (pick : Value → Except Fault (Option Value)) (response : Value) :
    Except Fault (List Value) := do
  let data ← response.fields
  let items ← (Fields.getD data listKey (.list [])).elements
  let names ← items.filterMapM pick
  Value.sorted names

/-- a response that lists items, all of them of one kind -/
def Lists (listKey : String) (kind : Value → Prop) (response : Value) : Prop :=
  ∃ data items, response = .object data ∧
    (Fields.getD data listKey (.list [])).elements = .ok items ∧ ∀ item ∈ items, kind item

theorem filterMapM_texts {pick : Value → Except Fault (Option Value)} {items : List Value} :
    (∃ ss : List String, items.filterMapM pick = .ok (ss.map .text)) ↔
      ∀ item ∈ items, ∃ t : Option String, pick item = .ok (t.map .text) := by
  induction items with
  | nil => exact iff_of_true ⟨[], rfl⟩ nofun
  | cons item items ih =>
    rw [List.filterMapM_cons, List.forall_mem_cons]
    constructor
    · rintro ⟨ss, h⟩
      obtain ⟨o, ho, h⟩ := exists_of_bind_ok h
      cases o with
      | none => exact ⟨⟨none, ho⟩, ih.mp ⟨ss, h⟩⟩
      | some v =>
        obtain ⟨names, hnames, h⟩ := exists_of_bind_ok h
        cases ss with
        | nil => exact nomatch Except.ok.inj h
        | cons s ss =>
          obtain ⟨rfl, rfl⟩ := List.cons.inj (Except.ok.inj h)
          exact ⟨⟨some s, ho⟩, ih.mp ⟨ss, hnames⟩⟩
    · rintro ⟨⟨t, ht⟩, hitems⟩
      obtain ⟨ss, hss⟩ := ih.mpr hitems
      rw [ht]
      cases t with
      | none => exact ⟨ss, hss⟩
      | some s =>
        refine ⟨s :: ss, ?_⟩
        show (do let names ← items.filterMapM pick; pure (Value.text s :: names)) = _
        rw [hss]
        rfl

/-- what is picked from items can be sorted into texts exactly if a text, or nothing, is picked from
each of them -/
theorem sorted_filterMapM_texts {pick : Value → Except Fault (Option Value)} {items : List Value} :
    (∃ ss : List String, (items.filterMapM pick >>= Value.sorted) = .ok (ss.map .text)) ↔
      ∀ item ∈ items, ∃ t : Option String, pick item = .ok (t.map .text) := by
  rw [← filterMapM_texts]
  constructor
  · rintro ⟨ss, h⟩
    obtain ⟨names, hnames, h⟩ := exists_of_bind_ok h
    obtain ⟨ts, rfl⟩ := Value.exists_sorted_texts.mp ⟨ss, h⟩
    exact ⟨ts, hnames⟩
  · rintro ⟨ss, h⟩
    rw [h]
    exact Value.exists_sorted_texts.mpr ⟨ss, rfl⟩

/-- texts are listed exactly if the items are of the kind from which a text, or nothing, is picked -/
theorem listing_eq_texts {listKey : String} {pick : Value → Except Fault (Option Value)}
    {kind : Value → Prop} {response : Value}
    (hpick : ∀ item, (∃ t : Option String, pick item = .ok (t.map .text)) ↔ kind item) :
    (∃ ss : List String, listing listKey pick response = .ok (ss.map .text)) ↔
      Lists listKey kind response := by
  constructor
  · rintro ⟨ss, h⟩
    obtain ⟨data, hdata, h⟩ := exists_of_bind_ok h
    obtain ⟨items, hitems, h⟩ := exists_of_bind_ok h
    have hpicked := sorted_filterMapM_texts.mp ⟨ss, h⟩
    exact ⟨data, items, Value.fields_eq_ok.mp hdata, hitems, fun item hitem =>
      (hpick item).mp (hpicked item hitem)⟩
  · rintro ⟨data, items, rfl, hitems, hkind⟩
    obtain ⟨ss, hss⟩ := sorted_filterMapM_texts.mpr fun item hitem => (hpick item).mpr (hkind item hitem)
    have hobject : (Value.object data).fields = .ok data := rfl
    refine ⟨ss, ?_⟩
    rw [listing, bind_of_ok hobject, bind_of_ok hitems]
    exact hss

theorem acquits_listing {listKey : String} {pick : Value → Except Fault (Option Value)}
    (hpick : ∀ m, Acquits (pick m)) (response : Value) : Acquits (listing listKey pick response) :=
  (Value.acquits_fields _).bind fun _ => (Value.acquits_elements _).bind fun items =>
    (Acquits.filterMapM hpick items).bind fun names => Value.acquits_sorted names

namespace OpenAI

/-- a response that holds a text -/
def Says (response : Value) (s : String) : Prop :=
  ∃ data choice message, response = .object data ∧
    (Fields.getD data "choices" .null).FirstObject choice ∧
    (Fields.getD choice "message" .null).ObjectOr message ∧
    (Fields.getD message "content" .null).TextOr s

/-- an item that lacks a key, or holds a text there -/
def Names (key : String) (item : Value) : Prop :=
  item.mentions key = .ok false ∨ ∃ fs s, item = .object fs ∧ Fields.get? fs key = some (.text s)

/-- the value of a key in an item, if the item has it -/
def pick (key : String) (m : Value) : Except Fault (Option Value) := do
  if ← m.mentions key then return some (← m.at key) else return none

theorem acquits_reply (response : Value) : Acquits (reply response) :=
  (Value.acquits_fields _).bind fun _ => (Value.acquits_first _).bind fun _ =>
    (Value.acquits_fields _).bind fun _ => (Value.acquits_fields _).bind fun _ => .ok _

theorem reply_eq_text {response : Value} {s : String} :
    reply response = .ok (.text s) ↔ Says response s := by
  constructor
  · intro h
    obtain ⟨data, hdata, h⟩ := exists_of_bind_ok h
    obtain ⟨first, hfirst, h⟩ := exists_of_bind_ok h
    obtain ⟨choice, hchoice, h⟩ := exists_of_bind_ok h
    obtain ⟨message, hmessage, h⟩ := exists_of_bind_ok h
    rw [Value.fields_eq_ok] at hdata hchoice
    rw [hchoice, Value.orElse_first] at hfirst
    exact ⟨data, choice, message, hdata, hfirst, Value.orElse_fields.mp hmessage,
      Value.orElse_text.mp (Except.ok.inj h)⟩
  · rintro ⟨data, choice, message, rfl, hchoice, hmessage, hcontent⟩
    rw [← Value.orElse_first] at hchoice
    rw [← Value.orElse_fields] at hmessage
    rw [← Value.orElse_text] at hcontent
    have hobject (fs : Fields) : (Value.object fs).fields = .ok fs := rfl
    simp only [reply, hobject, hchoice, hmessage, hcontent, bind, Except.bind, pure, Except.pure]

theorem pick_eq_text {key : String} {item : Value} :
    (∃ t : Option String, pick key item = .ok (t.map .text)) ↔ Names key item := by
  constructor
  · rintro ⟨t, h⟩
    obtain ⟨b, hb, h⟩ := exists_of_bind_ok h
    cases b with
    | false => exact .inl hb
    | true =>
      obtain ⟨v, hv, h⟩ := exists_of_bind_ok h
      cases t with
      | none => exact nomatch Except.ok.inj h
      | some s =>
        obtain rfl : v = .text s := Option.some.inj (Except.ok.inj h)
        cases item with
        | object fs =>
          refine .inr ⟨fs, s, rfl, ?_⟩
          cases hkey : Fields.get? fs key with
          | none => simp [Value.at, hkey] at hv
          | some w => simpa [Value.at, hkey] using hv
        | _ => simp [Value.at] at hv
  · rintro (h | ⟨fs, s, rfl, hkey⟩)
    · refine ⟨none, ?_⟩
      rw [pick, h]
      rfl
    · refine ⟨some s, ?_⟩
      have hhas : (Value.object fs).mentions key = .ok true := by
        rw [Value.mentions, ← Fields.isSome_get?, hkey]
        rfl
      have hat : (Value.object fs).at key = .ok (.text s) := by simp [Value.at, hkey]
      rw [pick, hhas, hat]
      rfl

theorem acquits_pick (key : String) (m : Value) : Acquits (pick key m) := by
  refine (m.acquits_mentions key).bind fun b => ?_
  cases b with
  | true => exact (m.acquits_at key).bind fun v => .ok _
  | false => exact .ok _

theorem models_eq : models = listing "data" (pick "id") := rfl

end OpenAI

namespace Ollama

/-- a response that holds a text -/
def Says (response : Value) (s : String) : Prop :=
  ∃ data, response = .object data ∧ (Fields.getD data "response" .null).TextOr s

theorem acquits_reply (response : Value) : Acquits (reply response) :=
  (Value.acquits_fields _).bind fun _ => .ok _

theorem reply_eq_text {response : Value} {s : String} :
    reply response = .ok (.text s) ↔ Says response s := by
  constructor
  · intro h
    obtain ⟨data, hdata, h⟩ := exists_of_bind_ok h
    exact ⟨data, Value.fields_eq_ok.mp hdata, Value.orElse_text.mp (Except.ok.inj h)⟩
  · rintro ⟨data, rfl, hresponse⟩
    rw [← Value.orElse_text] at hresponse
    show Except.ok _ = _
    rw [hresponse]

theorem models_eq : models = listing "models" (OpenAI.pick "name") := rfl

end Ollama

namespace Gemini

/-- a part of a text -/
def Part (part : Value) (s : String) : Prop :=
  ∃ fs, part = .object fs ∧ Fields.getD fs "text" (.text "") = .text s

/-- a response with a candidate whose parts make a text -/
def Holds (response : Value) (data candidate : Fields) (text : String) : Prop :=
  response = .object data ∧
    (Fields.getD data "candidates" .null).FirstObject candidate ∧
    ∃ content parts texts, (Fields.getD candidate "content" .null).ObjectOr content ∧
      (Fields.getD content "parts" .null).ListOr parts ∧
      List.Forall₂ Part parts texts ∧ "".intercalate texts = text

/-- a response without a text is blocked, for a reason that it gives or for safety -/
def Bars (data candidate feedback : Fields) : Prop :=
  (Fields.getD data "promptFeedback" .null).ObjectOr feedback ∧
    ((Fields.getD feedback "blockReason" .null).isVoid = false ∨
      Fields.getD candidate "finishReason" .null = .text "SAFETY")

/-- a response that holds a text; one that holds an empty text is not blocked -/
def Says (response : Value) (s : String) : Prop :=
  ∃ data candidate, Holds response data candidate s ∧
    (s = "" → ∃ feedback, (Fields.getD data "promptFeedback" .null).ObjectOr feedback ∧
      ¬ Bars data candidate feedback)

/-- a response that holds no text and is blocked -/
def Blocks (response : Value) : Prop :=
  ∃ data candidate feedback, Holds response data candidate "" ∧ Bars data candidate feedback

theorem mapM_part {parts texts : List Value} :
    (parts.mapM fun p => do
      let fs ← p.fields
      return Fields.getD fs "text" (.text "")) = Except.ok texts ↔
      List.Forall₂ (fun p t => ∃ fs, p = .object fs ∧ Fields.getD fs "text" (.text "") = t) parts texts := by
  induction parts generalizing texts with
  | nil => simp [pure, Except.pure, eq_comm]
  | cons p parts ih =>
    rw [List.mapM_cons, List.forall₂_cons_left_iff]
    constructor
    · intro h
      obtain ⟨t, ht, h⟩ := exists_of_bind_ok h
      obtain ⟨ts, hts, h⟩ := exists_of_bind_ok h
      obtain ⟨fs, hfs, hget⟩ := exists_of_bind_ok ht
      exact ⟨t, ts, ⟨fs, Value.fields_eq_ok.mp hfs, Except.ok.inj hget⟩, ih.mp hts,
        (Except.ok.inj h).symm⟩
    · rintro ⟨t, ts, ⟨fs, rfl, rfl⟩, hts, rfl⟩
      have hobject : (Value.object fs).fields = .ok fs := rfl
      rw [hobject, ih.mpr hts]
      rfl

theorem reply_of_holds {response : Value} {data candidate : Fields} {text : String}
    (h : Holds response data candidate text) :
    reply response =
      if text = "" then (blocked data (.object candidate)).map fun _ => .text ""
      else .ok (.text text) := by
  obtain ⟨rfl, hcandidate, content, parts, texts, hcontent, hparts, htexts, rfl⟩ := h
  rw [← Value.orElse_first] at hcandidate
  rw [← Value.orElse_fields] at hcontent
  have helements := Value.orElse_elements hparts
  have hmapM := mapM_part.mpr (List.forall₂_map_right_iff.mpr htexts)
  have hconcat : Value.concat "" (texts.map .text) = .ok ("".intercalate texts) :=
    Value.concat_eq_ok.mpr ⟨texts, rfl, rfl⟩
  have hobject (fs : Fields) : (Value.object fs).fields = .ok fs := rfl
  calc reply (.object data)
      _ = _ := bind_of_ok (hobject data)
      _ = _ := bind_of_ok hcandidate
      _ = _ := bind_of_ok (hobject candidate)
      _ = _ := bind_of_ok hcontent
      _ = _ := bind_of_ok helements
      _ = _ := bind_of_ok hmapM
      _ = _ := bind_of_ok hconcat
      _ = _ := by
        generalize "".intercalate texts = text
        by_cases hempty : text = ""
        · subst hempty
          cases blocked data (.object candidate) <;> rfl
        · have hsaid : text.isEmpty = false := by simp [hempty]
          rw [if_neg hempty]
          simp only [hsaid]
          rfl

/-- there is an answer only if a candidate has parts that make a text -/
theorem exists_holds {response : Value} (h : Answers (reply response)) :
    ∃ data candidate text, Holds response data candidate text := by
  obtain ⟨data, hdata, h⟩ := (Value.acquits_fields _).exists_of_bind h
  obtain ⟨first, hfirst, h⟩ := (Value.acquits_first _).exists_of_bind h
  obtain ⟨candidate, hcandidate, h⟩ := (Value.acquits_fields _).exists_of_bind h
  obtain ⟨content, hcontent, h⟩ := (Value.acquits_fields _).exists_of_bind h
  obtain ⟨parts, hparts, h⟩ := (Value.acquits_elements _).exists_of_bind h
  obtain ⟨values, hvalues, h⟩ :=
    (Acquits.mapM (fun p => p.acquits_fields.bind fun _ => .ok _) parts).exists_of_bind h
  obtain ⟨text, htext, -⟩ := (Value.acquits_concat _ _).exists_of_bind h
  rw [Value.fields_eq_ok] at hdata hcandidate
  rw [hcandidate, Value.orElse_first] at hfirst
  rw [mapM_part] at hvalues
  obtain ⟨texts, rfl, rfl⟩ := Value.concat_eq_ok.mp htext
  rw [List.forall₂_map_right_iff] at hvalues
  have hobjects : ∀ p ∈ parts, ∃ fs, p = .object fs := by
    refine (List.forall₂_and_left (R := Part) _ _).mp (hvalues.imp fun p s hp => ⟨?_, hp⟩) |>.1
    exact hp.imp fun _ => And.left
  exact ⟨data, candidate, _, hdata, hfirst, content, parts, texts, Value.orElse_fields.mp hcontent,
    Value.listOr_of_elements hparts hobjects, hvalues, rfl⟩

theorem blocked_of_feedback {data candidate feedback : Fields}
    (h : (Fields.getD data "promptFeedback" .null).ObjectOr feedback) :
    blocked data (.object candidate) =
      let reason := Fields.getD feedback "blockReason" .null
      if reason.isVoid = false then .error (.provider ("Response blocked due to: " ++ reason.shown))
      else if Fields.getD candidate "finishReason" .null = .text "SAFETY" then
        .error (.provider "Response blocked due to safety settings.")
      else .ok () := by
  refine (bind_of_ok (Value.orElse_fields.mpr h)).trans ?_
  dsimp only
  cases (Fields.getD feedback "blockReason" .null).isVoid <;> rfl

theorem blocked_of_bars {data candidate feedback : Fields} (h : Bars data candidate feedback) :
    ∃ m, blocked data (.object candidate) = .error (.provider m) := by
  rw [blocked_of_feedback h.1]
  dsimp only
  split
  · exact ⟨_, rfl⟩
  · rename_i hvoid
    rw [if_pos (h.2.resolve_left hvoid)]
    exact ⟨_, rfl⟩

theorem blocked_of_not_bars {data candidate feedback : Fields}
    (h : (Fields.getD data "promptFeedback" .null).ObjectOr feedback)
    (hbars : ¬ Bars data candidate feedback) : blocked data (.object candidate) = .ok () := by
  obtain ⟨hvoid, hfinish⟩ := not_or.mp fun hor => hbars ⟨h, hor⟩
  rw [blocked_of_feedback h]
  dsimp only
  rw [if_neg hvoid, if_neg hfinish]

/-- whether a response is blocked can be told if its feedback is an object -/
theorem exists_feedback {data candidate : Fields}
    (h : Answers (blocked data (.object candidate))) :
    ∃ feedback, (Fields.getD data "promptFeedback" .null).ObjectOr feedback := by
  obtain ⟨feedback, hfeedback, -⟩ := (Value.acquits_fields _).exists_of_bind h
  exact ⟨feedback, Value.orElse_fields.mp hfeedback⟩

theorem reply_eq_text {response : Value} {s : String} :
    reply response = .ok (.text s) ↔ Says response s := by
  constructor
  · intro h
    obtain ⟨data, candidate, text, hholds⟩ := exists_holds (.inl ⟨_, h⟩)
    rw [reply_of_holds hholds] at h
    by_cases hempty : text = ""
    · subst hempty
      rw [if_pos rfl] at h
      cases hblocked : blocked data (.object candidate) with
      | error e =>
        rw [hblocked] at h
        exact nomatch h
      | ok u =>
        rw [hblocked] at h
        obtain rfl : "" = s := Value.text.inj (Except.ok.inj h)
        obtain ⟨feedback, hfeedback⟩ := exists_feedback (.inl ⟨u, hblocked⟩)
        refine ⟨data, candidate, hholds, fun _ => ⟨feedback, hfeedback, fun hbars => ?_⟩⟩
        obtain ⟨m, hm⟩ := blocked_of_bars hbars
        exact nomatch hblocked.symm.trans hm
    · rw [if_neg hempty] at h
      obtain rfl : text = s := Value.text.inj (Except.ok.inj h)
      exact ⟨data, candidate, hholds, fun hs => absurd hs hempty⟩
  · rintro ⟨data, candidate, hholds, hopen⟩
    rw [reply_of_holds hholds]
    split
    · rename_i hempty
      obtain ⟨feedback, hfeedback, hbars⟩ := hopen hempty
      rw [blocked_of_not_bars hfeedback hbars, hempty]
      rfl
    · rfl

theorem reply_fails {response : Value} :
    (∃ m, reply response = .error (.provider m)) ↔ Blocks response := by
  constructor
  · rintro ⟨m, h⟩
    obtain ⟨data, candidate, text, hholds⟩ := exists_holds (.inr ⟨m, h⟩)
    rw [reply_of_holds hholds] at h
    by_cases hempty : text = ""
    · subst hempty
      rw [if_pos rfl] at h
      have hblocked : blocked data (.object candidate) = .error (.provider m) := by
        cases hblocked : blocked data (.object candidate) with
        | error e =>
          rw [hblocked] at h
          rw [Except.error.inj h]
        | ok u =>
          rw [hblocked] at h
          exact nomatch h
      obtain ⟨feedback, hfeedback⟩ := exists_feedback (.inr ⟨m, hblocked⟩)
      refine ⟨data, candidate, feedback, hholds, ?_⟩
      by_contra hbars
      exact nomatch hblocked.symm.trans (blocked_of_not_bars hfeedback hbars)
    · rw [if_neg hempty] at h
      exact nomatch h
  · rintro ⟨data, candidate, feedback, hholds, hbars⟩
    obtain ⟨m, hm⟩ := blocked_of_bars hbars
    refine ⟨m, ?_⟩
    rw [reply_of_holds hholds, if_pos rfl, hm]
    rfl

/-- an item that is no model for prompts, or has a text for its name -/
def Names (item : Value) : Prop :=
  ∃ fs, item = .object fs ∧
    let name := Fields.getD fs "name" (.text "")
    let methods := Fields.getD fs "supportedGenerationMethods" (.list [])
    name.mentions "gemini" = .ok false ∨
      name.mentions "gemini" = .ok true ∧
        (methods.mentions "generateContent" = .ok false ∨
          methods.mentions "generateContent" = .ok true ∧ ∃ s, name = .text s)

/-- the name of an item, if it is a model for prompts -/
def pick (m : Value) : Except Fault (Option Value) := do
  if ← takesPrompts m then return some (← modelName m) else return none

theorem models_eq : models = listing "models" pick := rfl

theorem acquits_takesPrompts (m : Value) : Acquits (takesPrompts m) := by
  refine m.acquits_fields.bind fun fs => (Value.acquits_mentions _ _).bind fun b => ?_
  cases b with
  | true => exact Value.acquits_mentions _ _
  | false => exact .ok false

theorem acquits_modelName (m : Value) : Acquits (modelName m) := by
  refine (m.acquits_at "name").bind fun v => ?_
  cases v with
  | text s => exact .ok _
  | _ => exact .unsupported _

theorem acquits_pick (m : Value) : Acquits (pick m) := by
  refine (acquits_takesPrompts m).bind fun b => ?_
  cases b with
  | true => exact (acquits_modelName m).bind fun v => .ok _
  | false => exact .ok _

theorem modelName_eq_text {fs : Fields} {name : String} (h : Fields.get? fs "name" = some (.text name)) :
    ∃ s, modelName (.object fs) = .ok (.text s) := by
  have hat : (Value.object fs).at "name" = .ok (.text name) := by rw [Value.at, h]
  rw [modelName, bind_of_ok hat]
  exact ⟨_, rfl⟩

theorem exists_name_of_modelName {fs : Fields} {v : Value} (h : modelName (.object fs) = .ok v) :
    ∃ name, Fields.get? fs "name" = some (.text name) := by
  obtain ⟨w, hw, h⟩ := exists_of_bind_ok h
  cases hname : Fields.get? fs "name" with
  | none =>
    rw [Value.at, hname] at hw
    exact nomatch hw
  | some u =>
    rw [Value.at, hname] at hw
    obtain rfl : u = w := Except.ok.inj hw
    cases u with
    | text s => exact ⟨s, rfl⟩
    | _ => exact nomatch h

theorem takesPrompts_object (fs : Fields) :
    takesPrompts (.object fs) = (do
      if ← (Fields.getD fs "name" (.text "")).mentions "gemini" then
        (Fields.getD fs "supportedGenerationMethods" (.list [])).mentions "generateContent"
      else return false) := rfl

theorem pick_eq_text {item : Value} :
    (∃ t : Option String, pick item = .ok (t.map .text)) ↔ Names item := by
  constructor
  · rintro ⟨t, h⟩
    obtain ⟨b, hb, h⟩ := exists_of_bind_ok h
    obtain ⟨fs, hfs, -⟩ := exists_of_bind_ok hb
    obtain rfl := Value.fields_eq_ok.mp hfs
    refine ⟨fs, rfl, ?_⟩
    rw [takesPrompts_object] at hb
    obtain ⟨g, hg, hb⟩ := exists_of_bind_ok hb
    cases g with
    | false => exact .inl hg
    | true =>
      refine .inr ⟨hg, ?_⟩
      cases b with
      | false => exact .inl hb
      | true =>
        obtain ⟨v, hv, -⟩ := exists_of_bind_ok h
        obtain ⟨name, hname⟩ := exists_name_of_modelName hv
        exact .inr ⟨hb, name, by rw [Fields.getD, hname]; rfl⟩
  · rintro ⟨fs, rfl, hname⟩
    unfold pick
    rw [takesPrompts_object]
    dsimp only at hname
    obtain hg | ⟨hg, hm | ⟨hm, s, hs⟩⟩ := hname
    · refine ⟨none, ?_⟩
      rw [bind_of_ok hg]
      rfl
    · refine ⟨none, ?_⟩
      rw [bind_of_ok hg, if_pos rfl, bind_of_ok hm]
      rfl
    · have hget : Fields.get? fs "name" = some (.text s) := by
        cases hkey : Fields.get? fs "name" with
        | none =>
          -- without a name there is an empty one, which mentions nothing
          have hempty : (Value.text "").mentions "gemini" = .ok false := by
            simp [Value.mentions, Text.contains]
          rw [Fields.getD, hkey] at hg
          exact nomatch hempty.symm.trans hg
        | some v =>
          rw [Fields.getD, hkey] at hs
          exact congrArg some hs
      obtain ⟨t, ht⟩ := modelName_eq_text hget
      refine ⟨some t, ?_⟩
      rw [bind_of_ok hg, if_pos rfl, bind_of_ok hm, if_pos rfl, bind_of_ok ht]
      rfl

end Gemini

/-! ## services -/

namespace Provider

/-- a provider that is asked by requests, and not by running a command -/
def IsService (p : Provider) : Prop := p.name ≠ .command

/-- a response of a service that holds a text -/
def Says : Provider → Value → String → Prop
  | .gemini .. => Gemini.Says
  | .openai .. => OpenAI.Says
  | .ollama .. => Ollama.Says
  | .command .. => fun _ _ => False

/-- a response of a service that is blocked -/
def Blocks : Provider → Value → Prop
  | .gemini .. => Gemini.Blocks
  | _ => fun _ => False

/-- a response of a service that lists models with texts for names -/
def Lists : Provider → Value → Prop
  | .gemini .. => Debate.Lists "models" Gemini.Names
  | .openai .. => Debate.Lists "data" (OpenAI.Names "id")
  | .ollama .. => Debate.Lists "models" (OpenAI.Names "name")
  | .command .. => fun _ => False

/-- what comes of an exchange, if it is known which values hold a text, are blocked, or list names -/
theorem outcome_of {reply : Value → Except Fault Value} {holds : Value → String → Prop}
    {blocks kind : Value → Prop} {listKey : String} {pick : Value → Except Fault (Option Value)}
    (hreply : ∀ v s, reply v = .ok (.text s) ↔ holds v s)
    (hblocks : ∀ v, (∃ m, reply v = .error (.provider m)) ↔ blocks v)
    {models : Value → Except Fault (List Value)} (hmodels : models = listing listKey pick)
    (hpick : ∀ item, (∃ t : Option String, pick item = .ok (t.map .text)) ↔ kind item)
    (hacquits : ∀ item, Acquits (pick item)) (service : String) (a : Arrival) :
    let outcome := (HttpResponse.read service a).bind reply
    let listed := (HttpResponse.read service a).bind models
    (∀ s, outcome = .ok (.text s) ↔ ∃ v, a.Holds v ∧ holds v s) ∧
    ((∃ m, outcome = .error (.provider m)) ↔ a.Fails ∨ ∃ v, a.Holds v ∧ blocks v) ∧
    ((∃ ss : List String, listed = .ok (ss.map .text)) ↔ ∃ v, a.Holds v ∧ Debate.Lists listKey kind v) ∧
    ((∃ m, listed = .error (.provider m)) ↔ a.Fails) := by
  subst hmodels
  have hheld {P Q : Value → Prop} (h : ∀ v, P v ↔ Q v) :
      (∃ v, a.Holds v ∧ P v) ↔ ∃ v, a.Holds v ∧ Q v :=
    exists_congr fun v => and_congr_right fun _ => h v
  refine ⟨fun s => ?_, ?_, ?_, ?_⟩
  · exact HttpResponse.read_bind_eq_ok.trans (hheld fun v => hreply v s)
  · exact HttpResponse.read_bind_fails.trans (or_congr_right (hheld hblocks))
  · exact HttpResponse.exists_read_bind_eq_ok.trans (hheld fun v => listing_eq_texts hpick)
  · exact HttpResponse.read_bind_fails_of_acquits (acquits_listing hacquits)

/-- what comes of asking a service, whatever it is asked and whatever comes back. For a prompt there is a
text exactly if a value comes back that holds it in its place, and a failure of the service exactly if
the exchange fails or the response is blocked. For the models there are texts exactly if a value comes
back that lists them, and a failure of the service exactly if the exchange fails. So for every other
response there is another fault, or a value that is no text -/
theorem outcome_iff {p : Provider} (hp : p.IsService) (now : Instant) (patience : Option Double)
    (prompt : Value) (means : Means) :
    let arrival := (means.responses.head?.getD .absent).arrival
    (∀ s, (p.generate now patience prompt means).outcome = .ok (.text s) ↔
      ∃ v, arrival.Holds v ∧ p.Says v s) ∧
    ((∃ m, (p.generate now patience prompt means).outcome = .error (.provider m)) ↔
      arrival.Fails ∨ ∃ v, arrival.Holds v ∧ p.Blocks v) ∧
    ((∃ ss : List String, (p.models means).outcome = .ok (ss.map .text)) ↔
      ∃ v, arrival.Holds v ∧ p.Lists v) ∧
    ((∃ m, (p.models means).outcome = .error (.provider m)) ↔ arrival.Fails) := by
  intro arrival
  cases p with
  | gemini key url model budget =>
    exact outcome_of (fun _ _ => Gemini.reply_eq_text) (fun _ => Gemini.reply_fails)
      Gemini.models_eq (fun _ => Gemini.pick_eq_text) Gemini.acquits_pick "Gemini" arrival
  | openai key url model =>
    exact outcome_of (fun _ _ => OpenAI.reply_eq_text) (fun v => (OpenAI.acquits_reply v).not_fails)
      OpenAI.models_eq (fun _ => OpenAI.pick_eq_text) (OpenAI.acquits_pick "id") "OpenAI" arrival
  | ollama url model =>
    exact outcome_of (fun _ _ => Ollama.reply_eq_text) (fun v => (Ollama.acquits_reply v).not_fails)
      Ollama.models_eq (fun _ => OpenAI.pick_eq_text) (OpenAI.acquits_pick "name") "Ollama" arrival
  | command cmd timeout => exact absurd rfl hp

/-- a proxy that answers with a text in its place, and with a list of models of which one has no id -/
theorem outcome_iff_proxy :
    let p : Provider := .openai (.text "k") "http://x" (.text "m")
    let said : Value := .object [("choices", .list [.object [("message", .object [("content", .text "hi")])]])]
    let listed : Value := .object [("data", .list [.object [("id", .text "b")], .object [], .object [("id", .text "a")]])]
    let means (v : Value) : Means := { responses := [{ arrival := .answered 200 v "" }] }
    p.IsService ∧
      (p.generate { seconds := 0 } none (.text "hello") (means said)).outcome = .ok (.text "hi") ∧
      (∃ ss : List String, (p.models (means listed)).outcome = .ok (ss.map .text)) := by
  intro p said listed means
  have hp : p.IsService := nofun
  have hitems : ∀ item ∈ [Value.object [("id", .text "b")], .object [], .object [("id", .text "a")]],
      OpenAI.Names "id" item := by
    intro item hitem
    simp only [List.mem_cons, List.not_mem_nil, or_false] at hitem
    obtain rfl | rfl | rfl := hitem
    · exact .inr ⟨_, "b", rfl, rfl⟩
    · exact .inl rfl
    · exact .inr ⟨_, "a", rfl, rfl⟩
  refine ⟨hp, ?_, ?_⟩
  · refine ((outcome_iff hp { seconds := 0 } none (.text "hello") (means said)).1 "hi").mpr
      ⟨said, ⟨200, "", rfl, by decide⟩, _, _, _, rfl, .inl ⟨[], rfl⟩, .inl rfl, .inl rfl⟩
  · exact (outcome_iff hp { seconds := 0 } none (.text "hello") (means listed)).2.2.1.mpr
      ⟨listed, ⟨200, "", rfl, by decide⟩, _, _, rfl, rfl, hitems⟩

/-- responses that are of another shape: a list instead of an object is a fault that is no failure of the
service, a number instead of a text is handed over as it is, and so is one among the models; and a body
that cannot be decoded is no failure of the service either -/
theorem not_forall_outcome :
    let p : Provider := .openai (.text "k") "http://x" (.text "m")
    let means (a : Arrival) : Means := { responses := [{ arrival := a }] }
    let ask (a : Arrival) := (p.generate { seconds := 0 } none (.text "hello") (means a)).outcome
    let list (a : Arrival) := (p.models (means a)).outcome
    let content : Value := .object [("choices", .list [.object [("message", .object [("content", .int 5)])]])]
    ask (.answered 200 (.list [.int 1]) "[1]") =
        .error (.unsupported "'list' object has no attribute 'get'") ∧
      ask (.answered 200 content "") = .ok (.int 5) ∧
      list (.answered 200 (.object [("data", .list [.object [("id", .int 5)]])]) "") = .ok [.int 5] ∧
      ask (.undecodable "Expecting value: line 1 column 1 (char 0)") =
        .error (.badValue "Expecting value: line 1 column 1 (char 0)") := by
  intro p means ask list content
  exact ⟨rfl, rfl, rfl, rfl⟩

end Provider

end Debate
