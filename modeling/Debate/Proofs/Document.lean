import Debate.Proofs.Shape

/-!
# What a turn sees, and what it leaves

A turn is a number of things that happen while its reply is waited for, and the reply. It sees the
notepad as it is when it starts. The last edit that comes in meanwhile is what it leaves; without
one, it leaves what its reply makes of the notepad that it saw.

* `Taken`                         what happens while a reply is waited for, and the reply;
* `Taken.leaves`                  the notepad that a turn leaves;
* `Underway.turn`                 one turn;
* `Standing.pendingEdit_turns`    any number of turns.
-/

namespace Debate

open Debate.Number

variable {σ : Type}

/-- what happens while a reply is waited for, and the reply -/
structure Taken where
  asides : List Event
  reply : Except Fault Value

namespace Taken

/-- nothing but what may happen beside a run -/
def IsBeside (t : Taken) : Prop := ∀ e ∈ t.asides, e.isBeside = true

/-- a turn as events -/
def events (t : Taken) : List Event := t.asides ++ [.replied t.reply]

/-- the notepad that a turn leaves, given the notepad when it started and how it ended: the last edit
that came in, otherwise the notepad with the edits of the reply if the turn went well -/
def leaves (t : Taken) (notepad : String) (ending : Except Fault Turn.Result) : Value :=
  match lastEdit t.asides, ending, t.reply with
  | some content, _, _ => content
  | none, .ok _, .ok value => .text (Notepad.Edit.applyAll (Turn.editsOf value) notepad)
  | none, _, _ => .text notepad

end Taken

section

variable {s : Surroundings σ} {st : Settings} {query : String} {n : Int} {before : List Message}
  {rs : List Turn.Result} {c : Call} {xs : List Message} {m : Moderator σ}

/-- what is kept back at the end of a turn, and what the turn makes of the notepad -/
theorem Taken.leaves_eq {t : Taken} (ht : t.IsBeside) {d : String} (hd : c.document = .text d)
    {clock : Double} {cancelled : Bool} {r : Except Fault Turn.Result}
    (hr : c.ending clock cancelled t.reply = r) :
    (if (lastEdit t.asides).getD .null = .null then Turn.made (.text d) r
      else (lastEdit t.asides).getD .null) = t.leaves d r := by
  unfold Taken.leaves
  cases hlast : lastEdit t.asides with
  | some content =>
    obtain ⟨v, rfl⟩ := text_of_lastEdit ht hlast
    exact if_neg nofun
  | none =>
    rw [Option.getD_none, if_pos rfl]
    cases r with
    | error e => rfl
    | ok r =>
      obtain ⟨-, value, hreply, hresult⟩ := Call.ending_eq_ok hr
      rw [hreply]
      exact Call.document_of_result hd hresult

/-- a debate stays under way whatever happens beside it -/
theorem Underway.during_beside (h : Underway st query n before rs c xs m) (s : Surroundings σ)
    {es : List Event} (hes : ∀ e ∈ es, e.isBeside = true) :
    Underway st query n before rs c xs (m.during s es) :=
  Moderator.during_keeps s (fun _ h => h.running) (fun _ _ h he => h.step_beside s he) h hes

/-- one turn, from its start on -/
theorem Underway.turn (hs : s.IsCalm) (h : Underway st query n before rs c xs m)
    (hedit : m.store.pendingEdit = .null) {t : Taken} (ht : t.IsBeside) {d : String}
    (hd : m.document = .text d) :
    let r := c.ending (m.during s t.asides).clock (m.during s t.asides).isCancelled t.reply
    Standing s st query n before (rs.map .ok ++ [r]) (m.during s t.events) ∧
      (m.during s t.events).store.pendingEdit = .null ∧
      ((m.during s t.events).document = t.leaves d r ∨
        s.Asks (.edit (m.during s t.events).document)) := by
  have hunder := h.during_beside s ht
  obtain ⟨hbeside, hpending⟩ := Moderator.beside_during s h.running h.inFlight ht
  have hsame : (m.during s t.asides).document = .text d :=
    (congrArg Conversation.document hbeside.conversation).trans hd
  rw [hedit] at hpending
  rw [Taken.events, Moderator.during_append, Moderator.during_cons s hunder.running,
    Moderator.during_nil]
  generalize m.during s t.asides = m' at hunder hpending hsame
  intro r
  obtain ⟨d', hcd, hd', -⟩ := hunder.notepad
  rw [hsame] at hd'
  cases hd'
  obtain ⟨hstand, j, hland⟩ := hunder.standing_replied hs t.reply
  refine ⟨hstand, hland.pendingEdit, ?_⟩
  have hcommitted := Moderator.document_committed s c r (m'.withJournal j) hs
  rw [show (m'.withJournal j).store.pendingEdit = _ from hpending,
    show (m'.withJournal j).document = _ from hsame, Taken.leaves_eq ht hcd rfl] at hcommitted
  rcases hland.notepad with hkept | hasks
  · rw [← hkept] at hcommitted
    exact hcommitted
  · exact .inr hasks

/-- no edit is kept back after any number of turns -/
theorem Standing.pendingEdit_turns (hs : s.IsCalm) {os : List (Except Fault Turn.Result)}
    (h : Standing s st query n before os m) (hedit : m.store.pendingEdit = .null)
    {ts : List Taken} (hts : ∀ t ∈ ts, t.IsBeside) :
    (m.during s (ts.flatMap Taken.events)).store.pendingEdit = .null := by
  induction ts generalizing m os with
  | nil => exact hedit
  | cons t ts ih =>
    rcases h with ⟨rs, c, xs, -, h⟩ | ⟨rs, xs, h⟩
    · obtain ⟨d, -, hd, -⟩ := h.notepad
      obtain ⟨hstand, hland, -⟩ := h.turn hs hedit (hts t List.mem_cons_self) hd
      rw [List.flatMap_cons, Moderator.during_append]
      exact ih hstand hland fun x hx => hts x (List.mem_cons_of_mem t hx)
    · rw [Moderator.during_of_idle s h.idle.running]
      exact hedit

/-- turns are events of a run, with one reply each -/
theorem Taken.isOfRun_events {t : Taken} (ht : t.IsBeside) : ∀ e ∈ t.events, e.isOfRun = true := by
  intro e he
  rcases List.mem_append.mp he with he | he
  · have hbeside := ht e he
    cases e <;> first | exact hbeside | rfl
  · rw [List.mem_singleton.mp he]
    rfl

theorem Taken.countP_events {t : Taken} (ht : t.IsBeside) : t.events.countP Event.isReply = 1 := by
  have hnone : t.asides.countP Event.isReply = 0 := by
    refine List.countP_eq_zero.mpr fun e he => ?_
    have hbeside := ht e he
    cases e with
    | replied reply => cases hbeside
    | _ => exact Bool.false_ne_true
  rw [Taken.events, List.countP_append, hnone]
  rfl

theorem Taken.countP_flatMap_events {ts : List Taken} (hts : ∀ t ∈ ts, t.IsBeside) :
    (ts.flatMap Taken.events).countP Event.isReply = ts.length := by
  induction ts with
  | nil => rfl
  | cons t ts ih =>
    rw [List.flatMap_cons, List.countP_append, Taken.countP_events (hts t List.mem_cons_self),
      ih fun x hx => hts x (List.mem_cons_of_mem t hx), List.length_cons, Nat.add_comm]

end

namespace Moderator

variable {s : Surroundings σ} {m : Moderator σ}

/-- a debate after any number of turns, if it goes on, and one more turn: the prompt shows what was
said so far and the notepad as it is; and the turn leaves the last edit that came in, or what its
reply makes of that notepad, unless a listener asks for an edit -/
theorem debate_document (hs : s.IsCalm) {n : Int} (hm : m.IsReady s n) (text : String)
    (image : Value) {ts : List Taken} (hts : ∀ t ∈ ts, t.IsBeside) {t : Taken} (ht : t.IsBeside)
    (hrun : ((m.step s (.told (.submit (.text text) image))).during s
      (ts.flatMap Taken.events)).running = true) :
    let m' := (m.step s (.told (.submit (.text text) image))).during s (ts.flatMap Taken.events)
    ∃ c d id now, m'.call = some c ∧ m'.document = .text d ∧
      m'.messages = m'.store.conversation.settled ++
        [.placeholder id now (m.settings.speaker ts.length).sender] ∧
      c.prompt = .text (m.settings.prompt text ts.length m'.store.conversation.settled d) ∧
      let asked := m'.during s t.asides
      let left := (m'.during s t.events).document
      left = t.leaves d (c.ending asked.clock asked.isCancelled t.reply) ∨ s.Asks (.edit left) := by
  intro m'
  obtain ⟨hstart, hland⟩ := standing_submit hs hm text image
  have hofRun : ∀ e ∈ ts.flatMap Taken.events, e.isOfRun = true := by
    intro e he
    obtain ⟨t, ht, he⟩ := List.mem_flatMap.mp he
    exact Taken.isOfRun_events (hts t ht) e he
  have hedit := hstart.pendingEdit_turns hs hland.pendingEdit hts
  have hcount := hstart.length_endings hs hofRun hrun
  rw [Taken.countP_flatMap_events hts] at hcount
  rcases hstart.during hs hofRun with ⟨rs, c, xs, hos, h⟩ | ⟨rs, xs, h⟩
  · have hlength : rs.length = ts.length := by
      rw [← hcount, ← List.length_map (f := Except.ok), ← hos, List.nil_append]
    obtain ⟨d, -, hd, hprompt⟩ := h.notepad
    obtain ⟨id, now, -, hlog, -⟩ := h.log
    refine ⟨c, d, id, now, h.call, hd, ?_, ?_, (h.turn hs hedit ht hd).2.2⟩
    · rw [h.settled_eq, ← hlength]
      exact hlog
    · rw [h.settled_eq, ← hlength]
      exact hprompt
  · rw [h.idle.running] at hrun
    cases hrun

/-- a turn during which an edit comes in, and whose reply has an edit too -/
def overruled : Taken where
  asides := [.told (.edit (.text "mine"))]
  reply := .ok (.text "Done. <np-replace-all>stale</np-replace-all>")

theorem isBeside_overruled : overruled.IsBeside := by
  intro e he
  rw [List.mem_singleton.mp he]
  rfl

/-- the edit that comes in wins over the edit of the reply -/
theorem debate_document_overruled :
    Surroundings.silent.IsCalm ∧ opened.IsReady .silent 1 ∧ overruled.IsBeside ∧
      ((opened.step .silent (.told (.submit (.text "Go") .null))).during .silent
        ([].flatMap Taken.events)).running = true ∧
      (((opened.step .silent (.told (.submit (.text "Go") .null))).during .silent
        ([].flatMap Taken.events)).during .silent overruled.events).document = .text "mine" := by
  have hts : ∀ t ∈ ([] : List Taken), t.IsBeside := nofun
  have hrun : ((opened.step .silent (.told (.submit (.text "Go") .null))).during .silent
      ([].flatMap Taken.events)).running = true := by
    rw [List.flatMap_nil, during_nil]
    decide +kernel
  refine ⟨Surroundings.isCalm_silent, isReady_opened, isBeside_overruled, hrun, ?_⟩
  obtain ⟨c, d, id, now, -, -, -, -, hleft | hasks⟩ :=
    debate_document Surroundings.isCalm_silent isReady_opened "Go" .null hts isBeside_overruled hrun
  · rw [hleft]
    rfl
  · exact absurd hasks (Surroundings.not_asks_silent _)

end Moderator

end Debate
