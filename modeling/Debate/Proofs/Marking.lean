import Debate.Proofs.Failing
import Debate.Proofs.Stripping

/-!
# The marker in a turn

A reply counts as a wish to end the discussion if the marker stands in it as it was written. The
marker is taken out of what the reply says, all of it at once. So the marker may be put together in
two ways: when the tags are taken out, and then it does not count; and when the marker itself is
taken out, and then it stays. What it is put together from lies on both sides of something that was
taken out.

* `Turn.infix_agreement`      the text of a reply that says nothing but the marker;
* `Turn.sewn_withoutMarker`   a marker that stays was put together when the marker was taken out;
* `Turn.sewn_spoken`          a marker that does not count was put together when tags were cut;
* `Moderator.turn_marked`     the marker, the text, and the message of a turn that goes well.
-/

namespace Debate

open Debate.Text Debate.Notepad

variable {σ : Type}

namespace Turn

variable {p : Persona} {raw spoken : String} {i : Nat}

theorem toList_marker_ne_nil : marker.toList ≠ [] := by decide +kernel

theorem hasMarker_iff {s : String} : hasMarker s = true ↔ marker.toList <:+: s.toList :=
  contains_iff toList_marker_ne_nil

/-! ## what is said without the marker -/

theorem toList_agreement (p : Persona) : (agreement p).toList =
    '[' :: (p.title.toList ++ ' ' :: "agrees the discussion is complete.]".toList) := by
  have hopen : "[".toList = ['['] := by decide +kernel
  have hrest : " agrees the discussion is complete.]".toList =
    ' ' :: "agrees the discussion is complete.]".toList := by decide +kernel
  rw [agreement, String.toList_append, String.toList_append, hopen, hrest, List.append_assoc,
    List.singleton_append]

/-- a reply that says nothing but the marker gets a text without the marker, unless the marker
stands in the title of the persona -/
theorem infix_agreement (h : marker.toList <:+: (agreement p).toList) :
    marker.toList <:+: p.title.toList := by
  rw [toList_agreement, ← List.nil_append ('[' :: _)] at h
  rcases infix_append_cons (by decide +kernel) h with h | h
  · exact absurd (List.infix_nil.mp h) toList_marker_ne_nil
  rcases infix_append_cons (by decide +kernel) h with h | h
  · exact h
  · exact absurd h (by decide +kernel)

theorem agreement_ne_empty (p : Persona) : agreement p ≠ "" := by
  intro h
  have hlist := toList_agreement p
  rw [h, String.toList_empty] at hlist
  cases hlist

theorem spokenText_ne_empty (h : hasMarker raw = true) : spokenText p raw spoken ≠ "" := by
  rw [spokenText]
  split
  · exact agreement_ne_empty p
  · rename_i hnot
    intro hempty
    exact hnot ⟨h, by rw [hempty]; rfl⟩

/-- a marker that stays when the marker is taken out was put together then -/
theorem sewn_withoutMarker (h : marker.toList <+: (withoutMarker spoken).toList.drop i) :
    Sewn (split marker.toList spoken.toList) i (i + marker.toList.length) := by
  rw [withoutMarker, String.toList_ofList, replaceAll, join_empty] at h
  rcases infix_or_sewn toList_marker_ne_nil h with ⟨piece, hpiece, hin⟩ | hsewn
  · exact absurd hin (not_infix_of_mem_split toList_marker_ne_nil hpiece)
  · exact hsewn

/-- a marker in the text of a reply was put together when the marker was taken out, unless it stands
in the title of a persona whose reply says nothing else -/
theorem sewn_spokenText (h : marker.toList <+: (spokenText p raw spoken).toList.drop i) :
    Sewn (split marker.toList spoken.toList) i (i + marker.toList.length) ∨
      spokenText p raw spoken = agreement p ∧ marker.toList <:+: p.title.toList := by
  rw [spokenText] at h ⊢
  split at h
  · rename_i hagrees
    rw [if_pos hagrees]
    exact .inr ⟨rfl, infix_agreement (h.isInfix.trans (List.drop_suffix _ _).isInfix)⟩
  · exact .inl (sewn_withoutMarker h)

/-! ## what is said without the tags -/

theorem infix_of_mem_gaps {cs g : List Char} {j : Nat} {xs : List Span} (h : g ∈ gaps cs j xs) :
    g <:+: cs := by
  induction xs generalizing j with
  | nil =>
    rw [List.mem_singleton.mp h]
    exact (List.drop_suffix j cs).isInfix
  | cons x xs ih =>
    rcases List.mem_cons.mp h with rfl | h
    · exact (List.drop_suffix j _).isInfix.trans (List.take_prefix x.start cs).isInfix
    · exact ih h

/-- a marker that is said but does not count was put together when the tags were taken out -/
theorem sewn_spoken {r : Reply} (hr : Reply.read raw = .ok r) (hnone : hasMarker raw = false)
    (h : marker.toList <+: r.spoken.toList.drop i) :
    Sewn (gaps raw.toList 0 (spans raw.toList)) i (i + marker.toList.length) := by
  rw [Reply.spoken_of_read hr, residual_eq] at h
  rcases infix_or_sewn toList_marker_ne_nil h with ⟨g, hg, hin⟩ | hsewn
  · have hmarked := hasMarker_iff.mpr (hin.trans (infix_of_mem_gaps hg))
    rw [hnone] at hmarked
    cases hmarked
  · exact hsewn

end Turn

/-! ## the turn -/

theorem Call.exists_of_ending {c : Call} {clock : Number.Double} {cancelled : Bool}
    {reply : Except Fault Value} {r : Turn.Result} (h : c.ending clock cancelled reply = .ok r) :
    ∃ raw said, reply = .ok (.text raw) ∧ Reply.read raw = .ok said ∧
      r.text = Turn.spokenText c.persona raw said.spoken ∧ r.sawMarker = Turn.hasMarker raw := by
  obtain ⟨-, value, rfl, hresult⟩ := Call.ending_eq_ok h
  rw [Call.result] at hresult
  cases hraw : Turn.replyText value with
  | error e =>
    rw [hraw] at hresult
    cases hresult
  | ok raw =>
  rw [hraw] at hresult
  cases hread : Reply.read raw with
  | error e =>
    simp only [Turn.parsed, hread, bind, Except.bind] at hresult
    cases hresult
  | ok said =>
  simp only [Turn.parsed, hread, bind, Except.bind] at hresult
  refine ⟨raw, said, by rw [Turn.replyText_eq_ok hraw], hread, ?_⟩
  split at hresult
  · cases hresult
  split at hresult
  · cases hresult
  cases hresult
  exact ⟨rfl, rfl⟩

namespace Moderator

variable {s : Surroundings σ} {c : Call} {m m' : Moderator σ}

/-- a reply that a turn goes well with is a text that can be read. The turn counts the marker if it
stands in the reply, and then the text of its message is not empty. If it does not count a marker
that the reply says, the marker was put together when tags were taken out. If a marker stays in the
text, it was put together when the marker was taken out, or is in the title of a persona that says
nothing else -/
theorem turn_marked {meanwhile : List Event} {reply : Except Fault Value} {r : Turn.Result}
    (hmeanwhile : ∀ x ∈ meanwhile, x.isMeanwhile m.running = true)
    (h : m.turn s c meanwhile reply = (.ok r, m')) :
    ∃ raw said, reply = .ok (.text raw) ∧ Reply.read raw = .ok said ∧
      (∀ x ∈ m'.messages, x.hasId c.messageId = true → x.text = .text r.text) ∧
      (r.sawMarker = true ↔ marker.toList <:+: raw.toList) ∧
      (r.sawMarker = true → r.text ≠ "") ∧
      (∀ i, marker.toList <+: said.spoken.toList.drop i → r.sawMarker = false →
        Sewn (gaps raw.toList 0 (spans raw.toList)) i (i + marker.toList.length)) ∧
      ∀ i, marker.toList <+: r.text.toList.drop i →
        Sewn (split marker.toList said.spoken.toList) i (i + marker.toList.length) ∨
          r.text = Turn.agreement c.persona ∧ marker.toList <:+: c.persona.title.toList := by
  have hstarts : (m.carry (starting s c)).1 = .ok () := by
    cases hx : m.carry (starting s c) with
    | mk x m₁ =>
      cases x with
      | ok _ => rfl
      | error e =>
        rw [turn, hx] at h
        cases h
  obtain ⟨hyields, hplaced⟩ := turn_ends hmeanwhile reply hstarts
  rw [h] at hyields hplaced
  have hending : m.turnEnding s c meanwhile reply = .ok r := by
    rcases hyields with hok | ⟨-, e, he⟩
    · exact hok.symm
    · cases he
  rw [hending] at hplaced
  obtain ⟨raw, said, hreply, hread, htext, hmarked⟩ := Call.exists_of_ending hending
  refine ⟨raw, said, hreply, hread, fun x hx hid => (hplaced.resolved x hx hid).1, ?_, ?_, ?_, ?_⟩
  · rw [hmarked]
    exact Turn.hasMarker_iff
  · rw [hmarked, htext]
    exact Turn.spokenText_ne_empty
  · intro i hsaid hnone
    exact Turn.sewn_spoken hread (hmarked ▸ hnone) hsaid
  · intro i hstays
    rw [htext] at hstays ⊢
    exact Turn.sewn_spokenText hstays

/-- a reply that says nothing but the marker -/
theorem turn_marked_only :
    ∃ r, (firstTurn [] (.ok (.text marker))).1 = .ok r ∧ r.sawMarker = true ∧ r.text ≠ "" := by
  cases hr : (firstTurn [] (.ok (.text marker))).1 with
  | error e =>
    have hsome : (firstTurn [] (.ok (.text marker))).1.toOption.isSome = true := by decide +kernel
    rw [hr] at hsome
    cases hsome
  | ok r =>
    obtain ⟨raw, said, hreply, -, -, hsaw, hempty, -, -⟩ :=
      turn_marked (m := prepared) (s := .silent) (c := firstCall)
        (fun _ hx => absurd hx List.not_mem_nil) (Prod.ext hr rfl)
    have hraw : marker = raw := by injection Except.ok.inj hreply
    have hmarked : r.sawMarker = true := hsaw.mpr (hraw ▸ List.infix_rfl)
    exact ⟨r, rfl, hmarked, hempty hmarked⟩

/-- a marker with a tag in it is taken out and does not count, and one with another in it stays -/
theorem marker_sewn :
    let cut := "<DISCUSSION_<np-x/>COMPLETE>"
    let nested := "Yes <DISCUSSION_<DISCUSSION_COMPLETE>COMPLETE>"
    (Reply.read cut).toOption.map (·.spoken) = some marker ∧
      (firstTurn [] (.ok (.text cut))).1.toOption.map (fun r => (r.text, r.sawMarker)) =
        some ("", false) ∧
      (firstTurn [] (.ok (.text cut))).2.messages.map (·.text) = [.text ""] ∧
      (firstTurn [] (.ok (.text nested))).1.toOption.map (·.sawMarker) = some true ∧
      (firstTurn [] (.ok (.text nested))).2.messages.map (·.text) =
        [.text "Yes <DISCUSSION_COMPLETE>"] := by
  decide +kernel

end Moderator

end Debate
