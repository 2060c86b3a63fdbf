import Debate.Proofs.Shape

/-!
# Starts that are refused

A request, or a failed turn taken once more, starts a run only if the settings are of use: the fixed
mode has a turn at least, and a service is given, or one of the four is asked for and one of them is
configured. All this is found out before anything is done, so a start that is refused leaves nothing
behind.

* `Settings.IsTyped`        settings whose parts are of the types they are declared with;
* `Surroundings.Refuses`    why a start is refused;
* `Surroundings.Provides`   where the replies of a run come from;
* `Moderator.IsStart`       a command that starts a run, unless it is refused.
-/

namespace Debate

variable {σ α β : Type}

/-! ## what decides on a start -/

/-- the parts of settings that decide on a start are of the types they are declared with -/
structure Settings.IsTyped (st : Settings) : Prop where
  turns : st.mode = .fixed → ∃ n, st.maxTurns = .int n
  provider : ∃ t, st.providers.provider = .text t
  gemini : ∃ t, st.providers.gemini.baseUrl = .text t
  openai : ∃ t, st.providers.openai.baseUrl = .text t
  ollama : ∃ t, st.providers.ollama.baseUrl = .text t

/-- why a start is refused -/
inductive Surroundings.Refuses (s : Surroundings σ) (st : Settings) : Prop where
  /-- the fixed mode, without a single turn -/
  | turns {n : Int} (mode : st.mode = .fixed) (turns : st.maxTurns = .int n) (few : n < 1)
  /-- no service is given, and none of the four is asked for -/
  | name (given : s.voice = none)
      (unknown : ∀ p : ProviderName, st.providers.provider ≠ .text p.name)
  /-- no service is given, and none of the four is configured -/
  | service (given : s.voice = none)
      (missing : ∀ p : ProviderName, p.isConfigured st.providers s.environment = false)

/-- where the replies of a run come from -/
inductive Surroundings.Provides (s : Surroundings σ) (st : Settings) : Voice → Prop where
  /-- the service that is given -/
  | given {name : String} (given : s.voice = some name) : Provides s st (.given name)
  /-- otherwise the one that is asked for, if it is configured -/
  | named {p : ProviderName} {provider : Provider} (given : s.voice = none)
      (asked : st.providers.provider = .text p.name)
      (configured : p.isConfigured st.providers s.environment = true)
      (made : Provider.make p st.providers s.environment = .ok provider) :
      Provides s st (.chosen provider)
  /-- otherwise the first one that is configured -/
  | standing {p q : ProviderName} {provider : Provider} (given : s.voice = none)
      (asked : st.providers.provider = .text p.name)
      (missing : p.isConfigured st.providers s.environment = false)
      (first : [ProviderName.gemini, .openai, .ollama, .command].find?
        (fun q => q.isConfigured st.providers s.environment) = some q)
      (made : Provider.make q st.providers s.environment = .ok provider) :
      Provides s st (.chosen provider)

theorem ProviderName.name_injective {p q : ProviderName} (h : p.name = q.name) : p = q := by
  have hsome : ofName? p.name = ofName? q.name := congrArg ofName? h
  rw [ofName?_name, ofName?_name] at hsome
  exact Option.some.inj hsome

theorem Surroundings.Provides.unique {s : Surroundings σ} {st : Settings} {v w : Voice}
    (hv : s.Provides st v) (hw : s.Provides st w) : v = w := by
  have hname {p q : ProviderName} (hp : st.providers.provider = .text p.name)
      (hq : st.providers.provider = .text q.name) : p = q :=
    ProviderName.name_injective (Value.text.inj (hp.symm.trans hq))
  cases hv with
  | given hs =>
    cases hw with
    | given hs' => exact congrArg Voice.given (Option.some.inj (hs.symm.trans hs'))
    | named hs' | standing hs' =>
      rw [hs] at hs'
      cases hs'
  | named hs asked configured made =>
    cases hw with
    | given hs' =>
      rw [hs] at hs'
      cases hs'
    | named _ asked' _ made' =>
      cases hname asked asked'
      rw [made] at made'
      cases made'
      rfl
    | standing _ asked' missing' =>
      cases hname asked asked'
      rw [configured] at missing'
      cases missing'
  | standing hs asked missing first made =>
    cases hw with
    | given hs' =>
      rw [hs] at hs'
      cases hs'
    | named _ asked' configured' =>
      cases hname asked asked'
      rw [missing] at configured'
      cases configured'
    | standing _ _ _ first' made' =>
      rw [first] at first'
      cases first'
      rw [made] at made'
      cases made'
      rfl

/-! ## the choice -/

theorem Settings.IsTyped.hasTooFewTurns {st : Settings} (hst : st.IsTyped) :
    ∃ few, st.hasTooFewTurns = .ok few ∧
      (few = true ↔ ∃ n, st.mode = .fixed ∧ st.maxTurns = .int n ∧ n < 1) := by
  unfold Settings.hasTooFewTurns
  cases hmode : st.mode with
  | agentDriven => exact ⟨false, rfl, by simp⟩
  | fixed =>
    obtain ⟨n, hn⟩ := hst.turns hmode
    rw [hn]
    refine ⟨decide (n * ((1 : Nat) : Int) < 1 * ((1 : Nat) : Int)), rfl, ?_⟩
    simp

theorem Settings.exists_debater (st : Settings) {sender : Sender}
    (h : sender = .agentA ∨ sender = .agentB) : ∃ persona, st.debater sender = .ok persona := by
  rcases h with rfl | rfl <;> exact ⟨_, rfl⟩

namespace Provider

variable {ps : ProviderSettings}

theorem asked_of_name {p : ProviderName} (h : ps.provider = .text p.name) : asked ps = .ok p := by
  rw [asked, h]
  simp [Value.text?, ProviderName.ofName?_name]

theorem asked_of_unknown {t : String} (ht : ps.provider = .text t)
    (h : ∀ p : ProviderName, ps.provider ≠ .text p.name) :
    ∃ message, asked ps = .error (.configuration message) := by
  have hnone : ProviderName.ofName? t = none := by
    refine List.find?_eq_none.mpr fun p _ hp => h p ?_
    rw [ht, of_decide_eq_true hp]
  refine ⟨"Unsupported API provider: " ++ (Value.text t).shown, ?_⟩
  rw [asked, ht]
  simp [Value.text?, hnone]

theorem usable?_eq (p : ProviderName) (ps : ProviderSettings) (env : Environment) :
    usable? p ps env =
      if p.isConfigured ps env then some p
      else [.gemini, .openai, .ollama, .command].find? fun q => q.isConfigured ps env := by
  cases hp : p.isConfigured ps env with
  | true => simp [usable?, hp]
  | false =>
    have hothers : (fun q : ProviderName =>
        decide (decide (q ≠ p) = true ∧ q.isConfigured ps env = true)) =
          fun q => q.isConfigured ps env := by
      funext q
      by_cases hq : q = p
      · simp [hq, hp]
      · simp [hq]
    rw [usable?, List.find?_cons_of_neg (by simp [hp]), List.find?_filter, hothers,
      if_neg Bool.false_ne_true]
    rfl

theorem exists_make {st : Settings} (hst : st.IsTyped) (p : ProviderName) (env : Environment) :
    ∃ provider, make p st.providers env = .ok provider := by
  obtain ⟨t, ht⟩ := hst.gemini
  obtain ⟨t', ht'⟩ := hst.openai
  obtain ⟨t'', ht''⟩ := hst.ollama
  cases p with
  | gemini =>
    obtain ⟨u, hu⟩ : ∃ u, (Value.text t).orElse (.text geminiAddress) = .text u := by
      unfold Value.orElse
      split <;> exact ⟨_, rfl⟩
    rw [make, ht, hu]
    exact ⟨_, rfl⟩
  | openai =>
    rw [make, ht']
    exact ⟨_, rfl⟩
  | ollama =>
    rw [make, ht'']
    exact ⟨_, rfl⟩
  | command => exact ⟨_, rfl⟩

theorem select_of_unknown {t : String} (ht : ps.provider = .text t)
    (h : ∀ p : ProviderName, ps.provider ≠ .text p.name) (env : Environment) :
    ∃ message, select ps env = ([], .error (.configuration message)) := by
  obtain ⟨message, hasked⟩ := asked_of_unknown ht h
  exact ⟨message, by rw [select, hasked]⟩

theorem select_of_missing {p : ProviderName} (hp : ps.provider = .text p.name) {env : Environment}
    (h : ∀ q : ProviderName, q.isConfigured ps env = false) :
    ∃ message, select ps env = ([], .error (.configuration message)) := by
  have hnone : usable? p ps env = none := by
    rw [usable?_eq, h p, if_neg Bool.false_ne_true]
    exact List.find?_eq_none.mpr fun q _ => by rw [h q]; exact Bool.false_ne_true
  exact ⟨_, by rw [select, asked_of_name hp]; dsimp only; rw [hnone]⟩

theorem select_provides {s : Surroundings σ} {st : Settings} (hst : st.IsTyped)
    (given : s.voice = none) {p q : ProviderName} (hp : st.providers.provider = .text p.name)
    (hq : q.isConfigured st.providers s.environment = true) :
    ∃ provider, (select st.providers s.environment).2 = .ok provider ∧
      s.Provides st (.chosen provider) := by
  rw [select, asked_of_name hp]
  dsimp only
  cases hconf : p.isConfigured st.providers s.environment with
  | true =>
    obtain ⟨provider, hmake⟩ := exists_make hst p s.environment
    rw [usable?_eq, hconf, if_pos rfl]
    exact ⟨provider, hmake, .named given hp hconf hmake⟩
  | false =>
    obtain ⟨r, hr⟩ : ∃ r, [ProviderName.gemini, .openai, .ollama, .command].find?
        (fun r => r.isConfigured st.providers s.environment) = some r := by
      refine Option.isSome_iff_exists.mp (List.find?_isSome.mpr ⟨q, ?_, hq⟩)
      cases q <;> decide
    obtain ⟨provider, hmake⟩ := exists_make hst r s.environment
    rw [usable?_eq, hconf, if_neg Bool.false_ne_true, hr]
    exact ⟨provider, hmake, .standing given hp hconf hr hmake⟩

end Provider

namespace Moderator

variable {s : Surroundings σ} {m : Moderator σ}

theorem carry_chooseVoice_given (hfew : m.settings.hasTooFewTurns = .ok false) {name : String}
    (given : s.voice = some name) : m.carry (chooseVoice s) = (.ok (.given name), m) := by
  rw [chooseVoice, carry_bind_ok (carry_get m), hfew, carry_bind_ok (carry_lift m _),
    if_neg Bool.false_ne_true, given]
  rfl

/-- without a service that is given, one of the four is chosen; only warnings are left behind -/
theorem carry_chooseVoice_select (hfew : m.settings.hasTooFewTurns = .ok false)
    (given : s.voice = none) {warnings : List String} {r : Except Fault Provider}
    (hselect : Provider.select m.settings.providers s.environment = (warnings, r)) :
    ∃ j, (warnings = [] → j = m.journal) ∧
      m.carry (chooseVoice s) = (r.map .chosen, m.withJournal j) := by
  rw [chooseVoice, carry_bind_ok (carry_get m), hfew, carry_bind_ok (carry_lift m _),
    if_neg Bool.false_ne_true, given]
  dsimp only
  rw [hselect]
  cases warnings with
  | nil => exact ⟨m.journal, fun _ => rfl, by cases r <;> rfl⟩
  | cons w ws =>
    obtain ⟨j, hj⟩ := carry_remarks .warning (w :: ws) m
    refine ⟨j, fun hnil => absurd hnil (List.cons_ne_nil w ws), ?_⟩
    rw [carry_bind_ok hj]
    cases r <;> rfl

/-- a choice that is refused leaves nothing behind -/
theorem carry_chooseVoice_of_refuses (hst : m.settings.IsTyped) (h : s.Refuses m.settings) :
    ∃ message, m.carry (chooseVoice s) = (.error (.configuration message), m) := by
  obtain ⟨few, hfew, hturns⟩ := hst.hasTooFewTurns
  cases few with
  | true =>
    rw [chooseVoice, carry_bind_ok (carry_get m), hfew, carry_bind_ok (carry_lift m _)]
    exact ⟨_, rfl⟩
  | false =>
    obtain ⟨given, message, hselect⟩ : s.voice = none ∧ ∃ message,
        Provider.select m.settings.providers s.environment =
          ([], .error (.configuration message)) := by
      obtain ⟨t, ht⟩ := hst.provider
      cases h with
      | turns mode turns few => exact absurd (hturns.mpr ⟨_, mode, turns, few⟩) Bool.false_ne_true
      | name given unknown => exact ⟨given, Provider.select_of_unknown ht unknown _⟩
      | service given missing =>
        -- a name that does not exist is found out before the services are looked at
        by_cases hname : ∃ p : ProviderName, m.settings.providers.provider = .text p.name
        · obtain ⟨p, hp⟩ := hname
          exact ⟨given, Provider.select_of_missing hp missing⟩
        · exact ⟨given, Provider.select_of_unknown ht (not_exists.mp hname) _⟩
    obtain ⟨j, hj, hcarry⟩ := carry_chooseVoice_select hfew given hselect
    rw [hj rfl] at hcarry
    exact ⟨message, hcarry⟩

theorem carry_chooseVoice_of_not_refuses (hst : m.settings.IsTyped)
    (h : ¬ s.Refuses m.settings) :
    ∃ voice j, s.Provides m.settings voice ∧
      m.carry (chooseVoice s) = (.ok voice, m.withJournal j) := by
  obtain ⟨few, hfew, hturns⟩ := hst.hasTooFewTurns
  have hsome : few = false := by
    refine Bool.eq_false_iff.mpr fun hf => ?_
    obtain ⟨n, mode, turns, few⟩ := hturns.mp hf
    exact h (.turns mode turns few)
  rw [hsome] at hfew
  cases given : s.voice with
  | some name => exact ⟨.given name, m.journal, .given given, carry_chooseVoice_given hfew given⟩
  | none =>
    obtain ⟨p, hp⟩ : ∃ p : ProviderName, m.settings.providers.provider = .text p.name :=
      Classical.byContradiction fun hno => h (.name given (not_exists.mp hno))
    obtain ⟨q, hq⟩ : ∃ q : ProviderName,
        q.isConfigured m.settings.providers s.environment = true :=
      Classical.byContradiction fun hno =>
        h (.service given fun q => Bool.eq_false_iff.mpr (not_exists.mp hno q))
    obtain ⟨provider, hmade, hprovides⟩ := Provider.select_provides hst given hp hq
    rcases hselect : Provider.select m.settings.providers s.environment with ⟨warnings, r⟩
    obtain ⟨j, -, hj⟩ := carry_chooseVoice_select hfew given hselect
    rw [hselect] at hmade
    rw [show r = .ok provider from hmade] at hj
    exact ⟨.chosen provider, j, hprovides, hj⟩

/-! ## starts -/

/-- a command that starts a run, unless it is refused: a request, or the retry of a failed turn whose
message is there and was a persona's -/
inductive IsStart (m : Moderator σ) : Command → Prop where
  | submit (text image : Value) : IsStart m (.submit text image)
  | retry {step : FailedStep} {previous : Message} (failed : m.failedStep = some step)
      (found : m.store.conversation.find? step.messageId = some previous)
      (sender : step.sender = .agentA ∨ step.sender = .agentB) : IsStart m .retry

/-- a start for which no service can be chosen does nothing else -/
theorem carry_obey_of_isStart (hrun : m.running = false) {cmd : Command} (hcmd : m.IsStart cmd)
    {e : Fault} {m' : Moderator σ} (h : m.carry (chooseVoice s) = (.error e, m')) :
    m.carry (obey s cmd) = (.error e, m') := by
  cases hcmd with
  | submit text image =>
    refine carry_bind_error ?_ _
    rw [submit, carry_bind_ok (carry_get m), hrun, if_neg Bool.false_ne_true]
    exact carry_bind_error h _
  | retry failed found sender =>
    obtain ⟨persona, hpersona⟩ := m.settings.exists_debater sender
    refine carry_bind_error ?_ _
    rw [retry, carry_bind_ok (carry_get m), failed]
    dsimp only
    rw [hrun, if_neg Bool.false_ne_true, found]
    dsimp only
    rw [hpersona]
    exact carry_bind_error h _

end Moderator

end Debate
