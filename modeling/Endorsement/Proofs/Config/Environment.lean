import Endorsement.Config.Environment
import Endorsement.Proofs.Text.Decimal
import Endorsement.Proofs.Wire.Basic

/-!
# Which environments give settings

Settings are read from an environment if every text in it is one that its setting can
have. The variables are read one after the other and what was read is checked at the
end, so that of several offences the one reported is not the first variable's, but the
first in the order of `Fault.rank`.

* `IsLifetime`, `Balance.IsNamed`, `IsPort`, `IsSwitch`: what the texts of the variables
  say;
* `Valid`, `Gives`: an environment that is accepted, and the settings it gives;
* `Offence`: what an environment can be refused for;
* `ofEnvironment_cases`: an environment is refused for its first offence, or gives its
  settings.
-/

namespace Endorsement

/-! ## Variables -/

/-- A variable has a text if it holds the text or its bytes. -/
theorem Environment.text?_eq_some_iff {env : Environment} {name text : String} :
    env.text? name = some text ↔
      env name = some (.text text) ∨ env name = some (.bytes (Utf8.encode text)) := by
  rw [text?]
  rcases env name with - | ⟨value⟩ | ⟨bytes⟩
  · simp
  · simp
  · have hdecode : (Utf8.decode bytes).toOption = some text ↔ Utf8.decode bytes = .ok text := by
      rcases Utf8.decode bytes with _ | _ <;> simp [Except.toOption]
    simp [hdecode, Wire.utf8Decode_eq_ok_iff]

/-- A variable without a text is unset, or holds bytes that are those of no text. -/
theorem Environment.text?_eq_none_iff {env : Environment} {name : String} :
    env.text? name = none ↔
      env name = none ∨
        ∃ bytes, env name = some (.bytes bytes) ∧ ∀ text, bytes ≠ Utf8.encode text := by
  rw [Option.eq_none_iff_forall_ne_some]
  simp only [Ne, text?_eq_some_iff]
  rcases env name with - | ⟨value⟩ | ⟨bytes⟩ <;> simp

/-! ## Texts of settings -/

theorem Duration.ofMillis_eq_zero_iff {millis : Nat} : ofMillis millis = zero ↔ millis = 0 := by
  rw [ofMillis, zero, Duration.mk.injEq, Nat.mul_eq_zero, or_iff_left (by decide)]

/-- The names of a way to choose, with small letters. -/
def Balance.names : Balance → List String
  | .random => ["random"]
  | .roundRobin => ["round_robin", "roundrobin", "round-robin"]

/-- A text names a way to choose, in any case of the letters `A` to `Z`. -/
def Balance.IsNamed (text : String) (balance : Balance) : Prop := Text.lower text ∈ balance.names

theorem Balance.IsNamed.unique {text : String} {balance balance' : Balance}
    (h : IsNamed text balance) (h' : IsNamed text balance') : balance = balance' := by
  cases balance <;> cases balance' <;> simp_all [IsNamed, names]

theorem Balance.ofName_cases (text : String) :
    ((∀ balance, ¬IsNamed text balance) ∧
        ofName text = .error (.unknownBalance (Text.lower text))) ∨
      ∃ balance, IsNamed text balance ∧ ofName text = .ok balance := by
  simp only [ofName, IsNamed]
  split_ifs with hrandom hrobin
  · exact .inr ⟨.random, by simp [names, hrandom], rfl⟩
  · exact .inr ⟨.roundRobin, by simpa [names] using hrobin, rfl⟩
  · refine .inl ⟨fun balance => ?_, rfl⟩
    cases balance with
    | random => simpa [names] using hrandom
    | roundRobin => simpa [names] using hrobin

namespace Config

/-- A text is that of a lifetime: of a number of milliseconds of 64 bits. -/
def IsLifetime (text : String) (lifetime : Duration) : Prop :=
  ∃ millis, Text.IsUnsigned text millis ∧ millis < 2 ^ 64 ∧ lifetime = .ofMillis millis

/-- A text is that of a port. -/
def IsPort (text : String) (port : UInt16) : Prop := Text.IsUnsigned text port.toNat

/-- A text is that of a switch, which is off for `0` and for `false` in any case. -/
def IsSwitch (text : String) (on : Bool) : Prop :=
  on = false ↔ text = "0" ∨ Text.lower text = "false"

/-- A setting has the value that the text of its variable says, or its default if there
    is no text. -/
def Given {α : Type} (text? : Option String) (Means : String → α → Prop) (default value : α) :
    Prop :=
  (text? = none ∧ value = default) ∨ ∃ text, text? = some text ∧ Means text value

/-- The settings that an environment gives. -/
structure Gives (env : Environment) (config : Config) : Prop where
  lifetime : Given (env.text? "ES_MEMBERSHIP_CACHE_TTL_MS") IsLifetime
    ({} : Config).lifetime config.lifetime
  balance : Given (env.text? "ES_LOAD_BALANCE_POLICY") Balance.IsNamed
    ({} : Config).balance config.balance
  eventPort : Given (env.text? "ES_EVENT_PORT") IsPort ({} : Config).eventPort config.eventPort
  pollingEnabled : Given (env.text? "ES_POLLING_ENABLED") IsSwitch
    ({} : Config).pollingEnabled config.pollingEnabled

/-- Every text of an environment is one that its setting can have. -/
structure Valid (env : Environment) : Prop where
  lifetime : ∀ text, env.text? "ES_MEMBERSHIP_CACHE_TTL_MS" = some text →
    ∃ millis, Text.IsUnsigned text millis ∧ 1 ≤ millis ∧ millis ≤ 2 ^ 64 - 1
  balance : ∀ text, env.text? "ES_LOAD_BALANCE_POLICY" = some text →
    ∃ balance, Balance.IsNamed text balance
  eventPort : ∀ text, env.text? "ES_EVENT_PORT" = some text →
    ∃ port, Text.IsUnsigned text port ∧ 1 ≤ port ∧ port ≤ 65535

/-- What an environment can be refused for. -/
inductive Offence (env : Environment) : Fault → Prop where
  | lifetimeText {text : String} (given : env.text? "ES_MEMBERSHIP_CACHE_TTL_MS" = some text)
      (bad : ∀ lifetime, ¬IsLifetime text lifetime) : Offence env (.badLifetime text)
  | balanceName {text : String} (given : env.text? "ES_LOAD_BALANCE_POLICY" = some text)
      (unknown : ∀ balance, ¬Balance.IsNamed text balance) :
      Offence env (.unknownBalance (Text.lower text))
  | portText {text : String} (given : env.text? "ES_EVENT_PORT" = some text)
      (bad : ∀ port, ¬IsPort text port) : Offence env (.badPort text)
  | zeroLifetime {text : String} (given : env.text? "ES_MEMBERSHIP_CACHE_TTL_MS" = some text)
      (zero : IsLifetime text .zero) : Offence env .zeroLifetime
  | zeroPort {text : String} (given : env.text? "ES_EVENT_PORT" = some text)
      (zero : IsPort text 0) : Offence env .zeroPort

/-- The place of a fault in the order of the checks. -/
def Fault.rank : Fault → Nat
  | .badLifetime _ => 0
  | .unknownBalance _ => 1
  | .badPort _ => 2
  | .zeroLifetime => 3
  | .zeroPort => 4

/-- Before the check at a place, there is nothing that an environment is refused for. -/
def Cleared (env : Environment) (place : Nat) : Prop :=
  ∀ fault, Offence env fault → place ≤ fault.rank

section

variable {env : Environment} {config : Config} {fault : Fault}

/-! ## Variables one at a time -/

theorem IsLifetime.unique {text : String} {lifetime lifetime' : Duration}
    (h : IsLifetime text lifetime) (h' : IsLifetime text lifetime') : lifetime = lifetime' := by
  obtain ⟨millis, hmillis, -, rfl⟩ := h
  obtain ⟨millis', hmillis', -, rfl⟩ := h'
  rw [hmillis.unique hmillis']

theorem isPort_ofNat {text : String} {value : Nat} (h : Text.IsUnsigned text value)
    (hle : value ≤ 65535) : IsPort text (UInt16.ofNat value) := by
  rw [IsPort, UInt16.toNat_ofNat_of_lt' (Nat.lt_succ_of_le hle)]
  exact h

theorem IsPort.unique {text : String} {port port' : UInt16} (h : IsPort text port)
    (h' : IsPort text port') : port = port' :=
  UInt16.toNat_inj.1 (Text.IsUnsigned.unique h h')

theorem IsSwitch.unique {text : String} {on on' : Bool} (h : IsSwitch text on)
    (h' : IsSwitch text on') : on = on' := by
  have hoff : on = false ↔ on' = false := h.trans h'.symm
  rwa [Bool.eq_iff_iff, ← not_iff_not, Bool.not_eq_true, Bool.not_eq_true]

theorem Given.means {α : Type} {text? : Option String} {Means : String → α → Prop}
    {default value : α} {text : String} (h : Given text? Means default value)
    (htext : text? = some text) : Means text value := by
  rcases h with ⟨hnone, -⟩ | ⟨text', htext', hmeans⟩
  · exact absurd (hnone.symm.trans htext) (Option.some_ne_none text).symm
  · obtain rfl := Option.some.inj (htext'.symm.trans htext)
    exact hmeans

/-- What the texts say is all that settings depend on. -/
theorem Given.unique {α : Type} {text? : Option String} {Means : String → α → Prop}
    {default value value' : α}
    (h : Given text? Means default value) (h' : Given text? Means default value')
    (hmeans : ∀ {text a b}, Means text a → Means text b → a = b) : value = value' := by
  rcases h with ⟨hnone, rfl⟩ | ⟨text, htext, hvalue⟩
  · exact (h'.resolve_right fun ⟨_, htext, _⟩ => nomatch hnone.symm.trans htext).2.symm
  · exact hmeans hvalue (h'.means htext)

/-- A setting that is not what its default is was said by a text. -/
theorem Given.exists_text {α : Type} {text? : Option String} {Means : String → α → Prop}
    {default value : α} (h : Given text? Means default value) (hne : value ≠ default) :
    ∃ text, text? = some text ∧ Means text value :=
  h.resolve_left fun hdefault => hne hdefault.2

/-- The lifetime is refused for its text, or set as that says. -/
theorem readLifetime_cases (env : Environment) (config : Config) :
    (∃ text, env.text? "ES_MEMBERSHIP_CACHE_TTL_MS" = some text ∧
        (∀ lifetime, ¬IsLifetime text lifetime) ∧
        readLifetime env config = .error (.badLifetime text)) ∨
      ∃ lifetime,
        Given (env.text? "ES_MEMBERSHIP_CACHE_TTL_MS") IsLifetime config.lifetime lifetime ∧
        readLifetime env config = .ok { config with lifetime } := by
  rw [readLifetime]
  cases htext : env.text? "ES_MEMBERSHIP_CACHE_TTL_MS" with
  | none => exact .inr ⟨config.lifetime, .inl ⟨rfl, rfl⟩, rfl⟩
  | some text =>
    cases hread : Text.unsigned? Text.limit64 text with
    | none =>
      refine .inl ⟨text, rfl, ?_, by simp only [hread]⟩
      rintro _ ⟨millis, hmillis, hlt, -⟩
      exact absurd (Text.unsigned?_eq_none_iff.1 hread millis hmillis)
        (Nat.not_lt.2 (Nat.le_of_lt_succ hlt))
    | some millis =>
      obtain ⟨hmillis, hle⟩ := Text.unsigned?_eq_some_iff.1 hread
      exact .inr ⟨.ofMillis millis,
        .inr ⟨text, rfl, millis, hmillis, Nat.lt_succ_of_le hle, rfl⟩, by simp only [hread]⟩

/-- The balance is refused for its text, or set as that says. -/
theorem readBalance_cases (env : Environment) (config : Config) :
    (∃ text, env.text? "ES_LOAD_BALANCE_POLICY" = some text ∧
        (∀ balance, ¬Balance.IsNamed text balance) ∧
        readBalance env config = .error (.unknownBalance (Text.lower text))) ∨
      ∃ balance,
        Given (env.text? "ES_LOAD_BALANCE_POLICY") Balance.IsNamed config.balance balance ∧
        readBalance env config = .ok { config with balance } := by
  rw [readBalance]
  cases htext : env.text? "ES_LOAD_BALANCE_POLICY" with
  | none => exact .inr ⟨config.balance, .inl ⟨rfl, rfl⟩, rfl⟩
  | some text =>
    rcases Balance.ofName_cases text with ⟨hunknown, hread⟩ | ⟨balance, hnamed, hread⟩
    · exact .inl ⟨text, rfl, hunknown, by simp only [hread, Except.map]⟩
    · exact .inr ⟨balance, .inr ⟨text, rfl, hnamed⟩, by simp only [hread, Except.map]⟩

/-- The port is refused for its text, or set as that says. -/
theorem readPort_cases (env : Environment) (config : Config) :
    (∃ text, env.text? "ES_EVENT_PORT" = some text ∧ (∀ port, ¬IsPort text port) ∧
        readPort env config = .error (.badPort text)) ∨
      ∃ eventPort, Given (env.text? "ES_EVENT_PORT") IsPort config.eventPort eventPort ∧
        readPort env config = .ok { config with eventPort } := by
  rw [readPort]
  cases htext : env.text? "ES_EVENT_PORT" with
  | none => exact .inr ⟨config.eventPort, .inl ⟨rfl, rfl⟩, rfl⟩
  | some text =>
    cases hread : Text.unsigned? Text.limit16 text with
    | none =>
      refine .inl ⟨text, rfl, fun port hport => ?_, by simp only [hread]⟩
      exact absurd (Text.unsigned?_eq_none_iff.1 hread _ hport)
        (Nat.not_lt.2 (Nat.le_of_lt_succ port.toNat_lt))
    | some value =>
      obtain ⟨hvalue, hle⟩ := Text.unsigned?_eq_some_iff.1 hread
      exact .inr ⟨UInt16.ofNat value, .inr ⟨text, rfl, isPort_ofNat hvalue hle⟩,
        by simp only [hread]⟩

theorem readPolling_cases (env : Environment) (config : Config) :
    ∃ pollingEnabled,
      Given (env.text? "ES_POLLING_ENABLED") IsSwitch config.pollingEnabled pollingEnabled ∧
      readPolling env config = { config with pollingEnabled } := by
  rw [readPolling]
  cases htext : env.text? "ES_POLLING_ENABLED" with
  | none => exact ⟨config.pollingEnabled, .inl ⟨rfl, rfl⟩, rfl⟩
  | some text =>
    refine ⟨!Text.isOff text, .inr ⟨text, rfl, ?_⟩, rfl⟩
    rw [IsSwitch, Text.isOff, Bool.not_eq_false', Bool.or_eq_true, beq_iff_eq, beq_iff_eq, or_comm]

theorem validate_cases (config : Config) :
    (config.lifetime = .zero ∧ config.validate = .error .zeroLifetime) ∨
      (config.lifetime ≠ .zero ∧ config.eventPort = 0 ∧ config.validate = .error .zeroPort) ∨
      (config.lifetime ≠ .zero ∧ config.eventPort ≠ 0 ∧ config.validate = .ok ()) := by
  rw [validate]
  split_ifs with hlifetime hport
  · exact .inl ⟨hlifetime, rfl⟩
  · exact .inr (.inl ⟨hlifetime, hport, rfl⟩)
  · exact .inr (.inr ⟨hlifetime, hport, rfl⟩)

/-! ## One check after the other -/

theorem cleared_zero (env : Environment) : Cleared env 0 :=
  fun fault _ => Nat.zero_le fault.rank

theorem Cleared.next {place : Nat} (h : Cleared env place)
    (hplace : ∀ fault, Offence env fault → fault.rank ≠ place) : Cleared env (place + 1) :=
  fun fault hoffence => Nat.lt_of_le_of_ne (h fault hoffence) (hplace fault hoffence).symm

theorem Cleared.lifetimeText {default lifetime : Duration} (h : Cleared env 0)
    (hgiven : Given (env.text? "ES_MEMBERSHIP_CACHE_TTL_MS") IsLifetime default lifetime) :
    Cleared env 1 := by
  refine h.next fun fault hoffence hrank => ?_
  cases hoffence with
  | lifetimeText htext hbad => exact hbad lifetime (hgiven.means htext)
  | _ => cases hrank

theorem Cleared.balanceName {default balance : Balance} (h : Cleared env 1)
    (hgiven : Given (env.text? "ES_LOAD_BALANCE_POLICY") Balance.IsNamed default balance) :
    Cleared env 2 := by
  refine h.next fun fault hoffence hrank => ?_
  cases hoffence with
  | balanceName htext hunknown => exact hunknown balance (hgiven.means htext)
  | _ => cases hrank

theorem Cleared.portText {default port : UInt16} (h : Cleared env 2)
    (hgiven : Given (env.text? "ES_EVENT_PORT") IsPort default port) : Cleared env 3 := by
  refine h.next fun fault hoffence hrank => ?_
  cases hoffence with
  | portText htext hbad => exact hbad port (hgiven.means htext)
  | _ => cases hrank

theorem Cleared.zeroLifetime {default lifetime : Duration} (h : Cleared env 3)
    (hgiven : Given (env.text? "ES_MEMBERSHIP_CACHE_TTL_MS") IsLifetime default lifetime)
    (hne : lifetime ≠ .zero) : Cleared env 4 := by
  refine h.next fun fault hoffence hrank => ?_
  cases hoffence with
  | zeroLifetime htext hzero => exact hne ((hgiven.means htext).unique hzero)
  | _ => cases hrank

theorem Cleared.zeroPort {default port : UInt16} (h : Cleared env 4)
    (hgiven : Given (env.text? "ES_EVENT_PORT") IsPort default port) (hne : port ≠ 0) :
    Cleared env 5 := by
  refine h.next fun fault hoffence hrank => ?_
  cases hoffence with
  | zeroPort htext hzero => exact hne ((hgiven.means htext).unique hzero)
  | _ => cases hrank

/-- After all checks, there is nothing at all. -/
theorem Cleared.not_offence (h : Cleared env 5) : ¬Offence env fault := by
  intro hoffence
  have hrank := h fault hoffence
  cases hoffence <;> simp [Fault.rank] at hrank

/-- At each place there is at most one fault. -/
theorem Offence.unique {other : Fault} (h : Offence env fault) (h' : Offence env other)
    (hrank : fault.rank = other.rank) : fault = other := by
  cases h <;> cases h' <;> simp_all [Fault.rank]

/-! ## The whole environment -/

/-- An environment is refused for its first offence, or it has none and gives its
    settings, which have no zeros. -/
theorem ofEnvironment_cases (env : Environment) :
    (∃ fault, Offence env fault ∧ Cleared env fault.rank ∧ ofEnvironment env = .error fault) ∨
      ∃ config, (∀ fault, ¬Offence env fault) ∧ Gives env config ∧ config.lifetime ≠ .zero ∧
        config.eventPort ≠ 0 ∧ ofEnvironment env = .ok config := by
  have h₀ := cleared_zero env
  rcases readLifetime_cases env {} with ⟨text, hgiven, hbad, hread₁⟩ | ⟨lifetime, hlifetime, hread₁⟩
  · refine .inl ⟨_, .lifetimeText hgiven hbad, h₀, ?_⟩
    simp [ofEnvironment, bind, Except.bind, hread₁]
  have h₁ := h₀.lifetimeText hlifetime
  rcases readBalance_cases env { lifetime } with
    ⟨text, hgiven, hbad, hread₂⟩ | ⟨balance, hbalance, hread₂⟩
  · refine .inl ⟨_, .balanceName hgiven hbad, h₁, ?_⟩
    simp [ofEnvironment, bind, Except.bind, hread₁, hread₂]
  have h₂ := h₁.balanceName hbalance
  rcases readPort_cases env { lifetime, balance } with
    ⟨text, hgiven, hbad, hread₃⟩ | ⟨eventPort, hport, hread₃⟩
  · refine .inl ⟨_, .portText hgiven hbad, h₂, ?_⟩
    simp [ofEnvironment, bind, Except.bind, hread₁, hread₂, hread₃]
  have h₃ := h₂.portText hport
  obtain ⟨pollingEnabled, hpolling, hread₄⟩ :=
    readPolling_cases env { lifetime, balance, eventPort }
  -- The lifetime and the port can only be zero by a text, since no default is.
  rcases validate_cases { lifetime, balance, eventPort, pollingEnabled } with
    ⟨hzero, hcheck⟩ | ⟨hpositive, hzero, hcheck⟩ | ⟨hpositive, hport', hcheck⟩
  · obtain ⟨text, htext, hmeans⟩ := hlifetime.exists_text (hzero.trans_ne (by decide))
    refine .inl ⟨_, .zeroLifetime htext (hzero ▸ hmeans), h₃, ?_⟩
    simp [ofEnvironment, bind, Except.bind, hread₁, hread₂, hread₃, hread₄, hcheck]
  · have hdefault : (0 : UInt16) ≠ 7053 := by decide
    obtain ⟨text, htext, hmeans⟩ := hport.exists_text (hzero.trans_ne hdefault)
    have h₄ := h₃.zeroLifetime hlifetime hpositive
    refine .inl ⟨_, .zeroPort htext (hzero ▸ hmeans), h₄, ?_⟩
    simp [ofEnvironment, bind, Except.bind, hread₁, hread₂, hread₃, hread₄, hcheck]
  · have h₅ := (h₃.zeroLifetime hlifetime hpositive).zeroPort hport hport'
    refine .inr ⟨_, fun _ => h₅.not_offence, ⟨hlifetime, hbalance, hport, hpolling⟩, hpositive,
      hport', ?_⟩
    simp [ofEnvironment, bind, Except.bind, hread₁, hread₂, hread₃, hread₄, hcheck, pure,
      Except.pure]

/-! ## Valid environments -/

/-- Settings without zeros are given by valid texts only. -/
theorem Gives.valid (h : Gives env config) (hpositive : config.lifetime ≠ .zero)
    (hport : config.eventPort ≠ 0) : Valid env := by
  refine ⟨fun text htext => ?_, fun text htext => ⟨_, h.balance.means htext⟩, fun text htext => ?_⟩
  · obtain ⟨millis, hmillis, hlt, hof⟩ := h.lifetime.means htext
    refine ⟨millis, hmillis, Nat.one_le_iff_ne_zero.2 ?_, Nat.le_pred_of_lt hlt⟩
    rintro rfl
    exact hpositive hof
  · refine ⟨_, h.eventPort.means htext, Nat.one_le_iff_ne_zero.2 fun hzero => hport ?_,
      Nat.le_pred_of_lt config.eventPort.toNat_lt⟩
    exact UInt16.toNat_inj.1 hzero

/-- A valid environment is refused for nothing. -/
theorem Valid.not_offence (h : Valid env) : ¬Offence env fault := by
  rintro (⟨htext, hbad⟩ | ⟨htext, hunknown⟩ | ⟨htext, hbad⟩ | ⟨htext, millis, hmillis, -, hzero⟩ |
    ⟨htext, hzero⟩)
  · obtain ⟨millis, hmillis, -, hle⟩ := h.lifetime _ htext
    exact hbad _ ⟨millis, hmillis, Nat.lt_of_le_pred (by decide) hle, rfl⟩
  · obtain ⟨balance, hnamed⟩ := h.balance _ htext
    exact hunknown balance hnamed
  · obtain ⟨port, hport, -, hle⟩ := h.eventPort _ htext
    exact hbad _ (isPort_ofNat hport hle)
  · obtain ⟨millis', hmillis', hpositive, -⟩ := h.lifetime _ htext
    obtain rfl := hmillis.unique hmillis'
    exact absurd (Duration.ofMillis_eq_zero_iff.1 hzero.symm) (Nat.ne_of_gt hpositive)
  · obtain ⟨port, hport, hpositive, -⟩ := h.eventPort _ htext
    exact absurd (hport.unique hzero) (Nat.ne_of_gt hpositive)

/-- An environment gives at most one value to each of the settings. -/
theorem Gives.unique {config' : Config} (h : Gives env config) (h' : Gives env config') :
    config = config' := by
  rcases config with ⟨lifetime, balance, eventPort, pollingEnabled⟩
  obtain rfl := h.lifetime.unique h'.lifetime IsLifetime.unique
  obtain rfl := h.balance.unique h'.balance Balance.IsNamed.unique
  obtain rfl := h.eventPort.unique h'.eventPort IsPort.unique
  obtain rfl := h.pollingEnabled.unique h'.pollingEnabled IsSwitch.unique
  rfl

theorem ofEnvironment_eq_ok_iff :
    ofEnvironment env = .ok config ↔ Valid env ∧ Gives env config := by
  rcases ofEnvironment_cases env with
    ⟨fault, hoffence, -, hof⟩ | ⟨config', -, hgives, hpositive, hport, hof⟩
  · rw [hof]
    exact ⟨nofun, fun h => absurd hoffence h.1.not_offence⟩
  · rw [hof, Except.ok.injEq]
    constructor
    · rintro rfl
      exact ⟨hgives.valid hpositive hport, hgives⟩
    · exact fun h => hgives.unique h.2

theorem ofEnvironment_eq_error_iff :
    ofEnvironment env = .error fault ↔ Offence env fault ∧ Cleared env fault.rank := by
  rcases ofEnvironment_cases env with
    ⟨fault', hoffence, hcleared, hof⟩ | ⟨config', hnone, -, -, -, hof⟩
  · rw [hof, Except.error.injEq]
    constructor
    · rintro rfl
      exact ⟨hoffence, hcleared⟩
    · rintro ⟨hoffence', hcleared'⟩
      exact hoffence.unique hoffence'
        (Nat.le_antisymm (hcleared fault hoffence') (hcleared' fault' hoffence))
  · rw [hof]
    exact ⟨nofun, fun h => absurd h.1 (hnone fault)⟩

/-- An environment gives settings iff its texts are valid, and then those that the texts
    say, with defaults for the variables without a text, and without zeros. Otherwise it is
    refused for its first offence. Texts may be given by their bytes; other bytes count as
    no text. -/
theorem ofEnvironment_valid_or_refused (env : Environment) :
    ((∃ config, ofEnvironment env = .ok config) ↔ Valid env) ∧
      (∀ config, ofEnvironment env = .ok config ↔ Valid env ∧ Gives env config) ∧
      (∀ config, ofEnvironment env = .ok config → config.lifetime ≠ .zero ∧ config.eventPort ≠ 0) ∧
      (∀ fault, ofEnvironment env = .error fault ↔
        Offence env fault ∧ ∀ other, Offence env other → fault.rank ≤ other.rank) ∧
      (∀ name text, env.text? name = some text ↔
        env name = some (.text text) ∨ env name = some (.bytes (Utf8.encode text))) ∧
      (∀ name, env.text? name = none ↔ env name = none ∨
        ∃ bytes, env name = some (.bytes bytes) ∧ ∀ text, bytes ≠ Utf8.encode text) := by
  refine ⟨⟨?_, fun hvalid => ?_⟩, fun _ => ofEnvironment_eq_ok_iff, fun config hconfig => ?_,
    fun _ => ofEnvironment_eq_error_iff, fun _ _ => Environment.text?_eq_some_iff,
    fun _ => Environment.text?_eq_none_iff⟩
  · rintro ⟨config, hconfig⟩
    exact (ofEnvironment_eq_ok_iff.1 hconfig).1
  · rcases ofEnvironment_cases env with ⟨_, hoffence, -⟩ | ⟨config, -, -, -, -, hof⟩
    · exact absurd hoffence hvalid.not_offence
    · exact ⟨config, hof⟩
  · rcases ofEnvironment_cases env with ⟨_, -, -, hof⟩ | ⟨config', -, -, hpositive, hport, hof⟩
    · exact nomatch hof.symm.trans hconfig
    · obtain rfl := Except.ok.inj (hof.symm.trans hconfig)
      exact ⟨hpositive, hport⟩

end

/-- An environment with a sign, with a name in capitals, with a port that is no text, and
    with polling turned off. -/
def mixedEnvironment : Environment
  | "ES_MEMBERSHIP_CACHE_TTL_MS" => some (.text "+0125")
  | "ES_LOAD_BALANCE_POLICY" => some (.bytes (Utf8.encode "Round-ROBIN"))
  | "ES_EVENT_PORT" => some (.bytes [0xFF])
  | "ES_POLLING_ENABLED" => some (.text "FALSE")
  | _ => none

/-- It gives settings of which only the port is as it is by default. -/
theorem ofEnvironment_mixedEnvironment :
    ofEnvironment mixedEnvironment =
      .ok { lifetime := .ofMillis 125, balance := .roundRobin, eventPort := 7053,
            pollingEnabled := false } := by
  have hlifetime : mixedEnvironment.text? "ES_MEMBERSHIP_CACHE_TTL_MS" = some "+0125" := rfl
  have hbalance : mixedEnvironment.text? "ES_LOAD_BALANCE_POLICY" = some "Round-ROBIN" :=
    Environment.text?_eq_some_iff.2 (.inr rfl)
  have hport : mixedEnvironment.text? "ES_EVENT_PORT" = none := by decide
  have hpolling : mixedEnvironment.text? "ES_POLLING_ENABLED" = some "FALSE" := rfl
  have hunsigned : Text.IsUnsigned "+0125" 125 :=
    ⟨['0', '1', '2', '5'], by decide, List.all_eq_true.1 rfl, by decide, .inr rfl⟩
  have hnamed : Balance.IsNamed "Round-ROBIN" .roundRobin := by unfold Balance.IsNamed; decide
  have hswitch : IsSwitch "FALSE" false := by unfold IsSwitch; decide
  refine ((ofEnvironment_valid_or_refused mixedEnvironment).2.1 _).2 ⟨⟨?_, ?_, ?_⟩, ?_, ?_, ?_, ?_⟩
  · rintro _ ⟨⟩
    exact ⟨125, hunsigned, by decide, by decide⟩
  · intro text htext
    obtain rfl := Option.some.inj (hbalance.symm.trans htext)
    exact ⟨.roundRobin, hnamed⟩
  · exact fun text htext => nomatch hport.symm.trans htext
  · exact .inr ⟨_, hlifetime, 125, hunsigned, by decide, rfl⟩
  · exact .inr ⟨_, hbalance, hnamed⟩
  · exact .inl ⟨hport, rfl⟩
  · exact .inr ⟨_, hpolling, hswitch⟩

end Config

end Endorsement
