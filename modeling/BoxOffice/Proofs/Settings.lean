import BoxOffice.Config
import BoxOffice.Proofs.Text.Numeral
import Mathlib.Logic.Function.Basic

/-!
# Settings

How the settings of the program depend on the texts that they are read from.

1. A value gives what stands in it between blanks, and nothing if that is empty (`Gives`). It is all that is
   read of the value (`setting_eq_iff`).
2. An address and a time may be refused, no other setting can be. `ConfiguredBy` says of settings what the
   values have to give for them, each under its own name, and these settings are made (`ofLookup_eq_ok_iff`).
3. Of two faults the address is reported (`ofLookup_eq_address_error_iff`).
4. Values that give the same make the same settings, so that blanks around a value, and blank values, make no
   difference (`ofLookup_congr`).
-/

namespace BoxOffice

open BoxOffice.Net BoxOffice.Text

/-! ## Values -/

/-- What a value gives to a setting: what stands in it between blanks, or nothing if it is missing or blank. -/
inductive Gives : Option String → Option String → Prop
  | missing : Gives none none
  | blank {text : String} : (∀ c ∈ text.toList, isBlank c = true) → Gives (some text) none
  | between {text t : String} {before after : List Char} : text.toList = before ++ t.toList ++ after →
      (∀ c ∈ before, isBlank c = true) → (∀ c ∈ after, isBlank c = true) → t.toList ≠ [] →
      Trimmed t.toList → Gives (some text) (some t)

/-- Two values give the same. -/
def SameGiven (value value' : Option String) : Prop := ∃ given, Gives value given ∧ Gives value' given

/-- The names that settings are read under. -/
def settingNames : List String :=
  ["BIND_ADDR", "DATABASE_URL", "REDIS_URL", "TICKETS_SEED_PATH", "SWITCH_TOPIC", "REQUEST_TIMEOUT_MS"]

section Values

variable {text : String} {value value' given : Option String} {before after : List Char}

/-- What is read of a value. -/
def givenBy (value : Option String) : Option String := (value.map trim).filter (· ≠ "")

theorem givenBy_some (text : String) :
    givenBy (some text) = if trim text = "" then none else some (trim text) := by
  unfold givenBy
  by_cases hempty : trim text = "" <;> simp [hempty]

theorem gives_givenBy (value : Option String) : Gives value (givenBy value) := by
  cases value with
  | none => exact .missing
  | some text =>
    rw [givenBy_some]
    split
    · next hempty => exact .blank (trim_eq_empty_iff.1 hempty)
    · next hne =>
      obtain ⟨before, after, hsplit, hbefore, hafter⟩ := exists_eq_append_trimChars text.toList
      rw [← toList_trim] at hsplit
      refine .between hsplit hbefore hafter ?_ ?_
      · exact fun hnil => hne (String.toList_inj.1 hnil)
      · rw [toList_trim]
        exact trimmed_trimChars text.toList

/-- What is read of a value is what it gives. -/
theorem givenBy_eq_iff : givenBy value = given ↔ Gives value given := by
  constructor
  · rintro rfl
    exact gives_givenBy value
  · intro h
    cases h with
    | missing => rfl
    | blank hblank => rw [givenBy_some, if_pos (trim_eq_empty_iff.2 hblank)]
    | @between text t before after hsplit hbefore hafter hne htrimmed =>
      have htrim : trim text = t := by
        rw [← String.toList_inj, toList_trim, hsplit]
        exact trimChars_padded_of_trimmed hbefore hafter hne htrimmed
      have hempty : t ≠ "" := fun hempty => hne (by rw [hempty]; rfl)
      rw [givenBy_some, htrim, if_neg hempty]

theorem sameGiven_iff : SameGiven value value' ↔ givenBy value = givenBy value' := by
  constructor
  · rintro ⟨given, h, h'⟩
    rw [givenBy_eq_iff.2 h, givenBy_eq_iff.2 h']
  · intro h
    exact ⟨_, gives_givenBy value, h ▸ gives_givenBy value'⟩

/-- Blanks around a value make no difference. -/
theorem sameGiven_padded (hbefore : ∀ c ∈ before, isBlank c = true) (hafter : ∀ c ∈ after, isBlank c = true) :
    SameGiven (some text) (some (String.ofList (before ++ text.toList ++ after))) := by
  have htrim : trim (String.ofList (before ++ text.toList ++ after)) = trim text := by
    rw [← String.toList_inj, toList_trim, toList_trim, String.toList_ofList]
    exact trimChars_padded hbefore hafter
  rw [sameGiven_iff, givenBy_some, givenBy_some, htrim]

/-- A blank value gives as little as none. -/
theorem sameGiven_missing_of_blank (h : ∀ c ∈ text.toList, isBlank c = true) : SameGiven (some text) none :=
  ⟨none, .blank h, .missing⟩

end Values

namespace ServiceConfig

variable {lookup other : String → Option String} {key : String} {given : Option String}

theorem setting_eq (lookup : String → Option String) (key : String) :
    setting lookup key = givenBy (lookup key) := rfl

theorem setting_eq_iff : setting lookup key = given ↔ Gives (lookup key) given := by
  rw [setting_eq, givenBy_eq_iff]

theorem gives_setting (lookup : String → Option String) (key : String) :
    Gives (lookup key) (setting lookup key) := setting_eq_iff.1 rfl

theorem setting_eq_of_sameGiven (h : SameGiven (lookup key) (other key)) :
    setting other key = setting lookup key := by
  rw [setting_eq, setting_eq, sameGiven_iff.1 h]

/-! ## What is given for an address and for a time -/

/-- The address that is given, or the standard one if none is. -/
def AddressGiven (address : SocketAddress) : Option String → Prop
  | none => address = standardAddress
  | some t => SocketAddress.parse? t = some address

/-- The time that is given, in digits behind a plus sign perhaps, or the standard one if none is. -/
def TimeGiven (time : Nat) : Option String → Prop
  | none => time = 5000
  | some t => UnsignedNumeral time t.toList ∧ 1 ≤ time ∧ time ≤ 18446744073709551615

theorem readAddress_eq_ok_iff {address : SocketAddress} :
    readAddress given = .ok address ↔ AddressGiven address given := by
  cases given with
  | none => exact ⟨fun h => (Except.ok.inj h).symm, fun h => congrArg Except.ok h.symm⟩
  | some t =>
    unfold readAddress AddressGiven
    dsimp only
    cases SocketAddress.parse? t <;> simp

theorem readAddress_eq_error {e : ConfigError} (h : readAddress given = .error e) :
    e = ⟨"BIND_ADDR", "invalid socket address syntax"⟩ := by
  unfold readAddress at h
  split at h
  · cases h
  · split at h
    · cases h
    · exact (Except.error.inj h).symm

theorem readTimeout_eq_ok_iff {time : Nat} : readTimeout given = .ok time ↔ TimeGiven time given := by
  cases given with
  | none => exact ⟨fun h => (Except.ok.inj h).symm, fun h => congrArg Except.ok h.symm⟩
  | some t =>
    have hread : ∀ n, boundedNat (UInt64.size - 1) t.toList = .ok n ↔
        UnsignedNumeral n t.toList ∧ n ≤ 18446744073709551615 := fun n => boundedNat_eq_ok_iff
    unfold readTimeout TimeGiven
    dsimp only
    cases h : boundedNat (UInt64.size - 1) t.toList with
    | error e =>
      refine iff_of_false nofun ?_
      rintro ⟨hnumeral, -, hle⟩
      cases h.symm.trans ((hread time).2 ⟨hnumeral, hle⟩)
    | ok n =>
      obtain ⟨hnumeral, hle⟩ := (hread n).1 h
      have hunique : ∀ m, UnsignedNumeral m t.toList ∧ m ≤ 18446744073709551615 → m = n :=
        fun m hm => Except.ok.inj (((hread m).2 hm).symm.trans h)
      constructor
      · intro hok
        cases n with
        | zero => cases hok
        | succ n =>
          cases hok
          exact ⟨hnumeral, Nat.succ_pos n, hle⟩
      · rintro ⟨hnumeral', hpos, hle'⟩
        obtain rfl := hunique time ⟨hnumeral', hle'⟩
        cases time with
        | zero => exact absurd hpos (Nat.lt_irrefl 0)
        | succ n => rfl

theorem readTimeout_eq_error {e : ConfigError} (h : readTimeout given = .error e) :
    e.key = "REQUEST_TIMEOUT_MS" := by
  unfold readTimeout at h
  split at h
  · cases h
  · split at h
    · cases h
      rfl
    · cases h
      rfl
    · cases h

/-! ## Settings -/

/-- The settings are those that the values give, each under its own name. -/
structure ConfiguredBy (lookup : String → Option String) (c : ServiceConfig) : Prop where
  bindAddress : ∃ given, Gives (lookup "BIND_ADDR") given ∧ AddressGiven c.bindAddress given
  databaseUrl : Gives (lookup "DATABASE_URL") c.databaseUrl
  redisUrl : Gives (lookup "REDIS_URL") c.redisUrl
  seedPath : Gives (lookup "TICKETS_SEED_PATH") c.seedPath
  switchTopic : ∃ given, Gives (lookup "SWITCH_TOPIC") given ∧ c.switchTopic = given.getD standardTopic
  requestTimeout : ∃ given, Gives (lookup "REQUEST_TIMEOUT_MS") given ∧ TimeGiven c.requestTimeout given

/-- No address is given, or one that is an address. -/
def AddressAccepted (value : Option String) : Prop :=
  ∃ given, Gives value given ∧ ∃ address, AddressGiven address given

/-- No time is given, or a numeral in range. -/
def TimeAccepted (value : Option String) : Prop := ∃ given, Gives value given ∧ ∃ time, TimeGiven time given

theorem exists_readAddress_iff :
    (∃ address, readAddress (setting lookup key) = .ok address) ↔ AddressAccepted (lookup key) := by
  simp only [readAddress_eq_ok_iff]
  constructor
  · exact fun h => ⟨_, gives_setting lookup key, h⟩
  · rintro ⟨given, hgives, h⟩
    rwa [setting_eq_iff.2 hgives]

theorem exists_readTimeout_iff :
    (∃ time, readTimeout (setting lookup key) = .ok time) ↔ TimeAccepted (lookup key) := by
  simp only [readTimeout_eq_ok_iff]
  constructor
  · exact fun h => ⟨_, gives_setting lookup key, h⟩
  · rintro ⟨given, hgives, h⟩
    rwa [setting_eq_iff.2 hgives]

theorem ofLookup_eq_ok_iff {c : ServiceConfig} : ofLookup lookup = .ok c ↔ ConfiguredBy lookup c := by
  unfold ofLookup
  simp only [bind_eq_ok_iff, readAddress_eq_ok_iff, readTimeout_eq_ok_iff]
  constructor
  · rintro ⟨address, haddress, time, htime, ⟨⟩⟩
    exact {
      bindAddress := ⟨_, gives_setting lookup _, haddress⟩
      databaseUrl := gives_setting lookup _
      redisUrl := gives_setting lookup _
      seedPath := gives_setting lookup _
      switchTopic := ⟨_, gives_setting lookup _, rfl⟩
      requestTimeout := ⟨_, gives_setting lookup _, htime⟩ }
  · intro h
    obtain ⟨bindAddress, databaseUrl, redisUrl, seedPath, switchTopic, requestTimeout⟩ := c
    obtain ⟨_, hbind, haddress⟩ := h.bindAddress
    obtain ⟨_, hswitch, rfl⟩ := h.switchTopic
    obtain ⟨_, hrequest, htime⟩ := h.requestTimeout
    rw [← setting_eq_iff] at hbind hswitch hrequest
    refine ⟨bindAddress, by rwa [hbind], requestTimeout, by rwa [hrequest], ?_⟩
    rw [setting_eq_iff.2 h.databaseUrl, setting_eq_iff.2 h.redisUrl, setting_eq_iff.2 h.seedPath, hswitch]
    rfl

theorem exists_ofLookup_iff : (∃ c, ofLookup lookup = .ok c) ↔
    AddressAccepted (lookup "BIND_ADDR") ∧ TimeAccepted (lookup "REQUEST_TIMEOUT_MS") := by
  rw [← exists_readAddress_iff, ← exists_readTimeout_iff]
  unfold ofLookup
  simp only [bind_eq_ok_iff]
  constructor
  · rintro ⟨_, address, haddress, time, htime, -⟩
    exact ⟨⟨address, haddress⟩, time, htime⟩
  · rintro ⟨⟨address, haddress⟩, time, htime⟩
    exact ⟨_, address, haddress, time, htime, rfl⟩

/-! ## Refusals -/

/-- An address that is refused is reported, whatever the time. -/
theorem ofLookup_eq_address_error_iff :
    ofLookup lookup = .error ⟨"BIND_ADDR", "invalid socket address syntax"⟩ ↔
      ¬ AddressAccepted (lookup "BIND_ADDR") := by
  rw [← exists_readAddress_iff]
  unfold ofLookup
  cases haddress : readAddress (setting lookup "BIND_ADDR") with
  | error e =>
    obtain rfl := readAddress_eq_error haddress
    exact iff_of_true rfl nofun
  | ok address =>
    refine iff_of_false ?_ fun hnone => hnone ⟨address, rfl⟩
    cases htime : readTimeout (setting lookup "REQUEST_TIMEOUT_MS") with
    | ok time => nofun
    | error e =>
      intro herror
      obtain rfl : e = ⟨"BIND_ADDR", "invalid socket address syntax"⟩ := Except.error.inj herror
      exact absurd (readTimeout_eq_error htime) (by decide)

/-- A time that is refused is reported if the address is not. -/
theorem exists_ofLookup_eq_time_error_iff :
    (∃ problem, ofLookup lookup = .error ⟨"REQUEST_TIMEOUT_MS", problem⟩) ↔
      AddressAccepted (lookup "BIND_ADDR") ∧ ¬ TimeAccepted (lookup "REQUEST_TIMEOUT_MS") := by
  rw [← exists_readAddress_iff, ← exists_readTimeout_iff]
  unfold ofLookup
  cases haddress : readAddress (setting lookup "BIND_ADDR") with
  | error e =>
    obtain rfl := readAddress_eq_error haddress
    refine iff_of_false ?_ fun ⟨⟨_, hnone⟩, _⟩ => nomatch hnone
    rintro ⟨problem, herror⟩
    have hkey : "BIND_ADDR" = "REQUEST_TIMEOUT_MS" := congrArg ConfigError.key (Except.error.inj herror)
    exact absurd hkey (by decide)
  | ok address =>
    cases htime : readTimeout (setting lookup "REQUEST_TIMEOUT_MS") with
    | ok time =>
      exact iff_of_false (fun ⟨_, herror⟩ => nomatch herror) fun ⟨_, hnone⟩ => hnone ⟨time, rfl⟩
    | error e =>
      obtain ⟨key, problem⟩ := e
      obtain rfl : key = "REQUEST_TIMEOUT_MS" := readTimeout_eq_error htime
      exact iff_of_true ⟨problem, rfl⟩ ⟨⟨address, rfl⟩, fun ⟨_, hnone⟩ => nomatch hnone⟩

/-! ## Values that give the same -/

/-- Values that give the same make the same settings, or the same error. -/
theorem ofLookup_congr (h : ∀ key ∈ settingNames, SameGiven (lookup key) (other key)) :
    ofLookup other = ofLookup lookup := by
  have hsetting : ∀ key ∈ settingNames, setting other key = setting lookup key :=
    fun key hkey => setting_eq_of_sameGiven (h key hkey)
  simp only [settingNames, List.forall_mem_cons] at hsetting
  obtain ⟨hbind, hdatabase, hredis, hseed, hswitch, hrequest, -⟩ := hsetting
  unfold ofLookup
  rw [hbind, hdatabase, hredis, hseed, hswitch, hrequest]

/-- Whether settings are refused, and how, depends on the address and the time. -/
theorem ofLookup_eq_error_congr (haddress : SameGiven (lookup "BIND_ADDR") (other "BIND_ADDR"))
    (htime : SameGiven (lookup "REQUEST_TIMEOUT_MS") (other "REQUEST_TIMEOUT_MS")) (e : ConfigError) :
    ofLookup other = .error e ↔ ofLookup lookup = .error e := by
  unfold ofLookup
  rw [setting_eq_of_sameGiven haddress, setting_eq_of_sameGiven htime]
  cases readAddress (setting lookup "BIND_ADDR") with
  | error e' => exact Iff.rfl
  | ok address =>
    cases readTimeout (setting lookup "REQUEST_TIMEOUT_MS") with
    | error e' => exact Iff.rfl
    | ok time => exact iff_of_false nofun nofun

/-- A value may be replaced by one that gives the same. -/
theorem ofLookup_update {value : Option String} (h : SameGiven (lookup key) value) :
    ofLookup (Function.update lookup key value) = ofLookup lookup := by
  refine ofLookup_congr fun name _ => ?_
  by_cases hname : name = key
  · rw [hname, Function.update_self]
    exact h
  · rw [Function.update_of_ne hname]
    exact sameGiven_iff.2 rfl

/-! ## Reading -/

/-- What is made of the values that settings are looked up in. -/
structure ReadsGiven (lookup : String → Option String) : Prop where
  settings_iff : ∀ c, ofLookup lookup = .ok c ↔ ConfiguredBy lookup c
  accepted_iff : (∃ c, ofLookup lookup = .ok c) ↔
    AddressAccepted (lookup "BIND_ADDR") ∧ TimeAccepted (lookup "REQUEST_TIMEOUT_MS")
  address_refused_iff : ofLookup lookup = .error ⟨"BIND_ADDR", "invalid socket address syntax"⟩ ↔
    ¬ AddressAccepted (lookup "BIND_ADDR")
  time_refused_iff : (∃ problem, ofLookup lookup = .error ⟨"REQUEST_TIMEOUT_MS", problem⟩) ↔
    AddressAccepted (lookup "BIND_ADDR") ∧ ¬ TimeAccepted (lookup "REQUEST_TIMEOUT_MS")
  same : ∀ other, (∀ key ∈ settingNames, SameGiven (lookup key) (other key)) →
    ofLookup other = ofLookup lookup
  refused_alike : ∀ other, SameGiven (lookup "BIND_ADDR") (other "BIND_ADDR") →
    SameGiven (lookup "REQUEST_TIMEOUT_MS") (other "REQUEST_TIMEOUT_MS") →
      ∀ e, ofLookup other = .error e ↔ ofLookup lookup = .error e
  padded : ∀ key text before after, lookup key = some text → (∀ c ∈ before, isBlank c = true) →
    (∀ c ∈ after, isBlank c = true) → ofLookup (Function.update lookup key
      (some (String.ofList (before ++ text.toList ++ after)))) = ofLookup lookup
  blank : ∀ key text, lookup key = some text → (∀ c ∈ text.toList, isBlank c = true) →
    ofLookup (Function.update lookup key none) = ofLookup lookup

/-- Whatever the values are, the settings are those that they give between their blanks, each under its own
name. They are refused only for an address that is none or a time that is out of range, and the address is
reported first. Nothing else of the values counts. -/
theorem settings_read_as_given (lookup : String → Option String) : ReadsGiven lookup where
  settings_iff _ := ofLookup_eq_ok_iff
  accepted_iff := exists_ofLookup_iff
  address_refused_iff := ofLookup_eq_address_error_iff
  time_refused_iff := exists_ofLookup_eq_time_error_iff
  same _ h := ofLookup_congr h
  refused_alike _ haddress htime e := ofLookup_eq_error_congr haddress htime e
  padded key text before after hvalue hbefore hafter := by
    apply ofLookup_update
    rw [hvalue]
    exact sameGiven_padded hbefore hafter
  blank key text hvalue hblank := by
    apply ofLookup_update
    rw [hvalue]
    exact sameGiven_missing_of_blank hblank

/-- Values with blanks of all kinds around them, the largest time with leading zeros, and a blank address of a
broker. -/
theorem settings_read_of_padded_values :
    let lookup := fun key => List.lookup key [("BIND_ADDR", "\t[::1]:80\u3000"),
      ("REQUEST_TIMEOUT_MS", " +0018446744073709551615\n"), ("REDIS_URL", "\u2003 "),
      ("SWITCH_TOPIC", " on sale "), ("redis_url", "redis://host")]
    ∃ c, ofLookup lookup = .ok c ∧ c.requestTimeout = 18446744073709551615 ∧ c.redisUrl = none ∧
      c.switchTopic = "on sale" ∧ ConfiguredBy lookup c := by
  intro lookup
  have hok : ∃ c, ofLookup lookup = .ok c ∧ c.requestTimeout = 18446744073709551615 ∧ c.redisUrl = none ∧
      c.switchTopic = "on sale" := ⟨_, rfl, rfl, rfl, rfl⟩
  obtain ⟨c, hread, htime, hredis, htopic⟩ := hok
  exact ⟨c, hread, htime, hredis, htopic, ((settings_read_as_given lookup).settings_iff c).1 hread⟩

end ServiceConfig

end BoxOffice
