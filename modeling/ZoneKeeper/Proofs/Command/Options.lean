/-
**Which environments give options.**

The variables are checked one after another, and the first fault is the one that is reported.  What
each check asks for is said here in the terms of the values alone, and so is what it reports; the
reader of the environment then does nothing but make the checks in their order.

Main definitions:

* `ZoneKeeper.Command.Given` — a variable holds a text;
* `ZoneKeeper.Command.Check`, `ZoneKeeper.Command.Check.order` — the checks and their order;
* `ZoneKeeper.Command.Check.Passes`, `ZoneKeeper.Command.Reported` — what a check asks for, and the
  fault it reports otherwise;
* `ZoneKeeper.Command.Printed` — what is printed for a fault;
* `ZoneKeeper.Command.Options.From` — each option is what its variable says;
* `ZoneKeeper.Command.Examined` — checks that are made in order up to the first fault.

Main results:

* `ZoneKeeper.Command.Options.read_eq_ok_iff` — **the options that an environment gives**;
* `ZoneKeeper.Command.examined_read` — reading an environment is making the checks in order;
* `ZoneKeeper.Command.environment_accepted_iff` — **which environments are accepted, what they
  give, and which fault the others are refused for**.
-/

import ZoneKeeper.Command.Options
import ZoneKeeper.Proofs.Address
import ZoneKeeper.Proofs.Except
import ZoneKeeper.Proofs.Settings
import ZoneKeeper.Proofs.Text.Blank

set_option autoImplicit false

namespace ZoneKeeper.Command

open ZoneKeeper.Text

/-! ### Values -/

/-- The variable is set and not blank, and holds this text between its blanks. -/
def Given (env : Environment) (v : Variable) (text : String) : Prop :=
  ∃ raw, env v = some raw ∧ trim raw ≠ "" ∧ text = trim raw

/-- The value that a variable means, which is the default if the variable is not set. -/
inductive Defaulted {α : Type} (Means : String → α → Prop) (default : α) : Option String → α → Prop
  | absent : Defaulted Means default none default
  | present {raw : String} {a : α} (h : Means raw a) : Defaulted Means default (some raw) a

/-- The words for a mode, and whether they ask for a dry run. -/
inductive ModeWord : String → Bool → Prop
  | none : ModeWord "" false
  | live : ModeWord "live" false
  | dryRun : ModeWord "dry-run" true

/-- The words for the levels. -/
inductive LevelWord : String → Level → Prop
  | trace : LevelWord "trace" .trace
  | debug : LevelWord "debug" .debug
  | info : LevelWord "info" .info
  | warn : LevelWord "warn" .warn
  | error : LevelWord "error" .error

/-- A time to live is a 32-bit integer in decimal, between blanks. -/
def MeansTtl (raw : String) (ttl : Int32) : Prop :=
  DenotesInt (trim raw).toList ttl.toInt

/-- A mode is one of its words in letters of any case, between blanks. -/
def MeansMode (raw : String) (dryRun : Bool) : Prop :=
  ModeWord (lower (trim raw)) dryRun

/-- A level is one of its words in letters of any case. -/
def MeansLevel (raw : String) (level : Level) : Prop :=
  LevelWord (lower raw) level

/-! ### Checks -/

/-- The checks that an environment has to pass. -/
inductive Check
  | address
  | ttl
  | mode
  | level
  | token
  | zone
  | base
  | zoneName
  | record
  deriving DecidableEq

namespace Check

/-- The order of the checks. -/
def order : List Check :=
  [.address, .ttl, .mode, .level, .token, .zone, .base, .zoneName, .record]

/-- What the checks ask for.  Those of the base and of the zone's name ask for nothing where none is
given. -/
def Passes (env : Environment) : Check → Prop
  | .address => ∃ a : Address, Given env .ip a.text
  | .ttl => ∃ n, Defaulted MeansTtl 0 (env .ttl) n
  | .mode => ∃ dryRun, Defaulted MeansMode false (env .mode) dryRun
  | .level => ∃ level, Defaulted MeansLevel .info (env .logLevel) level
  | .token => ∃ text, Given env .apiToken text
  | .zone => ∃ text, Given env .zone text
  | .base => ∀ text, Given env .apiBase text → ∃ rest, Settings.BehindScheme text rest
  | .zoneName => ∀ text, Given env .zone text → DomainName.fault? text = none
  | .record => ∃ text, Given env .record text

end Check

/-- The fault that a check reports. -/
inductive Reported (env : Environment) : Check → Fault → Prop
  | noAddress (h : ∀ text, ¬ Given env .ip text) : Reported env .address (.missing .ip)
  | address {text : String} (h : Given env .ip text) (hno : ∀ a : Address, text ≠ a.text) :
      Reported env .address (.address text)
  | ttl {raw : String} {cause : IntFault} (h : env .ttl = some raw)
      (hno : readInt32 (trim raw) = .error cause) : Reported env .ttl (.ttl raw cause)
  | mode {raw : String} (h : env .mode = some raw) (hno : ∀ dryRun, ¬ MeansMode raw dryRun) :
      Reported env .mode (.mode raw)
  | level {raw : String} (h : env .logLevel = some raw) (hno : ∀ level, ¬ MeansLevel raw level) :
      Reported env .level (.level raw)
  | token (h : ∀ text, ¬ Given env .apiToken text) : Reported env .token (.missing .apiToken)
  | zone (h : ∀ text, ¬ Given env .zone text) : Reported env .zone (.missing .zone)
  | base {text : String} (h : Given env .apiBase text)
      (hno : ∀ rest, ¬ Settings.BehindScheme text rest) :
      Reported env .base (.settings (.base text))
  | zoneName {text : String} {fault : DomainName.Fault} (h : Given env .zone text)
      (hfault : DomainName.fault? text = some fault) :
      Reported env .zoneName (.settings (.zone fault))
  | record (h : ∀ text, ¬ Given env .record text) : Reported env .record (.missing .record)

/-- What is printed for a fault of an environment.  It names the variable and quotes what the
variable holds, but for the base and the zone: these are faults of the settings, and are printed as
such. -/
inductive Printed : Fault → String → Prop
  | missing (v : Variable) : Printed (.missing v) (v.key ++ " is required")
  | address (text : String) :
      Printed (.address text)
        ("DNSREC_IP must be an IPv4 address. Got: " ++ text ++ ": invalid IPv4 address syntax")
  | ttl (raw : String) (cause : IntFault) :
      Printed (.ttl raw cause)
        ("DNSREC_TTL must be an integer. Got: " ++ raw ++ ": " ++ cause.message)
  | mode (raw : String) :
      Printed (.mode raw) ("DNSREC_MODE '" ++ raw ++ "' is not valid. Valid modes: live, dry-run")
  | level (raw : String) :
      Printed (.level raw)
        ("DNSREC_LOG_LEVEL '" ++ raw ++
          "' is not valid. Valid levels: trace, debug, info, warn, error")
  | base (text : String) :
      Printed (.settings (.base text))
        ("Configuration error: API base URL must start with http:// or https://. Got: " ++ text)
  | zoneName (fault : DomainName.Fault) :
      Printed (.settings (.zone fault)) ("Configuration error: " ++ fault.message)

/-- Each option is what its variable says. -/
structure Options.From (env : Environment) (o : Options) : Prop where
  address : Given env .ip o.address.text
  ttl : Defaulted MeansTtl 0 (env .ttl) o.ttl
  mode : Defaulted MeansMode false (env .mode) o.settings.dryRun
  level : Defaulted MeansLevel .info (env .logLevel) o.level
  token : Given env .apiToken o.settings.token
  zone : Given env .zone o.settings.zone
  base : ∀ text, o.settings.apiBase = some text ↔ Given env .apiBase text
  record : Given env .record o.record

/-! ### Reading the variables -/

section

variable {env : Environment}

theorem defaulted_none_iff {α : Type} {Means : String → α → Prop} {default a : α} :
    Defaulted Means default none a ↔ a = default := by
  constructor
  · intro h
    cases h with
    | absent => rfl
  · rintro rfl
    exact .absent

theorem defaulted_some_iff {α : Type} {Means : String → α → Prop} {default a : α} {raw : String} :
    Defaulted Means default (some raw) a ↔ Means raw a := by
  constructor
  · intro h
    cases h with
    | present h => exact h
  · exact .present

theorem Given.unique {v : Variable} {text text' : String} (h : Given env v text)
    (h' : Given env v text') : text = text' := by
  obtain ⟨raw, hraw, -, rfl⟩ := h
  obtain ⟨raw', hraw', -, rfl⟩ := h'
  rw [Option.some.inj (hraw.symm.trans hraw')]

theorem Given.allBlank_eq_false {v : Variable} {text : String} (h : Given env v text) :
    allBlank text = false := by
  obtain ⟨raw, -, hne, rfl⟩ := h
  rw [allBlank_trim, Bool.eq_false_iff, Ne, ← trim_eq_empty_iff]
  exact hne

theorem given_iff_of_set {v : Variable} {raw text : String} (henv : env v = some raw) :
    Given env v text ↔ allBlank raw = false ∧ trim raw = text := by
  rw [Given, ← Bool.not_eq_true, ← trim_eq_empty_iff]
  constructor
  · rintro ⟨raw', hraw, hne, rfl⟩
    obtain rfl := Option.some.inj (henv.symm.trans hraw)
    exact ⟨hne, rfl⟩
  · rintro ⟨hne, rfl⟩
    exact ⟨raw, henv, hne, rfl⟩

theorem required_eq_ok_iff {v : Variable} {text : String} :
    required env v = .ok text ↔ Given env v text := by
  rw [required]
  cases henv : env v with
  | none =>
      refine iff_of_false (fun h => nomatch h) ?_
      rintro ⟨raw, hraw, -⟩
      cases henv.symm.trans hraw
  | some raw =>
      rw [given_iff_of_set henv]
      dsimp only
      cases allBlank raw with
      | true => simp
      | false => simp

theorem required_eq_error {v : Variable} {fault : Fault} (h : required env v = .error fault) :
    (∀ text, ¬ Given env v text) ∧ fault = .missing v := by
  refine ⟨fun text hgiven => ?_, ?_⟩
  · cases h.symm.trans (required_eq_ok_iff.2 hgiven)
  · rw [required] at h
    split at h
    · cases h
      rfl
    · split at h
      · cases h
        rfl
      · cases h

theorem readAddress_eq_ok_iff {a : Address} :
    readAddress env = .ok a ↔ Given env .ip a.text := by
  rw [readAddress]
  constructor
  · intro h
    obtain ⟨text, htext, h⟩ := bind_eq_ok_iff.1 h
    split at h
    · cases h
    · next hparse =>
        cases h
        rw [Address.parse?_eq_some_iff] at hparse
        rw [← hparse]
        exact required_eq_ok_iff.1 htext
  · intro h
    refine bind_eq_ok_iff.2 ⟨a.text, required_eq_ok_iff.2 h, ?_⟩
    rw [Address.parse?_eq_some_iff.2 rfl]

theorem readAddress_eq_error {fault : Fault} (h : readAddress env = .error fault) :
    Reported env .address fault := by
  rw [readAddress] at h
  obtain hmissing | ⟨text, htext, h⟩ := bind_eq_error_iff.1 h
  · obtain ⟨hno, rfl⟩ := required_eq_error hmissing
    exact .noAddress hno
  · split at h
    · next hparse =>
        cases h
        refine .address (required_eq_ok_iff.1 htext) fun a ha => ?_
        cases hparse.symm.trans (Address.parse?_eq_some_iff.2 ha)
    · cases h

theorem readTtl_eq_ok_iff {n : Int32} :
    readTtl env = .ok n ↔ Defaulted MeansTtl 0 (env .ttl) n := by
  rw [readTtl]
  cases env .ttl with
  | none => rw [Except.ok.injEq, defaulted_none_iff, eq_comm]
  | some raw =>
      rw [defaulted_some_iff, MeansTtl, ← readInt32_eq_ok_iff]
      dsimp only
      cases readInt32 (trim raw) with
      | error cause => simp
      | ok m => simp

theorem readTtl_eq_error {fault : Fault} (h : readTtl env = .error fault) :
    Reported env .ttl fault := by
  rw [readTtl] at h
  cases henv : env .ttl with
  | none =>
      rw [henv] at h
      cases h
  | some raw =>
      rw [henv] at h
      dsimp only at h
      cases hread : readInt32 (trim raw) with
      | error cause =>
          rw [hread] at h
          cases h
          exact .ttl henv hread
      | ok n =>
          rw [hread] at h
          cases h

theorem readMode_eq_ok_iff {raw : String} {dryRun : Bool} :
    readMode raw = .ok dryRun ↔ MeansMode raw dryRun := by
  rw [readMode, MeansMode]
  constructor
  · intro h
    split at h
    · next hword => cases h; rw [hword]; exact .none
    · next hword => cases h; rw [hword]; exact .live
    · next hword => cases h; rw [hword]; exact .dryRun
    · cases h
  · intro h
    generalize lower (trim raw) = word at h
    cases h with
    | none | live | dryRun => rfl

theorem readMode_eq_error {raw : String} {fault : Fault} (h : readMode raw = .error fault) :
    (∀ dryRun, ¬ MeansMode raw dryRun) ∧ fault = .mode raw := by
  refine ⟨fun dryRun hmeans => ?_, ?_⟩
  · cases h.symm.trans (readMode_eq_ok_iff.2 hmeans)
  · rw [readMode] at h
    split at h
    · cases h
    · cases h
    · cases h
    · cases h
      rfl

theorem readLevel_eq_ok_iff {raw : String} {level : Level} :
    readLevel raw = .ok level ↔ MeansLevel raw level := by
  rw [readLevel, MeansLevel]
  constructor
  · intro h
    split at h
    · next hword => cases h; rw [hword]; exact .trace
    · next hword => cases h; rw [hword]; exact .debug
    · next hword => cases h; rw [hword]; exact .info
    · next hword => cases h; rw [hword]; exact .warn
    · next hword => cases h; rw [hword]; exact .error
    · cases h
  · intro h
    generalize lower raw = word at h
    cases h with
    | trace | debug | info | warn | error => rfl

theorem readLevel_eq_error {raw : String} {fault : Fault} (h : readLevel raw = .error fault) :
    (∀ level, ¬ MeansLevel raw level) ∧ fault = .level raw := by
  refine ⟨fun level hmeans => ?_, ?_⟩
  · cases h.symm.trans (readLevel_eq_ok_iff.2 hmeans)
  · rw [readLevel] at h
    split at h
    · cases h
    · cases h
    · cases h
    · cases h
    · cases h
    · cases h
      rfl

/-- A word for the default is read where the variable is not set. -/
theorem read_getD_eq_ok_iff {α : Type} (read : String → Except Fault α) (Means : String → α → Prop)
    {default : α} {word : String} (hread : ∀ raw a, read raw = .ok a ↔ Means raw a)
    (hword : read word = .ok default) {value : Option String} {a : α} :
    read (value.getD word) = .ok a ↔ Defaulted Means default value a := by
  cases value with
  | none => rw [Option.getD_none, hword, Except.ok.injEq, defaulted_none_iff, eq_comm]
  | some raw => rw [Option.getD_some, hread, defaulted_some_iff]

theorem readMode_getD_eq_ok_iff {dryRun : Bool} :
    readMode ((env .mode).getD "") = .ok dryRun ↔
      Defaulted MeansMode false (env .mode) dryRun := by
  have hword : readMode "" = .ok false := rfl
  exact read_getD_eq_ok_iff readMode MeansMode (fun _ _ => readMode_eq_ok_iff) hword

theorem readMode_getD_eq_error {fault : Fault}
    (h : readMode ((env .mode).getD "") = .error fault) : Reported env .mode fault := by
  cases henv : env .mode with
  | none =>
      rw [henv] at h
      cases h
  | some raw =>
      rw [henv, Option.getD_some] at h
      obtain ⟨hno, rfl⟩ := readMode_eq_error h
      exact .mode henv hno

theorem readLevel_getD_eq_ok_iff {level : Level} :
    readLevel ((env .logLevel).getD "info") = .ok level ↔
      Defaulted MeansLevel .info (env .logLevel) level := by
  have hword : readLevel "info" = .ok .info := rfl
  exact read_getD_eq_ok_iff readLevel MeansLevel (fun _ _ => readLevel_eq_ok_iff) hword

theorem readLevel_getD_eq_error {fault : Fault}
    (h : readLevel ((env .logLevel).getD "info") = .error fault) : Reported env .level fault := by
  cases henv : env .logLevel with
  | none =>
      rw [henv] at h
      cases h
  | some raw =>
      rw [henv, Option.getD_some] at h
      obtain ⟨hno, rfl⟩ := readLevel_eq_error h
      exact .level henv hno

theorem readBase_eq_some_iff {text : String} :
    readBase env = some text ↔ Given env .apiBase text := by
  rw [readBase, Option.map_eq_some_iff]
  constructor
  · rintro ⟨raw, hraw, rfl⟩
    obtain ⟨henv, hblank⟩ := Option.filter_eq_some_iff.1 hraw
    refine (given_iff_of_set henv).2 ⟨?_, rfl⟩
    simpa using hblank
  · rintro ⟨raw, henv, hne, rfl⟩
    refine ⟨raw, Option.filter_eq_some_iff.2 ⟨henv, ?_⟩, rfl⟩
    rw [Ne, trim_eq_empty_iff] at hne
    simpa using hne

/-! ### What is printed -/

theorem Fault.message_of_no_cause {f : Fault} (h : f.cause? = none) : f.message = f.headline := by
  rw [message, h, Option.map_none, Option.getD_none, String.append_empty]

theorem Fault.message_of_cause {f : Fault} {cause : String} (h : f.cause? = some cause) :
    f.message = f.headline ++ ": " ++ cause := by
  rw [message, h, Option.map_some, Option.getD_some, String.append_assoc]

/-- What is printed for a fault is its message. -/
theorem Printed.message_eq {fault : Fault} {text : String} (h : Printed fault text) :
    fault.message = text := by
  -- the parts of the texts that are constant are put together once
  have hip : Variable.ip.key ++ " must be an IPv4 address. Got: " =
      "DNSREC_IP must be an IPv4 address. Got: " := by decide +kernel
  have hsyntax : ": " ++ Address.faultMessage = ": invalid IPv4 address syntax" := by
    decide +kernel
  have httl : Variable.ttl.key ++ " must be an integer. Got: " =
      "DNSREC_TTL must be an integer. Got: " := by decide +kernel
  have hmode : Variable.mode.key ++ " '" = "DNSREC_MODE '" := by decide +kernel
  have hlevel : Variable.logLevel.key ++ " '" = "DNSREC_LOG_LEVEL '" := by decide +kernel
  have hbase :
      "Configuration error: " ++ "API base URL must start with http:// or https://. Got: " =
        "Configuration error: API base URL must start with http:// or https://. Got: " := by
    decide +kernel
  cases h with
  | missing v => exact Fault.message_of_no_cause rfl
  | address text =>
      rw [← hip, ← hsyntax, ← String.append_assoc]
      exact Fault.message_of_cause rfl
  | ttl raw cause =>
      rw [← httl]
      exact Fault.message_of_cause rfl
  | mode raw =>
      rw [← hmode]
      exact Fault.message_of_no_cause rfl
  | level raw =>
      rw [← hlevel]
      exact Fault.message_of_no_cause rfl
  | base text =>
      rw [← hbase, String.append_assoc]
      exact Fault.message_of_no_cause rfl
  | zoneName fault => exact Fault.message_of_no_cause rfl

/-- Something is printed for every fault that a check reports. -/
theorem Reported.printed {check : Check} {fault : Fault} (h : Reported env check fault) :
    Printed fault fault.message := by
  obtain ⟨text, htext⟩ : ∃ text, Printed fault text := by
    cases h with
    | noAddress | token | zone | record => exact ⟨_, .missing _⟩
    | address => exact ⟨_, .address _⟩
    | ttl => exact ⟨_, .ttl _ _⟩
    | mode => exact ⟨_, .mode _⟩
    | level => exact ⟨_, .level _⟩
    | base => exact ⟨_, .base _⟩
    | zoneName => exact ⟨_, .zoneName _⟩
  rw [htext.message_eq]
  exact htext

/-! ### The options -/

/-- **The options that an environment gives** are those that the variables say, if their settings pass
the check. -/
theorem Options.read_eq_ok_iff {o : Options} :
    Options.read env = .ok o ↔ Options.From env o ∧ o.settings.fault? = none := by
  rw [Options.read]
  constructor
  · intro h
    obtain ⟨address, haddress, h⟩ := bind_eq_ok_iff.1 h
    obtain ⟨ttl, httl, h⟩ := bind_eq_ok_iff.1 h
    obtain ⟨dryRun, hmode, h⟩ := bind_eq_ok_iff.1 h
    obtain ⟨level, hlevel, h⟩ := bind_eq_ok_iff.1 h
    obtain ⟨token, htoken, h⟩ := bind_eq_ok_iff.1 h
    obtain ⟨zone, hzone, h⟩ := bind_eq_ok_iff.1 h
    dsimp only at h
    split at h
    · cases h
    · next hvalid =>
        obtain ⟨record, hrecord, h⟩ := bind_eq_ok_iff.1 h
        cases h
        refine ⟨?_, hvalid⟩
        exact
          { address := readAddress_eq_ok_iff.1 haddress
            ttl := readTtl_eq_ok_iff.1 httl
            mode := readMode_getD_eq_ok_iff.1 hmode
            level := readLevel_getD_eq_ok_iff.1 hlevel
            token := required_eq_ok_iff.1 htoken
            zone := required_eq_ok_iff.1 hzone
            base := fun _ => readBase_eq_some_iff
            record := required_eq_ok_iff.1 hrecord }
  · rintro ⟨hfrom, hvalid⟩
    have hbase : readBase env = o.settings.apiBase := by
      refine Option.ext fun text => ?_
      rw [hfrom.base, readBase_eq_some_iff]
    have hsettings : Settings.mk o.settings.token o.settings.zone o.settings.dryRun (readBase env) =
        o.settings := by
      rw [hbase]
    refine bind_eq_ok_iff.2 ⟨_, readAddress_eq_ok_iff.2 hfrom.address, ?_⟩
    refine bind_eq_ok_iff.2 ⟨_, readTtl_eq_ok_iff.2 hfrom.ttl, ?_⟩
    refine bind_eq_ok_iff.2 ⟨_, readMode_getD_eq_ok_iff.2 hfrom.mode, ?_⟩
    refine bind_eq_ok_iff.2 ⟨_, readLevel_getD_eq_ok_iff.2 hfrom.level, ?_⟩
    refine bind_eq_ok_iff.2 ⟨_, required_eq_ok_iff.2 hfrom.token, ?_⟩
    refine bind_eq_ok_iff.2 ⟨_, required_eq_ok_iff.2 hfrom.zone, ?_⟩
    dsimp only
    rw [hsettings, hvalid]
    exact bind_eq_ok_iff.2 ⟨_, required_eq_ok_iff.2 hfrom.record, rfl⟩

/-! ### The checks in order -/

/-- What a check reports is a fault of an environment that does not pass it. -/
theorem Reported.not_passes {check : Check} {fault : Fault} (h : Reported env check fault) :
    ¬ check.Passes env := by
  intro hpass
  cases h with
  | noAddress h =>
      obtain ⟨a, ha⟩ := hpass
      exact h a.text ha
  | address h hno =>
      obtain ⟨a, ha⟩ := hpass
      exact hno a (h.unique ha)
  | ttl h hno =>
      obtain ⟨n, hn⟩ := hpass
      rw [h, defaulted_some_iff] at hn
      cases hno.symm.trans (readInt32_eq_ok_iff.2 hn)
  | mode h hno =>
      obtain ⟨dryRun, hmode⟩ := hpass
      rw [h, defaulted_some_iff] at hmode
      exact hno dryRun hmode
  | level h hno =>
      obtain ⟨level, hlevel⟩ := hpass
      rw [h, defaulted_some_iff] at hlevel
      exact hno level hlevel
  | token h | zone h | record h =>
      obtain ⟨text, htext⟩ := hpass
      exact h text htext
  | base h hno =>
      obtain ⟨rest, hrest⟩ := hpass _ h
      exact hno rest hrest
  | zoneName h hfault => cases hfault.symm.trans (hpass _ h)

/-- A check reports one fault. -/
theorem Reported.unique {check : Check} {fault fault' : Fault} (h : Reported env check fault)
    (h' : Reported env check fault') : fault = fault' := by
  cases h with
  | noAddress h =>
      cases h' with
      | noAddress h' => rfl
      | address h' hno' => exact absurd h' (h _)
  | address h hno =>
      cases h' with
      | noAddress h' => exact absurd h (h' _)
      | address h' hno' => rw [h.unique h']
  | ttl h hno =>
      cases h' with
      | ttl h' hno' =>
          obtain rfl := Option.some.inj (h.symm.trans h')
          rw [Except.error.inj (hno.symm.trans hno')]
  | mode h hno => cases h' with | mode h' hno' => rw [Option.some.inj (h.symm.trans h')]
  | level h hno => cases h' with | level h' hno' => rw [Option.some.inj (h.symm.trans h')]
  | token h => cases h' with | token h' => rfl
  | zone h => cases h' with | zone h' => rfl
  | base h hno => cases h' with | base h' hno' => rw [h.unique h']
  | zoneName h hfault =>
      cases h' with
      | zoneName h' hfault' =>
          obtain rfl := h.unique h'
          rw [Option.some.inj (hfault.symm.trans hfault')]
  | record h => cases h' with | record h' => rfl

/-- Checks that are made in order: they are all passed, or the first one that is not passed reports a
fault. -/
inductive Examined (env : Environment) : List Check → Option Fault → Prop
  | clean : Examined env [] none
  | stop {check : Check} {checks : List Check} {fault : Fault} (h : Reported env check fault) :
      Examined env (check :: checks) (some fault)
  | pass {check : Check} {checks : List Check} {found : Option Fault} (h : check.Passes env)
      (rest : Examined env checks found) : Examined env (check :: checks) found

/-- Checks find one thing. -/
theorem Examined.unique {checks : List Check} {found found' : Option Fault}
    (h : Examined env checks found) (h' : Examined env checks found') : found = found' := by
  induction h with
  | clean =>
      cases h' with
      | clean => rfl
  | stop h =>
      cases h' with
      | stop h' => rw [h.unique h']
      | pass h' rest' => exact absurd h' h.not_passes
  | pass h rest ih =>
      cases h' with
      | stop h' => exact absurd h h'.not_passes
      | pass h' rest' => exact ih rest'

theorem examined_none_iff {checks : List Check} :
    Examined env checks none ↔ ∀ check ∈ checks, check.Passes env := by
  induction checks with
  | nil => exact iff_of_true .clean (List.forall_mem_nil _)
  | cons check checks ih =>
      rw [List.forall_mem_cons, ← ih]
      constructor
      · intro h
        cases h with
        | pass h rest => exact ⟨h, rest⟩
      · rintro ⟨h, rest⟩
        exact .pass h rest

/-- What the checks find is what the first one reports that is not passed. -/
theorem examined_some_iff {checks : List Check} {fault : Fault} :
    Examined env checks (some fault) ↔
      ∃ before check after, checks = before ++ check :: after ∧
        (∀ earlier ∈ before, earlier.Passes env) ∧ Reported env check fault := by
  induction checks with
  | nil =>
      refine iff_of_false (fun h => nomatch h) ?_
      rintro ⟨before, check, after, h, -⟩
      cases before with
      | nil | cons => cases h
  | cons first checks ih =>
      constructor
      · intro h
        cases h with
        | stop h => exact ⟨[], first, checks, rfl, List.forall_mem_nil _, h⟩
        | pass h rest =>
            obtain ⟨before, check, after, rfl, hbefore, hreported⟩ := ih.1 rest
            exact ⟨first :: before, check, after, rfl, List.forall_mem_cons.2 ⟨h, hbefore⟩,
              hreported⟩
      · rintro ⟨before, check, after, hsplit, hbefore, hreported⟩
        cases before with
        | nil =>
            obtain ⟨rfl, rfl⟩ := List.cons.inj hsplit
            exact .stop hreported
        | cons passed before =>
            obtain ⟨rfl, hrest⟩ := List.cons.inj hsplit
            obtain ⟨h, hbefore⟩ := List.forall_mem_cons.1 hbefore
            exact .pass h (ih.2 ⟨before, check, after, hrest, hbefore, hreported⟩)

/-- The fault that a result holds, if it holds one. -/
def faultOf {α : Type} : Except Fault α → Option Fault
  | .ok _ => none
  | .error fault => some fault

/-- The options that an environment gives are those of an environment that passes every check. -/
theorem Options.From.passes {o : Options} (h : Options.From env o)
    (hvalid : o.settings.fault? = none) (check : Check) : check.Passes env := by
  obtain ⟨-, hweb, hzone⟩ := Settings.fault?_eq_none_iff.1 hvalid
  cases check with
  | address => exact ⟨o.address, h.address⟩
  | ttl => exact ⟨o.ttl, h.ttl⟩
  | mode => exact ⟨_, h.mode⟩
  | level => exact ⟨o.level, h.level⟩
  | token => exact ⟨_, h.token⟩
  | zone => exact ⟨_, h.zone⟩
  | base =>
      intro text htext
      exact Settings.isWebAddress_iff.1 (hweb text ((h.base text).2 htext))
  | zoneName =>
      intro text htext
      rw [htext.unique h.zone]
      exact hzone
  | record => exact ⟨o.record, h.record⟩

/-- The check of settings is that of the base and then that of the name of the zone. -/
theorem examined_settings {s : Settings} (htoken : allBlank s.token = false)
    (hbase : s.apiBase = readBase env) (hzone : Given env .zone s.zone) {checks : List Check}
    {found : Option Fault} (hfail : ∀ fault, s.fault? = some fault → found = some (.settings fault))
    (hrest : s.fault? = none → Examined env checks found) :
    Examined env (.base :: .zoneName :: checks) found := by
  cases hgiven : s.apiBase.filter fun base => !Settings.isWebAddress base with
  | some base =>
      obtain ⟨hsome, hnot⟩ := Option.filter_eq_some_iff.1 hgiven
      rw [Bool.not_eq_true'] at hnot
      rw [hfail _ (Settings.fault?_of_not_web htoken hsome hnot)]
      refine .stop (.base (readBase_eq_some_iff.1 (hbase ▸ hsome)) fun rest hrest => ?_)
      cases hnot.symm.trans (Settings.isWebAddress_iff.2 ⟨rest, hrest⟩)
  | none =>
      have hweb : ∀ base, s.apiBase = some base → Settings.isWebAddress base = true := by
        intro base hsome
        simpa using Option.filter_eq_none_iff.1 hgiven base hsome
      rw [Settings.fault?_of_web htoken hweb] at hfail hrest
      refine .pass (fun text htext => ?_) ?_
      · exact Settings.isWebAddress_iff.1 (hweb text (hbase.trans (readBase_eq_some_iff.2 htext)))
      · cases hfault : DomainName.fault? s.zone with
        | some fault =>
            rw [hfault] at hfail
            rw [hfail _ rfl]
            exact .stop (.zoneName hzone hfault)
        | none =>
            rw [hfault] at hrest
            refine .pass (fun text htext => ?_) (hrest rfl)
            rw [htext.unique hzone, hfault]

/-- **Reading an environment is making the checks in order.** -/
theorem examined_read (env : Environment) :
    Examined env Check.order (faultOf (Options.read env)) := by
  rw [Options.read]
  cases haddress : readAddress env with
  | error fault => exact .stop (readAddress_eq_error haddress)
  | ok address =>
  refine .pass ⟨address, readAddress_eq_ok_iff.1 haddress⟩ ?_
  cases httl : readTtl env with
  | error fault => exact .stop (readTtl_eq_error httl)
  | ok ttl =>
  refine .pass ⟨ttl, readTtl_eq_ok_iff.1 httl⟩ ?_
  cases hmode : readMode ((env .mode).getD "") with
  | error fault => exact .stop (readMode_getD_eq_error hmode)
  | ok dryRun =>
  refine .pass ⟨dryRun, readMode_getD_eq_ok_iff.1 hmode⟩ ?_
  cases hlevel : readLevel ((env .logLevel).getD "info") with
  | error fault => exact .stop (readLevel_getD_eq_error hlevel)
  | ok level =>
  refine .pass ⟨level, readLevel_getD_eq_ok_iff.1 hlevel⟩ ?_
  cases htoken : required env .apiToken with
  | error fault =>
      obtain ⟨hno, rfl⟩ := required_eq_error htoken
      exact .stop (.token hno)
  | ok token =>
  have htokenGiven := required_eq_ok_iff.1 htoken
  refine .pass ⟨token, htokenGiven⟩ ?_
  cases hzone : required env .zone with
  | error fault =>
      obtain ⟨hno, rfl⟩ := required_eq_error hzone
      exact .stop (.zone hno)
  | ok zone =>
  have hzoneGiven := required_eq_ok_iff.1 hzone
  refine .pass ⟨zone, hzoneGiven⟩ ?_
  refine examined_settings (s := ⟨token, zone, dryRun, readBase env⟩)
    htokenGiven.allBlank_eq_false rfl hzoneGiven (fun fault hfault => ?_) fun hvalid => ?_
  · dsimp only [bind, Except.bind]
    rw [hfault]
    rfl
  dsimp only [bind, Except.bind]
  rw [hvalid]
  cases hrecord : required env .record with
  | error fault =>
      obtain ⟨hno, rfl⟩ := required_eq_error hrecord
      exact .stop (.record hno)
  | ok record => exact .pass ⟨record, required_eq_ok_iff.1 hrecord⟩ .clean

theorem Options.read_eq_error_iff {fault : Fault} :
    Options.read env = .error fault ↔ Examined env Check.order (some fault) := by
  have hread := examined_read env
  constructor
  · intro h
    rw [h] at hread
    exact hread
  · intro h
    have hfault := hread.unique h
    cases ho : Options.read env with
    | ok o =>
        rw [ho] at hfault
        cases hfault
    | error found =>
        rw [ho] at hfault
        rw [Option.some.inj hfault]

/-- **Which environments are accepted, what they give, and which fault the others are refused for**:
an environment is accepted if it passes every check; each option is then what its variable says, and
the settings pass the check of their own; and otherwise the fault is that of the first check that is
not passed, and its message is what is printed for that fault. -/
theorem environment_accepted_iff (env : Environment) :
    ((∃ o, Options.read env = .ok o) ↔ ∀ check : Check, check.Passes env) ∧
      (∀ o, Options.read env = .ok o → Options.From env o ∧ o.settings.fault? = none) ∧
      (∀ fault, Options.read env = .error fault ↔
        ∃ before check after, Check.order = before ++ check :: after ∧
          (∀ earlier ∈ before, earlier.Passes env) ∧ Reported env check fault) ∧
      ∀ fault, Options.read env = .error fault → Printed fault fault.message := by
  have hfirst : ∀ fault, Options.read env = .error fault ↔
      ∃ before check after, Check.order = before ++ check :: after ∧
        (∀ earlier ∈ before, earlier.Passes env) ∧ Reported env check fault := fun fault => by
    rw [Options.read_eq_error_iff, examined_some_iff]
  refine ⟨⟨?_, fun hpass => ?_⟩, fun o => Options.read_eq_ok_iff.1, hfirst, fun fault hfault => ?_⟩
  · rintro ⟨o, ho⟩
    obtain ⟨hfrom, hvalid⟩ := Options.read_eq_ok_iff.1 ho
    exact hfrom.passes hvalid
  · have hclean := (examined_read env).unique (examined_none_iff.2 fun check _ => hpass check)
    cases ho : Options.read env with
    | ok o => exact ⟨o, rfl⟩
    | error fault =>
        rw [ho] at hclean
        cases hclean
  · obtain ⟨_, _, _, _, _, hreported⟩ := (hfirst fault).1 hfault
    exact hreported.printed

end

end ZoneKeeper.Command
