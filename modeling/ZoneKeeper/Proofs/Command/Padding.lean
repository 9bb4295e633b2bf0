/-
**Blanks around the values of an environment.**

Every variable but one is trimmed before it is looked at, so that blanks around its value make no
difference.  The level is not: its word has no blanks, and a word with blanks around it is no word
for a level.

Main definitions:

* `ZoneKeeper.Command.EnvironmentPadded` — an environment with blanks put around its values.

Main results:

* `ZoneKeeper.Command.from_padded_iff` — which options the variables still say;
* `ZoneKeeper.Command.read_padded_iff` — **blanks make no difference exactly if there are none around
  the level**.
-/

import ZoneKeeper.Proofs.Command.Options

set_option autoImplicit false

namespace ZoneKeeper.Command

open ZoneKeeper.Text

/-- The second environment is the first one with blanks put around its values. -/
def EnvironmentPadded (env env' : Environment) : Prop :=
  ∀ v, Option.Rel PaddedTo (env v) (env' v)

/-! ### Words without blanks -/

/-- Blanks have no case. -/
theorem toLower_of_isBlank {c : Char} (hc : isBlank c = true) : c.toLower = c := by
  refine dif_neg ?_
  rintro ⟨hlow, hhigh⟩
  have hlow' : 65 ≤ c.toNat := hlow
  have hhigh' : c.toNat ≤ 90 := hhigh
  simp only [isBlank, Bool.or_eq_true, Bool.and_eq_true, decide_eq_true_eq, beq_iff_eq] at hc
  omega

/-- A word for a level has no blanks. -/
theorem MeansLevel.forall_not_isBlank {raw : String} {level : Level} (h : MeansLevel raw level) :
    ∀ c ∈ raw.toList, isBlank c = false := by
  have hlower : (lower raw).toList.all (fun c => !isBlank c) = true := by
    rw [MeansLevel] at h
    generalize lower raw = word at h
    cases h with
    | trace | debug | info | warn | error => decide
  intro c hc
  cases hblank : isBlank c with
  | false => rfl
  | true =>
      have hmem : c.toLower ∈ (lower raw).toList := by
        rw [lower, String.toList_ofList]
        exact List.mem_map_of_mem hc
      have hno := List.all_eq_true.1 hlower _ hmem
      rw [toLower_of_isBlank hblank, hblank] at hno
      cases hno

section

variable {env env' : Environment} (h : EnvironmentPadded env env')

include h

/-! ### Variables that are trimmed -/

theorem given_padded_iff {v : Variable} {text : String} :
    Given env' v text ↔ Given env v text := by
  have hv := h v
  rw [Given, Given]
  generalize env v = value at hv
  generalize env' v = value' at hv
  cases hv with
  | none => rfl
  | some hpadded => simp only [Option.some.injEq, exists_eq_left', hpadded.trim_eq]

theorem defaulted_padded_iff {α : Type} {Means : String → α → Prop} {default a : α}
    (hmeans : ∀ {raw raw'}, PaddedTo raw raw' → (Means raw' a ↔ Means raw a)) {v : Variable} :
    Defaulted Means default (env' v) a ↔ Defaulted Means default (env v) a := by
  have hv := h v
  generalize env v = value at hv
  generalize env' v = value' at hv
  cases hv with
  | none => rfl
  | some hpadded => rw [defaulted_some_iff, defaulted_some_iff, hmeans hpadded]

theorem ttl_padded_iff {n : Int32} :
    Defaulted MeansTtl 0 (env' .ttl) n ↔ Defaulted MeansTtl 0 (env .ttl) n := by
  refine defaulted_padded_iff h fun hpadded => ?_
  rw [MeansTtl, MeansTtl, hpadded.trim_eq]

theorem mode_padded_iff {dryRun : Bool} :
    Defaulted MeansMode false (env' .mode) dryRun ↔
      Defaulted MeansMode false (env .mode) dryRun := by
  refine defaulted_padded_iff h fun hpadded => ?_
  rw [MeansMode, MeansMode, hpadded.trim_eq]

/-! ### The level -/

/-- A level is said only where no blanks are put around its word. -/
theorem level_padded_iff {level : Level} :
    Defaulted MeansLevel .info (env' .logLevel) level ↔
      Defaulted MeansLevel .info (env .logLevel) level ∧ env' .logLevel = env .logLevel := by
  constructor
  · intro hlevel
    suffices hsame : env' .logLevel = env .logLevel from ⟨hsame ▸ hlevel, hsame⟩
    have hv := h .logLevel
    generalize env .logLevel = value at hv
    generalize env' .logLevel = value' at hv hlevel
    cases hv with
    | none => rfl
    | some hpadded =>
        rw [hpadded.eq_of_forall (defaulted_some_iff.1 hlevel).forall_not_isBlank]
  · rintro ⟨hlevel, hsame⟩
    rw [hsame]
    exact hlevel

/-! ### The options -/

/-- The variables say the same options, if no blanks are put around the level. -/
theorem from_padded_iff {o : Options} :
    Options.From env' o ↔ Options.From env o ∧ env' .logLevel = env .logLevel := by
  constructor
  · intro hfrom
    obtain ⟨hlevel, hsame⟩ := (level_padded_iff h).1 hfrom.level
    refine ⟨?_, hsame⟩
    exact
      { address := (given_padded_iff h).1 hfrom.address
        ttl := (ttl_padded_iff h).1 hfrom.ttl
        mode := (mode_padded_iff h).1 hfrom.mode
        level := hlevel
        token := (given_padded_iff h).1 hfrom.token
        zone := (given_padded_iff h).1 hfrom.zone
        base := fun text => (hfrom.base text).trans (given_padded_iff h)
        record := (given_padded_iff h).1 hfrom.record }
  · rintro ⟨hfrom, hsame⟩
    exact
      { address := (given_padded_iff h).2 hfrom.address
        ttl := (ttl_padded_iff h).2 hfrom.ttl
        mode := (mode_padded_iff h).2 hfrom.mode
        level := (level_padded_iff h).2 ⟨hfrom.level, hsame⟩
        token := (given_padded_iff h).2 hfrom.token
        zone := (given_padded_iff h).2 hfrom.zone
        base := fun text => (hfrom.base text).trans (given_padded_iff h).symm
        record := (given_padded_iff h).2 hfrom.record }

/-- An environment with blanks around its level is refused for the level, if it would be accepted
without them. -/
theorem read_of_level_padded {o : Options} (hread : Options.read env = .ok o)
    (hlevel : env' .logLevel ≠ env .logLevel) :
    ∃ raw, env' .logLevel = some raw ∧ Options.read env' = .error (.level raw) := by
  obtain ⟨hfrom, -⟩ := Options.read_eq_ok_iff.1 hread
  cases henv : env' .logLevel with
  | none =>
      have hv := h .logLevel
      rw [henv] at hv hlevel
      generalize env .logLevel = value at hv hlevel
      cases hv with
      | none => exact absurd rfl hlevel
  | some raw =>
      have hno : ∀ level, ¬ MeansLevel raw level := by
        intro level hmeans
        have hdefaulted : Defaulted MeansLevel .info (env' .logLevel) level := by
          rw [henv]
          exact .present hmeans
        exact hlevel ((level_padded_iff h).1 hdefaulted).2
      refine ⟨raw, rfl, Options.read_eq_error_iff.2 ?_⟩
      -- the variables that are looked at before the level are trimmed
      refine .pass ⟨o.address, (given_padded_iff h).2 hfrom.address⟩ ?_
      refine .pass ⟨o.ttl, (ttl_padded_iff h).2 hfrom.ttl⟩ ?_
      refine .pass ⟨o.settings.dryRun, (mode_padded_iff h).2 hfrom.mode⟩ ?_
      exact .stop (.level henv hno)

/-- **Blanks make no difference exactly if there are none around the level**: the same options are
read, and an environment with blanks around its level is refused for the level instead. -/
theorem read_padded_iff :
    (∀ o, Options.read env' = .ok o ↔
      Options.read env = .ok o ∧ env' .logLevel = env .logLevel) ∧
    ∀ o, Options.read env = .ok o → env' .logLevel ≠ env .logLevel →
      ∃ raw, env' .logLevel = some raw ∧ Options.read env' = .error (.level raw) := by
  refine ⟨fun o => ?_, fun o => read_of_level_padded h⟩
  rw [Options.read_eq_ok_iff, Options.read_eq_ok_iff, from_padded_iff h]
  exact and_right_comm

end

/-! ### Two environments -/

/-- An environment with a level, and with a text put around its other values. -/
def sampleEnvironment (around level : String) : Environment
  | .ip => some (around ++ "203.0.113.7" ++ around)
  | .apiToken => some (around ++ "tok" ++ around)
  | .zone => some (around ++ "example.com" ++ around)
  | .record => some (around ++ "home.example.com" ++ around)
  | .logLevel => some level
  | .ttl | .mode | .apiBase => none

/-- What the environment says without blanks. -/
def sampleOptions : Options :=
  { settings := { token := "tok", zone := "example.com" }
    record := "home.example.com"
    address := ⟨203, 0, 113, 7⟩
    ttl := 0
    level := .info }

theorem sampleEnvironment_padded {around : String} (h : ∀ c ∈ around.toList, isBlank c = true)
    (level : String) :
    EnvironmentPadded (sampleEnvironment "" level) (sampleEnvironment around level) := by
  have haround : ∀ text : String, PaddedTo ("" ++ text ++ "") (around ++ text ++ around) := by
    intro text
    refine ⟨around.toList, around.toList, h, h, ?_⟩
    simp only [String.toList_append, String.toList_empty, List.nil_append, List.append_nil]
  intro v
  cases v with
  | ip | apiToken | zone | record => exact .some (haround _)
  | logLevel => exact .some (PaddedTo.refl level)
  | ttl | mode | apiBase => exact .none

theorem read_sampleEnvironment :
    Options.read (sampleEnvironment "" "info") = .ok sampleOptions := by
  have hlevel : lower "info" = "info" := by decide +kernel
  refine Options.read_eq_ok_iff.2 ⟨?_, by decide +kernel⟩
  exact
    { address := ⟨_, rfl, by decide +kernel, by decide +kernel⟩
      ttl := .absent
      mode := .absent
      level := .present (by rw [MeansLevel, hlevel]; exact .info)
      token := ⟨_, rfl, by decide +kernel, by decide +kernel⟩
      zone := ⟨_, rfl, by decide +kernel, by decide +kernel⟩
      base := fun text => iff_of_false (fun h => nomatch h) fun ⟨raw, h, _⟩ => nomatch h
      record := ⟨_, rfl, by decide +kernel, by decide +kernel⟩ }

/-- Blanks around the other variables are trimmed. -/
theorem padded_values_are_read :
    EnvironmentPadded (sampleEnvironment "" "info") (sampleEnvironment "\t " "info") ∧
      Options.read (sampleEnvironment "\t " "info") = .ok sampleOptions := by
  have hpadded : EnvironmentPadded (sampleEnvironment "" "info") (sampleEnvironment "\t " "info") :=
    sampleEnvironment_padded (List.all_eq_true.1 (by decide)) "info"
  exact ⟨hpadded, ((read_padded_iff hpadded).1 sampleOptions).2 ⟨read_sampleEnvironment, rfl⟩⟩

/-- Blanks around the level alone make an environment be refused. -/
theorem padded_level_is_refused :
    EnvironmentPadded (sampleEnvironment "" "info") (sampleEnvironment "" " info ") ∧
      Options.read (sampleEnvironment "" "info") = .ok sampleOptions ∧
      Options.read (sampleEnvironment "" " info ") = .error (.level " info ") := by
  have hpadded : EnvironmentPadded (sampleEnvironment "" "info") (sampleEnvironment "" " info ") := by
    have hblank : ∀ c ∈ [' '], isBlank c = true := List.forall_mem_singleton.2 (by decide)
    intro v
    cases v with
    | ip | apiToken | zone | record => exact .some (PaddedTo.refl _)
    | logLevel => exact .some ⟨[' '], [' '], hblank, hblank, by decide +kernel⟩
    | ttl | mode | apiBase => exact .none
  have hlevel : sampleEnvironment "" " info " .logLevel ≠ sampleEnvironment "" "info" .logLevel := by
    decide +kernel
  obtain ⟨raw, hraw, hrefused⟩ := read_of_level_padded hpadded read_sampleEnvironment hlevel
  cases hraw
  exact ⟨hpadded, read_sampleEnvironment, hrefused⟩

end ZoneKeeper.Command
