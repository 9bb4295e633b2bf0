/-
**What is printed tells what is wrong.**

The command prints one line if the environment gives no options, and nothing otherwise.  The line
quotes what the environment holds, which may be any text; and yet no two faults are printed alike.
What kind of fault it is shows at the beginning of its text, because no kind's beginning is the
beginning of another one's.  Once the kind is known, so is everything around the quoted text, and
what is left is that text itself.  A number that is not read is told with the reason at the end, and
the reasons are told apart at their ends in the same way.

Main definitions:

* `ZoneKeeper.DomainName.Fault.lead`, `ZoneKeeper.Settings.Fault.lead`,
  `ZoneKeeper.Command.Fault.lead` — how the text of a fault begins;
* `ZoneKeeper.Command.lineFor` — the line that is printed for a fault.

Main results:

* `ZoneKeeper.Text.eq_of_lead` — beginnings of which none begins another tell texts apart;
* `ZoneKeeper.DomainName.Fault.message_injective`, `ZoneKeeper.Settings.Fault.message_injective`,
  `ZoneKeeper.Command.Fault.message_injective` — no two faults have the same text;
* `ZoneKeeper.Command.complaints_tell_fault` — **what is printed tells what is wrong**.
-/

import ZoneKeeper.Command.Run
import ZoneKeeper.Proofs.Command.Options

set_option autoImplicit false

namespace ZoneKeeper

namespace Text

/-! ### Texts told apart -/

/-- Texts that are equal begin alike, if no beginning begins another one. -/
theorem eq_of_lead {α : Type} {text lead : α → String} {leads : List String}
    (hmem : ∀ a, lead a ∈ leads) (hlead : ∀ a, ∃ rest, text a = lead a ++ rest)
    (hfree : ∀ s ∈ leads, ∀ t ∈ leads, s.toList <+: t.toList → s = t) {a b : α}
    (h : text a = text b) : lead a = lead b := by
  have hbegins : ∀ a, (lead a).toList <+: (text a).toList := by
    intro a
    obtain ⟨rest, ha⟩ := hlead a
    rw [ha, String.toList_append]
    exact List.prefix_append _ _
  have ha := hbegins a
  rw [h] at ha
  rcases List.prefix_or_prefix_of_prefix ha (hbegins b) with hab | hba
  · exact hfree _ (hmem a) _ (hmem b) hab
  · exact (hfree _ (hmem b) _ (hmem a) hba).symm

/-- A text between two others is told by the whole. -/
theorem eq_of_quoted {front back s t : String} (h : front ++ s ++ back = front ++ t ++ back) :
    s = t :=
  (String.append_right_inj front).1 ((String.append_left_inj back).1 h)

/-- A number ends where its digits do. -/
theorem eq_of_natText_append {m n : Nat} {c : Char} (hc : c.isDigit = false)
    {rest s t : String} (hrest : rest.toList.head? = some c)
    (h : natText m ++ rest ++ s = natText n ++ rest ++ t) : m = n ∧ s = t := by
  obtain ⟨more, hmore⟩ := List.head?_eq_some_iff.1 hrest
  have hdigits : ∀ k, ∀ d ∈ digits k, d.isDigit = true := fun k d hd =>
    Nat.isDigit_of_mem_toDigits (by decide) (by decide) hd
  have hfront : ∀ k r, (digits k ++ c :: r).takeWhile Char.isDigit = digits k := by
    intro k r
    rw [List.takeWhile_append_of_pos (hdigits k), List.takeWhile_cons_of_neg (by simp [hc]),
      List.append_nil]
  have hchars : digits m ++ c :: (more ++ s.toList) = digits n ++ c :: (more ++ t.toList) := by
    have hlists := congrArg String.toList h
    simpa [natText, hmore] using hlists
  have hequal : m = n := by
    refine eq_of_digits_eq ?_
    rw [← hfront m (more ++ s.toList), hchars, hfront]
  subst hequal
  exact ⟨rfl, (String.append_right_inj _).1 h⟩

/-- No fault of a number ends the text of another one. -/
theorem IntFault.eq_of_suffix {a b : IntFault} (h : a.message.toList <:+ b.message.toList) :
    a = b := by
  revert h
  cases a with
  | _ =>
      cases b with
      | _ => decide

/-- Texts that are equal and end in faults of numbers end in the same fault. -/
theorem IntFault.eq_of_append {a b : IntFault} {s t : String}
    (h : s ++ a.message = t ++ b.message) : a = b := by
  have ha : a.message.toList <:+ (s ++ a.message).toList := by
    rw [String.toList_append]
    exact List.suffix_append _ _
  have hb : b.message.toList <:+ (s ++ a.message).toList := by
    rw [h, String.toList_append]
    exact List.suffix_append _ _
  rcases List.suffix_or_suffix_of_suffix ha hb with hab | hba
  · exact eq_of_suffix hab
  · exact (eq_of_suffix hba).symm

end Text

open ZoneKeeper.Text

/-! ### Faults of names -/

namespace DomainName.Fault

/-- How the text of a fault begins. -/
def lead : Fault → String
  | .empty => "Zone name cannot be empty"
  | .tooLong _ _ => "Domain name too long: "
  | .emptyLabel _ => "Domain name has empty label: '"
  | .labelTooLong _ _ => "Domain label too long: "
  | .invalidCharacter _ => "Domain label contains invalid characters. Label: '"
  | .outerHyphen _ => "Domain label cannot start or end with hyphen. Label: '"

/-- The beginnings of the texts. -/
def leads : List String :=
  [empty, tooLong 0 "", emptyLabel "", labelTooLong 0 "", invalidCharacter "", outerHyphen ""].map
    lead

theorem lead_mem (f : Fault) : f.lead ∈ leads := by
  cases f with
  | _ => simp [leads, lead]

theorem exists_message_eq (f : Fault) : ∃ rest, f.message = f.lead ++ rest := by
  cases f with
  | empty => exact ⟨"", String.append_empty.symm⟩
  | tooLong length name => exact ⟨_, String.append_assoc.trans String.append_assoc⟩
  | emptyLabel name => exact ⟨_, String.append_assoc⟩
  | labelTooLong length label =>
      exact ⟨_, (String.append_assoc.trans String.append_assoc).trans String.append_assoc⟩
  | invalidCharacter label => exact ⟨_, String.append_assoc⟩
  | outerHyphen label => exact ⟨_, String.append_assoc⟩

theorem lead_eq_of_message_eq {f g : Fault} (h : f.message = g.message) : f.lead = g.lead :=
  eq_of_lead lead_mem exists_message_eq (by decide +kernel) h

/-- No two faults of names have the same text. -/
theorem message_injective : Function.Injective message := by
  intro f g h
  have hlead := lead_eq_of_message_eq h
  cases f with
  | empty =>
      cases g with
      | empty => rfl
      | _ => simp [lead] at hlead
  | tooLong length name =>
      cases g with
      | tooLong length' name' =>
          have hrest : natText length ++ " chars (max 253). Got: " ++ name =
              natText length' ++ " chars (max 253). Got: " ++ name' := by
            refine (String.append_right_inj "Domain name too long: ").1 ?_
            simp only [← String.append_assoc]
            exact h
          -- the space behind the number tells where it ends
          obtain ⟨rfl, rfl⟩ := eq_of_natText_append (c := ' ') (by decide) (by decide) hrest
          rfl
      | _ => simp [lead] at hlead
  | emptyLabel name =>
      cases g with
      | emptyLabel name' => rw [eq_of_quoted h]
      | _ => simp [lead] at hlead
  | labelTooLong length label =>
      cases g with
      | labelTooLong length' label' =>
          have hrest : natText length ++ " chars (max 63). Label: '" ++ (label ++ "'") =
              natText length' ++ " chars (max 63). Label: '" ++ (label' ++ "'") := by
            refine (String.append_right_inj "Domain label too long: ").1 ?_
            simp only [← String.append_assoc]
            exact h
          obtain ⟨rfl, hlabel⟩ := eq_of_natText_append (c := ' ') (by decide) (by decide) hrest
          rw [(String.append_left_inj "'").1 hlabel]
      | _ => simp [lead] at hlead
  | invalidCharacter label =>
      cases g with
      | invalidCharacter label' => rw [eq_of_quoted h]
      | _ => simp [lead] at hlead
  | outerHyphen label =>
      cases g with
      | outerHyphen label' => rw [eq_of_quoted h]
      | _ => simp [lead] at hlead

end DomainName.Fault

/-! ### Faults of settings -/

namespace Settings.Fault

/-- How the text of a fault begins. -/
def lead : Fault → String
  | .blankToken => "API token cannot be empty"
  | .base _ => "API base URL must start with http:// or https://. Got: "
  | .zone fault => fault.lead

/-- The beginnings of the texts. -/
def leads : List String :=
  blankToken.lead :: (base "").lead :: DomainName.Fault.leads

theorem lead_mem (f : Fault) : f.lead ∈ leads := by
  cases f with
  | blankToken => exact List.mem_cons_self
  | base text => exact List.mem_cons_of_mem _ List.mem_cons_self
  | zone fault => exact List.mem_cons_of_mem _ (List.mem_cons_of_mem _ fault.lead_mem)

theorem exists_message_eq (f : Fault) : ∃ rest, f.message = f.lead ++ rest := by
  cases f with
  | blankToken => exact ⟨"", String.append_empty.symm⟩
  | base text => exact ⟨text, rfl⟩
  | zone fault => exact fault.exists_message_eq

theorem lead_eq_of_message_eq {f g : Fault} (h : f.message = g.message) : f.lead = g.lead :=
  eq_of_lead lead_mem exists_message_eq (by decide +kernel) h

/-- No text of a fault of a name begins like one of another fault. -/
theorem lead_zone_ne (fault : DomainName.Fault) {f : Fault} (hf : f.lead ∉ DomainName.Fault.leads) :
    (zone fault).lead ≠ f.lead := fun h => hf (h ▸ fault.lead_mem)

/-- No two faults of settings have the same text. -/
theorem message_injective : Function.Injective message := by
  intro f g h
  have hlead := lead_eq_of_message_eq h
  have htoken : blankToken.lead ∉ DomainName.Fault.leads := by decide +kernel
  have hbase : (base "").lead ∉ DomainName.Fault.leads := by decide +kernel
  cases f with
  | blankToken =>
      cases g with
      | blankToken => rfl
      | base text => simp [lead] at hlead
      | zone fault => exact absurd hlead.symm (lead_zone_ne fault htoken)
  | base text =>
      cases g with
      | blankToken => simp [lead] at hlead
      | base text' => rw [(String.append_right_inj _).1 h]
      | zone fault => exact absurd hlead.symm (lead_zone_ne fault hbase)
  | zone fault =>
      cases g with
      | blankToken => exact absurd hlead (lead_zone_ne fault htoken)
      | base text => exact absurd hlead (lead_zone_ne fault hbase)
      | zone fault' => rw [DomainName.Fault.message_injective h]

end Settings.Fault

/-! ### Faults of an environment -/

namespace Command

/-- No two variables have the same name. -/
theorem Variable.key_injective : Function.Injective key := by
  intro v w h
  have hfind : ∀ v : Variable, [ip, ttl, mode, logLevel, apiToken, zone, apiBase, record].find?
      (·.key == v.key) = some v := by
    intro v
    cases v with
    | _ => decide +kernel
  have hv := hfind v
  rw [h, hfind w] at hv
  exact (Option.some.inj hv).symm

namespace Fault

/-- How the text of a fault begins. -/
def lead : Fault → String
  | .missing v => v.key ++ " is required"
  | .address _ => Variable.ip.key ++ " must be an IPv4 address. Got: "
  | .ttl _ _ => Variable.ttl.key ++ " must be an integer. Got: "
  | .mode _ => Variable.mode.key ++ " '"
  | .level _ => Variable.logLevel.key ++ " '"
  | .settings _ => "Configuration error: "

/-- The beginnings of the texts. -/
def leads : List String :=
  [missing .ip, missing .ttl, missing .mode, missing .logLevel, missing .apiToken, missing .zone,
    missing .apiBase, missing .record, address "", ttl "" .empty, mode "", level "",
    settings .blankToken].map lead

theorem lead_mem (f : Fault) : f.lead ∈ leads := by
  cases f with
  | missing v =>
      cases v with
      | _ => simp [leads, lead]
  | _ => simp [leads, lead]

theorem exists_message_eq (f : Fault) : ∃ rest, f.message = f.lead ++ rest := by
  cases f with
  | missing v => exact ⟨"", rfl⟩
  | address text => exact ⟨_, String.append_assoc⟩
  | ttl raw cause => exact ⟨_, String.append_assoc⟩
  | mode raw => exact ⟨_, String.append_assoc.trans String.append_assoc⟩
  | level raw => exact ⟨_, String.append_assoc.trans String.append_assoc⟩
  | settings fault => exact ⟨_, String.append_assoc⟩

theorem lead_eq_of_message_eq {f g : Fault} (h : f.message = g.message) : f.lead = g.lead :=
  eq_of_lead lead_mem exists_message_eq (by decide +kernel) h

/-- Only that a variable is missing is told in the words for it. -/
theorem eq_missing_of_message_eq {v : Variable} {f : Fault}
    (h : f.message = (missing v).message) : f = missing v := by
  have hlead := lead_eq_of_message_eq h
  cases f with
  | missing w => rw [Variable.key_injective ((String.append_left_inj _).1 hlead)]
  | _ =>
      cases v with
      | _ => simp [lead, Variable.key] at hlead

theorem headline_eq_of_message_eq {f g : Fault} (hf : f.cause? = none) (hg : g.cause? = none)
    (h : f.message = g.message) : f.headline = g.headline := by
  rw [message_of_no_cause hf, message_of_no_cause hg] at h
  exact h

/-- **No two faults of an environment have the same text.** -/
theorem message_injective : Function.Injective message := by
  intro f g h
  have hlead := lead_eq_of_message_eq h
  cases f with
  | missing v => exact (eq_missing_of_message_eq h.symm).symm
  | address text =>
      cases g with
      | missing v => exact eq_missing_of_message_eq h
      | address text' => rw [eq_of_quoted h]
      | _ => simp [lead, Variable.key] at hlead
  | ttl raw cause =>
      cases g with
      | missing v => exact eq_missing_of_message_eq h
      | ttl raw' cause' =>
          have hcauses : (ttl raw cause).headline ++ ": " ++ cause.message =
              (ttl raw' cause').headline ++ ": " ++ cause'.message :=
            (message_of_cause rfl).symm.trans (h.trans (message_of_cause rfl))
          obtain rfl := IntFault.eq_of_append hcauses
          have hheadline := (String.append_left_inj _).1 ((String.append_left_inj _).1 hcauses)
          rw [(String.append_right_inj _).1 hheadline]
      | _ => simp [lead, Variable.key] at hlead
  | mode raw =>
      cases g with
      | missing v => exact eq_missing_of_message_eq h
      | mode raw' => rw [eq_of_quoted (headline_eq_of_message_eq rfl rfl h)]
      | _ => simp [lead, Variable.key] at hlead
  | level raw =>
      cases g with
      | missing v => exact eq_missing_of_message_eq h
      | level raw' => rw [eq_of_quoted (headline_eq_of_message_eq rfl rfl h)]
      | _ => simp [lead, Variable.key] at hlead
  | settings fault =>
      cases g with
      | missing v => exact eq_missing_of_message_eq h
      | settings fault' =>
          have hheadline := headline_eq_of_message_eq rfl rfl h
          rw [Settings.Fault.message_injective ((String.append_right_inj _).1 hheadline)]
      | _ => simp [lead, Variable.key] at hlead

end Fault

/-! ### What the command prints -/

/-- The line for a fault, or nothing. -/
def lineFor : Option Fault → String
  | none => ""
  | some fault => "Configuration error: " ++ fault.message ++ "\n"

theorem lineFor_some_ne (fault : Fault) : lineFor (some fault) ≠ "" := by
  intro h
  have hempty : "Configuration error: " ++ fault.message ++ "\n" = "" := h
  have hlength := congrArg String.length hempty
  simp [String.length_append] at hlength

/-- The line tells the fault. -/
theorem lineFor_injective : Function.Injective lineFor := by
  intro found found' h
  cases found with
  | none =>
      cases found' with
      | none => rfl
      | some fault' => exact absurd h.symm (lineFor_some_ne fault')
  | some fault =>
      cases found' with
      | none => exact absurd h (lineFor_some_ne fault)
      | some fault' => rw [Fault.message_injective (eq_of_quoted h)]

/-- The command prints the line for what is wrong with the environment, and nothing else. -/
theorem complaints_playback (host : Option Http.WebOrigin) (queue : List Http.Canned)
    (env : Environment) :
    (playback host queue env).complaints = lineFor (faultOf (Options.read env)) := by
  rw [playback, execute]
  cases Options.read env with
  | error fault => rfl
  | ok options => rfl

/-- **What is printed tells what is wrong**, whatever the host replies: nothing exactly if the
environment gives options, and otherwise one line for the fault.  Two environments make the command
print the same exactly if the same is wrong with them, or nothing with either. -/
theorem complaints_tell_fault (host host' : Option Http.WebOrigin)
    (queue queue' : List Http.Canned) (env env' : Environment) :
    let printed := (playback host queue env).complaints
    (printed = "" ↔ ∃ options, Options.read env = .ok options) ∧
      (∀ fault, Options.read env = .error fault →
        ∃ text, Printed fault text ∧ printed = "Configuration error: " ++ text ++ "\n") ∧
      (printed = (playback host' queue' env').complaints ↔
        faultOf (Options.read env) = faultOf (Options.read env')) := by
  intro printed
  have hprinted : printed = lineFor (faultOf (Options.read env)) :=
    complaints_playback host queue env
  refine ⟨?_, fun fault hfault => ?_, ?_⟩
  · rw [hprinted]
    cases Options.read env with
    | error fault => exact iff_of_false (lineFor_some_ne fault) (fun h => nomatch h)
    | ok options => exact iff_of_true rfl ⟨options, rfl⟩
  · obtain ⟨_, _, _, -, -, hreported⟩ :=
      examined_some_iff.1 (Options.read_eq_error_iff.1 hfault)
    refine ⟨fault.message, hreported.printed, ?_⟩
    rw [hprinted, hfault]
    rfl
  · rw [hprinted, complaints_playback host' queue' env']
    exact lineFor_injective.eq_iff

end Command

end ZoneKeeper
