/-
**How the command ends.**

The command tells a wrong configuration from any other failure by its exit code.  Settings are
checked three times on the way: when the environment is read, when the client is made, and when the
reconciler is bound.  The first check covers the other two, so that past the environment only the
reply to the zone's lookup can still show that the configuration is wrong; and then nothing else has
been sent.

Main definitions:

* `ZoneKeeper.Cloudflare.OnlyLogs` — a sink that touches nothing but the log;
* `ZoneKeeper.Cloudflare.RefusesZone` — a reply says that the credential or the zone is wrong;
* `ZoneKeeper.Cloudflare.LooksUpZone` — the request that looks up the zone of settings.

Main results:

* `ZoneKeeper.Cloudflare.ofSettings_of_valid` — the first check covers the later ones;
* `ZoneKeeper.Cloudflare.showsConfiguration_iff` — **which replies show a wrong configuration**;
* `ZoneKeeper.Cloudflare.connect_onlyLogs` — connecting is the lookup of the zone;
* `ZoneKeeper.Command.run_configuration_iff`, `ZoneKeeper.Command.run_success_iff` — what ends a
  command that has its options;
* `ZoneKeeper.Command.exit_code_tells_configuration` — **what each exit code means**.
-/

import ZoneKeeper.Command.Run
import ZoneKeeper.Proofs.Cloudflare.BaseHost
import ZoneKeeper.Proofs.Command.Options

set_option autoImplicit false

namespace ZoneKeeper

open ZoneKeeper.Http ZoneKeeper.Json ZoneKeeper.Text

/-! ### Checks -/

/-- Settings that pass the first check make a client and name a zone. -/
theorem Cloudflare.ofSettings_of_valid {s : Settings} (h : s.fault? = none) :
    (∃ c, Client.ofSettings s = .ok c) ∧ DomainName.fault? s.zone = none :=
  ⟨⟨_, Client.ofSettings_eq h⟩, (Settings.fault?_eq_none_iff.1 h).2.2⟩

/-- Options that are read have settings that pass the check. -/
theorem Command.fault?_of_read {env : Environment} {options : Options}
    (h : Options.read env = .ok options) : options.settings.fault? = none :=
  (Options.read_eq_ok_iff.1 h).2

namespace Cloudflare

/-! ### The lookup of the zone -/

/-- The sink touches nothing but the log. -/
def OnlyLogs (log : LogSink (StateM Link)) : Prop :=
  ∀ entry l, ∃ entries, log entry l = ((), { l with log := entries })

/-- Entries below a threshold are not even kept. -/
theorem onlyLogs_atLevel (threshold : Level) : OnlyLogs (LogSink.atLevel threshold Link.write) := by
  intro entry l
  by_cases h : threshold.passes entry.level = true
  · exact ⟨l.log ++ [entry], by rw [LogSink.atLevel, if_pos h]; rfl⟩
  · exact ⟨l.log, by rw [LogSink.atLevel, if_neg h]; rfl⟩

/-- What the lookup of a zone comes to, told from what its transmission comes to. -/
def zoneOf (zone : String) (sent : Except SendFault Reply) : Except Error String :=
  (Client.received .zoneLookup (Value.list? ZoneEntry.ofJson?) sent).bind (firstZone zone)

/-- The reconciler that binding yields for what the lookup of the zone came to. -/
def boundTo (c : Client) (log : LogSink (StateM Link)) (zone : String) :
    Except Error String → Except Error LinkReconciler
  | .error e => .error (Reconciler.bindError zone e)
  | .ok id => .ok ⟨c.provider Link.exchange log, ⟨id, zone⟩, log⟩

section

variable {log : LogSink (StateM Link)} (hlog : OnlyLogs log)

include hlog

theorem resolveZone_onlyLogs (c : Client) (zone : String) (l : Link) :
    ∃ entries, c.resolveZone Link.exchange log zone l =
      (zoneOf zone (c.transmit (.zones zone) l).1,
        { (c.transmit (.zones zone) l).2 with log := entries }) := by
  obtain ⟨started, hstart⟩ :=
    hlog (adapterEntry .debug ("Looking up zone ID for domain: " ++ zone)) l
  rw [Client.resolveZone, StateM.bind_of_eq hstart,
    StateM.bind_of_eq (Client.send_eq c .zoneLookup _ (.zones zone) _), c.transmit_withLog]
  dsimp only
  rw [zoneOf]
  cases Client.received .zoneLookup (Value.list? ZoneEntry.ofJson?)
      (c.transmit (.zones zone) l).1 with
  | error e => exact ⟨started, rfl⟩
  | ok entries =>
      cases entries with
      | nil => exact ⟨started, rfl⟩
      | cons entry rest =>
          obtain ⟨found, hfound⟩ := hlog (adapterEntry .debug ("Found zone ID: " ++ entry.id))
            { (c.transmit (.zones zone) l).2 with log := started }
          refine ⟨found, ?_⟩
          dsimp only
          rw [StateM.bind_of_eq hfound]
          rfl

theorem bind_onlyLogs (c : Client) {zone : String} (hzone : DomainName.fault? zone = none)
    (l : Link) :
    ∃ entries, Reconciler.bind (c.provider Link.exchange log) zone log l =
      (boundTo c log zone (zoneOf zone (c.transmit (.zones zone) l).1),
        { (c.transmit (.zones zone) l).2 with log := entries }) := by
  obtain ⟨looked, hlooked⟩ := resolveZone_onlyLogs hlog c zone l
  have hresolve : (c.provider Link.exchange log).resolveZone zone l = _ := hlooked
  rw [Reconciler.bind, hzone]
  dsimp only
  rw [StateM.bind_of_eq hresolve]
  cases zoneOf zone (c.transmit (.zones zone) l).1 with
  | error e => exact ⟨looked, rfl⟩
  | ok id =>
      obtain ⟨resolved, hresolved⟩ := hlog (Reconciler.resolvedEntry providerName ⟨id, zone⟩)
        { (c.transmit (.zones zone) l).2 with log := looked }
      exact ⟨resolved, StateM.bind_of_eq hresolved⟩

/-- **Connecting is the lookup of the zone**, once the settings have passed the checks. -/
theorem connect_onlyLogs {settings : Settings} {c : Client}
    (hc : Client.ofSettings settings = .ok c) (hzone : DomainName.fault? settings.zone = none)
    (l : Link) :
    ∃ entries, connect Link.exchange log settings l =
      (boundTo c log settings.zone
          (zoneOf settings.zone (c.transmit (.zones settings.zone) l).1),
        { (c.transmit (.zones settings.zone) l).2 with log := entries }) := by
  rw [connect, hc]
  dsimp only
  cases c.dryRun with
  | false => exact bind_onlyLogs hlog c hzone l
  | true =>
      obtain ⟨started, hstart⟩ := hlog dryRunEntry l
      obtain ⟨entries, hbind⟩ := bind_onlyLogs hlog c hzone { l with log := started }
      rw [c.transmit_withLog] at hbind
      rw [if_pos rfl, StateM.bind_of_eq hstart]
      exact ⟨entries, hbind⟩

end

/-! ### Which replies show a wrong configuration -/

/-- The reply says that the credential or the zone is wrong: its status does, or it lists no zone
of the name. -/
def RefusesZone (canned : Canned) : Prop :=
  (∃ reply, canned.reply? = some reply ∧ reply.status ∈ [401, 403, 404]) ∨
    Yields (Value.list? ZoneEntry.ofJson?) canned []

/-- The request looks up the zone of the settings. -/
def LooksUpZone (settings : Settings) (request : Request) : Prop :=
  ∃ c url, Client.ofSettings settings = .ok c ∧ c.address? (.zones settings.zone) = some url ∧
    request = c.requestAt (.zones settings.zone) url

/-- A status that is no success shows a wrong configuration exactly if it is one of three. -/
theorem isConfiguration_statusError_iff (zone : String) (purpose : Purpose) (reply : Reply) :
    (Reconciler.bindError zone (statusError purpose reply)).isConfiguration = true ↔
      reply.status ∈ [401, 403, 404] := by
  rw [statusError]
  by_cases hauth : reply.status = 401 ∨ reply.status = 403
  · rw [if_pos hauth]
    exact iff_of_true rfl (by simp; omega)
  · rw [if_neg hauth]
    by_cases hmissing : reply.status = 404
    · rw [if_pos hmissing]
      exact iff_of_true rfl (by simp [hmissing])
    · have hno : reply.status ∉ [401, 403, 404] := by
        simp
        omega
      rw [if_neg hmissing]
      refine iff_of_false ?_ hno
      split
      · exact Bool.false_ne_true
      · split
        · exact Bool.false_ne_true
        · exact Bool.false_ne_true

theorem not_isSuccess_of_refused {status : Nat} (h : status ∈ [401, 403, 404]) :
    isSuccess status = false := by
  revert status
  decide

/-- What a failed binding says about the configuration. -/
def ShowsConfiguration (made : Except Error LinkReconciler) : Prop :=
  ∃ e, made = .error e ∧ e.isConfiguration = true

/-- **Which replies show a wrong configuration.** -/
theorem showsConfiguration_iff (c : Client) (log : LogSink (StateM Link)) (zone : String)
    (url : Url) (canned : Canned) :
    ShowsConfiguration (boundTo c log zone (zoneOf zone (Client.arrived url canned.reply?))) ↔
      RefusesZone canned := by
  cases hreply : canned.reply? with
  | none =>
      -- a lost request is no matter of configuration
      refine iff_of_false ?_ ?_
      · rintro ⟨e, he, hconfig⟩
        cases he
        cases hconfig
      · rintro (⟨reply, hsome, -⟩ | ⟨reply, -, hsome, -⟩)
        · cases hreply.symm.trans hsome
        · cases hreply.symm.trans hsome
  | some reply =>
      have hzone : zoneOf zone (Client.arrived url (some reply)) =
          (classify .zoneLookup (Value.list? ZoneEntry.ofJson?) reply).bind (firstZone zone) := rfl
      have hyields : ∀ entries, Yields (Value.list? ZoneEntry.ofJson?) canned entries ↔
          classify .zoneLookup (Value.list? ZoneEntry.ofJson?) reply = .ok entries := by
        intro entries
        have hreceived : Client.received .zoneLookup (Value.list? ZoneEntry.ofJson?)
            (Client.arrived url canned.reply?) = .ok entries ↔ _ := received_arrived_eq_ok_iff
        rw [← hreceived, hreply]
        rfl
      have hrefused : RefusesZone canned ↔ reply.status ∈ [401, 403, 404] ∨
          classify .zoneLookup (Value.list? ZoneEntry.ofJson?) reply = .ok [] := by
        rw [RefusesZone, hyields, hreply]
        simp only [Option.some.injEq, exists_eq_left']
      rw [hzone, hrefused]
      cases hclass : classify .zoneLookup (Value.list? ZoneEntry.ofJson?) reply with
      | ok entries =>
          have hs := (classify_eq_ok_iff.1 hclass).1
          have hno : reply.status ∉ [401, 403, 404] := fun h => by
            rw [not_isSuccess_of_refused h] at hs
            cases hs
          cases entries with
          | nil => exact iff_of_true ⟨_, rfl, rfl⟩ (.inr rfl)
          | cons entry rest =>
              refine iff_of_false ?_ ?_
              · rintro ⟨e, he, -⟩
                cases he
              · rintro (h | h)
                · exact hno h
                · cases h
      | error e =>
          rcases classify_eq_error hclass with ⟨-, rfl⟩ | ⟨hs, detail, rfl⟩
          · rw [← isConfiguration_statusError_iff zone .zoneLookup reply]
            constructor
            · rintro ⟨e, he, hconfig⟩
              cases he
              exact .inl hconfig
            · rintro (h | h)
              · exact ⟨_, rfl, h⟩
              · cases h
          · -- what is reported is no matter of configuration
            refine iff_of_false ?_ ?_
            · rintro ⟨e, he, hconfig⟩
              cases he
              cases hconfig
            · rintro (h | h)
              · rw [not_isSuccess_of_refused h] at hs
                cases hs
              · cases h

/-- A lookup that was not answered is no matter of configuration. -/
theorem not_showsConfiguration_of_fault (c : Client) (log : LogSink (StateM Link)) (zone : String)
    (fault : SendFault) :
    ¬ ShowsConfiguration (boundTo c log zone (zoneOf zone (.error fault))) := by
  rintro ⟨e, he, hconfig⟩
  cases he
  cases hconfig

end Cloudflare

/-! ### Updates -/

/-- A failed update is no matter of configuration. -/
theorem Course.not_isConfiguration {σ : Type} {p : Provider (StateM σ)} {zone : Zone}
    {name : String} {address : Address} {ttl : UInt32} {s s' : σ} {calls : List Call} {e : Error}
    (h : Course p zone name address ttl s calls (.error e) s') : e.isConfiguration = false := by
  cases h with
  | lookupFailed _ _ | updateFailed _ _ _ _ | createFailed _ _ _ => rfl

namespace Command

open ZoneKeeper.Cloudflare

/-! ### Runs -/

theorem exitCodeFor_eq_configuration_iff (e : Error) :
    exitCodeFor e = .configuration ↔ e.isConfiguration = true := by
  rw [exitCodeFor]
  cases e.isConfiguration with
  | false => decide
  | true => decide

theorem exitCodeFor_ne_success (e : Error) : exitCodeFor e ≠ .success := by
  rw [exitCodeFor]
  split
  · nofun
  · nofun

/-- A connected command succeeds exactly if the update has an outcome, and it fails for no matter of
configuration. -/
theorem updateRecord_cases (log : LogSink (StateM Link)) (options : Options) (r : LinkReconciler)
    (l : Link) :
    (updateRecord log options r l).1 ≠ .configuration ∧
      ((updateRecord log options r l).1 = .success ↔
        ∃ o l', r.update options.record options.address options.ttl l = (.ok o, l')) := by
  obtain ⟨calls, result, s', h⟩ := exists_course r.provider r.zone
    (RecordName.complete options.record) options.address (effectiveTtl options.ttl) l
  have hupdate := h.update_eq_logged
  rw [updateRecord, StateM.bind_of_eq hupdate]
  cases result with
  | ok o => exact ⟨nofun, iff_of_true rfl ⟨o, _, hupdate⟩⟩
  | error e =>
      refine ⟨fun hexit => ?_, iff_of_false (exitCodeFor_ne_success e) ?_⟩
      · have hconfig := (exitCodeFor_eq_configuration_iff e).1 hexit
        rw [h.not_isConfiguration] at hconfig
        cases hconfig
      · rintro ⟨o, l', ho⟩
        cases hupdate.symm.trans ho

/-- A command without options ends at once. -/
theorem playback_of_error {env : Environment} {fault : Fault}
    (h : Options.read env = .error fault) (host : Option WebOrigin) (queue : List Canned) :
    (playback host queue env).exitCode = .configuration ∧
      (playback host queue env).requests = [] := by
  rw [playback, execute, h]
  exact ⟨rfl, rfl⟩

/-- A command that has its options runs with them. -/
theorem playback_of_read {env : Environment} {options : Options}
    (h : Options.read env = .ok options) (host : Option WebOrigin) (queue : List Canned) :
    (playback host queue env).exitCode =
        (run Link.exchange (LogSink.atLevel options.level Link.write) options { host, queue }).1 ∧
      (playback host queue env).requests =
        (run Link.exchange (LogSink.atLevel options.level Link.write) options
          { host, queue }).2.requests := by
  rw [playback, execute, h]
  exact ⟨rfl, rfl⟩

/-- **What connecting decides**: a failure ends the command with the code for it and nothing more is
sent; otherwise the update decides. -/
theorem run_of_connect {log : LogSink (StateM Link)} (hlog : OnlyLogs log) {options : Options}
    {l l₁ : Link} {made : Except Error LinkReconciler}
    (h : connect Link.exchange log options.settings l = (made, l₁)) :
    let run := run Link.exchange log options l
    (run.1 = .configuration ↔ ShowsConfiguration made) ∧
      (∀ e, made = .error e → run.2.requests = l₁.requests) ∧
      (run.1 = .success ↔ ∃ r o l', made = .ok r ∧
        r.update options.record options.address options.ttl l₁ = (.ok o, l')) := by
  cases made with
  | error e =>
      obtain ⟨entries, hentry⟩ :=
        hlog (commandEntry .error ("Failed to initialize reconciler: " ++ e.message)) l₁
      have hrun : run Link.exchange log options l =
          (exitCodeFor e, { l₁ with log := entries }) := by
        rw [run, StateM.bind_of_eq h]
        exact StateM.bind_of_eq hentry
      rw [hrun]
      refine ⟨(exitCodeFor_eq_configuration_iff e).trans ⟨fun hconfig => ⟨e, rfl, hconfig⟩, ?_⟩,
        fun _ _ => rfl, iff_of_false (exitCodeFor_ne_success e) ?_⟩
      · rintro ⟨_, ⟨⟩, hconfig⟩
        exact hconfig
      · rintro ⟨r, o, l', ⟨⟩, -⟩
  | ok r =>
      have hrun : run Link.exchange log options l = updateRecord log options r l₁ :=
        StateM.bind_of_eq h
      obtain ⟨hconfig, hsuccess⟩ := updateRecord_cases log options r l₁
      rw [hrun]
      refine ⟨iff_of_false hconfig ?_, nofun, hsuccess.trans ⟨?_, ?_⟩⟩
      · rintro ⟨e, ⟨⟩, -⟩
      · rintro ⟨o, l', ho⟩
        exact ⟨r, o, l', rfl, ho⟩
      · rintro ⟨_, o, l', ⟨⟩, ho⟩
        exact ⟨o, l', ho⟩

/-- **With its options, the command ends as a matter of configuration exactly if the host receives
the lookup of the zone and refuses it**, and then it receives nothing else. -/
theorem run_configuration_iff {options : Options} (hvalid : options.settings.fault? = none)
    {log : LogSink (StateM Link)} (hlog : OnlyLogs log) (host : Option WebOrigin)
    (queue : List Canned) :
    let run := run Link.exchange log options { host, queue }
    (run.1 = .configuration ↔ ∃ lookup, LooksUpZone options.settings lookup ∧
      lookup ∈ run.2.requests ∧ RefusesZone (queue.headD .exhausted)) ∧
    (run.1 = .configuration → run.2.requests.length = 1) := by
  obtain ⟨⟨c, hc⟩, hzone⟩ := ofSettings_of_valid hvalid
  obtain ⟨entries, hconnect⟩ := connect_onlyLogs hlog hc hzone { host, queue }
  obtain ⟨hconfig, hrequests, -⟩ := run_of_connect hlog hconnect
  intro run
  obtain ⟨fault, hhome⟩ | ⟨url, hprepare, -, htaken⟩ :=
    c.transmit_cases (.zones options.settings.zone) { host, queue }
  · -- the lookup stays at home, which is another failure, and nothing is sent
    rw [hhome] at hconfig hrequests
    have hno := not_showsConfiguration_of_fault c log options.settings.zone fault
    have hnone : run.2.requests = [] := hrequests _ rfl
    refine ⟨iff_of_false (fun h => hno (hconfig.1 h)) ?_, fun h => absurd (hconfig.1 h) hno⟩
    rintro ⟨lookup, -, hmem, -⟩
    rw [hnone] at hmem
    exact List.not_mem_nil hmem
  · -- the lookup is taken, and the first reply decides
    rw [htaken] at hconfig hrequests
    have hrefused := showsConfiguration_iff c log options.settings.zone url
      (queue.headD .exhausted)
    have hone : run.1 = .configuration →
        run.2.requests = [c.requestAt (.zones options.settings.zone) url] := by
      intro h
      obtain ⟨e, he, -⟩ := hconfig.1 h
      exact hrequests e he
    refine ⟨⟨fun h => ?_, ?_⟩, fun h => by rw [hone h]; rfl⟩
    · refine ⟨_, ⟨c, url, hc, (Client.of_prepare_eq_ok hprepare).1, rfl⟩, ?_,
        hrefused.1 (hconfig.1 h)⟩
      rw [hone h]
      exact List.mem_singleton_self _
    · rintro ⟨-, -, -, h⟩
      exact hconfig.2 (hrefused.2 h)

/-- With its options, the command succeeds exactly if connecting yields a reconciler whose update
has an outcome. -/
theorem run_success_iff {log : LogSink (StateM Link)} (hlog : OnlyLogs log) (options : Options)
    (l : Link) :
    (run Link.exchange log options l).1 = .success ↔
      ∃ r l₁ o l', connect Link.exchange log options.settings l = (.ok r, l₁) ∧
        r.update options.record options.address options.ttl l₁ = (.ok o, l') := by
  rcases hconnect : connect Link.exchange log options.settings l with ⟨made, l₁⟩
  rw [(run_of_connect hlog hconnect).2.2]
  constructor
  · rintro ⟨r, o, l', rfl, ho⟩
    exact ⟨r, l₁, o, l', rfl, ho⟩
  · rintro ⟨r, l, o, l', hmade, ho⟩
    obtain ⟨rfl, rfl⟩ := Prod.mk.inj hmade
    exact ⟨r, o, l', rfl, ho⟩

/-! ### What each exit code means -/

/-- **What each exit code means**, in every environment and whatever the host replies.  The code is
1 exactly if the environment gives no options, and then nothing is sent, or the host receives the
lookup of the zone and refuses it, and then that is all it receives.  The code is 0 exactly if
connecting yields a reconciler and the update has an outcome.  In all other cases it is 2.  The
settings in options that an environment gives pass every later check. -/
theorem exit_code_tells_configuration (host : Option WebOrigin) (queue : List Canned)
    (env : Environment) :
    let t := playback host queue env
    let rejected := ∃ fault, Options.read env = .error fault
    let refused := ∃ options lookup, Options.read env = .ok options ∧
      LooksUpZone options.settings lookup ∧ lookup ∈ t.requests ∧
        RefusesZone (queue.headD .exhausted)
    let succeeded := ∃ options r l o l', Options.read env = .ok options ∧
      connect Link.exchange (LogSink.atLevel options.level Link.write) options.settings
        { host, queue } = (.ok r, l) ∧
      r.update options.record options.address options.ttl l = (.ok o, l')
    (t.exitCode.code = 1 ↔ rejected ∨ refused) ∧
      (rejected → t.requests = []) ∧ (refused → t.requests.length = 1) ∧
      (t.exitCode.code = 0 ↔ succeeded) ∧
      (t.exitCode.code = 2 ↔ ¬ (rejected ∨ refused) ∧ ¬ succeeded) ∧
      ∀ options, Options.read env = .ok options →
        (∃ c, Client.ofSettings options.settings = .ok c) ∧
          DomainName.fault? options.settings.zone = none := by
  intro t rejected refused succeeded
  have hcode : (t.exitCode.code = 1 ↔ t.exitCode = .configuration) ∧
      (t.exitCode.code = 0 ↔ t.exitCode = .success) ∧
      (t.exitCode.code = 2 ↔ t.exitCode ≠ .configuration ∧ t.exitCode ≠ .success) := by
    cases t.exitCode with
    | _ => decide
  rw [hcode.1, hcode.2.1, hcode.2.2]
  suffices h : (t.exitCode = .configuration ↔ rejected ∨ refused) ∧
      (rejected → t.requests = []) ∧ (refused → t.requests.length = 1) ∧
      (t.exitCode = .success ↔ succeeded) by
    obtain ⟨hconfig, hrejected, hrefused, hsuccess⟩ := h
    exact ⟨hconfig, hrejected, hrefused, hsuccess,
      and_congr (not_congr hconfig) (not_congr hsuccess),
      fun options hread => ofSettings_of_valid (fault?_of_read hread)⟩
  cases hread : Options.read env with
  | error fault =>
      obtain ⟨hexit, hnone⟩ := playback_of_error hread host queue
      have hrejected : rejected := ⟨fault, hread⟩
      refine ⟨iff_of_true hexit (.inl hrejected), fun _ => hnone, ?_, iff_of_false ?_ ?_⟩
      · rintro ⟨options, lookup, hoptions, -⟩
        cases hread.symm.trans hoptions
      · intro h
        cases hexit.symm.trans h
      · rintro ⟨options, r, l, o, l', hoptions, -⟩
        cases hread.symm.trans hoptions
  | ok options =>
      obtain ⟨hexit, hrequests⟩ := playback_of_read hread host queue
      have hvalid := fault?_of_read hread
      have hlog := onlyLogs_atLevel options.level
      obtain ⟨hconfig, hone⟩ := run_configuration_iff hvalid hlog host queue
      have hno : ¬ rejected := by
        rintro ⟨fault, hfault⟩
        cases hread.symm.trans hfault
      have hrefused : refused ↔ t.exitCode = .configuration := by
        rw [show t.exitCode = _ from hexit, hconfig, ← hrequests]
        constructor
        · rintro ⟨options', lookup, hoptions, hrest⟩
          cases hread.symm.trans hoptions
          exact ⟨lookup, hrest⟩
        · rintro ⟨lookup, hrest⟩
          exact ⟨options, lookup, hread, hrest⟩
      refine ⟨hrefused.symm.trans (or_iff_right hno).symm, fun h => absurd h hno, fun h => ?_, ?_⟩
      · rw [show t.requests = _ from hrequests]
        exact hone (hexit ▸ hrefused.1 h)
      · rw [show t.exitCode = _ from hexit, run_success_iff hlog]
        constructor
        · rintro ⟨r, l, o, l', hmade, ho⟩
          exact ⟨options, r, l, o, l', hread, hmade, ho⟩
        · rintro ⟨options', r, l, o, l', hoptions, hmade, ho⟩
          cases hread.symm.trans hoptions
          exact ⟨r, l, o, l', hmade, ho⟩

/-- A zone that the server does not list ends the command, after one request. -/
theorem unlisted_zone_ends_command :
    let env : Environment := fun v =>
      match v with
      | .ip => some "1.2.3.4"
      | .apiToken => some "secret"
      | .zone => some "example.com"
      | .apiBase => some "http://127.0.0.1:8080"
      | .record => some "www.example.com"
      | _ => none
    let unlisted := success (writeArray [])
    let t := playback (some "127.0.0.1:8080".toList) [unlisted] env
    t.exitCode.code = 1 ∧ RefusesZone unlisted ∧
      t.requests.map (fun r => (r.method, r.target)) = [(.get, "/zones?name=example.com")] := by
  intro env unlisted t
  have hcode : t.exitCode.code = 1 := by decide +kernel
  have hrequests : t.requests.map (fun r => (r.method, r.target)) =
      [(.get, "/zones?name=example.com")] := by decide +kernel
  obtain ⟨hone, hnothing, -⟩ :=
    exit_code_tells_configuration (some "127.0.0.1:8080".toList) [unlisted] env
  rcases hone.1 hcode with hrejected | ⟨options, lookup, -, -, -, hrefuses⟩
  · have hnone : t.requests = [] := hnothing hrejected
    rw [hnone] at hrequests
    cases hrequests
  · exact ⟨hcode, hrefuses, hrequests⟩

/-- Without a base in the environment the public one is asked, over TLS. -/
example :
    let env : Environment := fun v =>
      match v with
      | .ip => some "1.2.3.4"
      | .apiToken => some "secret"
      | .zone => some "example.com"
      | .record => some "www.example.com"
      | _ => none
    let found := success (writeArray [writeObject [("id", writeString "zone-123")]])
    let made := success (Record.json ⟨"rec-1", .a, "www.example.com", "1.2.3.4", 1⟩)
    let t := playback (some ⟨true, "api.cloudflare.com".toList⟩)
      [found, success (writeArray []), made] env
    t.exitCode.code = 0 ∧ t.requests.map Request.method = [.get, .get, .post] := by
  decide +kernel

end Command

end ZoneKeeper
