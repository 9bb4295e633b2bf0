/-
**Failures reach the caller.**

What a provider fails with is never dropped and never changed on its way to the caller.  Binding
turns the two failures that tell of the configuration into one of that kind, and wraps any other
with the operation and the zone's name; an update wraps the failure of the call that failed with
its operation and the full name of the record, whatever that failure is, also if it is a wrapped
failure itself or one about the configuration.

Main results:

* `ZoneKeeper.Reconciler.bind_of_no_fault` — binding to a domain name is one lookup;
* `ZoneKeeper.Reconciler.bind_fails_iff` — what binding to a domain name fails with;
* `ZoneKeeper.Leads.error_iff` — **a dialogue fails with the failure of one of its calls**;
* `ZoneKeeper.failures_reach_caller` — what binding and updates fail with, over any provider.
-/

import ZoneKeeper.Proofs.Dialogue

set_option autoImplicit false

namespace ZoneKeeper

variable {σ : Type}

/-! ### Binding -/

namespace Reconciler

/-- A failed lookup is a matter of configuration to the one who binds exactly if there is no such
zone or the credential is not accepted. -/
theorem bindError_eq_config_iff {zone : String} {e : Error} :
    (∃ detail, bindError zone e = .config detail) ↔
      ∃ detail, e = .notFound detail ∨ e = .authentication detail := by
  cases e with
  | notFound detail => exact iff_of_true ⟨_, rfl⟩ ⟨detail, .inl rfl⟩
  | authentication detail => exact iff_of_true ⟨_, rfl⟩ ⟨detail, .inr rfl⟩
  | _ => exact iff_of_false (fun ⟨_, h⟩ => nomatch h) (fun ⟨_, h⟩ => by simp at h)

/-- Any other failure of the lookup is wrapped as it is. -/
theorem bindError_eq_operation {zone : String} {e : Error} (hzone : ∀ detail, e ≠ .notFound detail)
    (hcredential : ∀ detail, e ≠ .authentication detail) :
    bindError zone e = .operation .resolveZone zone e := by
  cases e with
  | notFound detail => exact absurd rfl (hzone detail)
  | authentication detail => exact absurd rfl (hcredential detail)
  | _ => rfl

/-- A zone's name that is no domain name is refused without a call. -/
theorem bind_of_fault (p : Provider (StateM σ)) {zoneName : String} {fault : DomainName.Fault}
    (hf : DomainName.fault? zoneName = some fault) (s : σ) :
    Reconciler.bind p.recorded zoneName Recorded.write ⟨s, [], []⟩ =
      (.error (.config fault.message), ⟨s, [], []⟩) := by
  rw [bind_recorded, hf]

/-- **Binding to a domain name is one lookup**, whose failure is passed on. -/
theorem bind_of_no_fault (p : Provider (StateM σ)) {zoneName : String}
    (hf : DomainName.fault? zoneName = none) (s : σ) :
    let run := Reconciler.bind p.recorded zoneName Recorded.write ⟨s, [], []⟩
    let lookup := p.resolveZone zoneName s
    run.2.calls = [.resolveZone zoneName] ∧ run.2.state = lookup.2 ∧
      ((∃ e, lookup.1 = .error e ∧ run.1 = .error (bindError zoneName e)) ∨
        ∃ id, lookup.1 = .ok id ∧ run.1 = .ok (observed p ⟨id, zoneName⟩)) := by
  intro run lookup
  have hrun : run = _ := bind_recorded p s [] [] zoneName
  rcases hl : lookup with ⟨e | id, s'⟩
  · have hlookup : p.resolveZone zoneName s = (.error e, s') := hl
    simp only [hf, hlookup] at hrun
    rw [hrun]
    exact ⟨rfl, rfl, .inl ⟨e, rfl, rfl⟩⟩
  · have hlookup : p.resolveZone zoneName s = (.ok id, s') := hl
    simp only [hf, hlookup] at hrun
    rw [hrun]
    exact ⟨rfl, rfl, .inr ⟨id, rfl, rfl⟩⟩

/-- Binding to a domain name fails exactly if the lookup does. -/
theorem bind_fails_iff (p : Provider (StateM σ)) {zoneName : String}
    (hf : DomainName.fault? zoneName = none) (s : σ) :
    let run := Reconciler.bind p.recorded zoneName Recorded.write ⟨s, [], []⟩
    let lookup := p.resolveZone zoneName s
    ((∃ e, run.1 = .error e) ↔ ∃ e, lookup.1 = .error e) ∧
      ((∃ detail, run.1 = .error (.config detail)) ↔
        ∃ detail, lookup.1 = .error (.notFound detail) ∨
          lookup.1 = .error (.authentication detail)) ∧
      ∀ e, lookup.1 = .error e → (∀ detail, e ≠ .notFound detail) →
        (∀ detail, e ≠ .authentication detail) →
        run.1 = .error (.operation .resolveZone zoneName e) := by
  obtain ⟨-, -, hend⟩ := bind_of_no_fault p hf s
  intro run lookup
  rcases hend with ⟨e, hlookup, hrun⟩ | ⟨id, hlookup, hrun⟩
  · have hfailed : run.1 = .error (bindError zoneName e) := hrun
    have hsource : lookup.1 = .error e := hlookup
    refine ⟨iff_of_true ⟨_, hfailed⟩ ⟨e, hsource⟩, ?_, fun e' he' hzone hcredential => ?_⟩
    · simp only [hfailed, hsource, Except.error.injEq]
      exact bindError_eq_config_iff
    · obtain rfl := Except.error.inj (hsource.symm.trans he')
      rw [hfailed, bindError_eq_operation hzone hcredential]
  · have hbound : run.1 = .ok (observed p ⟨id, zoneName⟩) := hrun
    have hid : lookup.1 = .ok id := hlookup
    simp [hbound, hid]

end Reconciler

/-! ### Updates -/

namespace Leads

variable {zone : Zone} {name : String} {address : Address} {ttl : UInt32} {d : Dialogue}
  {result : Except Error Outcome}

/-- **A dialogue fails with the failure of one of its calls**, wrapped with the operation of that
call and the name of the record, and with nothing else. -/
theorem error_iff (h : Leads zone name address ttl d result) {e : Error} :
    result = .error e ↔
      ∃ call source, (call, .error source) ∈ d ∧ e = .operation call.operation name source := by
  cases h with
  | outsideZone _ | unchanged _ _ | updated _ _ | created _ =>
      refine iff_of_false nofun ?_
      rintro ⟨call, source, hmem, -⟩
      simp at hmem
  | @lookupFailed failure _ =>
      constructor
      · intro he
        exact ⟨_, failure, List.mem_singleton_self _, (Except.error.inj he).symm⟩
      · rintro ⟨call, source, hmem, rfl⟩
        cases List.mem_singleton.1 hmem
        rfl
  | @updateFailed _ _ failure _ _ | @createFailed failure _ =>
      constructor
      · intro he
        exact ⟨_, failure, List.mem_cons_of_mem _ (List.mem_singleton_self _),
          (Except.error.inj he).symm⟩
      · rintro ⟨call, source, hmem, rfl⟩
        rcases List.mem_cons.1 hmem with hmem | hmem
        · cases hmem
        · cases List.mem_singleton.1 hmem
          rfl

/-- The calls of an update look up, replace or create. -/
theorem operation_mem (h : Leads zone name address ttl d result) :
    ∀ x ∈ d, x.1.operation ∈ [Operation.fetch, .update, .create] := by
  cases h with
  | outsideZone _ => exact List.forall_mem_nil _
  | lookupFailed _ | unchanged _ _ => simp [Call.operation]
  | updateFailed _ _ | updated _ _ | createFailed _ | created _ => simp [Call.operation]

end Leads

/-- An update leads the dialogue of its calls. -/
theorem Reconciler.leads_dialogue (p : Provider (StateM σ)) (zone : Zone) (name : String)
    (address : Address) (ttl : Int32) (s : σ) :
    let run := (observed p zone).update name address ttl ⟨s, [], []⟩
    Leads zone (RecordName.complete name) address (effectiveTtl ttl) (p.dialogue run.2.calls s)
        run.1 ∧ run.2.calls = (p.dialogue run.2.calls s).map Prod.fst := by
  obtain ⟨d, result, s', -, hd, ha, hrun⟩ := p.exists_episode zone ⟨name, address, ttl⟩ [] s
  intro run
  rw [show run = _ from hrun [] []]
  dsimp only
  rw [List.nil_append, ha.dialogue_eq]
  exact ⟨hd, rfl⟩

/-! ### Both together -/

/-- **Failures reach the caller.**  Over any provider and from any state of it, binding fails with a
configuration error and without a call exactly if the zone's name is refused; otherwise it makes one
lookup, fails exactly if the lookup does, with a configuration error exactly if there is no such
zone or the credential is not accepted, and with any other failure wrapped as it is.  An update
fails exactly if one of its calls does, and then with the failure of that call, wrapped with the
call's operation and the full name of the record; it never fails with a configuration error. -/
theorem failures_reach_caller (p : Provider (StateM σ)) (s : σ) :
    (∀ zoneName,
      let run := Reconciler.bind p.recorded zoneName Recorded.write ⟨s, [], []⟩
      let lookup := p.resolveZone zoneName s
      ((∃ detail, run.1 = .error (.config detail)) ∧ run.2.calls = [] ↔
          ∃ fault, DomainName.fault? zoneName = some fault) ∧
        (∀ fault, DomainName.fault? zoneName = some fault →
          run.1 = .error (.config fault.message) ∧ run.2.state = s) ∧
        (DomainName.fault? zoneName = none →
          run.2.calls = [.resolveZone zoneName] ∧ run.2.state = lookup.2 ∧
            ((∃ e, run.1 = .error e) ↔ ∃ e, lookup.1 = .error e) ∧
            ((∃ detail, run.1 = .error (.config detail)) ↔
              ∃ detail, lookup.1 = .error (.notFound detail) ∨
                lookup.1 = .error (.authentication detail)) ∧
            ∀ e, lookup.1 = .error e → (∀ detail, e ≠ .notFound detail) →
              (∀ detail, e ≠ .authentication detail) →
              run.1 = .error (.operation .resolveZone zoneName e))) ∧
    ∀ zone name address ttl,
      let run := (Reconciler.observed p zone).update name address ttl ⟨s, [], []⟩
      let answers := p.dialogue run.2.calls s
      ((∃ e, run.1 = .error e) ↔ ∃ call source, (call, .error source) ∈ answers) ∧
        (∀ e, run.1 = .error e ↔ ∃ call source, (call, .error source) ∈ answers ∧
          e = .operation call.operation (RecordName.complete name) source) ∧
        (∀ call ∈ run.2.calls, call.operation ∈ [Operation.fetch, .update, .create]) ∧
        ∀ e, run.1 = .error e → e.isConfiguration = false := by
  refine ⟨fun zoneName => ?_, fun zone name address ttl => ?_⟩
  · intro run lookup
    have hrefused : ∀ fault, DomainName.fault? zoneName = some fault →
        run = (.error (.config fault.message), ⟨s, [], []⟩) :=
      fun fault hf => Reconciler.bind_of_fault p hf s
    refine ⟨⟨?_, ?_⟩, fun fault hf => ?_, fun hf => ?_⟩
    · rintro ⟨-, hcalls⟩
      cases hf : DomainName.fault? zoneName with
      | some fault => exact ⟨fault, rfl⟩
      | none =>
          have hone := (Reconciler.bind_of_no_fault p hf s).1
          exact absurd (hone.symm.trans hcalls) (List.cons_ne_nil _ _)
    · rintro ⟨fault, hf⟩
      rw [hrefused fault hf]
      exact ⟨⟨_, rfl⟩, rfl⟩
    · rw [hrefused fault hf]
      exact ⟨rfl, rfl⟩
    · obtain ⟨hcalls, hstate, -⟩ := Reconciler.bind_of_no_fault p hf s
      exact ⟨hcalls, hstate, Reconciler.bind_fails_iff p hf s⟩
  · intro run answers
    obtain ⟨hleads, hcalls⟩ := Reconciler.leads_dialogue p zone name address ttl s
    have hfails : ∀ e, run.1 = .error e ↔ ∃ call source, (call, .error source) ∈ answers ∧
        e = .operation call.operation (RecordName.complete name) source := fun e => hleads.error_iff
    refine ⟨⟨?_, ?_⟩, hfails, fun call hcall => ?_, fun e he => ?_⟩
    · rintro ⟨e, he⟩
      obtain ⟨call, source, hmem, -⟩ := (hfails e).1 he
      exact ⟨call, source, hmem⟩
    · rintro ⟨call, source, hmem⟩
      exact ⟨_, (hfails _).2 ⟨call, source, hmem, rfl⟩⟩
    · obtain ⟨x, hx, rfl⟩ := List.mem_map.1 (hcalls ▸ hcall)
      exact hleads.operation_mem x hx
    · obtain ⟨call, source, -, rfl⟩ := (hfails e).1 he
      rfl

/-- A provider all of whose calls fail alike: with a failure about the configuration, and with one
that is wrapped already.  Both are wrapped as they are, in binding and in an update. -/
theorem wrapped_failures_are_wrapped_again :
    let failing : Error → Provider (StateM Unit) := fun e =>
      { name := "failing"
        resolveZone := fun _ s => (.error e, s)
        listRecords := fun _ _ _ s => (.error e, s)
        createRecord := fun _ _ s => (.error e, s)
        updateRecord := fun _ _ _ s => (.error e, s) }
    let bound := fun e =>
      (Reconciler.bind (failing e).recorded "example.com" Recorded.write ⟨(), [], []⟩).1
    let updated := fun e => (Reconciler.observed (failing e) ⟨"zone-123", "ls90.co"⟩).update
      "host.ls90" ⟨1, 2, 3, 4⟩ 300 ⟨(), [], []⟩
    let e := Error.config "no token"
    let wrapped := e.during .create "www.example.com"
    bound e = .error (.operation .resolveZone "example.com" e) ∧
      bound wrapped = .error (.operation .resolveZone "example.com" wrapped) ∧
      (∃ detail, bound (.authentication "no token") = .error (.config detail)) ∧
      (updated wrapped).1 = .error (.operation .fetch "host.ls90.co" wrapped) := by
  intro failing bound updated e wrapped
  have hzone : DomainName.fault? "example.com" = none := by decide +kernel
  have hbind := fun e => ((failures_reach_caller (failing e) ()).1 "example.com").2.2 hzone
  have hwrap := fun e => (hbind e).2.2.2.2 e rfl
  have hupdate := (failures_reach_caller (failing wrapped) ()).2 ⟨"zone-123", "ls90.co"⟩ "host.ls90"
    ⟨1, 2, 3, 4⟩ 300
  refine ⟨hwrap e nofun nofun, hwrap wrapped nofun nofun, ?_, ?_⟩
  · exact (hbind (.authentication "no token")).2.2.2.1.2 ⟨_, .inr rfl⟩
  · have hname : RecordName.complete "host.ls90" = "host.ls90.co" := by decide +kernel
    have hcalls : (updated wrapped).2.calls = [.listRecords "zone-123" .a "host.ls90.co"] := by
      decide +kernel
    refine (hupdate.2.1 _).2 ⟨.listRecords "zone-123" .a "host.ls90.co", wrapped, ?_, ?_⟩
    · change (_, Except.error wrapped) ∈ (failing wrapped).dialogue (updated wrapped).2.calls ()
      rw [hcalls]
      exact List.mem_singleton_self _
    · rw [hname]
      rfl

end ZoneKeeper
