/-
**What an outcome says about writes.**

An outcome that says that something has changed stands for one write, and any other outcome for
none.  In memory and with a live client the write has been made: the store has counted it, or the
host has received it.  In a dry run nothing is written, and it is an announcement in the log that
the outcome stands for.

Main definitions:

* `ZoneKeeper.Outcome.Tells` — an outcome tells how many writes there were;
* `ZoneKeeper.Cloudflare.Step.client?` — the client that a step makes;
* `ZoneKeeper.Cloudflare.Session.On` — the clients that a session uses have a property.

Main results:

* `ZoneKeeper.Cloudflare.writes_perform` — what one call writes, or announces;
* `ZoneKeeper.Cloudflare.update_tells` — what an update with an outcome writes, or announces;
* `ZoneKeeper.Cloudflare.Session.On.run` — the clients of a session are those that its steps made;
* `ZoneKeeper.changed_tells_writes` — **what every outcome says**, in every session;
* `ZoneKeeper.changed_without_write` — an outcome of a dry run.
-/

import ZoneKeeper.Proofs.Cloudflare.Calls
import ZoneKeeper.Proofs.Memory.Accounting
import ZoneKeeper.Proofs.Memory.Advance

set_option autoImplicit false

namespace ZoneKeeper

open ZoneKeeper.Http ZoneKeeper.Json ZoneKeeper.Text

/-- The outcome tells the number of writes: it says that something has changed exactly if there was
one, and that nothing has exactly if there was none. -/
structure Outcome.Tells (o : Outcome) (writes : Nat) : Prop where
  changed_iff : o.changed = true ↔ writes = 1
  unchanged_iff : o.changed = false ↔ writes = 0

theorem Outcome.tells_ite (o : Outcome) : o.Tells (if o.changed = true then 1 else 0) := by
  cases h : o.changed with
  | false => exact ⟨by simp [h], by simp [h]⟩
  | true => exact ⟨by simp [h], by simp [h]⟩

/-- Where what is written depends on the mode, and nothing is in a dry run, an outcome tells it in a
live run, and in a dry run only if nothing has changed. -/
theorem Outcome.tells_iff {o : Outcome} {dryRun : Bool} {writes : Nat}
    (hlive : dryRun = false → o.Tells writes) (hdry : dryRun = true → writes = 0) :
    o.Tells writes ↔ dryRun = false ∨ o.changed = false := by
  cases dryRun with
  | false => exact iff_of_true (hlive rfl) (.inl rfl)
  | true =>
      obtain rfl := hdry rfl
      refine ⟨fun h => .inr (h.unchanged_iff.2 rfl), ?_⟩
      rintro (h | h)
      · cases h
      · exact ⟨by simp [h], by simp [h]⟩

/-! ### In memory -/

namespace Memory.Session

/-- An update with an outcome counts a write exactly if the outcome says so. -/
theorem Sound.writes_of_outcome {s : Session} (hs : s.Sound) {r : Nat} {name text : String}
    {ttl : Int32} {o : Outcome} (h : (s.step (.update r name text ttl)).1.result = .outcome o) :
    (s.step (.update r name text ttl)).1.counts.writes =
      s.store.counts.writes + if o.changed = true then 1 else 0 := by
  change (s.step (.update r name text ttl)).2.store.counts.writes = _
  generalize hx : Step.update r name text ttl = x at h ⊢
  have hmove := hs.move (x := x) (hx ▸ rfl)
  rw [h] at hmove
  generalize (s.step x).2 = s' at hmove ⊢
  generalize hresult : Result.outcome o = result at hmove
  cases hmove with
  | update _ _ he =>
      obtain rfl := Result.eq_ok_of_ofUpdate hresult.symm
      exact he.writes_eq
  | quiet hquiet => rw [← hx] at hquiet; cases hquiet
  | _ => cases hresult

end Memory.Session

namespace Cloudflare

open Session (providerOf)

/-! ### Over a link -/

/-- How many of the requests write. -/
def writesIn (requests : List Request) : Nat :=
  requests.countP fun r => r.method.isWrite

/-- How many of the entries announce a write. -/
def announcedIn (log : List Entry) : Nat :=
  log.countP Entry.announcesWrite

theorem announcedIn_of_debug {entries : List Entry} (h : ∀ e ∈ entries, e.level = .debug) :
    announcedIn entries = 0 :=
  List.countP_eq_zero.2 fun e he => by rw [Entry.announcesWrite_of_debug (h e he)]; decide

/-- The number of writes that a client sends for a number of calls that write. -/
def Client.sends (c : Client) (writes : Nat) : Nat :=
  if c.dryRun = true then 0 else writes

/-- The number of writes that a client announces for a number of calls that write. -/
def Client.announces (c : Client) (writes : Nat) : Nat :=
  if c.dryRun = true then writes else 0

theorem Client.sends_add (c : Client) (m n : Nat) : c.sends (m + n) = c.sends m + c.sends n := by
  rw [sends, sends, sends]
  split
  · rfl
  · rfl

theorem Client.announces_add (c : Client) (m n : Nat) :
    c.announces (m + n) = c.announces m + c.announces n := by
  rw [announces, announces, announces]
  split
  · rfl
  · rfl

/-- **What one call writes, or announces**, when it is answered: a call that writes is sent by a
live client and announced by a dry run, and no other call is either. -/
theorem writes_perform {c : Client} {call : Call} {l l' : Link} {a : Answer}
    (h : (providerOf c).perform call l = (.ok a, l')) :
    writesIn l'.requests = writesIn l.requests + c.sends (if call.isWrite = true then 1 else 0) ∧
      announcedIn l'.log =
        announcedIn l.log + c.announces (if call.isWrite = true then 1 else 0) := by
  by_cases hsent : c.dryRun = false ∨ call.isWrite = false
  · obtain ⟨entries, hdebug, ⟨e, hfailed⟩ | ⟨url, -, htaken⟩⟩ := Client.perform_cases hsent l
    · cases hfailed.symm.trans h
    · obtain ⟨-, rfl⟩ := Prod.mk.inj (htaken.symm.trans h)
      have hone : writesIn [c.requestAt (.ofCall call) url] =
          if call.isWrite = true then 1 else 0 := by
        rw [writesIn, List.countP_singleton, Client.requestAt, Draft.isWrite_ofCall]
      have hnone : announcedIn (l.log ++ entries) = announcedIn l.log := by
        rw [announcedIn, List.countP_append]
        exact congrArg (announcedIn l.log + ·) (announcedIn_of_debug hdebug)
      have hmany : writesIn (l.requests ++ [c.requestAt (.ofCall call) url]) =
          writesIn l.requests + if call.isWrite = true then 1 else 0 := by
        rw [← hone]
        exact List.countP_append
      refine ⟨hmany.trans ?_, hnone.trans ?_⟩
      · rcases hsent with hlive | hread
        · simp [Client.sends, hlive]
        · simp [Client.sends, hread]
      · rcases hsent with hlive | hread
        · simp [Client.announces, hlive]
        · simp [Client.announces, hread]
  · simp only [not_or, Bool.not_eq_false] at hsent
    obtain ⟨a', entry, hentry, hrun⟩ := Client.perform_dryRun hsent.1 hsent.2 l
    obtain ⟨-, rfl⟩ := Prod.mk.inj (hrun.symm.trans h)
    refine ⟨by simp [Client.sends, hsent.1], ?_⟩
    rw [announcedIn, List.countP_append, List.countP_singleton, hentry]
    simp [Client.announces, hsent.1, hsent.2, announcedIn]

/-- What a dialogue without failures writes, or announces. -/
theorem writes_of_answers {c : Client} {d : Dialogue} {l l' : Link}
    (h : Answers (providerOf c) d l l') (hok : ∀ x ∈ d, ∃ a, x.2 = .ok a) :
    writesIn l'.requests =
        writesIn l.requests + c.sends ((d.map Prod.fst).countP Call.isWrite) ∧
      announcedIn l'.log =
        announcedIn l.log + c.announces ((d.map Prod.fst).countP Call.isWrite) := by
  induction h with
  | nil => simp [Client.sends, Client.announces]
  | cons hcall _ ih =>
      obtain ⟨⟨a, rfl⟩, hrest⟩ := List.forall_mem_cons.1 hok
      obtain ⟨hsent, hannounced⟩ := writes_perform hcall
      obtain ⟨hmore, hmoreAnnounced⟩ := ih hrest
      rw [hmore, hmoreAnnounced, hsent, hannounced, List.map_cons, List.countP_cons,
        Client.sends_add, Client.announces_add]
      dsimp only
      omega

/-- **What an update with an outcome writes, or announces.** -/
theorem update_tells {c : Client} {zone : Zone} {name : String} {address : Address} {ttl : Int32}
    {host : Option WebOrigin} {queue : List Canned} {o : Outcome} {l' : Link}
    (h : (reconcilerOf c zone).update name address ttl { host, queue } = (.ok o, l')) :
    (c.dryRun = false → o.Tells (writesIn l'.requests) ∧ announcedIn l'.log = 0) ∧
      (c.dryRun = true → writesIn l'.requests = 0 ∧ o.Tells (announcedIn l'.log)) := by
  obtain ⟨calls, result, l, hcourse⟩ := exists_course (providerOf c) zone
    (RecordName.complete name) address (effectiveTtl ttl) { host, queue }
  obtain ⟨rfl, rfl⟩ := Prod.mk.inj ((update_of_course hcourse).symm.trans h)
  obtain ⟨d, hd, ha, -⟩ := hcourse.exists_leads
  obtain ⟨hwrites, hannounced⟩ := writes_of_answers ha hd.answered
  rw [hd.countP_isWrite] at hwrites hannounced
  -- the outcome itself is logged by the reconciler
  have hlog : announcedIn (l.log ++ Reconciler.entriesOf zone.name (.ok o)) =
      announcedIn l.log := by
    rw [announcedIn, List.countP_append, Reconciler.entriesOf, List.countP_singleton]
    cases o with
    | _ => rfl
  dsimp only
  rw [hlog, hwrites, hannounced]
  refine ⟨fun hlive => ?_, fun hdry => ?_⟩
  · simp only [Client.sends, Client.announces, hlive, Bool.false_eq_true, if_false]
    exact ⟨(Nat.zero_add _).symm ▸ o.tells_ite, rfl⟩
  · simp only [Client.sends, Client.announces, hdry, if_true]
    exact ⟨rfl, (Nat.zero_add _).symm ▸ o.tells_ite⟩

/-! ### The clients of a session -/

/-- The client that a step makes, if it makes one. -/
def Step.client? : Step → Option Client
  | .client token base dryRun => (Client.create? token base dryRun).toOption
  | .clientOfSettings settings => (Client.ofSettings settings).toOption
  | .connect settings => (Client.ofSettings settings).toOption
  | _ => none

/-- A reconciler that binding yields is the one of a zone on the provider. -/
theorem eq_of_bind {σ : Type} {p : Provider (StateM σ)} {zoneName : String}
    {log : LogSink (StateM σ)} {s s' : σ} {r : Reconciler (StateM σ)}
    (h : Reconciler.bind p zoneName log s = (.ok r, s')) : ∃ zone, r = ⟨p, zone, log⟩ := by
  rw [Reconciler.bind] at h
  cases hf : DomainName.fault? zoneName with
  | some fault =>
      rw [hf] at h
      cases h
  | none =>
      rw [hf] at h
      dsimp only at h
      rcases hl : p.resolveZone zoneName s with ⟨e | id, s₁⟩
      · rw [StateM.bind_of_eq hl] at h
        cases h
      · rw [StateM.bind_of_eq hl] at h
        cases h
        exact ⟨_, rfl⟩

/-- A reconciler that connecting yields is the one of a zone on the client of the settings. -/
theorem eq_of_connect {settings : Settings} {l l' : Link} {r : LinkReconciler}
    (h : connect Link.exchange Link.write settings l = (.ok r, l')) :
    ∃ c zone, Client.ofSettings settings = .ok c ∧ r = reconcilerOf c zone := by
  rw [connect] at h
  cases hc : Client.ofSettings settings with
  | error e =>
      rw [hc] at h
      cases h
  | ok c =>
      rw [hc] at h
      dsimp only at h
      cases hdry : c.dryRun with
      | false =>
          rw [hdry] at h
          obtain ⟨zone, rfl⟩ := eq_of_bind (p := providerOf c) (s := l) h
          exact ⟨c, zone, rfl, rfl⟩
      | true =>
          rw [hdry] at h
          obtain ⟨zone, rfl⟩ := eq_of_bind (p := providerOf c) (s := (Link.write dryRunEntry l).2) h
          exact ⟨c, zone, rfl, rfl⟩

namespace Session

/-- The clients that a session uses have the property. -/
structure On (P : Client → Prop) (s : Session) : Prop where
  client : ∀ c ∈ s.client, P c
  reconciler : ∀ r ∈ s.reconciler, ∃ c zone, P c ∧ r = reconcilerOf c zone

namespace On

variable {P : Client → Prop} {s : Session}

theorem start : On P {} := ⟨fun _ hc => (nomatch hc), fun _ hr => nomatch hr⟩

theorem keepClient (h : s.On P) {made : Except Error Client} (hmade : ∀ c, made = .ok c → P c) :
    (s.keepClient made).2.On P := by
  cases made with
  | error e => exact h
  | ok c =>
      refine ⟨fun c' hc' => ?_, h.reconciler⟩
      obtain rfl := Option.some.inj hc'
      exact hmade c rfl

theorem keepReconciler (h : s.On P) {made : Except Error LinkReconciler}
    (hmade : ∀ r, made = .ok r → ∃ c zone, P c ∧ r = reconcilerOf c zone) :
    (s.keepReconciler made).2.On P := by
  cases made with
  | error e => exact h
  | ok r =>
      refine ⟨h.client, fun r' hr' => ?_⟩
      obtain rfl := Option.some.inj hr'
      exact hmade r rfl

/-- A step keeps the clients of the session, or adds the one that it makes. -/
theorem step (h : s.On P) {x : Step} (hx : ∀ c ∈ x.client?, P c) (host : Option WebOrigin)
    (queue : List Canned) : (s.step host x queue).2.On P := by
  change (s.perform x { host, queue }).1.2.On P
  have hmade : ∀ {made : Except Error Client}, x.client? = made.toOption →
      ∀ c, made = .ok c → P c := fun hclient c hc => hx c (by rw [hclient, hc]; rfl)
  cases x with
  | client token base dryRun => exact h.keepClient (hmade rfl)
  | clientOfSettings settings => exact h.keepClient (hmade rfl)
  | connect settings =>
      rcases hconnect : Cloudflare.connect Link.exchange Link.write settings { host, queue } with
        ⟨made, l⟩
      rw [perform, StateM.bind_of_eq hconnect]
      refine h.keepReconciler fun r hr => ?_
      subst hr
      obtain ⟨c, zone, hc, rfl⟩ := eq_of_connect hconnect
      exact ⟨c, zone, hmade rfl c hc, rfl⟩
  | bind zone =>
      rw [perform]
      cases hclient : s.client with
      | none => exact h
      | some c =>
          dsimp only
          rcases hbind : Reconciler.bind (providerOf c) zone Link.write { host, queue } with
            ⟨made, l⟩
          rw [StateM.bind_of_eq hbind]
          refine h.keepReconciler fun r hr => ?_
          subst hr
          obtain ⟨found, rfl⟩ := eq_of_bind hbind
          exact ⟨c, found, h.client c hclient, rfl⟩
  | call call =>
      rw [perform]
      cases hclient : s.client with
      | none => exact h
      | some c =>
          dsimp only
          rcases hcall : (providerOf c).perform call { host, queue } with ⟨e | a, l⟩
          · rw [StateM.bind_of_eq hcall]
            exact h
          · rw [StateM.bind_of_eq hcall]
            exact h
  | providerName =>
      rw [perform]
      cases s.client with
      | none => exact h
      | some c => exact h
  | update name text ttl =>
      rw [perform]
      cases s.reconciler with
      | none => exact h
      | some r =>
          cases Address.parse? text with
          | none => exact h
          | some address =>
              dsimp only
              rcases hrun : r.update name address ttl { host, queue } with ⟨e | o, l⟩
              · rw [StateM.bind_of_eq hrun]
                exact h
              · rw [StateM.bind_of_eq hrun]
                exact h

/-- **The clients of a session are those that its steps made.** -/
theorem run (h : s.On P) {steps : List (Step × List Canned)}
    (hsteps : ∀ x ∈ steps, ∀ c ∈ x.1.client?, P c) (host : Option WebOrigin) :
    (s.run host steps).2.On P := by
  induction steps generalizing s with
  | nil => exact h
  | cons x steps ih =>
      obtain ⟨hx, hmore⟩ := List.forall_mem_cons.1 hsteps
      exact ih (h.step hx host x.2) hmore

end On

/-- An update with an outcome was made by the session's reconciler. -/
theorem exists_update_of_outcome {s : Session} {host : Option WebOrigin} {name text : String}
    {ttl : Int32} {queue : List Canned} {o : Outcome}
    (h : (s.step host (.update name text ttl) queue).1.result = .outcome o) :
    ∃ r address l, s.reconciler = some r ∧
      r.update name address ttl { host, queue } = (.ok o, l) ∧
      (s.step host (.update name text ttl) queue).1 = ⟨.outcome o, l.requests, l.log⟩ := by
  rw [Session.step, perform] at h ⊢
  cases hr : s.reconciler with
  | none =>
      rw [hr] at h
      cases h
  | some r =>
      cases ha : Address.parse? text with
      | none =>
          rw [hr, ha] at h
          cases h
      | some address =>
          rw [hr, ha] at h
          dsimp only at h ⊢
          rcases hrun : r.update name address ttl { host, queue } with ⟨e | o', l⟩
          · rw [StateM.bind_of_eq hrun] at h
            cases h
          · rw [StateM.bind_of_eq hrun] at h ⊢
            cases h
            exact ⟨r, address, l, rfl, hrun, rfl⟩

end Session

end Cloudflare

/-! ### What every outcome says -/

section

open ZoneKeeper.Cloudflare

/-- **What every outcome says**, in every session.  In memory, an outcome tells how many writes the
store has counted for it.  Over a link, it was come to on a client that a step of the session made.
If that client is live, the outcome tells how many writes the host received, and none is announced;
if it is for a dry run, the host received none, and the outcome tells how many were announced.  So
what the host received is told exactly if the client is live or nothing has changed. -/
theorem changed_tells_writes (zones : List (String × String))
    (xs : List (Option String × Memory.Step)) (reconciler : Nat) (host : Option WebOrigin)
    (steps : List (Cloudflare.Step × List Canned)) (queue : List Canned) (name text : String)
    (ttl : Int32) (o : Outcome) :
    (let s := ((Memory.Session.start zones).run xs).2
      let report := (s.step (.update reconciler name text ttl)).1
      report.result = .outcome o →
        ∃ writes, report.counts.writes = s.store.counts.writes + writes ∧ o.Tells writes) ∧
    (let s := (Cloudflare.Session.run host {} steps).2
      let report := (s.step host (.update name text ttl) queue).1
      report.result = .outcome o →
        ∃ x ∈ steps, ∃ c ∈ x.1.client?, ∃ zone, s.reconciler = some (reconcilerOf c zone) ∧
          (c.dryRun = false → o.Tells (writesIn report.requests) ∧ announcedIn report.log = 0) ∧
          (c.dryRun = true → writesIn report.requests = 0 ∧ o.Tells (announcedIn report.log)) ∧
          (o.Tells (writesIn report.requests) ↔ c.dryRun = false ∨ o.changed = false)) := by
  refine ⟨fun h => ⟨_, (Memory.Session.sound_run zones xs).writes_of_outcome h, o.tells_ite⟩, ?_⟩
  intro s report h
  have hon : s.On fun c => ∃ x ∈ steps, c ∈ x.1.client? :=
    Session.On.run .start (fun x hx c hc => ⟨x, hx, hc⟩) host
  obtain ⟨r, address, l, hr, hrun, hreport⟩ := Session.exists_update_of_outcome h
  obtain ⟨c, zone, ⟨x, hx, hc⟩, rfl⟩ := hon.reconciler r hr
  refine ⟨x, hx, c, hc, zone, hr, ?_⟩
  rw [show report = _ from hreport]
  obtain ⟨hlive, hdry⟩ := update_tells hrun
  exact ⟨hlive, hdry, Outcome.tells_iff (fun h => (hlive h).1) fun h => (hdry h).1⟩

/-- A record is made in memory and over a link to a live host. -/
theorem one_write_in_memory_and_live :
    let zone := ("example.com", "zone-123")
    let made : Outcome := .created "www.example.com" "rec-1" ⟨1, 2, 3, 4⟩ 300
    let host : Option WebOrigin := some "127.0.0.1:8080".toList
    let found := success (writeArray [writeObject [("id", writeString "zone-123")]])
    let record := Record.json ⟨"rec-1", .a, "www.example.com", "1.2.3.4", 300⟩
    let steps : List (Cloudflare.Step × List Canned) :=
      [(.client "secret" "http://127.0.0.1:8080" false, []), (.bind "example.com", [found])]
    let inMemory := (((Memory.Session.start [zone]).run [(none, .bind 0 "example.com")]).2.step
      (.update 0 "www.example.com" "1.2.3.4" 300)).1
    let live := ((Cloudflare.Session.run host {} steps).2.step host
      (.update "www.example.com" "1.2.3.4" 300) [success (writeArray []), success record]).1
    inMemory.result = .outcome made ∧ live.result = .outcome made ∧
      (∃ writes, inMemory.counts.writes = 0 + writes ∧ made.Tells writes) ∧
      made.Tells (writesIn live.requests) := by
  intro zone made host found record steps inMemory live
  have hmemory : inMemory.result = .outcome made := by decide +kernel
  have hlive : live.result = .outcome made := by decide +kernel
  have hclients : ∀ x ∈ steps, ∀ c ∈ x.1.client?, c.dryRun = false := by decide +kernel
  obtain ⟨htold, hsent⟩ := changed_tells_writes [zone] [(none, .bind 0 "example.com")] 0 host steps
    [success (writeArray []), success record] "www.example.com" "1.2.3.4" 300 made
  obtain ⟨x, hx, c, hc, -, -, hwritten, -⟩ := hsent hlive
  exact ⟨hmemory, hlive, htold hmemory, (hwritten (hclients x hx c hc)).1⟩

/-- **An outcome of a dry run.**  It says that something has changed, and only reads were sent. -/
theorem changed_without_write :
    let host : Option WebOrigin := some "127.0.0.1:8080".toList
    let found := success (writeArray [writeObject [("id", writeString "zone-123")]])
    let steps : List (Cloudflare.Step × List Canned) :=
      [(.client "secret" "http://127.0.0.1:8080" true, []), (.bind "example.com", [found])]
    let report := ((Cloudflare.Session.run host {} steps).2.step host
      (.update "www.example.com" "1.2.3.4" 300) [success (writeArray [])]).1
    let made : Outcome := .created "www.example.com" "dry-run" ⟨1, 2, 3, 4⟩ 300
    report.result = .outcome made ∧ made.changed = true ∧
      report.requests.map Request.method = [.get] := by
  decide +kernel

end

end ZoneKeeper
