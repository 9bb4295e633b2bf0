/-
**A dry run is the live run without the writes.**

A client in a dry run sends nothing but reads, in every session and whatever the replies.  An
update in a dry run makes the same lookup as the live one, and where that calls for a write it
answers at once with the record that would have been written; the live run sends the write, and if
the reply to it holds the same record the two come to the same outcome.

Main definitions:

* `ZoneKeeper.Cloudflare.Step.OnlyDry` — a step that makes no client but for dry runs;
* `ZoneKeeper.Cloudflare.Client.inMode` — a client in a dry run, or live;
* `ZoneKeeper.Cloudflare.Echoes` — a reply that holds what was written;
* `ZoneKeeper.Cloudflare.Compared` — how the two runs of an update compare.

Main results:

* `ZoneKeeper.Cloudflare.only_reads_of_onlyDry` — nothing is written in a dry run;
* `ZoneKeeper.Cloudflare.update_compared` — the two runs of an update, case by case;
* `ZoneKeeper.Cloudflare.dry_run_is_live_without_writes` — **the comparison in full**.
-/

import ZoneKeeper.Proofs.Cloudflare.Gating
import ZoneKeeper.Proofs.Cloudflare.Likeness
import ZoneKeeper.Proofs.Outcome

set_option autoImplicit false

namespace ZoneKeeper

open ZoneKeeper.Http ZoneKeeper.Json ZoneKeeper.Text

namespace Cloudflare

/-! ### Sessions in a dry run -/

/-- The step makes no client but for dry runs. -/
def Step.OnlyDry : Step → Prop
  | .client _ _ dryRun => dryRun = true
  | .clientOfSettings settings => settings.dryRun = true
  | .connect settings => settings.dryRun = true
  | _ => True

/-- One client in a dry run, and one link that only reads were sent over. -/
def dryLikeness : Likeness where
  Clients c c' := c = c' ∧ c.dryRun = true
  Links l l' := l = l' ∧ ∀ r ∈ l.requests, r.method = .get
  fresh _ _ := ⟨rfl, List.forall_mem_nil _⟩
  write entry := by
    rintro l _ ⟨rfl, hl⟩
    exact ⟨rfl, rfl, hl⟩
  inspect := fun ⟨h, _⟩ => congrArg Client.inspect h
  dryRun := fun ⟨h, _⟩ => congrArg Client.dryRun h
  transmit := by
    rintro c _ d ⟨rfl, hdry⟩ hd l _ ⟨rfl, hl⟩
    refine ⟨rfl, rfl, ?_⟩
    have hread : d.method = .get := by
      have := hd hdry
      generalize d.method = m at this ⊢
      cases m with
      | get => rfl
      | post | patch => cases this
    rcases c.transmit_cases d l with ⟨fault, h⟩ | ⟨url, -, -, h⟩
    · rw [h]
      exact hl
    · rw [h]
      exact List.forall_mem_append.2 ⟨hl, List.forall_mem_singleton.2 hread⟩

theorem create?_dry (token base : String) :
    ResultsAlike dryLikeness.Clients (Client.create? token base true)
      (Client.create? token base true) := by
  rw [Client.create?]
  split
  · exact .error _
  · exact .ok ⟨rfl, rfl⟩

theorem ofSettings_dry {settings : Settings} (h : settings.dryRun = true) :
    ResultsAlike dryLikeness.Clients (Client.ofSettings settings) (Client.ofSettings settings) := by
  rw [Client.ofSettings]
  cases settings.fault? with
  | some fault => exact .error _
  | none =>
      rw [h]
      exact create?_dry _ _

theorem steps_of_onlyDry {x : Step} (h : x.OnlyDry) : dryLikeness.Steps x x := by
  cases x with
  | client token base dryRun =>
      obtain rfl : dryRun = true := h
      exact .client (create?_dry token base)
  | clientOfSettings settings => exact .clientOfSettings (ofSettings_dry h)
  | connect settings => exact .connect rfl (ofSettings_dry h)
  | bind zone => exact .bind zone
  | call call => exact .call call
  | providerName => exact .providerName
  | update name address ttl => exact .update name address ttl

/-- **Nothing is written in a dry run**, whatever is asked of the session and whatever the
replies. -/
theorem only_reads_of_onlyDry {steps : List (Step × List Canned)} (h : ∀ p ∈ steps, p.1.OnlyDry)
    (host : Option WebOrigin) :
    ∀ report ∈ (Session.run host {} steps).1, ∀ r ∈ report.requests, r.method = .get := by
  have hsteps : List.Forall₂ (fun p p' => dryLikeness.Steps p.1 p'.1 ∧ p.2 = p'.2) steps steps :=
    List.forall₂_same.2 fun p hp => ⟨steps_of_onlyDry (h p hp), rfl⟩
  have hreports := Likeness.run hsteps dryLikeness.sessions_start host
  intro report hreport
  obtain ⟨-, l, l', ⟨-, hl⟩, hrequests, -⟩ := List.forall₂_same.1 hreports report hreport
  rw [hrequests]
  exact hl

/-! ### The lookup -/

namespace Client

/-- The client in a dry run, or live. -/
def inMode (c : Client) (dryRun : Bool) : Client :=
  { c with dryRun }

/-- The host that a lookup reaches is the one that a record would be written at. -/
theorem directs_of_reaches {c : Client} {zoneId name : String} {type : RecordType} {url : Url}
    {request : Request} {l : Link} (h : c.prepare (.records zoneId type name) = .ok (url, request))
    (hreach : l.reaches url = true) :
    ∃ host, l.host = some host ∧ (∀ payload, c.Directs (.create zoneId payload) host) ∧
      ∀ recordId payload, c.Directs (.update zoneId recordId payload) host := by
  have htoken := (of_prepare_eq_ok h).2.2.1
  obtain ⟨host, bare, hhost, hbare, hlead⟩ := leadsTo_of_prepare h hreach
  refine ⟨host, hhost, fun payload => directs_of_parse? htoken hbare hlead,
    fun recordId payload => ?_⟩
  have hpath : ∀ more, (c.base ++ (Draft.recordsPath zoneId ++ more)).toList =
      c.base.toList ++ '/' :: ("zones".toList ++ '/' ::
        (zoneId.toList ++ ("/dns_records".toList ++ more.toList))) := by
    intro more
    simp [Draft.recordsPath, String.toList_append]
  have hbare' : Url.parse? (c.base ++ (Draft.recordsPath zoneId ++ "")).toList = some bare := by
    rw [String.append_empty]
    exact hbare
  rw [hpath] at hbare'
  have hdirectory : ∀ c ∈ "zones".toList, Url.isOuter c = false := fun c hc =>
    (Url.standsAsItIs_of_isPlain (List.all_eq_true.1
      (by decide : "zones".toList.all Url.isPlain = true) c hc)).not_isOuter
  obtain ⟨there, hthere, hscheme, hauthority⟩ := Url.parse?_below_directory hdirectory
    ⟨'z', by decide, by decide⟩ hbare' hlead.isWeb
    (zoneId.toList ++ ("/dns_records".toList ++ ("/" ++ recordId).toList))
  have hparse : Url.parse? (c.base ++ (Draft.update zoneId recordId payload).path).toList =
      some there := by
    rw [← hpath] at hthere
    rw [← hthere, Draft.update, String.append_assoc]
  exact directs_of_parse? htoken hparse
    (hlead.congr hscheme (by rw [hauthority]) (by rw [hauthority]))

end Client

/-- The entry for a lookup of the A records of a name. -/
def lookupEntry (name : String) : Entry :=
  adapterEntry .debug ("Looking up records: " ++ name ++ " (type: " ++ RecordType.a.text ++ ")")

/-- The ways a lookup can go, over a link that nothing has happened on and whose host answers
`first`: what it comes to, and the link after it for every further queue of replies. -/
inductive LookedUp (c : Client) (host : Option WebOrigin) (zoneId name : String)
    (first : Canned) : Except Error (List Record) → (List Canned → Link) → Prop
  /-- The request stays at home. -/
  | home (e : Error) :
      LookedUp c host zoneId name first (.error e) fun rest =>
        { host, queue := first :: rest, log := [lookupEntry name] }
  /-- The request is taken at a place where records can be written, too. -/
  | away {read : Request} {place : WebOrigin} (answer : Except Error (List Record)) :
      read.method = .get → host = some place →
      (∀ payload, c.Fits (.create zoneId payload) ∧ c.Directs (.create zoneId payload) place) →
      (∀ recordId payload, c.Directs (.update zoneId recordId payload) place) →
      LookedUp c host zoneId name first answer fun rest =>
        { host, queue := rest, requests := [read], log := [lookupEntry name] }

section

variable {c : Client} {host : Option WebOrigin} {zoneId name : String} {first : Canned}
  {answer : Except Error (List Record)} {after : List Canned → Link}
  (h : LookedUp c host zoneId name first answer after)

include h

theorem LookedUp.same_requests (rest rest' : List Canned) :
    (after rest).requests = (after rest').requests := by
  cases h with
  | home | away => rfl

theorem LookedUp.only_reads (rest : List Canned) :
    ∀ r ∈ (after rest).requests, r.method = .get := by
  cases h with
  | home => exact List.forall_mem_nil _
  | away _ hread => exact List.forall_mem_singleton.2 hread

end

/-- Every lookup goes one of the two ways, whatever replies follow the first. -/
theorem lookedUp (c : Client) (host : Option WebOrigin) (zoneId name : String)
    (first : Canned) :
    ∃ answer after, LookedUp c host zoneId name first answer after ∧ ∀ rest,
      c.listRecords Link.exchange Link.write zoneId .a name { host, queue := first :: rest } =
        (answer, after rest) := by
  -- what is sent does not depend on the replies that follow
  have hlookup : ∀ rest,
      c.listRecords Link.exchange Link.write zoneId .a name { host, queue := first :: rest } =
        let sent := c.transmit (.records zoneId .a name)
          { host, queue := first :: rest, log := [lookupEntry name] }
        ((Client.received .recordLookup (Value.list? RecordEntry.ofJson?) sent.1).bind
          RecordEntry.toRecords, sent.2) := fun rest => c.listRecords_eq _ zoneId .a name
  cases hp : c.prepare (.records zoneId .a name) with
  | error fault =>
      refine ⟨_, _, .home (sendError .recordLookup fault), fun rest => ?_⟩
      rw [hlookup, Client.transmit, hp]
      rfl
  | ok p =>
      obtain ⟨url, request⟩ := p
      by_cases hreach : (Link.mk host [] [] []).reaches url = true
      · obtain ⟨place, hplace, hcreate, hupdate⟩ := Client.directs_of_reaches hp hreach
        obtain ⟨haddress, hrequest, -, -, hrequested⟩ := Client.of_prepare_eq_ok hp
        have hfits : c.Fits (.records zoneId .a name) := by
          intro u hu
          obtain rfl := Option.some.inj (haddress.symm.trans hu)
          rw [Url.canBeRequested, Bool.and_eq_true, decide_eq_true_eq] at hrequested
          exact hrequested.1
        have hread : request.method = .get := by
          rw [hrequest]
          rfl
        refine ⟨_, _, .away ((Client.received .recordLookup (Value.list? RecordEntry.ofJson?)
            (Client.arrived url first.reply?)).bind RecordEntry.toRecords) hread hplace
          (fun payload => ⟨hfits.create payload, hcreate payload⟩) hupdate, fun rest => ?_⟩
        rw [hlookup, Client.transmit, hp]
        dsimp only
        rw [Link.exchange_of_reaches (l := ⟨host, first :: rest, [], [lookupEntry name]⟩) hreach]
        rfl
      · refine ⟨_, _, .home (sendError .recordLookup (.lost url.text)), fun rest => ?_⟩
        rw [hlookup, Client.transmit, hp]
        dsimp only
        rw [Link.exchange_of_not_reaches (l := ⟨host, first :: rest, [], [lookupEntry name]⟩)
          hreach]
        rfl

/-! ### The two runs of an update -/

/-- The reply holds the payload as the record of an id. -/
def Echoes (payload : Payload) (id : String) (reply : Canned) : Prop :=
  Yields RecordEntry.ofJson? reply (payload.toRecord id).asEntry

theorem Echoes.received {payload : Payload} {id : String} {reply : Canned}
    (h : Echoes payload id reply) (purpose : Purpose) (url : Url) :
    (Client.received purpose RecordEntry.ofJson? (Client.arrived url reply.reply?)).bind
      RecordEntry.toRecord = .ok (payload.toRecord id) := by
  rw [received_arrived_eq_ok_iff.2 h]
  exact (payload.toRecord id).toRecord_asEntry

/-- The entry tells which request an update of the given outcome would have sent to the zone. -/
inductive Announces (zoneId : String) (request : Request) : Outcome → Entry → Prop
  | create {name recordId : String} {address : Address} {ttl : UInt32} : request.method = .post →
      Announces zoneId request (.created name recordId address ttl)
        (adapterEntry .info ("[DRY-RUN] Would send POST to zone " ++ zoneId ++
          " with payload: " ++ request.body))
  | update {name recordId previous : String} {address : Address} {ttl : UInt32} :
      request.method = .patch →
      Announces zoneId request (.updated name recordId previous address ttl)
        (adapterEntry .info ("[DRY-RUN] Would send PATCH for record " ++ recordId ++
          " with payload: " ++ request.body))

/-- If the outcome replaces a record, the address of that record can be requested. -/
def Client.CanReplace (c : Client) (zoneId : String) (payload : Payload) : Outcome → Prop
  | .updated _ recordId _ _ _ => c.Fits (.update zoneId recordId payload)
  | _ => True

/-- How the two runs of an update compare, the dry one first: results and links.  The second reply
is the one to the write. -/
inductive Compared (c : Client) (zone : Zone) (payload : Payload) (second : Canned) :
    Except Error Outcome × Link → Except Error Outcome × Link → Prop
  /-- The lookup fails, or it calls for no write. -/
  | unwritten {result : Except Error Outcome} {l l' : Link} :
      l.requests = l'.requests → (∀ r ∈ l'.requests, r.method = .get) →
      (∀ e, result = .error e → ∃ cause : Error, e = cause.during .fetch payload.name) →
      (∀ o, result = .ok o → o.changed = false) →
      Compared c zone payload second (result, l) (result, l')
  /-- The lookup calls for a write, which is sent in the live run. -/
  | written {read write : Request} {o : Outcome} {line : Entry} {op : Operation}
      {result : Except Error Outcome} {l l' : Link} :
      read.method = .get → l.requests = [read] → l'.requests = [read, write] →
      Announces zone.id write o line →
      l.log = [lookupEntry payload.name, line, Reconciler.outcomeEntry zone.name o] →
      op ≠ .fetch → (∀ e, result = .error e → ∃ cause : Error, e = cause.during op payload.name) →
      c.CanReplace zone.id payload o →
      (∀ id, Echoes payload id second →
        result.map (Outcome.withCreatedId "dry-run") = .ok o) →
      Compared c zone payload second (.ok o, l) (result, l')
  /-- The lookup calls for a write whose address is too long to be requested. -/
  | unsendable {read : Request} {recordId previous : String} {address : Address} {cause : Error}
      {l l' : Link} :
      ¬ c.Fits (.update zone.id recordId payload) →
      read.method = .get → l.requests = [read] → l'.requests = [read] →
      Compared c zone payload second
        (.ok (.updated payload.name recordId previous address payload.ttl), l)
        (.error (cause.during .update payload.name), l')

/-- The links of the two runs after a lookup that was taken at a place. -/
structure BothLookedUp (read : Request) (place : WebOrigin) (name : String) (l l' : Link) :
    Prop where
  reads : read.method = .get
  dry : l.requests = [read]
  live : l'.requests = [read]
  log : l.log = [lookupEntry name]
  host : l'.host = some place

section

variable {c : Client} {zone : Zone} {name : String} {address : Address} {ttl : Int32}
  {l l' l₁ l₁' : Link} {read : Request} {place : WebOrigin} {payload : Payload}
  (hz : zone.name.toList <:+ (RecordName.complete name).toList)
  (hpayload : payload = ⟨.a, RecordName.complete name, address.text, effectiveTtl ttl⟩)
  (hboth : BothLookedUp read place payload.name l₁ l₁')

include hz hpayload hboth

/-- Where there is no record, the live run makes one. -/
theorem compared_of_create
    (hlist : (Session.providerOf (c.inMode true)).listRecords zone.id .a (RecordName.complete name)
      l = (.ok [], l₁))
    (hlist' : (Session.providerOf (c.inMode false)).listRecords zone.id .a
      (RecordName.complete name) l' = (.ok [], l₁'))
    (hdirects : c.Directs (.create zone.id payload) place)
    (hfits : c.Fits (.create zone.id payload)) :
    Compared c zone payload (l₁'.queue.headD .exhausted)
      ((reconcilerOf (c.inMode true) zone).update name address ttl l)
      ((reconcilerOf (c.inMode false) zone).update name address ttl l') := by
  obtain ⟨url, -, hlive⟩ := Client.createRecord_of_fits (c := c.inMode false) rfl hdirects
    hboth.host hfits
  have hdry := Client.createRecord_of_dryRun (c := c.inMode true) l₁ rfl zone.id payload
  -- of the request that is sent only the method and the body count
  have hmethod : ((c.inMode false).requestAt (.create zone.id payload) url).method = .post := rfl
  have hbody : ((c.inMode false).requestAt (.create zone.id payload) url).body =
    payloadText payload := rfl
  generalize (c.inMode false).requestAt (.create zone.id payload) url = write at *
  rw [← hbody] at hdry
  subst hpayload
  rw [update_of_create hz hlist hdry, update_of_create hz hlist' hlive]
  refine .written hboth.reads hboth.dry ?_ (.create hmethod) ?_
    (show Operation.create ≠ .fetch from nofun) (fun _ => of_afterWrite_eq_error) trivial
    fun id hecho => ?_
  · exact congrArg (· ++ [write]) hboth.live
  · exact congrArg (fun log => log ++ _ ++ _) hboth.log
  · dsimp only
    rw [Link.next?, hecho.received]
    rfl

/-- Where there is a record of another content, the live run replaces it if its address can be
requested. -/
theorem compared_of_replace {existing : Record} {more : List Record}
    (hlist : (Session.providerOf (c.inMode true)).listRecords zone.id .a (RecordName.complete name)
      l = (.ok (existing :: more), l₁))
    (hlist' : (Session.providerOf (c.inMode false)).listRecords zone.id .a
      (RecordName.complete name) l' = (.ok (existing :: more), l₁'))
    (hcontent : existing.content ≠ address.text)
    (hdirects : c.Directs (.update zone.id existing.id payload) place) :
    Compared c zone payload (l₁'.queue.headD .exhausted)
      ((reconcilerOf (c.inMode true) zone).update name address ttl l)
      ((reconcilerOf (c.inMode false) zone).update name address ttl l') := by
  have hdry := Client.updateRecord_of_dryRun (c := c.inMode true) l₁ rfl zone.id existing.id payload
  by_cases hfits : c.Fits (.update zone.id existing.id payload)
  · obtain ⟨url, -, hlive⟩ := Client.updateRecord_of_fits (c := c.inMode false) rfl hdirects
      hboth.host hfits
    have hmethod : ((c.inMode false).requestAt (.update zone.id existing.id payload) url).method =
      .patch := rfl
    have hbody : ((c.inMode false).requestAt (.update zone.id existing.id payload) url).body =
      payloadText payload := rfl
    generalize (c.inMode false).requestAt (.update zone.id existing.id payload) url = write at *
    rw [← hbody] at hdry
    subst hpayload
    rw [update_of_replace hz hlist hcontent hdry, update_of_replace hz hlist' hcontent hlive]
    refine .written hboth.reads hboth.dry ?_ (.update hmethod) ?_
      (show Operation.update ≠ .fetch from nofun) (fun _ => of_afterWrite_eq_error) hfits
      fun id hecho => ?_
    · exact congrArg (· ++ [write]) hboth.live
    · exact congrArg (fun log => log ++ _ ++ _) hboth.log
    · dsimp only
      rw [Link.next?, hecho.received]
      rfl
  · obtain ⟨cause, hlive⟩ := Client.updateRecord_of_not_fits (c := c.inMode false) (l := l₁') rfl
      hdirects hfits
    subst hpayload
    rw [update_of_replace hz hlist hcontent hdry, update_of_replace hz hlist' hcontent hlive]
    exact .unsendable hfits hboth.reads hboth.dry hboth.live

end

/-- **The two runs of an update, case by case.** -/
theorem update_compared (c : Client) (host : Option WebOrigin) (zone : Zone) (name : String)
    (address : Address) (ttl : Int32) (first : Canned) (rest rest' : List Canned) :
    Compared c zone ⟨.a, RecordName.complete name, address.text, effectiveTtl ttl⟩
      (rest'.headD .exhausted)
      ((reconcilerOf (c.inMode true) zone).update name address ttl
        { host, queue := first :: rest })
      ((reconcilerOf (c.inMode false) zone).update name address ttl
        { host, queue := first :: rest' }) := by
  obtain ⟨answer, after, hlooked, hlookup⟩ :=
    lookedUp c host zone.id (RecordName.complete name) first
  -- the lookup is the same in both modes
  have hlist : ∀ mode rest, (Session.providerOf (c.inMode mode)).listRecords zone.id .a
      (RecordName.complete name) { host, queue := first :: rest } = (answer, after rest) :=
    fun _ rest => hlookup rest
  by_cases hz : zone.name.toList <:+ (RecordName.complete name).toList
  · rcases answer with e | _ | ⟨existing, more⟩
    · rw [update_of_course (.lookupFailed hz (hlist true rest)),
        update_of_course (.lookupFailed hz (hlist false rest'))]
      refine .unwritten (hlooked.same_requests rest rest') (hlooked.only_reads rest') ?_ nofun
      rintro _ ⟨⟩
      exact ⟨e, rfl⟩
    · cases hlooked with
      | away _ hread hplace hcreate _ =>
          exact compared_of_create hz rfl ⟨hread, rfl, rfl, rfl, hplace⟩ (hlist true rest)
            (hlist false rest') (hcreate _).2 (hcreate _).1
    · by_cases hcontent : existing.content = address.text
      · rw [update_of_course (.unchanged hz (hlist true rest) hcontent),
          update_of_course (.unchanged hz (hlist false rest') hcontent)]
        refine .unwritten (hlooked.same_requests rest rest') (hlooked.only_reads rest') nofun ?_
        rintro _ ⟨⟩
        rfl
      · cases hlooked with
        | away _ hread hplace _ hupdate =>
            exact compared_of_replace hz rfl ⟨hread, rfl, rfl, rfl, hplace⟩ (hlist true rest)
              (hlist false rest') hcontent (hupdate _ _)
  · rw [update_of_course (.outsideZone hz), update_of_course (.outsideZone hz)]
    refine .unwritten rfl (List.forall_mem_nil _) nofun ?_
    rintro _ ⟨⟩
    rfl

/-- What a dry run announces is a write. -/
theorem Announces.isWrite {zoneId : String} {request : Request} {o : Outcome} {line : Entry}
    (h : Announces zoneId request o line) : request.method.isWrite = true := by
  cases h with
  | create hmethod | update hmethod =>
      rw [hmethod]
      rfl

namespace Compared

variable {c : Client} {zone : Zone} {payload : Payload} {second : Canned}
  {dry live : Except Error Outcome × Link} (h : Compared c zone payload second dry live)

include h

/-- The dry run sends what the live run sends, but for the write. -/
theorem requests_eq : dry.2.requests = live.2.requests.filter fun r => r.method = .get := by
  cases h with
  | unwritten hsame hreads _ _ =>
      refine hsame.trans (List.filter_eq_self.2 fun r hr => ?_).symm
      exact decide_eq_true (hreads r hr)
  | @written read write _ _ _ _ _ _ hread hdry hlive hline _ _ _ _ _ =>
      have hwrite : write.method ≠ .get := fun hget => by
        have := hline.isWrite
        rw [hget] at this
        cases this
      simp [hdry, hlive, hread, hwrite]
  | unsendable _ hread hdry hlive => simp [hdry, hlive, hread]

/-- The dry run fails exactly if the live run fails at the lookup, with the same error. -/
theorem error_iff (e : Error) :
    dry.1 = .error e ↔
      live.1 = .error e ∧ ∃ cause : Error, e = cause.during .fetch payload.name := by
  cases h with
  | unwritten _ _ hfetch _ => exact ⟨fun he => ⟨he, hfetch e he⟩, fun he => he.1⟩
  | written _ _ _ _ _ hop hcause _ _ =>
      refine iff_of_false nofun ?_
      rintro ⟨hlive, cause, he⟩
      -- a failed write is not told as a failed lookup
      obtain ⟨cause', he'⟩ := hcause e hlive
      exact hop (Error.operation.inj (he'.symm.trans he)).1
  | unsendable =>
      refine iff_of_false nofun ?_
      rintro ⟨hlive, cause, he⟩
      exact nomatch (Error.operation.inj ((Except.error.inj hlive).trans he)).1

/-- If the reply to the write holds what was written, both runs come to the same outcome, but for
the id of a record that is made, exactly if the write can be requested. -/
theorem outcome_eq_iff (id : String) (hecho : Echoes payload id second) :
    dry.1 = live.1.map (Outcome.withCreatedId "dry-run") ↔
      ∀ o, dry.1 = .ok o → c.CanReplace zone.id payload o := by
  cases h with
  | @unwritten result _ _ _ _ _ hunchanged =>
      cases result with
      | error e => exact iff_of_true rfl nofun
      | ok o =>
          have hno := hunchanged o rfl
          refine iff_of_true
            (congrArg Except.ok (Outcome.withCreatedId_of_not_changed hno _).symm) ?_
          rintro o' ⟨⟩
          cases o with
          | updated => cases hno
          | _ => trivial
  | written _ _ _ _ _ _ _ hfits houtcome =>
      refine iff_of_true (houtcome id hecho).symm ?_
      rintro _ ⟨⟩
      exact hfits
  | unsendable hlong => exact iff_of_false nofun fun hfits => hlong (hfits _ rfl)

/-- What the live run writes is announced in the log of the dry run. -/
theorem announced (write : Request) (hmem : write ∈ live.2.requests)
    (hwrite : write.method.isWrite = true) :
    ∃ o line, dry.1 = .ok o ∧ Announces zone.id write o line ∧
      dry.2.log = [lookupEntry payload.name, line, Reconciler.outcomeEntry zone.name o] := by
  have hnot : ∀ read : Request, read.method = .get → write ≠ read := by
    rintro read hread rfl
    rw [hread] at hwrite
    cases hwrite
  cases h with
  | unwritten _ hreads _ _ => exact absurd rfl (hnot write (hreads write hmem))
  | @written read _ o line _ _ _ _ hread _ hlive hline hlog _ _ _ _ =>
      rw [hlive] at hmem
      rcases List.mem_cons.1 hmem with rfl | hmem
      · exact absurd rfl (hnot _ hread)
      · obtain rfl := List.mem_singleton.1 hmem
        exact ⟨o, line, rfl, hline, hlog⟩
  | unsendable _ hread _ hlive =>
      rw [hlive] at hmem
      exact absurd (List.mem_singleton.1 hmem) (hnot _ hread)

/-- A write that cannot be requested fails in the live run. -/
theorem error_of_not_canReplace {o : Outcome} (hdry : dry.1 = .ok o)
    (hno : ¬ c.CanReplace zone.id payload o) :
    ∃ cause : Error, live.1 = .error (cause.during .update payload.name) := by
  cases h with
  | @unwritten _ _ _ _ _ _ hunchanged =>
      have hsame := hunchanged o hdry
      cases o with
      | updated => cases hsame
      | _ => exact absurd trivial hno
  | written _ _ _ _ _ _ _ hfits _ =>
      obtain rfl := Except.ok.inj hdry
      exact absurd hfits hno
  | @unsendable _ _ _ _ cause => exact ⟨cause, rfl⟩

end Compared

/-- In a dry run, a listed record of another content is answered as replaced. -/
theorem dry_of_lists {c : Client} {host : WebOrigin} (hc : c.SendsTo host) {zone : Zone}
    {name : String} {address : Address} {ttl : Int32} {queue : List Canned} {entry : RecordEntry}
    {entries : List RecordEntry}
    (hzone : RecordName.inZone zone.name (RecordName.complete name) = true)
    (hfits : c.Fits (.records zone.id .a (RecordName.complete name)))
    (hlists : Lists (queue.headD .exhausted) (entry :: entries))
    (hall : AllManaged (entry :: entries)) (hcontent : entry.content ≠ address.text) :
    ((reconcilerOf (c.inMode true) zone).update name address ttl { host := some host, queue }).1 =
      .ok (.updated (RecordName.complete name) entry.id entry.content address
        (effectiveTtl ttl)) := by
  have hdry : (c.inMode true).SendsTo host := ⟨hc.token, hc.origin⟩
  obtain ⟨answer, l, hlookup, -, ⟨hno, -⟩ | ⟨-, -, hanswer⟩⟩ :=
    listRecords_cases hdry zone.id (RecordName.complete name) queue
  · exact absurd hfits hno
  · obtain rfl := (hanswer _).2 ⟨_, hlists, hall, rfl⟩
    rw [update_of_replace ((RecordName.inZone_iff _ _).1 hzone) hlookup hcontent
      (Client.updateRecord_of_dryRun l rfl zone.id _ _)]
    rfl

/-! ### The comparison in full -/

/-- **A dry run is the live run without the writes.**  In a session whose clients are all for dry
runs, only reads are sent.  For one client in both modes, and one reply to the lookup: the dry run
of an update sends what the live run sends but for the write; it fails exactly if the live run fails
at the lookup, with the same error; and if the reply to the write holds what was written, both come
to the same outcome, where the record that a dry run makes has the id `dry-run`, exactly if a record
that is to be replaced has an address that can be requested.  What the live run writes is announced
in the log of the dry run, byte for byte.  The written record of an id is such a reply. -/
theorem dry_run_is_live_without_writes (c : Client) (host : Option WebOrigin)
    (steps : List (Step × List Canned)) (hsteps : ∀ p ∈ steps, p.1.OnlyDry) (zone : Zone)
    (name : String) (address : Address) (ttl : Int32) (first : Canned) (rest rest' : List Canned) :
    let payload : Payload := ⟨.a, RecordName.complete name, address.text, effectiveTtl ttl⟩
    let dry := (reconcilerOf (c.inMode true) zone).update name address ttl
      { host, queue := first :: rest }
    let live := (reconcilerOf (c.inMode false) zone).update name address ttl
      { host, queue := first :: rest' }
    (∀ report ∈ (Session.run host {} steps).1, ∀ r ∈ report.requests, r.method = .get) ∧
      dry.2.requests = live.2.requests.filter (fun r => r.method = .get) ∧
      (∀ e, dry.1 = .error e ↔
        live.1 = .error e ∧ ∃ cause : Error, e = cause.during .fetch payload.name) ∧
      (∀ id, Echoes payload id (rest'.headD .exhausted) →
        (dry.1 = live.1.map (Outcome.withCreatedId "dry-run") ↔
          ∀ o, dry.1 = .ok o → c.CanReplace zone.id payload o)) ∧
      (∀ write ∈ live.2.requests, write.method.isWrite = true →
        ∃ o line, dry.1 = .ok o ∧ Announces zone.id write o line ∧
          dry.2.log = [lookupEntry payload.name, line, Reconciler.outcomeEntry zone.name o]) ∧
      ∀ id, Echoes payload id (success (payload.toRecord id).json) := by
  intro payload dry live
  have h : Compared c zone payload (rest'.headD .exhausted) dry live :=
    update_compared c host zone name address ttl first rest rest'
  exact ⟨only_reads_of_onlyDry hsteps host, h.requests_eq, h.error_iff, h.outcome_eq_iff,
    h.announced, fun id => yields_record (payload.toRecord id)⟩

/-- A record whose name holds a quote is replaced in both modes. -/
theorem quoted_name_in_both_modes :
    let c : Client := ⟨"secret", "http://127.0.0.1:8080", false⟩
    let zone : Zone := ⟨"zone-123", "example.com"⟩
    let host : Option WebOrigin := some "127.0.0.1:8080".toList
    let payload : Payload := ⟨.a, "w\"w.example.com", "1.2.3.4", 300⟩
    let lookup := success (writeArray [Record.json ⟨"rec-1", .a, payload.name, "5.6.7.8", 60⟩])
    let echo := success (payload.toRecord "rec-1").json
    let steps : List (Step × List Canned) :=
      [(.client "secret" "http://127.0.0.1:8080" true, []), (.bind "example.com", [lookup]),
        (.update payload.name "1.2.3.4" 300, [lookup, echo])]
    let run := fun mode => (reconcilerOf (c.inMode mode) zone).update payload.name ⟨1, 2, 3, 4⟩ 300
      { host, queue := [lookup, echo] }
    (∀ report ∈ (Session.run host {} steps).1, ∀ r ∈ report.requests, r.method = .get) ∧
      (run true).1 = .ok (.updated payload.name "rec-1" "5.6.7.8" ⟨1, 2, 3, 4⟩ 300) ∧
      (run true).1 = (run false).1.map (Outcome.withCreatedId "dry-run") := by
  intro c zone host payload lookup echo steps run
  have hsends : c.SendsTo "127.0.0.1:8080".toList := ⟨by decide +kernel, by decide +kernel⟩
  have hzone : RecordName.inZone zone.name (RecordName.complete payload.name) = true := by
    decide +kernel
  have hfits : c.Fits (.records zone.id .a (RecordName.complete payload.name)) := by
    decide +kernel
  have hlists : Lists ([lookup, echo].headD .exhausted)
      [⟨"rec-1", "A", payload.name, "5.6.7.8", 60⟩] :=
    lists_records [⟨"rec-1", .a, payload.name, "5.6.7.8", 60⟩]
  have hcontent : "5.6.7.8" ≠ Address.text ⟨1, 2, 3, 4⟩ := by decide
  have hname : RecordName.complete payload.name = payload.name := by decide +kernel
  have hdry : (run true).1 = .ok (.updated payload.name "rec-1" "5.6.7.8" ⟨1, 2, 3, 4⟩ 300) := by
    refine (dry_of_lists hsends hzone hfits hlists (List.forall_mem_singleton.2 rfl)
      hcontent).trans ?_
    rw [hname]
    rfl
  obtain ⟨hreads, -, -, houtcome, -, hecho⟩ := dry_run_is_live_without_writes c host steps
    (by simp [steps, Step.OnlyDry]) zone payload.name ⟨1, 2, 3, 4⟩ 300 lookup [echo] [echo]
  have hpayload : Payload.mk .a (RecordName.complete payload.name) (Address.text ⟨1, 2, 3, 4⟩)
      (effectiveTtl 300) = payload := by decide +kernel
  rw [hpayload] at houtcome hecho
  refine ⟨hreads, hdry, (houtcome "rec-1" (hecho "rec-1")).2 ?_⟩
  intro o ho
  obtain rfl := Except.ok.inj (hdry.symm.trans ho)
  exact (by decide +kernel : c.Fits (.update zone.id "rec-1" payload))

/-- **A record with an id that is too long to be part of an address** is answered as replaced by the
dry run, and cannot be replaced by the live one, whatever the server would answer. -/
theorem long_record_id_is_not_replaced :
    let c : Client := ⟨"secret", "http://127.0.0.1:8080", false⟩
    let zone : Zone := ⟨"zone-123", "example.com"⟩
    let id := String.ofList (List.replicate 65535 'r')
    let payload : Payload := ⟨.a, "www.example.com", "1.2.3.4", 300⟩
    let lookup := success (writeArray [Record.json ⟨id, .a, "www.example.com", "5.6.7.8", 60⟩])
    let echo := success (payload.toRecord id).json
    let result := fun mode =>
      ((reconcilerOf (c.inMode mode) zone).update "www.example.com" ⟨1, 2, 3, 4⟩ 300
        { host := some "127.0.0.1:8080".toList, queue := [lookup, echo] }).1
    Echoes payload id echo ∧
      result true = .ok (.updated "www.example.com" id "5.6.7.8" ⟨1, 2, 3, 4⟩ 300) ∧
      ∃ cause : Error, result false = .error (cause.during .update "www.example.com") := by
  intro c zone id payload
  have hsends : c.SendsTo "127.0.0.1:8080".toList := ⟨by decide +kernel, by decide +kernel⟩
  have hplain : Url.IsPlainName id.toList ∧ Url.lengthLimit < id.toList.length := by
    rw [show id.toList = List.replicate 65535 'r' from String.toList_ofList]
    refine ⟨fun c hc => ?_, ?_⟩
    · rw [List.eq_of_mem_replicate hc]
      decide
    · rw [List.length_replicate]
      exact Nat.lt_succ_self 65534
  -- from here on only these two facts about the id count
  generalize id = recordId at hplain ⊢
  intro lookup echo result
  have hzone : RecordName.inZone zone.name (RecordName.complete "www.example.com") = true := by
    decide +kernel
  have hfits : c.Fits (.records zone.id .a (RecordName.complete "www.example.com")) := by
    decide +kernel
  have hlists : Lists ([lookup, echo].headD .exhausted)
      [⟨recordId, "A", "www.example.com", "5.6.7.8", 60⟩] :=
    lists_records [⟨recordId, .a, "www.example.com", "5.6.7.8", 60⟩]
  have hcontent : "5.6.7.8" ≠ Address.text ⟨1, 2, 3, 4⟩ := by decide
  have hdry : result true = .ok (.updated "www.example.com" recordId "5.6.7.8" ⟨1, 2, 3, 4⟩ 300) :=
    dry_of_lists hsends hzone hfits hlists (List.forall_mem_singleton.2 rfl) hcontent
  refine ⟨yields_record (payload.toRecord recordId), hdry, ?_⟩
  refine (update_compared c _ zone "www.example.com" ⟨1, 2, 3, 4⟩ 300 lookup [echo]
    [echo]).error_of_not_canReplace hdry ?_
  exact not_fits_of_long_id hsends (by decide) (by decide) hplain.1 hplain.2

end Cloudflare

end ZoneKeeper
