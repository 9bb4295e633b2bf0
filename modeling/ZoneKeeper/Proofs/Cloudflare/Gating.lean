/-
**What an update sends.**

Over HTTP an update begins with a request that reads the records of the name, and what that request
brings back decides whether a second one is sent, which writes.  Only a reply with a status of
success and a readable envelope that reports success and holds a list of A records lets a write
follow; an empty list lets a record be made, and any other list lets its first record be replaced if
the content differs.  A reply that says anything else, and no reply at all, end the update.

Main definitions:

* `ZoneKeeper.Cloudflare.reconcilerOf` — the reconciler of a zone on a client;
* `ZoneKeeper.Cloudflare.Sent` — the requests of an update, told from the first reply.

Main results:

* `ZoneKeeper.Cloudflare.update_of_create`, `ZoneKeeper.Cloudflare.update_of_replace` — an update
  comes to what its write comes to;
* `ZoneKeeper.Cloudflare.update_sent` — an update sends the requests that its first reply allows;
* `ZoneKeeper.Cloudflare.writes_gated_by_lookup` — **one read, then at most one write, and exactly
  when the reply to the read calls for it**;
* `ZoneKeeper.Cloudflare.long_address_and_fragment` — a name that is too long to be asked for, and
  a zone whose id hides the record's.
-/

import ZoneKeeper.Proofs.Cloudflare.Replies

set_option autoImplicit false

namespace ZoneKeeper.Cloudflare

open ZoneKeeper.Http ZoneKeeper.Json ZoneKeeper.Text

/-! ### The drafts of an update -/

theorem Draft.isRooted_records (zoneId : String) (type : RecordType) (name : String) :
    (Draft.records zoneId type name).IsRooted := by
  refine ⟨("zones/" ++ zoneId ++ "/dns_records").toList, ?_⟩
  simp [Draft.records, Draft.recordsPath, String.toList_append]

theorem Draft.isRooted_create (zoneId : String) (payload : Payload) :
    (Draft.create zoneId payload).IsRooted :=
  Draft.isRooted_records zoneId .a ""

theorem Draft.isRooted_update (zoneId recordId : String) (payload : Payload) :
    (Draft.update zoneId recordId payload).IsRooted := by
  refine ⟨("zones/" ++ zoneId ++ "/dns_records/" ++ recordId).toList, ?_⟩
  simp [Draft.update, Draft.recordsPath, String.toList_append]

/-- A record is made at the address that is asked for records, without the query. -/
theorem Client.Fits.create {c : Client} {zoneId name : String} {type : RecordType}
    (h : c.Fits (.records zoneId type name)) (payload : Payload) :
    c.Fits (.create zoneId payload) := by
  intro url hurl
  obtain ⟨bare, hbare, rfl⟩ := Option.map_eq_some_iff.1 hurl
  have hlookup : c.address? (.records zoneId type name) =
      some (bare.withoutCredentials.withQuery (Draft.records zoneId type name).query) := by
    change Option.map _ (Url.parse? (c.base ++ (Draft.create zoneId payload).path).toList) = _
    rw [hbare]
    rfl
  exact (Url.length_chars_le_withQuery _ _).trans (h _ hlookup)

/-! ### Updates over a link -/

/-- The reconciler of a zone on a client, over a link. -/
def reconcilerOf (c : Client) (zone : Zone) : LinkReconciler :=
  ⟨Session.providerOf c, zone, Link.write⟩

/-- What a reconciler logs on a link changes nothing else. -/
theorem foldl_write (entries : List Entry) (l : Link) :
    entries.foldl (fun l e => (Link.write e l).2) l = { l with log := l.log ++ entries } := by
  induction entries generalizing l with
  | nil => rw [List.append_nil]; rfl
  | cons e entries ih =>
      rw [List.foldl_cons, ih]
      simp [Link.write]

/-- An update over a link takes the course that there is, and logs its outcome at the end. -/
theorem update_of_course {c : Client} {zone : Zone} {name : String} {address : Address}
    {ttl : Int32} {l l' : Link} {calls : List Call} {result : Except Error Outcome}
    (h : Course (Session.providerOf c) zone (RecordName.complete name) address (effectiveTtl ttl) l
      calls result l') :
    (reconcilerOf c zone).update name address ttl l =
      (result, { l' with log := l'.log ++ Reconciler.entriesOf zone.name result }) := by
  refine (h.update_eq_logged (r := reconcilerOf c zone)).trans ?_
  exact congrArg (Prod.mk result) (foldl_write _ l')

/-- The result of an update whose write came to `made`. -/
def afterWrite (op : Operation) (name : String) (outcome : Record → Outcome) :
    Except Error Record → Except Error Outcome
  | .error e => .error (e.during op name)
  | .ok new => .ok (outcome new)

theorem of_afterWrite_eq_error {op : Operation} {name : String} {outcome : Record → Outcome}
    {made : Except Error Record} {e : Error} (h : afterWrite op name outcome made = .error e) :
    ∃ cause : Error, e = cause.during op name := by
  cases made with
  | error cause => exact ⟨cause, (Except.error.inj h).symm⟩
  | ok new => cases h

section

variable {c : Client} {zone : Zone} {name : String} {address : Address} {ttl : Int32}
  {l l₁ l₂ : Link} {made : Except Error Record}
  (hz : zone.name.toList <:+ (RecordName.complete name).toList)

include hz

theorem update_of_create
    (hl : (Session.providerOf c).listRecords zone.id .a (RecordName.complete name) l = (.ok [], l₁))
    (hw : c.createRecord Link.exchange Link.write zone.id
      ⟨.a, RecordName.complete name, address.text, effectiveTtl ttl⟩ l₁ = (made, l₂)) :
    (reconcilerOf c zone).update name address ttl l =
      let result := afterWrite .create (RecordName.complete name)
        (fun new => .created (RecordName.complete name) new.id address (effectiveTtl ttl)) made
      (result, { l₂ with log := l₂.log ++ Reconciler.entriesOf zone.name result }) := by
  cases made with
  | error e => exact update_of_course (.createFailed hz hl hw)
  | ok new => exact update_of_course (.created hz hl hw)

theorem update_of_replace {existing : Record} {more : List Record}
    (hl : (Session.providerOf c).listRecords zone.id .a (RecordName.complete name) l =
      (.ok (existing :: more), l₁)) (hcontent : existing.content ≠ address.text)
    (hw : c.updateRecord Link.exchange Link.write zone.id existing.id
      ⟨.a, RecordName.complete name, address.text, effectiveTtl ttl⟩ l₁ = (made, l₂)) :
    (reconcilerOf c zone).update name address ttl l =
      let result := afterWrite .update (RecordName.complete name)
        (fun _ => .updated (RecordName.complete name) existing.id existing.content address
          (effectiveTtl ttl)) made
      (result, { l₂ with log := l₂.log ++ Reconciler.entriesOf zone.name result }) := by
  cases made with
  | error e => exact update_of_course (.updateFailed hz hl hcontent hw)
  | ok new => exact update_of_course (.updated hz hl hcontent hw)

end

/-! ### The requests of an update -/

/-- The requests of an update of the name in the payload, told from the reply to the first. -/
inductive Sent (c : Client) (zoneId : String) (payload : Payload) (first : Canned) :
    List Request → Prop
  /-- The records cannot be asked for. -/
  | nothing : ¬ c.Fits (.records zoneId .a payload.name) → Sent c zoneId payload first []
  /-- The reply calls for no write, or for one that cannot be asked for. -/
  | lookup {url : Url} : c.Fits (.records zoneId .a payload.name) →
      ¬ Lists first [] →
      (∀ e es, Lists first (e :: es) → AllManaged (e :: es) → e.content ≠ payload.content →
        ¬ c.Fits (.update zoneId e.id payload)) →
      Sent c zoneId payload first [c.requestAt (.records zoneId .a payload.name) url]
  /-- There is no record, and one is made. -/
  | create {url there : Url} : c.Fits (.records zoneId .a payload.name) →
      Lists first [] →
      Sent c zoneId payload first
        [c.requestAt (.records zoneId .a payload.name) url,
          c.requestAt (.create zoneId payload) there]
  /-- The first record has another content and is replaced. -/
  | update {url there : Url} {e : RecordEntry} {es : List RecordEntry} :
      c.Fits (.records zoneId .a payload.name) →
      Lists first (e :: es) → AllManaged (e :: es) → e.content ≠ payload.content →
      c.Fits (.update zoneId e.id payload) →
      c.address? (.update zoneId e.id payload) = some there →
      Sent c zoneId payload first
        [c.requestAt (.records zoneId .a payload.name) url,
          c.requestAt (.update zoneId e.id payload) there]

section

variable {c : Client} {host : WebOrigin} (hc : c.SendsTo host)

include hc

/-- The lookup of an update, over a link to the base's host that nothing was sent over: it stays at
home and fails, or it is taken, and it yields records exactly if the reply lists them. -/
theorem listRecords_cases (zoneId name : String) (queue : List Canned) :
    ∃ answer l, c.listRecords Link.exchange Link.write zoneId .a name { host := some host, queue } =
        (answer, l) ∧ l.host = some host ∧
      ((¬ c.Fits (.records zoneId .a name) ∧ (∃ e, answer = .error e) ∧ l.requests = []) ∨
        (c.Fits (.records zoneId .a name) ∧
          (∃ url, l.requests = [c.requestAt (.records zoneId .a name) url]) ∧
          ∀ rs, answer = .ok rs ↔ ∃ es, Lists (queue.headD .exhausted) es ∧ AllManaged es ∧
            rs = es.map RecordEntry.asRecord)) := by
  have hrooted := Draft.isRooted_records zoneId .a name
  rw [Client.listRecords_eq]
  dsimp only
  generalize hs : Client.noted { host := some host, queue } Level.debug _ = started
  have hhost : started.host = some host := by rw [← hs]; rfl
  have hnext : started.next? = (queue.headD .exhausted).reply? := by rw [← hs]; rfl
  have hnone : started.requests = [] := by rw [← hs]; rfl
  by_cases hf : c.Fits (.records zoneId .a name)
  · obtain ⟨url, -, hsent⟩ := (hc.directs hrooted).transmit_of_fits hhost hf
    rw [hsent, hnext]
    refine ⟨_, _, rfl, hhost, .inr ⟨hf, ⟨url, by rw [Link.taken_requests, hnone]; rfl⟩,
      fun rs => ?_⟩⟩
    rw [bind_eq_ok_iff]
    exact exists_congr fun es =>
      and_congr received_arrived_eq_ok_iff RecordEntry.toRecords_eq_ok_iff
  · obtain ⟨url, -, hsent⟩ := (hc.directs hrooted).transmit_of_not_fits (l := started) hf
    rw [hsent]
    exact ⟨_, _, rfl, hhost, .inl ⟨hf, ⟨_, rfl⟩, hnone⟩⟩

/-- **An update sends the requests that its first reply allows.** -/
theorem update_sent (hlive : c.dryRun = false) {zone : Zone} {name : String} (address : Address)
    (ttl : Int32) (queue : List Canned)
    (hzone : RecordName.inZone zone.name (RecordName.complete name) = true) :
    Sent c zone.id ⟨.a, RecordName.complete name, address.text, effectiveTtl ttl⟩
      (queue.headD .exhausted)
      ((reconcilerOf c zone).update name address ttl { host := some host, queue }).2.requests := by
  have hz := (RecordName.inZone_iff _ _).1 hzone
  obtain ⟨answer, l, hlookup, hhost, hcases⟩ :=
    listRecords_cases hc zone.id (RecordName.complete name) queue
  rcases hcases with ⟨hf, ⟨fault, rfl⟩, hnone⟩ | ⟨hf, ⟨url, hrequests⟩, hanswer⟩
  · -- the lookup stays at home, so it fails and ends the update
    rw [update_of_course (.lookupFailed hz hlookup)]
    dsimp only
    rw [hnone]
    exact .nothing hf
  · rcases answer with e | _ | ⟨existing, more⟩
    -- the reply yields no records, so it calls for nothing
    · rw [update_of_course (.lookupFailed hz hlookup)]
      dsimp only
      rw [hrequests]
      refine .lookup hf (fun hlists => ?_) fun e es hlists hall _ _ => ?_
      · exact nomatch (hanswer []).2 ⟨[], hlists, List.forall_mem_nil _, rfl⟩
      · exact nomatch (hanswer _).2 ⟨_, hlists, hall, rfl⟩
    · obtain ⟨entries, hlists, -, hmap⟩ := (hanswer _).1 rfl
      obtain rfl := List.map_eq_nil_iff.1 hmap.symm
      obtain ⟨there, -, hcreate⟩ := Client.createRecord_of_fits hlive
        (hc.directs (Draft.isRooted_create zone.id _)) hhost (hf.create _)
      rw [update_of_create hz hlookup hcreate]
      dsimp only
      rw [Link.taken_requests, hrequests]
      exact .create hf hlists
    · obtain ⟨_ | ⟨e, es⟩, hlists, hall, hmap⟩ := (hanswer _).1 rfl
      · cases hmap
      · obtain ⟨rfl, rfl⟩ := List.cons.inj hmap
        by_cases hcontent : e.content = address.text
        · rw [update_of_course (.unchanged hz hlookup hcontent)]
          dsimp only
          rw [hrequests]
          refine .lookup hf (fun hempty => nomatch hlists.eq hempty)
            fun e' es' hlists' _ hne _ => ?_
          cases hlists.eq hlists'
          exact hne hcontent
        · have hdirects := hc.directs (Draft.isRooted_update zone.id e.id
            ⟨.a, RecordName.complete name, address.text, effectiveTtl ttl⟩)
          by_cases hfits : c.Fits (.update zone.id e.id
              ⟨.a, RecordName.complete name, address.text, effectiveTtl ttl⟩)
          · obtain ⟨there, hthere, hupdate⟩ :=
              Client.updateRecord_of_fits hlive hdirects hhost hfits
            rw [update_of_replace hz hlookup hcontent hupdate]
            dsimp only
            rw [Link.taken_requests, hrequests]
            exact .update hf hlists hall hcontent hfits hthere
          · obtain ⟨_, hupdate⟩ := Client.updateRecord_of_not_fits (l := l) hlive hdirects hfits
            rw [update_of_replace hz hlookup hcontent hupdate]
            dsimp only
            rw [hrequests]
            refine .lookup hf (fun hempty => nomatch hlists.eq hempty)
              fun e' es' hlists' _ _ hfits' => ?_
            cases hlists.eq hlists'
            exact hfits hfits'

/-- Where neither the base nor the zone's id begins a fragment, the address of a record ends in the
record's id. -/
theorem suffix_target_update {zoneId recordId : String} {payload : Payload} {url : Url}
    (hurl : c.address? (.update zoneId recordId payload) = some url)
    (hbase : '#' ∉ c.base.toList) (hzone : '#' ∉ zoneId.toList)
    (hid : Url.IsPlainName recordId.toList) :
    ("/dns_records/" ++ recordId).toList <:+ url.target.toList := by
  obtain ⟨bare, hbare, rfl⟩ := Option.map_eq_some_iff.1 hurl
  obtain ⟨u, hu, hlead⟩ := hc.leadsTo
  have hnames : ∀ name ∈ ["dns_records".toList, recordId.toList], Url.IsPlainName name := by
    exact List.forall_mem_cons.2 ⟨by decide, List.forall_mem_singleton.2 hid⟩
  -- the zone's id belongs to the directory, so it need not be plain
  have htext : (c.base ++ (Draft.update zoneId recordId payload).path).toList =
      c.base.toList ++ '/' :: (("zones/" ++ zoneId).toList ++
        '/' :: joinFields '/' ["dns_records".toList, recordId.toList]) := by
    simp [Draft.update, Draft.recordsPath, String.toList_append, joinFields]
  have hdir : '#' ∉ ("zones/" ++ zoneId).toList := by
    simp [String.toList_append, hzone]
  rw [htext] at hbare
  rw [String.toList_append] at hu
  have hsuffix := Url.suffix_target hu hlead.isWeb hbase hdir (by simp) hnames hbare
  simpa [Draft.update, String.toList_append, joinFields] using hsuffix

/-- A name that is longer than an address may be cannot be asked for. -/
theorem not_fits_of_long_name {zoneId name : String} {type : RecordType}
    (hname : Url.lengthLimit < name.toList.length) : ¬ c.Fits (.records zoneId type name) := by
  intro hf
  obtain ⟨url, hurl, -⟩ := hc.directs (Draft.isRooted_records zoneId type name)
  have hlimit := hf url hurl
  obtain ⟨bare, -, rfl⟩ := Option.map_eq_some_iff.1 hurl
  have hquery := Url.length_encode_le_withQuery bare.withoutCredentials
    (show (Draft.records zoneId type name).query ≠ [] from List.cons_ne_nil _ _)
  -- a character makes one byte at least, and a byte one character of the query
  have hencoded := Url.length_le_encodeText name
  have hpairs : (Form.encodeText name).length ≤
      (Form.encode (Draft.records zoneId type name).query).length := by
    simp only [Draft.records, Form.encode, List.map_cons, List.map_nil, joinFields, Form.encodePair,
      List.length_append, List.length_cons]
    omega
  omega

/-- A record whose id is longer than an address may be cannot be replaced. -/
theorem not_fits_of_long_id {zoneId recordId : String} {payload : Payload}
    (hbase : '#' ∉ c.base.toList) (hzone : '#' ∉ zoneId.toList)
    (hid : Url.IsPlainName recordId.toList) (hlong : Url.lengthLimit < recordId.toList.length) :
    ¬ c.Fits (.update zoneId recordId payload) := by
  intro hf
  obtain ⟨url, hurl, -⟩ := hc.directs (Draft.isRooted_update zoneId recordId payload)
  have hlimit := hf url hurl
  have htarget := (suffix_target_update hc hurl hbase hzone hid).length_le
  have hurl := url.length_target_le
  rw [String.toList_append, List.length_append] at htarget
  omega

end

namespace Sent

variable {c : Client} {zoneId : String} {payload : Payload} {first : Canned}
  {requests : List Request} (h : Sent c zoneId payload first requests)

include h

/-- Nothing is sent exactly if the address of the lookup is too long. -/
theorem eq_nil_iff : requests = [] ↔ ¬ c.Fits (.records zoneId .a payload.name) := by
  cases h with
  | nothing hf => exact iff_of_true rfl hf
  | lookup hf _ _ | create hf _ | update hf _ _ _ _ _ =>
      exact iff_of_false (List.cons_ne_nil _ _) (not_not_intro hf)

/-- What is sent is a read, and at most one write after it. -/
theorem one_write_after_read {read : Request} {rest : List Request}
    (heq : requests = read :: rest) :
    read.method = .get ∧ rest.length ≤ 1 ∧ ∀ write ∈ rest, write.method.isWrite = true := by
  cases h with
  | nothing _ => cases heq
  | lookup _ _ _ =>
      cases heq
      exact ⟨rfl, Nat.zero_le 1, List.forall_mem_nil _⟩
  | create _ _ | update _ _ _ _ _ _ =>
      cases heq
      exact ⟨rfl, le_rfl, List.forall_mem_singleton.2 rfl⟩

/-- A record is made exactly if the reply lists none. -/
theorem post_iff : (∃ r ∈ requests, r.method = .post) ↔
    c.Fits (.records zoneId .a payload.name) ∧ Lists first [] := by
  cases h with
  | nothing hf => exact iff_of_false (by simp) fun h => hf h.1
  | lookup hf hempty _ =>
      exact iff_of_false (by simp [Client.requestAt, Draft.records]) fun h => hempty h.2
  | create hf hlists =>
      exact iff_of_true ⟨_, List.mem_cons_of_mem _ (List.mem_singleton_self _), rfl⟩ ⟨hf, hlists⟩
  | update hf hlists =>
      refine iff_of_false (by simp [Client.requestAt, Draft.records, Draft.update]) fun h => ?_
      exact List.cons_ne_nil _ _ (hlists.eq h.2)

/-- A record is replaced exactly if the reply lists records of the managed type, the first with
another content, and its address can be requested. -/
theorem patch_iff : (∃ r ∈ requests, r.method = .patch) ↔
    c.Fits (.records zoneId .a payload.name) ∧ ∃ e es, Lists first (e :: es) ∧
      AllManaged (e :: es) ∧ e.content ≠ payload.content ∧
        c.Fits (.update zoneId e.id payload) := by
  cases h with
  | nothing hf => exact iff_of_false (by simp) fun h => hf h.1
  | lookup hf _ hnone =>
      refine iff_of_false (by simp [Client.requestAt, Draft.records]) ?_
      rintro ⟨-, e, es, hlists, hall, hne, hfits⟩
      exact hnone e es hlists hall hne hfits
  | create hf hlists =>
      refine iff_of_false (by simp [Client.requestAt, Draft.records, Draft.create]) ?_
      rintro ⟨-, e, es, hlists', -⟩
      exact List.cons_ne_nil _ _ (hlists'.eq hlists)
  | update hf hlists hall hne hfits _ =>
      exact iff_of_true ⟨_, List.mem_cons_of_mem _ (List.mem_singleton_self _), rfl⟩
        ⟨hf, _, _, hlists, hall, hne, hfits⟩

/-- A record is replaced at an address that is its own. -/
theorem address_of_patch {r : Request} (hr : r ∈ requests) (hpatch : r.method = .patch) :
    ∃ e es there, Lists first (e :: es) ∧
      c.address? (.update zoneId e.id payload) = some there ∧
      r = c.requestAt (.update zoneId e.id payload) there := by
  cases h with
  | nothing _ => exact absurd hr List.not_mem_nil
  | lookup _ _ _ =>
      obtain rfl := List.mem_singleton.1 hr
      cases hpatch
  | create _ _ =>
      rcases List.mem_cons.1 hr with rfl | hr
      · cases hpatch
      · obtain rfl := List.mem_singleton.1 hr
        cases hpatch
  | update _ hlists _ _ _ hthere =>
      rcases List.mem_cons.1 hr with rfl | hr
      · cases hpatch
      · exact ⟨_, _, _, hlists, hthere, List.mem_singleton.1 hr⟩

end Sent

/-! ### Gating -/

/-- **One read, then at most one write, and exactly when the reply to the read calls for it.**  Let
a client that is no dry run send to the host of its base, and let the name be in the zone.  An
update sends nothing exactly if the address of its lookup is too long to be requested.  Otherwise it
sends one request that reads, and at most one more, which writes.  A record is made exactly if the
reply lists no records; one is replaced exactly if the reply lists records, all of them of type A,
the first has another content, and its address can be requested; that address ends in its id unless
the base or the zone's id begins a fragment. -/
theorem writes_gated_by_lookup (c : Client) (host : WebOrigin) (zone : Zone) (name : String)
    (address : Address) (ttl : Int32) (queue : List Canned) (hc : c.SendsTo host)
    (hlive : c.dryRun = false)
    (hzone : RecordName.inZone zone.name (RecordName.complete name) = true) :
    let payload : Payload := ⟨.a, RecordName.complete name, address.text, effectiveTtl ttl⟩
    let lookup := Draft.records zone.id .a payload.name
    let first := queue.headD .exhausted
    let requests :=
      ((reconcilerOf c zone).update name address ttl { host := some host, queue }).2.requests
    (requests = [] ↔ ¬ c.Fits lookup) ∧
      (∀ read rest, requests = read :: rest →
        read.method = .get ∧ rest.length ≤ 1 ∧ ∀ write ∈ rest, write.method.isWrite = true) ∧
      ((∃ r ∈ requests, r.method = .post) ↔ c.Fits lookup ∧ Lists first []) ∧
      ((∃ r ∈ requests, r.method = .patch) ↔
        c.Fits lookup ∧ ∃ e es, Lists first (e :: es) ∧ AllManaged (e :: es) ∧
          e.content ≠ address.text ∧ c.Fits (.update zone.id e.id payload)) ∧
      ∀ e es, Lists first (e :: es) → Url.IsPlainName e.id.toList →
        '#' ∉ c.base.toList → '#' ∉ zone.id.toList → ∀ r ∈ requests, r.method = .patch →
          ("/dns_records/" ++ e.id).toList <:+ r.target.toList := by
  intro payload lookup first requests
  have hsent : Sent c zone.id payload first requests := update_sent hc hlive address ttl queue hzone
  refine ⟨hsent.eq_nil_iff, fun _ _ => hsent.one_write_after_read, hsent.post_iff,
    hsent.patch_iff, ?_⟩
  intro e es hlists hplain hbase hzoneId r hr hpatch
  obtain ⟨e', es', there, hlists', hthere, rfl⟩ := hsent.address_of_patch hr hpatch
  obtain ⟨rfl, rfl⟩ := List.cons.inj (hlists.eq hlists')
  exact suffix_target_update hc hthere hbase hzoneId hplain

/-- A record of another content is found and replaced. -/
theorem other_content_is_replaced :
    let c : Client := ⟨"secret", "http://127.0.0.1:8080", false⟩
    let zone : Zone := ⟨"zone-123", "example.com"⟩
    let body := "\x7b\"success\":true,\"result\":[\x7b\"id\":\"rec-1\",\"type\":\"A\"," ++
      "\"name\":\"www.example.com\",\"content\":\"5.6.7.8\",\"ttl\":60\x7d]\x7d"
    let queue := [Canned.reply 200 (Utf8.encode body.toList) 0]
    let requests := ((reconcilerOf c zone).update "www.example.com" ⟨1, 2, 3, 4⟩ 300
      { host := some "127.0.0.1:8080".toList, queue }).2.requests
    requests.map (fun r => (r.method, r.target)) =
        [(.get, "/zones/zone-123/dns_records?type=A&name=www.example.com"),
          (.patch, "/zones/zone-123/dns_records/rec-1")] ∧
      ∃ e es, Lists (queue.headD .exhausted) (e :: es) ∧ AllManaged (e :: es) ∧
        e.content ≠ "1.2.3.4" := by
  intro c zone body queue requests
  have hrequests : requests.map (fun r => (r.method, r.target)) =
      [(.get, "/zones/zone-123/dns_records?type=A&name=www.example.com"),
        (.patch, "/zones/zone-123/dns_records/rec-1")] := by decide +kernel
  refine ⟨hrequests, ?_⟩
  have hpatch : ∃ r ∈ requests, r.method = .patch := by
    obtain ⟨r, hr, he⟩ := List.mem_map.1
      (hrequests ▸ List.mem_cons_of_mem _ (List.mem_singleton_self _))
    exact ⟨r, hr, congrArg Prod.fst he⟩
  have hsends : c.SendsTo "127.0.0.1:8080".toList := ⟨by decide +kernel, by decide +kernel⟩
  have hgated := writes_gated_by_lookup c _ zone "www.example.com" ⟨1, 2, 3, 4⟩ 300 queue hsends
    rfl (by decide +kernel)
  obtain ⟨-, e, es, hlists, hall, hne, -⟩ := hgated.2.2.2.1.1 hpatch
  exact ⟨e, es, hlists, hall, hne⟩

/-- **A name that is too long to be asked for, and a zone whose id hides the record's.**  For the
one nothing is sent at all; for the other the record is replaced at an address that ends before the
record's id, because the zone's id begins a fragment. -/
theorem long_address_and_fragment :
    let c : Client := ⟨"secret", "http://127.0.0.1:8080", false⟩
    let long := String.ofList (List.replicate 65535 'a' ++ ".example.com".toList)
    let body := "\x7b\"success\":true,\"result\":[\x7b\"id\":\"rec-1\",\"type\":\"A\"," ++
      "\"name\":\"www.example.com\",\"content\":\"5.6.7.8\",\"ttl\":60\x7d]\x7d"
    let queue := [Canned.reply 200 (Utf8.encode body.toList) 0]
    let requests := fun (zoneId name : String) =>
      ((reconcilerOf c ⟨zoneId, "example.com"⟩).update name ⟨1, 2, 3, 4⟩ 300
        { host := some "127.0.0.1:8080".toList, queue }).2.requests
    c.SendsTo "127.0.0.1:8080".toList ∧
      RecordName.inZone "example.com" (RecordName.complete long) = true ∧
      requests "zone-123" long = [] ∧
      (requests "zone#1" "www.example.com").map (fun r => (r.method, r.target)) =
        [(.get, "/zones/zone?type=A&name=www.example.com"), (.patch, "/zones/zone")] := by
  intro c long body queue requests
  have hsends : c.SendsTo "127.0.0.1:8080".toList := ⟨by decide +kernel, by decide +kernel⟩
  -- a name of this form is complete and in the zone, whatever it begins with
  have hname : ∀ front : List Char, ∃ name, String.ofList (front ++ ".example.com".toList) = name ∧
      RecordName.complete name = name ∧ front.length < name.toList.length ∧
      RecordName.inZone "example.com" name = true := by
    intro front
    have hchars : (String.ofList (front ++ ".example.com".toList)).toList =
        front ++ ".example.com".toList := String.toList_ofList
    refine ⟨_, rfl, ?_, ?_, ?_⟩
    · have hshort :
          ¬ RecordName.isShort (String.ofList (front ++ ".example.com".toList)) = true := by
        rw [RecordName.isShort, hchars, List.isSuffixOf_iff_suffix]
        intro h
        exact absurd (List.suffix_of_suffix_length_le h (List.suffix_append _ _) (by decide))
          (by decide)
      rw [RecordName.complete, if_neg hshort]
    · rw [hchars, List.length_append]
      exact Nat.lt_add_of_pos_right (by decide)
    · rw [RecordName.inZone_iff, hchars]
      exact (by decide : "example.com".toList <:+ ".example.com".toList).trans
        (List.suffix_append _ _)
  refine ⟨hsends, ?_⟩
  obtain ⟨name, hlong, hcomplete, hlength, hzone⟩ := hname (List.replicate 65535 'a')
  rw [List.length_replicate] at hlength
  rw [show long = name from hlong]
  rw [← hcomplete] at hzone
  refine ⟨hzone, ?_, by decide +kernel⟩
  refine (update_sent hsends rfl ⟨1, 2, 3, 4⟩ 300 queue hzone).eq_nil_iff.2 ?_
  refine not_fits_of_long_name hsends ?_
  dsimp only
  rw [hcomplete]
  exact (Nat.lt_succ_self 65534).trans hlength

end ZoneKeeper.Cloudflare
