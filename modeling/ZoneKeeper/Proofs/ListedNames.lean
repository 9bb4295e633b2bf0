/-
**The names of listed records.**

An update takes the first record that is listed for its own.  The store lists just the records of
the name; but it replaces a record by its id, and the first record of an id may be another one.  The
client lists what the server lists: it looks at the types, not at the names, so a server that does
not keep to the name decides which record is replaced.

Main definition:

* `ZoneKeeper.Cloudflare.Rewrites` — requests rewrite a listed record.

Main results:

* `ZoneKeeper.Cloudflare.listRecords_eq_ok` — what a client lists;
* `ZoneKeeper.Cloudflare.Sent.rewrites_iff` — which listed records an update rewrites;
* `ZoneKeeper.listed_names` — **whose names are listed, and whose records are rewritten**;
* `ZoneKeeper.other_record_is_renamed` — a record of another name is rewritten, by both providers.
-/

import ZoneKeeper.Proofs.Cloudflare.Calls
import ZoneKeeper.Proofs.Memory.Frame

set_option autoImplicit false

namespace ZoneKeeper

open ZoneKeeper.Http ZoneKeeper.Json ZoneKeeper.Text

/-! ### Over a link -/

namespace Cloudflare

open Session (providerOf)

/-- **What a client lists**: the entries that the next reply lists, in order, if all of them are of
the managed type. -/
theorem listRecords_eq_ok {c : Client} {zoneId name : String} {l l' : Link} {rs : List Record}
    (h : (providerOf c).listRecords zoneId .a name l = (.ok rs, l')) :
    ∃ es, Lists (l.queue.headD .exhausted) es ∧ AllManaged es ∧
      rs = es.map RecordEntry.asRecord := by
  have hread : (Call.listRecords zoneId .a name).isWrite = false := rfl
  obtain ⟨entries, -, ⟨e, hfailed⟩ | ⟨url, -, htaken⟩⟩ :=
    Client.perform_cases (c := c) (.inr hread) l
  · cases hfailed.symm.trans (Provider.perform_listRecords_iff.2 h)
  · have hanswers := Provider.perform_listRecords_iff.1 htaken
    obtain ⟨es, hreceived, hrecords⟩ :=
      bind_eq_ok_iff.1 (congrArg Prod.fst (hanswers.symm.trans h))
    obtain ⟨hall, rfl⟩ := RecordEntry.toRecords_eq_ok_iff.1 hrecords
    exact ⟨es, received_arrived_eq_ok_iff.1 hreceived, hall, rfl⟩

/-- The requests rewrite the listed record: one of them replaces it by the payload. -/
def Rewrites (c : Client) (zoneId : String) (payload : Payload) (e : RecordEntry)
    (requests : List Request) : Prop :=
  ∃ url, c.address? (.update zoneId e.id payload) = some url ∧
    c.requestAt (.update zoneId e.id payload) url ∈ requests

/-- **Which listed records an update rewrites**: the first one, whatever its name is, if all are of
the managed type and it has another content and an address that can be requested. -/
theorem Sent.rewrites_iff {c : Client} {zoneId : String} {payload : Payload} {first : Canned}
    {requests : List Request} (h : Sent c zoneId payload first requests) (P : RecordEntry → Prop) :
    (∃ e es, Lists first (e :: es) ∧ P e ∧ Rewrites c zoneId payload e requests) ↔
      c.Fits (.records zoneId .a payload.name) ∧ ∃ e es, Lists first (e :: es) ∧
        AllManaged (e :: es) ∧ e.content ≠ payload.content ∧ P e ∧
          c.Fits (.update zoneId e.id payload) := by
  constructor
  · rintro ⟨e, es, hlists, hP, url, hurl, hmem⟩
    obtain ⟨hlookup, e', es', hlists', hall, hne, hfits⟩ := h.patch_iff.1 ⟨_, hmem, rfl⟩
    obtain ⟨rfl, rfl⟩ := List.cons.inj (hlists.eq hlists')
    exact ⟨hlookup, e, es, hlists, hall, hne, hP, hfits⟩
  · rintro ⟨hlookup, e, es, hlists, hall, hne, hP, hfits⟩
    obtain ⟨r, hr, hpatch⟩ := h.patch_iff.2 ⟨hlookup, e, es, hlists, hall, hne, hfits⟩
    obtain ⟨e', es', there, hlists', hthere, rfl⟩ := h.address_of_patch hr hpatch
    obtain ⟨rfl, rfl⟩ := List.cons.inj (hlists.eq hlists')
    exact ⟨e, es, hlists, hP, there, hthere, hr⟩

end Cloudflare

/-! ### Whose names are listed -/

section

open ZoneKeeper.Cloudflare

/-- **Whose names are listed, and whose records are rewritten.**  The store lists the records of the
name in a zone, in order.  An update in memory leaves every other name alone exactly if the first
record with the id that it replaces has the name.  A client lists what the reply lists, in order,
and only A records; all of them have the name exactly if the server keeps to it.  An update over the
link to the host of the base rewrites a record of another name exactly if the reply lists A records
only, the first of them has another name and another content, and the addresses of the lookup and of
that record can be requested. -/
theorem listed_names (zones : Memory.ZoneTable) (s : Memory.Store) (c : Client) (l : Link)
    (zone : Zone) (name : String) (address : Address) (ttl : Int32) :
    let fullName := RecordName.complete name
    let payload : Payload := ⟨.a, fullName, address.text, effectiveTtl ttl⟩
    let inMemory :=
      (Reconciler.observed (Memory.provider zones) zone).update name address ttl ⟨s, [], []⟩
    (∀ zoneId listed rs s',
      (Memory.provider zones).listRecords zoneId .a listed s = (.ok rs, s') →
        rs = (s.records zoneId).filter (fun r => r.name == listed) ∧
          ∀ r ∈ rs, r.type = .a ∧ r.name = listed) ∧
    (s.LeavesOthers zone.id fullName inMemory.2.state ↔
      ∀ name' id previous address' ttl',
        inMemory.1 = .ok (.updated name' id previous address' ttl') →
          s.IdLeadsTo zone.id fullName id) ∧
    (∀ zoneId listed rs l',
      (Session.providerOf c).listRecords zoneId .a listed l = (.ok rs, l') →
        ∃ es, Lists (l.queue.headD .exhausted) es ∧ rs = es.map RecordEntry.asRecord ∧
          (∀ e ∈ es, e.type = "A") ∧
          ((∀ r ∈ rs, r.type = .a ∧ r.name = listed) ↔ ∀ e ∈ es, e.name = listed)) ∧
    ∀ host, c.SendsTo host → c.dryRun = false → RecordName.inZone zone.name fullName = true →
      ∀ queue,
        let first := queue.headD .exhausted
        let requests :=
          ((reconcilerOf c zone).update name address ttl { host := some host, queue }).2.requests
        (∃ e es, Lists first (e :: es) ∧ e.name ≠ fullName ∧
          Rewrites c zone.id payload e requests) ↔
        c.Fits (.records zone.id .a fullName) ∧ ∃ e es, Lists first (e :: es) ∧
          AllManaged (e :: es) ∧ e.content ≠ address.text ∧ e.name ≠ fullName ∧
            c.Fits (.update zone.id e.id payload) := by
  intro fullName payload inMemory
  refine ⟨?_, ?_, ?_, ?_⟩
  · intro zoneId listed rs s' h
    obtain ⟨-, rfl, -⟩ := Memory.Store.listRecords_eq_ok h
    refine ⟨rfl, fun r hr => ⟨?_, eq_of_beq (List.mem_filter.1 hr).2⟩⟩
    cases r.type
    rfl
  · obtain ⟨calls, result, s', h⟩ :=
      exists_course (Memory.provider zones) zone fullName address (effectiveTtl ttl) s
    rw [show inMemory = _ from h.update_eq [] []]
    exact (Memory.effect_of_course _ _ _ _ _ h).leavesOthers_iff
  · intro zoneId listed rs l' h
    obtain ⟨es, hlists, hall, rfl⟩ := listRecords_eq_ok h
    refine ⟨es, hlists, rfl, hall, ?_⟩
    rw [List.forall_mem_map]
    exact ⟨fun h e he => (h e he).2, fun h e he => ⟨rfl, h e he⟩⟩
  · intro host hc hlive hzone queue first requests
    exact (update_sent hc hlive address ttl queue hzone).rewrites_iff fun e => e.name ≠ fullName

/-- A server that keeps to the name: what it lists has the name, and its record is rewritten. -/
theorem own_record_is_rewritten :
    let c : Client := ⟨"secret", "http://127.0.0.1:8080", false⟩
    let zone : Zone := ⟨"zone-123", "example.com"⟩
    let host : WebOrigin := "127.0.0.1:8080".toList
    let own : Record := ⟨"rec-1", .a, "www.example.com", "5.6.7.8", 60⟩
    let s : Memory.Store := Memory.Store.insert {} "zone-123" own
    let queue := [success (writeArray [own.json])]
    let requests := ((reconcilerOf c zone).update "www.example.com" ⟨1, 2, 3, 4⟩ 300
      { host := some host, queue }).2.requests
    ((Memory.provider []).listRecords "zone-123" .a "www.example.com" s).1.toOption = some [own] ∧
      (∀ r ∈ [own], r.type = .a ∧ r.name = "www.example.com") ∧
      requests.map Request.method = [.get, .patch] ∧
      ¬ ∃ e es, Lists (queue.headD .exhausted) (e :: es) ∧ e.name ≠ "www.example.com" ∧
        Rewrites c zone.id ⟨.a, "www.example.com", "1.2.3.4", 300⟩ e requests := by
  intro c zone host own s queue requests
  have hlisted : ((Memory.provider []).listRecords "zone-123" .a "www.example.com" s).1.toOption =
      some [own] := by decide +kernel
  have hmethods : requests.map Request.method = [.get, .patch] := by decide +kernel
  have hsends : c.SendsTo host := ⟨by decide +kernel, by decide +kernel⟩
  have hzone : RecordName.inZone zone.name (RecordName.complete "www.example.com") = true := by
    decide +kernel
  obtain ⟨hmemory, -, -, hlink⟩ :=
    listed_names [] s c { host := some host } zone "www.example.com" ⟨1, 2, 3, 4⟩ 300
  refine ⟨hlisted, ?_, hmethods, ?_⟩
  · rcases hrun : (Memory.provider []).listRecords "zone-123" .a "www.example.com" s with
      ⟨e | rs, s'⟩
    · rw [hrun] at hlisted
      cases hlisted
    · rw [hrun] at hlisted
      obtain rfl := Option.some.inj hlisted
      exact (hmemory _ _ _ _ hrun).2
  · have hpayload : Payload.mk .a (RecordName.complete "www.example.com")
        (Address.text ⟨1, 2, 3, 4⟩) (effectiveTtl 300) =
          ⟨.a, "www.example.com", "1.2.3.4", 300⟩ := by decide +kernel
    have hname : RecordName.complete "www.example.com" = "www.example.com" :=
      congrArg Payload.name hpayload
    have hrewrites := hlink host hsends rfl hzone queue
    rw [hpayload, hname] at hrewrites
    intro hrewritten
    obtain ⟨-, e, es, hlists, -, -, hother, -⟩ := hrewrites.1 hrewritten
    obtain ⟨rfl, -⟩ := List.cons.inj (hlists.eq (lists_records [own]))
    exact hother rfl

/-- **A record of another name is rewritten**, by both providers: the server lists the record of
another name, and in the store the id of the record leads to another one. -/
theorem other_record_is_renamed :
    let c : Client := ⟨"secret", "http://127.0.0.1:8080", false⟩
    let zone : Zone := ⟨"zone-123", "example.com"⟩
    let link : Link := ⟨some "127.0.0.1:8080".toList, [success (writeArray
      [Record.json ⟨"rec-1", .a, "mail.example.com", "5.6.7.8", 60⟩])], [], []⟩
    let requests :=
      ((reconcilerOf c zone).update "www.example.com" ⟨1, 2, 3, 4⟩ 300 link).2.requests
    let s : Memory.Store :=
      Memory.Store.insert
        (Memory.Store.insert {} "zone-123" ⟨"rec-1", .a, "mail.example.com", "9.9.9.9", 60⟩)
        "zone-123" ⟨"rec-1", .a, "www.example.com", "5.6.7.8", 60⟩
    let inMemory := (Reconciler.observed (Memory.provider []) zone).update "www.example.com"
      ⟨1, 2, 3, 4⟩ 300 ⟨s, [], []⟩
    ((Session.providerOf c).listRecords "zone-123" .a "www.example.com" link).1.toOption =
        some [⟨"rec-1", .a, "mail.example.com", "5.6.7.8", 60⟩] ∧
      requests.map (fun r => (r.method, r.target)) =
        [(.get, "/zones/zone-123/dns_records?type=A&name=www.example.com"),
          (.patch, "/zones/zone-123/dns_records/rec-1")] ∧
      s.named "zone-123" "mail.example.com" =
        [⟨"rec-1", .a, "mail.example.com", "9.9.9.9", 60⟩] ∧
      inMemory.2.state.named "zone-123" "mail.example.com" = [] := by
  decide +kernel

end

end ZoneKeeper
