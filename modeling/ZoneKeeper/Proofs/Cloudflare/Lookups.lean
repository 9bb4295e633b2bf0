/-
**What a lookup asks for.**

A lookup is a read whose address ends in a query, and the query alone says which zone or record is
meant.  Where the base and the path hold no question mark, the address up to the query has none
either: the mark is escaped wherever a path could hold one, so the first question mark of the target
is the one before the query.  What follows it is form-encoded and reads back as the pairs that were
asked for, whatever texts they are.  So no character of a name adds a pair or alters one, and no two
names are asked for in the same words.

Main definitions:

* `ZoneKeeper.Http.Request.pairs?` — the pairs that a request asks for;
* `ZoneKeeper.Cloudflare.Client.requestsFor` — what a call makes the host receive.

Main results:

* `ZoneKeeper.Http.Path.question_not_mem_ofNames` — no path of names holds a question mark;
* `ZoneKeeper.Cloudflare.Client.requestsFor_of_fits`,
  `ZoneKeeper.Cloudflare.Client.requestsFor_of_not_fits` — one request, or none;
* `ZoneKeeper.Cloudflare.lookups_name_what_is_asked` — **a lookup asks for the name it is given and
  for nothing else**;
* `ZoneKeeper.Cloudflare.long_name_and_quoted_host_send_nothing` — lookups that cannot be sent.
-/

import ZoneKeeper.Proofs.Cloudflare.Calls
import ZoneKeeper.Proofs.DomainName
import ZoneKeeper.Proofs.Http.Form

set_option autoImplicit false

namespace ZoneKeeper

open ZoneKeeper.Http ZoneKeeper.Text

/-! ### Addresses without a question mark -/

namespace Http.Path

/-- The question mark is escaped in a name. -/
theorem question_not_mem_percentEncode (cs : List Char) :
    '?' ∉ percentEncode standsInName cs := by
  intro h
  obtain ⟨c, -, hc⟩ := List.mem_flatMap.1 h
  by_cases hstands : standsInName c = true
  · rw [if_pos hstands, List.mem_singleton] at hc
    subst hc
    exact absurd hstands (by decide)
  · rw [if_neg hstands] at hc
    obtain ⟨b, -, hb⟩ := List.mem_flatMap.1 hc
    exact not_mem_percentByte (by decide) (by decide) b hb

theorem parent_subset (done : List (List Char)) : parent done ⊆ done := by
  cases done with
  | nil => exact List.Subset.refl _
  | cons name done =>
      rw [parent]
      split
      · exact List.Subset.refl _
      · exact List.subset_cons_self name done

/-- Every step keeps question marks out of the names. -/
theorem question_not_mem_walk {names done : List (List Char)} (hdone : ∀ name ∈ done, '?' ∉ name) :
    ∀ name ∈ walk false done names, '?' ∉ name := by
  induction names generalizing done with
  | nil =>
      intro name hname
      exact hdone name (List.mem_reverse.1 hname)
  | cons name rest ih =>
      have hhere : ∀ here ∈ (if rest = [] then [[]] else [] : List (List Char)), '?' ∉ here := by
        split <;> simp
      rw [walk]
      simp only [Bool.false_eq_true, false_and, if_false]
      split
      · exact ih (List.forall_mem_append.2 ⟨hhere, fun n hn => hdone n (parent_subset done hn)⟩)
      · split
        · exact ih (List.forall_mem_append.2 ⟨hhere, hdone⟩)
        · exact ih (List.forall_mem_cons.2 ⟨question_not_mem_percentEncode name, hdone⟩)

/-- No path of names holds a question mark. -/
theorem question_not_mem_ofNames (names : List (List Char)) : '?' ∉ ofNames names := by
  rw [ofNames, List.mem_cons, not_or]
  refine ⟨by decide, fun h => ?_⟩
  rcases mem_joinFields h with h | ⟨name, hname, h⟩
  · exact absurd h (by decide)
  · exact question_not_mem_walk (List.forall_mem_nil _) name hname h

end Http.Path

namespace Http.Url

@[simp] theorem withoutCredentials_path (u : Url) : u.withoutCredentials.path = u.path := by
  rw [withoutCredentials]
  split <;> rfl

@[simp] theorem withoutCredentials_query (u : Url) : u.withoutCredentials.query = u.query := by
  rw [withoutCredentials]
  split <;> rfl

/-- Cleaning adds no character. -/
theorem clean_subset (cs : List Char) : clean cs ⊆ cs := by
  intro c hc
  have hkept := List.mem_reverse.1 (List.mem_filter.1 hc).1
  exact (List.dropWhile_sublist _).subset
    (List.mem_reverse.1 ((List.dropWhile_sublist _).subset hkept))

theorem splitAtMark_fst_subset (mark : Char) (cs : List Char) : (splitAtMark mark cs).1 ⊆ cs := by
  rw [splitAtMark]
  split
  · exact List.Subset.refl _
  · exact (List.takeWhile_sublist _).subset

/-- A web address that is written without a question mark has no query, and its path holds no
question mark either. -/
theorem of_question_not_mem {cs : List Char} {u : Url} (hu : parse? cs = some u)
    (hw : isWeb u.scheme = true) (hcs : '?' ∉ cs) : u.query = none ∧ '?' ∉ u.path := by
  obtain ⟨rest, hs⟩ := scheme_of_parse? hu
  have hrest : '?' ∉ (splitAtMark '#' rest).1 := fun h =>
    hcs (clean_subset cs ((suffix_of_splitScheme? hs).subset (splitAtMark_fst_subset '#' rest h)))
  rw [parse?_of_isWeb hs hw, Option.map_eq_some_iff] at hu
  obtain ⟨a, -, he⟩ := hu
  rw [← he, splitAtMark_of_not_mem hrest]
  exact ⟨rfl, Path.question_not_mem_ofNames _⟩

/-- The target of an address that got its query from pairs. -/
theorem toList_target_withQuery {u : Url} (hu : u.query = none) {pairs : List (String × String)}
    (hne : pairs ≠ []) :
    (u.withQuery pairs).target.toList = u.path ++ '?' :: Form.encode pairs := by
  rw [withQuery, if_neg hne, hu]
  exact String.toList_ofList

end Http.Url

/-- The pairs that a request asks for: those behind the first question mark of its target. -/
def Http.Request.pairs? (r : Request) : Option (List (String × String)) :=
  (Url.splitAtMark '?' r.target.toList).2.map Form.decode

/-! ### The query of a draft -/

namespace Cloudflare

namespace Client

section

variable {c : Client} {host : WebOrigin} (hc : c.SendsTo host) {d : Draft} {url : Url}
  (hd : d.IsRooted) (hquery : d.query ≠ []) (hmark : '?' ∉ (c.base ++ d.path).toList)
  (hurl : c.address? d = some url)

include hc hd hurl

/-- Where the base leads to a host, every draft is addressed by HTTP. -/
theorem SendsTo.isHttp_address : url.isHttp = true := by
  obtain ⟨url', hurl', hreach, -⟩ := hc.directs hd
  obtain rfl : url' = url := Option.some.inj (hurl'.symm.trans hurl)
  have h := hreach { host := some host } rfl
  rw [Link.reaches, Bool.and_eq_true, beq_iff_eq] at h
  exact (Url.of_origin?_eq_some h.2).1

include hquery hmark

/-- The target of a draft's request has one part before the query, without a question mark. -/
theorem SendsTo.target_eq :
    ∃ front, '?' ∉ front ∧
      (c.requestAt d url).target.toList = front ++ '?' :: Form.encode d.query := by
  have hw := Url.isWeb_of_isHttp (hc.isHttp_address hd hurl)
  obtain ⟨bare, hbare, rfl⟩ := Option.map_eq_some_iff.1 hurl
  rw [Url.withQuery_scheme, Url.withoutCredentials_scheme] at hw
  obtain ⟨hnone, hpath⟩ := Url.of_question_not_mem hbare hw hmark
  refine ⟨bare.path, hpath, ?_⟩
  rw [← bare.withoutCredentials_path]
  exact Url.toList_target_withQuery (by rw [Url.withoutCredentials_query, hnone]) hquery

/-- A request asks for the pairs of its draft. -/
theorem SendsTo.pairs?_requestAt : (c.requestAt d url).pairs? = some d.query := by
  obtain ⟨front, hfront, htarget⟩ := hc.target_eq hd hquery hmark hurl
  rw [Request.pairs?, htarget, Url.splitAtMark_append_of_not_mem hfront, Url.splitAtMark_cons,
    if_pos rfl, Option.map_some, Form.decode_encode]

end

/-! ### The requests of a lookup -/

/-- What a call makes the host receive, which answers from a queue. -/
def requestsFor (c : Client) (host : WebOrigin) (queue : List Canned) (call : Call) :
    List Request :=
  ((Session.providerOf c).perform call { host := some host, queue }).2.requests

/-- A lookup whose request cannot be made sends nothing. -/
theorem requestsFor_of_prepare_eq_error (c : Client) (call : Call) (hread : call.isWrite = false)
    {fault : SendFault} (h : c.prepare (.ofCall call) = .error fault) (host : WebOrigin)
    (queue : List Canned) : c.requestsFor host queue call = [] := by
  obtain ⟨entries, -, hperform⟩ :=
    perform_sent (c := c) (.inr hread) { host := some host, queue }
  rw [requestsFor, hperform, transmit, h]

section

variable {c : Client} {host : WebOrigin} (hc : c.SendsTo host) (call : Call)
  (hread : call.isWrite = false) (queue : List Canned)

include hc hread

/-- A lookup whose address is short enough is one request. -/
theorem requestsFor_of_fits (hf : c.Fits (.ofCall call)) :
    ∃ url, c.address? (.ofCall call) = some url ∧
      c.requestsFor host queue call = [c.requestAt (.ofCall call) url] := by
  obtain ⟨url, entries, hurl, hperform⟩ :=
    perform_of_fits hc (.inr hread) (l := { host := some host, queue }) rfl hf
  refine ⟨url, hurl, ?_⟩
  rw [requestsFor, hperform]
  rfl

/-- A lookup whose address is too long sends nothing. -/
theorem requestsFor_of_not_fits (hf : ¬ c.Fits (.ofCall call)) :
    c.requestsFor host queue call = [] := by
  obtain ⟨e, entries, hperform⟩ :=
    perform_of_not_fits hc (.inr hread) (l := { host := some host, queue }) hf
  rw [requestsFor, hperform]

/-- Whatever a lookup sends asks for the pairs of the lookup. -/
theorem pairs?_of_mem_requestsFor (hquery : (Draft.ofCall call).query ≠ [])
    (hmark : '?' ∉ (c.base ++ (Draft.ofCall call).path).toList) {r : Request}
    (hr : r ∈ c.requestsFor host queue call) : r.pairs? = some (Draft.ofCall call).query := by
  by_cases hf : c.Fits (.ofCall call)
  · obtain ⟨url, hurl, hrequests⟩ := requestsFor_of_fits hc call hread queue hf
    rw [hrequests, List.mem_singleton] at hr
    rw [hr, hc.pairs?_requestAt (Draft.isRooted_ofCall call) hquery hmark hurl]
  · rw [requestsFor_of_not_fits hc call hread queue hf] at hr
    cases hr

end

end Client

/-! ### Names -/

/-- The name of a zone is written as it is. -/
theorem encodeText_of_fault? {zone : String} (h : DomainName.fault? zone = none) :
    Form.encodeText zone = zone.toList := by
  obtain ⟨-, -, hlabels⟩ := DomainName.fault?_eq_none_iff.1 h
  have hall : ∀ n < 0x80, (Char.ofNat n = '.' ∨ DomainName.isLabelChar (Char.ofNat n) = true) →
      Form.stands (UInt8.ofNat n) = true := by decide +kernel
  refine Form.encodeText_eq_self fun c hc => ?_
  have hchar : c = '.' ∨ DomainName.isLabelChar c = true := by
    rw [← joinFields_fields '.' zone.toList] at hc
    rcases mem_joinFields hc with hdot | ⟨label, hlabel, hmem⟩
    · exact .inl hdot
    · exact .inr ((hlabels label hlabel).chars c hmem)
  have hlt : c.toNat < 0x80 := by
    rcases hchar with rfl | hlabel
    · decide
    · have hsize := DomainName.utf8Size_of_isLabelChar hlabel
      rw [Char.utf8Size_eq_one_iff, UInt32.le_iff_toNat_le] at hsize
      exact Nat.lt_succ_of_le hsize
  exact ⟨hlt, hall c.toNat hlt (by rwa [Char.ofNat_toNat])⟩

theorem question_not_mem_recordsPath {c : Client} (hbase : '?' ∉ c.base.toList) {zoneId : String}
    (hid : Url.IsPlainName zoneId.toList) :
    '?' ∉ (c.base ++ Draft.recordsPath zoneId).toList := by
  have hzone : '?' ∉ zoneId.toList := fun h =>
    (Url.standsAsItIs_of_isPlain (hid _ h)).ne_question rfl
  have hfront : '?' ∉ "/zones/".toList := by decide
  have hback : '?' ∉ "/dns_records".toList := by decide
  simp only [Draft.recordsPath, String.toList_append, List.mem_append, not_or]
  exact ⟨hbase, ⟨hfront, hzone⟩, hback⟩

theorem question_not_mem_zonesPath {c : Client} (hbase : '?' ∉ c.base.toList) :
    '?' ∉ (c.base ++ "/zones").toList := by
  have hpath : '?' ∉ "/zones".toList := by decide
  rw [String.toList_append, List.mem_append, not_or]
  exact ⟨hbase, hpath⟩

section

variable {c : Client} {host : WebOrigin} (hc : c.SendsTo host) (hbase : '?' ∉ c.base.toList)
  (queue : List Canned)

include hc hbase

/-- The pairs that a lookup of records asks for. -/
theorem pairs?_of_mem_listRecords {zoneId name : String} (hid : Url.IsPlainName zoneId.toList)
    {r : Request} (hr : r ∈ c.requestsFor host queue (.listRecords zoneId .a name)) :
    r.pairs? = some [("type", "A"), ("name", name)] := by
  have hquery : (Draft.ofCall (.listRecords zoneId .a name)).query ≠ [] := List.cons_ne_nil _ _
  exact Client.pairs?_of_mem_requestsFor hc _ rfl queue hquery
    (question_not_mem_recordsPath hbase hid) hr

/-- The pair that a lookup of a zone asks for. -/
theorem pairs?_of_mem_resolveZone {zone : String} {r : Request}
    (hr : r ∈ c.requestsFor host queue (.resolveZone zone)) :
    r.pairs? = some [("name", zone)] := by
  have hquery : (Draft.ofCall (.resolveZone zone)).query ≠ [] := List.cons_ne_nil _ _
  exact Client.pairs?_of_mem_requestsFor hc _ rfl queue hquery (question_not_mem_zonesPath hbase)
    hr

/-- The target of a lookup of a zone ends in the zone's name. -/
theorem suffix_target_zones {zone : String} (hpasses : DomainName.fault? zone = none) {url : Url}
    (hurl : c.address? (.zones zone) = some url) :
    "?name=".toList ++ zone.toList <:+ (c.requestAt (.zones zone) url).target.toList := by
  obtain ⟨front, -, htarget⟩ := hc.target_eq (Draft.isRooted_ofCall (.resolveZone zone))
    (List.cons_ne_nil _ _) (question_not_mem_zonesPath hbase) hurl
  have hname : Form.encodeText "name" = "name".toList := by decide +kernel
  have hencoded : '?' :: Form.encode [("name", zone)] = "?name=".toList ++ zone.toList := by
    rw [Form.encode, List.map_singleton, joinFields, Form.encodePair, hname,
      encodeText_of_fault? hpasses]
    rfl
  rw [show (c.requestAt (.zones zone) url).target.toList = _ from htarget, ← hencoded]
  exact List.suffix_append _ _

end

/-- Requests with one target ask for the same pairs. -/
theorem pairs?_congr {r r' : Request} (h : r.target = r'.target) : r.pairs? = r'.pairs? := by
  rw [Request.pairs?, h, Request.pairs?]

/-- **A lookup asks for the name it is given and for nothing else.**  Let the base of a client be an
address of a host, without a query.  For any name, and a zone's id of letters, digits, hyphens and
underscores, a lookup of records is one `GET` request whose query reads back as the type and the
name; a lookup of a zone is one whose query reads back as the name, and holds it as it is if it
passes for a domain name.  A lookup whose address is longer than addresses may be sends nothing.
Two lookups of records or of zones with the same target are lookups of one name. -/
theorem lookups_name_what_is_asked {c : Client} {host : WebOrigin} (hc : c.SendsTo host)
    (hbase : '?' ∉ c.base.toList) :
    (∀ (zoneId name : String) (queue : List Canned), Url.IsPlainName zoneId.toList →
      let requests := c.requestsFor host queue (.listRecords zoneId .a name)
      (c.Fits (.records zoneId .a name) →
        ∃ r, requests = [r] ∧ r.method = .get ∧
          r.pairs? = some [("type", "A"), ("name", name)]) ∧
      (¬ c.Fits (.records zoneId .a name) → requests = [])) ∧
    (∀ (zone : String) (queue : List Canned),
      let requests := c.requestsFor host queue (.resolveZone zone)
      (c.Fits (.zones zone) →
        ∃ r, requests = [r] ∧ r.method = .get ∧ r.pairs? = some [("name", zone)] ∧
          (DomainName.fault? zone = none →
            "?name=".toList ++ zone.toList <:+ r.target.toList)) ∧
      (¬ c.Fits (.zones zone) → requests = [])) ∧
    (∀ (zoneId otherId name other : String) (queue otherQueue : List Canned),
      Url.IsPlainName zoneId.toList → Url.IsPlainName otherId.toList →
      ∀ r ∈ c.requestsFor host queue (.listRecords zoneId .a name),
      ∀ r' ∈ c.requestsFor host otherQueue (.listRecords otherId .a other),
        r.target = r'.target → name = other) ∧
    ∀ (zone other : String) (queue otherQueue : List Canned),
      ∀ r ∈ c.requestsFor host queue (.resolveZone zone),
      ∀ r' ∈ c.requestsFor host otherQueue (.resolveZone other),
        r.target = r'.target → zone = other := by
  refine ⟨?_, ?_, ?_, ?_⟩
  · intro zoneId name queue hid requests
    refine ⟨fun hf => ?_, Client.requestsFor_of_not_fits hc (.listRecords zoneId .a name) rfl queue⟩
    obtain ⟨url, -, hrequests⟩ :=
      Client.requestsFor_of_fits hc (.listRecords zoneId .a name) rfl queue hf
    refine ⟨_, hrequests, rfl, ?_⟩
    exact pairs?_of_mem_listRecords hc hbase queue hid (hrequests ▸ List.mem_singleton_self _)
  · intro zone queue requests
    refine ⟨fun hf => ?_, Client.requestsFor_of_not_fits hc (.resolveZone zone) rfl queue⟩
    obtain ⟨url, hurl, hrequests⟩ :=
      Client.requestsFor_of_fits hc (.resolveZone zone) rfl queue hf
    refine ⟨_, hrequests, rfl, ?_, fun hpasses => suffix_target_zones hc hbase hpasses hurl⟩
    exact pairs?_of_mem_resolveZone hc hbase queue (hrequests ▸ List.mem_singleton_self _)
  · intro zoneId otherId name other queue otherQueue hid hother r hr r' hr' htarget
    have h := pairs?_congr htarget
    rw [pairs?_of_mem_listRecords hc hbase queue hid hr,
      pairs?_of_mem_listRecords hc hbase otherQueue hother hr'] at h
    simpa using h
  · intro zone other queue otherQueue r hr r' hr' htarget
    have h := pairs?_congr htarget
    rw [pairs?_of_mem_resolveZone hc hbase queue hr,
      pairs?_of_mem_resolveZone hc hbase otherQueue hr'] at h
    simpa using h

/-- Reserved characters, a space and a letter beyond ASCII in the name of a record. -/
theorem reserved_characters_are_looked_up :
    let c : Client := ⟨"secret", "http://127.0.0.1:8080", false⟩
    let host : WebOrigin := "127.0.0.1:8080".toList
    let name := "a&b=c d+%é#.example.com"
    let requests := c.requestsFor host [] (.listRecords "zone-123" .a name)
    c.SendsTo host ∧ '?' ∉ c.base.toList ∧ Url.IsPlainName "zone-123".toList ∧
      c.Fits (.records "zone-123" .a name) ∧
      (∃ r, requests = [r] ∧ r.method = .get ∧
        r.pairs? = some [("type", "A"), ("name", name)]) ∧
      requests.map Request.target =
        ["/zones/zone-123/dns_records?type=A&name=a%26b%3Dc+d%2B%25%C3%A9%23.example.com"] := by
  intro c host name requests
  have hsends : c.SendsTo host := ⟨by decide +kernel, by decide +kernel⟩
  have hbase : '?' ∉ c.base.toList := by decide
  have hid : Url.IsPlainName "zone-123".toList := by decide
  have hfits : c.Fits (.records "zone-123" .a name) := by decide +kernel
  refine ⟨hsends, hbase, hid, hfits, ?_, by decide +kernel⟩
  exact ((lookups_name_what_is_asked hsends hbase).1 "zone-123" name [] hid).1 hfits

/-- **Lookups that cannot be sent.**  For a name that is longer than an address may be, and with a
base whose host may not stand in a request, nothing is sent, whatever the replies would be. -/
theorem long_name_and_quoted_host_send_nothing :
    let c : Client := ⟨"secret", "http://127.0.0.1:8080", false⟩
    let host : WebOrigin := "127.0.0.1:8080".toList
    let name := String.ofList (List.replicate 65535 'a')
    let other : Client := ⟨"secret", "http://a\"b", false⟩
    c.SendsTo host ∧ '?' ∉ c.base.toList ∧ '#' ∉ c.base.toList ∧
      Url.IsPlainName "zone-123".toList ∧
      (∀ queue, c.requestsFor host queue (.listRecords "zone-123" .a name) = []) ∧
      (Url.parse? other.base.toList).map Url.isHttp = some true ∧
      ∀ host queue,
        other.requestsFor host queue (.listRecords "zone-123" .a "example.com") = [] := by
  intro c host name other
  have hsends : c.SendsTo host := ⟨by decide +kernel, by decide +kernel⟩
  have hother : other.prepare (.records "zone-123" .a "example.com") = .error
      (.refused "http://a\"b/zones/zone-123/dns_records?type=A&name=example.com") := by
    decide +kernel
  refine ⟨hsends, by decide, by decide, by decide, fun queue => ?_, by decide +kernel,
    fun host queue => ?_⟩
  · refine Client.requestsFor_of_not_fits hsends (.listRecords "zone-123" .a name) rfl queue ?_
    refine not_fits_of_long_name hsends ?_
    rw [String.toList_ofList, List.length_replicate]
    exact Nat.lt_succ_self 65534
  · exact other.requestsFor_of_prepare_eq_error (.listRecords "zone-123" .a "example.com") rfl
      hother host queue

end Cloudflare

end ZoneKeeper
