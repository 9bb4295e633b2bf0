/-
**Which host the base of the settings leads to.**

Settings that pass the check have a base that begins like a web address, and the client takes the
slashes off its end.  If there is nothing but slashes behind the scheme, the two slashes that belong
to the scheme go with them.  Slashes in front of an authority do not count, so the path of each
request is then read as its authority, and the requests lead to the host of the name that the path
begins with.  A character that is dropped when an address is read does not keep that from happening.

Main definitions:

* `ZoneKeeper.Cloudflare.Client.KeepsScheme` — the base still is a scheme with more behind it;
* `ZoneKeeper.Cloudflare.Client.BaseDecidesHost` — the base alone decides where requests lead.

Main results:

* `ZoneKeeper.Cloudflare.trimSlashes_scheme` — what is left of a scheme with a text behind it;
* `ZoneKeeper.Cloudflare.Client.place_of_slashes` — **where the requests lead if there is only a
  scheme**;
* `ZoneKeeper.Cloudflare.base_decides_host_iff` — **which bases decide where requests lead**.
-/

import Mathlib.Data.List.DropRight
import ZoneKeeper.Proofs.Cloudflare.Calls
import ZoneKeeper.Proofs.Settings

set_option autoImplicit false

namespace ZoneKeeper

open ZoneKeeper.Http ZoneKeeper.Text

/-! ### Slashes at the end -/

namespace Cloudflare

/-- Is a slash at the end of a base. -/
def isEndSlash (c : Char) : Bool :=
  c == '/'

theorem toList_trimSlashes (s : String) : (trimSlashes s).toList = s.toList.rdropWhile isEndSlash := by
  rw [trimSlashes, String.toList_ofList]
  rfl

/-- Only slashes are taken off. -/
theorem exists_mem_rdropWhile_iff {p : Char → Prop} (hp : ¬ p '/') {cs : List Char} :
    (∃ c ∈ cs.rdropWhile isEndSlash, p c) ↔ ∃ c ∈ cs, p c := by
  constructor
  · rintro ⟨c, hc, h⟩
    exact ⟨c, (List.rdropWhile_prefix _ _).subset hc, h⟩
  · rintro ⟨c, hc, h⟩
    have hsplit : cs.rdropWhile isEndSlash ++ cs.rtakeWhile isEndSlash = cs :=
      List.rdropWhile_append_rtakeWhile
    rw [← hsplit, List.mem_append] at hc
    rcases hc with hc | hc
    · exact ⟨c, hc, h⟩
    · have hslash : isEndSlash c = true := List.mem_rtakeWhile_imp hc
      obtain rfl : c = '/' := beq_iff_eq.1 hslash
      exact absurd h hp

/-- No slash is taken off from before another character. -/
theorem rdropWhile_append_cons {c : Char} (hc : isEndSlash c = false) (front back : List Char) :
    (front ++ c :: back).rdropWhile isEndSlash = front ++ c :: back.rdropWhile isEndSlash := by
  rw [List.rdropWhile, List.rdropWhile, List.reverse_append, List.reverse_cons, List.append_assoc,
    List.singleton_append, Url.dropWhile_append_cons hc]
  simp

/-- Two slashes are left in front of a text exactly if it is not only slashes. -/
theorem rdropWhile_two_slashes (cs : List Char) :
    ((∀ c ∈ cs, c = '/') ∧ ('/' :: '/' :: cs).rdropWhile isEndSlash = []) ∨
      ∃ c rest, (∃ d ∈ cs, d ≠ '/') ∧
        ('/' :: '/' :: cs).rdropWhile isEndSlash = '/' :: '/' :: c :: rest := by
  by_cases h : ∀ c ∈ cs, c = '/'
  · refine .inl ⟨h, List.rdropWhile_eq_nil_iff.2 fun c hc => ?_⟩
    rcases List.mem_cons.1 hc with rfl | hc
    · rfl
    · rcases List.mem_cons.1 hc with rfl | hc
      · rfl
      · exact beq_iff_eq.2 (h c hc)
  · obtain ⟨d, hd, hne⟩ : ∃ d ∈ cs, d ≠ '/' := by simpa using h
    obtain ⟨front, back, rfl⟩ := List.append_of_mem hd
    have hsplit := rdropWhile_append_cons (beq_eq_false_iff_ne.2 hne) ('/' :: '/' :: front) back
    cases front with
    | nil => exact .inr ⟨_, _, ⟨d, hd, hne⟩, hsplit⟩
    | cons c front => exact .inr ⟨_, _, ⟨d, hd, hne⟩, hsplit⟩

/-! ### The first name of a path -/

/-- Nothing, or a slash with anything behind it. -/
def EndsName (cs : List Char) : Prop :=
  cs = [] ∨ ∃ more, cs = '/' :: more

/-- All calls ask for something below one directory. -/
theorem exists_tail_ofCall (call : Call) :
    ∃ tail, (Draft.ofCall call).path.toList = '/' :: ("zones".toList ++ tail) ∧ EndsName tail := by
  have hrecords : ∀ text : String, ∃ tail,
      ("/zones/" ++ text).toList = '/' :: ("zones".toList ++ tail) ∧ EndsName tail :=
    fun text => ⟨'/' :: text.toList, by rw [String.toList_append]; rfl, .inr ⟨_, rfl⟩⟩
  cases call with
  | resolveZone zone =>
      exact ⟨[], (by decide : "/zones".toList = '/' :: ("zones".toList ++ [])), .inl rfl⟩
  | listRecords zoneId type name | createRecord zoneId payload =>
      have hpath := hrecords (zoneId ++ "/dns_records")
      rw [← String.append_assoc] at hpath
      exact hpath
  | updateRecord zoneId recordId payload =>
      have hpath := hrecords (zoneId ++ "/dns_records" ++ "/" ++ recordId)
      rw [← String.append_assoc, ← String.append_assoc, ← String.append_assoc] at hpath
      exact hpath

theorem exists_tail_cleanBack {tail : List Char} (h : EndsName tail) :
    ∃ tail', Url.cleanBack ("zones".toList ++ tail) = "zones".toList ++ tail' ∧ EndsName tail' := by
  rcases h with rfl | ⟨more, rfl⟩
  · exact ⟨[], by decide, .inl rfl⟩
  · exact ⟨_, Url.cleanBack_append_cons Url.isOuter_slash _ _, .inr ⟨_, rfl⟩⟩

/-- The first name of a path is taken for the authority where there are only slashes before it. -/
theorem authorityText_zones {slashes tail : List Char}
    (h : slashes.dropWhile (Url.isSlash true) = []) (htail : EndsName tail) :
    Url.authorityText (Url.beforeQuery (slashes ++ '/' :: ("zones".toList ++ tail))) =
      "zones".toList := by
  set front := slashes ++ '/' :: "zones".toList with hfront
  have hdrop : front.dropWhile (Url.isSlash true) = "zones".toList := by
    rw [hfront, List.dropWhile_append, if_pos (by simpa using h)]
    decide
  have hmark : ∀ mark, Url.isSlash true mark = false → mark ∉ "zones".toList → mark ∉ front := by
    intro mark hm hzones hmem
    rw [hfront, List.mem_append, List.mem_cons] at hmem
    rcases hmem with hmem | rfl | hmem
    · exact absurd (List.dropWhile_eq_nil_iff.1 h mark hmem) (by simp [hm])
    · exact absurd hm (by decide)
    · exact hzones hmem
  have hquery : Url.beforeQuery front = front := by
    rw [Url.beforeQuery, Url.splitAtMark_of_not_mem (hmark '#' (by decide) (by decide)),
      Url.splitAtMark_of_not_mem (hmark '?' (by decide) (by decide))]
  have hauthority : Url.authorityText front = "zones".toList := by
    rw [Url.authorityText, hdrop]
    decide
  have hsplit : slashes ++ '/' :: ("zones".toList ++ tail) = front ++ tail := by
    rw [hfront, List.append_assoc, List.cons_append]
  rw [hsplit]
  rcases htail with rfl | ⟨more, rfl⟩
  · rw [List.append_nil, hquery, hauthority]
  · rcases Url.beforeQuery_append_slash front with hb | hb
    · rw [hb, hquery, hauthority]
    · have hne : front.dropWhile (Url.isSlash true) ≠ [] := by
        rw [hdrop]
        decide
      rw [hb, (Url.authorityText_append_slash hne _).1, hauthority]

/-! ### Addresses with the base -/

namespace Client

/-- The base still is the scheme of a web address with at least one character behind it. -/
def KeepsScheme (c : Client) : Prop :=
  ∃ rest, rest ≠ "" ∧ Settings.BehindScheme c.base rest

/-- The base alone decides where requests lead: each address that begins with it leads where the base
leads by itself, or is none if the base is none. -/
def BaseDecidesHost (c : Client) : Prop :=
  ∀ d : Draft, d.IsRooted →
    (c.address? d).map (fun u => u.authority.map Authority.place) =
      (Url.parse? (c.base ++ "/").toList).map fun u => u.authority.map Authority.place

theorem map_place_parse? (cs : List Char) :
    ((Url.parse? cs).map fun u => u.authority.map Authority.place) =
      ((Url.parse? cs).map Url.authority).map fun a => a.map Authority.place := by
  rw [Option.map_map]
  rfl

theorem map_place_address? (c : Client) (d : Draft) :
    ((c.address? d).map fun u => u.authority.map Authority.place) =
      ((Url.parse? (c.base ++ d.path).toList).map Url.authority).map
        fun a => a.map Authority.place := by
  rw [address?, Option.map_map, Option.map_map]
  congr 1
  funext bare
  simp

section

variable {c : Client} {scheme after : List Char} (hscheme : Settings.IsScheme scheme)
  (hbase : c.base.toList = scheme ++ ':' :: after)

include hscheme

theorem isWeb_of_isScheme : isWeb scheme = true := by
  rcases hscheme with rfl | rfl
  · decide
  · decide

theorem splitScheme?_cleanFront :
    Url.splitScheme? (Url.cleanFront (scheme ++ ':' :: after)) =
      some (scheme, after.filter Url.isKept) := by
  rcases hscheme with rfl | rfl
  · rfl
  · rfl

include hbase

/-- What is read behind the scheme of an address with the base. -/
theorem splitScheme?_append (more : List Char) :
    Url.splitScheme? (Url.clean (c.base.toList ++ '/' :: more)) =
      some (scheme, after.filter Url.isKept ++ '/' :: Url.cleanBack more) := by
  rw [Url.clean_append_cons Url.isOuter_slash, Url.splitScheme?_append_slash, hbase,
    splitScheme?_cleanFront hscheme]
  rfl

/-- The authority of an address with the base. -/
theorem map_authority_parse?_append (more : List Char) :
    (Url.parse? (c.base.toList ++ '/' :: more)).map Url.authority =
      (Authority.parse? scheme (Url.authorityText (Url.beforeQuery
        (after.filter Url.isKept ++ '/' :: Url.cleanBack more)))).map fun a => some a.1 :=
  Url.map_authority_parse? (splitScheme?_append hscheme hbase more) (isWeb_of_isScheme hscheme)

/-- A base with an authority decides where requests lead. -/
theorem baseDecidesHost_of_authority
    (hrest : (after.filter Url.isKept).dropWhile (Url.isSlash true) ≠ []) : c.BaseDecidesHost := by
  rintro d ⟨more, hpath⟩
  rw [map_place_address?, map_place_parse?, String.toList_append, String.toList_append, hpath,
    map_authority_parse?_append hscheme hbase, Url.authorityText_of_same_front hrest _ []]
  congr 1
  exact (map_authority_parse?_append hscheme hbase []).symm

/-- A base without an authority is no address by itself. -/
theorem parse?_of_slashes (hrest : (after.filter Url.isKept).dropWhile (Url.isSlash true) = []) :
    Url.parse? (c.base ++ "/").toList = none := by
  refine Option.eq_none_iff_forall_ne_some.2 fun u hu => ?_
  rw [String.toList_append] at hu
  obtain ⟨_, hscheme'⟩ := Url.scheme_of_parse? hu
  obtain rfl : scheme = u.scheme :=
    congrArg Prod.fst (Option.some.inj ((splitScheme?_append hscheme hbase []).symm.trans hscheme'))
  obtain ⟨rest, hsplit, hne⟩ := Url.host_in_base hu (isWeb_of_isScheme hscheme)
  rw [hbase, splitScheme?_cleanFront hscheme] at hsplit
  obtain rfl : after.filter Url.isKept = rest := congrArg Prod.snd (Option.some.inj hsplit)
  exact hne hrest

/-- **Where the requests lead if there is only a scheme**: to the host of the first name of the
path. -/
theorem place_of_slashes (hrest : (after.filter Url.isKept).dropWhile (Url.isSlash true) = [])
    (call : Call) :
    ∃ u, c.address? (.ofCall call) = some u ∧
      u.authority.map Authority.place = some "zones".toList := by
  obtain ⟨tail, hpath, htail⟩ := exists_tail_ofCall call
  have hplace : (c.address? (.ofCall call)).map (fun u => u.authority.map Authority.place) =
      some (some "zones".toList) := by
    rw [map_place_address?, String.toList_append, hpath, map_authority_parse?_append hscheme hbase]
    obtain ⟨tail', hclean, htail'⟩ := exists_tail_cleanBack htail
    rw [hclean, authorityText_zones hrest htail']
    rcases hscheme with rfl | rfl
    · decide +kernel
    · decide +kernel
  exact Option.map_eq_some_iff.1 hplace

/-- A base without an authority does not decide where requests lead. -/
theorem not_baseDecidesHost_of_slashes
    (hrest : (after.filter Url.isKept).dropWhile (Url.isSlash true) = []) :
    ¬ c.BaseDecidesHost := by
  intro h
  -- the base is no address by itself, and any call with it is one
  obtain ⟨u, hu, -⟩ := place_of_slashes hscheme hbase hrest (.resolveZone "")
  have hplace := h (.ofCall (.resolveZone "")) (Draft.isRooted_ofCall _)
  rw [parse?_of_slashes hscheme hbase hrest, hu] at hplace
  cases hplace

/-- The scheme is kept exactly if something is left behind its two slashes. -/
theorem keepsScheme_iff : c.KeepsScheme ↔ ∃ d rest, after = '/' :: '/' :: d :: rest := by
  constructor
  · rintro ⟨rest, hne, hrest⟩
    obtain ⟨scheme', hscheme', hbase'⟩ := Settings.behindScheme_iff.1 hrest
    rw [hbase] at hbase'
    have hsplit : Url.splitScheme? (Url.cleanFront (scheme ++ ':' :: after)) =
        some (scheme, after.filter Url.isKept) := splitScheme?_cleanFront hscheme
    rw [hbase', splitScheme?_cleanFront hscheme'] at hsplit
    obtain rfl : scheme' = scheme := congrArg Prod.fst (Option.some.inj hsplit)
    have hafter := List.append_cancel_left hbase'
    cases hchars : rest.toList with
    | nil => exact absurd (String.toList_eq_nil_iff.1 hchars) hne
    | cons d ds =>
        rw [hchars] at hafter
        exact ⟨d, ds, (List.cons.inj hafter).2⟩
  · rintro ⟨d, rest, rfl⟩
    refine ⟨String.ofList (d :: rest), ?_, Settings.behindScheme_iff.2 ⟨scheme, hscheme, ?_⟩⟩
    · intro h
      have hchars := congrArg String.toList h
      rw [String.toList_ofList] at hchars
      cases hchars
    · rw [hbase, String.toList_ofList]

end

/-- Settings that pass the check make a client. -/
theorem ofSettings_eq {s : Settings} (h : s.fault? = none) :
    ofSettings s = .ok ⟨s.token, trimSlashes (s.apiBase.getD publicBase), s.dryRun⟩ := by
  obtain ⟨htoken, -⟩ := Settings.fault?_eq_none_iff.1 h
  rw [ofSettings, h]
  dsimp only
  rw [create?, htoken, if_neg Bool.false_ne_true]

end Client

/-- The authority of a base is what is behind its scheme. -/
theorem dropWhile_filter_ne_nil_iff (rest : List Char) :
    ((('/' :: '/' :: rest).rdropWhile isEndSlash).filter Url.isKept).dropWhile (Url.isSlash true) ≠
        [] ↔
      ∃ d ∈ rest, Url.isKept d = true ∧ Url.isSlash true d = false := by
  have hslash : ¬ (Url.isKept '/' = true ∧ Url.isSlash true '/' = false) := by decide
  rw [Ne, List.dropWhile_eq_nil_iff]
  have hmem : (∃ d ∈ ('/' :: '/' :: rest).rdropWhile isEndSlash,
      Url.isKept d = true ∧ Url.isSlash true d = false) ↔ ∃ d ∈ '/' :: '/' :: rest,
      Url.isKept d = true ∧ Url.isSlash true d = false := exists_mem_rdropWhile_iff hslash
  simp only [List.mem_cons, exists_eq_or_imp, hslash, false_or] at hmem
  rw [← hmem]
  simp only [List.mem_filter, not_forall, Bool.not_eq_true, exists_prop, and_assoc]

/-- **Which bases decide where requests lead.**  Take settings that pass the check and have a base:
the base is a scheme with a text behind it, and there is a client for them.  Its base is still a scheme
with more behind it exactly if there is more than slashes in that text.  It decides where requests
lead exactly if one of the characters is neither a slash of one of the two kinds nor dropped when an
address is read.  Otherwise all requests lead to the host of the name that their paths begin with. -/
theorem base_decides_host_iff {s : Settings} {base : String} (hbase : s.apiBase = some base)
    (hvalid : s.fault? = none) :
    (∃ rest, Settings.BehindScheme base rest) ∧
      ∃ c, Client.ofSettings s = .ok c ∧ ∀ rest, Settings.BehindScheme base rest →
        (c.KeepsScheme ↔ ∃ d ∈ rest.toList, d ≠ '/') ∧
        (c.BaseDecidesHost ↔
          ∃ d ∈ rest.toList, Url.isKept d = true ∧ Url.isSlash true d = false) ∧
        (¬ c.BaseDecidesHost → ∀ call, ∃ u, c.address? (.ofCall call) = some u ∧
          u.authority.map Authority.place = some "zones".toList) := by
  obtain ⟨-, hweb, -⟩ := Settings.fault?_eq_none_iff.1 hvalid
  refine ⟨Settings.isWebAddress_iff.1 (hweb base hbase), _, Client.ofSettings_eq hvalid, ?_⟩
  intro rest hrest
  obtain ⟨scheme, hscheme, hchars⟩ := Settings.behindScheme_iff.1 hrest
  set c : Client := ⟨s.token, trimSlashes (s.apiBase.getD publicBase), s.dryRun⟩ with hc
  have hclient : c.base.toList =
      scheme ++ ':' :: ('/' :: '/' :: rest.toList).rdropWhile isEndSlash := by
    rw [hc, hbase, Option.getD_some]
    dsimp only
    rw [toList_trimSlashes, hchars, rdropWhile_append_cons (by decide)]
  have hauthority := dropWhile_filter_ne_nil_iff rest.toList
  have hdecides : c.BaseDecidesHost ↔
      ∃ d ∈ rest.toList, Url.isKept d = true ∧ Url.isSlash true d = false := by
    rw [← hauthority]
    constructor
    · intro h hnil
      exact Client.not_baseDecidesHost_of_slashes hscheme hclient hnil h
    · exact Client.baseDecidesHost_of_authority hscheme hclient
  refine ⟨?_, hdecides, fun hnot call => ?_⟩
  · rw [Client.keepsScheme_iff hscheme hclient]
    obtain ⟨hslashes, hnil⟩ | ⟨d, more, hother, hcons⟩ := rdropWhile_two_slashes rest.toList
    · rw [hnil]
      refine iff_of_false (fun ⟨_, _, h⟩ => nomatch h) ?_
      rintro ⟨d, hd, hne⟩
      exact hne (hslashes d hd)
    · exact iff_of_true ⟨d, more, hcons⟩ hother
  · rw [hdecides, ← hauthority, not_not] at hnot
    exact Client.place_of_slashes hscheme hclient hnot call

/-- The slash behind a host is taken off and nothing else is. -/
theorem loopback_decides_host :
    ∃ c, Client.ofSettings ⟨"secret", "example.com", false, some "http://127.0.0.1:8080/"⟩ = .ok c ∧
      c.KeepsScheme ∧ c.BaseDecidesHost := by
  obtain ⟨-, c, hc, h⟩ := base_decides_host_iff
    (s := ⟨"secret", "example.com", false, some "http://127.0.0.1:8080/"⟩) rfl (by decide)
  obtain ⟨hkeeps, hdecides, -⟩ := h "127.0.0.1:8080/" (.inl rfl)
  exact ⟨c, hc, hkeeps.2 ⟨'1', by decide, by decide⟩, hdecides.2 ⟨'1', by decide, by decide⟩⟩

/-- A scheme alone passes the check, and the token is then sent to a host that is not in the base. -/
theorem token_is_sent_to_zones :
    let s : Settings := ⟨"secret", "example.com", false, some "http://"⟩
    s.fault? = none ∧ ∃ c, Client.ofSettings s = .ok c ∧ c.base = "http:" ∧ ¬ c.KeepsScheme ∧
      ¬ c.BaseDecidesHost ∧
      ((Session.providerOf c).perform (.resolveZone "example.com")
        { host := some "zones".toList, queue := [] }).2.requests.map Request.authorization =
          ["Bearer secret"] := by
  intro s
  have hscheme : Settings.IsScheme "http".toList := .inl rfl
  have hbase : (⟨"secret", "http:", false⟩ : Client).base.toList = "http".toList ++ ':' :: [] := by
    decide
  refine ⟨by decide, ⟨"secret", "http:", false⟩, by decide, rfl, ?_,
    Client.not_baseDecidesHost_of_slashes hscheme hbase rfl, by decide +kernel⟩
  rw [Client.keepsScheme_iff hscheme hbase]
  rintro ⟨d, rest, h⟩
  cases h

end Cloudflare

end ZoneKeeper
