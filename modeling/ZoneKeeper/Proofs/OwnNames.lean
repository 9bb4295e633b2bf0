/-
**The names of a reconciler's own zone.**

A reconciler completes a name before it looks whether the name is in its zone.  Completing changes
only the short names, and a name of a zone is short exactly if the zone's own name is: the token that
short names end in holds no dot, so it cannot reach beyond the zone's name.  A name that is not short
is looked up as it was written.  A completed name is never short, so it never ends in a zone's name
that is: a reconciler of such a zone skips every name, those of its zone among them.

Main results:

* `ZoneKeeper.RecordName.isShort_of_belongs_iff` — the names of a zone are short if the zone's name
  is;
* `ZoneKeeper.RecordName.not_suffix_complete_of_isShort` — no completed name ends in a short one;
* `ZoneKeeper.own_names_are_looked_up_iff` — **a reconciler looks up the names of its zone exactly if
  the zone's name is not short**;
* `ZoneKeeper.short_zone_is_skipped` — a reconciler that skips its own zone.
-/

import ZoneKeeper.Proofs.ZoneGuard

set_option autoImplicit false

namespace ZoneKeeper

/-! ### Short names -/

namespace RecordName

theorem isShort_iff {name : String} : isShort name = true ↔ shortToken <:+ name.toList := by
  rw [isShort, List.isSuffixOf_iff_suffix]

theorem complete_of_not_isShort {name : String} (h : isShort name = false) :
    complete name = name := by
  simp [complete, h]

/-- A completed name is not short. -/
theorem isShort_complete (name : String) : isShort (complete name) = false := by
  by_cases h : isShort name = true
  · rw [complete, if_pos h, isShort_append_leftOut]
  · rw [complete, if_neg h]
    exact Bool.eq_false_iff.2 h

/-- The names of a zone are short exactly if the zone's own name is. -/
theorem isShort_of_belongs_iff {zone name : String} (h : Belongs zone name) :
    isShort name = true ↔ isShort zone = true := by
  rw [isShort_iff, isShort_iff]
  rcases h with rfl | hbelow
  · rfl
  · constructor
    · intro hshort
      rcases List.suffix_or_suffix_of_suffix hshort hbelow with hin | hbeyond
      · rcases List.suffix_cons_iff.1 hin with heq | hin
        · exact absurd (List.cons.inj heq).1 (by decide)
        · exact hin
      · -- the token would hold the dot before the zone's name
        have hdot : '.' ∈ shortToken := hbeyond.subset List.mem_cons_self
        exact absurd hdot (by decide)
    · intro hshort
      exact hshort.trans ((List.suffix_cons '.' zone.toList).trans hbelow)

/-- No completed name ends in a short one. -/
theorem not_suffix_complete_of_isShort {zone : String} (h : isShort zone = true) (name : String) :
    ¬ zone.toList <:+ (complete name).toList := by
  intro hsuffix
  have hshort : isShort (complete name) = true := isShort_iff.2 ((isShort_iff.1 h).trans hsuffix)
  rw [isShort_complete] at hshort
  cases hshort

end RecordName

/-! ### Updates in the own zone -/

open RecordName

variable {σ : Type}

/-- **A reconciler looks up the names of its zone exactly if the zone's name is not short.**  Let a
reconciler be bound to a zone, over any provider.  A name that is the zone's own or stands below it,
as it is written, is not skipped but looked up as it is, exactly if the zone's name does not end in
the token of short names.  If it does, every update is skipped without a call, whatever the name. -/
theorem own_names_are_looked_up_iff {p : Provider (StateM σ)} {zoneName : String}
    {before after : Recorded σ} {r : Reconciler (StateM (Recorded σ))}
    (hr : Reconciler.bind p.recorded zoneName Recorded.write before = (.ok r, after)) :
    (∀ (name : String) (address : Address) (ttl : Int32) (s : σ), Belongs zoneName name →
      let run := r.update name address ttl ⟨s, [], []⟩
      ((∀ skipped, run.1 ≠ .ok (.outsideZone skipped)) ∧
          run.2.calls.head? = some (.listRecords r.zone.id .a name)) ↔
        isShort zoneName = false) ∧
    (isShort zoneName = true →
      ∀ (name : String) (address : Address) (ttl : Int32) (s : σ),
        let run := r.update name address ttl ⟨s, [], []⟩
        run.1 = .ok (.outsideZone (complete name)) ∧ run.2.calls = [] ∧ run.2.state = s) := by
  obtain ⟨id, rfl⟩ := Reconciler.eq_observed_of_bind p hr
  have hskipped : isShort zoneName = true →
      ∀ (name : String) (address : Address) (ttl : Int32) (s : σ),
        let run := (Reconciler.observed p ⟨id, zoneName⟩).update name address ttl ⟨s, [], []⟩
        run.1 = .ok (.outsideZone (complete name)) ∧ run.2.calls = [] ∧ run.2.state = s := by
    intro hshort name address ttl s run
    have hcourse : Course p ⟨id, zoneName⟩ (complete name) address (effectiveTtl ttl) s [] _ s :=
      .outsideZone (not_suffix_complete_of_isShort hshort name)
    rw [show run = _ from hcourse.update_eq [] []]
    exact ⟨rfl, rfl, rfl⟩
  refine ⟨?_, hskipped⟩
  intro name address ttl s hname run
  constructor
  · rintro ⟨hnot, -⟩
    rw [Bool.eq_false_iff]
    intro hshort
    exact hnot _ (hskipped hshort name address ttl s).1
  · intro hlong
    have hcomplete : complete name = name := by
      refine complete_of_not_isShort (Bool.eq_false_iff.2 fun hshort => ?_)
      rw [(isShort_of_belongs_iff hname).1 hshort] at hlong
      cases hlong
    obtain ⟨calls, result, s', h⟩ :=
      exists_course p ⟨id, zoneName⟩ (complete name) address (effectiveTtl ttl) s
    rw [show run = _ from h.update_eq [] []]
    rw [hcomplete] at h
    refine ⟨?_, h.head?_calls hname.suffix⟩
    rintro skipped rfl
    cases h with
    | outsideZone hout => exact hout hname.suffix

/-- A reconciler of `example.com` on a store in memory looks `www.example.com` up. -/
theorem name_below_zone_is_looked_up :
    let p := Memory.provider [("example.com", "zone-123")]
    let r := Reconciler.observed p ⟨"zone-123", "example.com"⟩
    let run := r.update "www.example.com" ⟨1, 2, 3, 4⟩ 300 ⟨{}, [], []⟩
    (Reconciler.bind p.recorded "example.com" Recorded.write ⟨{}, [], []⟩).1 = .ok r ∧
      Belongs "example.com" "www.example.com" ∧
      (∀ skipped, run.1 ≠ .ok (.outsideZone skipped)) ∧
      run.2.calls.head? = some (.listRecords "zone-123" .a "www.example.com") := by
  intro p r run
  have hbind : Reconciler.bind p.recorded "example.com" Recorded.write ⟨{}, [], []⟩ =
      (.ok r, (Reconciler.bind p.recorded "example.com" Recorded.write ⟨{}, [], []⟩).2) := rfl
  have hname : Belongs "example.com" "www.example.com" := by decide
  refine ⟨rfl, hname, ?_⟩
  exact ((own_names_are_looked_up_iff hbind).1 _ ⟨1, 2, 3, 4⟩ 300 {} hname).2 (by decide)

/-- **A reconciler that skips its own zone.**  `home.ls90` is accepted as a zone, and neither its own
name nor one below it is looked up. -/
theorem short_zone_is_skipped :
    let bound := (Memory.Session.start [("home.ls90", "zone-123")]).step (.bind 0 "home.ls90")
    let apex := (bound.2.step (.update 0 "home.ls90" "1.2.3.4" 300)).1
    let below := (bound.2.step (.update 0 "www.home.ls90" "1.2.3.4" 300)).1
    bound.2.reconcilers.map Reconciler.zone = [⟨"zone-123", "home.ls90"⟩] ∧
      Belongs "home.ls90" "home.ls90" ∧ Belongs "home.ls90" "www.home.ls90" ∧
      apex.result = .outcome (.outsideZone "home.ls90.co") ∧ apex.counts = ⟨1, 0, 0, 0⟩ ∧
      below.result = .outcome (.outsideZone "www.home.ls90.co") ∧ below.counts = ⟨1, 0, 0, 0⟩ := by
  decide +kernel

end ZoneKeeper
