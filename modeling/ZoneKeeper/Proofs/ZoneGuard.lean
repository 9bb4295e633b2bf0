/-
**The zone guard.**

A name belongs to a zone when it is the zone's own name or stands below it, that is, when a dot
comes right before the zone's name at its end.  The guard of a reconciler only looks at the end of
the text: it also lets a name pass in which the zone's name comes right after another character,
so that `notexample.com` passes as a name of `example.com`.

Main definitions:

* `ZoneKeeper.RecordName.Belongs` — the name is in the zone, as names are read label by label;
* `ZoneKeeper.RecordName.RunsInto` — the zone's name ends the name, but not at a label.

Main results:

* `ZoneKeeper.RecordName.suffix_iff` — the names that pass are those two kinds, and no other;
* `ZoneKeeper.skipped_iff_not_runsInto` — **the guard keeps the provider from being
  called for names outside the zone exactly when the name does not run into the zone's**;
* `ZoneKeeper.foreign_name_is_written` — a name of another domain that is written.
-/

import ZoneKeeper.Memory.Session
import ZoneKeeper.Proofs.Course

set_option autoImplicit false

namespace ZoneKeeper

/-! ### Label boundaries -/

namespace RecordName

/-- The name is the zone's own name, or ends in a dot and the zone's name. -/
def Belongs (zone name : String) : Prop :=
  name = zone ∨ '.' :: zone.toList <:+ name.toList

/-- The name ends in the zone's name, which comes right after a character that is no dot. -/
def RunsInto (zone name : String) : Prop :=
  ∃ front c, c ≠ '.' ∧ name.toList = front ++ c :: zone.toList

instance (zone name : String) : Decidable (Belongs zone name) :=
  inferInstanceAs (Decidable (_ ∨ _))

theorem Belongs.suffix {zone name : String} (h : Belongs zone name) :
    zone.toList <:+ name.toList := by
  rcases h with rfl | h
  · exact List.suffix_refl _
  · exact (List.suffix_cons '.' zone.toList).trans h

theorem RunsInto.suffix {zone name : String} (h : RunsInto zone name) :
    zone.toList <:+ name.toList := by
  obtain ⟨front, c, _, hn⟩ := h
  rw [hn]
  exact (List.suffix_cons c zone.toList).trans (List.suffix_append front _)

/-- The names that end in the zone's name are those of the zone and those that run into it. -/
theorem suffix_iff (zone name : String) :
    zone.toList <:+ name.toList ↔ Belongs zone name ∨ RunsInto zone name := by
  constructor
  · rintro ⟨front, hn⟩
    rcases List.eq_nil_or_concat front with rfl | ⟨init, c, rfl⟩
    · exact .inl (.inl (String.toList_injective hn.symm))
    · by_cases hc : c = '.'
      · subst hc
        exact .inl (.inr ⟨init, by simpa using hn⟩)
      · exact .inr ⟨init, c, hc, by simpa using hn.symm⟩
  · rintro (h | h)
    · exact h.suffix
    · exact h.suffix

/-- No name both belongs to a zone and runs into its name. -/
theorem Belongs.not_runsInto {zone name : String} (h : Belongs zone name) :
    ¬ RunsInto zone name := by
  rintro ⟨front, c, hc, hn⟩
  rcases h with rfl | ⟨front', hn'⟩
  · -- the zone's name would be longer than itself
    have hlen := congrArg List.length hn
    simp only [List.length_append, List.length_cons] at hlen
    omega
  · have heq : front' ++ '.' :: zone.toList = front ++ c :: zone.toList := hn'.trans hn
    -- the ends have one length, so they agree from the character before the zone's name on
    have hcons := List.append_inj_right' heq (by simp)
    exact hc (List.cons.inj hcons).1.symm

/-- A name outside the zone passes the guard exactly when it runs into the zone's name. -/
theorem runsInto_iff (zone name : String) :
    RunsInto zone name ↔ zone.toList <:+ name.toList ∧ ¬ Belongs zone name := by
  constructor
  · intro h
    exact ⟨h.suffix, fun hb => hb.not_runsInto h⟩
  · rintro ⟨hs, hb⟩
    exact ((suffix_iff zone name).1 hs).resolve_left hb

end RecordName

/-! ### What the guard keeps out -/

open RecordName

variable {σ : Type}

/-- **The guard keeps out names of other domains, but for those that run into the zone's name.**
For a reconciler bound to a zone, over any provider: a name outside the zone is skipped without a
call exactly when it does not run into the zone's name; calls are made for the names of the zone
and for those that run into it; and a run of updates with no such name among them writes nothing
but records of the zone. -/
theorem skipped_iff_not_runsInto {p : Provider (StateM σ)} {zoneName : String}
    {before after : Recorded σ} {r : Reconciler (StateM (Recorded σ))}
    (hr : Reconciler.bind p.recorded zoneName Recorded.write before = (.ok r, after)) :
    (∀ (name : String) (address : Address) (ttl : Int32) (s : σ),
      let fullName := complete name
      let run := r.update name address ttl ⟨s, [], []⟩
      ((¬ Belongs zoneName fullName →
          run.2.calls = [] ∧ run.1 = .ok (.outsideZone fullName)) ↔
        ¬ RunsInto zoneName fullName) ∧
      (run.2.calls ≠ [] ↔ Belongs zoneName fullName ∨ RunsInto zoneName fullName)) ∧
    ∀ (requests : List UpdateRequest) (s : σ),
      (∀ q ∈ requests, ¬ RunsInto zoneName (complete q.name)) →
        ∀ call ∈ (r.updateAll requests ⟨s, [], []⟩).2.calls, call.isWrite →
          ∃ name, call.place? = some (r.zone.id, name) ∧ Belongs zoneName name := by
  obtain ⟨id, rfl⟩ := Reconciler.eq_observed_of_bind p hr
  constructor
  · intro name address ttl s fullName run
    obtain ⟨calls, result, s', h⟩ :=
      exists_course p ⟨id, zoneName⟩ fullName address (effectiveTtl ttl) s
    have hcalls : run.2.calls = calls := by rw [show run = _ from h.update_eq [] []]; rfl
    have hresult : run.1 = result := by rw [show run = _ from h.update_eq [] []]
    rw [hcalls, hresult, ← suffix_iff]
    by_cases hz : zoneName.toList <:+ fullName.toList
    · have hne : calls ≠ [] := by
        rintro rfl
        simpa using h.head?_calls hz
      refine ⟨⟨fun hskip hi => ?_, fun hi hb => ?_⟩, iff_of_true hne hz⟩
      · exact hne (hskip ((runsInto_iff _ _).1 hi).2).1
      · exact absurd ((runsInto_iff _ _).2 ⟨hz, hb⟩) hi
    · obtain ⟨hnil, hout, -⟩ := h.of_not_suffix hz
      exact ⟨iff_of_true (fun _ => ⟨hnil, hout⟩) fun hi => hz hi.suffix,
        iff_of_false (fun hne => hne hnil) hz⟩
  · intro requests s hq call hcall _
    rcases mem_calls_updateAll p ⟨id, zoneName⟩ requests s [] [] call hcall with
      hc | ⟨q, hmem, hplace, hz⟩
    · simp at hc
    · exact ⟨_, hplace, ((suffix_iff _ _).1 hz).resolve_right (hq q hmem)⟩

/-- A reconciler of `example.com` on a store in memory: `host.other.org` is neither of the zone nor
runs into its name, and is skipped without a call. -/
theorem other_domain_is_skipped :
    let p := Memory.provider [("example.com", "zone-123")]
    let r := Reconciler.observed p ⟨"zone-123", "example.com"⟩
    let run := r.update "host.other.org" ⟨1, 2, 3, 4⟩ 300 ⟨{}, [], []⟩
    (Reconciler.bind p.recorded "example.com" Recorded.write ⟨{}, [], []⟩).1 = .ok r ∧
      run.2.calls = [] ∧ run.1 = .ok (.outsideZone "host.other.org") := by
  intro p r run
  have hbind : Reconciler.bind p.recorded "example.com" Recorded.write ⟨{}, [], []⟩ =
      (.ok r, (Reconciler.bind p.recorded "example.com" Recorded.write ⟨{}, [], []⟩).2) := rfl
  have hname : complete "host.other.org" = "host.other.org" := by decide
  have hskip := (skipped_iff_not_runsInto hbind).1 "host.other.org" ⟨1, 2, 3, 4⟩ 300 {}
  rw [hname] at hskip
  have hout : ¬ RunsInto "example.com" "host.other.org" := fun h => by
    have hsuffix := h.suffix
    revert hsuffix
    decide
  exact ⟨rfl, hskip.1.2 hout (by decide)⟩

/-- **A name of another domain is written.**  `notexample.com` does not belong to `example.com`,
and a reconciler of `example.com` makes a record of that name in the zone. -/
theorem foreign_name_is_written :
    let bound := ((Memory.Session.start [("example.com", "zone-123")]).step
      (.bind 0 "example.com")).2
    let report := (bound.step (.update 0 "notexample.com" "1.2.3.4" 300)).1
    ¬ Belongs "example.com" (complete "notexample.com") ∧
      report.result = .outcome (.created "notexample.com" "rec-1" ⟨1, 2, 3, 4⟩ 300) ∧
      report.counts = ⟨1, 1, 1, 0⟩ ∧
      report.records = [("zone-123", [⟨"rec-1", .a, "notexample.com", "1.2.3.4", 300⟩])] := by
  decide +kernel

end ZoneKeeper
