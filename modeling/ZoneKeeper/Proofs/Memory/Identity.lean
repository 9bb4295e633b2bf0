/-
**Records are known by their ids.**

A record that is replaced is found by its id, so a store is only sound to write to if no two
records of a zone have one id.  Ids come from two sides: whoever puts a record into a zone chooses
its id, and a record that is created gets the next id of the store.  Each side can keep the ids
distinct on its own, but the store does not look at the ids that were chosen, and hands out the
next one even if a record of the zone has it already.

Main definitions:

* `ZoneKeeper.Memory.Session.Identified` — no two records of a zone have one id;
* `ZoneKeeper.Memory.Session.SeedsFreshId` — a record that a step puts into a zone has a new id;
* `ZoneKeeper.Memory.Session.HandsOutTakenId` — a step creates a record under an id that the zone
  has;
* `ZoneKeeper.Memory.Session.SeedsPastId` — a record that a step puts into a zone has no id that
  the store still hands out.

Main results:

* `ZoneKeeper.Memory.Session.identified_step_iff` — a step keeps the ids distinct exactly when the
  one that it adds is new;
* `ZoneKeeper.Memory.identified_iff_no_taken_id` — **the ids of a session stay distinct exactly as
  long as no taken id is handed out**, which is so if no record is put in under a later id;
* `ZoneKeeper.Memory.created_record_shares_id` — a session in which a taken id is handed out, and
  a record of another name is lost.
-/

import Mathlib.Order.Basic
import ZoneKeeper.Proofs.Memory.Advance

set_option autoImplicit false

namespace ZoneKeeper.Memory

namespace Session

/-- No two records of a zone have one id. -/
def Identified (s : Session) : Prop :=
  ∀ zoneId, (s.ids zoneId).Nodup

/-- A record that the step puts into a zone has an id that no record of the zone has. -/
def SeedsFreshId (s : Session) : Step → Prop
  | .insertRecord zoneId r => r.id ∉ s.ids zoneId
  | _ => True

/-- A record that the step puts into a zone has no id that the store has yet to hand out. -/
def SeedsPastId (s : Session) : Step → Prop
  | .insertRecord _ r => ∀ n, s.store.issued < n → r.id ≠ recordId n
  | _ => True

/-- The step creates a record in a zone under an id that a record of the zone has. -/
def HandsOutTakenId (s : Session) (x : Step) : Prop :=
  ∃ zoneId id, s.handsOut? x (s.step x).1.result = some (zoneId, id) ∧ id ∈ s.ids zoneId

instance (s : Session) (x : Step) : Decidable (s.SeedsFreshId x) :=
  match x with
  | .insertRecord zoneId r => inferInstanceAs (Decidable (r.id ∉ s.ids zoneId))
  | .clone _ | .withZone _ _ _ | .failOn _ | .clearFailure | .call _ _ | .providerName _
  | .bind _ _ | .update _ _ _ _ => isTrue trivial

/-! ### One step -/

/-- A step keeps the ids distinct exactly when the one that it adds, if any, is new. -/
theorem identified_step_iff {s : Session} (hs : s.Sound) (hid : s.Identified) (x : Step) :
    (s.step x).2.Identified ↔
      ∀ zoneId id, s.adds? x (s.step x).1.result = some (zoneId, id) → id ∉ s.ids zoneId := by
  have hids := (hs.advance x).ids_eq
  cases hadds : s.adds? x (s.step x).1.result with
  | none =>
      refine iff_of_true (fun zoneId => ?_) fun zoneId id h => nomatch h
      rw [hids, hadds]
      simpa [inZone] using hid zoneId
  | some added =>
      obtain ⟨zone, id⟩ := added
      constructor
      · intro h zoneId id' he
        obtain ⟨rfl, rfl⟩ := Prod.mk.inj (Option.some.inj he)
        have hnodup := h zone
        rw [hids, hadds, inZone, Option.filter_some, if_pos (decide_eq_true rfl)] at hnodup
        exact fun hmem => (List.nodup_append.1 hnodup).2.2 id hmem id (List.mem_singleton_self id) rfl
      · intro h zoneId
        rw [hids, hadds]
        by_cases hz : zone = zoneId
        · subst hz
          simpa [inZone, Option.filter, List.nodup_append] using
            ⟨hid zone, fun a ha hae => h zone id rfl (hae ▸ ha)⟩
        · simpa [inZone, Option.filter, hz] using hid zoneId

/-- Where a record that is put in has a new id, only an id that is handed out can be taken. -/
theorem identified_step_iff_not_handsOutTakenId {s : Session} (hs : s.Sound) (hid : s.Identified)
    {x : Step} (hx : s.SeedsFreshId x) :
    (s.step x).2.Identified ↔ ¬ s.HandsOutTakenId x := by
  rw [identified_step_iff hs hid]
  constructor
  · rintro h ⟨zoneId, id, ho, hmem⟩
    refine h zoneId id ?_ hmem
    cases x with
    | insertRecord _ _ => cases ho
    | _ => exact ho
  · intro h zoneId id hadds hmem
    cases x with
    | insertRecord z r =>
        obtain ⟨rfl, rfl⟩ := Prod.mk.inj (Option.some.inj hadds)
        exact hx hmem
    | _ => exact h ⟨zoneId, id, hadds, hmem⟩

/-- No record has an id that the store has yet to hand out. -/
def HasPastIds (s : Session) : Prop :=
  ∀ zoneId, ∀ id ∈ s.ids zoneId, ∀ n, s.store.issued < n → id ≠ recordId n

/-- A session whose records have past ids hands out an id that no record has, and the records have
past ids after the step. -/
theorem HasPastIds.step {s : Session} (h : s.HasPastIds) (hs : s.Sound) {x : Step}
    (hx : s.SeedsPastId x) : ¬ s.HandsOutTakenId x ∧ (s.step x).2.HasPastIds := by
  have ha := hs.advance x
  have hissued := ha.handsOut?_eq
  constructor
  · rintro ⟨zoneId, id, ho, hmem⟩
    rcases hissued with ⟨hnone, -⟩ | ⟨z, hsome, -⟩
    · exact nomatch hnone.symm.trans ho
    · obtain ⟨-, rfl⟩ := Prod.mk.inj (Option.some.inj (hsome.symm.trans ho))
      exact h zoneId _ hmem _ (Nat.lt_succ_self _) rfl
  · intro zoneId id hmem n hn
    have hle : s.store.issued ≤ (s.step x).2.store.issued := by
      rcases hissued with ⟨-, he⟩ | ⟨z, -, he⟩ <;> omega
    rw [ha.ids_eq] at hmem
    rcases List.mem_append.1 hmem with hmem | hmem
    · exact h zoneId id hmem n (by omega)
    · obtain ⟨⟨z, id'⟩, hadded, rfl⟩ := List.mem_map.1 hmem
      have hadds : s.adds? x (s.step x).1.result = some (z, id') :=
        (Option.filter_eq_some_iff.1 (Option.mem_toList.1 hadded)).1
      cases x with
      | insertRecord zone r =>
          obtain ⟨rfl, rfl⟩ := Prod.mk.inj (Option.some.inj hadds)
          exact hx n (by omega)
      | _ =>
          -- the id was handed out by this step, so later ones have greater numbers
          rcases hissued with ⟨hnone, -⟩ | ⟨z', hsome, he⟩
          · exact nomatch hnone.symm.trans hadds
          · obtain ⟨-, rfl⟩ := Prod.mk.inj (Option.some.inj (hsome.symm.trans hadds))
            intro heq
            have := eq_of_recordId_eq heq
            omega

end Session

/-! ### Runs -/

open Session

/-- **The ids of a session stay distinct exactly as long as no taken id is handed out.**  In any
run from the start in which each record that is put into a zone has an id that is new there, the
ids of every zone are distinct after every step exactly when no step creates a record under an id
that its zone has; no step does so if no record is put in under an id that the store has yet to
hand out; and as long as the ids are distinct, an id leads to one record and replacing it changes
no other. -/
theorem identified_iff_no_taken_id (zones : List (String × String))
    (xs : List (Option String × Step)) (hxs : (Session.start zones).Along SeedsFreshId xs) :
    let start := Session.start zones
    (start.Along (fun s x => (s.step x).2.Identified) xs ↔
        start.Along (fun s x => ¬ s.HandsOutTakenId x) xs) ∧
      (start.Along SeedsPastId xs → start.Along (fun s x => ¬ s.HandsOutTakenId x) xs) ∧
      ∀ s : Session, s.Identified → ∀ (zoneId id : String) (new : Record) (rs : List Record),
        replaceFirst id new (s.store.records zoneId) = some rs →
          rs = (s.store.records zoneId).map fun r => if r.id = id then new else r := by
  intro start
  have hstart : start.Sound ∧ start.Identified :=
    ⟨Session.Sound.start zones, fun _ => List.nodup_nil⟩
  have hsound : ∀ {s : Session} (x : Step), s.Sound → (s.step x).2.Sound :=
    fun x hs => (hs.advance x).sound hs
  refine ⟨⟨fun h => ?_, fun h => ?_⟩, fun h => ?_, fun s hs zoneId id new rs hrs => ?_⟩
  · refine along_of (I := fun s => s.Sound ∧ s.Identified) (fun s watched hs => hs) ?_ hstart
      (along_and hxs h)
    rintro s x ⟨hs, hid⟩ ⟨hx, hnext⟩
    exact ⟨(identified_step_iff_not_handsOutTakenId hs hid hx).1 hnext, hsound x hs, hnext⟩
  · refine along_of (I := fun s => s.Sound ∧ s.Identified) (fun s watched hs => hs) ?_ hstart
      (along_and hxs h)
    rintro s x ⟨hs, hid⟩ ⟨hx, hfree⟩
    have hnext := (identified_step_iff_not_handsOutTakenId hs hid hx).2 hfree
    exact ⟨hnext, hsound x hs, hnext⟩
  · refine along_of (I := fun s => s.Sound ∧ s.HasPastIds) (fun s watched hs => hs) ?_
      ⟨hstart.1, fun _ _ hid => nomatch hid⟩ h
    rintro s x ⟨hs, hpast⟩ hx
    obtain ⟨hfree, hnext⟩ := hpast.step hs hx
    exact ⟨hfree, hsound x hs, hnext⟩
  · exact eq_map_of_replaceFirst (hs zoneId) hrs

/-- A record is put in beside created ones, in one zone under an id that looks like a created one
but is already past, and in another under one of its own: all ids stay distinct. -/
theorem identified_with_past_seed :
    let xs : List (Option String × Step) :=
      [(none, .bind 0 "example.com"), (none, .update 0 "www.example.com" "192.0.2.1" 300),
        (none, .insertRecord "zone-456" ⟨"rec-1", .a, "mail.example.org", "192.0.2.2", 60⟩),
        (none, .insertRecord "zone-123" ⟨"seed-1", .a, "mail.example.com", "192.0.2.3", 60⟩),
        (none, .call 0 (.createRecord "zone-123" ⟨.a, "ftp.example.com", "192.0.2.4", 60⟩))]
    let start := Session.start [("example.com", "zone-123")]
    start.Along SeedsFreshId xs ∧ start.Along (fun s x => (s.step x).2.Identified) xs ∧
      (start.run xs).2.ids "zone-123" = ["rec-1", "seed-1", "rec-2"] := by
  intro xs start
  have hfresh : start.Along SeedsFreshId xs := by decide +kernel
  have hpast : start.Along SeedsPastId xs := by
    refine ⟨trivial, trivial, fun n hn heq => ?_, fun n hn heq => ?_, trivial, trivial⟩
    · have hissued : (start.run (xs.take 2)).2.store.issued = 1 := by decide +kernel
      have hlater : 1 < n := hissued.symm.trans_lt hn
      have hone : 1 = n := eq_of_recordId_eq heq
      omega
    · have hhead := congrArg (fun text => text.toList.head?) heq
      simp [recordId, String.toList_append] at hhead
  obtain ⟨hiff, hfree, -⟩ := identified_iff_no_taken_id [("example.com", "zone-123")] xs hfresh
  exact ⟨hfresh, hiff.2 (hfree hpast), by decide +kernel⟩

/-- **A taken id is handed out, and a record of another name is lost.**  The zone has a record
`rec-1` of `mail.example.com`; the record that is then created for `www.example.com` gets the same
id, and the next update of `www.example.com` replaces the record of `mail.example.com`. -/
theorem created_record_shares_id :
    let seed : Record := ⟨"rec-1", .a, "mail.example.com", "192.0.2.1", 60⟩
    let start := Session.start [("example.com", "zone-123")]
    let xs : List (Option String × Step) :=
      [(none, .insertRecord "zone-123" seed), (none, .bind 0 "example.com"),
        (none, .update 0 "www.example.com" "1.2.3.4" 300)]
    let s := (start.run xs).2
    let next := s.step (.update 0 "www.example.com" "1.2.3.5" 300)
    start.Along SeedsFreshId xs ∧
      s.store.records "zone-123" = [seed, ⟨"rec-1", .a, "www.example.com", "1.2.3.4", 300⟩] ∧
      ¬ s.Identified ∧
      next.1.result =
        .outcome (.updated "www.example.com" "rec-1" "1.2.3.4" ⟨1, 2, 3, 5⟩ 300) ∧
      next.2.store.records "zone-123" =
        [⟨"rec-1", .a, "www.example.com", "1.2.3.5", 300⟩,
          ⟨"rec-1", .a, "www.example.com", "1.2.3.4", 300⟩] := by
  intro seed start xs s next
  have hids : s.ids "zone-123" = ["rec-1", "rec-1"] := by decide +kernel
  refine ⟨by decide +kernel, by decide +kernel, fun h => ?_, by decide +kernel,
    by decide +kernel⟩
  have hnodup := h "zone-123"
  rw [hids] at hnodup
  exact absurd hnodup (by decide)

end ZoneKeeper.Memory
