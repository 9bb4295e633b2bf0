/-
**Updates converge.**

An update that answers an outcome, other than that the name is outside the zone, tells the truth:
the next lookup of the name finds first a record with the address, and it is the one that the
outcome reports.  This holds for every content of a store, in particular where several records
have one name or one id.  From then on the same update has nothing to do, whatever fails in
between.

Main definitions:

* `ZoneKeeper.Outcome.written?` — what an outcome reports as written;
* `ZoneKeeper.Memory.Settled` — a lookup of the name finds first a record with the address;
* `ZoneKeeper.Memory.Session.Repeats` — the steps that repeat an update, or arm a failure.

Main results:

* `ZoneKeeper.Memory.Effect.settled` — after an outcome the name is settled;
* `ZoneKeeper.Memory.Settled.effect` — an update of a settled name is one lookup;
* `ZoneKeeper.Memory.update_converges` — **a successful update is true and final**.
-/

import ZoneKeeper.Proofs.Memory.Run

set_option autoImplicit false

namespace ZoneKeeper

/-- The id and the time to live of the record that an outcome reports as written. -/
def Outcome.written? : Outcome → Option (String × UInt32)
  | .updated _ id _ _ ttl => some (id, ttl)
  | .created _ id _ ttl => some (id, ttl)
  | _ => none

namespace Memory

/-! ### Settled names -/

/-- The name is in the zone, and the first record of it has the address. -/
def Settled (zone : Zone) (name : String) (address : Address) (s : Store) : Prop :=
  zone.name.toList <:+ name.toList ∧
    ∃ first rest, s.named zone.id name = first :: rest ∧ first.content = address.text

/-- Only the records matter. -/
theorem Settled.of_records {zone : Zone} {name : String} {address : Address} {s t : Store}
    (h : Settled zone name address s) (ht : t.records = s.records) :
    Settled zone name address t := by
  rw [Settled, Store.named, ht]
  exact h

section

variable {zone : Zone} {name : String} {address : Address} {ttl : UInt32} {s s' : Store}

/-- **After an outcome the name is settled**, by the record that the outcome reports. -/
theorem Effect.settled {o : Outcome} (h : Effect zone name address ttl s (.ok o) s')
    (ho : ∀ n, o ≠ .outsideZone n) :
    zone.name.toList <:+ name.toList ∧ s'.failOn ≠ some .fetch ∧
      ∃ first rest, s'.named zone.id name = first :: rest ∧ first.content = address.text ∧
        ∀ w, o.written? = some w → (first.id, first.ttl) = w := by
  cases h with
  | outsideZone _ => exact absurd rfl (ho name)
  | @unchanged first rest hz hf hnamed hc =>
      exact ⟨hz, hf, first, rest, hnamed, hc, fun w hw => nomatch hw⟩
  | @updated first rest rs hz hf _ hnamed _ hrs =>
      obtain ⟨rest', hrest'⟩ := filter_of_replaceFirst (fun r => r.name == name)
        (beq_self_eq_true name) hnamed hrs
      refine ⟨hz, hf, ⟨first.id, .a, name, address.text, ttl⟩, rest', ?_, rfl,
        fun w hw => Option.some.inj hw⟩
      rw [Store.named, Store.setRecords_records_self, hrest']
  | created hz hf _ hnamed =>
      -- there was no record of the name, so the one at the end of the zone is the first
      let new : Record := ⟨recordId (s.issued + 1), .a, name, address.text, ttl⟩
      refine ⟨hz, hf, new, [], ?_, rfl, fun w hw => Option.some.inj hw⟩
      exact (Store.named_insert _ zone.id new).trans (congrArg (· ++ [new]) hnamed)

/-- **An update of a settled name is one lookup**: nothing else is called and no record changes,
and the outcome says so unless the lookup fails. -/
theorem Settled.effect (hs : Settled zone name address s) {result : Except Error Outcome}
    (h : Effect zone name address ttl s result s') :
    s' = s.count .fetch ∧
      (s.failOn ≠ some .fetch → result = .ok (.unchanged name address)) := by
  obtain ⟨hz, first, rest, hnamed, hc⟩ := hs
  cases h with
  | outsideZone hz' => exact absurd hz hz'
  | lookupFailed _ hf => exact ⟨rfl, fun hf' => absurd hf hf'⟩
  | unchanged _ _ _ _ => exact ⟨rfl, fun _ => rfl⟩
  | updateFailed _ _ hnamed' hc' | updated _ _ _ hnamed' hc' _ =>
      -- the first record has the address, so it is not replaced
      obtain ⟨rfl, rfl⟩ := List.cons.inj (hnamed.symm.trans hnamed')
      exact absurd hc hc'
  | createFailed _ _ hnamed' | created _ _ _ hnamed' => cases hnamed.symm.trans hnamed'

end

/-! ### Repetitions -/

/-- The step is an update. -/
def Step.isUpdate : Step → Bool
  | .update _ _ _ _ => true
  | _ => false

namespace Session

/-- The steps that bring the record to the address once more, through any reconciler of the zone
and with any time to live, and those that arm an operation to fail or let none fail. -/
inductive Repeats (s : Session) (zone : Zone) (fullName : String) (address : Address) :
    Step → Prop
  | update {r : Nat} {zones : ZoneTable} {name text : String} (ttl : Int32) :
      s.reconcilers[r]? = some (Reconciler.observed (provider zones) zone) →
      RecordName.complete name = fullName → Address.parse? text = some address →
      Repeats s zone fullName address (.update r name text ttl)
  | failOn (op : Operation) : Repeats s zone fullName address (.failOn op)
  | clearFailure : Repeats s zone fullName address .clearFailure

/-- What repetitions leave of a session: all but the count of lookups and what is armed. -/
structure Unmoved (s : Session) (lookups : Nat) (t : Session) : Prop where
  reconcilers : t.reconcilers = s.reconcilers
  records : t.store.records = s.store.records
  issued : t.store.issued = s.store.issued
  counts : t.store.counts = { s.store.counts with list := s.store.counts.list + lookups }

variable {s t : Session} {zone : Zone} {fullName : String} {address : Address} {lookups : Nat}

/-- A repetition makes one lookup if it is an update, and says that nothing had to be done unless
the lookup is armed to fail. -/
theorem Unmoved.step (h : s.Unmoved lookups t) (hs : Settled zone fullName address s.store)
    {x : Step} (hx : s.Repeats zone fullName address x) :
    s.Unmoved (lookups + if x.isUpdate then 1 else 0) (t.step x).2 ∧
      (x.isUpdate → t.store.failOn ≠ some .fetch →
        (t.step x).1.result = .outcome (.unchanged fullName address)) := by
  cases hx with
  | @update r zones name text ttl hr hn ha =>
      subst hn
      obtain ⟨result, store, he, hresult, hafter⟩ :=
        step_update (h.reconcilers.symm ▸ hr) ha name ttl
      obtain ⟨rfl, hok⟩ := (hs.of_records h.records).effect he
      rw [hresult, hafter]
      refine ⟨⟨h.reconcilers, h.records, h.issued, ?_⟩, fun _ hf => ?_⟩
      · change t.store.counts.add .fetch = _
        rw [h.counts]
        rfl
      · rw [hok hf]
        rfl
  | failOn op => exact ⟨⟨h.reconcilers, h.records, h.issued, h.counts⟩, fun hx => nomatch hx⟩
  | clearFailure => exact ⟨⟨h.reconcilers, h.records, h.issued, h.counts⟩, fun hx => nomatch hx⟩

/-- A run of repetitions makes as many lookups as it has updates. -/
theorem unmoved_run (hs : Settled zone fullName address s.store)
    (xs : List (Option String × Step)) (hxs : ∀ x ∈ xs, s.Repeats zone fullName address x.2) :
    s.Unmoved ((xs.map Prod.snd).countP Step.isUpdate) (s.run xs).2 := by
  have hrun := run_induction
    (P := fun past t => s.Unmoved ((past.map Prod.fst).countP Step.isUpdate) t)
    (fun past t watched h => ⟨h.reconcilers, h.records, h.issued, h.counts⟩)
    (fun past t x hx h => by
      rw [List.map_append, List.countP_append, List.map_singleton, List.countP_singleton]
      exact (h.step hs hx).1)
    xs hxs [] s ⟨rfl, rfl, rfl, rfl⟩
  rwa [List.nil_append, map_fst_history] at hrun

end Session

/-! ### Convergence -/

/-- **A successful update is true and final.**  If an update answers an outcome, other than that
the name is outside the zone, then a lookup finds first a record with the address, with the id and
the time to live that the outcome reports as written.  After any further steps that repeat the
update, through any reconciler of the zone and with any time to live, and between them arm
operations to fail or let none fail, the records and the number of ids handed out are what they
were, there was one lookup for each update and no other call, and the next such update finds
nothing to do unless the lookup is armed to fail. -/
theorem update_converges {s : Session} {r : Nat} {zones : ZoneTable} {zone : Zone}
    {name text : String} {address : Address} {ttl : Int32} {o : Outcome}
    (hr : s.reconcilers[r]? = some (Reconciler.observed (provider zones) zone))
    (ha : Address.parse? text = some address)
    (ho : (s.step (.update r name text ttl)).1.result = .outcome o)
    (hz : ∀ n, o ≠ .outsideZone n) :
    let fullName := RecordName.complete name
    let after := (s.step (.update r name text ttl)).2
    (∃ first rest,
      (Store.listRecords zone.id .a fullName after.store).1 = .ok (first :: rest) ∧
        first.content = address.text ∧ ∀ w, o.written? = some w → (first.id, first.ttl) = w) ∧
    ∀ xs : List (Option String × Step), (∀ x ∈ xs, after.Repeats zone fullName address x.2) →
      let later := (after.run xs).2
      later.store.records = after.store.records ∧ later.store.issued = after.store.issued ∧
        later.store.counts = { after.store.counts with
          list := after.store.counts.list + (xs.map Prod.snd).countP Step.isUpdate } ∧
        ∀ x, after.Repeats zone fullName address x → x.isUpdate →
          later.store.failOn ≠ some .fetch →
          (later.step x).1.result = .outcome (.unchanged fullName address) := by
  intro fullName after
  obtain ⟨result, store, he, hresult, hafter⟩ := Session.step_update hr ha name ttl
  obtain rfl : result = .ok o := Result.eq_ok_of_ofUpdate (hresult.symm.trans ho)
  obtain ⟨hsuffix, hf, first, rest, hnamed, hc, hw⟩ := he.settled hz
  have hstore : after.store = store := congrArg Session.store hafter
  have hsettled : Settled zone fullName address after.store :=
    hstore ▸ ⟨hsuffix, first, rest, hnamed, hc⟩
  refine ⟨⟨first, rest, ?_, hc, hw⟩, fun xs hxs => ?_⟩
  · rw [hstore, Store.listRecords_eq, if_neg hf, hnamed]
  · have hun := Session.unmoved_run hsettled xs hxs
    exact ⟨hun.records, hun.issued, hun.counts, fun x hx => (hun.step hsettled hx).2⟩

/-- Three records of which two share an id and two a name.  The lookup finds the second record; its
id is that of the first one, of another name, which is rewritten.  The name is settled all the same:
every further update finds the rewritten record first. -/
theorem update_converges_with_shared_id :
    let zone : Zone := ⟨"zone-123", "example.com"⟩
    let records : List Record :=
      [⟨"rec-1", .a, "mail.example.com", "192.0.2.1", 60⟩,
        ⟨"rec-1", .a, "www.example.com", "192.0.2.2", 60⟩,
        ⟨"rec-2", .a, "www.example.com", "192.0.2.3", 60⟩]
    let s : Session :=
      { store := ({} : Store).setRecords "zone-123" records
        reconcilers := [Reconciler.observed (provider []) zone] }
    let first := s.step (.update 0 "www.example.com" "1.2.3.4" 300)
    first.1.result =
        .outcome (.updated "www.example.com" "rec-1" "192.0.2.2" ⟨1, 2, 3, 4⟩ 300) ∧
      ∀ ttl, (first.2.step (.update 0 "www.example.com" "1.2.3.4" ttl)).1.result =
        .outcome (.unchanged "www.example.com" ⟨1, 2, 3, 4⟩) := by
  intro zone records s first
  have hr : s.reconcilers[0]? = some (Reconciler.observed (provider []) zone) := rfl
  have ha : Address.parse? "1.2.3.4" = some ⟨1, 2, 3, 4⟩ := by decide +kernel
  have ho : first.1.result =
      .outcome (.updated "www.example.com" "rec-1" "192.0.2.2" ⟨1, 2, 3, 4⟩ 300) := by
    decide +kernel
  refine ⟨ho, fun ttl => ?_⟩
  have hfinal := (update_converges hr ha ho (fun n hn => nomatch hn)).2 [] (fun x hx => nomatch hx)
  obtain ⟨_, _, _, _, hafter⟩ := Session.step_update hr ha "www.example.com" 300
  have hr' : first.2.reconcilers[0]? = some (Reconciler.observed (provider []) zone) :=
    (congrArg (fun t : Session => t.reconcilers[0]?) hafter).trans hr
  exact hfinal.2.2.2 _ (.update ttl hr' (by decide) ha) rfl (by decide +kernel)

end Memory

end ZoneKeeper
