/-
**Updates of distinct names commute.**

Two updates of one store meet in what they share: the records of a zone, the counts, and the number
of ids handed out.  What an update decides, though, it decides from the armed operation and from the
records of its own name, and where no two records of a zone have one id, an update leaves those of
other names alone.  So the second of two updates of distinct names decides as it would have decided
first, and the two changes are made to different records.  What depends on the order is only which
of two new records comes first, and the ids that they get.

A new record may have an id that a stored one has already.  It stands behind that one, so that the
stored record is still the one that is found by the id.

Main definitions:

* `ZoneKeeper.Memory.Verdict`, `ZoneKeeper.Memory.verdict` — what an update decides, from the armed
  operation and the records of its name;
* `ZoneKeeper.Memory.CarriedOut` — a store is changed as a verdict says;
* `ZoneKeeper.Memory.SameButNewIds` — two stores after the same updates in two orders.

Main results:

* `ZoneKeeper.Memory.revise_comm` — records with distinct ids are replaced in either order;
* `ZoneKeeper.Memory.Effect.carriedOut` — an update carries its verdict out;
* `ZoneKeeper.Memory.CarriedOut.records_trans` — the records after one verdict and another;
* `ZoneKeeper.Memory.updates_of_distinct_names_commute` — **updates of distinct names commute**, up
  to the ids and the order of the records that they make.
-/

import Mathlib.Data.List.Perm.Basic
import ZoneKeeper.Proofs.Memory.Frame

set_option autoImplicit false

namespace ZoneKeeper

/-- The record without its id. -/
def Record.payload (r : Record) : Payload :=
  ⟨r.type, r.name, r.content, r.ttl⟩

namespace Memory

/-! ### Replacing records one after the other -/

/-- The records with the first one of the new record's id replaced by it, if there is a new record
and one of its id. -/
def revise : Option Record → List Record → List Record
  | none, rs => rs
  | some new, rs => (replaceFirst new.id new rs).getD rs

theorem revise_cons (new r : Record) (rs : List Record) :
    revise (some new) (r :: rs) =
      if r.id = new.id then new :: rs else r :: revise (some new) rs := by
  rw [revise, revise, replaceFirst]
  split
  · rfl
  · cases replaceFirst new.id new rs with
    | none => rfl
    | some rs' => rfl

theorem map_id_revise (change : Option Record) (rs : List Record) :
    (revise change rs).map Record.id = rs.map Record.id := by
  cases change with
  | none => rfl
  | some new =>
      rw [revise]
      cases h : replaceFirst new.id new rs with
      | none => rfl
      | some rs' => exact map_id_of_replaceFirst rfl h

/-- Records behind one that has the id are not reached, whatever their ids are. -/
theorem revise_append {change : Option Record} {rs : List Record}
    (h : ∀ new ∈ change, new.id ∈ rs.map Record.id) (more : List Record) :
    revise change (rs ++ more) = revise change rs ++ more := by
  cases change with
  | none => rfl
  | some new =>
      replace h : new.id ∈ rs.map Record.id := h new rfl
      induction rs with
      | nil => cases h
      | cons r rs ih =>
          rw [List.cons_append, revise_cons, revise_cons]
          by_cases hr : r.id = new.id
          · rw [if_pos hr, if_pos hr, List.cons_append]
          · have hmem := (List.mem_cons.1 h).resolve_left (Ne.symm hr)
            rw [if_neg hr, if_neg hr, ih hmem, List.cons_append]

/-- **Records with distinct ids are replaced in either order.** -/
theorem revise_comm {change change' : Option Record}
    (h : ∀ new ∈ change, ∀ new' ∈ change', new.id ≠ new'.id) (rs : List Record) :
    revise change' (revise change rs) = revise change (revise change' rs) := by
  cases change with
  | none => rfl
  | some new =>
      cases change' with
      | none => rfl
      | some new' =>
          replace h : new.id ≠ new'.id := h new rfl new' rfl
          induction rs with
          | nil => rfl
          | cons r rs ih =>
              rw [revise_cons, revise_cons]
              by_cases hr : r.id = new.id
              · have hr' : r.id ≠ new'.id := fun hr' => h (hr.symm.trans hr')
                rw [if_pos hr, if_neg hr', revise_cons, if_neg h, revise_cons, if_pos hr]
              · by_cases hr' : r.id = new'.id
                · rw [if_neg hr, if_pos hr', revise_cons, if_pos hr', revise_cons,
                    if_neg (Ne.symm h)]
                · rw [if_neg hr, if_neg hr', revise_cons, if_neg hr', revise_cons, if_neg hr, ih]

/-! ### Verdicts -/

/-- What an update decides. -/
structure Verdict where
  /-- The operations that it calls, in order. -/
  calls : List Operation
  /-- The record that takes the place of the one with its id. -/
  replacement : Option Record
  /-- The result, with no id where a record is made. -/
  result : Except Error Outcome

/-- What an update decides about the records of its name. -/
def settlement (name : String) (address : Address) (ttl : UInt32) (armed : Option Operation) :
    List Record → Verdict
  | [] =>
      ⟨[.fetch, .create], none,
        if armed = some .create then .error ((injectedFailure .create).during .create name)
        else .ok (.created name "" address ttl)⟩
  | first :: _ =>
      if first.content = address.text then
        ⟨[.fetch], none, .ok (.unchanged name address)⟩
      else if armed = some .update then
        ⟨[.fetch, .update], none, .error ((injectedFailure .update).during .update name)⟩
      else
        ⟨[.fetch, .update], some ⟨first.id, .a, name, address.text, ttl⟩,
          .ok (.updated name first.id first.content address ttl)⟩

/-- What an update decides, from the armed operation and the records of its name. -/
def verdict (zone : Zone) (name : String) (address : Address) (ttl : UInt32)
    (armed : Option Operation) (found : List Record) : Verdict :=
  if RecordName.inZone zone.name name then
    if armed = some .fetch then
      ⟨[.fetch], none, .error ((injectedFailure .fetch).during .fetch name)⟩
    else settlement name address ttl armed found
  else ⟨[], none, .ok (.outsideZone name)⟩

/-- The record that is replaced in a zone. -/
def Verdict.replacementIn (v : Verdict) (zone : Zone) (z : String) : Option Record :=
  if z = zone.id then v.replacement else none

/-- The records that an update in a zone makes there. -/
def madeIn (zone : Zone) (result : Except Error Outcome) (z : String) : List Record :=
  if z = zone.id then recordsMade result else []

/-- The result without the id of a record that was made. -/
def withoutNewId (result : Except Error Outcome) : Except Error Outcome :=
  result.map (Outcome.withCreatedId "")

/-- Results that are the same without the id of a new record tell of the same new records, up to
their ids. -/
theorem payloads_recordsMade {result result' : Except Error Outcome}
    (h : withoutNewId result = withoutNewId result') :
    (recordsMade result).map Record.payload = (recordsMade result').map Record.payload := by
  have hpayload : ∀ result : Except Error Outcome,
      (recordsMade (withoutNewId result)).map Record.payload =
        (recordsMade result).map Record.payload := by
    intro result
    cases result with
    | error e => rfl
    | ok o =>
        cases o with
        | _ => rfl
  rw [← hpayload result, h, hpayload result']

/-- A store is changed as a verdict says. -/
structure CarriedOut (zone : Zone) (name : String) (v : Verdict) (s : Store)
    (result : Except Error Outcome) (s' : Store) : Prop where
  result_eq : withoutNewId result = v.result
  counts_eq : s'.counts = v.calls.foldl CallCounts.add s.counts
  failOn_eq : s'.failOn = s.failOn
  issued_eq : s'.issued = s.issued + (recordsMade result).length
  /-- A record is replaced in its place, and one that is made is put at the end. -/
  records_eq : ∀ z,
    s'.records z = revise (v.replacementIn zone z) (s.records z) ++ madeIn zone result z
  /-- A record that is replaced has the name. -/
  replaced : ∀ new ∈ v.replacement, ∃ old ∈ s.named zone.id name, old.id = new.id
  /-- So does a record that is made. -/
  made : ∀ r ∈ recordsMade result, r.name = name

/-- A verdict that changes no record is carried out by counting its calls. -/
theorem CarriedOut.of_records {zone : Zone} {name : String} {v : Verdict} {s s' : Store}
    (hcounts : s'.counts = v.calls.foldl CallCounts.add s.counts) (hfail : s'.failOn = s.failOn)
    (hissued : s'.issued = s.issued) (hrecords : s'.records = s.records)
    (hmade : recordsMade v.result = []) (hreplacement : v.replacement = none)
    (hresult : withoutNewId v.result = v.result) :
    CarriedOut zone name v s v.result s' where
  result_eq := hresult
  counts_eq := hcounts
  failOn_eq := hfail
  issued_eq := by rw [hmade, hissued]; rfl
  records_eq := by
    intro z
    rw [hrecords, Verdict.replacementIn, hreplacement, madeIn, hmade, ite_self, ite_self, revise,
      List.append_nil]
  replaced := by
    intro new hnew
    rw [hreplacement] at hnew
    cases hnew
  made := by
    intro r hr
    rw [hmade] at hr
    cases hr

/-- **An update carries its verdict out.** -/
theorem Effect.carriedOut {zone : Zone} {name : String} {address : Address} {ttl : UInt32}
    {s s' : Store} {result : Except Error Outcome} (h : Effect zone name address ttl s result s') :
    CarriedOut zone name (verdict zone name address ttl s.failOn (s.named zone.id name)) s result
      s' := by
  cases h with
  | outsideZone hz =>
      have hi : ¬ RecordName.inZone zone.name name = true := by rwa [RecordName.inZone_iff]
      rw [verdict, if_neg hi]
      exact .of_records rfl rfl rfl rfl rfl rfl rfl
  | lookupFailed hz hf =>
      rw [verdict, if_pos ((RecordName.inZone_iff _ _).2 hz), if_pos hf]
      exact .of_records rfl rfl rfl rfl rfl rfl rfl
  | unchanged hz hf hnamed hc =>
      rw [verdict, if_pos ((RecordName.inZone_iff _ _).2 hz), if_neg hf, hnamed, settlement,
        if_pos hc]
      exact .of_records rfl rfl rfl rfl rfl rfl rfl
  | updateFailed hz hf hnamed hc =>
      have hfetch : s.failOn ≠ some .fetch := by rw [hf]; nofun
      rw [verdict, if_pos ((RecordName.inZone_iff _ _).2 hz), if_neg hfetch, hnamed, settlement,
        if_neg hc, if_pos hf]
      exact .of_records rfl rfl rfl rfl rfl rfl rfl
  | createFailed hz hf hnamed =>
      have hfetch : s.failOn ≠ some .fetch := by rw [hf]; nofun
      rw [verdict, if_pos ((RecordName.inZone_iff _ _).2 hz), if_neg hfetch, hnamed, settlement,
        if_pos hf]
      exact .of_records rfl rfl rfl rfl rfl rfl rfl
  | @updated first rest rs hz hf hf' hnamed hc hrs =>
      rw [verdict, if_pos ((RecordName.inZone_iff _ _).2 hz), if_neg hf, hnamed, settlement,
        if_neg hc, if_neg hf']
      refine ⟨rfl, rfl, rfl, rfl, fun z => ?_, ?_, nofun⟩
      · rw [Store.records_setRecords, Verdict.replacementIn, madeIn]
        split
        · next hz => rw [revise, hz, hrs]; exact (List.append_nil rs).symm
        · exact (List.append_nil _).symm
      · rintro _ ⟨⟩
        exact ⟨first, hnamed ▸ List.mem_cons_self, rfl⟩
  | created hz hf hf' hnamed =>
      rw [verdict, if_pos ((RecordName.inZone_iff _ _).2 hz), if_neg hf, hnamed, settlement,
        if_neg hf']
      refine ⟨rfl, rfl, rfl, rfl, fun z => ?_, nofun, fun r hr => ?_⟩
      · change (Store.insert _ zone.id _).records z = _
        rw [Store.insert, Store.records_setRecords, Verdict.replacementIn, madeIn, ite_self]
        split
        · next hz => rw [hz]; rfl
        · exact (List.append_nil _).symm
      · obtain rfl := List.mem_singleton.1 hr
        rfl

/-- **An update decides as if one of another name had not been made before it.** -/
theorem Effect.carriedOut_after {zone₁ zone₂ : Zone} {name₁ name₂ : String}
    {address₁ address₂ : Address} {ttl₁ ttl₂ : UInt32} {s s₁ t : Store}
    {result₁ result₂ : Except Error Outcome}
    (h₁ : Effect zone₁ name₁ address₁ ttl₁ s result₁ s₁)
    (h₂ : Effect zone₂ name₂ address₂ ttl₂ s₁ result₂ t)
    (hids : s.HasDistinctIds) (hnames : name₂ ≠ name₁) :
    CarriedOut zone₂ name₂
      (verdict zone₂ name₂ address₂ ttl₂ s.failOn (s.named zone₂.id name₂)) s₁ result₂ t := by
  have hnamed : s₁.named zone₂.id name₂ = s.named zone₂.id name₂ :=
    h₁.leavesOthers hids _ _ fun h => hnames (Prod.mk.inj h).2
  have h := h₂.carriedOut
  rwa [h₁.carriedOut.failOn_eq, hnamed] at h

/-! ### One verdict and another -/

/-- The counts after some calls do not depend on their order. -/
instance : RightCommutative CallCounts.add where
  right_comm c op op' := by
    cases op with
    | _ =>
        cases op' with
        | _ => rfl

/-- Two stores that come from one are the same but for the ids and the order of the records that
were made, `made` for the one store and `made'` for the other. -/
structure SameButNewIds (s : Store) (made : String → List Record) (t : Store)
    (made' : String → List Record) (t' : Store) : Prop where
  counts_eq : t.counts = t'.counts
  issued_eq : t.issued = t'.issued
  failOn_eq : t.failOn = t'.failOn
  /-- In front there are the stored records, the same in both. -/
  records_eq : ∀ z, ∃ kept, kept.map Record.id = (s.records z).map Record.id ∧
    t.records z = kept ++ made z ∧ t'.records z = kept ++ made' z
  /-- Behind them are the same new records, up to their ids and their order. -/
  made_perm : ∀ z, ((made z).map Record.payload).Perm ((made' z).map Record.payload)
  /-- Under each name they are in the same order, too. -/
  named_eq : ∀ z name, ∃ kept,
    t.named z name = kept ++ (made z).filter (fun r => r.name == name) ∧
      t'.named z name = kept ++ (made' z).filter (fun r => r.name == name) ∧
      ((made z).filter fun r => r.name == name).map Record.payload =
        ((made' z).filter fun r => r.name == name).map Record.payload

/-- Payloads of two names are in one order under each of them, whichever come first. -/
theorem filter_append_comm {ps₁ ps₂ : List Payload} {name₁ name₂ : String} (hnames : name₁ ≠ name₂)
    (h₁ : ∀ p ∈ ps₁, p.name = name₁) (h₂ : ∀ p ∈ ps₂, p.name = name₂) (name : String) :
    (ps₁ ++ ps₂).filter (fun p => p.name == name) =
      (ps₂ ++ ps₁).filter fun p => p.name == name := by
  have hnil : ∀ {ps : List Payload} {other : String}, (∀ p ∈ ps, p.name = other) → other ≠ name →
      ps.filter (fun p => p.name == name) = [] := by
    intro ps other h hother
    exact List.filter_eq_nil_iff.2 fun p hp => by simpa [h p hp] using hother
  rw [List.filter_append, List.filter_append]
  by_cases hname : name₁ = name
  · rw [hnil h₂ (hname ▸ hnames.symm), List.append_nil, List.nil_append]
  · rw [hnil h₁ hname, List.append_nil, List.nil_append]

namespace CarriedOut

section

variable {zone : Zone} {name : String} {v : Verdict} {s s' : Store} {result : Except Error Outcome}

/-- A record that is replaced is found by its name as well as by its id. -/
theorem exists_of_mem_replacementIn (h : CarriedOut zone name v s result s') {z : String}
    {new : Record} (hnew : new ∈ v.replacementIn zone z) :
    ∃ old ∈ s.records z, old.name = name ∧ old.id = new.id := by
  rw [Verdict.replacementIn] at hnew
  split at hnew
  · next hz =>
      obtain ⟨old, hold, hid⟩ := h.replaced new hnew
      obtain ⟨hmem, hname⟩ := List.mem_filter.1 hold
      exact ⟨old, hz ▸ hmem, eq_of_beq hname, hid⟩
  · cases hnew

theorem name_of_mem_madeIn (h : CarriedOut zone name v s result s') {z : String} {p : Payload}
    (hp : p ∈ (madeIn zone result z).map Record.payload) : p.name = name := by
  obtain ⟨r, hr, rfl⟩ := List.mem_map.1 hp
  rw [madeIn] at hr
  split at hr
  · exact h.made r hr
  · cases hr

end

variable {zone₁ zone₂ : Zone} {name₁ name₂ : String} {v₁ v₂ : Verdict} {s s₁ s₂ t t' : Store}
  {result₁ result₂ result₁' result₂' : Except Error Outcome}

/-- **The records after one verdict and another.**  The second replaces a record that was there
before the first, and so does not reach what the first has made. -/
theorem records_trans (h₁ : CarriedOut zone₁ name₁ v₁ s result₁ s₁)
    (h₂ : CarriedOut zone₂ name₂ v₂ s₁ result₂ t)
    (h₂' : CarriedOut zone₂ name₂ v₂ s result₂' s₂) (z : String) :
    t.records z =
      revise (v₂.replacementIn zone₂ z) (revise (v₁.replacementIn zone₁ z) (s.records z)) ++
        (madeIn zone₁ result₁ z ++ madeIn zone₂ result₂ z) := by
  rw [h₂.records_eq, h₁.records_eq, revise_append, List.append_assoc]
  intro new hnew
  obtain ⟨old, hold, -, hid⟩ := h₂'.exists_of_mem_replacementIn hnew
  rw [map_id_revise]
  exact hid ▸ List.mem_map_of_mem hold

/-- Verdicts on two names replace records of two ids. -/
theorem replacements_ne (h₁ : CarriedOut zone₁ name₁ v₁ s result₁ s₁)
    (h₂ : CarriedOut zone₂ name₂ v₂ s result₂ s₂) (hids : s.HasDistinctIds)
    (hnames : name₁ ≠ name₂) (z : String) :
    ∀ new₁ ∈ v₁.replacementIn zone₁ z, ∀ new₂ ∈ v₂.replacementIn zone₂ z, new₁.id ≠ new₂.id := by
  intro new₁ hnew₁ new₂ hnew₂ hid
  obtain ⟨old₁, hold₁, hname₁, hid₁⟩ := h₁.exists_of_mem_replacementIn hnew₁
  obtain ⟨old₂, hold₂, hname₂, hid₂⟩ := h₂.exists_of_mem_replacementIn hnew₂
  have hsame : old₁ = old₂ :=
    List.inj_on_of_nodup_map (hids z) hold₁ hold₂ (hid₁.trans (hid.trans hid₂.symm))
  exact hnames (hname₁.symm.trans ((congrArg Record.name hsame).trans hname₂))

/-- The results of one verdict are the same but for the id of a record that was made. -/
theorem result_unique {zone : Zone} {name : String} {v : Verdict}
    {result result' : Except Error Outcome} (h : CarriedOut zone name v s result s₁)
    (h' : CarriedOut zone name v s₂ result' t) : withoutNewId result = withoutNewId result' :=
  h.result_eq.trans h'.result_eq.symm

/-- The records that one verdict makes are the same but for their ids. -/
theorem payloads_madeIn {zone : Zone} {name : String} {v : Verdict}
    {result result' : Except Error Outcome} (h : CarriedOut zone name v s result s₁)
    (h' : CarriedOut zone name v s₂ result' t) (z : String) :
    (madeIn zone result z).map Record.payload = (madeIn zone result' z).map Record.payload := by
  rw [madeIn, madeIn]
  split
  · exact payloads_recordsMade (h.result_unique h')
  · rfl

/-- In either order, the records that there were come to the same. -/
theorem exists_kept (h₁ : CarriedOut zone₁ name₁ v₁ s result₁ s₁)
    (h₂ : CarriedOut zone₂ name₂ v₂ s₁ result₂ t)
    (h₂' : CarriedOut zone₂ name₂ v₂ s result₂' s₂)
    (h₁' : CarriedOut zone₁ name₁ v₁ s₂ result₁' t')
    (hids : s.HasDistinctIds) (hnames : name₁ ≠ name₂) (z : String) :
    ∃ kept, kept.map Record.id = (s.records z).map Record.id ∧
      t.records z = kept ++ (madeIn zone₁ result₁ z ++ madeIn zone₂ result₂ z) ∧
      t'.records z = kept ++ (madeIn zone₂ result₂' z ++ madeIn zone₁ result₁' z) := by
  refine ⟨_, ?_, h₁.records_trans h₂ h₂' z, ?_⟩
  · rw [map_id_revise, map_id_revise]
  · rw [h₂'.records_trans h₁' h₁ z, revise_comm (h₁.replacements_ne h₂' hids hnames z)]

/-- **Two verdicts on distinct names come to the same in either order.** -/
theorem comm (h₁ : CarriedOut zone₁ name₁ v₁ s result₁ s₁)
    (h₂ : CarriedOut zone₂ name₂ v₂ s₁ result₂ t)
    (h₂' : CarriedOut zone₂ name₂ v₂ s result₂' s₂)
    (h₁' : CarriedOut zone₁ name₁ v₁ s₂ result₁' t')
    (hids : s.HasDistinctIds) (hnames : name₁ ≠ name₂) :
    SameButNewIds s (fun z => madeIn zone₁ result₁ z ++ madeIn zone₂ result₂ z) t
      (fun z => madeIn zone₂ result₂' z ++ madeIn zone₁ result₁' z) t' := by
  have hkept := h₁.exists_kept h₂ h₂' h₁' hids hnames
  have hmade₁ := h₁.payloads_madeIn h₁'
  have hmade₂ := h₂.payloads_madeIn h₂'
  refine ⟨?_, ?_, ?_, hkept, fun z => ?_, fun z name => ?_⟩
  · rw [h₂.counts_eq, h₁.counts_eq, h₁'.counts_eq, h₂'.counts_eq, ← List.foldl_append,
      ← List.foldl_append]
    exact List.perm_append_comm.foldl_eq _
  · have hlength₁ := congrArg List.length (payloads_recordsMade (h₁.result_unique h₁'))
    have hlength₂ := congrArg List.length (payloads_recordsMade (h₂.result_unique h₂'))
    rw [List.length_map, List.length_map] at hlength₁ hlength₂
    rw [h₂.issued_eq, h₁.issued_eq, h₁'.issued_eq, h₂'.issued_eq]
    omega
  · rw [h₂.failOn_eq, h₁.failOn_eq, h₁'.failOn_eq, h₂'.failOn_eq]
  · rw [List.map_append, List.map_append, hmade₁, hmade₂]
    exact List.perm_append_comm
  · obtain ⟨kept, -, ht, ht'⟩ := hkept z
    refine ⟨kept.filter fun r => r.name == name, ?_, ?_, ?_⟩
    · rw [Store.named, ht, List.filter_append]
    · rw [Store.named, ht', List.filter_append]
    · -- a payload has the name of its record
      have hfilter : ∀ rs : List Record, (rs.filter fun r => r.name == name).map Record.payload =
          (rs.map Record.payload).filter fun p => p.name == name := by
        intro rs
        rw [List.filter_map]
        rfl
      rw [hfilter, hfilter, List.map_append, List.map_append, ← hmade₁, ← hmade₂]
      exact filter_append_comm hnames (fun p => h₁.name_of_mem_madeIn)
        (fun p => h₂.name_of_mem_madeIn) name

end CarriedOut

/-! ### Two updates in either order -/

/-- An update through a reconciler of a handle: its result, and the store after it. -/
def updateFrom (zones : ZoneTable) (zone : Zone) (q : UpdateRequest) (s : Store) :
    Except Error Outcome × Store :=
  let run := (Reconciler.observed (provider zones) zone).update q.name q.address q.ttl ⟨s, [], []⟩
  (run.1, run.2.state)

theorem effect_updateFrom (zones : ZoneTable) (zone : Zone) (q : UpdateRequest) (s : Store) :
    Effect zone (RecordName.complete q.name) q.address (effectiveTtl q.ttl) s
      (updateFrom zones zone q s).1 (updateFrom zones zone q s).2 := by
  obtain ⟨calls, result, s', h⟩ := exists_course (provider zones) zone (RecordName.complete q.name)
    q.address (effectiveTtl q.ttl) s
  rw [updateFrom, h.update_eq [] []]
  exact effect_of_course _ _ _ _ _ h

/-- **Updates of distinct names commute.**  From any store in which no two records of a zone have
one id, whatever is armed to fail, two updates of distinct full names, through any two reconcilers,
come to the same in either order: each has the same result but for the id of a record that it made,
and the stores are the same but for the ids and the order of the records that were made. -/
theorem updates_of_distinct_names_commute (zones₁ zones₂ : ZoneTable) (zone₁ zone₂ : Zone)
    (q₁ q₂ : UpdateRequest) (s : Store) (hids : s.HasDistinctIds)
    (hnames : RecordName.complete q₁.name ≠ RecordName.complete q₂.name) :
    let first := updateFrom zones₁ zone₁ q₁ s
    let second := updateFrom zones₂ zone₂ q₂ first.2
    let first' := updateFrom zones₂ zone₂ q₂ s
    let second' := updateFrom zones₁ zone₁ q₁ first'.2
    withoutNewId first.1 = withoutNewId second'.1 ∧
      withoutNewId second.1 = withoutNewId first'.1 ∧
      SameButNewIds s
        (fun z => madeIn zone₁ first.1 z ++ madeIn zone₂ second.1 z) second.2
        (fun z => madeIn zone₂ first'.1 z ++ madeIn zone₁ second'.1 z) second'.2 := by
  intro first second first' second'
  have he₁ := effect_updateFrom zones₁ zone₁ q₁ s
  have he₂ := effect_updateFrom zones₂ zone₂ q₂ s
  have h₁ := he₁.carriedOut
  have h₂ := he₁.carriedOut_after (effect_updateFrom zones₂ zone₂ q₂ first.2) hids hnames.symm
  have h₂' := he₂.carriedOut
  have h₁' := he₂.carriedOut_after (effect_updateFrom zones₁ zone₁ q₁ first'.2) hids hnames
  exact ⟨h₁.result_unique h₁', h₂.result_unique h₂', h₁.comm h₂ h₂' h₁' hids hnames⟩

/-- Two records are made behind one that has the first new id.  Each update makes the record with
that id if it comes first, and the stored record is left alone in both orders. -/
theorem new_ids_depend_on_the_order :
    let mail : Record := ⟨"rec-1", .a, "mail.example.com", "192.0.2.1", 60⟩
    let s : Store := ({} : Store).setRecords "zone-123" [mail]
    let zone : Zone := ⟨"zone-123", "example.com"⟩
    let www : UpdateRequest := ⟨"www.example.com", ⟨1, 2, 3, 4⟩, 300⟩
    let api : UpdateRequest := ⟨"api.example.com", ⟨5, 6, 7, 8⟩, 300⟩
    let first := updateFrom [] zone www s
    let second := updateFrom [] zone api first.2
    let first' := updateFrom [] zone api s
    let second' := updateFrom [] zone www first'.2
    s.HasDistinctIds ∧
      withoutNewId first.1 = withoutNewId second'.1 ∧ first.1 ≠ second'.1 ∧
      second.2.counts = second'.2.counts ∧
      second.2.records "zone-123" =
        [mail, ⟨"rec-1", .a, "www.example.com", "1.2.3.4", 300⟩,
          ⟨"rec-2", .a, "api.example.com", "5.6.7.8", 300⟩] ∧
      second'.2.records "zone-123" =
        [mail, ⟨"rec-1", .a, "api.example.com", "5.6.7.8", 300⟩,
          ⟨"rec-2", .a, "www.example.com", "1.2.3.4", 300⟩] := by
  intro mail s zone www api first second first' second'
  have hids : s.HasDistinctIds := by
    intro zoneId
    rw [Store.records_setRecords]
    split
    · exact List.nodup_singleton _
    · exact List.nodup_nil
  have hnames : RecordName.complete www.name ≠ RecordName.complete api.name := by decide +kernel
  obtain ⟨hresult, -, hstores⟩ :=
    updates_of_distinct_names_commute [] [] zone zone www api s hids hnames
  exact ⟨hids, hresult, by decide +kernel, hstores.counts_eq, by decide +kernel, by decide +kernel⟩

end Memory

end ZoneKeeper
