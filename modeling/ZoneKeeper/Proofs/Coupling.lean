/-
**Two runs side by side.**

Two actions on a state are coupled when, from states that are alike, they come to results that are
alike and leave states that are alike.  Coupling passes from the parts of an action to the whole,
so what two providers have in common is inherited by the reconcilers on them, whatever a reconciler
does with its provider.

A likeness may also say that two states are equal and have a property.  An action that is coupled
with itself over such a likeness keeps the property.

Main definitions:

* `ZoneKeeper.Coupled` — two actions do alike from alike states;
* `ZoneKeeper.ResultsAlike` — the same failure, or values alike;
* `ZoneKeeper.Provider.Alike`, `ZoneKeeper.Reconciler.Alike` — providers and reconcilers whose
  operations are coupled.

Main results:

* `ZoneKeeper.Coupled.bind` — what follows coupled actions in a coupled way is coupled;
* `ZoneKeeper.Reconciler.Alike.update` — **reconcilers alike bring a record to an address alike**;
* `ZoneKeeper.Provider.Alike.bind` — binding to providers alike gives reconcilers alike.
-/

import ZoneKeeper.Reconciler

set_option autoImplicit false

namespace ZoneKeeper

variable {σ α β γ δ : Type} {S : σ → σ → Prop} {R : α → β → Prop} {Q : γ → δ → Prop}

/-- From states alike, the actions come to results alike and leave states alike. -/
def Coupled (S : σ → σ → Prop) (R : α → β → Prop) (act : StateM σ α) (act' : StateM σ β) : Prop :=
  ∀ s s', S s s' → R (act s).1 (act' s').1 ∧ S (act s).2 (act' s').2

namespace Coupled

variable {act : StateM σ α} {act' : StateM σ β} {next : α → StateM σ γ} {next' : β → StateM σ δ}

theorem pure {a : α} {b : β} (h : R a b) : Coupled S R (pure a) (pure b) :=
  fun _ _ hs => ⟨h, hs⟩

/-- What follows coupled actions in a coupled way is coupled. -/
theorem bind (h : Coupled S R act act')
    (hnext : ∀ a b, R a b → Coupled S Q (next a) (next' b)) :
    Coupled S Q (act >>= next) (act' >>= next') := by
  intro s s' hs
  obtain ⟨ha, hs⟩ := h s s' hs
  exact hnext _ _ ha _ _ hs

/-- What follows in the same way on the same result is coupled. -/
theorem bind_eq {act act' : StateM σ α} {next : α → StateM σ γ} {next' : α → StateM σ δ}
    (h : Coupled S Eq act act') (hnext : ∀ a, Coupled S Q (next a) (next' a)) :
    Coupled S Q (act >>= next) (act' >>= next') :=
  h.bind fun a _ hab => hab ▸ hnext a

end Coupled

/-- The same failure, or values alike. -/
inductive ResultsAlike {ε : Type} (R : α → β → Prop) : Except ε α → Except ε β → Prop
  | error (e : ε) : ResultsAlike R (.error e) (.error e)
  | ok {a : α} {b : β} : R a b → ResultsAlike R (.ok a) (.ok b)

/-- What follows results alike in an alike way is alike. -/
theorem ResultsAlike.bind {ε : Type} {x : Except ε α} {y : Except ε β} {f : α → Except ε γ}
    {g : β → Except ε δ} (h : ResultsAlike R x y)
    (hnext : ∀ a b, R a b → ResultsAlike Q (f a) (g b)) :
    ResultsAlike Q (x >>= f) (y >>= g) := by
  cases h with
  | error e => exact .error e
  | ok hab => exact hnext _ _ hab

/-- What follows the same result in an alike way is alike. -/
theorem ResultsAlike.bind_same {ε : Type} (x : Except ε α) {f : α → Except ε γ}
    {g : α → Except ε δ} (hnext : ∀ a, ResultsAlike Q (f a) (g a)) :
    ResultsAlike Q (x >>= f) (x >>= g) := by
  cases x with
  | error e => exact .error e
  | ok a => exact hnext a

/-- A log that drops the entries below a threshold is coupled with itself if the whole log is. -/
theorem LogSink.coupled_atLevel {log : LogSink (StateM σ)}
    (hlog : ∀ entry, Coupled S Eq (log entry) (log entry)) (threshold : Level) (entry : Entry) :
    Coupled S Eq (log.atLevel threshold entry) (log.atLevel threshold entry) := by
  rw [LogSink.atLevel]
  split
  · exact hlog entry
  · exact .pure rfl

/-! ### Providers and reconcilers -/

/-- The providers do alike. -/
structure Provider.Alike (S : σ → σ → Prop) (p p' : Provider (StateM σ)) : Prop where
  name : p.name = p'.name
  resolveZone (zone : String) : Coupled S Eq (p.resolveZone zone) (p'.resolveZone zone)
  listRecords (zoneId : String) (type : RecordType) (name : String) :
    Coupled S Eq (p.listRecords zoneId type name) (p'.listRecords zoneId type name)
  createRecord (zoneId : String) (payload : Payload) :
    Coupled S Eq (p.createRecord zoneId payload) (p'.createRecord zoneId payload)
  updateRecord (zoneId recordId : String) (payload : Payload) :
    Coupled S Eq (p.updateRecord zoneId recordId payload) (p'.updateRecord zoneId recordId payload)

/-- The reconcilers do alike: they manage the same zone, on providers alike, with logs alike. -/
structure Reconciler.Alike (S : σ → σ → Prop) (r r' : Reconciler (StateM σ)) : Prop where
  provider : r.provider.Alike S r'.provider
  zone : r.zone = r'.zone
  log (entry : Entry) : Coupled S Eq (r.log entry) (r'.log entry)

/-- A round trip to providers alike. -/
theorem Provider.Alike.perform {p p' : Provider (StateM σ)} (h : p.Alike S p') (call : Call) :
    Coupled S Eq (p.perform call) (p'.perform call) := by
  cases call with
  | resolveZone zone => exact (h.resolveZone zone).bind_eq fun _ => .pure rfl
  | listRecords zoneId type name =>
      exact (h.listRecords zoneId type name).bind_eq fun _ => .pure rfl
  | createRecord zoneId payload => exact (h.createRecord zoneId payload).bind_eq fun _ => .pure rfl
  | updateRecord zoneId recordId payload =>
      exact (h.updateRecord zoneId recordId payload).bind_eq fun _ => .pure rfl

/-- Binding to providers alike gives reconcilers alike, or fails in the same way. -/
theorem Provider.Alike.bind {p p' : Provider (StateM σ)} (h : p.Alike S p') (zoneName : String)
    {log log' : LogSink (StateM σ)} (hlog : ∀ entry, Coupled S Eq (log entry) (log' entry)) :
    Coupled S (ResultsAlike (Reconciler.Alike S)) (Reconciler.bind p zoneName log)
      (Reconciler.bind p' zoneName log') := by
  rw [Reconciler.bind, Reconciler.bind]
  cases DomainName.fault? zoneName with
  | some fault => exact .pure (.error _)
  | none =>
      refine (h.resolveZone zoneName).bind_eq fun answer => ?_
      cases answer with
      | error e => exact .pure (.error _)
      | ok id =>
          rw [h.name]
          exact (hlog _).bind_eq fun _ => .pure (.ok ⟨h, rfl, hlog⟩)

namespace Reconciler.Alike

variable {r r' : Reconciler (StateM σ)} (h : Reconciler.Alike S r r')

include h

theorem inspect : r.inspect = r'.inspect := by
  rw [Reconciler.inspect, Reconciler.inspect, h.provider.name, h.zone]

theorem finish (outcome : Outcome) : Coupled S Eq (r.finish outcome) (r'.finish outcome) := by
  rw [Reconciler.finish, Reconciler.finish, h.zone]
  exact (h.log _).bind_eq fun _ => .pure rfl

theorem createRecord (name : String) (address : Address) (ttl : UInt32) :
    Coupled S Eq (r.createRecord name address ttl) (r'.createRecord name address ttl) := by
  rw [Reconciler.createRecord, Reconciler.createRecord, h.zone]
  refine (h.provider.createRecord _ _).bind_eq fun answer => ?_
  cases answer with
  | error e => exact .pure rfl
  | ok record => exact h.finish _

theorem settleRecord (existing : Record) (name : String) (address : Address) (ttl : UInt32) :
    Coupled S Eq (r.settleRecord existing name address ttl)
      (r'.settleRecord existing name address ttl) := by
  rw [Reconciler.settleRecord, Reconciler.settleRecord, h.zone]
  by_cases hcontent : existing.content = address.text
  · rw [if_pos hcontent, if_pos hcontent]
    exact h.finish _
  · rw [if_neg hcontent, if_neg hcontent]
    refine (h.provider.updateRecord _ _ _).bind_eq fun answer => ?_
    cases answer with
    | error e => exact .pure rfl
    | ok record => exact h.finish _

theorem updateInZone (name : String) (address : Address) (ttl : UInt32) :
    Coupled S Eq (r.updateInZone name address ttl) (r'.updateInZone name address ttl) := by
  rw [Reconciler.updateInZone, Reconciler.updateInZone, h.zone]
  refine (h.provider.listRecords _ _ _).bind_eq fun answer => ?_
  rcases answer with e | _ | ⟨existing, rest⟩
  · exact .pure rfl
  · exact h.createRecord name address ttl
  · exact h.settleRecord existing name address ttl

/-- **Reconcilers alike bring a record to an address alike.** -/
theorem update (name : String) (address : Address) (ttl : Int32) :
    Coupled S Eq (r.update name address ttl) (r'.update name address ttl) := by
  rw [Reconciler.update, Reconciler.update, h.zone]
  by_cases hzone : RecordName.inZone r'.zone.name (RecordName.complete name) = true
  · rw [if_pos hzone, if_pos hzone]
    exact h.updateInZone _ address _
  · rw [if_neg hzone, if_neg hzone]
    exact h.finish _

end Reconciler.Alike

end ZoneKeeper
