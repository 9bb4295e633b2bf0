/-
**What each reader reads.**

Settings, records and payloads are flat records, and so are the zones, records and messages of the
Cloudflare API.  An envelope holds messages and a result, each with a shape of its own.  Every reader
respects the shape of what it reads, so a text is read by what it spells: neither its white space nor
the order of its members nor members that are not known count, and a member that is known must not be
given twice.

Main definitions:

* `ZoneKeeper.Cloudflare.Envelope.shape` — the shape of an envelope around a result;
* `ZoneKeeper.Json.ReadsByName` — texts are read by the names of their members alone.

Main results:

* `ZoneKeeper.Cloudflare.Envelope.respects` — an envelope respects its shape if its result does;
* `ZoneKeeper.Json.Respects.readsByName` — **a reader that respects a shape reads texts by names**.
-/

import ZoneKeeper.Cloudflare.Client
import ZoneKeeper.Proofs.Json.Grammar
import ZoneKeeper.Proofs.Json.Shape

set_option autoImplicit false

namespace ZoneKeeper

open ZoneKeeper.Json ZoneKeeper.Text

/-! ### Flat records -/

theorem Settings.respects : Respects (.flat Settings.fields) Settings.ofJson? :=
  respects_flat (fun h => by simp only [Settings.ofJson?, h])
    fun h => by simp only [Settings.ofJson?, h]

theorem Record.respects : Respects (.flat Record.fields) Record.ofJson? :=
  respects_flat (fun h => by simp only [Record.ofJson?, h]) fun h => by simp only [Record.ofJson?, h]

theorem Payload.respects : Respects (.flat Payload.fields) Payload.ofJson? :=
  respects_flat (fun h => by simp only [Payload.ofJson?, h])
    fun h => by simp only [Payload.ofJson?, h]

namespace Cloudflare

theorem Message.respects : Respects (.flat Message.fields) Message.ofJson? :=
  respects_flat (fun h => by simp only [Message.ofJson?, h])
    fun h => by simp only [Message.ofJson?, h]

theorem ZoneEntry.respects : Respects (.flat ZoneEntry.fields) ZoneEntry.ofJson? :=
  respects_flat (fun h => by simp only [ZoneEntry.ofJson?, h])
    fun h => by simp only [ZoneEntry.ofJson?, h]

theorem RecordEntry.respects : Respects (.flat RecordEntry.fields) RecordEntry.ofJson? :=
  respects_flat (fun h => by simp only [RecordEntry.ofJson?, h])
    fun h => by simp only [RecordEntry.ofJson?, h]

/-! ### Envelopes -/

namespace Envelope

/-- The shapes of an envelope's fields. -/
def part (result : Shape) (name : String) : Shape :=
  if name = "errors" then .list (.flat Message.fields)
  else if name = "result" then result
  else .whole

/-- The shape of an envelope around a result. -/
def shape (result : Shape) : Shape :=
  .record Envelope.fields (part result)

variable {α : Type} {s : Shape} {read : Value → Option α}

theorem part_success : part s "success" = .whole := rfl

theorem part_errors : part s "errors" = .list (.flat Message.fields) := rfl

theorem part_result : part s "result" = s := rfl

/-- An envelope respects its shape if its result does. -/
theorem respects (hr : Respects s read) : Respects (shape s) (Envelope.ofJson? read) := by
  have hmessages := Message.respects.list
  refine ⟨fun {v v'} h => ?_, fun {v} h => ?_⟩
  · have hrel := fieldValues?_rel h
    rw [Envelope.ofJson?, Envelope.ofJson?]
    generalize fieldValues? Envelope.fields v = x at hrel ⊢
    generalize fieldValues? Envelope.fields v' = x' at hrel ⊢
    cases hrel with
    | none => rfl
    | some hedited =>
        obtain _ | ⟨hsuccess, hedited⟩ := hedited
        obtain _ | ⟨herrors, hedited⟩ := hedited
        obtain _ | ⟨hresult, hedited⟩ := hedited
        cases hedited
        rw [part_success] at hsuccess
        rw [part_errors] at herrors
        rw [part_result] at hresult
        dsimp only
        rw [respects_whole.required hsuccess, hmessages.defaulted herrors, hr.optional hresult]
  · rw [Envelope.ofJson?]
    cases hfields : fieldValues? Envelope.fields v with
    | none => rfl
    | some vs =>
        have hfaulty := fieldsFaulty_of_faulty h hfields
        rcases vs with _ | ⟨success, _ | ⟨errors, _ | ⟨result, _ | ⟨_, _⟩⟩⟩⟩
        · rfl
        · rfl
        · rfl
        · dsimp only
          obtain h | hfaulty := hfaulty
          · exact absurd h not_faulty_whole
          obtain h | hfaulty := hfaulty
          · rw [defaulted?, hmessages.faulty h]
            cases required? Value.bool? success with
            | none | some => rfl
          obtain h | hfaulty := hfaulty
          · rw [optional?, hr.nullable.faulty h]
            cases required? Value.bool? success with
            | none => rfl
            | some =>
                cases defaulted? [] (Value.list? Message.ofJson?) errors with
                | none | some => rfl
          cases hfaulty
        · rfl

end Envelope

end Cloudflare

/-! ### Texts -/

/-- Texts, given by their bytes, are read by the names of their members: what is read from a text is
read from every text that spells the same value, or one that restates it in the shape, and from a
text that spells a value with a fault in the shape nothing is read. -/
structure Json.ReadsByName {τ α : Type} (bytes : τ → List UInt8) (s : Shape) (read : τ → Option α) :
    Prop where
  restated {text : τ} {a : α} (h : read text = some a) :
    ∃ v, Spells (bytes text) v ∧ ∀ v' text', Restates s v v' → Spells (bytes text') v' →
      read text' = some a
  faulty {text : τ} {v : Value} (hv : Spells (bytes text) v) (h : Faulty s v) : read text = none

/-- **A reader that respects a shape reads texts by names.** -/
theorem Json.Respects.readsByName {τ α : Type} {s : Shape} {read : Value → Option α}
    (hr : Respects s read) (bytes : τ → List UInt8) :
    ReadsByName bytes s fun text => (read? (bytes text)).bind read := by
  refine ⟨fun {text a} h => ?_, fun hv h => ?_⟩
  · obtain ⟨v, hv, ha⟩ := Option.bind_eq_some_iff.1 h
    refine ⟨v, read?_eq_some_iff.1 hv, fun v' text' hrestates hv' => ?_⟩
    rw [read?_eq_some_iff.2 hv', Option.bind_some, ← hr.restates hrestates, ha]
  · rw [read?_eq_some_iff.2 hv, Option.bind_some, hr.faulty h]

end ZoneKeeper
