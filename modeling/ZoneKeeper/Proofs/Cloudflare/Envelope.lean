/-
**What an envelope is read from.**

An envelope is read from three members of an object and a message from two, whatever else the object
holds.  An envelope that reports a failure tells its messages in two of them.  The third, the result,
has no part in the report, but it has to be one that could be read: the envelope is read as a whole.

Main definitions:

* `ZoneKeeper.Cloudflare.Tells` — an item of the envelope's list tells a message;
* `ZoneKeeper.Cloudflare.ReportsFailure` — an object reports a failure with messages;
* `ZoneKeeper.Cloudflare.Decodes` — the rest of the object does not keep it from being read.

Main results:

* `ZoneKeeper.Cloudflare.Message.ofJson?_object_eq_some_iff` — a message is read exactly where one is
  told;
* `ZoneKeeper.Cloudflare.Envelope.ofJson?_object_eq_some_iff` — what an envelope is read from;
* `ZoneKeeper.Cloudflare.ReportsFailure.ofJson?_isSome_iff`,
  `ZoneKeeper.Cloudflare.ReportsFailure.eq_of_ofJson?` — **when a reported failure is read, and as
  what**.
-/

import ZoneKeeper.Cloudflare.Envelope
import ZoneKeeper.Proofs.Json.Fields

set_option autoImplicit false

namespace ZoneKeeper.Cloudflare

open ZoneKeeper.Json

/-! ### Messages -/

/-- The item tells a message: it is an object with the text, and with a code of 64 bits or none, for
which zero stands. -/
inductive Tells : Value → Message → Prop
  | plain {members : List (Option String × Value)} {text : String}
      (hcode : given members "code" = [])
      (htext : given members "message" = [.string (some text)]) :
      Tells (.object members) ⟨0, text⟩
  | coded {members : List (Option String × Value)} {v : Value} {code : Int} {text : String}
      (hcode : given members "code" = [v]) (hvalue : v.int64? = some code)
      (htext : given members "message" = [.string (some text)]) :
      Tells (.object members) ⟨code, text⟩

theorem Tells.unique {v : Value} {m m' : Message} (h : Tells v m) (h' : Tells v m') : m = m' := by
  cases h with
  | plain hcode htext =>
      cases h' with
      | plain hcode' htext' =>
          rw [htext] at htext'
          cases htext'
          rfl
      | coded hcode' hvalue' htext' => cases hcode.symm.trans hcode'
  | coded hcode hvalue htext =>
      cases h' with
      | plain hcode' htext' => cases hcode.symm.trans hcode'
      | coded hcode' hvalue' htext' =>
          rw [hcode] at hcode'
          rw [htext] at htext'
          cases hcode'
          cases htext'
          rw [Option.some.inj (hvalue.symm.trans hvalue')]

/-- The members that a message is read from. -/
theorem Message.ofJson?_object_eq_some_iff {members : List (Option String × Value)} {m : Message} :
    Message.ofJson? (.object members) = some m ↔
      HasTextKeys members ∧ ∃ code text : Option Value, given members "code" = code.toList ∧
        given members "message" = text.toList ∧ defaulted? 0 Value.int64? code = some m.code ∧
        required? Value.text? text = some m.text := by
  rw [Message.ofJson?]
  constructor
  · intro h
    split at h
    · next code text hfields =>
        obtain ⟨hkeys, hvalues⟩ := fieldValues?_object_eq_some_iff.1 hfields
        rw [Message.fields, List.forall₂_cons, List.forall₂_cons] at hvalues
        obtain ⟨c, hc, h⟩ := Option.bind_eq_some_iff.1 h
        obtain ⟨t, ht, h⟩ := Option.bind_eq_some_iff.1 h
        cases h
        exact ⟨hkeys, code, text, hvalues.1, hvalues.2.1, hc, ht⟩
    · cases h
  · rintro ⟨hkeys, code, text, hcode, htext, hc, ht⟩
    have hfields : fieldValues? Message.fields (.object members) = some [code, text] :=
      fieldValues?_object_eq_some_iff.2 ⟨hkeys, .cons hcode (.cons htext .nil)⟩
    rw [hfields]
    dsimp only
    rw [hc, ht]
    rfl

/-- A message is read exactly where one is told. -/
theorem Message.ofJson?_object_eq_some_iff_tells {members : List (Option String × Value)}
    {m : Message} :
    Message.ofJson? (.object members) = some m ↔
      HasTextKeys members ∧ Tells (.object members) m := by
  rw [Message.ofJson?_object_eq_some_iff]
  refine and_congr_right fun _ => ⟨?_, fun h => ?_⟩
  · rintro ⟨code, text, hcode, htext, hc, ht⟩
    obtain ⟨c, t⟩ := m
    cases text with
    | none => cases ht
    | some v =>
        rw [Value.text?_eq_some_iff.1 ht] at htext
        cases code with
        | none =>
            cases hc
            exact .plain hcode htext
        | some v => exact .coded hcode hc htext
  · cases h with
    | plain hcode htext => exact ⟨none, some _, hcode, htext, rfl, rfl⟩
    | coded hcode hvalue htext => exact ⟨some _, some _, hcode, htext, hvalue, rfl⟩

theorem Tells.exists_members {v : Value} {m : Message} (h : Tells v m) :
    ∃ members, v = .object members := by
  cases h with
  | plain | coded => exact ⟨_, rfl⟩

/-- Told messages are read where the keys of their items are texts. -/
theorem mapM_ofJson?_of_tells {items : List Value} {messages found : List Message}
    (h : List.Forall₂ Tells items messages) :
    items.mapM Message.ofJson? = some found ↔
      (∀ members, .object members ∈ items → HasTextKeys members) ∧ found = messages := by
  rw [mapM_eq_some_iff]
  induction h generalizing found with
  | nil => simp
  | cons htells hrest ih =>
      obtain ⟨members, rfl⟩ := htells.exists_members
      rw [List.forall₂_cons_left_iff]
      constructor
      · rintro ⟨m, rest, hm, hread, rfl⟩
        obtain ⟨hkeys, htells'⟩ := Message.ofJson?_object_eq_some_iff_tells.1 hm
        obtain ⟨hrestKeys, rfl⟩ := ih.1 hread
        refine ⟨fun members' hmem => ?_, by rw [htells.unique htells']⟩
        rcases List.mem_cons.1 hmem with hfirst | hmem
        · cases hfirst
          exact hkeys
        · exact hrestKeys members' hmem
      · rintro ⟨hkeys, rfl⟩
        have hfirst := hkeys members List.mem_cons_self
        refine ⟨_, _, Message.ofJson?_object_eq_some_iff_tells.2 ⟨hfirst, htells⟩, ih.2 ⟨?_, rfl⟩, rfl⟩
        intro members' hmem
        exact hkeys members' (List.mem_cons_of_mem _ hmem)

/-! ### Envelopes -/

/-- The members that an envelope is read from. -/
theorem Envelope.ofJson?_object_eq_some_iff {α : Type} {read : Value → Option α}
    {members : List (Option String × Value)} {e : Envelope α} :
    Envelope.ofJson? read (.object members) = some e ↔
      HasTextKeys members ∧ ∃ success errors result : Option Value,
        given members "success" = success.toList ∧ given members "errors" = errors.toList ∧
        given members "result" = result.toList ∧
        required? Value.bool? success = some e.success ∧
        defaulted? [] (Value.list? Message.ofJson?) errors = some e.errors ∧
        optional? read result = some e.result := by
  rw [Envelope.ofJson?]
  constructor
  · intro h
    split at h
    · next success errors result hfields =>
        obtain ⟨hkeys, hvalues⟩ := fieldValues?_object_eq_some_iff.1 hfields
        rw [Envelope.fields, List.forall₂_cons, List.forall₂_cons, List.forall₂_cons] at hvalues
        obtain ⟨s, hs, h⟩ := Option.bind_eq_some_iff.1 h
        obtain ⟨es, hes, h⟩ := Option.bind_eq_some_iff.1 h
        obtain ⟨r, hr, h⟩ := Option.bind_eq_some_iff.1 h
        cases h
        exact ⟨hkeys, success, errors, result, hvalues.1, hvalues.2.1, hvalues.2.2.1, hs, hes, hr⟩
    · cases h
  · rintro ⟨hkeys, success, errors, result, hsuccess, herrors, hresult, hs, hes, hr⟩
    have hfields : fieldValues? Envelope.fields (.object members) =
        some [success, errors, result] :=
      fieldValues?_object_eq_some_iff.2 ⟨hkeys, .cons hsuccess (.cons herrors (.cons hresult .nil))⟩
    rw [hfields]
    dsimp only
    rw [hs, hes, hr]
    rfl

/-! ### Reports of a failure -/

/-- The object reports a failure with messages. -/
structure ReportsFailure (members : List (Option String × Value)) (messages : List Message) :
    Prop where
  success : given members "success" = [.bool false]
  errors : ∃ items, given members "errors" = [.array items] ∧ List.Forall₂ Tells items messages

/-- The values given for a result are none, a null, or one that can be read. -/
inductive Accepts {α : Type} (read : Value → Option α) : List Value → Prop
  | missing : Accepts read []
  | null : Accepts read [.null]
  | value {v : Value} {a : α} (h : read v = some a) : Accepts read [v]

/-- Nothing else in the object keeps it from being read: all keys are texts, those of the messages as
well, and the result can be read if there is one. -/
structure Decodes {α : Type} (read : Value → Option α) (members : List (Option String × Value)) :
    Prop where
  keys : HasTextKeys members
  itemKeys : ∀ items item, .array items ∈ given members "errors" → .object item ∈ items →
    HasTextKeys item
  result : Accepts read (given members "result")

section

variable {α : Type} {read : Value → Option α}

theorem accepts_iff {vs : List Value} :
    Accepts read vs ↔ ∃ result : Option Value, vs = result.toList ∧
      ∃ a, optional? read result = some a := by
  constructor
  · intro h
    cases h with
    | missing => exact ⟨none, rfl, none, rfl⟩
    | null => exact ⟨some .null, rfl, none, rfl⟩
    | @value v a h =>
        refine ⟨some v, rfl, ?_⟩
        cases v with
        | null => exact ⟨none, rfl⟩
        | _ => exact ⟨some a, congrArg (Option.map some) h⟩
  · rintro ⟨result, rfl, a, ha⟩
    cases result with
    | none => exact .missing
    | some v =>
        cases v with
        | null => exact .null
        | _ =>
            obtain ⟨b, hb, -⟩ := Option.map_eq_some_iff.1 ha
            exact .value hb

variable {members : List (Option String × Value)} {messages : List Message}
  (h : ReportsFailure members messages)

include h

/-- A reported failure is read as what it reports. -/
theorem ReportsFailure.eq_of_ofJson? {e : Envelope α}
    (he : Envelope.ofJson? read (.object members) = some e) :
    e.success = false ∧ e.errors = messages ∧ Decodes read members := by
  obtain ⟨hkeys, success, errors, result, hsuccess, herrors, hresult, hs, hes, hr⟩ :=
    Envelope.ofJson?_object_eq_some_iff.1 he
  obtain ⟨items, hitems, htells⟩ := h.errors
  rw [h.success] at hsuccess
  rw [hitems] at herrors
  cases success with
  | none => cases hsuccess
  | some v =>
  cases errors with
  | none => cases herrors
  | some w =>
  cases hsuccess
  cases herrors
  obtain ⟨hitemKeys, hmessages⟩ := (mapM_ofJson?_of_tells htells).1 hes
  refine ⟨(Option.some.inj hs).symm, hmessages, hkeys, ?_, accepts_iff.2 ⟨result, hresult, _, hr⟩⟩
  intro items' item hmem hitem
  rw [hitems, List.mem_singleton] at hmem
  cases hmem
  exact hitemKeys item hitem

/-- When a reported failure is read. -/
theorem ReportsFailure.ofJson?_isSome_iff :
    (Envelope.ofJson? read (.object members)).isSome = true ↔ Decodes read members := by
  rw [Option.isSome_iff_exists]
  constructor
  · rintro ⟨e, he⟩
    exact (h.eq_of_ofJson? he).2.2
  · intro hdecodes
    obtain ⟨items, hitems, htells⟩ := h.errors
    obtain ⟨result, hresult, a, ha⟩ := accepts_iff.1 hdecodes.result
    have hread : items.mapM Message.ofJson? = some messages := by
      refine (mapM_ofJson?_of_tells htells).2 ⟨fun item hitem => ?_, rfl⟩
      exact hdecodes.itemKeys items item (by rw [hitems]; exact List.mem_singleton_self _) hitem
    exact ⟨⟨false, messages, a⟩, Envelope.ofJson?_object_eq_some_iff.2
      ⟨hdecodes.keys, some (.bool false), some (.array items), result, h.success, hitems, hresult,
        rfl, hread, ha⟩⟩

end

end ZoneKeeper.Cloudflare
