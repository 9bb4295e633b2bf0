/-
**Which texts are read, and as which values.**

A value stands for the words of its text: the words of its parts in order, with brackets around them
and commas between.  Reading goes through the words once and keeps a stack of what is open.  The
stack and what may come next account for every word that was taken, so that the value at the end has
exactly the words of the text; and the words of a value make that value wherever one may stand.
Together with the words that a text falls into this says of every text whether it is read, without
mention of the reading.

Main definitions:

* `ZoneKeeper.Json.Value.tokens` — the words of a value;
* `ZoneKeeper.Json.Spells` — a text spells a value;
* `ZoneKeeper.Json.ReadState.Taken` — the words that a state of the reading was reached with.

Main results:

* `ZoneKeeper.Json.Value.induction` — induction on the parts of a value;
* `ZoneKeeper.Json.valueOfTokens?_eq_some_iff` — the words of a value, and no others, make it;
* `ZoneKeeper.Json.read?_eq_some_iff` — **a text is read as a value exactly if it spells it**.
-/

import ZoneKeeper.Proofs.Json.Lexemes
import ZoneKeeper.Proofs.Json.RoundTrip

set_option autoImplicit false

namespace ZoneKeeper.Json

open ReadState

/-! ### The words of a value -/

mutual

/-- The words of a value. -/
def Value.tokens : Value → List Token
  | .null => [.null]
  | .bool b => [.bool b]
  | .number numeral => [.number numeral]
  | .string text => [.string text]
  | .array items =>
      .openBracket :: ([Token.comma].intercalate (itemTokens items) ++ [.closeBracket])
  | .object members =>
      .openBrace :: ([Token.comma].intercalate (memberTokens members) ++ [.closeBrace])

/-- The words of each item of an array. -/
def itemTokens : List Value → List (List Token)
  | [] => []
  | v :: vs => v.tokens :: itemTokens vs

/-- The words of each member of an object. -/
def memberTokens : List (Option String × Value) → List (List Token)
  | [] => []
  | (key, v) :: ms => (.string key :: .colon :: v.tokens) :: memberTokens ms

end

/-- The words of a member. -/
def tokensOfMember (m : Option String × Value) : List Token :=
  .string m.1 :: .colon :: m.2.tokens

theorem itemTokens_eq_map (items : List Value) : itemTokens items = items.map Value.tokens := by
  induction items with
  | nil => rfl
  | cons v items ih => rw [itemTokens, ih, List.map_cons]

theorem memberTokens_eq_map (members : List (Option String × Value)) :
    memberTokens members = members.map tokensOfMember := by
  induction members with
  | nil => rfl
  | cons m members ih =>
      obtain ⟨key, v⟩ := m
      rw [memberTokens, ih, List.map_cons]
      rfl

theorem tokens_array (items : List Value) :
    (Value.array items).tokens =
      .openBracket :: ([Token.comma].intercalate (items.map Value.tokens) ++ [.closeBracket]) := by
  rw [Value.tokens, itemTokens_eq_map]

theorem tokens_object (members : List (Option String × Value)) :
    (Value.object members).tokens =
      .openBrace :: ([Token.comma].intercalate (members.map tokensOfMember) ++ [.closeBrace]) := by
  rw [Value.tokens, memberTokens_eq_map]

/-- The text spells the value: it falls into the words of the value. -/
def Spells (bs : List UInt8) (v : Value) : Prop := Words bs v.tokens

/-- Induction on the parts of a value. -/
@[elab_as_elim]
theorem Value.induction {P : Value → Prop} (null : P .null) (bool : ∀ b, P (.bool b))
    (number : ∀ numeral, P (.number numeral)) (string : ∀ text, P (.string text))
    (array : ∀ items, (∀ v ∈ items, P v) → P (.array items))
    (object : ∀ members, (∀ m ∈ members, P m.2) → P (.object members)) (v : Value) : P v :=
  -- the other motives are those of the lists that a value holds, and of a member
  @Value.rec P (fun items => ∀ v ∈ items, P v) (fun members => ∀ m ∈ members, P m.2)
    (fun m => P m.2) null bool number string array object
    (List.forall_mem_nil _) (fun _ _ h hs => List.forall_mem_cons.2 ⟨h, hs⟩)
    (List.forall_mem_nil _) (fun _ _ h hs => List.forall_mem_cons.2 ⟨h, hs⟩)
    (fun _ _ h => h) v

/-! ### The words of a value are separated -/

/-- The words may follow a value. -/
structure MayFollow (ts : List Token) : Prop where
  separated : Separated ts
  first : ∀ t ∈ ts.head?, t.isEnd = true

theorem mayFollow_nil : MayFollow [] := ⟨.nil, nofun⟩

theorem mayFollow_cons {t : Token} {ts : List Token} (ht : t.isEnd = true) (h : Separated ts) :
    MayFollow (t :: ts) := by
  refine ⟨List.isChain_cons.2 ⟨fun u _ => ?_, h⟩, fun u hu => ?_⟩
  · rintro ⟨numeral, rfl⟩
    exact absurd ht (not_isEnd_number numeral)
  · obtain rfl := Option.some.inj hu
    exact ht

/-- Anything may follow a word that is no numeral. -/
theorem separated_cons {t : Token} {ts : List Token} (ht : ∀ numeral, t ≠ .number numeral)
    (h : Separated ts) : Separated (t :: ts) :=
  List.isChain_cons.2 ⟨fun _ _ ⟨numeral, heq⟩ => absurd heq (ht numeral), h⟩

theorem separated_number {numeral : List Char} {ts : List Token} (h : MayFollow ts) :
    Separated (.number numeral :: ts) :=
  List.isChain_cons.2 ⟨fun t ht _ => h.first t ht, h.separated⟩

/-- The words of parts with commas between them are separated if those of each part are. -/
theorem separated_intercalate {parts : List (List Token)}
    (h : ∀ part ∈ parts, ∀ ts, MayFollow ts → Separated (part ++ ts)) {ts : List Token}
    (hts : MayFollow ts) : Separated ([Token.comma].intercalate parts ++ ts) := by
  induction parts with
  | nil => exact hts.separated
  | cons part parts ih =>
      obtain ⟨hpart, hparts⟩ := List.forall_mem_cons.1 h
      cases parts with
      | nil =>
          rw [List.intercalate_singleton]
          exact hpart ts hts
      | cons next parts =>
          rw [List.intercalate_cons_cons, List.append_assoc, List.append_assoc]
          exact hpart _ (mayFollow_cons rfl (ih hparts))

theorem separated_tokens_append (v : Value) :
    ∀ ts, MayFollow ts → Separated (v.tokens ++ ts) := by
  induction v using Value.induction with
  | null | bool | string => exact fun ts hts => separated_cons nofun hts.separated
  | number numeral => exact fun ts hts => separated_number hts
  | array items ih =>
      intro ts hts
      rw [tokens_array, List.cons_append, List.append_assoc]
      refine separated_cons nofun (separated_intercalate ?_ (mayFollow_cons rfl hts.separated))
      rintro _ hpart
      obtain ⟨v, hv, rfl⟩ := List.mem_map.1 hpart
      exact ih v hv
  | object members ih =>
      intro ts hts
      rw [tokens_object, List.cons_append, List.append_assoc]
      refine separated_cons nofun (separated_intercalate ?_ (mayFollow_cons rfl hts.separated))
      rintro _ hpart us hus
      obtain ⟨m, hm, rfl⟩ := List.mem_map.1 hpart
      exact separated_cons nofun (separated_cons nofun (ih m hm us hus))

theorem separated_tokens (v : Value) : Separated v.tokens := by
  have h := separated_tokens_append v [] mayFollow_nil
  rwa [List.append_nil] at h

/-! ### The words of a value make it -/

/-- The items of an array are read one after the other. -/
theorem steps_items {items : List Value} (h : ∀ v ∈ items, Makes v.tokens v) (hne : items ≠ [])
    (fs : List Frame) (done : List Value) (rest : List Token) :
    (ReadState.mk (.item done :: fs) .value).steps
        ([Token.comma].intercalate (items.map Value.tokens) ++ rest) =
      (ReadState.mk fs (.afterItem (items.reverse ++ done))).steps rest := by
  induction items generalizing done with
  | nil => exact absurd rfl hne
  | cons v items ih =>
      obtain ⟨hv, hitems⟩ := List.forall_mem_cons.1 h
      cases items with
      | nil =>
          rw [List.map_singleton, List.intercalate_singleton]
          exact hv _ _
      | cons w items =>
          rw [List.map_cons, List.map_cons, List.intercalate_cons_cons, List.append_assoc,
            List.append_assoc, hv]
          refine (ih hitems (List.cons_ne_nil _ _) (v :: done)).trans ?_
          simp

/-- The members of an object are read one after the other. -/
theorem steps_members {members : List (Option String × Value)}
    (h : ∀ m ∈ members, Makes m.2.tokens m.2) (hne : members ≠ []) (fs : List Frame)
    (done : Members) (rest : List Token) :
    (ReadState.mk fs (.key done)).steps
        ([Token.comma].intercalate (members.map tokensOfMember) ++ rest) =
      (ReadState.mk fs (.afterMember (members.reverse ++ done))).steps rest := by
  induction members generalizing done with
  | nil => exact absurd rfl hne
  | cons m members ih =>
      obtain ⟨hm, hmembers⟩ := List.forall_mem_cons.1 h
      have hmember : ∀ rest, (ReadState.mk fs (.key done)).steps (tokensOfMember m ++ rest) =
          (ReadState.mk fs (.afterMember (m :: done))).steps rest :=
        fun rest => hm (.member done m.1 :: fs) rest
      cases members with
      | nil =>
          rw [List.map_singleton, List.intercalate_singleton]
          exact hmember rest
      | cons n members =>
          rw [List.map_cons, List.map_cons, List.intercalate_cons_cons, List.append_assoc,
            List.append_assoc, hmember]
          refine (ih hmembers (List.cons_ne_nil _ _) (m :: done)).trans ?_
          simp

/-- Parts with commas between them begin with the first part. -/
theorem exists_intercalate_cons (part : List Token) (parts : List (List Token)) :
    ∃ more, [Token.comma].intercalate (part :: parts) = part ++ more := by
  cases parts with
  | nil => exact ⟨[], by rw [List.intercalate_singleton, List.append_nil]⟩
  | cons next parts =>
      exact ⟨_, by rw [List.intercalate_cons_cons, List.append_assoc]⟩

/-- The words of a value make it, wherever one may stand. -/
theorem makes_tokens (v : Value) : Makes v.tokens v := by
  induction v using Value.induction with
  | null | bool | number | string => exact fun fs rest => rfl
  | array items ih =>
      intro fs rest
      cases items with
      | nil => rfl
      | cons v items =>
          obtain ⟨more, hmore⟩ := exists_intercalate_cons v.tokens (items.map Value.tokens)
          have hopen := (ih v List.mem_cons_self).steps_firstItem fs (more ++ .closeBracket :: rest)
          have hitems := steps_items ih (List.cons_ne_nil v items) fs [] (.closeBracket :: rest)
          rw [List.map_cons, hmore, List.append_assoc] at hitems
          rw [tokens_array, List.map_cons, hmore, List.cons_append, List.append_assoc,
            List.append_assoc]
          refine hopen.trans (hitems.trans ?_)
          rw [List.append_nil]
          change (deliver fs (.array (v :: items).reverse.reverse)).steps rest = _
          rw [List.reverse_reverse]
  | object members ih =>
      intro fs rest
      cases members with
      | nil => rfl
      | cons m members =>
          obtain ⟨more, hmore⟩ := exists_intercalate_cons (tokensOfMember m)
            (members.map tokensOfMember)
          have hmembers := steps_members ih (List.cons_ne_nil m members) fs [] (.closeBrace :: rest)
          rw [List.map_cons, hmore, List.append_assoc] at hmembers
          rw [tokens_object, List.map_cons, hmore, List.cons_append, List.append_assoc,
            List.append_assoc]
          refine hmembers.trans ?_
          rw [List.append_nil]
          change (deliver fs (.object (m :: members).reverse.reverse)).steps rest = _
          rw [List.reverse_reverse]

theorem valueOfTokens?_tokens (v : Value) : valueOfTokens? v.tokens = some v := by
  have h := makes_tokens v [] []
  rw [List.append_nil] at h
  rw [valueOfTokens?, h]
  rfl

/-! ### A value is made of its words only -/

/-- The words of an array up to its next item. -/
def arrayFront (done : List Value) : List Token :=
  .openBracket :: (done.reverse.map Value.tokens).flatMap (· ++ [.comma])

/-- The words of an object up to its next member. -/
def objectFront (done : Members) : List Token :=
  .openBrace :: (done.reverse.map tokensOfMember).flatMap (· ++ [.comma])

/-- The words of the open values, up to the value that they wait for. -/
def openTokens : List Frame → List Token
  | [] => []
  | .item done :: fs => openTokens fs ++ arrayFront done
  | .member done key :: fs => openTokens fs ++ (objectFront done ++ [.string key, .colon])

/-- The state is reached with the words. -/
inductive ReadState.Taken : ReadState → List Token → Prop
  | value {fs : List Frame} : Taken ⟨fs, .value⟩ (openTokens fs)
  | firstItem {fs : List Frame} : Taken ⟨fs, .firstItem⟩ (openTokens fs ++ [.openBracket])
  | afterItem {fs : List Frame} {v : Value} {done : List Value} :
      Taken ⟨fs, .afterItem (v :: done)⟩ (openTokens (.item done :: fs) ++ v.tokens)
  | firstKey {fs : List Frame} : Taken ⟨fs, .firstKey⟩ (openTokens fs ++ [.openBrace])
  | key {fs : List Frame} {done : Members} :
      Taken ⟨fs, .key done⟩ (openTokens fs ++ objectFront done)
  | colon {fs : List Frame} {done : Members} {key : Option String} :
      Taken ⟨fs, .colon done key⟩ (openTokens fs ++ (objectFront done ++ [.string key]))
  | afterMember {fs : List Frame} {m : Option String × Value} {done : Members} :
      Taken ⟨fs, .afterMember (m :: done)⟩ (openTokens (.member done m.1 :: fs) ++ m.2.tokens)
  | nothing {v : Value} : Taken ⟨[], .nothing v⟩ v.tokens

/-- The last part stands behind the others with their commas. -/
theorem intercalate_concat (parts : List (List Token)) (last : List Token) :
    [Token.comma].intercalate (parts ++ [last]) = parts.flatMap (· ++ [.comma]) ++ last := by
  induction parts with
  | nil => rw [List.nil_append, List.intercalate_singleton, List.flatMap_nil, List.nil_append]
  | cons part parts ih =>
      obtain ⟨next, more, hnext⟩ := List.exists_cons_of_ne_nil
        (show parts ++ [last] ≠ [] by simp)
      rw [hnext] at ih
      rw [List.cons_append, hnext, List.intercalate_cons_cons, ih, List.flatMap_cons]
      simp

theorem tokens_array_reverse (v : Value) (done : List Value) :
    (Value.array (v :: done).reverse).tokens = arrayFront done ++ (v.tokens ++ [.closeBracket]) := by
  rw [tokens_array, List.reverse_cons, List.map_append, List.map_singleton, intercalate_concat,
    List.append_assoc]
  rfl

theorem tokens_object_reverse (m : Option String × Value) (done : Members) :
    (Value.object (m :: done).reverse).tokens =
      objectFront done ++ (tokensOfMember m ++ [.closeBrace]) := by
  rw [tokens_object, List.reverse_cons, List.map_append, List.map_singleton, intercalate_concat,
    List.append_assoc]
  rfl

theorem arrayFront_cons (v : Value) (done : List Value) :
    arrayFront (v :: done) = arrayFront done ++ (v.tokens ++ [.comma]) := by
  simp [arrayFront]

theorem objectFront_cons (m : Option String × Value) (done : Members) :
    objectFront (m :: done) = objectFront done ++ (tokensOfMember m ++ [.comma]) := by
  simp [objectFront]

namespace ReadState

theorem taken_deliver (fs : List Frame) (v : Value) :
    (deliver fs v).Taken (openTokens fs ++ v.tokens) := by
  cases fs with
  | nil => exact .nothing
  | cons f fs =>
      cases f with
      | item done => exact .afterItem
      | member done key => exact .afterMember (m := (key, v))

theorem taken_beginValue {fs : List Frame} {t : Token} {s : ReadState}
    (h : beginValue fs t = some s) : s.Taken (openTokens fs ++ [t]) := by
  cases t with
  | null | bool | number | string =>
      cases h
      exact taken_deliver fs _
  | openBracket =>
      cases h
      exact .firstItem
  | openBrace =>
      cases h
      exact .firstKey
  | _ => cases h

/-- A closed array, with what was open around it. -/
theorem taken_closeBracket (fs : List Frame) (v : Value) (done : List Value) :
    (deliver fs (.array (v :: done).reverse)).Taken
      (openTokens (.item done :: fs) ++ v.tokens ++ [.closeBracket]) := by
  have h := taken_deliver fs (.array (v :: done).reverse)
  rw [tokens_array_reverse] at h
  rw [openTokens, List.append_assoc, List.append_assoc]
  exact h

/-- A closed object, with what was open around it. -/
theorem taken_closeBrace (fs : List Frame) (m : Option String × Value) (done : Members) :
    (deliver fs (.object (m :: done).reverse)).Taken
      (openTokens (.member done m.1 :: fs) ++ m.2.tokens ++ [.closeBrace]) := by
  have h := taken_deliver fs (.object (m :: done).reverse)
  rw [tokens_object_reverse] at h
  rw [openTokens, List.append_assoc, List.append_assoc, List.append_assoc]
  exact h

/-- One word more is taken. -/
theorem Taken.step {s next : ReadState} {ts : List Token} {t : Token} (hs : s.Taken ts)
    (h : s.step t = some next) : next.Taken (ts ++ [t]) := by
  cases hs with
  | value => exact taken_beginValue h
  | @firstItem fs =>
      cases t with
      | closeBracket =>
          cases h
          have harray := taken_deliver fs (.array [])
          rwa [List.append_assoc]
      | _ => exact @taken_beginValue (.item [] :: fs) _ _ h
  | @afterItem fs v done =>
      cases t with
      | comma =>
          cases h
          have hvalue : Taken ⟨.item (v :: done) :: fs, .value⟩ _ := .value
          rw [openTokens, arrayFront_cons] at hvalue
          rwa [openTokens, List.append_assoc, List.append_assoc]
      | closeBracket =>
          cases h
          exact taken_closeBracket fs v done
      | _ => cases h
  | @firstKey fs =>
      cases t with
      | closeBrace =>
          cases h
          have hobject := taken_deliver fs (.object [])
          rwa [List.append_assoc]
      | string key =>
          cases h
          rw [List.append_assoc]
          exact (.colon : Taken ⟨fs, .colon [] key⟩ _)
      | _ => cases h
  | @key fs done =>
      cases t with
      | string key =>
          cases h
          rw [List.append_assoc]
          exact .colon
      | _ => cases h
  | @colon fs done key =>
      cases t with
      | colon =>
          cases h
          have hvalue : Taken ⟨.member done key :: fs, .value⟩ _ := .value
          rw [openTokens] at hvalue
          rwa [List.append_assoc, List.append_assoc]
      | _ => cases h
  | @afterMember fs m done =>
      cases t with
      | comma =>
          cases h
          have hkey : Taken ⟨fs, .key (m :: done)⟩ _ := .key
          rw [objectFront_cons] at hkey
          rwa [openTokens, List.append_assoc, List.append_assoc, List.append_assoc]
      | closeBrace =>
          cases h
          exact taken_closeBrace fs m done
      | _ => cases h
  | nothing => cases h

theorem Taken.steps {s final : ReadState} {ts us : List Token} (hs : s.Taken ts)
    (h : s.steps us = some final) : final.Taken (ts ++ us) := by
  induction us generalizing s ts with
  | nil =>
      cases h
      rwa [List.append_nil]
  | cons t us ih =>
      rw [ReadState.steps] at h
      cases hstep : s.step t with
      | none =>
          rw [hstep] at h
          cases h
      | some next =>
          rw [hstep] at h
          have hfinal := ih (hs.step hstep) h
          rwa [List.append_assoc] at hfinal

end ReadState

/-- The words of a value, and no others, make it. -/
theorem valueOfTokens?_eq_some_iff {ts : List Token} {v : Value} :
    valueOfTokens? ts = some v ↔ ts = v.tokens := by
  constructor
  · intro h
    obtain ⟨⟨fs, expecting⟩, hsteps, hfinish⟩ := Option.bind_eq_some_iff.1 h
    have hstart : (⟨[], .value⟩ : ReadState).Taken [] := .value
    have htaken := hstart.steps hsteps
    cases htaken with
    | nothing =>
      cases hfinish
      rfl
    | _ => cases hfinish
  · rintro rfl
    exact valueOfTokens?_tokens v

/-- **A text is read as a value exactly if it spells it.** -/
theorem read?_eq_some_iff {bs : List UInt8} {v : Value} : read? bs = some v ↔ Spells bs v := by
  rw [read?, Option.bind_eq_some_iff]
  constructor
  · rintro ⟨ts, hts, hv⟩
    obtain rfl := valueOfTokens?_eq_some_iff.1 hv
    exact words_of_tokens? hts
  · intro h
    exact ⟨_, tokens?_of_words h (separated_tokens v), valueOfTokens?_tokens v⟩

end ZoneKeeper.Json
