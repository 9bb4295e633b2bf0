/-
**What of a value is read.**

A record is read from an object by the names of its fields.  The order of the members does not
count, nor do members of other names, whatever their values are, as long as their keys are texts.
This holds for the records inside a record as well, and a shape says where they are: a value is
taken as a whole, as a list of items, or as a record whose fields are read in turn.  A reader that
respects a shape reads two values alike that restate each other, and reads none that has a fault
anywhere in that shape: a field that is given twice, or a key that is no text.

Main definitions:

* `ZoneKeeper.Json.Shape` — how a value is read;
* `ZoneKeeper.Json.Edit`, `ZoneKeeper.Json.Restates` — one change that does not count, and any number
  of them, made or undone;
* `ZoneKeeper.Json.Faulty` — a field is given twice, or a key is no text;
* `ZoneKeeper.Json.Respects` — a reader respects a shape.

Main results:

* `ZoneKeeper.Json.fieldValues?_rel` — what an edit does to the fields of a record;
* `ZoneKeeper.Json.fieldsFaulty_of_faulty` — what a fault does to them;
* `ZoneKeeper.Json.Respects.restates` — **values that restate each other are read alike**;
* `ZoneKeeper.Json.respects_flat` — a record of which no field is a record respects its shape.
-/

import Mathlib.Logic.Relation
import ZoneKeeper.Proofs.Json.Fields

set_option autoImplicit false

namespace ZoneKeeper.Json

/-! ### Shapes -/

/-- How a value is read. -/
inductive Shape
  | whole
  | list (item : Shape)
  /-- A record, with the shapes of its fields by their names. -/
  | record (fields : List Field) (part : String → Shape)

/-- A record of which every field is taken as a whole. -/
def Shape.flat (fields : List Field) : Shape :=
  .record fields fun _ => .whole

/-- One change to a value that does not count for what is read. -/
inductive Edit : Shape → Value → Value → Prop
  /-- The members of a record are put in another order. -/
  | permute {fields : List Field} {part : String → Shape}
      {members members' : List (Option String × Value)} (h : members.Perm members') :
      Edit (.record fields part) (.object members) (.object members')
  /-- A member is put in that is no field of the record. -/
  | insert {fields : List Field} {part : String → Shape}
      {front back : List (Option String × Value)} {key : String} {v : Value}
      (h : ∀ f ∈ fields, f.name ≠ key) :
      Edit (.record fields part) (.object (front ++ back))
        (.object (front ++ (some key, v) :: back))
  /-- A field of the record is changed within. -/
  | member {fields : List Field} {part : String → Shape}
      {front back : List (Option String × Value)} {key : String} {v v' : Value}
      (h : Edit (part key) v v') :
      Edit (.record fields part) (.object (front ++ (some key, v) :: back))
        (.object (front ++ (some key, v') :: back))
  /-- A field of a record that is given as an array is changed within. -/
  | position {fields : List Field} {part : String → Shape} {front back : List Value} {f : Field}
      {v v' : Value} (hf : fields[front.length]? = some f) (h : Edit (part f.name) v v') :
      Edit (.record fields part) (.array (front ++ v :: back)) (.array (front ++ v' :: back))
  /-- An item of a list is changed within. -/
  | item {s : Shape} {front back : List Value} {v v' : Value} (h : Edit s v v') :
      Edit (.list s) (.array (front ++ v :: back)) (.array (front ++ v' :: back))

/-- The values differ in what does not count: one comes from the other by edits, made or undone. -/
def Restates (s : Shape) : Value → Value → Prop :=
  Relation.EqvGen (Edit s)

/-- Somewhere in the shape a field is given twice, or a key is no text. -/
inductive Faulty : Shape → Value → Prop
  | textless {fields : List Field} {part : String → Shape}
      {members : List (Option String × Value)} (h : ¬ HasTextKeys members) :
      Faulty (.record fields part) (.object members)
  | repeated {fields : List Field} {part : String → Shape}
      {members : List (Option String × Value)} {f : Field} (hf : f ∈ fields)
      (h : 1 < (given members f.name).length) : Faulty (.record fields part) (.object members)
  | member {fields : List Field} {part : String → Shape}
      {members : List (Option String × Value)} {f : Field} {v : Value} (hf : f ∈ fields)
      (hv : v ∈ given members f.name) (h : Faulty (part f.name) v) :
      Faulty (.record fields part) (.object members)
  | position {fields : List Field} {part : String → Shape} {items : List Value} {i : Nat}
      {f : Field} {v : Value} (hf : fields[i]? = some f) (hv : items[i]? = some v)
      (h : Faulty (part f.name) v) : Faulty (.record fields part) (.array items)
  | item {s : Shape} {items : List Value} {v : Value} (hv : v ∈ items) (h : Faulty s v) :
      Faulty (.list s) (.array items)

/-- The reader respects the shape: edits do not count for it, and it reads nothing faulty. -/
structure Respects {α : Type} (s : Shape) (read : Value → Option α) : Prop where
  edit {v v' : Value} (h : Edit s v v') : read v = read v'
  faulty {v : Value} (h : Faulty s v) : read v = none

section

variable {α : Type} {s : Shape} {read : Value → Option α}

/-- **Values that restate each other are read alike.** -/
theorem Respects.restates (hr : Respects s read) {v v' : Value} (h : Restates s v v') :
    read v = read v' := by
  induction h with
  | rel v v' h => exact hr.edit h
  | refl v => rfl
  | symm v v' _ ih => exact ih.symm
  | trans v w v' _ _ ih ih' => exact ih.trans ih'

theorem not_edit_whole {v v' : Value} : ¬ Edit .whole v v' := nofun

theorem not_faulty_whole {v : Value} : ¬ Faulty .whole v := nofun

/-- A value that is taken as a whole may be read in any way. -/
theorem respects_whole : Respects .whole read :=
  ⟨fun h => absurd h not_edit_whole, fun h => absurd h not_faulty_whole⟩

theorem mapM_eq_none_of_mem {β : Type} {f : β → Option α} {xs : List β} {x : β} (hx : x ∈ xs)
    (h : f x = none) : xs.mapM f = none := by
  obtain ⟨front, back, rfl⟩ := List.append_of_mem hx
  rw [List.mapM_append, List.mapM_cons, h]
  cases front.mapM f with
  | none | some => rfl

/-- A list is read item by item. -/
theorem Respects.list (hr : Respects s read) : Respects (.list s) (Value.list? read) := by
  refine ⟨fun h => ?_, fun h => ?_⟩
  · cases h with
    | item h =>
        rw [Value.list?, Value.list?, List.mapM_append, List.mapM_append, List.mapM_cons,
          List.mapM_cons, hr.edit h]
  · cases h with
    | item hv h => exact mapM_eq_none_of_mem hv (hr.faulty h)

/-- What is edited is no null, nor is what comes of it. -/
theorem Edit.ne_null {v v' : Value} (h : Edit s v v') : v ≠ .null ∧ v' ≠ .null := by
  cases h with
  | permute | insert | member | position | item => exact ⟨nofun, nofun⟩

theorem Faulty.ne_null {v : Value} (h : Faulty s v) : v ≠ .null := by
  cases h with
  | textless | repeated | member | position | item => exact nofun

theorem nullable?_of_ne_null {v : Value} (h : v ≠ .null) :
    v.nullable? read = (read v).map some := by
  cases v with
  | null => exact absurd rfl h
  | _ => rfl

/-- A null has no fields, so it may be told apart. -/
theorem Respects.nullable (hr : Respects s read) : Respects s (Value.nullable? read) := by
  refine ⟨fun h => ?_, fun h => ?_⟩
  · rw [nullable?_of_ne_null h.ne_null.1, nullable?_of_ne_null h.ne_null.2, hr.edit h]
  · rw [nullable?_of_ne_null h.ne_null, hr.faulty h]
    rfl

end

/-! ### What is given for a field -/

section

variable {front back members members' : List (Option String × Value)} {key name : String}
  {v v' : Value}

theorem given_append :
    given (front ++ back) name = given front name ++ given back name := by
  rw [given, List.filter_append, List.map_append]
  rfl

theorem given_cons_self : given ((some name, v) :: back) name = v :: given back name := by
  simp [given]

theorem given_cons_of_ne (h : name ≠ key) :
    given ((some key, v) :: back) name = given back name := by
  simp [given, h.symm]

theorem given_perm (h : members.Perm members') : (given members name).Perm (given members' name) :=
  (h.filter _).map _

theorem hasTextKeys_perm (h : members.Perm members') :
    HasTextKeys members ↔ HasTextKeys members' :=
  ⟨fun hm m hmem => hm m (h.mem_iff.2 hmem), fun hm m hmem => hm m (h.mem_iff.1 hmem)⟩

/-- A member with a text for a key does not count. -/
theorem hasTextKeys_insert_iff :
    HasTextKeys (front ++ (some key, v) :: back) ↔ HasTextKeys (front ++ back) := by
  simp [HasTextKeys, or_imp, forall_and]

end

/-- The only value of a list, or none of none. -/
def only? : List Value → Option (Option Value)
  | [] => some none
  | [v] => some (some v)
  | _ => none

theorem only?_eq_some_iff {vs : List Value} {given : Option Value} :
    only? vs = some given ↔ vs = given.toList := by
  cases vs with
  | nil => cases given <;> simp [only?]
  | cons v vs =>
      cases vs with
      | nil => cases given <;> simp [only?]
      | cons w vs => cases given <;> simp [only?]

theorem only?_perm {vs vs' : List Value} (h : vs.Perm vs') : only? vs = only? vs' := by
  refine Option.ext fun given => ?_
  rw [only?_eq_some_iff, only?_eq_some_iff]
  cases given with
  | none =>
      refine ⟨fun heq => ?_, fun heq => ?_⟩
      · rw [heq] at h
        exact h.nil_eq.symm
      · rw [heq] at h
        exact h.eq_nil
  | some v =>
      refine ⟨fun heq => ?_, fun heq => ?_⟩
      · rw [heq] at h
        exact h.singleton_eq.symm
      · rw [heq] at h
        exact h.eq_singleton

theorem only?_eq_none {vs : List Value} (h : 1 < vs.length) : only? vs = none := by
  rcases vs with _ | ⟨v, _ | ⟨w, vs⟩⟩
  · cases h
  · exact absurd h (Nat.lt_irrefl 1)
  · rfl

/-- The fields of an object whose keys are texts, each by what is given for it. -/
theorem fieldValues?_object {fields : List Field} {members : List (Option String × Value)}
    (h : HasTextKeys members) :
    fieldValues? fields (.object members) =
      fields.mapM fun f => only? (given members f.name) := by
  refine Option.ext fun vs => ?_
  rw [fieldValues?_object_eq_some_iff, and_iff_right h, mapM_eq_some_iff]
  simp only [only?_eq_some_iff]

theorem fieldValues?_textless {fields : List Field} {members : List (Option String × Value)}
    (h : ¬ HasTextKeys members) : fieldValues? fields (.object members) = none := by
  rw [Option.eq_none_iff_forall_ne_some]
  intro vs hvs
  exact h (fieldValues?_object_eq_some_iff.1 hvs).1

/-! ### Edits of a record -/

/-- Before and after an edit the same is given for a field, or one value that was edited. -/
inductive GivenEdited (s : Shape) : Option Value → Option Value → Prop
  | same (given : Option Value) : GivenEdited s given given
  | edit {v v' : Value} (h : Edit s v v') : GivenEdited s (some v) (some v')

/-- Before and after an edit the same is given for each field, or values that were edited. -/
inductive FieldsEdited (part : String → Shape) :
    List Field → List (Option Value) → List (Option Value) → Prop
  | nil : FieldsEdited part [] [] []
  | cons {f : Field} {fs : List Field} {v v' : Option Value} {vs vs' : List (Option Value)}
      (h : GivenEdited (part f.name) v v') (hs : FieldsEdited part fs vs vs') :
      FieldsEdited part (f :: fs) (v :: vs) (v' :: vs')

section

variable {fields : List Field} {part : String → Shape}

theorem rel_mapM {g g' : Field → Option (Option Value)}
    (h : ∀ f ∈ fields, Option.Rel (GivenEdited (part f.name)) (g f) (g' f)) :
    Option.Rel (FieldsEdited part fields) (fields.mapM g) (fields.mapM g') := by
  induction fields with
  | nil => exact .some .nil
  | cons f fs ih =>
      obtain ⟨hf, hfs⟩ := List.forall_mem_cons.1 h
      rw [List.mapM_cons, List.mapM_cons]
      generalize g f = x at hf ⊢
      generalize g' f = x' at hf ⊢
      have hrest := ih hfs
      generalize fs.mapM g = y at hrest ⊢
      generalize fs.mapM g' = y' at hrest ⊢
      cases hf with
      | none => exact .none
      | some hf =>
          cases hrest with
          | none => exact .none
          | some hrest => exact .some (.cons hf hrest)

/-- What is given for one field, with an edited value among it. -/
theorem rel_only? {s : Shape} {v v' : Value} (h : Edit s v v') (front back : List Value) :
    Option.Rel (GivenEdited s) (only? (front ++ v :: back)) (only? (front ++ v' :: back)) := by
  rcases front with _ | ⟨a, _ | ⟨b, front⟩⟩
  · cases back with
    | nil => exact .some (.edit h)
    | cons b back => exact .none
  · exact .none
  · exact .none

theorem fieldsEdited_same {items : List Value} {vs : List (Option Value)}
    (h : itemValues? fields items = some vs) : FieldsEdited part fields vs vs := by
  induction fields generalizing items vs with
  | nil =>
      cases items with
      | nil =>
          cases h
          exact .nil
      | cons v items => cases h
  | cons f fs ih =>
      cases items with
      | nil =>
          rw [itemValues?] at h
          split at h
          · obtain ⟨rest, hrest, rfl⟩ := Option.map_eq_some_iff.1 h
            exact .cons (.same _) (ih hrest)
          · cases h
      | cons v items =>
          obtain ⟨rest, hrest, rfl⟩ := Option.map_eq_some_iff.1 h
          exact .cons (.same _) (ih hrest)

/-- One more item of an array. -/
theorem rel_map_cons {f : Field} {v v' : Value} {x x' : Option (List (Option Value))}
    (hv : GivenEdited (part f.name) (some v) (some v'))
    (h : Option.Rel (FieldsEdited part fields) x x') :
    Option.Rel (FieldsEdited part (f :: fields)) (x.map (some v :: ·)) (x'.map (some v' :: ·)) := by
  cases h with
  | none => exact .none
  | some h => exact .some (.cons hv h)

theorem rel_itemValues? {f : Field} {v v' : Value} (h : Edit (part f.name) v v')
    {front : List Value} (back : List Value) (hf : fields[front.length]? = some f) :
    Option.Rel (FieldsEdited part fields) (itemValues? fields (front ++ v :: back))
      (itemValues? fields (front ++ v' :: back)) := by
  induction front generalizing fields with
  | nil =>
      cases fields with
      | nil => cases hf
      | cons g fs =>
          cases hf
          have hrest : Option.Rel (FieldsEdited part fs) (itemValues? fs back)
              (itemValues? fs back) := by
            cases hvs : itemValues? fs back with
            | none => exact .none
            | some vs => exact .some (fieldsEdited_same hvs)
          exact rel_map_cons (.edit h) hrest
  | cons w front ih =>
      cases fields with
      | nil => cases hf
      | cons g fs => exact rel_map_cons (.same _) (ih hf)

/-- **What an edit does to the fields of a record.** -/
theorem fieldValues?_rel {v v' : Value} (h : Edit (.record fields part) v v') :
    Option.Rel (FieldsEdited part fields) (fieldValues? fields v) (fieldValues? fields v') := by
  -- the keys are texts before and after, or neither
  have hobject : ∀ {members members' : List (Option String × Value)},
      (HasTextKeys members ↔ HasTextKeys members') →
      (∀ f ∈ fields, Option.Rel (GivenEdited (part f.name)) (only? (given members f.name))
        (only? (given members' f.name))) →
      Option.Rel (FieldsEdited part fields) (fieldValues? fields (.object members))
        (fieldValues? fields (.object members')) := by
    intro members members' hkeys hgiven
    by_cases htext : HasTextKeys members
    · rw [fieldValues?_object htext, fieldValues?_object (hkeys.1 htext)]
      exact rel_mapM hgiven
    · rw [fieldValues?_textless htext, fieldValues?_textless fun h' => htext (hkeys.2 h')]
      exact .none
  have hsame : ∀ {s : Shape} (x : Option (Option Value)), Option.Rel (GivenEdited s) x x := by
    intro s x
    cases x with
    | none => exact .none
    | some given => exact .some (.same given)
  cases h with
  | permute h =>
      refine hobject (hasTextKeys_perm h) fun f _ => ?_
      rw [only?_perm (given_perm h)]
      exact hsame _
  | insert h =>
      refine hobject hasTextKeys_insert_iff.symm fun f hf => ?_
      rw [given_append, given_append, given_cons_of_ne (h f hf)]
      exact hsame _
  | @member _ _ front back key w w' h =>
      refine hobject (hasTextKeys_insert_iff.trans hasTextKeys_insert_iff.symm) fun f hf => ?_
      rw [given_append, given_append]
      by_cases hkey : f.name = key
      · subst hkey
        rw [given_cons_self, given_cons_self]
        exact rel_only? h _ _
      · rw [given_cons_of_ne hkey, given_cons_of_ne hkey]
        exact hsame _
  | position hf h => exact rel_itemValues? h _ hf

end

/-! ### Faults of a record -/

/-- What is given for one of the fields has a fault. -/
inductive FieldsFaulty (part : String → Shape) : List Field → List (Option Value) → Prop
  | here {f : Field} {fs : List Field} {v : Value} {vs : List (Option Value)}
      (h : Faulty (part f.name) v) : FieldsFaulty part (f :: fs) (some v :: vs)
  | there {f : Field} {fs : List Field} {v : Option Value} {vs : List (Option Value)}
      (h : FieldsFaulty part fs vs) : FieldsFaulty part (f :: fs) (v :: vs)

section

variable {fields : List Field} {part : String → Shape}

theorem fieldsFaulty_of_given {given : Field → List Value} {vs : List (Option Value)}
    (hvs : List.Forall₂ (fun f v => given f = v.toList) fields vs) {f : Field} {v : Value}
    (hf : f ∈ fields) (hv : v ∈ given f) (h : Faulty (part f.name) v) :
    FieldsFaulty part fields vs := by
  induction hvs with
  | nil => cases hf
  | cons hfirst _ ih =>
      rcases List.mem_cons.1 hf with rfl | hf
      · rw [hfirst, Option.mem_toList] at hv
        cases hv
        exact .here h
      · exact .there (ih hf)

theorem fieldsFaulty_of_items {items : List Value} {vs : List (Option Value)}
    (hvs : itemValues? fields items = some vs) {i : Nat} {f : Field} {v : Value}
    (hf : fields[i]? = some f) (hv : items[i]? = some v) (h : Faulty (part f.name) v) :
    FieldsFaulty part fields vs := by
  induction fields generalizing items vs i with
  | nil => cases hf
  | cons g fs ih =>
      cases items with
      | nil => cases hv
      | cons w items =>
          obtain ⟨rest, hrest, rfl⟩ := Option.map_eq_some_iff.1 hvs
          cases i with
          | zero =>
              cases hf
              cases hv
              exact .here h
          | succ i => exact .there (ih hrest hf hv)

/-- **What a fault does to the fields of a record**: there are none, or one of them has it. -/
theorem fieldsFaulty_of_faulty {v : Value} (h : Faulty (.record fields part) v)
    {vs : List (Option Value)} (hvs : fieldValues? fields v = some vs) :
    FieldsFaulty part fields vs := by
  cases h with
  | textless h =>
      rw [fieldValues?_textless h] at hvs
      cases hvs
  | @repeated _ _ members f hf h =>
      have htext := (fieldValues?_object_eq_some_iff.1 hvs).1
      rw [fieldValues?_object htext, mapM_eq_none_of_mem hf (only?_eq_none h)] at hvs
      cases hvs
  | member hf hv h => exact fieldsFaulty_of_given (fieldValues?_object_eq_some_iff.1 hvs).2 hf hv h
  | position hf hv h => exact fieldsFaulty_of_items hvs hf hv h

end

/-! ### Readers of records -/

section

variable {α : Type} {s : Shape} {read : Value → Option α} {fields : List Field}

theorem eq_of_fieldsEdited_whole {vs vs' : List (Option Value)}
    (h : FieldsEdited (fun _ => .whole) fields vs vs') : vs = vs' := by
  induction h with
  | nil => rfl
  | cons h _ ih =>
      cases h with
      | same => rw [ih]
      | edit h => exact absurd h not_edit_whole

theorem not_fieldsFaulty_whole {vs : List (Option Value)} :
    ¬ FieldsFaulty (fun _ => .whole) fields vs := by
  intro h
  induction h with
  | here h => exact not_faulty_whole h
  | there _ ih => exact ih

/-- A reader that depends on the fields alone, and reads nothing without them, respects the shape of
a flat record. -/
theorem respects_flat
    (hread : ∀ {v v'}, fieldValues? fields v = fieldValues? fields v' → read v = read v')
    (hnone : ∀ {v}, fieldValues? fields v = none → read v = none) :
    Respects (.flat fields) read := by
  refine ⟨fun {v v'} h => hread ?_, fun {v} h => hnone ?_⟩
  · have hrel := fieldValues?_rel h
    generalize fieldValues? fields v = x at hrel ⊢
    generalize fieldValues? fields v' = x' at hrel ⊢
    cases hrel with
    | none => rfl
    | some hedited => rw [eq_of_fieldsEdited_whole hedited]
  · rw [Option.eq_none_iff_forall_ne_some]
    intro vs hvs
    exact not_fieldsFaulty_whole (fieldsFaulty_of_faulty h hvs)

variable (hr : Respects s read)

include hr

theorem Respects.required {given given' : Option Value} (h : GivenEdited s given given') :
    required? read given = required? read given' := by
  cases h with
  | same => rfl
  | edit h => exact hr.edit h

theorem Respects.defaulted {fallback : α} {given given' : Option Value}
    (h : GivenEdited s given given') :
    defaulted? fallback read given = defaulted? fallback read given' := by
  cases h with
  | same => rfl
  | edit h => exact hr.edit h

theorem Respects.optional {given given' : Option Value} (h : GivenEdited s given given') :
    optional? read given = optional? read given' := by
  cases h with
  | same => rfl
  | edit h => exact hr.nullable.edit h

end

end ZoneKeeper.Json
