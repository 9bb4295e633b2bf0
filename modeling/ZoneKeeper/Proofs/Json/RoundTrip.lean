/-
**Written values are read back.**

A text denotes a value if it falls into words that, wherever a value may stand, make that value.
Strings, numbers and truth values are single words, and arrays and objects are made of what they
hold; so what the writer makes of a value denotes that value, and reading the bytes of a whole text
gives what it denotes.

Main definitions:

* `ZoneKeeper.Json.Makes` — words make a value, wherever one may stand;
* `ZoneKeeper.Json.Denotes` — a text denotes a value.

Main results:

* `ZoneKeeper.Json.denotes_writeArray`, `ZoneKeeper.Json.denotes_writeObject` — an array and an
  object denote what their parts denote;
* `ZoneKeeper.Json.read?_of_denotes` — **reading the bytes of a text gives the value that it
  denotes**;
* `ZoneKeeper.Json.uint32?_digits` — digits denote their number.
-/

import Mathlib.Data.List.Forall2
import ZoneKeeper.Json.Forms
import ZoneKeeper.Proofs.Json.Words

set_option autoImplicit false

namespace ZoneKeeper.Json

open ZoneKeeper.Text ReadState

/-! ### Words that make a value -/

/-- The words make the value, wherever one may stand. -/
def Makes (ts : List Token) (v : Value) : Prop :=
  ∀ fs rest, (ReadState.mk fs .value).steps (ts ++ rest) = (deliver fs v).steps rest

/-- The text denotes the value. -/
def Denotes (cs : List Char) (v : Value) : Prop :=
  ∃ ts, ReadsAs cs ts ∧ Makes ts v

theorem denotes_writeString (s : String) : Denotes (writeString s) (.string (some s)) :=
  ⟨_, readsAs_writeString s, fun _ _ => rfl⟩

theorem denotes_writeNat (n : Nat) : Denotes (writeNat n) (.number (digits n)) :=
  ⟨_, readsAs_writeNat n, fun _ _ => rfl⟩

theorem denotes_writeBool (b : Bool) : Denotes (writeBool b) (.bool b) :=
  ⟨_, readsAs_writeBool b, fun _ _ => rfl⟩

/-- Reading the bytes of a text gives the value that it denotes. -/
theorem read?_of_denotes {cs : List Char} {v : Value} (h : Denotes cs v) :
    read? (Utf8.encode cs) = some v := by
  obtain ⟨ts, hts, hv⟩ := h
  have htokens : tokens? (Utf8.encode cs) = some ts := by
    have := hts [] [] nofun
    rw [List.append_nil, List.append_nil] at this
    rw [tokens?, this, tokensFrom?]
    simp [Mode.finish]
  have hvalue := hv [] []
  rw [List.append_nil] at hvalue
  rw [read?, htokens, Option.bind_some, valueOfTokens?, hvalue]
  rfl

/-! ### Objects and arrays -/

/-- A member as it is written. -/
def writeMember (m : String × List Char) : List Char :=
  writeString m.1 ++ ':' :: m.2

/-- The written members of an object are read one after the other. -/
theorem readsAs_members {members : List (String × List Char)} {vs : List (String × Value)}
    (h : List.Forall₂ (fun m v => m.1 = v.1 ∧ Denotes m.2 v.2) members vs) (hne : members ≠ []) :
    ∃ key ts, ReadsAs (commaSeparated (members.map writeMember)) (.string key :: ts) ∧
      ∀ fs done rest, (ReadState.mk fs (.key done)).steps (.string key :: ts ++ rest) =
        (ReadState.mk fs (.afterMember ((vs.map fun p => (some p.1, p.2)).reverse ++ done))).steps
          rest := by
  -- a comma leads from each member to the next, so the last one is a case of its own
  induction h with
  | nil => exact absurd rfl hne
  | @cons m v members vs hm hrest ih =>
      obtain ⟨hkey, us, hus, hv⟩ := hm
      have hmember : ReadsAs (writeMember m) (.string (some m.1) :: .colon :: us) :=
        (readsAs_writeString m.1).append_mark isMark_colon hus
      have hstep : ∀ fs done rest,
          (ReadState.mk fs (.key done)).steps (.string (some m.1) :: .colon :: us ++ rest) =
            (ReadState.mk fs (.afterMember ((some v.1, v.2) :: done))).steps rest := by
        intro fs done rest
        rw [← hkey]
        exact hv (.member done (some m.1) :: fs) rest
      cases members with
      | nil =>
          cases hrest
          exact ⟨some m.1, _, hmember, hstep⟩
      | cons m' members =>
          obtain ⟨key, ts, hts, hmore⟩ := ih (List.cons_ne_nil _ _)
          refine ⟨some m.1, .colon :: us ++ .comma :: .string key :: ts,
            hmember.append_mark isMark_comma hts, fun fs done rest => ?_⟩
          have hnext := hstep fs done (.comma :: .string key :: ts ++ rest)
          have hlast := hmore fs ((some v.1, v.2) :: done) rest
          simp only [List.append_assoc, List.cons_append] at hnext hlast ⊢
          refine hnext.trans (hlast.trans ?_)
          simp

/-- An object denotes what its members denote. -/
theorem denotes_writeObject {members : List (String × List Char)} {vs : List (String × Value)}
    (h : List.Forall₂ (fun m v => m.1 = v.1 ∧ Denotes m.2 v.2) members vs) :
    Denotes (writeObject members) (.object (vs.map fun p => (some p.1, p.2))) := by
  by_cases hne : members = []
  · subst hne
    cases h
    exact ⟨[.openBrace, .closeBrace],
      (readsAs_nil.mark_cons isMark_closeBrace).mark_cons isMark_openBrace, fun _ _ => rfl⟩
  · obtain ⟨key, ts, hts, hmembers⟩ := readsAs_members h hne
    have hwords : ReadsAs (writeObject members)
        (.openBrace :: (.string key :: ts ++ [.closeBrace])) :=
      (hts.append_mark isMark_closeBrace readsAs_nil).mark_cons isMark_openBrace
    refine ⟨_, hwords, fun fs rest => ?_⟩
    have hlast := hmembers fs [] (.closeBrace :: rest)
    simp only [List.append_assoc, List.cons_append, List.nil_append, List.append_nil] at hlast ⊢
    refine hlast.trans ?_
    change (deliver fs (.object (List.reverse _))).steps rest = _
    rw [List.reverse_reverse]

/-- The first word of a value does not close an array. -/
theorem Makes.steps_firstItem {ts : List Token} {v : Value} (h : Makes ts v) (fs : List Frame)
    (rest : List Token) :
    (ReadState.mk fs .firstItem).steps (ts ++ rest) =
      (ReadState.mk (.item [] :: fs) .value).steps (ts ++ rest) := by
  -- with nothing open a closing bracket is no value, so the first word is another one
  have hempty := h [] []
  cases ts with
  | nil => cases hempty
  | cons t ts =>
      cases t with
      | closeBracket => cases hempty
      | _ => rfl

/-- The items of an array are read one after the other. -/
theorem readsAs_items {items : List (List Char)} {vs : List Value}
    (h : List.Forall₂ Denotes items vs) (hne : items ≠ []) :
    ∃ ts, ReadsAs (commaSeparated items) ts ∧
      (∀ fs rest, (ReadState.mk fs .firstItem).steps (ts ++ rest) =
        (ReadState.mk (.item [] :: fs) .value).steps (ts ++ rest)) ∧
      ∀ fs done rest, (ReadState.mk (.item done :: fs) .value).steps (ts ++ rest) =
        (ReadState.mk fs (.afterItem (vs.reverse ++ done))).steps rest := by
  induction h with
  | nil => exact absurd rfl hne
  | @cons item v items vs hitem hrest ih =>
      obtain ⟨us, hus, hv⟩ := hitem
      cases items with
      | nil =>
          cases hrest
          exact ⟨us, hus, hv.steps_firstItem, fun fs done rest => hv _ _⟩
      | cons item' items =>
          obtain ⟨ts, hts, -, hmore⟩ := ih (List.cons_ne_nil _ _)
          refine ⟨us ++ .comma :: ts, hus.append_mark isMark_comma hts, fun fs rest => ?_,
            fun fs done rest => ?_⟩
          · rw [List.append_assoc]
            exact hv.steps_firstItem fs _
          · have hnext := hv (.item done :: fs) (.comma :: ts ++ rest)
            have hlast := hmore fs (v :: done) rest
            simp only [List.append_assoc, List.cons_append] at hnext hlast ⊢
            refine hnext.trans (hlast.trans ?_)
            simp

/-- An array denotes what its items denote. -/
theorem denotes_writeArray {items : List (List Char)} {vs : List Value}
    (h : List.Forall₂ Denotes items vs) : Denotes (writeArray items) (.array vs) := by
  by_cases hne : items = []
  · subst hne
    cases h
    exact ⟨[.openBracket, .closeBracket],
      (readsAs_nil.mark_cons isMark_closeBracket).mark_cons isMark_openBracket, fun _ _ => rfl⟩
  · obtain ⟨ts, hts, hfirst, hitems⟩ := readsAs_items h hne
    have hwords : ReadsAs (writeArray items) (.openBracket :: (ts ++ [.closeBracket])) :=
      (hts.append_mark isMark_closeBracket readsAs_nil).mark_cons isMark_openBracket
    refine ⟨_, hwords, fun fs rest => ?_⟩
    have hopen := hfirst fs (.closeBracket :: rest)
    have hlast := hitems fs [] (.closeBracket :: rest)
    simp only [List.append_assoc, List.cons_append, List.nil_append, List.append_nil] at hlast ⊢
    refine hopen.trans (hlast.trans ?_)
    change (deliver fs (.array (List.reverse _))).steps rest = _
    rw [List.reverse_reverse]

/-! ### Numbers -/

theorem digitsInt?_append_singleton {ds : List Char} (hne : ds ≠ []) {n k : Nat} (hk : k < 10)
    (h : digitsInt? ds = some n) : digitsInt? (ds ++ [Nat.digitChar k]) = some (n * 10 + k) := by
  have hdigit : ∀ k < 10, digitValue? (Nat.digitChar k) = some k := by decide
  rw [digitsInt?, if_neg hne] at h
  rw [digitsInt?, if_neg (by simp), List.foldl_append, h]
  simp [hdigit k hk]

/-- Digits denote their number. -/
theorem digitsInt?_digits (n : Nat) : digitsInt? (digits n) = some n := by
  induction n using Nat.strongRecOn with
  | ind n ih =>
      rcases Nat.lt_or_ge n 10 with h | h
      · have hdigit : ∀ k < 10, digitsInt? [Nat.digitChar k] = some k := by decide
        rw [digits, Nat.toDigits_of_lt_base h]
        exact hdigit n h
      · have hstep : digits n = digits (n / 10) ++ [Nat.digitChar (n % 10)] :=
          Nat.toDigits_of_base_le (by omega) h
        have hne : digits (n / 10) ≠ [] := by
          obtain ⟨d, ds, -, -, -, heq⟩ := digits_shape (n / 10)
          rw [heq]
          exact List.cons_ne_nil _ _
        rw [hstep, digitsInt?_append_singleton hne (by omega) (ih (n / 10) (by omega))]
        congr 1
        omega

theorem numeralInt?_digits (n : Nat) : numeralInt? (digits n) = some (n : Int) := by
  have hvalue := digitsInt?_digits n
  obtain ⟨d, ds, hd, -, -, heq⟩ := digits_shape n
  have hminus : ∀ k < 10, Nat.digitChar k ≠ '-' := by decide
  rw [heq] at hvalue ⊢
  rw [List.map_cons] at hvalue ⊢
  unfold numeralInt?
  split
  · next h => exact absurd (List.cons.inj h).1 (hminus d hd)
  · rw [hvalue]
    rfl

theorem uint32?_digits (n : UInt32) : (Value.number (digits n.toNat)).uint32? = some n := by
  have hlt := n.toNat_lt
  rw [Value.uint32?, Value.intBetween?, numeralInt?_digits, Option.filter_some, if_pos]
  · simp
  · simp
    omega

end ZoneKeeper.Json
