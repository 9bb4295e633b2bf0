/-
**Short names and completed names.**

A name is completed before anything else is done with it: the guard of the zone, the lookup, what
is written, the failures, the log and the outcome all have the completed name, and the name as it
was given is nowhere kept.  So two names that are completed to the same name are names of one
record, and no update tells them apart, whatever the provider is and whatever it answers.  They are
told apart if they are completed to different names, because an outcome or a lookup shows the
completed name.  In a session every step depends on the name of an update through that update
alone, so names of one record can be put for each other anywhere in a session.

Main definitions:

* `ZoneKeeper.RecordName.SameRecord` — the names are completed to the same name;
* `ZoneKeeper.UpdateRequest.SameButName`, `ZoneKeeper.Memory.Step.SameButName`,
  `ZoneKeeper.Cloudflare.Step.SameButName` — the same, under two names of one record.

Main results:

* `ZoneKeeper.RecordName.sameRecord_iff` — names of one record are equal, or one is the other's
  completed name;
* `ZoneKeeper.Reconciler.update_congr` — an update does not tell names of one record apart;
* `ZoneKeeper.Memory.Session.run_congr`, `ZoneKeeper.Cloudflare.Session.run_congr` — nor does a
  session;
* `ZoneKeeper.names_of_one_record_are_interchangeable` — **names of one record, and only those, can
  be put for each other**.
-/

import Mathlib.Data.List.Forall2
import ZoneKeeper.Cloudflare.Session
import ZoneKeeper.Proofs.OwnNames

set_option autoImplicit false

namespace ZoneKeeper

/-! ### Names of one record -/

namespace RecordName

/-- Completing adds what short names leave out, or nothing. -/
theorem complete_eq_or (name : String) : complete name = name ∨ complete name = name ++ ".co" := by
  by_cases h : isShort name = true
  · exact .inr (if_pos h)
  · exact .inl (if_neg h)

/-- The completed form of a name that ends in the token after a dot. -/
theorem complete_append_token (x : String) : complete (x ++ ".ls90") = x ++ ".ls90.co" := by
  have hshort : isShort (x ++ ".ls90") = true := by
    rw [isShort_iff, String.toList_append]
    exact List.suffix_append_of_suffix (by decide)
  rw [complete, if_pos hshort, String.append_assoc]
  rfl

/-- The two names are completed to the same name. -/
def SameRecord (name other : String) : Prop :=
  complete name = complete other

instance (name other : String) : Decidable (SameRecord name other) :=
  inferInstanceAs (Decidable (_ = _))

theorem sameRecord_complete (name : String) : SameRecord name (complete name) :=
  (complete_complete name).symm

theorem sameRecord_token (x : String) : SameRecord (x ++ ".ls90.co") (x ++ ".ls90") := by
  rw [← complete_append_token]
  exact (sameRecord_complete _).symm

/-- Names of one record are equal, or one is the other's completed name. -/
theorem sameRecord_iff {name other : String} :
    SameRecord name other ↔ name = other ∨ other = complete name ∨ name = complete other := by
  constructor
  · intro h
    by_cases hname : isShort name = true
    · by_cases hother : isShort other = true
      · rw [SameRecord, complete, complete, if_pos hname, if_pos hother] at h
        exact .inl (String.append_left_inj _ |>.1 h)
      · exact .inr (.inl ((h.trans (if_neg hother)).symm))
    · exact .inr (.inr ((if_neg hname).symm.trans h))
  · rintro (rfl | rfl | rfl)
    · rfl
    · exact sameRecord_complete _
    · exact (sameRecord_complete _).symm

end RecordName

open RecordName

/-! ### Updates -/

/-- The second request is the first, under a name of the same record. -/
structure UpdateRequest.SameButName (q other : UpdateRequest) : Prop where
  name : SameRecord q.name other.name
  address : q.address = other.address
  ttl : q.ttl = other.ttl

namespace Reconciler

variable {m : Type → Type} [Monad m]

/-- An update does not tell names of one record apart. -/
theorem update_congr (r : Reconciler m) {name other : String} (h : SameRecord name other)
    (address : Address) (ttl : Int32) : r.update other address ttl = r.update name address ttl := by
  rw [update, update, h]

/-- Nor do many updates. -/
theorem updateAll_congr (r : Reconciler m) {requests others : List UpdateRequest}
    (h : List.Forall₂ UpdateRequest.SameButName requests others) :
    r.updateAll others = r.updateAll requests := by
  induction h with
  | nil => rfl
  | cons hq _ ih =>
      rw [updateAll, updateAll, ih, ← hq.address, ← hq.ttl, r.update_congr hq.name]

/-- An update in a zone that holds every name begins with the lookup of the completed name. -/
theorem head?_calls_update {σ : Type} (p : Provider (StateM σ)) (id name : String)
    (address : Address) (ttl : Int32) (s : σ) :
    ((observed p ⟨id, ""⟩).update name address ttl ⟨s, [], []⟩).2.calls.head? =
      some (.listRecords id .a (complete name)) := by
  obtain ⟨calls, result, s', h⟩ :=
    exists_course p ⟨id, ""⟩ (complete name) address (effectiveTtl ttl) s
  rw [h.update_eq [] []]
  exact h.head?_calls (List.nil_suffix)

/-- **Names of one record are those that no update tells apart**: over no provider, in no zone and
from no state. -/
theorem sameRecord_iff_update_eq {name other : String} :
    SameRecord name other ↔
      ∀ (σ : Type) (p : Provider (StateM σ)) (zone : Zone) (address : Address) (ttl : Int32)
        (s : Recorded σ),
        (observed p zone).update other address ttl s =
          (observed p zone).update name address ttl s := by
  refine ⟨fun h σ p zone address ttl s => by rw [update_congr _ h], fun h => ?_⟩
  have hcalls := congrArg (·.2.calls.head?)
    (h Memory.Store (Memory.provider []) ⟨"", ""⟩ ⟨0, 0, 0, 0⟩ 0 ⟨{}, [], []⟩)
  rw [head?_calls_update, head?_calls_update] at hcalls
  injection hcalls with hcall
  injection hcall with _ _ hname
  exact hname.symm

end Reconciler

/-! ### Sessions in memory -/

namespace Memory

/-- The second step is the first, or the first under a name of the same record. -/
inductive Step.SameButName : Step → Step → Prop
  | same (x : Step) : SameButName x x
  | update {name other : String} (reconciler : Nat) (address : String) (ttl : Int32) :
      SameRecord name other →
      SameButName (.update reconciler name address ttl) (.update reconciler other address ttl)

namespace Session

theorem perform_congr (s : Session) {x other : Step} (h : x.SameButName other) :
    s.perform other = s.perform x := by
  cases h with
  | same => rfl
  | update reconciler address ttl hname =>
      simp only [perform, Reconciler.update_congr _ hname]

/-- A session in memory does not tell names of one record apart, in whichever of its steps. -/
theorem run_congr (s : Session) {steps others : List (Option String × Step)}
    (h : List.Forall₂ (fun x other => x.1 = other.1 ∧ x.2.SameButName other.2) steps others) :
    s.run others = s.run steps := by
  induction h generalizing s with
  | nil => rfl
  | cons hstep _ ih =>
      obtain ⟨hwatched, hsame⟩ := hstep
      simp only [run, step, ← hwatched, perform_congr _ hsame, ih]

end Session

end Memory

/-! ### Sessions on the Cloudflare API -/

namespace Cloudflare

/-- The second step is the first, or the first under a name of the same record. -/
inductive Step.SameButName : Step → Step → Prop
  | same (x : Step) : SameButName x x
  | update {name other : String} (address : String) (ttl : Int32) : SameRecord name other →
      SameButName (.update name address ttl) (.update other address ttl)

namespace Session

theorem perform_congr (s : Session) {x other : Step} (h : x.SameButName other) :
    s.perform other = s.perform x := by
  cases h with
  | same => rfl
  | update address ttl hname =>
      simp only [perform, Reconciler.update_congr _ hname]

/-- A session on the API does not tell names of one record apart, in whichever of its steps and
whatever the replies. -/
theorem run_congr (host : Option Http.WebOrigin) (s : Session)
    {steps others : List (Step × List Http.Canned)}
    (h : List.Forall₂ (fun x other => x.1.SameButName other.1 ∧ x.2 = other.2) steps others) :
    s.run host others = s.run host steps := by
  induction h generalizing s with
  | nil => rfl
  | cons hstep _ ih =>
      obtain ⟨hsame, hqueue⟩ := hstep
      simp only [run, step, ← hqueue, perform_congr _ hsame, ih]

end Session

end Cloudflare

/-! ### All of it -/

/-- **Names of one record, and only those, can be put for each other.**  A completed name is
complete and is the name itself or the name with `.co` behind it.  A name and its completed name are
names of one record, and so are `x.ls90.co` and `x.ls90`.  Two names are names of one record exactly
if an update from the same state, over any provider and in any zone, gives the same result, calls,
log and final state under both.  Putting names of one record for each other in any of many updates,
or in any step of a session, changes nothing that is answered then or later. -/
theorem names_of_one_record_are_interchangeable :
    (∀ name : String, complete (complete name) = complete name ∧
      (complete name = name ∨ complete name = name ++ ".co") ∧
      SameRecord name (complete name)) ∧
    (∀ x : String, SameRecord (x ++ ".ls90.co") (x ++ ".ls90")) ∧
    (∀ name other : String, SameRecord name other ↔
      ∀ (σ : Type) (p : Provider (StateM σ)) (zone : Zone) (address : Address) (ttl : Int32)
        (s : Recorded σ),
        (Reconciler.observed p zone).update other address ttl s =
          (Reconciler.observed p zone).update name address ttl s) ∧
    (∀ (σ : Type) (p : Provider (StateM σ)) (zone : Zone) (requests others : List UpdateRequest),
      List.Forall₂ UpdateRequest.SameButName requests others →
      ∀ s : Recorded σ, (Reconciler.observed p zone).updateAll others s =
        (Reconciler.observed p zone).updateAll requests s) ∧
    (∀ (s : Memory.Session) (steps others : List (Option String × Memory.Step)),
      List.Forall₂ (fun x other => x.1 = other.1 ∧ x.2.SameButName other.2) steps others →
      s.run others = s.run steps) ∧
    ∀ (host : Option Http.WebOrigin) (s : Cloudflare.Session)
      (steps others : List (Cloudflare.Step × List Http.Canned)),
      List.Forall₂ (fun x other => x.1.SameButName other.1 ∧ x.2 = other.2) steps others →
      s.run host others = s.run host steps := by
  refine ⟨fun name => ?_, sameRecord_token, ?_, ?_, ?_, ?_⟩
  · exact ⟨complete_complete name, complete_eq_or name, sameRecord_complete name⟩
  · intro name other
    exact Reconciler.sameRecord_iff_update_eq
  · intro σ p zone requests others h s
    rw [Reconciler.updateAll_congr _ h]
  · intro s steps others h
    exact s.run_congr h
  · intro host s steps others h
    exact s.run_congr host h

/-- In a zone that holds the short names' domain, `home.ls90` and `home.ls90.co` are one record. -/
theorem short_name_is_put_for_completed_name :
    let s := ((Memory.Session.start [("ls90.co", "zone-123")]).step (.bind 0 "ls90.co")).2
    let steps : List (Option String × Memory.Step) :=
      [(none, .update 0 "home.ls90.co" "1.2.3.4" 300), (none, .update 0 "home.ls90" "1.2.3.4" 300)]
    let others : List (Option String × Memory.Step) :=
      [(none, .update 0 "home.ls90" "1.2.3.4" 300), (none, .update 0 "home.ls90" "1.2.3.4" 300)]
    List.Forall₂ (fun x other => x.1 = other.1 ∧ x.2.SameButName other.2) steps others ∧
      s.run others = s.run steps ∧
      (s.run steps).1.map Memory.Report.result =
        [.outcome (.created "home.ls90.co" "rec-1" ⟨1, 2, 3, 4⟩ 300),
          .outcome (.unchanged "home.ls90.co" ⟨1, 2, 3, 4⟩)] := by
  intro s steps others
  have hsame : List.Forall₂ (fun x other => x.1 = other.1 ∧ x.2.SameButName other.2)
      steps others :=
    .cons ⟨rfl, .update 0 "1.2.3.4" 300 (sameRecord_token "home")⟩ (.cons ⟨rfl, .same _⟩ .nil)
  obtain ⟨-, -, -, -, hsession, -⟩ := names_of_one_record_are_interchangeable
  exact ⟨hsame, hsession s steps others hsame, by decide +kernel⟩

end ZoneKeeper
