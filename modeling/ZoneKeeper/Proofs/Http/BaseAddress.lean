/-
**Addresses with one base.**

A client writes each of its addresses as its base, a slash and more.  Scheme and authority are read
before that slash, so all these addresses lead to the place that the base leads to.  What stands at
the end of the address is at the end of what the request asks for, unless a fragment begins before
it: a fragment is not part of a request.

Main definitions:

* `ZoneKeeper.Http.Url.isPlain` — the characters that stand for themselves in every part;
* `ZoneKeeper.Http.Url.authorityText`, `ZoneKeeper.Http.Url.pathText` — the text of a web address up
  to its query, in two parts.

Main results:

* `ZoneKeeper.Http.Url.parse?_append_slash` — **every address with a base leads where the base
  leads**;
* `ZoneKeeper.Http.Url.parse?_below_directory` — the same for two addresses below one directory;
* `ZoneKeeper.Http.Url.suffix_target` — **plain names at the end are at the end of the target**;
* `ZoneKeeper.Http.Url.length_chars_le_withQuery` — adding a query makes no address shorter.
-/

import Mathlib.Data.List.TakeWhile
import Mathlib.Tactic.Set
import ZoneKeeper.Http.Url

set_option autoImplicit false

namespace ZoneKeeper.Http.Url

open ZoneKeeper.Text

/-! ### Cutting a list at a character -/

section

variable {α : Type} {f : α → Bool} {c : α}

/-- Dropping stops at an element that is kept. -/
theorem dropWhile_append_cons (hc : f c = false) (xs ys : List α) :
    (xs ++ c :: ys).dropWhile f = xs.dropWhile f ++ c :: ys := by
  induction xs with
  | nil => simp [hc]
  | cons x xs ih =>
      by_cases hx : f x = true
      · simp [hx, ih]
      · simp [hx]

/-- Taking stops at an element that is not taken. -/
theorem takeWhile_append_cons (hc : f c = false) (xs ys : List α) :
    (xs ++ c :: ys).takeWhile f = xs.takeWhile f := by
  induction xs with
  | nil => simp [hc]
  | cons x xs ih =>
      by_cases hx : f x = true
      · simp [hx, ih]
      · simp [hx]

end

/-! ### Cleaning -/

/-- Is dropped at either end. -/
def isOuter (c : Char) : Bool :=
  decide (c.toNat ≤ 0x20)

/-- Is not dropped everywhere. -/
def isKept (c : Char) : Bool :=
  !(c == '\t' || c == '\n' || c == '\r')

theorem isKept_of_not_isOuter {c : Char} (hc : isOuter c = false) : isKept c = true := by
  simp only [isKept, Bool.not_eq_true', Bool.or_eq_false_iff, beq_eq_false_iff_ne]
  refine ⟨⟨?_, ?_⟩, ?_⟩ <;> rintro rfl <;> exact absurd hc (by decide)

/-- What cleaning leaves in front of a character that it keeps. -/
def cleanFront (cs : List Char) : List Char :=
  (cs.dropWhile isOuter).filter isKept

/-- What cleaning leaves behind a character that it keeps. -/
def cleanBack (cs : List Char) : List Char :=
  (cs.reverse.dropWhile isOuter).reverse.filter isKept

theorem clean_append_cons {c : Char} (hc : isOuter c = false) (front back : List Char) :
    clean (front ++ c :: back) = cleanFront front ++ c :: cleanBack back := by
  -- neither end is cut any further than to a character that stays
  change List.filter isKept
    (((front ++ c :: back).dropWhile isOuter).reverse.dropWhile isOuter).reverse = _
  rw [dropWhile_append_cons hc, List.reverse_append, List.reverse_cons, List.append_assoc,
    List.singleton_append, dropWhile_append_cons hc]
  simp [cleanFront, cleanBack, isKept_of_not_isOuter hc]

theorem cleanBack_append_cons {c : Char} (hc : isOuter c = false) (front back : List Char) :
    cleanBack (front ++ c :: back) = front.filter isKept ++ c :: cleanBack back := by
  rw [cleanBack, List.reverse_append, List.reverse_cons, List.append_assoc,
    List.singleton_append, dropWhile_append_cons hc]
  simp [cleanBack, isKept_of_not_isOuter hc]

theorem cleanBack_of_forall {cs : List Char} (h : ∀ c ∈ cs, isOuter c = false) :
    cleanBack cs = cs := by
  have hdrop : cs.reverse.dropWhile isOuter = cs.reverse := by
    cases hr : cs.reverse with
    | nil => rfl
    | cons c r =>
        have hc : c ∈ cs := List.mem_reverse.1 (hr ▸ List.mem_cons_self)
        simp [h c hc]
  rw [cleanBack, hdrop, List.reverse_reverse, List.filter_eq_self]
  exact fun c hc => isKept_of_not_isOuter (h c hc)

theorem isOuter_slash : isOuter '/' = false := by decide

/-! ### Scheme, query and fragment -/

/-- The scheme ends before a slash. -/
theorem splitScheme?_append_slash (cs more : List Char) :
    splitScheme? (cs ++ '/' :: more) =
      (splitScheme? cs).map fun p => (p.1, p.2 ++ '/' :: more) := by
  have hslash : standsInScheme '/' = false := by decide
  cases cs with
  | nil => rfl
  | cons c cs =>
      by_cases hc : c.isAlpha
      · simp only [List.cons_append, splitScheme?, hc, Bool.not_true, Bool.false_eq_true,
          if_false]
        rw [← List.cons_append, dropWhile_append_cons hslash, takeWhile_append_cons hslash]
        cases hd : (c :: cs).dropWhile standsInScheme with
        | nil => rfl
        | cons d ds =>
            by_cases hcolon : d = ':'
            · subst hcolon
              rfl
            · simp [hcolon]
      · simp [splitScheme?, hc]

/-- What follows the scheme is the end of the text. -/
theorem suffix_of_splitScheme? {cs scheme rest : List Char}
    (h : splitScheme? cs = some (scheme, rest)) : rest <:+ cs := by
  cases cs with
  | nil => cases h
  | cons c cs =>
      by_cases hc : c.isAlpha
      · simp only [splitScheme?, hc, Bool.not_true, Bool.false_eq_true, if_false] at h
        split at h
        · next r hd =>
            obtain ⟨-, rfl⟩ := Prod.mk.inj (Option.some.inj h)
            exact (List.suffix_cons ':' r).trans (hd ▸ List.dropWhile_suffix _)
        · cases h
      · simp [splitScheme?, hc] at h

theorem splitAtMark_cons (mark c : Char) (cs : List Char) :
    splitAtMark mark (c :: cs) =
      if c = mark then ([], some cs)
      else (c :: (splitAtMark mark cs).1, (splitAtMark mark cs).2) := by
  by_cases hc : c = mark
  · simp [splitAtMark, hc]
  · have hne : (c != mark) = true := bne_iff_ne.2 hc
    simp only [splitAtMark, List.dropWhile_cons, List.takeWhile_cons, hne, if_true, if_neg hc]
    cases cs.dropWhile (· != mark) with
    | nil => rfl
    | cons d ds => rfl

theorem splitAtMark_of_not_mem {mark : Char} {cs : List Char} (h : mark ∉ cs) :
    splitAtMark mark cs = (cs, none) := by
  induction cs with
  | nil => rfl
  | cons c cs ih =>
      rw [List.mem_cons, not_or] at h
      rw [splitAtMark_cons, if_neg (Ne.symm h.1), ih h.2]

/-- A mark in the first part is the first one. -/
theorem splitAtMark_append_of_mem {mark : Char} {xs : List Char} (h : mark ∈ xs)
    (ys : List Char) :
    splitAtMark mark (xs ++ ys) =
      ((splitAtMark mark xs).1, (splitAtMark mark xs).2.map (· ++ ys)) := by
  induction xs with
  | nil => cases h
  | cons x xs ih =>
      rw [List.cons_append, splitAtMark_cons, splitAtMark_cons]
      by_cases hx : x = mark
      · simp [hx]
      · rw [if_neg hx, if_neg hx, ih ((List.mem_cons.1 h).resolve_left (Ne.symm hx))]

theorem splitAtMark_append_of_not_mem {mark : Char} {xs : List Char} (h : mark ∉ xs)
    (ys : List Char) :
    splitAtMark mark (xs ++ ys) = (xs ++ (splitAtMark mark ys).1, (splitAtMark mark ys).2) := by
  induction xs with
  | nil => rfl
  | cons x xs ih =>
      rw [List.mem_cons, not_or] at h
      rw [List.cons_append, splitAtMark_cons, if_neg (Ne.symm h.1), ih h.2, List.cons_append]

theorem splitAtMark_snd_isSome {mark : Char} {cs : List Char} (h : mark ∈ cs) :
    (splitAtMark mark cs).2.isSome = true := by
  induction cs with
  | nil => cases h
  | cons c cs ih =>
      rw [splitAtMark_cons]
      by_cases hc : c = mark
      · simp [hc]
      · rw [if_neg hc]
        exact ih ((List.mem_cons.1 h).resolve_left (Ne.symm hc))

/-- The text up to the query and the fragment. -/
def beforeQuery (rest : List Char) : List Char :=
  (splitAtMark '?' (splitAtMark '#' rest).1).1

/-- What follows a slash matters up to the query only if the query has not begun. -/
theorem beforeQuery_append_slash (rest : List Char) :
    (∀ more, beforeQuery (rest ++ '/' :: more) = beforeQuery rest) ∨
      ∀ more, beforeQuery (rest ++ '/' :: more) = rest ++ '/' :: beforeQuery more := by
  by_cases hf : '#' ∈ rest
  · refine .inl fun more => ?_
    rw [beforeQuery, splitAtMark_append_of_mem hf, beforeQuery]
  · by_cases hq : '?' ∈ rest
    · refine .inl fun more => ?_
      rw [beforeQuery, splitAtMark_append_of_not_mem hf, splitAtMark_append_of_mem hq,
        beforeQuery, splitAtMark_of_not_mem hf]
    · refine .inr fun more => ?_
      rw [beforeQuery, splitAtMark_append_of_not_mem hf, splitAtMark_append_of_not_mem hq,
        splitAtMark_cons, if_neg (by decide), splitAtMark_cons, if_neg (by decide), beforeQuery]

/-! ### Authority and path -/

/-- The authority of a web address, in the text up to its query. -/
def authorityText (cs : List Char) : List Char :=
  (splitAtSlash true (cs.dropWhile (isSlash true))).1

/-- The path of a web address, in the text up to its query. -/
def pathText (cs : List Char) : List Char :=
  (splitAtSlash true (cs.dropWhile (isSlash true))).2

theorem webPlace?_eq (scheme cs : List Char) :
    webPlace? scheme cs =
      (Authority.parse? scheme (authorityText cs)).map fun a =>
        (some a.1, Path.ofNames (namesAfterSlash true (pathText cs))) := rfl

theorem parse?_of_isWeb {cs scheme rest : List Char}
    (hs : splitScheme? (clean cs) = some (scheme, rest)) (hw : isWeb scheme = true) :
    parse? cs =
      (Authority.parse? scheme (authorityText (beforeQuery rest))).map fun a =>
        ⟨scheme, some a.1, Path.ofNames (namesAfterSlash true (pathText (beforeQuery rest))),
          (splitAtMark '?' (splitAtMark '#' rest).1).2.map
            (percentEncode (standsInQuery (isKnown scheme))),
          (splitAtMark '#' rest).2.map (percentEncode standsInFragment)⟩ := by
  rw [parse?, hs]
  simp only [place?, hw, if_true, webPlace?_eq, Option.map_map]
  rfl

theorem scheme_of_parse? {cs : List Char} {u : Url} (h : parse? cs = some u) :
    ∃ rest, splitScheme? (clean cs) = some (u.scheme, rest) := by
  rw [parse?] at h
  cases hs : splitScheme? (clean cs) with
  | none => rw [hs] at h; cases h
  | some p =>
      rw [hs] at h
      obtain ⟨place, -, rfl⟩ := Option.map_eq_some_iff.1 h
      exact ⟨p.2, rfl⟩

/-- Slashes in front of an authority do not count, and it ends at the next one. -/
theorem authorityText_append_slash {cs : List Char} (h : cs.dropWhile (isSlash true) ≠ [])
    (more : List Char) :
    authorityText (cs ++ '/' :: more) = authorityText cs ∧
      pathText (cs ++ '/' :: more) = pathText cs ++ '/' :: more := by
  have hslash : (fun c => !isSlash true c) '/' = false := by decide
  have hdrop : (cs ++ '/' :: more).dropWhile (isSlash true) =
      cs.dropWhile (isSlash true) ++ '/' :: more := by
    rw [List.dropWhile_append, if_neg (by simpa using h)]
  simp only [authorityText, pathText, splitAtSlash, hdrop]
  exact ⟨takeWhile_append_cons (f := fun c => !isSlash true c) hslash _ _,
    dropWhile_append_cons (f := fun c => !isSlash true c) hslash _ _⟩

theorem authorityText_of_dropWhile_eq_nil {cs : List Char}
    (h : cs.dropWhile (isSlash true) = []) : authorityText (cs ++ ['/']) = [] := by
  have hdrop : (cs ++ ['/']).dropWhile (isSlash true) = [] := by
    rw [List.dropWhile_append, if_pos (by simpa using h)]
    decide
  rw [authorityText, hdrop]
  rfl

/-- A web address needs a host. -/
theorem Authority.parse?_nil {scheme : List Char} (hw : isWeb scheme = true) :
    Authority.parse? scheme [] = none := by
  have hhost : Authority.host? scheme [] = none := by
    rw [Authority.host?, if_pos hw]
    decide +kernel
  simp [Authority.parse?, Authority.splitCredentials, Authority.splitHost, fields, hhost]

theorem Authority.isPresent_of_parse? {scheme cs more : List Char} {a : Authority}
    (hw : isWeb scheme = true) (h : Authority.parse? scheme cs = some (a, more)) :
    a.host.isPresent = true := by
  rw [Authority.parse?] at h
  dsimp only at h
  split at h
  · cases h
  · split at h
    · split at h
      · cases h
      · next hpresent =>
          cases h
          rw [not_and_or, not_not] at hpresent
          exact hpresent.resolve_right fun hn => hn (.inl hw)
    · cases h

theorem hasHost_of_parse? {cs : List Char} {u : Url} (hu : parse? cs = some u)
    (hw : isWeb u.scheme = true) : u.hasHost = true := by
  obtain ⟨rest, hs⟩ := scheme_of_parse? hu
  rw [parse?_of_isWeb hs hw, Option.map_eq_some_iff] at hu
  obtain ⟨a, ha, he⟩ := hu
  have hauthority : some a.1 = u.authority := (congrArg authority he :)
  rw [hasHost, ← hauthority]
  exact Authority.isPresent_of_parse? hw ha

/-! ### One base -/

/-- What follows the slash behind an authority is no part of it. -/
theorem authorityText_of_same_front {rest : List Char} (hrest : rest.dropWhile (isSlash true) ≠ [])
    (more other : List Char) :
    authorityText (beforeQuery (rest ++ '/' :: more)) =
      authorityText (beforeQuery (rest ++ '/' :: other)) := by
  rcases beforeQuery_append_slash rest with hb | hb
  · rw [hb, hb]
  · rw [hb, hb, (authorityText_append_slash hrest _).1, (authorityText_append_slash hrest _).1]

/-- The authority of a web address. -/
theorem map_authority_parse? {cs scheme rest : List Char}
    (hs : splitScheme? (clean cs) = some (scheme, rest)) (hw : isWeb scheme = true) :
    (parse? cs).map authority =
      (Authority.parse? scheme (authorityText (beforeQuery rest))).map fun a => some a.1 := by
  rw [parse?_of_isWeb hs hw, Option.map_map]
  rfl

/-- Two web addresses that differ behind a slash after the authority lead to one place. -/
theorem parse?_of_same_front {cs ds scheme rest more other : List Char} {u : Url}
    (hu : parse? cs = some u) (hw : isWeb u.scheme = true)
    (hc : splitScheme? (clean cs) = some (scheme, rest ++ '/' :: more))
    (hd : splitScheme? (clean ds) = some (scheme, rest ++ '/' :: other))
    (hrest : rest.dropWhile (isSlash true) ≠ []) :
    ∃ v, parse? ds = some v ∧ v.scheme = u.scheme ∧ v.authority = u.authority := by
  obtain ⟨_, hscheme⟩ := scheme_of_parse? hu
  obtain rfl : scheme = u.scheme := congrArg Prod.fst (Option.some.inj (hc.symm.trans hscheme))
  have hsame := authorityText_of_same_front hrest more other
  rw [parse?_of_isWeb hc hw, Option.map_eq_some_iff] at hu
  obtain ⟨a, ha, he⟩ := hu
  rw [parse?_of_isWeb hd hw, ← hsame, ha]
  exact ⟨_, rfl, rfl, (congrArg authority he :)⟩

/-- The base of a web address has something between its scheme and the slash that follows it. -/
theorem host_in_base {base : List Char} {u : Url} (hu : parse? (base ++ ['/']) = some u)
    (hw : isWeb u.scheme = true) :
    ∃ rest, splitScheme? (cleanFront base) = some (u.scheme, rest) ∧
      rest.dropWhile (isSlash true) ≠ [] := by
  have hsplit : splitScheme? (clean (base ++ ['/'])) =
      (splitScheme? (cleanFront base)).map fun p => (p.1, p.2 ++ ['/']) := by
    rw [clean_append_cons isOuter_slash, splitScheme?_append_slash]
    rfl
  obtain ⟨_, hscheme⟩ := scheme_of_parse? hu
  obtain ⟨⟨scheme, rest⟩, hs, he⟩ := Option.map_eq_some_iff.1 (hsplit ▸ hscheme)
  obtain rfl : scheme = u.scheme := congrArg Prod.fst he
  refine ⟨rest, hs, fun hnil => ?_⟩
  have hmark : ∀ mark, isSlash true mark = false → mark ∉ rest ++ ['/'] := by
    intro mark hm hmem
    rcases List.mem_append.1 hmem with hmem | hmem
    · exact absurd (List.dropWhile_eq_nil_iff.1 hnil mark hmem) (by simp [hm])
    · obtain rfl := List.mem_singleton.1 hmem
      exact absurd hm (by decide)
  have hb : beforeQuery (rest ++ ['/']) = rest ++ ['/'] := by
    rw [beforeQuery, splitAtMark_of_not_mem (hmark '#' (by decide)),
      splitAtMark_of_not_mem (hmark '?' (by decide))]
  rw [hs] at hsplit
  rw [parse?_of_isWeb hsplit hw, hb, authorityText_of_dropWhile_eq_nil hnil,
    Authority.parse?_nil hw] at hu
  cases hu

/-- **Every address with a base leads where the base leads.**  The base is read with the slash that
follows it. -/
theorem parse?_append_slash {base : List Char} {u : Url} (hu : parse? (base ++ ['/']) = some u)
    (hw : isWeb u.scheme = true) (more : List Char) :
    ∃ v, parse? (base ++ '/' :: more) = some v ∧ v.scheme = u.scheme ∧
      v.authority = u.authority := by
  obtain ⟨rest, hs, hrest⟩ := host_in_base hu hw
  have hsplit : ∀ more, splitScheme? (clean (base ++ '/' :: more)) =
      some (u.scheme, rest ++ '/' :: cleanBack more) := by
    intro more
    rw [clean_append_cons isOuter_slash, splitScheme?_append_slash, hs, Option.map_some]
  exact parse?_of_same_front hu hw (hsplit []) (hsplit more) hrest

/-- Two web addresses below one directory, of which one is read, lead to one place. -/
theorem parse?_below_directory {base dir more : List Char} {u : Url}
    (hdir : ∀ c ∈ dir, isOuter c = false) (hname : ∃ c ∈ dir, isSlash true c = false)
    (hu : parse? (base ++ '/' :: (dir ++ '/' :: more)) = some u) (hw : isWeb u.scheme = true)
    (other : List Char) :
    ∃ v, parse? (base ++ '/' :: (dir ++ '/' :: other)) = some v ∧ v.scheme = u.scheme ∧
      v.authority = u.authority := by
  have hfilter : dir.filter isKept = dir :=
    List.filter_eq_self.2 fun c hc => isKept_of_not_isOuter (hdir c hc)
  have hsplit : ∀ more, splitScheme? (clean (base ++ '/' :: (dir ++ '/' :: more))) =
      (splitScheme? (cleanFront base)).map fun p =>
        (p.1, (p.2 ++ '/' :: dir) ++ '/' :: cleanBack more) := by
    intro more
    rw [clean_append_cons isOuter_slash, cleanBack_append_cons isOuter_slash, hfilter,
      splitScheme?_append_slash]
    simp only [List.append_assoc, List.cons_append]
  obtain ⟨rest', hscheme⟩ := scheme_of_parse? hu
  rw [hsplit, Option.map_eq_some_iff] at hscheme
  obtain ⟨⟨scheme, rest⟩, hs, he⟩ := hscheme
  have hc := hsplit more
  have hd := hsplit other
  rw [hs] at hc hd
  -- the directory's own name keeps the text before its slash from being slashes alone
  refine parse?_of_same_front hu hw hc hd fun hnil => ?_
  obtain ⟨c, hc, hslash⟩ := hname
  have hall := List.dropWhile_eq_nil_iff.1 hnil c
    (List.mem_append_right _ (List.mem_cons_of_mem _ hc))
  rw [hslash] at hall
  cases hall

/-! ### Plain names at the end -/

/-- Stands for itself in every part of an address: a letter or digit of ASCII, a hyphen or an
underscore. -/
def isPlain (c : Char) : Bool :=
  c.isAlphanum || c == '-' || c == '_'

/-- What the parts of an address make of a plain character. -/
structure StandsAsItIs (c : Char) : Prop where
  not_isOuter : isOuter c = false
  ne_hash : c ≠ '#'
  ne_question : c ≠ '?'
  not_isSlash : isSlash true c = false
  standsInName : Path.standsInName c = true
  standsInQuery : ∀ known, standsInQuery known c = true
  toLower_ne_dot : c.toLower ≠ '.'
  toLower_ne_percent : c.toLower ≠ '%'

theorem standsAsItIs_of_isPlain {c : Char} (hc : isPlain c = true) : StandsAsItIs c := by
  have hlt : c.toNat < 128 := by
    -- the classes of letters and digits in full
    change (((decide (c.val ≥ 65 ∧ c.val ≤ 90) || (c.val ≥ 97 && c.val ≤ 122)) ||
      (c.val ≥ 48 && c.val ≤ 57)) || c == '-' || c == '_') = true at hc
    simp only [Bool.or_eq_true, Bool.and_eq_true, decide_eq_true_eq, beq_iff_eq,
      UInt32.le_iff_toNat_le, ge_iff_le] at hc
    rcases hc with (((⟨-, h⟩ | ⟨-, h⟩) | ⟨-, h⟩) | rfl) | rfl
    · exact h.trans_lt (by decide)
    · exact h.trans_lt (by decide)
    · exact h.trans_lt (by decide)
    · decide
    · decide
  -- only the characters of ASCII are left, and those can be gone through
  have hall : ∀ n < 128, isPlain (Char.ofNat n) = true →
      let c := Char.ofNat n
      isOuter c = false ∧ c ≠ '#' ∧ c ≠ '?' ∧ isSlash true c = false ∧
        Path.standsInName c = true ∧ (∀ known, Url.standsInQuery known c = true) ∧
        c.toLower ≠ '.' ∧ c.toLower ≠ '%' := by decide +kernel
  obtain ⟨h1, h2, h3, h4, h5, h6, h7, h8⟩ := hall c.toNat hlt (by rwa [Char.ofNat_toNat])
  rw [Char.ofNat_toNat] at *
  exact ⟨h1, h2, h3, h4, h5, h6, h7, h8⟩

theorem percentEncode_of_forall {stands : Char → Bool} {cs : List Char}
    (h : ∀ c ∈ cs, stands c = true) : percentEncode stands cs = cs := by
  induction cs with
  | nil => rfl
  | cons c cs ih =>
      rw [percentEncode, List.flatMap_cons, if_pos (h c List.mem_cons_self)]
      exact congrArg (c :: ·) (ih fun d hd => h d (List.mem_cons_of_mem c hd))

theorem percentEncode_append (stands : Char → Bool) (xs ys : List Char) :
    percentEncode stands (xs ++ ys) = percentEncode stands xs ++ percentEncode stands ys :=
  List.flatMap_append

/-- A name of plain characters. -/
def IsPlainName (name : List Char) : Prop :=
  ∀ c ∈ name, isPlain c = true

instance (name : List Char) : Decidable (IsPlainName name) :=
  decidable_of_iff (name.all isPlain = true) List.all_eq_true

section

variable {name : List Char} (h : IsPlainName name)

include h

theorem IsPlainName.not_isSameDirectory : Path.isSameDirectory name = false := by
  cases name with
  | nil => rfl
  | cons c cs =>
      have hc := standsAsItIs_of_isPlain (h c List.mem_cons_self)
      have hdot : c ≠ '.' := by
        rintro rfl
        exact hc.toLower_ne_dot rfl
      simp [Path.isSameDirectory, hdot, hc.toLower_ne_percent]

theorem IsPlainName.not_isParentDirectory : Path.isParentDirectory name = false := by
  cases name with
  | nil => rfl
  | cons c cs =>
      have hc := standsAsItIs_of_isPlain (h c List.mem_cons_self)
      simp [Path.isParentDirectory, hc.toLower_ne_dot, hc.toLower_ne_percent]

theorem IsPlainName.percentEncode_eq : percentEncode Path.standsInName name = name :=
  percentEncode_of_forall fun c hc => (standsAsItIs_of_isPlain (h c hc)).standsInName

end

/-- Walking along names in front of others comes to the others. -/
theorem walk_append (more names done : List (List Char)) :
    ∃ before, Path.walk false done (names ++ more) = Path.walk false before more := by
  induction names generalizing done with
  | nil => exact ⟨done, rfl⟩
  | cons name names ih =>
      rw [List.cons_append, Path.walk]
      simp only [Bool.false_eq_true, false_and, if_false]
      split
      · exact ih _
      · split
        · exact ih _
        · exact ih _

theorem walk_plain {names : List (List Char)} (h : ∀ name ∈ names, IsPlainName name)
    (done : List (List Char)) : Path.walk false done names = done.reverse ++ names := by
  induction names generalizing done with
  | nil => simp [Path.walk]
  | cons name names ih =>
      have hname := h name List.mem_cons_self
      rw [Path.walk, if_neg (by simp [hname.not_isParentDirectory]),
        if_neg (by simp [hname.not_isSameDirectory]), if_neg (by simp), hname.percentEncode_eq,
        ih fun n hn => h n (List.mem_cons_of_mem name hn)]
      simp

/-- Plain names at the end of a path are at the end of its text. -/
theorem suffix_ofNames {more : List (List Char)} (hmore : more ≠ [])
    (h : ∀ name ∈ more, IsPlainName name) (names : List (List Char)) :
    '/' :: joinFields '/' more <:+ Path.ofNames (names ++ more) := by
  obtain ⟨before, hwalk⟩ := walk_append more names []
  rw [Path.ofNames, hwalk, walk_plain h]
  by_cases hb : before.reverse = []
  · rw [hb]
    exact List.suffix_refl _
  · rw [joinFields_append hb hmore]
    exact ⟨'/' :: joinFields '/' before.reverse, rfl⟩

theorem names_append_slash (known : Bool) (xs ys : List Char) :
    names known (xs ++ '/' :: ys) = names known xs ++ names known ys := by
  have hslash : isSlash known '/' = true := by simp [isSlash]
  rw [names, List.map_append, List.map_cons, if_pos hslash, fields_append_cons]
  rfl

/-- Plain names with slashes between them hold no other marks. -/
theorem standsAsItIs_or_slash {more : List (List Char)} (h : ∀ name ∈ more, IsPlainName name)
    {c : Char} (hc : c ∈ joinFields '/' more) : c = '/' ∨ StandsAsItIs c := by
  rcases mem_joinFields hc with hc | ⟨name, hname, hc⟩
  · exact .inl hc
  · exact .inr (standsAsItIs_of_isPlain (h name hname c hc))

theorem names_joinFields {more : List (List Char)} (hmore : more ≠ [])
    (h : ∀ name ∈ more, IsPlainName name) : names true (joinFields '/' more) = more := by
  have hmap : (joinFields '/' more).map (fun c => if isSlash true c then '/' else c) =
      joinFields '/' more := by
    refine (List.map_congr_left fun c hc => ?_).trans (List.map_id _)
    rcases standsAsItIs_or_slash h hc with rfl | hc
    · rfl
    · simp [hc.not_isSlash]
  rw [names, hmap]
  refine fields_joinFields hmore fun name hname hmem => ?_
  exact absurd (standsAsItIs_of_isPlain (h name hname _ hmem)).not_isSlash (by decide)

theorem namesAfterSlash_append_slash (xs ys : List Char) :
    ∃ before, namesAfterSlash true (xs ++ '/' :: ys) = before ++ names true ys := by
  cases xs with
  | nil => exact ⟨[], rfl⟩
  | cons x xs =>
      by_cases hx : isSlash true x = true
      · refine ⟨names true xs, ?_⟩
        rw [List.cons_append, namesAfterSlash, if_pos hx, names_append_slash]
      · refine ⟨names true (x :: xs), ?_⟩
        rw [List.cons_append, namesAfterSlash, if_neg hx, ← List.cons_append, names_append_slash]

theorem cleanBack_append_plain {names : List (List Char)} (h : ∀ name ∈ names, IsPlainName name)
    (dir : List Char) :
    cleanBack (dir ++ '/' :: joinFields '/' names) =
      dir.filter isKept ++ '/' :: joinFields '/' names := by
  rw [cleanBack_append_cons isOuter_slash, cleanBack_of_forall]
  intro c hc
  rcases standsAsItIs_or_slash h hc with rfl | hc
  · exact isOuter_slash
  · exact hc.not_isOuter

/-- **Plain names at the end of an address are at the end of what the request asks for**, if no
fragment begins before them. -/
theorem suffix_target {base dir : List Char} {names : List (List Char)} {u v : Url}
    (hu : parse? (base ++ ['/']) = some u) (hw : isWeb u.scheme = true)
    (hbase : '#' ∉ base) (hdir : '#' ∉ dir)
    (hne : names ≠ []) (hnames : ∀ name ∈ names, IsPlainName name)
    (hv : parse? (base ++ '/' :: (dir ++ '/' :: joinFields '/' names)) = some v) :
    '/' :: joinFields '/' names <:+ v.target.toList := by
  obtain ⟨rest, hs, hrest⟩ := host_in_base hu hw
  have hchars : ∀ c ∈ '/' :: joinFields '/' names, c = '/' ∨ StandsAsItIs c := fun c hc =>
    (List.mem_cons.1 hc).elim .inl (standsAsItIs_or_slash hnames)
  set ending := '/' :: joinFields '/' names with hending
  set front := rest ++ '/' :: dir.filter isKept with hfront
  have hsplit : splitScheme? (clean (base ++ '/' :: (dir ++ ending))) =
      some (u.scheme, front ++ ending) := by
    rw [clean_append_cons isOuter_slash, splitScheme?_append_slash, hs, Option.map_some,
      cleanBack_append_plain hnames, hfront, List.append_assoc, List.cons_append]
  -- plain names hold no mark, so a fragment would have to begin in the base or the directory
  have hhash : '#' ∉ front ++ ending := by
    have hendHash : '#' ∉ ending := fun h =>
      (hchars _ h).elim (by decide) fun hc => hc.ne_hash rfl
    have hrestHash : '#' ∉ rest := fun h =>
      hbase ((List.dropWhile_sublist _).subset
        ((List.filter_sublist).subset ((suffix_of_splitScheme? hs).subset h)))
    have hdirHash : '#' ∉ dir.filter isKept := fun h => hdir (List.mem_filter.1 h).1
    simp [hfront, hrestHash, hdirHash, hendHash]
  rw [parse?_of_isWeb hsplit hw, Option.map_eq_some_iff] at hv
  obtain ⟨a, -, rfl⟩ := hv
  rw [target, String.toList_ofList, splitAtMark_of_not_mem hhash]
  by_cases hq : '?' ∈ front
  · -- the names are in the query
    obtain ⟨query, hquery⟩ := Option.isSome_iff_exists.1 (splitAtMark_snd_isSome hq)
    have hstands : percentEncode (standsInQuery (isKnown u.scheme)) ending = ending := by
      refine percentEncode_of_forall fun c hc => ?_
      rcases hchars c hc with rfl | hc
      · cases isKnown u.scheme <;> decide
      · exact hc.standsInQuery _
    rw [splitAtMark_append_of_mem hq, hquery]
    simp only [Option.map_some, marked, percentEncode_append, hstands]
    exact (List.suffix_append _ ending).trans
      ((List.suffix_cons '?' _).trans (List.suffix_append _ _))
  · -- the names are at the end of the path
    have hendMark : '?' ∉ ending := fun h =>
      (hchars _ h).elim (by decide) fun hc => hc.ne_question rfl
    have hnone : '?' ∉ front ++ ending := by simp [hq, hendMark]
    have hpath : pathText (front ++ ending) =
        (pathText rest ++ '/' :: dir.filter isKept) ++ ending := by
      rw [hfront, List.append_assoc, List.cons_append, (authorityText_append_slash hrest _).2,
        List.append_assoc, List.cons_append]
    rw [beforeQuery, splitAtMark_of_not_mem hhash, splitAtMark_of_not_mem hnone, hpath, hending]
    obtain ⟨before, hbefore⟩ := namesAfterSlash_append_slash
      (pathText rest ++ '/' :: dir.filter isKept) (joinFields '/' names)
    rw [hbefore, names_joinFields hne hnames, Option.map_none, marked, List.append_nil]
    exact suffix_ofNames hne hnames before

/-! ### Credentials and query -/

@[simp] theorem withoutCredentials_scheme (u : Url) : u.withoutCredentials.scheme = u.scheme := by
  rw [withoutCredentials]
  split <;> rfl

/-- Without credentials an address leads to the same place. -/
@[simp] theorem withoutCredentials_place (u : Url) :
    u.withoutCredentials.authority.map Authority.place = u.authority.map Authority.place := by
  rw [withoutCredentials]
  split
  · simp only [Option.map_map]
    rfl
  · rfl

@[simp] theorem withoutCredentials_host (u : Url) :
    u.withoutCredentials.authority.map (·.host) = u.authority.map (·.host) := by
  rw [withoutCredentials]
  split
  · simp only [Option.map_map]
    rfl
  · rfl

@[simp] theorem withoutCredentials_target (u : Url) : u.withoutCredentials.target = u.target := by
  rw [withoutCredentials]
  split <;> rfl

@[simp] theorem withQuery_nil (u : Url) : u.withQuery [] = u := rfl

@[simp] theorem withQuery_scheme (u : Url) (pairs : List (String × String)) :
    (u.withQuery pairs).scheme = u.scheme := by
  rw [withQuery]
  split
  · rfl
  · split <;> rfl

@[simp] theorem withQuery_authority (u : Url) (pairs : List (String × String)) :
    (u.withQuery pairs).authority = u.authority := by
  rw [withQuery]
  split
  · rfl
  · split <;> rfl

theorem length_chars (u : Url) :
    u.chars.length = u.scheme.length + u.beforePath.length + u.path.length +
      (marked '?' u.query).length + (marked '#' u.fragment).length + 1 := by
  simp only [chars, List.length_append, List.length_cons]
  omega

/-- An address is at least as long as what a request asks its host for. -/
theorem length_target_le (u : Url) : u.target.toList.length ≤ u.chars.length := by
  rw [target, String.toList_ofList, length_chars, List.length_append]
  omega

/-- Adding a query makes no address shorter. -/
theorem length_chars_le_withQuery (u : Url) (pairs : List (String × String)) :
    u.chars.length ≤ (u.withQuery pairs).chars.length := by
  rw [withQuery]
  split
  · exact le_rfl
  · rw [length_chars, length_chars]
    split
    · next hq => simp only [hq, beforePath, marked, List.length_nil]; omega
    · next hq => simp only [hq, beforePath, marked, List.length_cons, List.length_nil]; omega
    · next hq =>
        simp only [hq, beforePath, marked, List.length_cons, List.length_append]
        omega

/-- An address is at least as long as the query that is added to it. -/
theorem length_encode_le_withQuery (u : Url) {pairs : List (String × String)} (h : pairs ≠ []) :
    (Form.encode pairs).length ≤ (u.withQuery pairs).chars.length := by
  rw [withQuery, if_neg h, length_chars]
  split
  · simp only [marked, List.length_cons]
    omega
  · simp only [marked, List.length_cons]
    omega
  · simp only [marked, List.length_cons, List.length_append]
    omega

theorem length_le_flatMap {α β : Type} {f : α → List β} (hf : ∀ a, 0 < (f a).length)
    (as : List α) : as.length ≤ (as.flatMap f).length := by
  induction as with
  | nil => exact le_rfl
  | cons a as ih =>
      have := hf a
      simp only [List.flatMap_cons, List.length_append, List.length_cons]
      omega

/-- Encoding makes no text shorter. -/
theorem length_le_encodeText (s : String) : s.toList.length ≤ (Form.encodeText s).length := by
  have hchar : ∀ c : Char, 0 < (String.utf8EncodeChar c).length := fun c => by
    rw [String.length_utf8EncodeChar]
    exact c.utf8Size_pos
  have hbyte : ∀ b, 0 < (Form.encodeByte b).length := by
    intro b
    rw [Form.encodeByte]
    split
    · exact Nat.one_pos
    · split <;> exact Nat.succ_pos _
  exact (length_le_flatMap hchar s.toList).trans (length_le_flatMap hbyte _)

end ZoneKeeper.Http.Url
