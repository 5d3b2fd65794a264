import Mathlib.Data.List.Chain
import LateBinding.Text.ShortName

/-!
# Short names: segment by segment

A name is cut into segments at its delimiters, and of every segment the path in front is dropped.
The scan decides where a path ends while it reads, one character ahead: of a longer run of colons
each pair drops what was read, and a colon that is left over stays.  This file says what comes out,
without the scan.

* `ShortName.scan_induction` — the four ways in which the scan goes on;
* `ShortName.strip_append_delimiter`, `ShortName.strip_append_path` — the scan of a name that is
  put together at a delimiter, or at the end of a path;
* `ShortName.Pathless`, `ShortName.strip_of_pathless`, `ShortName.pathless_strip` — names without a
  double colon are left alone, and only such names come out;
* `ShortName.filter_strip` — delimiters stay;
* `StripsPaths`, `stripsPaths_shortName`, `StripsPaths.unique` — the three laws of stripping, and
  that no other function obeys them;
* `shortName_segmentwise` — all of it, for every name.
-/

namespace LateBinding

namespace ShortName

variable {c d : Char} {rest t : List Char}

/-! ### One character at a time -/

theorem strip_path (segment rest : List Char) :
    strip segment (':' :: ':' :: rest) = strip [] rest := by
  rw [strip]

theorem ne_colon (hd : isDelimiter d = true) : d ≠ ':' := by
  rintro rfl
  exact absurd hd (by decide)

/-- A delimiter closes the segment. -/
theorem strip_delimiter (hd : isDelimiter d = true) (segment rest : List Char) :
    strip segment (d :: rest) = segment ++ d :: strip [] rest := by
  have hnopath : ∀ r, d = ':' → rest = ':' :: r → False := fun _ h _ => ne_colon hd h
  rw [strip.eq_3 _ _ _ hnopath, if_pos hd]

/-- Any other character extends it, a colon if no second one follows. -/
theorem strip_extend (hc : isDelimiter c = false) (hno : c = ':' → rest.head? ≠ some ':')
    (segment : List Char) : strip segment (c :: rest) = strip (segment ++ [c]) rest := by
  have hnopath : ∀ r, c = ':' → rest = ':' :: r → False := by
    rintro r hcolon rfl
    exact hno hcolon rfl
  rw [strip.eq_3 _ _ _ hnopath, hc, if_neg Bool.false_ne_true]

/-- **The four ways in which the scan goes on.**  It is over, a path ends, a segment ends, or the
segment grows. -/
@[elab_as_elim]
theorem scan_induction {motive : List Char → List Char → Prop}
    (nil : ∀ segment, motive segment [])
    (path : ∀ segment rest, motive [] rest → motive segment (':' :: ':' :: rest))
    (delimiter : ∀ segment d rest, isDelimiter d = true → motive [] rest →
      motive segment (d :: rest))
    (extend : ∀ segment c rest, isDelimiter c = false → (c = ':' → rest.head? ≠ some ':') →
      motive (segment ++ [c]) rest → motive segment (c :: rest)) :
    ∀ segment s, motive segment s := by
  intro segment s
  induction segment, s using strip.induct with
  | case1 segment => exact nil segment
  | case2 segment rest ih => exact path segment rest ih
  | case3 segment d rest _ hd ih => exact delimiter segment d rest hd ih
  | case4 segment c rest hno hc ih =>
    refine extend segment c rest (Bool.eq_false_iff.mpr hc) ?_ ih
    intro hcolon hhead
    obtain ⟨r, hr⟩ := List.head?_eq_some_iff.mp hhead
    exact hno r hcolon hr

/-! ### Names that are put together -/

/-- No double colon arises where two parts meet, if the second one does not start with a colon or
the first one does not end with one. -/
theorem head?_append_ne (hno : c = ':' → rest.head? ≠ some ':')
    (ht : (c :: rest).getLast? = some ':' → t.head? ≠ some ':') :
    c = ':' → (rest ++ t).head? ≠ some ':' := by
  intro hc
  cases rest with
  | nil => exact ht (congrArg some hc)
  | cons b rest => exact hno hc

/-- **What stands in front of a delimiter and what follows it are stripped apart.** -/
theorem strip_append_delimiter (hd : isDelimiter d = true) (t : List Char) :
    ∀ segment s, strip segment (s ++ d :: t) = strip segment s ++ d :: strip [] t := by
  intro segment s
  induction segment, s using scan_induction with
  | nil segment => rw [List.nil_append, strip_delimiter hd, strip]
  | path segment rest ih => rw [List.cons_append, List.cons_append, strip_path, strip_path, ih]
  | delimiter segment c rest hc ih =>
    rw [List.cons_append, strip_delimiter hc, strip_delimiter hc, ih, List.append_assoc,
      List.cons_append]
  | extend segment c rest hc hno ih =>
    have hhead : (d :: t).head? ≠ some ':' := fun h => ne_colon hd (Option.some.inj h)
    rw [List.cons_append, strip_extend hc (head?_append_ne hno fun _ => hhead), ih,
      strip_extend hc hno]

/-- **A path is dropped**, whatever the segment in progress.  Were the last character of the path a
colon, it would make a pair with the one after it. -/
theorem strip_append_path (q : List Char) : ∀ segment p, (∀ c ∈ p, isDelimiter c = false) →
    p.getLast? ≠ some ':' → strip segment (p ++ ':' :: ':' :: q) = strip [] q := by
  intro segment p
  induction segment, p using scan_induction with
  | nil segment =>
    intro _ _
    rw [List.nil_append, strip_path]
  | path segment rest ih =>
    intro hplain hlast
    rw [List.cons_append, List.cons_append, strip_path]
    refine ih (fun c hc => hplain c (.tail _ (.tail _ hc))) fun hrest => hlast ?_
    rw [List.getLast?_cons, List.getLast?_cons, hrest]
    rfl
  | delimiter segment d rest hd _ =>
    intro hplain _
    exact absurd hd (by rw [hplain d (.head _)]; exact Bool.false_ne_true)
  | extend segment c rest hc hno ih =>
    intro hplain hlast
    rw [List.cons_append, strip_extend hc (head?_append_ne hno fun h => absurd h hlast)]
    refine ih (fun b hb => hplain b (.tail _ hb)) fun hrest => hlast ?_
    rw [List.getLast?_cons, hrest]
    rfl

/-! ### Double colons -/

/-- No two colons stand side by side. -/
def Pathless (s : List Char) : Prop := s.IsChain fun a b => ¬ (a = ':' ∧ b = ':')

instance : DecidablePred Pathless :=
  fun s => inferInstanceAs (Decidable (s.IsChain fun a b => ¬ (a = ':' ∧ b = ':')))

theorem pathless_head? (s : List Char) : Pathless s.head?.toList := by
  cases s with
  | nil => exact .nil
  | cons c s => exact .singleton c

/-- **A name without a double colon is left alone.** -/
theorem strip_of_pathless : ∀ segment s, Pathless s → strip segment s = segment ++ s := by
  intro segment s
  induction segment, s using scan_induction with
  | nil segment =>
    intro _
    rw [strip, List.append_nil]
  | path segment rest _ =>
    intro h
    exact absurd ⟨rfl, rfl⟩ (List.isChain_cons_cons.mp h).1
  | delimiter segment d rest hd ih =>
    intro h
    rw [strip_delimiter hd, ih h.tail, List.nil_append]
  | extend segment c rest hc hno ih =>
    intro h
    rw [strip_extend hc hno, ih h.tail, List.append_assoc, List.singleton_append]

/-- **No double colon comes out.**  None is in the segment in progress, nor does one arise with the
character that is read next. -/
theorem pathless_strip : ∀ segment s, Pathless (segment ++ s.head?.toList) →
    Pathless (strip segment s) := by
  intro segment s
  induction segment, s using scan_induction with
  | nil segment =>
    intro h
    rw [strip]
    rwa [List.head?_nil, Option.toList_none, List.append_nil] at h
  | path segment rest ih =>
    intro _
    rw [strip_path]
    exact ih (pathless_head? rest)
  | delimiter segment d rest hd ih =>
    intro h
    have hrest : Pathless (strip [] rest) := ih (pathless_head? rest)
    rw [strip_delimiter hd]
    refine List.isChain_split.mpr ⟨h, ?_⟩
    exact List.isChain_cons.mpr ⟨fun _ _ hcolons => ne_colon hd hcolons.1, hrest⟩
  | extend segment c rest hc hno ih =>
    intro h
    rw [strip_extend hc hno]
    refine ih ?_
    cases rest with
    | nil =>
      rw [List.head?_nil, Option.toList_none, List.append_nil]
      exact h
    | cons b rest =>
      rw [List.append_assoc]
      refine List.isChain_append_cons_cons.mpr ⟨h, ?_, .singleton b⟩
      rintro ⟨rfl, rfl⟩
      exact hno rfl rfl

/-! ### Delimiters -/

/-- **Delimiters stay, in their order.**  What is dropped is part of a segment. -/
theorem filter_strip : ∀ segment s, segment.filter isDelimiter = [] →
    (strip segment s).filter isDelimiter = s.filter isDelimiter := by
  intro segment s
  induction segment, s using scan_induction with
  | nil segment =>
    intro hsegment
    rw [strip, hsegment, List.filter_nil]
  | path segment rest ih =>
    intro _
    have hcolon : ¬ isDelimiter ':' = true := by decide
    rw [strip_path, ih List.filter_nil, List.filter_cons_of_neg hcolon,
      List.filter_cons_of_neg hcolon]
  | delimiter segment d rest hd ih =>
    intro hsegment
    rw [strip_delimiter hd, List.filter_append, hsegment, List.nil_append,
      List.filter_cons_of_pos hd, List.filter_cons_of_pos hd, ih List.filter_nil]
  | extend segment c rest hc hno ih =>
    intro hsegment
    have hc' : ¬ isDelimiter c = true := Bool.eq_false_iff.mp hc
    rw [strip_extend hc hno, List.filter_cons_of_neg hc']
    refine ih ?_
    rw [List.filter_append, hsegment, List.nil_append, List.filter_cons_of_neg hc', List.filter_nil]

end ShortName

/-! ### Names as strings -/

/-- The delimiters of a name, in their order. -/
def delimiters (s : String) : List Char := s.toList.filter isDelimiter

/-- There is a double colon in the name. -/
def HasPath (s : String) : Prop := ∃ a b, s = a ++ "::" ++ b

theorem toList_shortName (s : String) : (shortName s).toList = ShortName.strip [] s.toList :=
  String.toList_ofList

theorem pathless_toList_iff {s : String} : ShortName.Pathless s.toList ↔ ¬ HasPath s := by
  rw [ShortName.Pathless, List.isChain_iff_forall_rel_of_append_cons_cons]
  constructor
  · rintro h ⟨a, b, rfl⟩
    refine h (?_ : _ = a.toList ++ ':' :: ':' :: b.toList) ⟨rfl, rfl⟩
    rw [String.toList_append, String.toList_append, List.append_assoc]
    rfl
  · rintro h _ _ l₁ l₂ hs ⟨rfl, rfl⟩
    refine h ⟨String.ofList l₁, String.ofList l₂, ?_⟩
    rw [← String.toList_inj, hs]
    simp only [String.toList_append, String.toList_ofList, List.append_assoc]
    rfl

instance : DecidablePred HasPath := fun s =>
  decidable_of_iff (¬ ShortName.Pathless s.toList) (by rw [pathless_toList_iff, not_not])

theorem delimiters_eq_nil_iff {s : String} :
    delimiters s = [] ↔ ∀ c ∈ s.toList, isDelimiter c = false := by
  simp only [delimiters, List.filter_eq_nil_iff, Bool.not_eq_true]

/-- The laws of stripping paths.  A name is stripped segment by segment; a path, which holds no
delimiter and does not end inside a run of colons, is dropped with the double colon behind it; and
where there is no double colon there is nothing to strip. -/
structure StripsPaths (f : String → String) : Prop where
  append_delimiter : ∀ (s : String) (d : Char) (t : String), isDelimiter d = true →
    f (s ++ String.singleton d ++ t) = f s ++ String.singleton d ++ f t
  drop_path : ∀ p q : String, delimiters p = [] → p.toList.getLast? ≠ some ':' →
    f (p ++ "::" ++ q) = f q
  of_no_path : ∀ s, ¬ HasPath s → f s = s

/-- **Short names obey the laws.** -/
theorem stripsPaths_shortName : StripsPaths shortName where
  append_delimiter := by
    intro s d t hd
    rw [← String.toList_inj, toList_shortName]
    simp only [String.toList_append, String.toList_singleton, toList_shortName, List.append_assoc,
      List.singleton_append]
    exact ShortName.strip_append_delimiter hd t.toList [] s.toList
  drop_path := by
    intro p q hp hlast
    rw [← String.toList_inj, toList_shortName, toList_shortName, String.toList_append,
      String.toList_append, List.append_assoc]
    exact ShortName.strip_append_path q.toList [] p.toList (delimiters_eq_nil_iff.mp hp) hlast
  of_no_path := by
    intro s hs
    rw [← String.toList_inj, toList_shortName]
    exact ShortName.strip_of_pathless [] s.toList (pathless_toList_iff.mpr hs)

/-- Where there are double colons, one of them has no colon right in front of it. -/
theorem ShortName.exists_path_append : ∀ a b : List Char, ∃ p q,
    a ++ ':' :: ':' :: b = p ++ ':' :: ':' :: q ∧ p.getLast? ≠ some ':' := by
  intro a
  induction a using List.reverseRecOn with
  | nil => exact fun b => ⟨[], b, rfl, nofun⟩
  | append_singleton a c ih =>
    intro b
    by_cases hc : c = ':'
    · -- the colon in front and the first of the two make a pair as well
      subst hc
      obtain ⟨p, q, hpq, hlast⟩ := ih (':' :: b)
      refine ⟨p, q, ?_, hlast⟩
      rw [← hpq, List.append_assoc]
      rfl
    · refine ⟨a ++ [c], b, rfl, ?_⟩
      rw [List.getLast?_concat]
      exact fun h => hc (Option.some.inj h)

/-- A name has a delimiter in it, or starts with a path, or holds no double colon. -/
theorem name_cases (s : String) :
    (∃ (a : String) (d : Char) (b : String), isDelimiter d = true ∧
      s = a ++ String.singleton d ++ b) ∨
    (∃ p q : String, delimiters p = [] ∧ p.toList.getLast? ≠ some ':' ∧ s = p ++ "::" ++ q) ∨
    ¬ HasPath s := by
  by_cases hplain : ∀ c ∈ s.toList, isDelimiter c = false
  · by_cases hpath : HasPath s
    · obtain ⟨a, b, rfl⟩ := hpath
      obtain ⟨p, q, hpq, hlast⟩ := ShortName.exists_path_append a.toList b.toList
      have hname : (a ++ "::" ++ b).toList = p ++ ':' :: ':' :: q := by
        rw [String.toList_append, String.toList_append, List.append_assoc, ← hpq]
        rfl
      refine .inr (.inl ⟨String.ofList p, String.ofList q, ?_, ?_, ?_⟩)
      · rw [delimiters_eq_nil_iff, String.toList_ofList]
        intro c hc
        refine hplain c ?_
        rw [hname]
        exact List.mem_append_left _ hc
      · rwa [String.toList_ofList]
      · rw [← String.toList_inj, hname]
        simp only [String.toList_append, String.toList_ofList, List.append_assoc]
        rfl
    · exact .inr (.inr hpath)
  · obtain ⟨d, hmem, hd⟩ : ∃ d ∈ s.toList, isDelimiter d ≠ false := by
      simpa only [not_forall, exists_prop] using hplain
    obtain ⟨a, b, hab⟩ := List.append_of_mem hmem
    refine .inl ⟨String.ofList a, d, String.ofList b, Bool.ne_false_iff.mp hd, ?_⟩
    rw [← String.toList_inj, hab]
    simp only [String.toList_append, String.toList_ofList, String.toList_singleton,
      List.append_assoc, List.singleton_append]

/-- **The laws leave no choice.**  By induction on the length of a name: a name with a delimiter
and one that starts with a path are stripped by way of shorter names. -/
theorem StripsPaths.unique {f g : String → String} (hf : StripsPaths f) (hg : StripsPaths g) :
    f = g := by
  have hbelow : ∀ n (s : String), s.length < n → f s = g s := by
    intro n
    induction n with
    | zero => exact fun s hs => absurd hs (Nat.not_lt_zero _)
    | succ n ih =>
      intro s hs
      obtain ⟨a, d, b, hd, rfl⟩ | ⟨p, q, hp, hlast, rfl⟩ | hpath := name_cases s
      · simp only [String.length_append, String.length_singleton] at hs
        rw [hf.append_delimiter a d b hd, hg.append_delimiter a d b hd, ih a (by omega),
          ih b (by omega)]
      · have hcolons : "::".length = 2 := rfl
        rw [String.length_append, String.length_append, hcolons] at hs
        rw [hf.drop_path p q hp hlast, hg.drop_path p q hp hlast, ih q (by omega)]
      · rw [hf.of_no_path s hpath, hg.of_no_path s hpath]
  funext s
  exact hbelow (s.length + 1) s (Nat.lt_succ_self _)

/-- A short name holds no double colon. -/
theorem not_hasPath_shortName (s : String) : ¬ HasPath (shortName s) := by
  rw [← pathless_toList_iff, toList_shortName]
  exact ShortName.pathless_strip [] s.toList (ShortName.pathless_head? s.toList)

/-- It has the delimiters of the name. -/
theorem delimiters_shortName (s : String) : delimiters (shortName s) = delimiters s := by
  rw [delimiters, toList_shortName]
  exact ShortName.filter_strip [] s.toList List.filter_nil

/-- **Names are stripped segment by segment.**  Short names obey the laws of stripping paths, and
no other function does.  A short name holds no double colon, has all the delimiters of the name in
their order, and is its own short name. -/
theorem shortName_segmentwise :
    StripsPaths shortName ∧
    (∀ s, ¬ HasPath (shortName s) ∧ delimiters (shortName s) = delimiters s ∧
      shortName (shortName s) = shortName s) ∧
    ∀ f, StripsPaths f → f = shortName := by
  refine ⟨stripsPaths_shortName, ?_, fun f hf => hf.unique stripsPaths_shortName⟩
  intro s
  have hpath := not_hasPath_shortName s
  exact ⟨hpath, delimiters_shortName s, stripsPaths_shortName.of_no_path _ hpath⟩

/-- A nested name: its parts are stripped apart, the path in front of either is dropped, and of
three colons in a row the last one stays.  Stripping twice obeys the laws as well, so that it is
nothing new. -/
theorem shortName_segmentwise_nested :
    shortName "core::Vec<fmt:::Debug>" = "Vec<:Debug>" ∧
    (fun s => shortName (shortName s)) = shortName := by
  obtain ⟨hlaws, -, hunique⟩ := shortName_segmentwise
  constructor
  · have hparts : "core::Vec<fmt:::Debug>" = "core" ++ "::" ++ "Vec" ++ String.singleton '<' ++
        ("fmt" ++ "::" ++ ":Debug" ++ String.singleton '>' ++ "") := by decide
    rw [hparts, hlaws.append_delimiter _ '<' _ rfl, hlaws.append_delimiter _ '>' _ rfl,
      hlaws.drop_path "core" "Vec" (by decide) (by decide),
      hlaws.drop_path "fmt" ":Debug" (by decide) (by decide),
      hlaws.of_no_path "Vec" (by decide), hlaws.of_no_path ":Debug" (by decide),
      hlaws.of_no_path "" (by decide)]
    decide
  · refine hunique _ ⟨?_, ?_, ?_⟩
    · intro s d t hd
      simp only [hlaws.append_delimiter _ d _ hd]
    · intro p q hp hlast
      simp only [hlaws.drop_path p q hp hlast]
    · intro s hs
      simp only [hlaws.of_no_path s hs]

end LateBinding
