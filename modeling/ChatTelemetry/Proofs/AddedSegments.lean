import ChatTelemetry.Url.Path
import Mathlib.Data.List.Basic

/-!
This module contains the theory of adding segments to the path of a locator. A segment that climbs
up takes away no more than the segment before it.
-/

namespace ChatTelemetry

namespace Url

/-! ### The last segment of a path -/

theorem forall_mem_reverse_bne {last : List Char} (h : '/' ∉ last)
    : ∀ c ∈ last.reverse, (c != '/') = true := by
  intro c hc
  rw [bne_iff_ne]
  rintro rfl
  exact h (List.mem_reverse.mp hc)

theorem withoutLastSegment_append {last : List Char} (h : '/' ∉ last) (front : List Char)
    : withoutLastSegment (front ++ '/' :: last) = front ++ ['/'] := by
  have hlast := forall_mem_reverse_bne h
  unfold withoutLastSegment
  rw [List.reverse_append, List.reverse_cons, List.append_assoc]
  rw [List.dropWhile_append_of_pos hlast, List.singleton_append]
  rw [List.dropWhile_cons_of_neg (by simp)]
  rw [List.reverse_cons, List.reverse_reverse]

theorem lastSegmentReversed_append {last : List Char} (h : '/' ∉ last) (front : List Char)
    : lastSegmentReversed (front ++ '/' :: last) = last.reverse := by
  have hlast := forall_mem_reverse_bne h
  unfold lastSegmentReversed
  rw [List.reverse_append, List.reverse_cons, List.append_assoc]
  rw [List.takeWhile_append_of_pos hlast, List.singleton_append]
  rw [List.takeWhile_cons_of_neg (by simp)]
  rw [List.append_nil]

theorem endsWithSlash_append (front : List Char) : endsWithSlash (front ++ ['/']) = true := by
  simp [endsWithSlash]

theorem withSlash_append (front : List Char) : withSlash (front ++ ['/']) = front ++ ['/'] := by
  rw [withSlash, if_pos (endsWithSlash_append front)]

theorem withoutLastSlash_append {last : List Char} (h : '/' ∉ last)
    (hdrive : isDriveLetter last = false) (front : List Char)
    : withoutLastSlash (front ++ '/' :: last ++ ['/']) = front ++ '/' :: last := by
  unfold withoutLastSlash
  dsimp only
  rw [List.dropLast_concat, endsWithSlash_append, lastSegmentReversed_append h]
  rw [List.reverse_reverse, hdrive]
  simp

/-! ### One more segment -/

/-- A path that a segment may follow. -/
def opened (path : List Char) : List Char :=
  if path == ['/'] then path else path ++ ['/']

/-- The characters of a segment as they are put into a path. -/
def writtenSegment (kind : SchemeKind) (segment : List Char) : List Char :=
  Text.percentEncode (escapedInSegment kind.isSpecial) (segment.filter fun c => !isTabOrLineBreak c)

/-- A segment that is put into a path as it is. -/
structure IsPlain (segment : List Char) : Prop where
  written : writtenSegment .web segment = segment
  ne_nil : segment ≠ []
  slash_not_mem : '/' ∉ segment
  not_single : isSingleDot segment = false
  not_double : isDoubleDot segment = false
  not_drive : isDriveLetter segment = false

instance (segment : List Char) : Decidable (IsPlain segment) :=
  decidable_of_iff
    (writtenSegment .web segment = segment ∧ segment ≠ [] ∧ '/' ∉ segment ∧
      isSingleDot segment = false ∧ isDoubleDot segment = false ∧ isDriveLetter segment = false)
    ⟨fun ⟨h₁, h₂, h₃, h₄, h₅, h₆⟩ => ⟨h₁, h₂, h₃, h₄, h₅, h₆⟩,
      fun ⟨h₁, h₂, h₃, h₄, h₅, h₆⟩ => ⟨h₁, h₂, h₃, h₄, h₅, h₆⟩⟩

variable {u : Url} {segment : List Char}

theorem scheme_addSegment (u : Url) (segment : List Char)
    : (u.addSegment segment).scheme = u.scheme := by
  unfold addSegment
  split <;> rfl

theorem authority_addSegment (u : Url) (segment : List Char)
    : (u.addSegment segment).authority = u.authority := by
  unfold addSegment
  split <;> rfl

theorem addSegment_of_dots (u : Url) (h : segment = ['.'] ∨ segment = ['.', '.'])
    : u.addSegment segment = u := by
  unfold addSegment
  rw [if_pos (by simpa using h)]

theorem path_addSegment (hkind : SchemeKind.ofScheme u.scheme = .web)
    (hdots : segment ≠ ['.'] ∧ segment ≠ ['.', '.'])
    : (u.addSegment segment).path
        =
      if isDoubleDot (writtenSegment .web segment) then
        withoutLastSegment (withoutLastSlash (opened u.path))
      else if isSingleDot (writtenSegment .web segment) then withSlash (opened u.path)
      else opened u.path ++ writtenSegment .web segment := by
  unfold addSegment
  rw [if_neg (by simpa using hdots)]
  simp [withOneSlash, appendSegment, popped, hkind, opened, writtenSegment]

theorem path_addSegment_of_isPlain (hkind : SchemeKind.ofScheme u.scheme = .web)
    (h : IsPlain segment)
    : (u.addSegment segment).path = opened u.path ++ segment := by
  have hdots : segment ≠ ['.'] ∧ segment ≠ ['.', '.'] := by
    constructor
    . rintro rfl
      exact absurd h.not_single (by decide)
    . rintro rfl
      exact absurd h.not_double (by decide)
  rw [path_addSegment hkind hdots, h.written, h.not_single, h.not_double]
  rfl

theorem opened_eq (path : List Char) : ∃ front, opened path = front ++ ['/'] := by
  unfold opened
  split
  next h => exact ⟨[], by simpa using h⟩
  next => exact ⟨path, rfl⟩

theorem opened_append {last : List Char} (h : last ≠ []) (front : List Char)
    : opened (front ++ '/' :: last) = front ++ '/' :: last ++ ['/'] := by
  unfold opened
  rw [if_neg]
  cases front <;> simp [h]

theorem prefix_opened (path : List Char) : path <+: opened path := by
  unfold opened
  split
  next => exact List.prefix_rfl
  next => exact List.prefix_append _ _

theorem exists_path_addSegment (hkind : SchemeKind.ofScheme u.scheme = .web) (h : IsPlain segment)
    : ∃ front, u.path <+: front ++ ['/'] ∧
        (u.addSegment segment).path = front ++ '/' :: segment := by
  obtain ⟨front, hfront⟩ := opened_eq u.path
  refine ⟨front, hfront ▸ prefix_opened u.path, ?_⟩
  rw [path_addSegment_of_isPlain hkind h, hfront, List.append_assoc, List.singleton_append]

theorem prefix_addSegment_of_isPlain (hkind : SchemeKind.ofScheme u.scheme = .web)
    (h : IsPlain segment)
    : u.path <+: (u.addSegment segment).path := by
  rw [path_addSegment_of_isPlain hkind h]
  exact (prefix_opened u.path).trans (List.prefix_append _ _)

/-- Whatever segment is added, at most the last one of those before it is lost. -/
theorem prefix_addSegment {front last : List Char} (hkind : SchemeKind.ofScheme u.scheme = .web)
    (hpath : u.path = front ++ '/' :: last) (hlast : IsPlain last) (segment : List Char)
    : front ++ ['/'] <+: (u.addSegment segment).path := by
  have hfront : front ++ ['/'] <+: front ++ '/' :: last := ⟨last, by simp⟩
  by_cases hdots : segment ≠ ['.'] ∧ segment ≠ ['.', '.']
  . rw [path_addSegment hkind hdots, hpath, opened_append hlast.ne_nil]
    have hpopped : withoutLastSegment (withoutLastSlash (front ++ '/' :: last ++ ['/']))
        = front ++ ['/'] := by
      rw [withoutLastSlash_append hlast.slash_not_mem hlast.not_drive]
      rw [withoutLastSegment_append hlast.slash_not_mem]
    split
    next => exact ⟨[], (List.append_nil _).trans hpopped.symm⟩
    next =>
      split
      next =>
        rw [withSlash_append]
        exact hfront.trans (List.prefix_append _ _)
      next => exact hfront.trans ((List.prefix_append _ _).trans (List.prefix_append _ _))
  . rw [addSegment_of_dots u (by simpa [Classical.or_iff_not_imp_left] using hdots), hpath]
    exact hfront

/-! ### More segments -/

theorem scheme_foldl_addSegment (u : Url) (segments : List (List Char))
    : (segments.foldl addSegment u).scheme = u.scheme := by
  induction segments generalizing u with
  | nil => rfl
  | cons segment segments ih => rw [List.foldl_cons, ih, scheme_addSegment]

theorem authority_addSegments (u : Url) (segments : List (List Char))
    : (u.addSegments segments).authority = u.authority := by
  have hfoldl : ∀ u : Url, (segments.foldl addSegment u).authority = u.authority := by
    induction segments with
    | nil => exact fun _ => rfl
    | cons segment segments ih =>
      intro u
      rw [List.foldl_cons, ih, authority_addSegment]
  exact hfoldl _

theorem prefix_foldl_addSegment {segments : List (List Char)}
    (hkind : SchemeKind.ofScheme u.scheme = .web) (h : ∀ segment ∈ segments, IsPlain segment)
    : u.path <+: (segments.foldl addSegment u).path := by
  induction segments generalizing u with
  | nil => exact List.prefix_rfl
  | cons segment segments ih =>
    obtain ⟨hsegment, hsegments⟩ := List.forall_mem_cons.mp h
    rw [List.foldl_cons]
    apply (prefix_addSegment_of_isPlain hkind hsegment).trans
    exact ih (by rw [scheme_addSegment]; exact hkind) hsegments

def withoutTrailingSlash (path : List Char) : List Char :=
  if endsWithSlash path then path.dropLast else path

/-- A segment of any text that comes after a plain one leaves the path before both as it was. -/
theorem prefix_addSegments {before after : List (List Char)} {last : List Char}
    (hkind : SchemeKind.ofScheme u.scheme = .web) (hbefore : ∀ s ∈ before, IsPlain s)
    (hlast : IsPlain last) (hafter : ∀ s ∈ after, IsPlain s) (segment : List Char)
    : withoutTrailingSlash u.path <+:
        (u.addSegments (before ++ last :: segment :: after)).path := by
  have hpath : withoutTrailingSlash u.path <+:
      if u.path.length ≤ 1 then u.path
      else if endsWithSlash u.path then u.path.dropLast else u.path := by
    unfold withoutTrailingSlash
    split
    next =>
      split
      next => exact List.dropLast_prefix _
      next => exact List.prefix_rfl
    next => split <;> exact List.prefix_rfl
  unfold addSegments
  dsimp only
  generalize (if u.path.length ≤ 1 then u.path
    else if endsWithSlash u.path then u.path.dropLast else u.path) = path at hpath
  rw [List.foldl_append, List.foldl_cons, List.foldl_cons]
  let between := before.foldl addSegment { u with path }
  have hbetween : SchemeKind.ofScheme between.scheme = .web := by
    rw [scheme_foldl_addSegment]
    exact hkind
  -- All that the segment may take away is the last one before it.
  obtain ⟨front, hfront, hbehind⟩ := exists_path_addSegment hbetween hlast
  apply hpath.trans
  apply (prefix_foldl_addSegment (u := { u with path }) hkind hbefore).trans
  apply hfront.trans
  have hlast' : SchemeKind.ofScheme (between.addSegment last).scheme = .web := by
    rw [scheme_addSegment]
    exact hbetween
  apply (prefix_addSegment hlast' hbehind hlast segment).trans
  apply prefix_foldl_addSegment _ hafter
  rw [scheme_addSegment]
  exact hlast'

end Url

end ChatTelemetry
