import ChatTelemetry.Proofs.Outcome
import ChatTelemetry.Url.Parser
import Mathlib.Data.List.Infix

/-!
This module contains the theory of locators that have been read: what their scheme says about
their host and path, and what the white space around a text means for the locator that it is.
-/

namespace ChatTelemetry

namespace Text

/-! ### White space around a text -/

theorem exists_strip (p : Char → Bool) (cs : List Char)
    : ∃ before after, cs = before ++ strip p cs ++ after ∧
        (∀ c ∈ before, p c = true) ∧ ∀ c ∈ after, p c = true := by
  have hends : ∀ {ds : List Char} {c}, c ∈ ds.takeWhile p → p c = true := by
    intro ds c hc
    exact List.all_eq_true.mp ds.all_takeWhile c hc
  refine ⟨cs.takeWhile p, ((cs.dropWhile p).reverse.takeWhile p).reverse, ?_, ?_, ?_⟩
  . unfold strip dropEndWhile
    rw [List.append_assoc, ← List.reverse_append]
    rw [List.takeWhile_append_dropWhile, List.reverse_reverse]
    rw [List.takeWhile_append_dropWhile]
  . intro c hc
    exact hends hc
  . intro c hc
    exact hends (List.mem_reverse.mp hc)

theorem not_of_mem_head?_dropWhile {p : Char → Bool} {cs : List Char} {c : Char}
    (h : c ∈ (cs.dropWhile p).head?)
    : p c = false := by
  have hhead := cs.head?_dropWhile_not p
  rwa [Option.mem_def.mp h] at hhead

theorem not_of_mem_head?_strip {p : Char → Bool} {cs : List Char} {c : Char}
    (h : c ∈ (strip p cs).head?)
    : p c = false := by
  have hprefix : strip p cs <+: cs.dropWhile p := by
    unfold strip dropEndWhile
    rw [← List.reverse_suffix, List.reverse_reverse]
    exact List.dropWhile_suffix p
  obtain ⟨rest, hrest⟩ := hprefix
  have hhead : c ∈ (cs.dropWhile p).head? := by
    rw [← hrest]
    exact List.mem_head?_append_of_mem_head? h
  exact not_of_mem_head?_dropWhile hhead

theorem not_of_mem_getLast?_strip {p : Char → Bool} {cs : List Char} {c : Char}
    (h : c ∈ (strip p cs).getLast?)
    : p c = false := by
  unfold strip dropEndWhile at h
  rw [List.getLast?_reverse] at h
  exact not_of_mem_head?_dropWhile h

theorem strip_append {p : Char → Bool} {before after : List Char}
    (hbefore : ∀ c ∈ before, p c = true) (hafter : ∀ c ∈ after, p c = true) (cs : List Char)
    : strip p (before ++ cs ++ after) = strip p cs := by
  unfold strip dropEndWhile
  rw [List.append_assoc, List.dropWhile_append_of_pos hbefore, List.dropWhile_append]
  split
  next hcs =>
    have hafter' : after.dropWhile p = [] := by
      have := @List.dropWhile_append_of_pos _ p after [] hafter
      rwa [List.append_nil] at this
    rw [hafter', List.isEmpty_iff.mp hcs]
  next =>
    rw [List.reverse_append, List.dropWhile_append_of_pos]
    intro c hc
    exact hafter c (List.mem_reverse.mp hc)

theorem strip_eq_self {p : Char → Bool} {cs : List Char} (hfirst : ∀ c ∈ cs.head?, p c = false)
    (hlast : ∀ c ∈ cs.getLast?, p c = false)
    : strip p cs = cs := by
  have hself : ∀ {ds : List Char}, (∀ c ∈ ds.head?, p c = false) → ds.dropWhile p = ds := by
    intro ds h
    cases ds with
    | nil => rfl
    | cons d ds => exact List.dropWhile_cons_of_neg (by simp [h d rfl])
  unfold strip dropEndWhile
  rw [hself hfirst, hself, List.reverse_reverse]
  rwa [List.head?_reverse]

theorem occursIn_iff {needle cs : List Char} : occursIn needle cs = true ↔ needle <:+: cs := by
  induction cs with
  | nil => simp [occursIn]
  | cons c cs ih =>
    unfold occursIn
    rw [Bool.or_eq_true, ih, List.isPrefixOf_iff_prefix, List.infix_cons_iff]

theorem infix_append_left_iff {needle before cs : List Char} (hneedle : needle ≠ [])
    (hbefore : ∀ c ∈ before, c ∉ needle)
    : needle <:+: before ++ cs ↔ needle <:+: cs := by
  have hempty : ∀ part : List Char, part ⊆ before → part ⊆ needle → part = [] := by
    intro part hpart hsub
    rw [List.eq_nil_iff_forall_not_mem]
    intro c hc
    exact hbefore c (hpart hc) (hsub hc)
  constructor
  . intro h
    rcases List.infix_append_iff.mp h with h | h | ⟨front, back, rfl, hfront, hback⟩
    . exact absurd (hempty needle h.subset (List.Subset.refl _)) hneedle
    . exact h
    . rw [hempty front hfront.subset (List.subset_append_left _ _)]
      exact hback.isInfix
  . intro h
    exact h.trans (List.suffix_append before cs).isInfix

theorem infix_append_right_iff {needle cs after : List Char} (hneedle : needle ≠ [])
    (hafter : ∀ c ∈ after, c ∉ needle)
    : needle <:+: cs ++ after ↔ needle <:+: cs := by
  rw [← List.reverse_infix, List.reverse_append, infix_append_left_iff, List.reverse_infix]
  . simpa using hneedle
  . simpa using hafter

end Text

namespace Url

/-! ### Schemes, hosts and paths -/

theorem ofScheme_eq_file_iff {scheme : List Char}
    : SchemeKind.ofScheme scheme = .file ↔ scheme = "file".toList := by
  unfold SchemeKind.ofScheme
  split
  next h => simpa using h
  next h => split <;> simpa using h

theorem Host.chars_ne_nil {host : Host} (h : host ≠ .domain []) : host.chars ≠ [] := by
  cases host with
  | domain name => simpa [chars] using h
  | ipv4 address => simp [chars, ipv4Chars, Text.join]
  | ipv6 pieces => simp [chars]

theorem host_of_readAuthority {scheme cs rest : List Char} {a : Authority}
    (h : readAuthority scheme cs = .ok (a, rest))
    : a.host ≠ some (.domain []) := by
  unfold readAuthority at h
  simp only [bind, Except.bind] at h
  repeat' split at h
  -- Each way to an authority leaves out a host that is empty.
  all_goals cases h
  all_goals simp_all

theorem authority_afterAuthority (scheme : List Char) (a : Authority) (rest : List Char)
    : (afterAuthority scheme a rest).authority = some a := by
  unfold afterAuthority
  dsimp only
  repeat' split
  all_goals rfl

theorem scheme_afterAuthority (scheme : List Char) (a : Authority) (rest : List Char)
    : (afterAuthority scheme a rest).scheme = scheme := by
  unfold afterAuthority
  dsimp only
  repeat' split
  all_goals rfl

theorem host_afterAuthority_ne_nil {scheme cs rest : List Char} {a : Authority}
    (h : readAuthority scheme cs = .ok (a, rest))
    : ∀ name ∈ (afterAuthority scheme a rest).host?, name ≠ [] := by
  intro name hname
  unfold host? at hname
  rw [authority_afterAuthority, Option.bind_some] at hname
  obtain ⟨host, hhost, rfl⟩ := Option.map_eq_some_iff.mp hname
  apply Host.chars_ne_nil
  rintro rfl
  exact host_of_readAuthority h hhost

theorem otherUrl_ok {scheme cs : List Char} {u : Url} (h : otherUrl scheme cs = .ok u)
    : u.scheme = scheme ∧ ∀ name ∈ u.host?, name ≠ [] := by
  unfold otherUrl at h
  split at h
  next rest =>
    obtain ⟨⟨a, after⟩, ha, h⟩ := Except.bind_eq_ok_iff.mp h
    cases h
    exact ⟨scheme_afterAuthority scheme a after, host_afterAuthority_ne_nil ha⟩
  next =>
    cases h
    simp [withRest, host?]
  next =>
    cases h
    simp [host?]

theorem fileUrl_ok {cs : List Char} {u : Url} (h : fileUrl cs = .ok u)
    : u.scheme = "file".toList ∧ ['/'].isPrefixOf u.path = true := by
  have hsettled : ∃ v : Url, v.scheme = "file".toList ∧ u = settledFile v := by
    have hwithoutHost : ∀ rest,
        (fileUrl.withoutHost "file".toList rest).scheme = "file".toList := by
      intro rest
      cases rest <;> rfl
    unfold fileUrl at h
    simp only [bind, Except.bind] at h
    repeat' split at h
    all_goals cases h
    . exact ⟨_, hwithoutHost _, rfl⟩
    . exact ⟨_, scheme_afterAuthority _ _ _, rfl⟩
    . exact ⟨_, hwithoutHost _, rfl⟩
    . exact ⟨_, hwithoutHost _, rfl⟩
  obtain ⟨v, hv, rfl⟩ := hsettled
  exact ⟨hv, rfl⟩

/--
A locator of a file has a path from the root; the host of any other locator is not empty, if it has
one.
-/
theorem parse_ok {s : String} {u : Url} (h : parse s = .ok u)
    : (u.scheme = "file".toList → ['/'].isPrefixOf u.path = true) ∧
        (u.scheme ≠ "file".toList → ∀ name ∈ u.host?, name ≠ []) := by
  unfold parse at h
  dsimp only at h
  split at h
  next => contradiction
  next scheme rest _ =>
    have hscheme := @ofScheme_eq_file_iff scheme
    cases hkind : SchemeKind.ofScheme scheme with
    | file =>
      rw [hkind] at h
      obtain ⟨hfile, hpath⟩ := fileUrl_ok h
      exact ⟨fun _ => hpath, fun hother => absurd hfile hother⟩
    | web =>
      rw [hkind] at h
      obtain ⟨⟨a, after⟩, ha, h⟩ := Except.bind_eq_ok_iff.mp h
      cases h
      refine ⟨?_, fun _ => host_afterAuthority_ne_nil ha⟩
      intro hfile
      rw [scheme_afterAuthority] at hfile
      simp [hscheme.mpr hfile] at hkind
    | other =>
      rw [hkind] at h
      obtain ⟨hother, hhost⟩ := otherUrl_ok h
      refine ⟨?_, fun _ => hhost⟩
      intro hfile
      simp [hscheme.mpr (hother.symm.trans hfile)] at hkind

/-- Characters up to the blank around a text do not count. -/
theorem parse_append {before after : List Char} (h : ∀ c ∈ before ++ after, c ≤ ' ')
    (cs : List Char)
    : parse (.ofList (before ++ cs ++ after)) = parse (.ofList cs) := by
  unfold parse
  rw [String.toList_ofList, String.toList_ofList, Text.strip_append]
  . intro c hc
    simpa using h c (List.mem_append_left after hc)
  . intro c hc
    simpa using h c (List.mem_append_right before hc)

end Url
end ChatTelemetry
