import ChatTelemetry.Proofs.Lexemes
import ChatTelemetry.Proofs.Writing

/-!
This module shows that the reader of trees recognizes the grammar: it reads a text just if the text
is one tree that is not nested too deep, and then as this tree.
-/

namespace ChatTelemetry.Json

open Grammar
open Payload (nextElement)

/-! ### Entries -/

/-- What comes next is neither the bracket that closes a list nor the end of the text. -/
def StaysOpen (close : Char) (cs : List Char) : Prop :=
  cs ≠ [] ∧ ∀ after, cs ≠ close :: after

/--
Entries are found behind blanks and commas, up to the bracket that closes all. Fields are found from
behind a quote, which `whole` puts back; items are found whole.
-/
structure Finds (next : Next) (close : Char) (whole : List Char → List Char) : Prop where
  isBlank_close : isBlank close = false
  endsNumber_close : EndsNumber [close]
  none_iff {isFirst : Bool} {cs : List Char}
    : next isFirst cs = .ok none ↔ ∃ after, skipBlanks cs = close :: after
  first_iff {cs begun : List Char}
    : next true cs = .ok (some begun)
        ↔
      skipBlanks cs = whole begun ∧ StaysOpen close (whole begun)
  further_iff {cs begun : List Char}
    : next false cs = .ok (some begun)
        ↔
      ∃ others, skipBlanks cs = ',' :: others ∧ skipBlanks others = whole begun ∧
        StaysOpen close (whole begun)

theorem nextElement_finds : Finds nextElement ']' id where
  isBlank_close := rfl
  endsNumber_close := by simp [EndsNumber, isDigit]
  none_iff {isFirst cs} := by
    unfold nextElement
    grind
  first_iff {cs begun} := by
    unfold nextElement StaysOpen
    grind
  further_iff {cs begun} := by
    unfold nextElement StaysOpen
    grind

theorem nextMember_finds : Finds nextMember '}' (List.cons '"') where
  isBlank_close := rfl
  endsNumber_close := by simp [EndsNumber, isDigit]
  none_iff {isFirst cs} := by
    unfold nextMember
    grind
  first_iff {cs begun} := by
    unfold nextMember StaysOpen
    grind
  further_iff {cs begun} := by
    unfold nextMember StaysOpen
    grind

/-- The text begins with an entry, whole and without blanks before it. -/
structure HoldsEntry (close : Char) (whole : List Char → List Char)
    (entry : List Char → α → List Char → Prop) (cs : List Char) (a : α) (rest : List Char)
    : Prop where
  skipBlanks_eq : skipBlanks cs = cs
  staysOpen : StaysOpen close cs
  exists_begun : ∃ begun, cs = whole begun ∧ entry begun a rest

namespace Finds

variable {next : Next} {close : Char} {whole : List Char → List Char}
  {entry entry' : List Char → α → List Char → Prop} {cs rest : List Char} {as : List α}

theorem further_of_entries (hnext : Finds next close whole)
    (hentry : ∀ {cs a left}, entry cs a left → entry' (skipBlanks (whole cs)) a left)
    (h : Entries next entry false cs as rest)
    : Further close entry' cs as rest := by
  generalize hfirst : false = isFirst at h
  induction h with
  | @closed _ cs hclosed =>
    obtain ⟨after, hcs⟩ := hnext.none_iff.mp hclosed
    rw [hcs]
    exact .closed (hcs ▸ blanks_skipBlanks cs)
  | @more _ cs begun _ _ _ _ hbegun ha has ih =>
    subst hfirst
    obtain ⟨others, hcs, hothers, -⟩ := hnext.further_iff.mp hbegun
    have ha := hentry ha
    rw [← hothers, skipBlanks_skipBlanks] at ha
    exact .more (hcs ▸ blanks_skipBlanks cs) (blanks_skipBlanks others) ha (ih rfl)

theorem listed_of_entries (hnext : Finds next close whole)
    (hentry : ∀ {cs a left}, entry cs a left → entry' (skipBlanks (whole cs)) a left)
    (h : Entries next entry true cs as rest) (opening : Char)
    : Listed opening close entry' (opening :: cs) as rest := by
  cases h with
  | closed hclosed =>
    obtain ⟨after, hcs⟩ := hnext.none_iff.mp hclosed
    rw [hcs]
    exact .closed (hcs ▸ blanks_skipBlanks cs)
  | more hbegun ha has =>
    obtain ⟨hcs, -⟩ := hnext.first_iff.mp hbegun
    have ha := hentry ha
    rw [← hcs, skipBlanks_skipBlanks] at ha
    exact .more (blanks_skipBlanks cs) ha (hnext.further_of_entries hentry has)

theorem endsNumber_of_further (hnext : Finds next close whole) (h : Further close entry cs as rest)
    : EndsNumber cs := by
  cases h with
  | closed hclose => exact hclose.endsNumber hnext.endsNumber_close
  | more hcomma _ _ _ => exact hcomma.endsNumber (by simp [EndsNumber, isDigit])

theorem entries_of_blanks (hnext : Finds next close whole) (h : Blanks cs (close :: rest))
    (isFirst : Bool)
    : Entries next entry isFirst cs [] rest := by
  have hcs : skipBlanks cs = close :: rest := by
    rw [h.skipBlanks_eq, skipBlanks, List.dropWhile_cons_of_neg (by simp [hnext.isBlank_close])]
  have hclosed : Entries next entry isFirst cs [] (skipBlanks cs).tail :=
    .closed (hnext.none_iff.mpr ⟨rest, hcs⟩)
  rw [hcs] at hclosed
  exact hclosed

theorem entries_of_further (hnext : Finds next close whole) (h : Further close entry' cs as rest)
    (hentry : ∀ a ∈ as, ∀ {cs left}, entry' cs a left → EndsNumber left →
      HoldsEntry close whole entry cs a left)
    : Entries next entry false cs as rest := by
  induction h with
  | closed hclose => exact hnext.entries_of_blanks hclose false
  | @more cs others begun left rest a as hcomma hbegun ha has ih =>
    -- A comma or the bracket comes next, so that the entry ends there even if it is a number.
    obtain ⟨hblanks, hopen, begun, rfl, hread⟩ :=
      hentry a List.mem_cons_self ha (hnext.endsNumber_of_further has)
    have hcs : skipBlanks cs = ',' :: others := hcomma.skipBlanks_eq
    have hothers : skipBlanks others = whole begun := hbegun.skipBlanks_eq.trans hblanks
    apply Entries.more (hnext.further_iff.mpr ⟨others, hcs, hothers, hopen⟩) hread
    exact ih fun b hb => hentry b (List.mem_cons_of_mem a hb)

theorem entries_of_listed (hnext : Finds next close whole) {opening : Char}
    (h : Listed opening close entry' (opening :: cs) as rest)
    (hentry : ∀ a ∈ as, ∀ {cs left}, entry' cs a left → EndsNumber left →
      HoldsEntry close whole entry cs a left)
    : Entries next entry true cs as rest := by
  cases h with
  | closed hclose => exact hnext.entries_of_blanks hclose true
  | @more _ _ left _ a as hbegun ha has =>
    obtain ⟨hblanks, hopen, begun, rfl, hread⟩ :=
      hentry a List.mem_cons_self ha (hnext.endsNumber_of_further has)
    have hcs : skipBlanks cs = whole begun := hbegun.skipBlanks_eq.trans hblanks
    apply Entries.more (hnext.first_iff.mpr ⟨hcs, hopen⟩) hread
    exact hnext.entries_of_further has fun b hb => hentry b (List.mem_cons_of_mem a hb)

end Finds

/-! ### Trees -/

theorem restOfName_eq_ok_iff {name cs rest : List Char}
    : restOfName name cs = .ok rest ↔ cs = name ++ rest := by
  constructor
  . intro h
    fun_induction restOfName name cs with
    | case1 cs =>
      cases h
      rfl
    | case2 => cases h
    | case3 name c cs ih => rw [ih h, List.cons_append]
    | case4 => cases h
  . rintro rfl
    exact restOfName_append name rest

section

variable {depth : Nat} {cs rest : List Char} {v : Value}

theorem number_begins {l : Literal} (h : Number l cs)
    : ∃ c after, cs = c :: after ∧ (c == '-' || isDigit c) = true := by
  obtain ⟨negative, whole, fraction, exponent⟩ := l
  cases h with
  | mk hwhole _ _ _ =>
    cases negative with
    | true => exact ⟨'-', _, rfl, rfl⟩
    | false =>
      obtain ⟨d, ds, rfl⟩ := List.exists_cons_of_ne_nil hwhole.ne_nil
      exact ⟨d, _, rfl, by simp [hwhole.digit_of_mem d List.mem_cons_self]⟩

theorem front_of_number {l : Literal} (h : Number l cs) (hv : l.value? = some v)
    (hrest : EndsNumber rest)
    : Front depth (cs ++ rest) v rest := by
  have hread : number (cs ++ rest) = .ok (v, rest) := by
    unfold number
    simp only [bind, Except.bind, Literal.read_of_number h hrest, hv]
  obtain ⟨c, after, rfl, hc⟩ := number_begins h
  exact .number hc hread

theorem tree_of_number (h : number cs = .ok (v, rest)) : Tree cs v rest := by
  obtain ⟨l, hread, hv⟩ := read_of_number h
  obtain ⟨chars, rfl, hchars⟩ := Literal.number_of_read hread
  exact .number hchars hv

theorem tree_of_front (h : Front depth cs v rest) : Tree cs v rest := by
  induction depth using Nat.strongRecOn generalizing cs v rest with
  | ind depth ih =>
    cases h with
    | null h =>
      obtain rfl := restOfName_eq_ok_iff.mp h
      exact .null
    | true h =>
      obtain rfl := restOfName_eq_ok_iff.mp h
      exact .true
    | false h =>
      obtain rfl := restOfName_eq_ok_iff.mp h
      exact .false
    | string h =>
      obtain ⟨s, hs, rfl⟩ := letters_of_stringBody h
      exact .string hs
    | @array depth cs _ items h =>
      have hitem : ∀ {cs v left}, BeginsWith depth cs v left → Tree (skipBlanks cs) v left :=
        fun hv => ih depth (Nat.lt_succ_self _) (front_of_value hv)
      exact .array (nextElement_finds.listed_of_entries hitem h '[')
    | @object depth cs _ fields h =>
      have hfield : ∀ {cs f left}, BeginsWithField depth cs f left →
          Field Tree (skipBlanks ('"' :: cs)) f left := by
        rintro cs ⟨_, v⟩ left ⟨afterKey, begun, hbody, hcolon, hv⟩
        obtain ⟨key, hkey, rfl⟩ := letters_of_stringBody hbody
        have hv : Tree (skipBlanks begun) v left :=
          ih depth (Nat.lt_succ_self _) (front_of_value hv)
        exact .mk hkey (colon_eq_ok_iff.mp hcolon) (blanks_skipBlanks begun) hv
      exact .object (nextMember_finds.listed_of_entries hfield h '{')
    | number hc h => exact tree_of_number h

theorem value_of_blanks {begun : List Char} (hbegun : Blanks cs begun)
    (h : Front depth begun v rest)
    : value depth cs = .ok (v, rest) := by
  apply value_of_front
  rw [hbegun.skipBlanks_eq, skipBlanks_of_front h]
  exact h

theorem holdsEntry_of_front (h : Front depth cs v rest)
    : HoldsEntry ']' id (BeginsWith depth) cs v rest where
  skipBlanks_eq := skipBlanks_of_front h
  staysOpen := by
    obtain ⟨c, after, rfl, -, hclose⟩ := front_begins h
    refine ⟨List.cons_ne_nil c after, ?_⟩
    intro other heq
    exact hclose (List.cons.inj heq).1
  exists_begun := ⟨cs, rfl, beginsWith_of_front h⟩

theorem holdsEntry_of_field {f : String × Value} (h : Field Tree cs f rest)
    (hv : ∀ {cs}, Tree cs f.2 rest → Front depth cs f.2 rest)
    : HoldsEntry '}' (List.cons '"') (BeginsWithField depth) cs f rest := by
  cases h with
  | @mk cs left right begun _ key v hkey hcolon hbegun htree =>
    have hkeyRead : stringBody [] cs = .ok (.ofList key, left) := stringBody_of_letters hkey []
    have hbegins : BeginsWith depth right v rest := value_of_blanks hbegun (hv htree)
    refine ⟨rfl, ⟨List.cons_ne_nil _ _, by simp⟩, cs, rfl, left, right, hkeyRead, ?_, hbegins⟩
    exact colon_eq_ok_iff.mpr hcolon

theorem listed_begins {opening close : Char} {entry : List Char → α → List Char → Prop}
    {as : List α} (h : Listed opening close entry cs as rest)
    : ∃ after, cs = opening :: after := by
  cases h with
  | closed _ => exact ⟨_, rfl⟩
  | more _ _ _ => exact ⟨_, rfl⟩

/-- A tree is read where the limit allows it and nothing behind it can belong to it. -/
theorem front_of_tree (h : Tree cs v rest) (hdepth : v.depth ≤ depth) (hrest : EndsNumber rest)
    : Front depth cs v rest := by
  induction depth using Nat.strongRecOn generalizing cs v rest with
  | ind depth ih =>
    cases h with
    | null => exact .null (restOfName_append _ rest)
    | true => exact .true (restOfName_append _ rest)
    | false => exact .false (restOfName_append _ rest)
    | number h hv => exact front_of_number h hv hrest
    | string h => exact .string (stringBody_of_letters h [])
    | @array _ _ items h =>
      obtain ⟨depth, rfl⟩ : ∃ d, depth = d + 1 := ⟨depth - 1, by rw [Value.depth] at hdepth; omega⟩
      have hdepths := Value.depth_array_le_iff.mp hdepth
      obtain ⟨cs, rfl⟩ := listed_begins h
      apply Front.array
      apply nextElement_finds.entries_of_listed h
      intro v hv cs left htree hleft
      apply holdsEntry_of_front
      exact ih depth (Nat.lt_succ_self _) htree (hdepths v hv) hleft
    | @object _ _ fields h =>
      obtain ⟨depth, rfl⟩ : ∃ d, depth = d + 1 := ⟨depth - 1, by rw [Value.depth] at hdepth; omega⟩
      have hdepths := Value.depth_object_le_iff.mp hdepth
      obtain ⟨cs, rfl⟩ := listed_begins h
      apply Front.object
      apply nextMember_finds.entries_of_listed h
      intro f hf cs left hfield hleft
      apply holdsEntry_of_field hfield
      intro cs htree
      exact ih depth (Nat.lt_succ_self _) htree (hdepths f hf) hleft

end

/-! ### Texts -/

theorem readWithin_eq_ok_iff {depth : Nat} {cs : List Char} {v : Value}
    : readWithin depth cs = .ok v ↔ IsText cs v ∧ v.depth ≤ depth := by
  unfold readWithin ending
  constructor
  . intro h
    obtain ⟨⟨read, left⟩, hread, h⟩ := Except.bind_eq_ok_iff.mp h
    obtain ⟨_, hending, h⟩ := Except.bind_eq_ok_iff.mp h
    cases h
    refine ⟨⟨skipBlanks cs, left, blanks_skipBlanks cs, ?_, ?_⟩, depth_of_value hread⟩
    . exact tree_of_front (front_of_value hread)
    . split at hending
      . next hleft => exact List.isEmpty_iff.mp hleft ▸ blanks_skipBlanks left
      . cases hending
  . rintro ⟨⟨begun, left, hbegun, htree, hleft⟩, hdepth⟩
    have hfront := front_of_tree htree hdepth (hleft.endsNumber endsNumber_nil)
    have hempty : skipBlanks left = [] := hleft.skipBlanks_eq
    simp [value_of_blanks hbegun hfront, hempty, bind, Except.bind, pure, Except.pure]

/-- What is written for a tree of whole numbers is a text of this tree and of no other. -/
theorem isText_chars_iff {v w : Value} (hv : v.hasWholeNumbers) : IsText v.chars w ↔ w = v := by
  constructor
  . intro h
    exact ((readWithin_chars hv).mp (readWithin_eq_ok_iff.mpr ⟨h, Nat.le_refl _⟩)).1
  . rintro rfl
    exact (readWithin_eq_ok_iff.mp ((readWithin_chars hv).mpr ⟨rfl, Nat.le_refl _⟩)).1

/-- Just the texts of trees that are not nested too deep are read, as the canonical trees. -/
theorem read_eq_ok_iff {s : String} {w : Value}
    : Json.read s = .ok w ↔ ∃ v, IsText s.toList v ∧ v.depth ≤ nestingLimit ∧ v.canonical = w := by
  unfold Json.read
  constructor
  . intro h
    obtain ⟨v, hv, h⟩ := Except.bind_eq_ok_iff.mp h
    obtain ⟨htext, hdepth⟩ := readWithin_eq_ok_iff.mp hv
    exact ⟨v, htext, hdepth, Except.ok.inj h⟩
  . rintro ⟨v, htext, hdepth, rfl⟩
    rw [readWithin_eq_ok_iff.mpr ⟨htext, hdepth⟩]
    rfl

end ChatTelemetry.Json
