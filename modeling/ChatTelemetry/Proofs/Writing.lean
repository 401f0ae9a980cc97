import ChatTelemetry.Proofs.Canonical
import ChatTelemetry.Proofs.Reading
import ChatTelemetry.Proofs.Tokens

/-!
This module shows that the text of a tree is read as the tree again, if its numbers are whole and
the reader goes as deep as the tree is nested. Writing knows no limit, so that deeper trees are
written but cannot be read.
-/

namespace ChatTelemetry.Json

open Payload (nextElement)

namespace Value

theorem inductionOn {P : Value → Prop} (v : Value) (null : P .null) (bool : ∀ b, P (.bool b))
    (int : ∀ n, P (.int n)) (double : ∀ x, P (.double x)) (string : ∀ s, P (.string s))
    (array : ∀ items, (∀ v ∈ items, P v) → P (.array items))
    (object : ∀ fields, (∀ f ∈ fields, P f.2) → P (.object fields))
    : P v := by
  cases v with
  | null => exact null
  | bool b => exact bool b
  | int n => exact int n
  | double x => exact double x
  | string s => exact string s
  | array items =>
    apply array
    intro v hv
    have := List.sizeOf_lt_of_mem hv
    exact inductionOn v null bool int double string array object
  | object fields =>
    apply object
    intro f hf
    have := List.sizeOf_lt_of_mem hf
    exact inductionOn f.2 null bool int double string array object
termination_by v
decreasing_by
  . simp
    omega
  . obtain ⟨key, v⟩ := f
    simp at this ⊢
    omega

/-! ### Trees -/

mutual

/-- How many arrays and objects stand inside one another. -/
def depth : Value → Nat
  | .array items => itemsDepth items + 1
  | .object fields => fieldsDepth fields + 1
  | _ => 0

def itemsDepth : List Value → Nat
  | [] => 0
  | v :: rest => max (depth v) (itemsDepth rest)

def fieldsDepth : List (String × Value) → Nat
  | [] => 0
  | (_, v) :: rest => max (depth v) (fieldsDepth rest)

end

theorem depth_array_le_iff {items : List Value} {n : Nat}
    : (array items).depth ≤ n + 1 ↔ ∀ v ∈ items, v.depth ≤ n := by
  rw [depth, Nat.add_le_add_iff_right]
  induction items with
  | nil => simp [itemsDepth]
  | cons v rest ih => rw [itemsDepth, Nat.max_le, ih, List.forall_mem_cons]

theorem depth_object_le_iff {fields : List (String × Value)} {n : Nat}
    : (object fields).depth ≤ n + 1 ↔ ∀ f ∈ fields, f.2.depth ≤ n := by
  rw [depth, Nat.add_le_add_iff_right]
  induction fields with
  | nil => simp [fieldsDepth]
  | cons f rest ih => rw [fieldsDepth, Nat.max_le, ih, List.forall_mem_cons]

mutual

/--
Whether all numbers are integers of 64 bits. The negative zero is one, though trees have it as a
double.
-/
def hasWholeNumbers : Value → Bool
  | .int n => isWithin64Bits n
  | .double x => x = .negativeZero
  | .array items => itemsHaveWholeNumbers items
  | .object fields => fieldsHaveWholeNumbers fields
  | _ => true

def itemsHaveWholeNumbers : List Value → Bool
  | [] => true
  | v :: rest => hasWholeNumbers v && itemsHaveWholeNumbers rest

def fieldsHaveWholeNumbers : List (String × Value) → Bool
  | [] => true
  | (_, v) :: rest => hasWholeNumbers v && fieldsHaveWholeNumbers rest

end

theorem hasWholeNumbers_array_iff {items : List Value}
    : (array items).hasWholeNumbers ↔ ∀ v ∈ items, v.hasWholeNumbers := by
  rw [hasWholeNumbers]
  induction items with
  | nil => simp [itemsHaveWholeNumbers]
  | cons v rest ih => rw [itemsHaveWholeNumbers, Bool.and_eq_true, ih, List.forall_mem_cons]

theorem hasWholeNumbers_object_iff {fields : List (String × Value)}
    : (object fields).hasWholeNumbers ↔ ∀ f ∈ fields, f.2.hasWholeNumbers := by
  rw [hasWholeNumbers]
  induction fields with
  | nil => simp [fieldsHaveWholeNumbers]
  | cons f rest ih => rw [fieldsHaveWholeNumbers, Bool.and_eq_true, ih, List.forall_mem_cons]

end Value

/-! ### Reading what is written -/

theorem restOfName_append (name rest : List Char) : restOfName name (name ++ rest) = .ok rest := by
  induction name with
  | nil => rfl
  | cons c name ih => rw [List.cons_append, restOfName, if_pos rfl, ih]

theorem front_begins {depth : Nat} {cs rest : List Char} {v : Value} (h : Front depth cs v rest)
    : ∃ c after, cs = c :: after ∧ isBlank c = false ∧ c ≠ ']' := by
  cases h with
  | null h | true h | false h | string h | array h | object h =>
    exact ⟨_, _, rfl, by decide, by decide⟩
  | number hc h =>
    refine ⟨_, _, rfl, ?_, ?_⟩
    . rw [Bool.eq_false_iff]
      intro hblank
      simp only [isBlank, Bool.or_eq_true, beq_iff_eq] at hblank
      rcases hblank with ((rfl | rfl) | rfl) | rfl
      all_goals exact absurd hc (by decide)
    . rintro rfl
      exact absurd hc (by decide)

theorem skipBlanks_of_front {depth : Nat} {cs rest : List Char} {v : Value}
    (h : Front depth cs v rest)
    : skipBlanks cs = cs := by
  obtain ⟨c, after, rfl, hblank, -⟩ := front_begins h
  rw [skipBlanks, List.dropWhile_cons_of_neg (by simp [hblank])]

theorem beginsWith_of_front {depth : Nat} {cs rest : List Char} {v : Value}
    (h : Front depth cs v rest)
    : BeginsWith depth cs v rest := by
  apply value_of_front
  rw [skipBlanks_of_front h]
  exact h

/-- What follows an item: the items after it and the bracket that closes the array. -/
def afterItem : List Value → List Char
  | [] => [']']
  | v :: rest => ',' :: Value.itemsChars (v :: rest)

theorem itemsChars_cons (v : Value) (rest : List Value)
    : Value.itemsChars (v :: rest) = v.chars ++ afterItem rest := by
  cases rest <;> rfl

/-- As `afterItem` for the fields of an object. -/
def afterField : List (String × Value) → List Char
  | [] => ['}']
  | f :: rest => ',' :: Value.fieldsChars (f :: rest)

theorem fieldsChars_cons (f : String × Value) (rest : List (String × Value))
    : Value.fieldsChars (f :: rest) = stringChars f.1 ++ ':' :: (f.2.chars ++ afterField rest) := by
  cases rest <;> rfl

theorem endsNumber_afterItem (items : List Value) (rest : List Char)
    : EndsNumber (afterItem items ++ rest) := by
  cases items <;> simp [afterItem, EndsNumber, isDigit]

theorem endsNumber_afterField (fields : List (String × Value)) (rest : List Char)
    : EndsNumber (afterField fields ++ rest) := by
  cases fields <;> simp [afterField, EndsNumber, isDigit]

section

variable {depth : Nat} {cs rest : List Char} {v : Value}

theorem nextElement_of_front (h : Front depth cs v rest)
    : nextElement true cs = .ok (some cs) := by
  have hblanks := skipBlanks_of_front h
  obtain ⟨c, after, rfl, -, hclose⟩ := front_begins h
  simp [nextElement, hblanks]

theorem nextElement_comma_of_front (h : Front depth cs v rest)
    : nextElement false (',' :: cs) = .ok (some cs) := by
  have hblanks := skipBlanks_of_front h
  have hcomma : skipBlanks (',' :: cs) = ',' :: cs := rfl
  obtain ⟨c, after, rfl, -, hclose⟩ := front_begins h
  simp [nextElement, hcomma, hblanks, hclose]

theorem entries_afterItem {items : List Value}
    (h : ∀ v ∈ items, ∀ {rest}, EndsNumber rest → Front depth (v.chars ++ rest) v rest)
    : Entries nextElement (BeginsWith depth) false (afterItem items ++ rest) items rest := by
  induction items with
  | nil => exact .closed rfl
  | cons v items ih =>
    have hv := h v List.mem_cons_self (endsNumber_afterItem items rest)
    rw [afterItem, itemsChars_cons, List.cons_append, List.append_assoc]
    apply Entries.more (nextElement_comma_of_front hv) (beginsWith_of_front hv)
    exact ih fun w hw => h w (List.mem_cons_of_mem _ hw)

theorem entries_itemsChars {items : List Value}
    (h : ∀ v ∈ items, ∀ {rest}, EndsNumber rest → Front depth (v.chars ++ rest) v rest)
    : Entries nextElement (BeginsWith depth) true (Value.itemsChars items ++ rest) items rest := by
  cases items with
  | nil => exact .closed rfl
  | cons v items =>
    have hv := h v List.mem_cons_self (endsNumber_afterItem items rest)
    rw [itemsChars_cons, List.append_assoc]
    apply Entries.more (nextElement_of_front hv) (beginsWith_of_front hv)
    exact entries_afterItem fun w hw => h w (List.mem_cons_of_mem _ hw)

theorem exists_beginsWithField {f : String × Value} (h : Front depth (f.2.chars ++ cs) f.2 cs)
    : ∃ begun, stringChars f.1 ++ ':' :: (f.2.chars ++ cs) = '"' :: begun ∧
        BeginsWithField depth begun f cs := by
  obtain ⟨begun, hbegun, hkey⟩ := stringChars_eq f.1 (':' :: (f.2.chars ++ cs))
  exact ⟨begun, hbegun, _, _, hkey, rfl, beginsWith_of_front h⟩

theorem entries_afterField {fields : List (String × Value)}
    (h : ∀ f ∈ fields, ∀ {rest}, EndsNumber rest → Front depth (f.2.chars ++ rest) f.2 rest)
    : Entries nextMember (BeginsWithField depth) false (afterField fields ++ rest) fields rest := by
  induction fields with
  | nil => exact .closed rfl
  | cons f fields ih =>
    have hv := h f List.mem_cons_self (endsNumber_afterField fields rest)
    obtain ⟨begun, hbegun, hfield⟩ := exists_beginsWithField hv
    have hchars : afterField (f :: fields) ++ rest = ',' :: '"' :: begun := by
      rw [afterField, fieldsChars_cons, ← hbegun]
      simp
    rw [hchars]
    apply Entries.more rfl hfield
    exact ih fun g hg => h g (List.mem_cons_of_mem _ hg)

theorem entries_fieldsChars {fields : List (String × Value)}
    (h : ∀ f ∈ fields, ∀ {rest}, EndsNumber rest → Front depth (f.2.chars ++ rest) f.2 rest)
    : Entries nextMember (BeginsWithField depth) true (Value.fieldsChars fields ++ rest) fields
        rest := by
  cases fields with
  | nil => exact .closed rfl
  | cons f fields =>
    have hv := h f List.mem_cons_self (endsNumber_afterField fields rest)
    obtain ⟨begun, hbegun, hfield⟩ := exists_beginsWithField hv
    have hchars : Value.fieldsChars (f :: fields) ++ rest = '"' :: begun := by
      rw [fieldsChars_cons, ← hbegun]
      simp
    rw [hchars]
    apply Entries.more rfl hfield
    exact entries_afterField fun g hg => h g (List.mem_cons_of_mem _ hg)

end

theorem intChars_begins (n : Int)
    : ∃ c cs, intChars n = c :: cs ∧ (c == '-' || isDigit c) = true := by
  unfold intChars
  split
  . exact ⟨'-', _, rfl, rfl⟩
  . have hne : Nat.toDigits 10 n.natAbs ≠ [] := Nat.toDigits_ne_nil
    obtain ⟨d, ds, hds⟩ := List.exists_cons_of_ne_nil hne
    have hd : isDigit d = true := Literal.isDigit_of_mem_toDigits (hds ▸ List.mem_cons_self)
    exact ⟨d, ds, hds, by simp [hd]⟩

theorem front_intChars {depth : Nat} {n : Int} (hn : isWithin64Bits n) {rest : List Char}
    (hrest : EndsNumber rest)
    : Front depth (intChars n ++ rest) (.int n) rest := by
  have hnumber := number_intChars hn hrest
  obtain ⟨c, cs, hcs, hc⟩ := intChars_begins n
  rw [hcs] at hnumber ⊢
  exact .number hc hnumber

/-- A tree of whole numbers stands at the front of its text. -/
theorem front_chars {v : Value} (hv : v.hasWholeNumbers) {depth : Nat} (hdepth : v.depth ≤ depth)
    {rest : List Char} (hrest : EndsNumber rest)
    : Front depth (v.chars ++ rest) v rest := by
  induction v using Value.inductionOn generalizing depth rest with
  | null => exact .null (restOfName_append _ rest)
  | bool b =>
    cases b with
    | true => exact .true (restOfName_append _ rest)
    | false => exact .false (restOfName_append _ rest)
  | int n => exact front_intChars hv hrest
  | double x =>
    obtain rfl : x = .negativeZero := of_decide_eq_true hv
    exact .number rfl (number_negativeZero hrest)
  | string s =>
    obtain ⟨body, hbody, hread⟩ := stringChars_eq s rest
    rw [Value.chars, hbody]
    exact .string hread
  | array items ih =>
    obtain ⟨depth, rfl⟩ : ∃ d, depth = d + 1 := ⟨depth - 1, by rw [Value.depth] at hdepth; omega⟩
    have hitems := Value.hasWholeNumbers_array_iff.mp hv
    have hdepths := Value.depth_array_le_iff.mp hdepth
    exact .array (entries_itemsChars fun v hv _ => ih v hv (hitems v hv) (hdepths v hv))
  | object fields ih =>
    obtain ⟨depth, rfl⟩ : ∃ d, depth = d + 1 := ⟨depth - 1, by rw [Value.depth] at hdepth; omega⟩
    have hfields := Value.hasWholeNumbers_object_iff.mp hv
    have hdepths := Value.depth_object_le_iff.mp hdepth
    exact .object (entries_fieldsChars fun f hf _ => ih f hf (hfields f hf) (hdepths f hf))

/-! ### Limits -/

theorem depth_of_value {depth : Nat} {cs rest : List Char} {v : Value}
    (h : value depth cs = .ok (v, rest))
    : v.depth ≤ depth := by
  induction depth using Nat.strongRecOn generalizing cs rest v with
  | ind depth ih =>
    have hfront := front_of_value h
    generalize skipBlanks cs = cs at hfront
    cases hfront with
    | null _ | true _ | false _ | string _ => exact Nat.zero_le _
    | @array depth cs _ vs h =>
      rw [Value.depth_array_le_iff]
      exact h.forall_mem fun hv => ih depth (Nat.lt_succ_self _) hv
    | @object depth cs _ fields h =>
      rw [Value.depth_object_le_iff]
      exact h.forall_mem fun ⟨_, _, _, _, hv⟩ => ih depth (Nat.lt_succ_self _) hv
    | number hc h =>
      obtain ⟨n, rfl⟩ | ⟨x, rfl⟩ := isNumber_of_number h
      . exact Nat.zero_le _
      . exact Nat.zero_le _

/-- The text of a tree of whole numbers is read, and as this tree, just where the limit allows. -/
theorem readWithin_chars {v w : Value} (hv : v.hasWholeNumbers) {depth : Nat}
    : readWithin depth v.chars = .ok w ↔ w = v ∧ v.depth ≤ depth := by
  have hchars : ∀ {depth}, v.depth ≤ depth → value depth v.chars = .ok (v, []) := by
    intro depth hdepth
    have hfront := front_chars hv hdepth endsNumber_nil
    rw [List.append_nil] at hfront
    exact beginsWith_of_front hfront
  unfold readWithin
  constructor
  . intro h
    obtain ⟨⟨read, rest⟩, hread, h⟩ := Except.bind_eq_ok_iff.mp h
    obtain ⟨_, _, h⟩ := Except.bind_eq_ok_iff.mp h
    cases h
    -- A reader that goes deep enough reads the tree, and one that goes less deep nothing else.
    have hdeep := value_of_le hread (Nat.le_max_left depth v.depth)
    rw [hchars (Nat.le_max_right depth v.depth)] at hdeep
    cases hdeep
    exact ⟨rfl, depth_of_value hread⟩
  . rintro ⟨rfl, hdepth⟩
    rw [hchars hdepth]
    rfl

theorem read_text_iff {v w : Value} (hv : v.hasWholeNumbers) (hcanonical : v.canonical = v)
    : Json.read v.text = .ok w ↔ w = v ∧ v.depth ≤ nestingLimit := by
  rw [Json.read, Value.text, String.toList_ofList]
  constructor
  . intro h
    obtain ⟨tree, htree, htreew⟩ := Except.bind_eq_ok_iff.mp h
    obtain ⟨rfl, hdepth⟩ := (readWithin_chars hv).mp htree
    have hw : tree.canonical = w := Except.ok.inj htreew
    exact ⟨hw.symm.trans hcanonical, hdepth⟩
  . rintro ⟨rfl, hdepth⟩
    rw [(readWithin_chars hv).mpr ⟨rfl, hdepth⟩]
    exact congrArg Except.ok hcanonical

end ChatTelemetry.Json
