import ChatTelemetry.Proofs.Places
import ChatTelemetry.Proofs.Tokens

/-!
This module shows that ids made up for tool calls do not clash within a message. Such an id ends in
the position of its part: the digits behind its last underscore, or all of it if it has none.
-/

namespace ChatTelemetry.Chat

open Json (Value)

namespace PartFields

/-! ### Ids -/

/-- What stands before the position in an id that is made up. -/
def stem (name : Option String) : List Char :=
  if name.getD "" = "" then [] else (name.getD "").toList ++ ['_']

theorem callId_of_given {id : String} (h : id ≠ "") (name : Option String) (position : Nat)
    : callId (some id) name position = id := by
  simp [callId, h]

theorem callId_of_missing {id : Option String} (h : id.getD "" = "") (name : Option String)
    (position : Nat)
    : (callId id name position).toList = stem name ++ Nat.toDigits 10 position := by
  unfold callId stem
  cases id with
  | none =>
    cases name with
    | none => simp
    | some name => by_cases hname : name = "" <;> simp [hname]
  | some id =>
    obtain rfl : id = "" := h
    cases name with
    | none => simp
    | some name => by_cases hname : name = "" <;> simp [hname]

theorem ne_underscore_of_mem_toDigits {n : Nat} {c : Char} (h : c ∈ Nat.toDigits 10 n)
    : c ≠ '_' := by
  rintro rfl
  exact absurd (Json.Literal.isDigit_of_mem_toDigits h) (by decide)

/-- Whatever the name is, what stands behind the last underscore is the position. -/
theorem takeWhile_reverse_stem (name : Option String) (n : Nat)
    : (stem name ++ Nat.toDigits 10 n).reverse.takeWhile (· ≠ '_')
        =
      (Nat.toDigits 10 n).reverse := by
  have hdigits : ∀ c ∈ (Nat.toDigits 10 n).reverse, decide (c ≠ '_') = true := by
    intro c hc
    exact decide_eq_true (ne_underscore_of_mem_toDigits (List.mem_reverse.mp hc))
  have hstem : (stem name).reverse.takeWhile (· ≠ '_') = [] := by
    unfold stem
    split <;> simp
  rw [List.reverse_append, List.takeWhile_append_of_pos hdigits, hstem, List.append_nil]

theorem toDigits_injective {m n : Nat} (h : Nat.toDigits 10 m = Nat.toDigits 10 n) : m = n := by
  rw [← Json.Literal.natValue_toDigits m, h, Json.Literal.natValue_toDigits]

theorem position_of_callId {id id' name name' : Option String} {i j : Nat} (hid : id.getD "" = "")
    (hid' : id'.getD "" = "") (h : callId id name i = callId id' name' j)
    : i = j := by
  have hchars := congrArg String.toList h
  rw [callId_of_missing hid, callId_of_missing hid'] at hchars
  have hdigits := congrArg (fun cs => cs.reverse.takeWhile (· ≠ '_')) hchars
  rw [takeWhile_reverse_stem, takeWhile_reverse_stem, List.reverse_inj] at hdigits
  exact toDigits_injective hdigits

theorem callId_ne_empty (id name : Option String) (position : Nat)
    : callId id name position ≠ "" := by
  by_cases hid : id.getD "" = ""
  . intro h
    have hchars := callId_of_missing hid name position
    rw [h, String.toList_empty, eq_comm, List.append_eq_nil_iff] at hchars
    exact Nat.toDigits_ne_nil hchars.2
  . cases id with
    | none => exact absurd rfl hid
    | some id =>
      have hne : id ≠ "" := hid
      rw [callId_of_given hne]
      exact hne

/-! ### Parts with an id -/

theorem toolCall_of_toPart {f : PartFields} {i : Nat} {id name : String} {arguments : Option Value}
    (h : f.toPart i = .toolCallRequest id name arguments)
    : ∃ c, f.toolCall = some c ∧ id = callId c.id c.name i := by
  unfold toPart at h
  split at h
  case h_4 c _ _ _ _ =>
    cases h
    exact ⟨c, rfl, rfl⟩
  all_goals cases h

theorem toolResponse_of_toPart {f : PartFields} {i : Nat} {id : String} {name : Option String}
    {result : Option Value} (h : f.toPart i = .toolCallResponse id name result)
    : ∃ r, f.toolResponse = some r ∧ id = callId r.id r.name i := by
  unfold toPart at h
  split at h
  case h_5 r _ _ _ _ =>
    cases h
    exact ⟨r, rfl, rfl⟩
  all_goals cases h

end PartFields

/-- The id of a tool call or of the response to one. -/
def Part.callId? : Part → Option String
  | toolCallRequest id _ _ => some id
  | toolCallResponse id _ _ => some id
  | _ => none

/-- The id that came with the fields of which this part was made. -/
def PartFields.givenId (f : PartFields) : Part → Option String
  | .toolCallRequest _ _ _ => f.toolCall.bind (·.id)
  | .toolCallResponse _ _ _ => f.toolResponse.bind (·.id)
  | _ => none

/-- A tool call or a response in the message, with the id that was given and the one that it has. -/
def Turn.CallAt (t : Turn) (position : Nat) (given : Option String) (id : String) : Prop :=
  ∃ f part, t.parts[position]? = some f ∧ t.toMessage.parts[position]? = some part ∧
    f.givenId part = given ∧ part.callId? = some id

namespace Turn

variable {t : Turn}

theorem CallAt.exists_name {position : Nat} {given : Option String} {id : String}
    (h : t.CallAt position given id)
    : ∃ name, id = PartFields.callId given name position := by
  obtain ⟨f, part, hf, hpart, rfl, hid⟩ := h
  rw [parts_toMessage hf, Option.some.injEq] at hpart
  cases part with
  | toolCallRequest id' name arguments =>
    obtain ⟨c, hc, rfl⟩ := PartFields.toolCall_of_toPart hpart
    obtain rfl := Option.some.inj hid
    refine ⟨c.name, ?_⟩
    rw [PartFields.givenId, hc]
    rfl
  | toolCallResponse id' name result =>
    obtain ⟨r, hr, rfl⟩ := PartFields.toolResponse_of_toPart hpart
    obtain rfl := Option.some.inj hid
    refine ⟨r.name, ?_⟩
    rw [PartFields.givenId, hr]
    rfl
  | _ => cases hid

theorem exists_callAt {position : Nat} {part : Part} {id : String}
    (hpart : t.toMessage.parts[position]? = some part) (hid : part.callId? = some id)
    : ∃ given, t.CallAt position given id := by
  have hf := hpart
  rw [parts_toMessage_eq_mapIdx, List.getElem?_mapIdx, Option.map_eq_some_iff] at hf
  obtain ⟨f, hf, -⟩ := hf
  exact ⟨f.givenId part, f, part, hf, hpart, rfl, hid⟩

/--
In a message, calls and responses that came without an id differ in their ids. No id is empty, and
one that was given and is not empty is kept.
-/
theorem made_up_ids_are_distinct (t : Turn)
    : (∀ i j given given' id id', t.CallAt i given id → t.CallAt j given' id' → i ≠ j →
        given.getD "" = "" → given'.getD "" = "" → id ≠ id')
        ∧
      (∀ i part id, t.toMessage.parts[i]? = some part → part.callId? = some id →
        id ≠ "" ∧ ∃ given, t.CallAt i given id)
        ∧
      ∀ i given id, t.CallAt i (some given) id → given ≠ "" → id = given := by
  refine ⟨?_, ?_, ?_⟩
  . intro i j given given' id id' hcall hcall' hij hgiven hgiven' hid
    obtain ⟨name, rfl⟩ := hcall.exists_name
    obtain ⟨name', rfl⟩ := hcall'.exists_name
    apply hij
    exact PartFields.position_of_callId hgiven hgiven' hid
  . intro i part id hpart hid
    obtain ⟨given, hcall⟩ := exists_callAt hpart hid
    obtain ⟨name, rfl⟩ := hcall.exists_name
    exact ⟨PartFields.callId_ne_empty given name i, given, hcall⟩
  . intro i given id hcall hgiven
    obtain ⟨name, rfl⟩ := hcall.exists_name
    exact PartFields.callId_of_given hgiven name i

/-- The second id is made up and the third was given: such two may be the same. -/
theorem made_up_ids_are_distinct_of_a_numbered_name
    : let call (id name : Option String) : PartFields := { toolCall := some ⟨id, name, none⟩ }
      let calls := [call none (some "a_1"), call (some "") (some "a"), call (some "a_1") none]
      let t : Turn := ⟨.assistant, calls, []⟩
      t.CallAt 0 none "a_1_0" ∧ t.CallAt 1 (some "") "a_1" ∧ t.CallAt 2 (some "a_1") "a_1" ∧
        "a_1_0" ≠ "a_1" := by
  intro call calls t
  have hfirst : t.CallAt 0 none "a_1_0" := ⟨_, _, rfl, rfl, rfl, by decide⟩
  have hsecond : t.CallAt 1 (some "") "a_1" := ⟨_, _, rfl, rfl, rfl, by decide⟩
  have hthird : t.CallAt 2 (some "a_1") "a_1" := ⟨_, _, rfl, rfl, rfl, by decide⟩
  obtain ⟨hdistinct, -, -⟩ := made_up_ids_are_distinct t
  exact ⟨hfirst, hsecond, hthird, hdistinct _ _ _ _ _ _ hfirst hsecond (by decide) rfl rfl⟩

end Turn
end ChatTelemetry.Chat
