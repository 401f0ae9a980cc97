import ChatTelemetry.Config.Load
import ChatTelemetry.Proofs.Expansion
import ChatTelemetry.Proofs.Quotation

/-!
This module shows what a variable of the environment can do to settings that name it between
quotes.
-/

namespace ChatTelemetry

namespace Toml

/-! ### A document with one setting -/

theorem text?_cons_quote {cs : List Char} (h : hasBareQuote false cs = false)
    : text? ('"' :: (cs ++ ['"', '\n'])) = basicText? 0 (cs ++ ['"', '\n']) := by
  cases cs with
  | nil => rfl
  | cons c cs =>
    have hquote : c ≠ '"' := by
      rintro rfl
      simp [hasBareQuote] at h
    rw [List.cons_append, text?]
    intro rest heq
    exact hquote (List.cons.inj heq).1

theorem value?_cons_quote (fuel : Nat) (cs : List Char)
    : value? (fuel + 1) ('"' :: cs)
        =
      (text? ('"' :: cs)).map fun (text, rest) => (.string (.ofList text), rest) := by
  rw [value?]
  . cases text? ('"' :: cs) <;> rfl
  . simp

/-- A table that was opened and has these fields. -/
def uploadTable (fields : List (String × Node)) : Progress :=
  ⟨.table false false [("upload", .table false false fields)], ["upload"]⟩

theorem header?_upload (cs : List Char)
    : header? [']'] Node.openTable ⟨.table false false [], []⟩ ("upload]\n".toList ++ cs)
        =
      some (uploadTable [], cs) := by
  rfl

theorem key?_basePath (cs : List Char)
    : key? ("base_path = \"".toList ++ cs) = some ([], "base_path", '=' :: ' ' :: '"' :: cs) := by
  rfl

theorem keyValue?_basePath {cs : List Char} (h : hasBareQuote false cs = false)
    : keyValue? (uploadTable []) ("base_path = \"".toList ++ (cs ++ ['"', '\n']))
        =
      (basicText? 0 (cs ++ ['"', '\n'])).map fun (text, _) =>
        (uploadTable [("base_path", .leaf (.string (.ofList text)))], []) := by
  have hskip : skipInline (' ' :: '"' :: (cs ++ ['"', '\n'])) = '"' :: (cs ++ ['"', '\n']) := by
    rfl
  unfold keyValue?
  rw [key?_basePath]
  simp only [Option.bind_eq_bind, Option.bind_some]
  rw [hskip, value?_cons_quote, text?_cons_quote h]
  cases hbasic : basicText? 0 (cs ++ ['"', '\n']) with
  | none => rfl
  | some found =>
    obtain ⟨text, rest⟩ := found
    obtain rfl := rest_of_basicText? h hbasic
    rfl

theorem lines?_nil (fuel : Nat) (p : Progress) : lines? fuel p [] = some p := by
  cases fuel <;> rfl

theorem lines?_header (fuel : Nat) (p : Progress) {c : Char} (h : c ≠ '[') (cs : List Char)
    : lines? (fuel + 1) p ('[' :: c :: cs)
        =
      (header? [']'] Node.openTable p (c :: cs)).bind fun (p, rest) => lines? fuel p rest := by
  have hskip : skipLines ('[' :: c :: cs) = '[' :: c :: cs := by
    rfl
  rw [lines?.eq_def, hskip]
  simp [h]

theorem lines?_keyValue (fuel : Nat) (p : Progress) (cs : List Char)
    : lines? (fuel + 1) p ('b' :: cs)
        =
      (keyValue? p ('b' :: cs)).bind fun (p, rest) => lines? fuel p rest := by
  have hskip : skipLines ('b' :: cs) = 'b' :: cs := by
    rfl
  rw [lines?.eq_def, hskip]
  simp

theorem lines?_upload (fuel : Nat) (cs : List Char)
    : lines? (fuel + 1) ⟨.table false false [], []⟩ ("[upload]\n".toList ++ cs)
        =
      lines? fuel (uploadTable []) cs := by
  have hstep := lines?_header fuel ⟨.table false false [], []⟩ (by decide : 'u' ≠ '[')
    ("pload]\n".toList ++ cs)
  exact hstep.trans (congrArg (Option.bind · _) (header?_upload cs))

theorem lines?_basePath (fuel : Nat) {cs : List Char} (h : hasBareQuote false cs = false)
    : lines? (fuel + 1) (uploadTable []) ("base_path = \"".toList ++ (cs ++ ['"', '\n']))
        =
      (basicText? 0 (cs ++ ['"', '\n'])).map fun (text, _) =>
        uploadTable [("base_path", .leaf (.string (.ofList text)))] := by
  have hstep := lines?_keyValue fuel (uploadTable [])
    ("ase_path = \"".toList ++ (cs ++ ['"', '\n']))
  apply (hstep.trans (congrArg (Option.bind · _) (keyValue?_basePath h))).trans
  cases basicText? 0 (cs ++ ['"', '\n']) with
  | none => rfl
  | some found => exact lines?_nil fuel _

theorem read?_cons {c : Char} (h : c ≠ '\ufeff') (cs : List Char)
    : read? (c :: cs)
        =
      (lines? (cs.length + 1) ⟨.table false false [], []⟩ (c :: cs)).map (·.root.toValue) := by
  unfold read?
  split
  next rest heq => exact absurd (List.cons.inj heq).1 h
  next =>
    dsimp only
    rw [List.length_cons]
    cases lines? (cs.length + 1) ⟨.table false false [], []⟩ (c :: cs) <;> rfl

theorem read?_basePath {cs : List Char} (h : hasBareQuote false cs = false)
    : read? ("[upload]\nbase_path = \"".toList ++ (cs ++ ['"', '\n']))
        =
      (basicText? 0 (cs ++ ['"', '\n'])).map fun (text, _) =>
        .table [("upload", .table [("base_path", .string (.ofList text))])] := by
  let line := "base_path = \"".toList ++ (cs ++ ['"', '\n'])
  obtain ⟨fuel, hfuel⟩ : ∃ fuel, ("upload]\n".toList ++ line).length = fuel + 1 := ⟨_, rfl⟩
  have hread := read?_cons (by decide : '[' ≠ '\ufeff') ("upload]\n".toList ++ line)
  have hlines := (lines?_upload (fuel + 1) line).trans (lines?_basePath fuel h)
  rw [hfuel] at hread
  apply (hread.trans (congrArg (Option.map _) hlines)).trans
  cases basicText? 0 (cs ++ ['"', '\n']) with
  | none => rfl
  | some found => rfl

end Toml

namespace Config

theorem settings?_basePath (path : String)
    : settings? (.table [("upload", .table [("base_path", .string path)])])
        =
      some { upload := { basePath := some path } } := by
  rfl

section Variable

variable {env : Environment} {name v : String}
  (hname : name.toList ≠ [])
  (hchars : ∀ c ∈ name.toList, Placeholder.isKeyChar c = true ∧ c ≠ '.')
  (hv : env.get? name = some v)

include hname hchars hv

theorem expandLine_basePath
    : expandLine env 0 ("base_path = \"\x7b\x7b env.".toList ++ name.toList ++
        " \x7d\x7d\"\n".toList)
        =
      .ok ("base_path = \"".toList ++ (v.toList ++ ['"', '\n'])) := by
  let key := "env.".toList ++ name.toList
  let front := '\x7b' :: '\x7b' :: ' ' :: (key ++ [' ', '\x7d', '\x7d'])
  have hline : "base_path = \"\x7b\x7b env.".toList ++ name.toList ++ " \x7d\x7d\"\n".toList
      = "base_path = \"".toList ++ (front ++ ['"', '\n']) := by
    simp [front, key]
  have hkey : ∀ c ∈ key, Placeholder.isKeyChar c = true := by
    have henv : ∀ c ∈ "env.".toList, Placeholder.isKeyChar c = true := by
      simp [Placeholder.isKeyChar]
    intro c hc
    rcases List.mem_append.mp hc with hc | hc
    . exact henv c hc
    . exact (hchars c hc).1
  have hdot : '.' ∉ name.toList := by
    intro hmem
    exact (hchars '.' hmem).2 rfl
  have hfront : Placeholder.atFront? (front ++ ['"', '\n']) = some (⟨key, none⟩, ['"', '\n']) := by
    have := Placeholder.atFront?_written (by simp [key]) hkey ['"', '\n']
    simpa [front] using this
  have hresolve := Placeholder.resolve_variable hname hdot (v := v) (by simpa using hv) none
  rw [hline, expandLine_append env (by decide), expandLine_placeholder env (by simp [front]) hfront]
  rw [hresolve, expandLine_of_not_mem env (by decide)]
  rfl

theorem expand_basePath
    : expand env ("[upload]\nbase_path = \"\x7b\x7b env.".toList ++ name.toList ++
        " \x7d\x7d\"\n".toList)
        =
      .ok ("[upload]\nbase_path = \"".toList ++ (v.toList ++ ['"', '\n'])) := by
  let line := "base_path = \"\x7b\x7b env.".toList ++ name.toList ++ " \x7d\x7d\"".toList
  have htext : "[upload]\nbase_path = \"\x7b\x7b env.".toList ++ name.toList ++
      " \x7d\x7d\"\n".toList = "[upload]".toList ++ '\n' :: (line ++ ['\n']) := by
    simp [line]
  have hline : line ++ ['\n']
      = "base_path = \"\x7b\x7b env.".toList ++ name.toList ++ " \x7d\x7d\"\n".toList := by
    simp [line]
  have hbreak : '\n' ∉ line := by
    have hmem : '\n' ∉ name.toList := by
      intro hmem
      exact absurd (hchars '\n' hmem).1 (by decide)
    simp [line, hmem]
  rw [htext, expand_append_newline env (by decide), expand_append_newline env hbreak]
  rw [if_neg (by decide), expandLine_of_not_mem env (by decide)]
  rw [if_neg (by simp [line, isComment, Text.isBlank]), hline, expandLine_basePath hname hchars hv]
  simp [Except.bind, Except.map, show expand env [] = .ok [] from rfl]

theorem ofText_basePath (hquote : Toml.hasBareQuote false v.toList = false)
    : ofText env ("[upload]\nbase_path = \"\x7b\x7b env." ++ name ++ " \x7d\x7d\"\n")
        =
      match Toml.basicText? 0 (v.toList ++ ['"', '\n']) with
      | none => .error .unparsable
      | some (text, _) =>
        match checkDestination (.ofList text) with
        | .error fault => .error (.invalid fault)
        | .ok () => .ok { upload := { basePath := some (.ofList text) } } := by
  unfold ofText
  rw [String.toList_append, String.toList_append, expand_basePath hname hchars hv]
  dsimp only
  rw [Toml.read?_basePath hquote]
  cases Toml.basicText? 0 (v.toList ++ ['"', '\n']) with
  | none => rfl
  | some found =>
    obtain ⟨text, rest⟩ := found
    rw [Option.map_some, Option.bind_some, settings?_basePath]
    rfl

/--
A variable in whose text every quote is escaped sets nothing but the path, to what its text stands
for between quotes. Without backslashes that is the text itself.
-/
theorem variable_sets_path_only (hquote : Toml.hasBareQuote false v.toList = false)
    : let text := "[upload]\nbase_path = \"\x7b\x7b env." ++ name ++ " \x7d\x7d\"\n"
      (∀ s, ofText env text = .ok s → ∃ path,
        s = { upload := { basePath := some path } } ∧
          Toml.basicText? 0 (v.toList ++ ['"', '\n']) = some (path.toList, ['\n'])) ∧
      ('\\' ∉ v.toList → ∀ s, ofText env text = .ok s ↔
        s = { upload := { basePath := some v } } ∧
          v.toList.all Toml.isPlain = true ∧ checkDestination v = .ok ()) := by
  intro text
  have htext : ofText env text = _ := ofText_basePath hname hchars hv hquote
  refine ⟨?_, ?_⟩
  . intro s hs
    rw [htext] at hs
    cases hbasic : Toml.basicText? 0 (v.toList ++ ['"', '\n']) with
    | none =>
      rw [hbasic] at hs
      contradiction
    | some found =>
      obtain ⟨path, rest⟩ := found
      obtain rfl := Toml.rest_of_basicText? hquote hbasic
      rw [hbasic] at hs
      dsimp only at hs
      split at hs
      . contradiction
      . cases hs
        exact ⟨.ofList path, rfl, by rw [String.toList_ofList]⟩
  . intro hbackslash s
    have hmem := Toml.not_mem_of_hasBareQuote hquote hbackslash
    rw [htext, Toml.basicText?_append_quote hmem hbackslash]
    cases v.toList.all Toml.isPlain with
    | false => simp
    | true =>
      simp only [if_true, String.ofList_toList]
      cases checkDestination v with
      | error fault => simp
      | ok _ => simp [eq_comm]

end Variable

/-- A text with escaped quotes in it, and one that stands for itself. -/
theorem variable_sets_path_only_of_escaped_quotes
    : let text := "[upload]\nbase_path = \"\x7b\x7b env." ++ "V" ++ " \x7d\x7d\"\n"
      let v := "say \\\"hi\\\""
      let s : Settings := { upload := { basePath := some "say \"hi\"" } }
      ofText [("V", v)] text = .ok s ∧
      (∃ path, s = { upload := { basePath := some path } } ∧
        Toml.basicText? 0 (v.toList ++ ['"', '\n']) = some (path.toList, ['\n'])) ∧
      ofText [("V", "/var/data")] text = .ok { upload := { basePath := some "/var/data" } } := by
  intro text v s
  have hs : ofText [("V", v)] text = .ok s := by
    apply Except.toOption_eq_some_iff.mp
    decide +kernel
  have hchars : ∀ c ∈ "V".toList, Placeholder.isKeyChar c = true ∧ c ≠ '.' := by
    simp [Placeholder.isKeyChar]
  have hescaped := @variable_sets_path_only [("V", v)] "V" v (by decide) hchars rfl (by decide)
  have hplain := @variable_sets_path_only [("V", "/var/data")] "V" _ (by decide) hchars rfl
    (by decide)
  exact ⟨hs, hescaped.1 s hs, (hplain.2 (by decide) _).mpr ⟨rfl, by decide, rfl⟩⟩

/-- Quotes that nothing escapes end the path, and backslashes stand for other characters. -/
theorem variable_may_set_more_than_path
    : let text := "[upload]\nbase_path = \"\x7b\x7b env.V \x7d\x7d\"\n"
      ofText [("V", "x\"\n[capture]\nmessage_content = true\n#")] text
          = .ok { capture := { messageContent := true }, upload := { basePath := some "x" } } ∧
        ofText [("V", "a\\tb")] text = .ok { upload := { basePath := some "a\tb" } } := by
  intro text
  refine ⟨?_, ?_⟩
  . apply Except.toOption_eq_some_iff.mp
    decide +kernel
  . apply Except.toOption_eq_some_iff.mp
    decide +kernel

end Config
end ChatTelemetry
