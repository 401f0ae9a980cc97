import ChatTelemetry.Proofs.DestinationUri
import ChatTelemetry.Proofs.Filesystem
import ChatTelemetry.Proofs.PathSegments
import ChatTelemetry.Proofs.ShownPath

/-!
This module shows that a locator of a file stands for the path whose names are written in it,
whatever characters they are made of.
-/

namespace ChatTelemetry

namespace Text

/-! ### Segments put together and cut again -/

section

variable {α : Type} [DecidableEq α] {separator : α} {s : List α} {names : List (List α)}

theorem segments_of_not_mem (h : separator ∉ s) : segments separator s = [s] := by
  induction s with
  | nil => rfl
  | cons c s ih =>
    rw [List.mem_cons, not_or] at h
    exact segments_cons_of_ne (Ne.symm h.1) (ih h.2)

theorem segments_join (hne : names ≠ []) (h : ∀ s ∈ names, separator ∉ s)
    : segments separator (join [separator] names) = names := by
  induction names with
  | nil => exact absurd rfl hne
  | cons s rest ih =>
    obtain ⟨hs, hrest⟩ := List.forall_mem_cons.mp h
    by_cases hlast : rest = []
    . subst hlast
      exact segments_of_not_mem hs
    . rw [join_cons _ _ hlast, List.append_assoc, List.singleton_append]
      rw [segments_append_separator, segments_of_not_mem hs, ih hlast hrest]
      rfl

end

/-- Joined segments that are encoded one by one are decoded in one go. -/
theorem percentDecode_join {escaped : Char → Bool} {names : List (List Char)}
    (h : escaped '%' = true)
    : percentDecode (join ['/'] (names.map (percentEncode escaped))) = utf8 (join ['/'] names) := by
  induction names with
  | nil => rfl
  | cons s rest ih =>
    by_cases hlast : rest = []
    . subst hlast
      exact percentDecode_percentEncode fun _ => h
    . have hlast' : rest.map (percentEncode escaped) ≠ [] := by
        rwa [Ne, List.map_eq_nil_iff]
      rw [List.map_cons, join_cons _ _ hlast', join_cons _ _ hlast, List.append_assoc]
      rw [percentDecode_percentEncode_append fun _ => h, List.singleton_append]
      rw [percentDecode_cons (by decide), ih, utf8_append, utf8_append, List.append_assoc]
      rfl

end Text

namespace Url

/-! ### Names as they are written -/

def staysInName (c : Char) : Bool :=
  isAsciiLetter c || isAsciiDigit c || c == '-' || c == '_'

def escapedInName (c : Char) : Bool :=
  !staysInName c

def writtenName (name : List Char) : List Char :=
  Text.percentEncode escapedInName name

/-- The letters of the text of a name: those that stay, and the sign before two digits. -/
def isWrittenChar (c : Char) : Bool :=
  staysInName c || c == '%'

variable {c : Char} {name : List Char}

theorem isWrittenChar_of_mem (h : c ∈ writtenName name) : isWrittenChar c = true := by
  have hchars : ∀ c ∈ Text.percentChars, isWrittenChar c = true :=
    List.all_eq_true.mp (by decide)
  rcases Text.mem_percentEncode h with ⟨_, _, hstays⟩ | hc
  . have hstays : staysInName c = true := by simpa [escapedInName] using hstays
    simp [isWrittenChar, hstays]
  . exact hchars c hc

theorem toNat_of_isWrittenChar (h : isWrittenChar c = true)
    : 0x25 ≤ c.toNat ∧ c.toNat ≤ 0x7a := by
  unfold isWrittenChar staysInName isAsciiLetter isAsciiDigit at h
  simp only [Bool.or_eq_true, Bool.and_eq_true, decide_eq_true_eq, beq_iff_eq] at h
  have hbetween : ∀ {first last : Char}, first ≤ c ∧ c ≤ last → 0x25 ≤ first.toNat →
      last.toNat ≤ 0x7a → 0x25 ≤ c.toNat ∧ c.toNat ≤ 0x7a :=
    fun hc hfirst hlast => ⟨Nat.le_trans hfirst hc.1, Nat.le_trans hc.2 hlast⟩
  rcases h with ((((h | h) | h) | rfl) | rfl) | rfl
  . exact hbetween h (by decide) (by decide)
  . exact hbetween h (by decide) (by decide)
  . exact hbetween h (by decide) (by decide)
  . decide
  . decide
  . decide

theorem not_isBlank_of_isWrittenChar (h : isWrittenChar c = true) : Text.isBlank c = false := by
  obtain ⟨hlow, hhigh⟩ := toNat_of_isWrittenChar h
  simp only [Text.isBlank, Bool.or_eq_false_iff, Bool.and_eq_false_iff, decide_eq_false_iff_not,
    beq_eq_false_iff_ne]
  omega

theorem not_escapedInPath_of_isWrittenChar (h : isWrittenChar c = true)
    : c.toNat < 0x80 ∧ escapedInPath c = false := by
  obtain ⟨hlow, hhigh⟩ := toNat_of_isWrittenChar h
  refine ⟨by omega, ?_⟩
  have hmarks : ∀ d ∈ " \"<>\x60#?\x7b\x7d".toList, (!isWrittenChar d) = true :=
    List.all_eq_true.mp (by decide)
  rw [Bool.eq_false_iff]
  intro hescaped
  rcases escapedInPath_cases hescaped with hcontrol | hmark
  . simp only [isControl, Bool.or_eq_true, decide_eq_true_eq, beq_iff_eq] at hcontrol
    omega
  . exact Text.ne_of_class h (by simpa using hmarks c hmark) rfl

theorem percentEncode_writtenName (name : List Char)
    : Text.percentEncode escapedInPath (writtenName name) = writtenName name := by
  rw [Text.percentEncode_eq_self_iff]
  exact fun c hc => not_escapedInPath_of_isWrittenChar (isWrittenChar_of_mem hc)

theorem not_mem_writtenName {mark : Char} (h : isWrittenChar mark = false)
    : mark ∉ writtenName name :=
  fun hmem => Text.ne_of_class (isWrittenChar_of_mem hmem) h rfl

theorem isOrdinary_writtenName (h : Storage.IsPlain name)
    : IsOrdinary .file (writtenName name) where
  slash_not_mem := not_mem_writtenName (by decide)
  backslash_not_mem _ := not_mem_writtenName (by decide)
  question_not_mem := not_mem_writtenName (by decide)
  hash_not_mem := not_mem_writtenName (by decide)
  not_single := by
    rw [percentEncode_writtenName, Bool.eq_false_iff]
    exact fun hdot => h.2.1 (eq_dot_of_isSingleDot (fun _ => rfl) hdot)
  not_double := by
    rw [percentEncode_writtenName, Bool.eq_false_iff]
    exact fun hdots => h.2.2 (eq_dots_of_isDoubleDot (fun _ => rfl) hdots)
  not_drive _ := by
    rw [percentEncode_writtenName]
    unfold isDriveLetter
    split
    next c d heq =>
      have hcolon : d ≠ ':' := by
        rintro rfl
        exact not_mem_writtenName (by decide) (heq ▸ List.mem_cons_of_mem c List.mem_cons_self)
      have hbar : d ≠ '|' := by
        rintro rfl
        exact not_mem_writtenName (by decide) (heq ▸ List.mem_cons_of_mem c List.mem_cons_self)
      simp [hcolon, hbar]
    next => rfl

/-! ### The locator of a path -/

def writtenPath (names : List (List Char)) : List Char :=
  Text.join ['/'] (names.map writtenName)

theorem withOneSlash_cons {rest : List Char} (h : '/' ∉ rest.head?)
    : withOneSlash .file ('/' :: rest) = '/' :: rest := by
  unfold withOneSlash
  rw [if_pos (by decide), List.dropWhile_cons_of_pos rfl]
  cases rest with
  | nil => rfl
  | cons c rest => rw [List.dropWhile_cons_of_neg (by simpa using h)]

section

variable {names : List (List Char)} (hne : names ≠ []) (hnames : ∀ s ∈ names, Storage.IsPlain s)

include hnames in
theorem writtenName_ne_nil : ∀ s ∈ names.map writtenName, s ≠ [] := by
  intro s hs
  obtain ⟨name, hname, rfl⟩ := List.mem_map.mp hs
  rw [← List.length_pos_iff]
  apply Nat.lt_of_lt_of_le (List.length_pos_iff.mpr (hnames name hname).1)
  exact Text.length_le_length_percentEncode escapedInName name

theorem mem_writtenPath (h : c ∈ writtenPath names) : c = '/' ∨ isWrittenChar c = true := by
  rcases Text.mem_join h with h | ⟨s, hs, h⟩
  . exact .inl (List.mem_singleton.mp h)
  . obtain ⟨name, -, rfl⟩ := List.mem_map.mp hs
    exact .inr (isWrittenChar_of_mem h)

include hne hnames in
theorem fileUrl_writtenPath
    : fileUrl ('/' :: '/' :: '/' :: writtenPath names)
        =
      .ok {
        scheme := "file".toList
        authority := some {}
        path := '/' :: writtenPath names } := by
  have hordinary : ∀ s ∈ names.map writtenName, IsOrdinary (.ofScheme "file".toList) s := by
    rw [List.forall_mem_map]
    exact fun name hname => isOrdinary_writtenName (hnames name hname)
  have hself : Text.percentEncode escapedInPath (writtenPath names) = writtenPath names := by
    rw [Text.percentEncode_eq_self_iff]
    intro c hc
    rcases mem_writtenPath hc with rfl | h
    . decide
    . exact not_escapedInPath_of_isWrittenChar h
  have hfirst : '/' ∉ (writtenPath names).head? :=
    Text.not_mem_head?_join (writtenName_ne_nil hnames) fun s hs => (hordinary s hs).slash_not_mem
  have hread : fileUrl ('/' :: '/' :: '/' :: writtenPath names)
      = .ok (settledFile (withRest "file".toList (some {}) [] ('/' :: writtenPath names))) := by
    rfl
  have hnotNil : names.map writtenName ≠ [] := by rwa [Ne, List.map_eq_nil_iff]
  have hrest : withRest "file".toList (some {}) [] ('/' :: writtenPath names)
      = {
          scheme := "file".toList
          authority := some {}
          path := '/' :: Text.percentEncode escapedInPath (writtenPath names) } :=
    withRest_join hnotNil hordinary
  rw [hread, hrest, hself]
  unfold settledFile
  dsimp only
  rw [withOneSlash_cons hfirst, ite_self]

theorem filePath?_writtenPath (names : List (List Char))
    : ({
          scheme := "file".toList
          authority := some {}
          path := '/' :: writtenPath names } : Url).filePath?
        =
      some (withDriveSlash (Text.utf8 ('/' :: Text.join ['/'] names))) := by
  have hdecoded : Text.percentDecode ('/' :: writtenPath names)
      = Text.utf8 ('/' :: Text.join ['/'] names) := by
    have hjoin : Text.percentDecode (writtenPath names) = Text.utf8 (Text.join ['/'] names) :=
      Text.percentDecode_join rfl
    rw [Text.percentDecode_cons (by decide), hjoin]
    rfl
  unfold filePath?
  dsimp only [Option.bind_some]
  rw [hdecoded]
  rfl

include hne hnames in
theorem isTight_writtenPath
    : Text.IsTight ("file://".toList ++ ('/' :: writtenPath names)) := by
  have hscheme : Text.IsTight "file://".toList := by
    constructor <;> simp [Text.isBlank, Url.isTabOrLineBreak]
  apply hscheme.append (by simp) (by simp)
  . intro c hc
    have hnotNil := writtenName_ne_nil hnames
    have hpath : writtenPath names ≠ [] :=
      Text.join_ne_nil (by rwa [Ne, List.map_eq_nil_iff]) hnotNil
    rw [List.getLast?_cons_of_ne_nil hpath] at hc
    obtain ⟨s, hs, hc⟩ := Text.mem_getLast?_join hnotNil hc
    obtain ⟨name, -, rfl⟩ := List.mem_map.mp hs
    have hchar := isWrittenChar_of_mem (List.mem_of_mem_getLast? hc)
    exact ⟨not_isBlank_of_isWrittenChar hchar,
      Nat.lt_of_lt_of_le (by decide) (toNat_of_isWrittenChar hchar).1⟩
  . intro c hc
    rcases List.mem_cons.mp hc with rfl | hc
    . decide
    . rcases mem_writtenPath hc with rfl | h
      . decide
      . exact Nat.le_trans (by decide) (toNat_of_isWrittenChar h).1

end

end Url

namespace Storage

/-! ### The files below a path -/

section

variable {names : List Name} (hne : names ≠ []) (hnames : ∀ s ∈ names, IsPlainName s)
  (hslash : ∀ s ∈ names, Path.slash ∉ s)

include hne hnames hslash

theorem ofBytes_join
    : Path.ofBytes (Path.slash :: Text.join [Path.slash] names) = ⟨true, names⟩ := by
  have hfilter : names.filter (fun s => !s.isEmpty) = names := by
    rw [List.filter_eq_self]
    intro s hs
    simpa using (hnames s hs).1
  have hdots : names.filter (· != Path.dot) = names := by
    rw [List.filter_eq_self]
    intro s hs
    simpa using (hnames s hs).2.1
  unfold Path.ofBytes
  rw [Text.segments_cons_self, Text.segments_join hne hslash]
  rw [List.filter_cons_of_neg (by decide), hfilter]
  change Path.mk true (names.filter (· != Path.dot)) = _
  rw [hdots]

theorem getLast?_join_ne_slash
    : (Path.slash :: Text.join [Path.slash] names).getLast? ≠ some Path.slash := by
  have hnotNil : ∀ s ∈ names, s ≠ [] := fun s hs => (hnames s hs).1
  rw [List.getLast?_cons_of_ne_nil (Text.join_ne_nil hne hnotNil)]
  exact Text.not_mem_getLast?_join hnotNil hslash

end

namespace Filesystem

theorem objectPath_eq {base : List UInt8} (hne : base ≠ [])
    (hlast : base.getLast? ≠ some Path.slash) (name : String)
    : objectPath base name = base ++ Path.slash :: Text.bytes name := by
  unfold objectPath
  rw [if_neg hne, if_neg hlast]

theorem objectPath_withDriveSlash {path : List UInt8} (hne : path ≠ [])
    (hlast : path.getLast? ≠ some Path.slash) (name : String)
    : objectPath (Url.withDriveSlash path) name = path ++ Path.slash :: Text.bytes name := by
  have hslash : Url.withDriveSlash path = path ∨
      Url.withDriveSlash path = path ++ [Path.slash] := by
    unfold Url.withDriveSlash
    split
    next =>
      split
      next => exact .inr rfl
      next => exact .inl rfl
    next => exact .inl rfl
  rcases hslash with h | h
  . rw [h]
    exact objectPath_eq hne hlast name
  . rw [h]
    unfold objectPath
    rw [if_neg (List.append_ne_nil_of_left_ne_nil hne _), if_pos List.getLast?_concat,
      List.append_assoc, List.singleton_append]

/-- What an upload does depends on its base no further than the paths below the base do. -/
theorem upload_congr {base base' : List UInt8} {name : String}
    (h : objectPath base name = objectPath base' name) (v : Json.Value) (fs : Files)
    : upload base name v fs = upload base' name v fs := by
  unfold upload
  rw [h]

end Filesystem

/--
Whether a file can be put at a location: only directories are on the way to it, none is in its
place, and no name is too long.
-/
structure Files.HasRoom (fs : Files) (l : Location) : Prop where
  fits : ∀ name ∈ l, name.length ≤ nameLimit
  way : ∀ front rest, l = front ++ rest → rest ≠ [] →
    fs.find? front = some .directory ∨ fs.find? front = none
  place : fs.find? l ≠ some .directory

theorem Files.HasRoom.store_eq_ok {fs : Files} {l : Location} (h : fs.HasRoom l) (hne : l ≠ [])
    (hplain : ∀ s ∈ l, IsPlainName s) {path : List UInt8} (hpath : Path.ofBytes path = ⟨true, l⟩)
    (hfault : pathFault? path = none) (content : String)
    : ∃ fs', fs.store path content = (fs', .ok ()) := by
  have hroot : fs.locate ⟨true, []⟩ = .ok [] := rfl
  have hbelow := @Files.store_below fs path content ⟨true, []⟩ [] l hpath hfault hroot
    fs.find?_nil hne hplain h.fits h.way h.place
  obtain ⟨_, -, -, -, -, hstore⟩ := hbelow
  exact ⟨_, hstore⟩

/-! ### Names that are texts -/

/-- The path that names lead along from the root, as a text. -/
def pathText (names : List (List Char)) : String :=
  .ofList ('/' :: Text.join ['/'] names)

/-- Where an object stands below directories that are named by texts. -/
def locationBelow (names : List (List Char)) (name : String) : Location :=
  names.map Text.utf8 ++ objectNames name

section

variable {names : List (List Char)}

theorem bytes_pathText (names : List (List Char))
    : Text.bytes (pathText names)
        =
      Path.slash :: Text.join [Path.slash] (names.map Text.utf8) := by
  rw [Text.bytes, pathText, String.toList_ofList, Text.utf8_cons, Text.utf8_join]
  rfl

variable (hne : names ≠ []) (hnames : ∀ s ∈ names, IsPlain s) (hslash : ∀ s ∈ names, '/' ∉ s)

include hnames in
theorem isPlainName_utf8 : ∀ s ∈ names.map Text.utf8, IsPlainName s := by
  rw [List.forall_mem_map]
  exact fun s hs => (hnames s hs).utf8

include hslash in
theorem slash_not_mem_utf8 : ∀ s ∈ names.map Text.utf8, Path.slash ∉ s := by
  rw [List.forall_mem_map]
  intro s hs
  exact (Text.mem_utf8_iff (s := '/') (by decide)).not.mpr (hslash s hs)

include hne hnames hslash

/-- Below the names, with a slash at their end or without it, objects have the same path. -/
theorem Filesystem.objectPath_pathText (name : String)
    : objectPath (Url.withDriveSlash (Text.bytes (pathText names))) name
          = Text.bytes (pathText names ++ "/" ++ name) ∧
        objectPath (Text.bytes (pathText names)) name
          = Text.bytes (pathText names ++ "/" ++ name) := by
  have hnotNil : names.map Text.utf8 ≠ [] := by rwa [Ne, List.map_eq_nil_iff]
  have hlast := getLast?_join_ne_slash hnotNil (isPlainName_utf8 hnames) (slash_not_mem_utf8 hslash)
  rw [← bytes_pathText] at hlast
  have hpath : Text.bytes (pathText names) ≠ [] := by
    rw [bytes_pathText]
    exact List.cons_ne_nil _ _
  rw [objectPath_withDriveSlash hpath hlast, objectPath_eq hpath hlast, bytes_append_slash]
  exact ⟨rfl, rfl⟩

theorem ofBytes_below {name : String} (hname : isObjectName name = true)
    : Path.ofBytes (Text.bytes (pathText names ++ "/" ++ name))
        =
      ⟨true, locationBelow names name⟩ := by
  have hnotNil : names.map Text.utf8 ≠ [] := by rwa [Ne, List.map_eq_nil_iff]
  have hbase := ofBytes_join hnotNil (isPlainName_utf8 hnames) (slash_not_mem_utf8 hslash)
  rw [← bytes_pathText] at hbase
  rw [← (Filesystem.objectPath_pathText hne hnames hslash name).2,
    Filesystem.ofBytes_objectPath _ hname, hbase]
  rfl

omit hne hslash in
theorem isPlainName_below {name : String} (hname : isObjectName name = true)
    : ∀ s ∈ locationBelow names name, IsPlainName s := by
  intro s hs
  rcases List.mem_append.mp hs with hs | hs
  . exact isPlainName_utf8 hnames s hs
  . exact isPlainName_of_isObjectName hname s hs

end

/--
The locator of a file stands for the path of the names that are written in it: objects are stored
below that path and located by it, as they are with the path itself for a destination.
-/
theorem file_uri_denotes_its_path {names : List (List Char)} (hne : names ≠ [])
    (hnames : ∀ s ∈ names, IsPlain s) (hslash : ∀ s ∈ names, '/' ∉ s) (options : Options)
    : let path := pathText names
      ∃ base, Backend.ofDestination ("file:///" ++ .ofList (Url.writtenPath names)) options
            = .ok (.filesystem base) ∧
        (∀ name v fs locator, (Filesystem.upload base name v fs).result = .ok locator →
          locator = path ++ "/" ++ name ∧
            (Filesystem.upload base name v fs).files.find? (locationBelow names name)
              = some (.file v.text)) ∧
        (∀ name v fs, isObjectName name = true →
          pathFault? (Text.bytes (path ++ "/" ++ name)) = none →
          fs.HasRoom (locationBelow names name) →
            (Filesystem.upload base name v fs).result = .ok (path ++ "/" ++ name)) ∧
        (Text.trim path.toList = path.toList → hasScheme path.toList = false →
          ∃ plain, Backend.ofDestination path options = .ok (.filesystem plain) ∧
            ∀ name v fs, Filesystem.upload base name v fs = Filesystem.upload plain name v fs) := by
  intro path
  have hbase (name : String) := (Filesystem.objectPath_pathText hne hnames hslash name).1
  have hplain (name : String) := (Filesystem.objectPath_pathText hne hnames hslash name).2
  have huri : "file:///" ++ String.ofList (Url.writtenPath names)
      = .ofList ("file://".toList ++ ('/' :: Url.writtenPath names)) := by
    rw [← String.toList_inj]
    simp
  have hbytes : Text.utf8 ('/' :: Text.join ['/'] names) = Text.bytes path := by
    unfold path pathText Text.bytes
    rw [String.toList_ofList]
  refine ⟨Url.withDriveSlash (Text.bytes path), ?_, ?_, ?_, ?_⟩
  . rw [huri, ← hbytes]
    exact ofDestination_of_file (Url.isTight_writtenPath hne hnames)
      (Url.fileUrl_writtenPath hne hnames) (Url.filePath?_writtenPath names)
  . intro name v fs locator hresult
    obtain ⟨hname, hlocator, hstore⟩ := Filesystem.upload_eq_ok hresult
    rw [hbase] at hlocator hstore
    rw [shownPath_bytes] at hlocator
    refine ⟨hlocator, ?_⟩
    obtain ⟨-, -, l, -, -, -, hl, hfile⟩ := Files.store_eq_ok hstore
    rw [ofBytes_below hne hnames hslash hname, Files.locate_eq_walk] at hl
    obtain ⟨rfl, -⟩ := (Files.walk_eq_ok_iff (isPlainName_below hnames hname)).mp hl
    exact hfile
  . intro name v fs hname hfault hroom
    have hpath := ofBytes_below hne hnames hslash hname
    have hnotNil : locationBelow names name ≠ [] :=
      List.append_ne_nil_of_right_ne_nil _ (objectNames_ne_nil name)
    obtain ⟨fs', hstore⟩ :=
      hroom.store_eq_ok hnotNil (isPlainName_below hnames hname) hpath hfault v.text
    rw [← hbase] at hstore
    have hresult := (Filesystem.upload_of_store_eq_ok hname hstore).2
    rwa [hbase, shownPath_bytes] at hresult
  . intro htrim hscheme
    refine ⟨Text.bytes path, ?_, ?_⟩
    . unfold Backend.ofDestination
      dsimp only
      rw [htrim, hscheme, if_neg]
      . rfl
      . simp [path, pathText]
    . intro name v fs
      apply Filesystem.upload_congr
      rw [hbase, hplain]

theorem file_uri_denotes_its_path_of_marks
    : let names := [" a%#?".toList, ":\\é".toList, "x:".toList]
      ∃ base, Backend.ofDestination "file:///%20a%25%23%3F/%3A%5C%C3%A9/x%3A" {}
            = .ok (.filesystem base) ∧
        (Filesystem.upload base "r.json" .null ⟨[], []⟩).result
            = .ok "/ a%#?/:\\é/x:/r.json" ∧
        (Filesystem.upload base "r.json" .null ⟨[], []⟩).files.find? (locationBelow names "r.json")
            = some (.file "null") := by
  intro names
  have hnames : ∀ s ∈ names, IsPlain s := by decide
  have hslash : ∀ s ∈ names, '/' ∉ s := by decide
  obtain ⟨base, hbase, hupload, -, -⟩ :=
    file_uri_denotes_its_path (List.cons_ne_nil _ _) hnames hslash {}
  have hdestination : Backend.ofDestination "file:///%20a%25%23%3F/%3A%5C%C3%A9/x%3A" {}
      = .ok (.filesystem (Text.bytes "/ a%#?/:\\é/x:/")) := by
    apply Except.toOption_eq_some_iff.mp
    decide +kernel
  obtain rfl : base = Text.bytes "/ a%#?/:\\é/x:/" := by
    have huri : "file:///" ++ String.ofList (Url.writtenPath names)
        = "file:///%20a%25%23%3F/%3A%5C%C3%A9/x%3A" := by
      decide +kernel
    rw [huri, hdestination] at hbase
    simpa using hbase.symm
  have hresult : (Filesystem.upload (Text.bytes "/ a%#?/:\\é/x:/") "r.json" .null ⟨[], []⟩).result
      = .ok "/ a%#?/:\\é/x:/r.json" := by
    apply Except.toOption_eq_some_iff.mp
    decide +kernel
  exact ⟨_, hdestination, hresult, (hupload "r.json" .null ⟨[], []⟩ _ hresult).2⟩

end Storage

end ChatTelemetry
