/-!
Texts, and other lists, cut at a separator and put together again.
-/

namespace ChatTelemetry.Text

/-- The stretches between separators; one more than there are separators. -/
def segments [DecidableEq α] (separator : α) : List α → List (List α)
  | [] => [[]]
  | c :: cs =>
    if c = separator then [] :: segments separator cs
    else
      match segments separator cs with
      | [] => [[c]]
      | s :: rest => (c :: s) :: rest

def join (separator : List α) : List (List α) → List α
  | [] => []
  | [s] => s
  | s :: t :: rest => s ++ separator ++ join separator (t :: rest)

/-- The text before the first occurrence of a character and the text after it. -/
def cutAt? (separator : Char) : List Char → Option (List Char × List Char)
  | [] => none
  | c :: cs =>
    if c = separator then some ([], cs)
    else (cutAt? separator cs).map fun (before, after) => (c :: before, after)

def dropStart? (start : List Char) (cs : List Char) : Option (List Char) :=
  match start, cs with
  | [], cs => some cs
  | _ :: _, [] => none
  | s :: start, c :: cs => if s = c then dropStart? start cs else none

def dropEnd? (ending : List Char) (cs : List Char) : Option (List Char) :=
  (dropStart? ending.reverse cs.reverse).map List.reverse

def occursIn (needle : List Char) : List Char → Bool
  | [] => needle.isEmpty
  | c :: cs => needle.isPrefixOf (c :: cs) || occursIn needle cs

theorem segments_ne_nil [DecidableEq α] (separator : α) (cs : List α) :
    segments separator cs ≠ [] := by
  cases cs with
  | nil => simp [segments]
  | cons c cs =>
    simp only [segments]
    split
    · simp
    · split <;> simp

theorem join_segments [DecidableEq α] (separator : α) (cs : List α) :
    join [separator] (segments separator cs) = cs := by
  induction cs with
  | nil => rfl
  | cons c cs ih =>
    simp only [segments]
    split
    next h =>
      subst h
      cases hs : segments c cs with
      | nil => exact absurd hs (segments_ne_nil c cs)
      | cons s rest => simp [join, ← hs, ih]
    next =>
      cases hs : segments separator cs with
      | nil => exact absurd hs (segments_ne_nil separator cs)
      | cons s rest =>
        rw [hs] at ih
        cases rest with
        | nil => simpa [join] using ih
        | cons t rest => simpa [join] using ih

end ChatTelemetry.Text
