/-!
# Parts of texts

Beginnings, ends and parts of a text, and small readings of ASCII text.
-/

namespace FormEngine.Text

/-- Whether `whole` begins with `part`. -/
def startsWith (whole part : String) : Bool := part.toList.isPrefixOf whole.toList

/-- Whether `whole` ends with `part`. -/
def endsWith (whole part : String) : Bool := part.toList.isSuffixOf whole.toList

/-- Whether `part` occurs in `whole`, by trying every position. -/
def occursIn (part : List Char) : List Char → Bool
  | [] => part.isEmpty
  | c :: rest => part.isPrefixOf (c :: rest) || occursIn part rest

/-- Whether `part` occurs in `whole`. -/
def contains (whole part : String) : Bool := occursIn part.toList whole.toList

/-- What follows `lead` in `whole`, if `whole` begins with it. -/
def after? : List Char → List Char → Option (List Char)
  | [], whole => some whole
  | c :: lead, d :: whole => if c = d then after? lead whole else none
  | _ :: _, [] => none

/-- The parts of a text between the occurrences of a character. -/
def parts (mark : Char) : List Char → List (List Char)
  | [] => [[]]
  | c :: rest =>
    match parts mark rest with
    | part :: more => if c = mark then [] :: part :: more else (c :: part) :: more
    | [] => [[]]

/-- Capital ASCII letters; every other character is kept. -/
def upperAscii (s : String) : String := String.ofList (s.toList.map Char.toUpper)

theorem after?_eq_some_iff {lead whole rest : List Char} :
    after? lead whole = some rest ↔ whole = lead ++ rest := by
  induction lead generalizing whole with
  | nil => simp [after?]
  | cons c lead ih =>
    cases whole with
    | nil => simp [after?]
    | cons d whole =>
      by_cases h : c = d
      · simp [after?, h, ih]
      · simp [after?, h, Ne.symm h]

theorem parts_ne_nil (mark : Char) (cs : List Char) : parts mark cs ≠ [] := by
  cases cs with
  | nil => simp [parts]
  | cons c rest =>
    rw [parts]
    split
    · split <;> simp
    · simp

theorem intercalate_parts (mark : Char) (cs : List Char) :
    List.intercalate [mark] (parts mark cs) = cs := by
  induction cs with
  | nil => rfl
  | cons c rest ih =>
    rw [parts]
    cases h : parts mark rest with
    | nil => exact absurd h (parts_ne_nil mark rest)
    | cons part more =>
      rw [h] at ih
      by_cases hc : c = mark
      · simp [hc, ih]
      · cases more with
        | nil => simp_all
        | cons next more => simp_all

theorem occursIn_iff {part whole : List Char} : occursIn part whole = true ↔ part <:+: whole := by
  induction whole with
  | nil => simp [occursIn]
  | cons c rest ih => simp [occursIn, ih, List.infix_cons_iff]

end FormEngine.Text
