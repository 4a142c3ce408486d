import FormEngine.Path.Segment

/-!
# Spelling a path

A segment can be written in a path as an index in brackets, as a quoted name in brackets, or as a
plain name, which a point sets off from what stands before it. Quotes allow every name without a
closing bracket; a plain name also goes without points, opening brackets and blanks. A path that is
spelled so is read as the segments it is spelled from, whatever styles stand next to one another
(`parse_spell`): what has been read ends where the next segment begins (`scan_spelled`), and there
is nothing to trim (`trimmed_spelled`).
-/

namespace FormEngine

open Text (isBlank trim)

namespace Path

/-! ## Spellings -/

/-- A segment as it is written in a path. -/
inductive Spelling where
  | index (n : Nat)
  | quoted (name : String)
  | plain (name : String)
  deriving DecidableEq, Repr

namespace Spelling

def segment : Spelling → Segment
  | index n => .index n
  | quoted name => .key name
  | plain name => .key name

/-- The characters of a segment; a point stands before a plain name that is not the first. -/
def chars (first : Bool) : Spelling → List Char
  | index n => '[' :: (toString n).toList ++ [']']
  | quoted name => '[' :: ('"' :: name.toList ++ ['"']) ++ [']']
  | plain name => if first then name.toList else '.' :: name.toList

/-- The character is not blank and does not end a name. -/
def isPlain (c : Char) : Bool := c != '.' && c != '[' && !isBlank c

/-- An index has 64 bits, quotes are for names without a closing bracket, and a plain name has only
plain characters, at least one. -/
def Allowed : Spelling → Prop
  | index n => n < Nat.pow 2 64
  | quoted name => ']' ∉ name.toList
  | plain name => name ≠ "" ∧ name.toList.all isPlain = true

instance : DecidablePred Allowed
  | index n => inferInstanceAs (Decidable (n < Nat.pow 2 64))
  | quoted name => inferInstanceAs (Decidable (']' ∉ name.toList))
  | plain name => inferInstanceAs (Decidable (name ≠ "" ∧ name.toList.all isPlain = true))

theorem plain_of_mem {name : String} (h : (plain name).Allowed) {c : Char}
    (hc : c ∈ name.toList) : (c ≠ '.' ∧ c ≠ '[') ∧ isBlank c = false := by
  have hplain : isPlain c = true := List.all_eq_true.1 h.2 c hc
  simpa [isPlain] using hplain

end Spelling

/-- The characters of some segments one behind the other. -/
def spelled : Bool → List Spelling → List Char
  | _, [] => []
  | first, s :: rest => s.chars first ++ spelled false rest

/-- The path that is spelled by some segments. -/
def spell (ss : List Spelling) : String := String.ofList (spelled true ss)

/-! ## Reading -/

theorem scan_plain {cs : List Char} (h : ∀ c ∈ cs, c ≠ '.' ∧ c ≠ '[') (run rest : List Char) :
    scan false run (cs ++ rest) = scan false (cs.reverse ++ run) rest := by
  induction cs generalizing run with
  | nil => rfl
  | cons c cs ih =>
    obtain ⟨hpoint, hopen⟩ := h c List.mem_cons_self
    rw [List.cons_append, scan, if_neg Bool.false_ne_true, if_neg hpoint, if_neg hopen,
      ih fun d hd => h d (List.mem_cons_of_mem _ hd), List.reverse_cons, List.append_assoc,
      List.singleton_append]

theorem scan_inside {inner : List Char} (h : ']' ∉ inner) (run rest : List Char) :
    scan true run (inner ++ ']' :: rest) =
      bracket (trim (run.reverse ++ inner)) ++ scan false [] rest := by
  induction inner generalizing run with
  | nil => simp [scan]
  | cons c inner ih =>
    obtain ⟨hc, hrest⟩ := List.ne_and_not_mem_of_not_mem_cons h
    rw [List.cons_append, scan, if_pos rfl, if_neg hc.symm, ih hrest, List.reverse_cons,
      List.append_assoc, List.singleton_append]

theorem scan_bracket {inner : List Char} (hclose : ']' ∉ inner) (htrim : Text.Trimmed inner)
    (run rest : List Char) :
    scan false run ('[' :: inner ++ [']'] ++ rest) =
      name run ++ (bracket inner ++ scan false [] rest) := by
  rw [List.append_assoc, List.cons_append, scan, if_neg Bool.false_ne_true, if_neg (by decide),
    if_pos rfl]
  have hinside := scan_inside hclose [] rest
  rw [List.reverse_nil, List.nil_append, htrim.trim_eq] at hinside
  exact congrArg _ hinside

theorem bracket_quoted (cs : List Char) :
    bracket ('"' :: cs ++ ['"']) = [.key (String.ofList cs)] := by
  have hquoted : unquote? '"' ('"' :: cs ++ ['"']) = some cs := by
    rw [List.cons_append, unquote?, if_pos ⟨rfl, List.getLast?_concat⟩, List.dropLast_concat]
  rw [bracket, hquoted]
  rfl

theorem unquote?_toDigits {quote : Char} (h : quote.isDigit = false) (n : Nat) :
    unquote? quote (Nat.toDigits 10 n) = none := by
  obtain ⟨c, rest, hdigits⟩ := List.exists_cons_of_ne_nil (Nat.toDigits_ne_nil (b := 10) (n := n))
  have hc : c.isDigit = true := Text.isDigit_of_mem_toDigits (hdigits ▸ List.mem_cons_self)
  rw [hdigits, unquote?, if_neg]
  rintro ⟨rfl, -⟩
  rw [h] at hc
  cases hc

theorem bracket_toDigits {n : Nat} (h : n < Nat.pow 2 64) :
    bracket (Nat.toDigits 10 n) = [.index n] := by
  rw [bracket, unquote?_toDigits (by decide), unquote?_toDigits (by decide)]
  simp only [Option.or_none, Text.unsigned?_toDigits h]

theorem scan_name {key : String} (h : (Spelling.plain key).Allowed) (rest : List Char) :
    scan false [] (key.toList ++ rest) = scan false key.toList.reverse rest := by
  rw [scan_plain fun c hc => (Spelling.plain_of_mem h hc).1, List.append_nil]

theorem name_reverse {key : String} (h : key ≠ "") :
    name key.toList.reverse = [.key key] := by
  rw [name, if_neg (by simpa using h), List.reverse_reverse, String.ofList_toList]

/-! ## Ends -/

theorem trimmed_toDigits (n : Nat) : Text.Trimmed (Nat.toDigits 10 n) :=
  .of_forall fun _ hc => Text.isBlank_of_isDigit (Text.isDigit_of_mem_toDigits hc)

theorem trimmed_between {first last : Char} (hfirst : isBlank first = false)
    (hlast : isBlank last = false) (inner : List Char) :
    Text.Trimmed (first :: inner ++ [last]) :=
  ⟨by simpa using hfirst, by rw [List.getLast?_concat]; simpa using hlast⟩

theorem Spelling.trimmed_chars {s : Spelling} (h : s.Allowed) (first : Bool) :
    Text.Trimmed (s.chars first) := by
  cases s with
  | index n => exact trimmed_between (by decide) (by decide) _
  | quoted key => exact trimmed_between (by decide) (by decide) _
  | plain key =>
    have hkey : ∀ c ∈ key.toList, isBlank c = false := fun c hc => (plain_of_mem h hc).2
    cases first with
    | true => exact .of_forall hkey
    | false =>
      refine .of_forall fun c hc => ?_
      rcases List.mem_cons.1 hc with rfl | hc
      · decide
      · exact hkey c hc

theorem trimmed_spelled {ss : List Spelling} (h : ∀ s ∈ ss, s.Allowed) (first : Bool) :
    Text.Trimmed (spelled first ss) := by
  induction ss generalizing first with
  | nil => exact .of_forall fun _ hc => absurd hc List.not_mem_nil
  | cons s rest ih =>
    obtain ⟨hs, hrest⟩ := List.forall_mem_cons.1 h
    exact (Spelling.trimmed_chars hs first).append (ih hrest false)

/-! ## Spelled paths -/

/-- Behind a name that is still open, segments are read as they are spelled. -/
theorem scan_spelled {ss : List Spelling} (h : ∀ s ∈ ss, s.Allowed) (run : List Char) :
    scan false run (spelled false ss) = name run ++ ss.map Spelling.segment := by
  induction ss generalizing run with
  | nil => simp [spelled, scan]
  | cons s rest ih =>
    obtain ⟨hs, hrest⟩ := List.forall_mem_cons.1 h
    rw [spelled, List.map_cons]
    cases s with
    | index n =>
      have hclose : ']' ∉ Nat.toDigits 10 n := fun hmem => by
        cases Text.isDigit_of_mem_toDigits hmem
      rw [Spelling.chars, Nat.toString_eq_ofList_toDigits, String.toList_ofList,
        scan_bracket hclose (trimmed_toDigits n), bracket_toDigits hs, ih hrest]
      rfl
    | quoted key =>
      have hkey : ']' ∉ key.toList := hs
      have hclose : ']' ∉ '"' :: key.toList ++ ['"'] := by simpa using hkey
      rw [Spelling.chars, scan_bracket hclose (trimmed_between (by decide) (by decide) _),
        bracket_quoted, String.ofList_toList, ih hrest]
      rfl
    | plain key =>
      rw [Spelling.chars, if_neg Bool.false_ne_true, List.cons_append, scan,
        if_neg Bool.false_ne_true, if_pos rfl, scan_name hs, ih hrest, name_reverse hs.1]
      rfl

/-- A path is read as the segments that it is spelled from, in whatever styles they are written. -/
theorem parse_spell {ss : List Spelling} (h : ∀ s ∈ ss, s.Allowed) :
    parse (spell ss) = ss.map Spelling.segment := by
  rw [parse, spell, String.toList_ofList, (trimmed_spelled h true).trim_eq]
  cases ss with
  | nil => rfl
  | cons s rest =>
    obtain ⟨hs, hrest⟩ := List.forall_mem_cons.1 h
    cases s with
    | index n => exact scan_spelled h []
    | quoted key => exact scan_spelled h []
    | plain key =>
      rw [spelled, Spelling.chars, if_pos rfl, scan_name hs, scan_spelled hrest,
        name_reverse hs.1]
      rfl

/-- Names that only quotes allow, names with quotes and with a closing bracket, a name of digits and
the largest index, with each style before and behind the others. -/
def mixedSpelling : List Spelling :=
  [.plain "items", .index 0, .plain "a\"]b", .plain "7", .quoted "x.y [0", .quoted " \"0\" ",
    .index 18446744073709551615, .index 3, .plain "z", .quoted ""]

theorem parse_mixedSpelling :
    (∀ s ∈ mixedSpelling, s.Allowed) ∧
      spell mixedSpelling =
        "items[0].a\"]b.7[\"x.y [0\"][\" \"0\" \"][18446744073709551615][3].z[\"\"]" ∧
      parse (spell mixedSpelling) = [.key "items", .index 0, .key "a\"]b", .key "7",
        .key "x.y [0", .key " \"0\" ", .index 18446744073709551615, .index 3, .key "z",
        .key ""] := by
  have hallowed : ∀ s ∈ mixedSpelling, s.Allowed := by decide +kernel
  exact ⟨hallowed, by decide +kernel, parse_spell hallowed⟩

end Path

end FormEngine
