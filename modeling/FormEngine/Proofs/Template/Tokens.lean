import FormEngine.Template
import Mathlib.Data.List.TakeWhile

/-!
# Tokens

How a token is written (`IsToken`), and what it means to take tokens where they first begin and one
behind the other (`Leftmost`). A text has one such reading, and `pieces` gives it
(`leftmost_iff`). So a text stands for a value exactly when all of it is a token
(`soleToken?_eq_some_iff`).
-/

namespace FormEngine.Template

open Text (isBlank)

/-- A path between `${` and `}`, with blanks around it. -/
def IsToken (text path : List Char) : Prop :=
  ∃ before after : List Char, text = '$' :: '\x7b' :: (before ++ (path ++ (after ++ ['\x7d']))) ∧
    (∀ c ∈ before, isBlank c = true) ∧ (∀ c ∈ after, isBlank c = true) ∧
    path ≠ [] ∧ ∀ c ∈ path, isPathChar c = true

/-- The pieces of a text, from left to right: a token wherever one begins, and the text behind it
once it has ended. -/
inductive Leftmost : List Char → List Piece → Prop where
  | nil : Leftmost [] []
  | token {text path rest : List Char} {ps : List Piece} (h : IsToken text path)
      (hrest : Leftmost rest ps) : Leftmost (text ++ rest) (.token text path :: ps)
  | char {c : Char} {rest : List Char} {ps : List Piece}
      (h : ∀ text path tail, IsToken text path → c :: rest ≠ text ++ tail)
      (hrest : Leftmost rest ps) : Leftmost (c :: rest) (.char c :: ps)

/-! ## One token -/

theorem isBlank_of_isPathChar {c : Char} (h : isPathChar c = true) : isBlank c = false := by
  simp only [isPathChar, Bool.and_eq_true, Bool.not_eq_true'] at h
  exact h.1.1

theorem takeWhile_run {p : Char → Bool} {run : List Char} (hrun : ∀ c ∈ run, p c = true)
    (rest : List Char) (hrest : ∀ c ∈ rest.head?, p c = false) :
    (run ++ rest).takeWhile p = run ∧ (run ++ rest).dropWhile p = rest := by
  rw [List.takeWhile_append_of_pos hrun, List.dropWhile_append_of_pos hrun]
  cases rest with
  | nil => simp
  | cons c tail => simp [hrest c rfl]

/-- `token?` reads what is written behind the opening mark of a token. -/
theorem token?_eq_some_iff {cs body path rest : List Char} :
    token? cs = some (body, path, rest) ↔
      cs = body ++ rest ∧ IsToken ('$' :: '\x7b' :: body) path := by
  constructor
  · intro h
    simp only [token?] at h
    split at h
    · cases h
    · rename_i c tail htail
      split at h
      · rename_i hc
        obtain ⟨rfl, hpath⟩ := hc
        cases h
        have hblanks := List.takeWhile_append_dropWhile (p := isBlank) (l := cs)
        have hchars := List.takeWhile_append_dropWhile (p := isPathChar) (l := cs.dropWhile isBlank)
        have hmore := List.takeWhile_append_dropWhile (p := isBlank)
          (l := (cs.dropWhile isBlank).dropWhile isPathChar)
        refine ⟨?_, cs.takeWhile isBlank,
          ((cs.dropWhile isBlank).dropWhile isPathChar).takeWhile isBlank, by simp,
          fun c => List.mem_takeWhile_imp, fun c => List.mem_takeWhile_imp, hpath,
          fun c => List.mem_takeWhile_imp⟩
        rw [htail] at hmore
        simp only [List.append_assoc, List.singleton_append, hmore, hchars, hblanks]
      · cases h
  · rintro ⟨rfl, before, after, htext, hbefore, hafter, hpath, hchars⟩
    obtain rfl : body = before ++ (path ++ (after ++ ['\x7d'])) := by simpa using htext
    obtain ⟨first, others, rfl⟩ := List.exists_cons_of_ne_nil hpath
    have hfirst : isBlank first = false := isBlank_of_isPathChar (hchars first List.mem_cons_self)
    have hbrace : isBlank '\x7d' = false := by decide
    have hlast := takeWhile_run hafter ('\x7d' :: rest) (by simp [hbrace])
    have hmiddle := takeWhile_run hchars (after ++ '\x7d' :: rest) (by
      cases after with
      | nil => simp [isPathChar]
      | cons c more => simp [isPathChar, hafter c List.mem_cons_self])
    have hfront := takeWhile_run hbefore
      ((first :: others) ++ (after ++ '\x7d' :: rest)) (by simp [hfirst])
    simp only [token?, List.append_assoc, List.singleton_append, hfront, hmiddle, hlast]
    simp

/-! ## Pieces -/

theorem IsToken.exists_body {text path : List Char} (h : IsToken text path) :
    ∃ body, text = '$' :: '\x7b' :: body := by
  obtain ⟨before, after, rfl, -⟩ := h
  exact ⟨_, rfl⟩

theorem pieces_token {text path : List Char} (h : IsToken text path) (rest : List Char) :
    pieces (text ++ rest) = .token text path :: pieces rest := by
  obtain ⟨body, rfl⟩ := h.exists_body
  have htoken : token? (body ++ rest) = some (body, path, rest) := token?_eq_some_iff.2 ⟨rfl, h⟩
  rw [List.cons_append, List.cons_append, pieces]
  simp only [if_true]
  split
  · rename_i hread
    rw [htoken] at hread
    cases hread
    rfl
  · rename_i hread
    rw [htoken] at hread
    cases hread

theorem pieces_char {c : Char} {rest : List Char}
    (h : ∀ text path tail, IsToken text path → c :: rest ≠ text ++ tail) :
    pieces (c :: rest) = .char c :: pieces rest := by
  cases rest with
  | nil => simp [pieces]
  | cons d more =>
    rw [pieces]
    split
    · rename_i hc
      split
      · rename_i hd
        split
        · rename_i body path tail hread
          obtain ⟨hmore, htoken⟩ := token?_eq_some_iff.1 hread
          exact absurd (by rw [hc, hd, hmore]; rfl) (h _ path tail htoken)
        · rfl
      · rfl
    · rfl

/-- A text has one reading in which tokens are taken where they first begin. -/
theorem leftmost_iff {cs : List Char} {ps : List Piece} : Leftmost cs ps ↔ ps = pieces cs := by
  constructor
  · intro h
    induction h with
    | nil => rw [pieces]
    | token h _ ih => rw [pieces_token h, ih]
    | char h _ ih => rw [pieces_char h, ih]
  · rintro rfl
    induction hn : cs.length using Nat.strongRecOn generalizing cs with
    | ind n ih =>
      cases cs with
      | nil =>
        rw [pieces]
        exact .nil
      | cons c rest =>
        by_cases htoken : ∃ text path tail, IsToken text path ∧ c :: rest = text ++ tail
        · obtain ⟨text, path, tail, h, heq⟩ := htoken
          obtain ⟨body, rfl⟩ := h.exists_body
          rw [heq, pieces_token h]
          refine .token h (ih tail.length ?_ rfl)
          rw [← hn, heq]
          simp only [List.length_append, List.length_cons]
          omega
        · have hnone : ∀ text path tail, IsToken text path → c :: rest ≠ text ++ tail :=
            fun text path tail h heq => htoken ⟨text, path, tail, h, heq⟩
          rw [pieces_char hnone]
          refine .char hnone (ih rest.length ?_ rfl)
          rw [← hn]
          exact Nat.lt_succ_self _

/-- A text that is one token and nothing else has the path of the token. -/
theorem soleToken?_eq_some_iff {template : String} {path : List Char} :
    soleToken? template = some path ↔ IsToken template.toList path := by
  unfold soleToken?
  constructor
  · intro h
    split at h
    · rename_i text path' hpieces
      cases h
      have hread : Leftmost template.toList [.token text path] := leftmost_iff.2 hpieces.symm
      generalize template.toList = cs at hread
      cases hread with
      | token h hrest =>
        cases hrest
        rwa [List.append_nil]
    · cases h
  · intro h
    have hpieces := pieces_token h []
    rw [List.append_nil, pieces] at hpieces
    rw [hpieces]

end FormEngine.Template
