import FormEngine.Text.Blank
import FormEngine.Text.Digits
import FormEngine.Text.Search

/-!
# Ranges of characters

A set of characters as spans of code points. Tables of spans are written as texts: hexadecimal
numbers and pairs of them with a dash, separated by blanks; other tables (`Table`) have entries of
several numbers. `contains_ofSpans` says that putting spans in order and making touching ones one
neither loses nor adds a character.
-/

namespace FormEngine.Unicode

/-- The code points from the first to the second one, both included. -/
abbrev Span := Nat × Nat

/-- A set of code points: spans in order that neither overlap nor touch. -/
structure Ranges where
  spans : List Span
  deriving Repr

instance : DecidableEq Ranges := fun r s =>
  withPtrEqDecEq r s fun _ =>
    decidable_of_iff (r.spans = s.spans)
      ⟨fun h => by cases r; cases s; simp_all, fun h => h ▸ rfl⟩

/-- Only the first span counts for the hash, which keeps it cheap. -/
instance : Hashable Ranges := ⟨fun r => hash r.spans.head?⟩

namespace Ranges

/-- Whether one of some spans holds a code point. -/
def covers (spans : List Span) (n : Nat) : Bool := spans.any fun s => s.1 ≤ n && n ≤ s.2

def contains (r : Ranges) (c : Char) : Bool := covers r.spans c.toNat

def empty : Ranges := ⟨[]⟩

def single (c : Char) : Ranges := ⟨[(c.toNat, c.toNat)]⟩

/-- The characters from the first to the last one. -/
def between (first last : Char) : Ranges := ⟨[(first.toNat, last.toNat)]⟩

/-- All code points. -/
def all : Ranges := ⟨[(0, 0x10FFFF)]⟩

/-! ## Spans in order -/

/-- A span and the ones that follow it in order, with overlapping and touching ones made one. -/
def fuse (a b : Nat) : List Span → List Span
  | [] => [(a, b)]
  | (c, d) :: rest => if c ≤ b + 1 then fuse a (max b d) rest else (a, b) :: fuse c d rest

/-- The set of spans that are in order of their first ends. -/
def ofSorted : List Span → Ranges
  | [] => empty
  | (a, b) :: rest => ⟨fuse a b rest⟩

/-- Whether a span begins no later than another one. -/
def notAfter (s t : Span) : Bool := s.1 ≤ t.1

/-- The set of some spans in any order. -/
def ofSpans (spans : List Span) : Ranges := ofSorted (spans.mergeSort notAfter)

theorem covers_fuse {a b n : Nat} {rest : List Span} (first : ∀ s ∈ rest, a ≤ s.1)
    (sorted : rest.Pairwise fun s t => s.1 ≤ t.1) :
    covers (fuse a b rest) n = covers ((a, b) :: rest) n := by
  induction rest generalizing a b with
  | nil => rfl
  | cons s rest ih =>
    obtain ⟨c, d⟩ := s
    rw [List.pairwise_cons] at sorted
    have ac : a ≤ c := first (c, d) (by simp)
    rw [fuse]
    split
    · rw [ih (fun s hs => first s (by simp [hs])) sorted.2]
      simp only [covers, List.any_cons, ← Bool.or_assoc]
      congr 1
      rw [Bool.eq_iff_iff]
      simp only [Bool.and_eq_true, Bool.or_eq_true, decide_eq_true_eq]
      omega
    · have h := ih (a := c) (b := d) (fun s hs => sorted.1 s hs) sorted.2
      simp only [covers, List.any_cons] at h ⊢
      rw [h]

theorem contains_ofSpans (spans : List Span) (c : Char) :
    (ofSpans spans).contains c = covers spans c.toNat := by
  have sorted : (spans.mergeSort notAfter).Pairwise fun s t => s.1 ≤ t.1 := by
    have h : (spans.mergeSort notAfter).Pairwise fun s t => notAfter s t = true :=
      List.pairwise_mergeSort
      (fun a b c hab hbc => by simp only [notAfter, decide_eq_true_eq] at *; omega)
      (fun a b => by simp only [notAfter, Bool.or_eq_true, decide_eq_true_eq]; omega) spans
    simpa only [notAfter, decide_eq_true_eq] using h
  have perm : covers (spans.mergeSort notAfter) c.toNat = covers spans c.toNat :=
    (List.mergeSort_perm spans notAfter).any_eq
  rw [← perm, ofSpans]
  cases h : spans.mergeSort notAfter with
  | nil => rfl
  | cons s rest =>
    rw [h, List.pairwise_cons] at sorted
    exact covers_fuse sorted.1 sorted.2

/-! ## Sets -/

def union (r s : Ranges) : Ranges := ofSpans (r.spans ++ s.spans)

def unionAll (sets : List Ranges) : Ranges := ofSpans (sets.flatMap (·.spans))

/-- What some spans in order leave out, from a code point on. -/
def gaps (start : Nat) : List Span → List Span
  | [] => if start ≤ 0x10FFFF then [(start, 0x10FFFF)] else []
  | (a, b) :: rest =>
    if start < a then (start, a - 1) :: gaps (b + 1) rest else gaps (b + 1) rest

def complement (r : Ranges) : Ranges := ⟨gaps 0 r.spans⟩

def inter (r s : Ranges) : Ranges := (r.complement.union s.complement).complement

/-- The characters of the first set that are not in the second. -/
def difference (r s : Ranges) : Ranges := r.inter s.complement

/-- The characters of exactly one of two sets. -/
def symmetricDifference (r s : Ranges) : Ranges := (r.difference s).union (s.difference r)

theorem contains_union (r s : Ranges) (c : Char) :
    (r.union s).contains c = (r.contains c || s.contains c) := by
  rw [union, contains_ofSpans, covers, List.any_append]
  rfl

theorem contains_unionAll (sets : List Ranges) (c : Char) :
    (unionAll sets).contains c = sets.any (·.contains c) := by
  rw [unionAll, contains_ofSpans]
  induction sets with
  | nil => rfl
  | cons r rest ih =>
    simp only [covers, List.flatMap_cons, List.any_append, List.any_cons] at ih ⊢
    rw [ih]
    rfl

/-! ## Tables -/

/-- The reader of a table between two characters: the spans so far, the last one first, the first
end of the span being read if a dash has been seen, and the number being read. -/
structure Scan where
  spans : List Span
  first : Option Nat
  number : Option Nat

/-- Ends the number being read. -/
def Scan.close (s : Scan) : Scan :=
  match s.first, s.number with
  | some a, some b => ⟨(a, b) :: s.spans, none, none⟩
  | none, some b => ⟨(b, b) :: s.spans, none, none⟩
  | _, none => ⟨s.spans, none, none⟩

def Scan.step (s : Scan) (c : Char) : Scan :=
  match Text.hexDigit? c with
  | some d => { s with number := some (16 * s.number.getD 0 + d) }
  | none => if c = '-' then ⟨s.spans, s.number, none⟩ else s.close

/-- The set that a table in order lists. -/
def ofText (table : String) : Ranges :=
  ⟨(table.toList.foldl Scan.step ⟨[], none, none⟩).close.spans.reverse⟩

end Ranges

namespace Table

/-- The entries of a table. -/
def entries (table : String) : List (List Char) :=
  (Text.parts ' ' (table.toList.map fun c => if Text.isBlank c then ' ' else c)).filter
    (!·.isEmpty)

/-- The number that hexadecimal digits spell. -/
def number (digits : List Char) : Nat := (Text.inBase? 16 digits).getD 0

/-- The numbers of a part of an entry, with a mark between two of them. -/
def numbers (mark : Char) (part : List Char) : List Nat := (Text.parts mark part).map number

end Table

end FormEngine.Unicode
