import FormEngine.ActiveSchema
import FormEngine.Proofs.Dict.Order
import FormEngine.Proofs.Double.Rounding

/-!
# Instances of schemas

What a JSON Schema says of a value, for the keywords of an active schema. A keyword is about values
of one type and holds of all others. The keywords about choices, `enum` and `items`, are left out,
and keywords that describe say nothing. Numbers are compared exactly. How patterns are read and
which texts are of a format is up to a dialect.
-/

namespace FormEngine

namespace Value

/-- A number without a fraction is an integer too. -/
def hasType : Value → String → Bool
  | .null, t => t == "null"
  | .bool _, t => t == "boolean"
  | .number n, t => t == "number" || (t == "integer" && n.isWhole)
  | .string _, t => t == "string"
  | .array _, t => t == "array"
  | .object _, t => t == "object"

def number? : Value → Option Number
  | .number n => some n
  | _ => none

def textLength? : Value → Option Number
  | .string s => some (.int s.length)
  | _ => none

def itemCount? : Value → Option Number
  | .array items => some (.int items.length)
  | _ => none

/-- A bound on some size of a value, if the value has one. -/
def bounds (relation : Number → Number → Bool) (bound : Value) (size : Option Number) : Bool :=
  bound.number?.all fun b => size.all (relation b)

/-- Whether an object has members of all these names. -/
def hasAll (names : Value) : Value → Bool
  | .object members => names.items.all fun name => name.string?.all (Dict.has members)
  | _ => true

end Value

/-- A reading of the texts in schemas. -/
structure Dialect where
  /-- Whether a pattern matches a text somewhere. -/
  finds : String → String → Bool
  hasFormat : String → String → Bool

namespace Dialect

/-- What a keyword with an argument says of a value. -/
def asserts (d : Dialect) (keyword : String) (argument v : Value) : Bool :=
  match keyword with
  | "type" => argument.string?.all v.hasType
  | "required" => argument.hasAll v
  | "minimum" => argument.bounds Number.le v.number?
  | "maximum" => argument.bounds Number.ge v.number?
  | "minLength" => argument.bounds Number.le v.textLength?
  | "maxLength" => argument.bounds Number.ge v.textLength?
  | "minItems" => argument.bounds Number.le v.itemCount?
  | "maxItems" => argument.bounds Number.ge v.itemCount?
  | "pattern" => argument.string?.all fun pattern => v.string?.all (d.finds pattern)
  | "format" => argument.string?.all fun format => v.string?.all (d.hasFormat format)
  | _ => true

mutual

/-- Whether a value is an instance of a schema. -/
def accepts (d : Dialect) : Value → Value → Bool
  | .object keywords, v => d.meets keywords v
  | .bool always, _ => always
  | _, _ => false

/-- Whether a value meets all keywords. Of those with an object only `properties` says something. -/
def meets (d : Dialect) : List (String × Value) → Value → Bool
  | [], _ => true
  | (keyword, .object schemas) :: rest, v =>
    (keyword != "properties" || d.fits schemas v.members) && d.meets rest v
  | (keyword, argument) :: rest, v => d.asserts keyword argument v && d.meets rest v

/-- Whether the members that have a schema are instances of it. -/
def fits (d : Dialect) : List (String × Value) → Dict Value → Bool
  | [], _ => true
  | (name, schema) :: rest, members =>
    (members.get? name).all (d.accepts schema) && d.fits rest members

end

variable {d : Dialect}

theorem asserts_object (keyword : String) (members : List (String × Value)) (v : Value) :
    d.asserts keyword (.object members) v = true := by
  unfold asserts
  split <;> first | rfl | (cases v <;> rfl)

theorem meets_iff {keywords : List (String × Value)} {v : Value} : d.meets keywords v = true ↔
    (∀ e ∈ keywords, d.asserts e.1 e.2 v = true) ∧
      ∀ schemas, ("properties", .object schemas) ∈ keywords → d.fits schemas v.members = true := by
  induction keywords with
  | nil => simp [meets]
  | cons first rest ih =>
    obtain ⟨keyword, argument⟩ := first
    cases argument with
    | object schemas =>
      rw [meets, Bool.and_eq_true, ih, List.forall_mem_cons]
      constructor
      · rintro ⟨hfirst, hrest, hproperties⟩
        refine ⟨⟨asserts_object .., hrest⟩, fun other hother => ?_⟩
        rcases List.mem_cons.1 hother with heq | hother
        · cases heq
          simpa using hfirst
        · exact hproperties other hother
      · rintro ⟨⟨-, hrest⟩, hproperties⟩
        refine ⟨?_, hrest, fun other hother => hproperties other (List.mem_cons_of_mem _ hother)⟩
        by_cases hkeyword : keyword = "properties"
        · subst hkeyword
          simpa using hproperties schemas List.mem_cons_self
        · simp [hkeyword]
    | _ => simp [meets, ih, and_assoc]

theorem fits_iff {schemas : List (String × Value)} {members : Dict Value} :
    d.fits schemas members = true ↔
      ∀ e ∈ schemas, ∀ v, members.get? e.1 = some v → d.accepts e.2 v = true := by
  induction schemas with
  | nil => simp [fits]
  | cons first rest ih =>
    rw [fits, Bool.and_eq_true, ih, List.forall_mem_cons]
    cases members.get? first.1 <;> simp

end Dialect

end FormEngine
