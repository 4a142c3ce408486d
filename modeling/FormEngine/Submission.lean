import FormEngine.Snapshot.Start

/-!
# Submission

On submission hidden and disabled fields are left out as the schema asks, and then the payload goes
through the transformation that the schema names, if any.
-/

namespace FormEngine

/-- A host's change of payloads, which may fail with a message. -/
abbrev Transform := Dict Value → Except String (Dict Value)

namespace Transform

/-- Runs the transformation of a name. -/
def run (known : Dict Transform) (name : String) (payload : Dict Value) :
    Except EngineError (Dict Value) :=
  match known.get? name with
  | none => .error (.unknownTransform name)
  | some t => (t payload).mapError (.transform name)

end Transform

namespace Snapshot

/-- The payload as the schema wants it submitted. -/
def submit (s : Snapshot) (known : Dict Transform) : Except EngineError (Dict Value) :=
  let policy := s.form.schema.submission
  let payload := s.payload policy.stripHidden policy.stripDisabled
  match policy.transform with
  | some name => Transform.run known name payload
  | none => .ok payload

end Snapshot

end FormEngine
