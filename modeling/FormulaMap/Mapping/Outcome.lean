import FormulaMap.Mapping.SymbolMapping

/-!
# Outcomes

What asking about one method leads to: a mapping, with the symbols that were set aside, or a
failure of one of three kinds.  Outcomes carry the name of their method.
-/

namespace FormulaMap

/-- The kinds of failure. -/
inductive FailureKind where
  /-- The call itself failed. -/
  | transport
  /-- The reply holds no mapping. -/
  | format
  /-- The reply maps symbols that the formula does not contain. -/
  | contractViolation
  deriving DecidableEq, Repr

/-- The name of a kind of failure in output. -/
def FailureKind.name : FailureKind → String
  | transport => "transport"
  | format => "format"
  | contractViolation => "contract_violation"

/-- What asking about a method leads to. -/
inductive Outcome where
  /-- A mapping, and the symbols that were set aside. -/
  | mapped (mapping : SymbolMapping) (rejected : List String)
  /-- A failure, its wording, and the text it is about. -/
  | failed (kind : FailureKind) (error : String) (raw : Option String)
  deriving DecidableEq, Repr

/-- The outcome for a method of some name. -/
structure MethodOutcome where
  methodName : String
  outcome : Outcome
  deriving DecidableEq, Repr

namespace MethodOutcome

/-- A mapping from which nothing was set aside. -/
def mapped (name : String) (mapping : SymbolMapping) : MethodOutcome :=
  ⟨name, .mapped mapping []⟩

/-- A failure. -/
def failed (name : String) (kind : FailureKind) (error : String) (raw : Option String) :
    MethodOutcome :=
  ⟨name, .failed kind error raw⟩

/-- Notes which symbols were set aside; a failure stays as it is. -/
def withRejected (r : MethodOutcome) (keys : List String) : MethodOutcome :=
  match r.outcome with
  | .mapped mapping _ => ⟨r.methodName, .mapped mapping keys⟩
  | .failed .. => r

/-- Whether there is a mapping. -/
def isSuccess (r : MethodOutcome) : Bool :=
  match r.outcome with
  | .mapped .. => true
  | .failed .. => false

/-- The mapping, if there is one. -/
def mapping? (r : MethodOutcome) : Option SymbolMapping :=
  match r.outcome with
  | .mapped mapping _ => some mapping
  | .failed .. => none

/-- The symbols that were set aside. -/
def rejected (r : MethodOutcome) : List String :=
  match r.outcome with
  | .mapped _ keys => keys
  | .failed .. => []

/-- The kind of failure, if there is one. -/
def failure? (r : MethodOutcome) : Option FailureKind :=
  match r.outcome with
  | .mapped .. => none
  | .failed kind .. => some kind

/-- The wording of the failure, if there is one. -/
def error? (r : MethodOutcome) : Option String :=
  match r.outcome with
  | .mapped .. => none
  | .failed _ error _ => some error

/-- The text that the failure is about, if it was kept. -/
def raw? (r : MethodOutcome) : Option String :=
  match r.outcome with
  | .mapped .. => none
  | .failed _ _ raw => raw

/-- An outcome as an object: what is empty or missing is left out. -/
def toJson (r : MethodOutcome) : Json.Value :=
  .object (("method_name", .string r.methodName) ::
    match r.outcome with
    | .mapped mapping keys =>
      ("mapping", mapping.toJson) ::
        (if keys.isEmpty then [] else [("rejected_keys", Json.Value.ofStrings keys)])
    | .failed kind error raw =>
      ("error_kind", .string kind.name) :: ("error", .string error) ::
        (match raw with
          | none => []
          | some text => [("raw", .string text)]))

end MethodOutcome
end FormulaMap
