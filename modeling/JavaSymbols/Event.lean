import JavaSymbols.Fault
import JavaSymbols.TypeExpr

/-!
# Events

What queries report about their own progress.  Each kind of event has a level,
a fixed message and named fields; lookups that move outward are reported at the
finest level, skipped faults at the middle one, and cyclic hierarchies as
warnings.
-/

namespace JavaSymbols

/-- The levels of events, finest first. -/
inductive EventLevel where
  | trace
  | debug
  | warn
  deriving DecidableEq

/-- The word that names a level. -/
def EventLevel.word : EventLevel → String
  | .trace => "TRACE"
  | .debug => "DEBUG"
  | .warn => "WARN"

/-- A step of a query that is worth a report. -/
inductive Event where
  /-- A session starts over a tree. -/
  | ready (items : Nat) (object record : String)
  /-- A type name unknown to a declaration goes to the enclosing scope. -/
  | typeLookupDelegated (name origin : String)
  /-- A method unknown to a declaration goes to the enclosing scope. -/
  | methodLookupDelegated (name : String)
  /-- A supertype clause of a declaration is left out. -/
  | ancestorSkipped (declaration : String) (fault : Fault)
  /-- A bound of a type parameter is left out. -/
  | boundSkipped (bound : ClassExpr) (fault : Fault)
  /-- The type arguments of a supertype stay as written. -/
  | argumentsKept (ancestor : String) (fault : Fault)
  /-- The type of a field or record component stays as written. -/
  | memberTypeKept (type : TypeExpr) (fault : Fault)
  /-- An overload is left out. -/
  | overloadSkipped (method : String) (fault : Fault)
  /-- The supertypes of a declaration lead back to it. -/
  | hierarchyCycle (declaration : String)
  deriving DecidableEq

namespace Event

/-- The level at which an event is reported. -/
def level : Event → EventLevel
  | typeLookupDelegated _ _ => .trace
  | methodLookupDelegated _ => .trace
  | hierarchyCycle _ => .warn
  | _ => .debug

/-- The fixed message of an event. -/
def message : Event → String
  | ready _ _ _ => "symbol resolver ready"
  | typeLookupDelegated _ _ => "delegating type lookup to enclosing context"
  | methodLookupDelegated _ => "method not found; trying enclosing context"
  | ancestorSkipped _ _ => "skipping unresolved ancestor"
  | boundSkipped _ _ => "skipping unresolved type parameter bound"
  | argumentsKept _ _ => "keeping unresolved type arguments unforced"
  | memberTypeKept _ _ => "leaving member type unresolved"
  | overloadSkipped _ _ => "skipping overload with unresolved parameter types"
  | hierarchyCycle _ => "cyclic type hierarchy; inherited fields are cut at the cycle"

/-- The named fields of an event. -/
def fields : Event → List (String × String)
  | ready items object record =>
      [("items", toString items), ("object", object), ("record", record)]
  | typeLookupDelegated name origin => [("name", name), ("from", origin)]
  | methodLookupDelegated name => [("name", name)]
  | ancestorSkipped declaration fault => [("ty", declaration), ("error", fault.message)]
  | boundSkipped bound fault => [("bound", bound.text), ("error", fault.message)]
  | argumentsKept ancestor fault => [("ancestor", ancestor), ("error", fault.message)]
  | memberTypeKept type fault => [("ty", type.text), ("error", fault.message)]
  | overloadSkipped method fault => [("method", method), ("error", fault.message)]
  | hierarchyCycle declaration => [("ty", declaration)]

end Event

end JavaSymbols
