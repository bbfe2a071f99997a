import Clearance.Settings.Basic

/-!
# Conflicts between settings

Settings that can be read may still contradict each other. The rules are checked in a fixed order,
and the first one that is broken is reported: over a wide area network only the declared nodes can
be used, so that discovery and every restriction must be off; at most one restriction may be on; a
document that is written as it is cannot have fields left out; and only one side may choose the
fields to read.
-/

namespace Clearance.Settings

/-- Reports a conflict if there is one. -/
def forbid (present : Bool) (conflict : Conflict) : Except Conflict Unit :=
  if present then .error conflict else .ok ()

/-- The fields to read: those of the integration, or else those of the user. -/
def sourceFields (s : Settings) : Except Conflict (List String) :=
  if s.internalFields ≠ [] ∧ s.sourceFilter ≠ [] then .error (.twoSourceFilters s.sourceFilter)
  else if s.internalFields ≠ [] then .ok s.internalFields
  else .ok s.sourceFilter

/-- The restrictions that are on. -/
def activeRestrictions (s : Settings) : List Bool :=
  [s.clientOnly, s.dataOnlyInForce, s.ingestOnly].filter id

/-- Checks the settings against each other. -/
def findConflict (s : Settings) : Except Conflict Unit := do
  if s.wanOnly then
    forbid s.discoveryEnabled .wanWithDiscovery
    forbid s.clientOnly .wanWithClient
    forbid s.dataOnlyInForce .wanWithData
    forbid s.ingestOnly .wanWithIngest
  forbid (1 < s.activeRestrictions.length) .severalRestrictions
  if s.jsonInput then
    forbid (!s.includedFields.isEmpty) .jsonWithInclusion
    forbid (!s.excludedFields.isEmpty) .jsonWithExclusion
  discard s.sourceFields

/-- Checks the settings against each other; a conflict is a fault of the configuration. -/
def validate (s : Settings) : Except Fault Unit :=
  s.findConflict.mapError fun c => .configuration (.conflict c)

end Clearance.Settings
