import Clearance.Cluster.Conversation

/-!
# Whether the indices are ready

The checks before reading and writing. An index that is read must not be a pattern and must not be
red, unless red indices may be read; one that does not exist is the reader's own business. An index
that is written must exist, unless it may be created. An update needs the identifier of a document.
-/

namespace Clearance.Check

open Cluster (Conversation Channel say)

/-- An update needs the identifier of a document. -/
def documentId (s : Settings) : Except Fault Unit :=
  if s.operation = "update" ∧ stated s.documentId = none then
    .error (.configuration (.missingId s.operation))
  else .ok ()

/-- Whether the text holds both braces of a pattern. -/
def hasPattern (index : String) : Bool :=
  index.toList.contains '\x7b' && index.toList.contains '\x7d'

/-- The index that is read must not be a pattern. -/
def noPattern (s : Settings) : Except Fault Unit :=
  let index := s.readIndex.getD ""
  if hasPattern index then .error (.configuration (.patternInReadIndex index)) else .ok ()

variable {σ ω : Type} (ch : Channel σ ω)

/-- The health of an index, or nothing if there is no such index. -/
def health (index : String) : Attempt (Conversation σ ω) (Option Health) := do
  let found ← ch.ask (.presence index)
  if found then
    let health ← ch.ask (.health index)
    pure (some health)
  else
    say (.noSuchIndex index)
    pure none

/-- The index that is read must not be red. -/
def notRed (s : Settings) : Attempt (Conversation σ ω) Unit :=
  if s.allowRedReads then pure ()
  else match stated s.readIndex with
    | none => Attempt.fail (.configuration .noReadResource)
    | some index => do
      let health ← (health ch index).onErrand (.checkHealth index)
      Attempt.require (health ≠ some .red) (.configuration (.redIndex index))

/-- The index that is written must exist. -/
def writing (s : Settings) : Attempt (Conversation σ ω) Unit :=
  if s.autoCreateIndex then pure ()
  else match stated s.writeIndex with
    | none => Attempt.fail (.configuration .noWriteResource)
    | some index => do
      let found ← (ch.ask (.presence index)).onErrand (.checkExistence index)
      Attempt.require found (.configuration (.missingIndex (s.writeResource.getD "")))

/-- The checks before reading. -/
def reading (s : Settings) : Attempt (Conversation σ ω) Unit := do
  Attempt.ofExcept (noPattern s)
  notRed ch s

end Clearance.Check
