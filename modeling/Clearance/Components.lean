import Clearance.Cluster.Journal
import Clearance.Settings.Basic

/-!
# Components of a job

A job needs a writer and a reader for values, a converter for bytes and an extractor for fields. An
integration proposes one for each, and a proposal is taken if the user has not chosen. Documents
that are JSON already are written as they are, whatever writer was proposed, and only they need a
converter.
-/

namespace Clearance

open Cluster (Note)

/-- A component: its dotted path, or a type by the module that defines it and its name there. -/
inductive Component where
  | path (dotted : String)
  | type (home name : String)
  deriving DecidableEq, Repr

/-- The dotted path of a component. -/
def Component.dotted : Component → String
  | path dotted => dotted
  | type home name => home ++ "." ++ name

namespace Components

/-- The writer that leaves values as they are. -/
def plainWriter : Component := .type "espreflight.serializers" "NoOpValueWriter"

/-- What the writer that leaves values as they are makes of a value. -/
def writePlain {α : Type} (value : α) : α := value

/-- The four components of a job. -/
inductive Slot where
  | writer
  | reader
  | converter
  | extractor
  deriving DecidableEq, Repr

/-- The component that a job has in a slot. -/
def Slot.get (s : Settings) : Slot → Option String
  | writer => s.writerClass
  | reader => s.readerClass
  | converter => s.bytesConverterClass
  | extractor => s.fieldExtractorClass

/-- The settings with a component in a slot. -/
def Slot.put (s : Settings) (dotted : String) : Slot → Settings
  | writer => { s with writerClass := some dotted }
  | reader => { s with readerClass := some dotted }
  | converter => { s with bytesConverterClass := some dotted }
  | extractor => { s with fieldExtractorClass := some dotted }

/-- Whether a proposal is taken. -/
def Slot.isOpen (s : Settings) (slot : Slot) : Bool :=
  (stated (slot.get s)).isNone && (slot != .converter || s.jsonInput)

/-- The component that is taken when one is proposed. -/
def Slot.choice (s : Settings) (slot : Slot) (proposal : Component) : Component :=
  if slot = .writer ∧ s.jsonInput then plainWriter else proposal

/-- What is noted when a component is taken in place of a proposal. -/
def Slot.notes (s : Settings) (slot : Slot) (proposal : Component) : List Note :=
  let taken := (slot.choice s proposal).dotted
  match slot with
  | writer =>
    (if s.jsonInput then [.jsonBypass taken proposal.dotted] else []) ++ [.writerChosen taken]
  | reader => [.readerChosen taken]
  | converter => [.converterChosen taken]
  | extractor => [.extractorChosen taken]

/-- What came of a proposal. -/
structure Decision where
  taken : Bool
  settings : Settings
  notes : List Note

/-- Proposes a component for a slot. -/
def propose (slot : Slot) (proposal : Component) (s : Settings) : Decision :=
  if slot.isOpen s then
    ⟨true, slot.put s (slot.choice s proposal).dotted, slot.notes s proposal⟩
  else ⟨false, s, []⟩

end Components

end Clearance
