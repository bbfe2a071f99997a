import Clearance.Json.Shown
import Clearance.Settings.Basic
import Clearance.Settings.Duration
import Clearance.Settings.Flag
import Clearance.Settings.Key
import Clearance.Text.CommaList

/-!
# Settings from properties

Settings come as a map from property names to values. Each setting is read from its own property
alone. A property that is missing, null or blank leaves the default, a value that is no text is
taken as the text that shows it, and unknown properties are passed over. The texts are those of
characters: of half a surrogate pair that stands alone only its place is kept. The properties are
read one after the other, and the first one that cannot be read is reported. A value that cannot be
shown is a fault of its own kind.
-/

namespace Clearance.Settings

/-- The properties that settings are read from. -/
abbrev Properties := Json.Members

namespace Properties

/-- The text of a property, unless it is missing, null or blank. -/
def text? (p : Properties) (key : Key) : Except Fault (Option String) :=
  match Json.Members.get? (Text.Glyph.ofString key.name) p with
  | none | some .null => .ok none
  | some v =>
    if v.isShowable then
      .ok (if (Text.trim v.text.toList).isEmpty then none else some v.text)
    else .error (.value .oversized)

/-- A setting that is read from its property, or else has its default. -/
def read {α : Type} (p : Properties) (key : Key) (default : α) (reader : String → Except Fault α) :
    Except Fault α := do
  match ← p.text? key with
  | none => .ok default
  | some text => reader text

/-- A setting that every text can be read as. -/
def take {α : Type} (p : Properties) (key : Key) (default : α) (reader : String → α) :
    Except Fault α :=
  p.read key default fun text => .ok (reader text)

/-- A setting that is a text, without the blanks around it. -/
def word (p : Properties) (key : Key) : Except Fault (Option String) :=
  p.take key none fun text => some (Text.strip text)

/-- A flag. -/
def flag (p : Properties) (key : Key) (default : Bool) : Except Fault Bool :=
  p.read key default (Flag.read key.name)

/-- A flag that may be left open. -/
def openFlag (p : Properties) (key : Key) : Except Fault (Option Bool) :=
  p.read key none fun text => (Flag.read key.name text).map some

end Properties

/-- Reads the default port; any whole number will do. -/
def readDefaultPort (text : String) : Except Fault Int :=
  match Numeral.readInt text.toList with
  | .ok number => .ok number
  | .error _ => .error (.configuration (.text (.port text)))

/-- The settings that the properties hold. -/
def ofProperties (p : Properties) : Except Fault Settings := do
  let d : Settings := {}
  let nodes ← p.take .nodes d.nodes Text.CommaList.read
  let port ← p.read .port d.port readDefaultPort
  let discovery ← p.openFlag .discovery
  let wanOnly ← p.flag .wanOnly d.wanOnly
  let clientOnly ← p.flag .clientOnly d.clientOnly
  let dataOnly ← p.openFlag .dataOnly
  let ingestOnly ← p.flag .ingestOnly d.ingestOnly
  let jsonInput ← p.flag .jsonInput d.jsonInput
  let allowRedReads ← p.flag .allowRedReads d.allowRedReads
  let autoCreateIndex ← p.flag .autoCreateIndex d.autoCreateIndex
  let tls ← p.flag .tls d.tls
  let includedFields ← p.take .includedFields d.includedFields Text.CommaList.read
  let excludedFields ← p.take .excludedFields d.excludedFields Text.CommaList.read
  let sourceFilter ← p.take .sourceFilter d.sourceFilter Text.CommaList.read
  let internalFields ← p.take .internalFields d.internalFields Text.CommaList.read
  let resource ← p.word .resource
  let resourceRead ← p.word .resourceRead
  let resourceWrite ← p.word .resourceWrite
  let clusterName ← p.word .clusterName
  let operation ← p.take .operation d.operation Text.strip
  let documentId ← p.word .documentId
  let recordedVersion ← p.word .recordedVersion
  let authUser ← p.word .authUser
  let authPassword ← p.word .authPassword
  let writerClass ← p.word .writerClass
  let readerClass ← p.word .readerClass
  let bytesConverterClass ← p.word .bytesConverterClass
  let fieldExtractorClass ← p.word .fieldExtractorClass
  let timeout ← p.read .timeout d.timeout (Duration.read Key.timeout.name)
  return {
    nodes, port, discovery, wanOnly, clientOnly, dataOnly, ingestOnly, jsonInput, includedFields
    excludedFields, sourceFilter, internalFields, allowRedReads, autoCreateIndex, resource
    resourceRead, resourceWrite, clusterName, operation, documentId, recordedVersion, tls, authUser
    authPassword, timeout, writerClass, readerClass, bytesConverterClass, fieldExtractorClass }

end Clearance.Settings
