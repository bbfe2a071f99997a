/-!
# Names of the settings

The properties that hold the settings, each under its own dotted name.

* Two settings never share a name (`name_injective`).
-/

namespace Clearance.Settings

/-- A setting, as far as its name goes. -/
inductive Key where
  | nodes
  | port
  | discovery
  | wanOnly
  | clientOnly
  | dataOnly
  | ingestOnly
  | jsonInput
  | includedFields
  | excludedFields
  | sourceFilter
  | internalFields
  | allowRedReads
  | autoCreateIndex
  | resource
  | resourceRead
  | resourceWrite
  | clusterName
  | operation
  | documentId
  | recordedVersion
  | tls
  | authUser
  | authPassword
  | timeout
  | writerClass
  | readerClass
  | bytesConverterClass
  | fieldExtractorClass
  deriving DecidableEq, Repr

/-- The name of the property that holds the setting. -/
def Key.name : Key → String
  | nodes => "es.nodes"
  | port => "es.port"
  | discovery => "es.nodes.discovery"
  | wanOnly => "es.nodes.wan.only"
  | clientOnly => "es.nodes.client.only"
  | dataOnly => "es.nodes.data.only"
  | ingestOnly => "es.nodes.ingest.only"
  | jsonInput => "es.input.json"
  | includedFields => "es.mapping.include"
  | excludedFields => "es.mapping.exclude"
  | sourceFilter => "es.read.source.filter"
  | internalFields => "es.internal.mr.target.fields"
  | allowRedReads => "es.index.read.allow.red.status"
  | autoCreateIndex => "es.index.auto.create"
  | resource => "es.resource"
  | resourceRead => "es.resource.read"
  | resourceWrite => "es.resource.write"
  | clusterName => "es.cluster.name"
  | operation => "es.write.operation"
  | documentId => "es.mapping.id"
  | recordedVersion => "es.internal.es.version"
  | tls => "es.net.ssl"
  | authUser => "es.net.http.auth.user"
  | authPassword => "es.net.http.auth.pass"
  | timeout => "es.http.timeout"
  | writerClass => "es.ser.writer.value.class"
  | readerClass => "es.ser.reader.value.class"
  | bytesConverterClass => "es.ser.writer.bytes.class"
  | fieldExtractorClass => "es.mapping.default.extractor.class"

/-- The setting of a name: a reading of the names backwards. -/
def Key.ofName? (name : String) : Option Key :=
  [nodes, port, discovery, wanOnly, clientOnly, dataOnly, ingestOnly, jsonInput, includedFields,
    excludedFields, sourceFilter, internalFields, allowRedReads, autoCreateIndex, resource,
    resourceRead, resourceWrite, clusterName, operation, documentId, recordedVersion, tls, authUser,
    authPassword, timeout, writerClass, readerClass, bytesConverterClass,
    fieldExtractorClass].find? (·.name == name)

theorem Key.ofName?_name (k : Key) : ofName? k.name = some k := by
  cases k <;> decide +kernel

theorem Key.name_injective {k l : Key} (h : k.name = l.name) : k = l := by
  have hk := ofName?_name k
  rw [h, ofName?_name l] at hk
  exact (Option.some.inj hk).symm

end Clearance.Settings
