import Clearance.Cluster.Query
import Clearance.Text.Quoted

/-!
# The journal

What happened between this side and the cluster, and what was noted along the way. The journal
records every session that was opened or closed and every question with its outcome, in order. Notes
are for whoever looks for the reason of a decision later.
-/

namespace Clearance.Cluster

/-- Something that happened to a session. -/
inductive Event where
  /-- A session was opened on these nodes. -/
  | opened (nodes : List String)
  | asked (query : Query) (outcome : Except Fault query.Answer)
  | closed

/-- Something worth knowing about a decision. -/
inductive Note where
  | discovered (nodes : List String)
  | listed (role : Role) (nodes : List String)
  | narrowed (role : Role) (before after : List String)
  | versionKnown (recorded : String)
  | versionDiscovered (version : Version)
  | noSuchIndex (index : String)
  | jsonBypass (used wanted : String)
  | writerChosen (path : String)
  | readerChosen (path : String)
  | converterChosen (path : String)
  | extractorChosen (path : String)
  | cleared (nodes : List String) (version : Version)
  deriving DecidableEq, Repr

namespace Note

/-- The part of the work that the note is about. -/
def topic : Note → String
  | discovered _ | listed .. | narrowed .. => "topology"
  | versionKnown _ | versionDiscovered _ => "version"
  | noSuchIndex _ => "readiness"
  | jsonBypass .. | writerChosen _ | readerChosen _ | converterChosen _ | extractorChosen _ =>
    "serializers"
  | cleared .. => "bootstrap"

open Text (quoteList)

/-- The words of the note. -/
def message : Note → String
  | discovered nodes => "Nodes discovery enabled - found " ++ quoteList nodes
  | listed role nodes => s!"Found {role.label} nodes " ++ quoteList nodes
  | narrowed role before after =>
    "Filtered discovered only nodes " ++ quoteList before ++ s!" to {role.mode} " ++ quoteList after
  | versionKnown recorded =>
    s!"Cluster version [{recorded}] already present in configuration; skipping discovery"
  | versionDiscovered version => s!"Discovered cluster version [{version.render}]"
  | noSuchIndex index => s!"Index [{index}] does not exist; skipping health check"
  | jsonBypass used wanted =>
    s!"Input marked as JSON; bypassing serialization through [{used}] instead of [{wanted}]"
  | writerChosen path => s!"Using pre-defined writer serializer [{path}] as default"
  | readerChosen path => s!"Using pre-defined reader serializer [{path}] as default"
  | converterChosen path =>
    s!"JSON input specified; using pre-defined bytes/json converter [{path}] as default"
  | extractorChosen path => s!"Using pre-defined field extractor [{path}] as default"
  | cleared nodes version =>
    "Pre-flight complete; nodes " ++ quoteList nodes ++ s!", cluster version [{version.render}]"

end Note

/-- Events and notes, each in order. -/
structure Journal where
  events : List Event := []
  notes : List Note := []

namespace Journal

/-- The journal with one more event. -/
def record (j : Journal) (e : Event) : Journal :=
  { j with events := j.events ++ [e] }

/-- The journal with one more note. -/
def say (j : Journal) (n : Note) : Journal :=
  { j with notes := j.notes ++ [n] }

/-- The nodes of every session that was opened. -/
def sessions (j : Journal) : List (List String) :=
  j.events.filterMap fun
    | .opened nodes => some nodes
    | _ => none

/-- The questions that were asked. -/
def queries (j : Journal) : List Query :=
  j.events.filterMap fun
    | .asked query _ => some query
    | _ => none

/-- How many sessions were closed. -/
def closings (j : Journal) : Nat :=
  j.events.countP fun
    | .closed => true
    | _ => false

end Journal

end Clearance.Cluster
