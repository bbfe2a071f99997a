import Clearance.Http.Script
import Clearance.Proofs.Rest.Statement
import Clearance.Proofs.Text.Percent

/-!
# Paths of indices

An index is looked for on a path that consists of its name alone, and asked for its health on one
that ends in its name. However odd the name is, it stays one segment of the path, from which it can
be read again. So no name leads to the path of another index or to one that is not for indices.

Results:
1. `SentTo`, `sent_to_path`: the path of all that is handed to the client for a question.
2. `indexPath_inj`, `healthPath_inj`: different indices have different paths.
3. `indexPath_ne_root`, `indexPath_ne`, `indexPath_ne_healthPath`: no index is looked for on one of
   the other paths.
4. `index_addressed`: all of this for every name.
-/

namespace Clearance.Rest

open Cluster (Query)
open Http (Client Method)
open Text (isBlank)
open Text.Percent (Segment readName)

variable {ω : Type}

/-! ## What is sent -/

/-- All that is handed to the client for the question goes by this method to this path at the nodes
of the session, one after the other. Something goes out if the client takes it. -/
def SentTo (client : Client ω) (query : Query) (method : Method) (path : String) : Prop :=
  ∀ call : Call ω, ∃ sent finish,
    Tried client call.session method path call.session.nodes call.line.world sent finish
      (inquire client query call).2.line.world ∧
    (inquire client query call).2.line.sent = call.line.sent ++ sent ∧
    (∀ r ∈ sent, r.method = method ∧ ∃ node ∈ call.session.nodes,
      r.url = Http.Endpoint.schemeOf call.session.tls ++ "://" ++ node ++ path) ∧
    (call.session.CanSend client method path → sent ≠ [])

theorem sent_to_path (client : Client ω) {query : Query} (other : ∀ role, query ≠ .nodes role) :
    SentTo client query (putBy query).1 (putBy query).2 := by
  intro call
  obtain ⟨session, world, before⟩ := call
  obtain ⟨sent, finish, after, tried⟩ :=
    Tried.total client session (putBy query).1 (putBy query).2 session.nodes world
  obtain ⟨outcome, came, -⟩ := learns_said other _ _ _ _ tried before
  rw [came]
  refine ⟨sent, finish, tried, rfl, fun r present => ?_, fun able => ?_⟩
  · obtain ⟨node, listed, rfl⟩ := tried.sent_to r present
    exact ⟨rfl, node, listed, rfl⟩
  · obtain ⟨steady, node, listed, goes⟩ := able
    exact tried.sent_ne_nil steady listed goes

/-! ## Paths -/

theorem segment_form (name : String) : Segment (Text.Percent.segment name).toList := by
  rw [Text.Percent.segment, String.toList_ofList]
  exact Text.Percent.segment_encode name.toList

theorem indexPath_inj {name other : String} : indexPath name = indexPath other ↔ name = other :=
  (String.append_right_inj "/").trans Text.Percent.segment_inj

theorem healthPath_inj {name other : String} :
    healthPath name = healthPath other ↔ name = other :=
  (String.append_right_inj "/_cluster/health/").trans Text.Percent.segment_inj

theorem toList_indexPath (name : String) :
    (indexPath name).toList = '/' :: Text.Percent.encode name.toList := by
  rw [indexPath, String.toList_append]
  exact congrArg ('/' :: ·) String.toList_ofList

/-- A path of an index has no slash behind the first one. -/
theorem indexPath_ne {name path : String} {rest : List Char} (start : path.toList = '/' :: rest)
    (deeper : '/' ∈ rest) : indexPath name ≠ path := by
  rintro rfl
  rw [toList_indexPath] at start
  cases start
  exact Text.Percent.slash_not_mem_encode name.toList deeper

theorem indexPath_ne_healthPath (name other : String) : indexPath name ≠ healthPath other := by
  have start : (healthPath other).toList =
      '/' :: ("_cluster/health/".toList ++ (Text.Percent.segment other).toList) :=
    String.toList_append.trans rfl
  exact indexPath_ne start (List.mem_append_left _ (by decide))

theorem indexPath_ne_root {name : String} (named : name ≠ "") : indexPath name ≠ "/" := by
  intro root
  have same : "/" ++ Text.Percent.segment name = "/" ++ "" := root
  exact Text.Percent.segment_ne_empty named ((String.append_right_inj "/").mp same)

/-- How an index of this name is addressed. -/
structure Addressed (client : Client ω) (name : String) : Prop where
  presence : SentTo client (.presence name) .head ("/" ++ Text.Percent.segment name)
  health : SentTo client (.health name) .get ("/_cluster/health/" ++ Text.Percent.segment name)
  /-- The segment is written in characters that stand for themselves and in bytes behind `%`. -/
  form : Segment (Text.Percent.segment name).toList
  whole : ∀ c ∈ (Text.Percent.segment name).toList, c ≠ '/' ∧ c ≠ '?' ∧ c ≠ '#' ∧ isBlank c = false
  legible : readName (Text.Percent.segment name) = some name
  own : ∀ other, indexPath name = indexPath other ↔ name = other
  ownHealth : ∀ other, healthPath name = healthPath other ↔ name = other
  apart : indexPath name ≠ "/" ∧ indexPath name ≠ "/_nodes/http" ∧
    ∀ other, indexPath name ≠ healthPath other

/-- An index is looked for on a path of one segment, and asked for its health on one that ends in
the same segment. The segment holds nothing that means something in a path, and is read as the name
again. Different names have different paths, and no index is looked for where the cluster, its nodes
or the health of an index are asked for. -/
theorem index_addressed (client : Client ω) {name : String} (named : name ≠ "") :
    Addressed client name where
  presence := by
    have other : ∀ role, Query.presence name ≠ .nodes role := nofun
    exact sent_to_path client other
  health := by
    have other : ∀ role, Query.health name ≠ .nodes role := nofun
    exact sent_to_path client other
  form := segment_form name
  whole c present := by
    have apart {sign : Char} (sign_ne : sign ≠ '%') (other : ¬ Text.Percent.Plain sign) :
        c ≠ sign := by
      rintro rfl
      exact (segment_form name).not_mem sign_ne other present
    exact ⟨apart (by decide) (by decide), apart (by decide) (by decide),
      apart (by decide) (by decide), (segment_form name).no_blank c present⟩
  legible := Text.Percent.readName_segment name
  own _ := indexPath_inj
  ownHealth _ := healthPath_inj
  apart := by
    have nodes : "/_nodes/http".toList = '/' :: "_nodes/http".toList := rfl
    exact ⟨indexPath_ne_root named, indexPath_ne nodes (by decide), indexPath_ne_healthPath name⟩

/-- A name that looks like a path and like something written already is written once more. -/
theorem path_like_name_addressed :
    let name := "../_nodes/http?é=%2F"
    let session : Session := { nodes := ["es1:9200"] }
    name ≠ "" ∧ Text.Percent.segment name = "..%2F_nodes%2Fhttp%3F%C3%A9%3D%252F" ∧
      readName "..%2F_nodes%2Fhttp%3F%C3%A9%3D%252F" = some name ∧
      ∃ sent, (inquire Http.Script.wire (.presence name) ⟨session, ⟨[], []⟩⟩).2.line.sent = sent ∧
        sent ≠ [] ∧
        ∀ r ∈ sent, r.url = "http://es1:9200/..%2F_nodes%2Fhttp%3F%C3%A9%3D%252F" := by
  intro name session
  have named : name ≠ "" := by decide
  have written : Text.Percent.segment name = "..%2F_nodes%2Fhttp%3F%C3%A9%3D%252F" := by
    decide +kernel
  have addressed := index_addressed Http.Script.wire named
  obtain ⟨sent, -, -, all, path, -⟩ := addressed.presence ⟨session, ⟨[], []⟩⟩
  refine ⟨named, written, written ▸ addressed.legible, sent, all, ?_, fun r present => ?_⟩
  · rw [← List.nil_append sent, ← all]
    decide +kernel
  · obtain ⟨-, node, listed, url⟩ := path r present
    cases List.mem_singleton.mp listed
    rw [url, written]
    rfl

end Clearance.Rest
