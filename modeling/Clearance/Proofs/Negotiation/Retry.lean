import Clearance.Proofs.Negotiation.Invariants

/-!
# Trying again

A cluster may fail at any question, and a caller may try any step again. As long as the cluster
gives the same answers whenever it answers, nothing of that shows in the end: a whole negotiation
that returns has the working set that an undisturbed one would have had.

Results:
1. `run_leads`: no step moves the target of the roster, whether it succeeds or fails.
2. `settle_returned`: what a whole negotiation must have done if it returns.
3. `nodes_negotiated`: growth and narrowing that both succeed reach the target.

So a whole negotiation that returns has reached the target, whatever was tried before.
-/

namespace Clearance.Negotiation

open Cluster (Channel Canned)

variable {σ ω : Type}

/-- Whenever the cluster answers which nodes it has, these are the same, and so are the ones that it
lists for the restriction. It may fail at any time. -/
structure Stable (ch : Channel σ ω) (s : Settings) (restriction : Option Role)
    (all listed : List String) : Prop where
  all : ∀ {scene : Scene ω} {found : List String} {session : σ} {world : ω},
    Recorded s scene.desk.settings →
      firstAnswer ch (.nodes .any) scene = (.ok found, session, world) → found = all
  listed : ∀ {role : Role}, restriction = some role →
    ∀ {scene : Scene ω} {found : List String} {session : σ} {world : ω},
      Recorded s scene.desk.settings →
        firstAnswer ch (.nodes role) scene = (.ok found, session, world) → found = listed

/-- The cluster always answers which nodes it has, and which ones it lists for the restriction. -/
structure Calm (ch : Channel σ ω) (restriction : Option Role) (all listed : List String) :
    Prop where
  all : ∀ scene : Scene ω, ∃ session world,
    firstAnswer ch (.nodes .any) scene = (.ok all, session, world)
  listed : ∀ {role : Role}, restriction = some role → ∀ scene : Scene ω, ∃ session world,
    firstAnswer ch (.nodes role) scene = (.ok listed, session, world)

/-- The second roster has the options of the first one and still leads to the same nodes. -/
structure Leads (all listed : List String) (first now : Roster) : Prop where
  target : now.target all listed = first.target all listed
  discovery : now.discoveryEnabled = first.discoveryEnabled
  restriction : now.restriction = first.restriction

variable {ch : Channel σ ω} {scene : Scene ω} {s : Settings} {restriction : Option Role}
  {all listed : List String}

theorem Calm.stable (calm : Calm ch restriction all listed) (s : Settings) :
    Stable ch s restriction all listed where
  all := by
    intro scene found session world _ answer
    obtain ⟨session', world', answer'⟩ := calm.all scene
    rw [answer'] at answer
    cases answer
    rfl
  listed := by
    intro role restricted scene found session world _ answer
    obtain ⟨session', world', answer'⟩ := calm.listed restricted scene
    rw [answer'] at answer
    cases answer
    rfl

theorem Leads.trans {first next now : Roster} (early : Leads all listed first next)
    (late : Leads all listed next now) : Leads all listed first now where
  target := late.target.trans early.target
  discovery := late.discovery.trans early.discovery
  restriction := late.restriction.trans early.restriction

/-! ## The target stays -/

theorem Moves.leads
    (stable : Stable ch s scene.negotiation.roster.restriction all listed)
    (settings : Recorded s scene.desk.settings) {now : Roster} (moved : Moves ch scene now) :
    Leads all listed scene.negotiation.roster now := by
  cases moved with
  | stays => exact ⟨rfl, rfl, rfl⟩
  | grows on answer =>
    have same := stable.all settings answer
    subst same
    exact ⟨Roster.target_extend on _ listed, rfl, rfl⟩
  | narrows restricted answer left =>
    have same := stable.listed restricted settings answer
    subst same
    have kept : now.target all _ = scene.negotiation.roster.target all _ :=
      Roster.target_narrow restricted left
    obtain ⟨-, rfl⟩ := Roster.narrow_eq_ok.mp left
    exact ⟨kept, rfl, rfl⟩

/-- Whatever is tried, the roster goes on leading to the nodes that the first one leads to. -/
theorem run_leads (scene : Scene ω)
    (stable : Stable ch s scene.negotiation.roster.restriction all listed)
    (settings : Recorded s scene.desk.settings) (steps : List Step) :
    Leads all listed scene.negotiation.roster (run ch steps scene).negotiation.roster := by
  suffices both : Recorded s (run ch steps scene).desk.settings ∧
      Leads all listed scene.negotiation.roster (run ch steps scene).negotiation.roster from both.2
  refine run_keeps
    (P := fun now => Recorded s now.desk.settings ∧
      Leads all listed scene.negotiation.roster now.negotiation.roster)
    (fun now step single soFar => ?_) (fun now soFar => ?_) steps ⟨settings, ⟨rfl, rfl, rfl⟩⟩
  · obtain ⟨settings, leads⟩ := soFar
    have stableNow : Stable ch s now.negotiation.roster.restriction all listed := by
      rw [leads.restriction]
      exact stable
    have taken : Single ch now step := take_single single
    exact ⟨settings.trans taken.settings, leads.trans (taken.moves.leads stableNow settings)⟩
  · rw [conclude_settings, conclude_negotiation]
    exact soFar

/-! ## Negotiations that return -/

theorem takeAll_returned {step : Step} {rest : List Step} {after : Scene ω}
    (returned : takeAll ch (step :: rest) scene = (.ok (), after)) :
    ∃ reply next, step.take ch scene = (.ok reply, next) ∧
      takeAll ch rest next = (.ok (), after) := by
  rcases taken : step.take ch scene with ⟨fault | reply, next⟩
  · rw [takeAll_of_error taken] at returned
    cases returned
  · rw [takeAll_of_ok taken] at returned
    exact ⟨reply, next, rfl, returned⟩

theorem conclude_returned {nodes : List String} (returned : (conclude scene).1 = .ok nodes) :
    scene.negotiation.roster.workingSet = nodes := by
  rcases scene with ⟨desk, ⟨roster, _ | v⟩⟩
  all_goals
    cases returned
    rfl

theorem checkSettings_returned {rest : List Step} {after : Scene ω}
    (returned : takeAll ch (.checkSettings :: rest) scene = (.ok (), after)) :
    takeAll ch rest scene = (.ok (), after) := by
  obtain ⟨_, next, taken, later⟩ := takeAll_returned returned
  obtain ⟨_, checked, -⟩ := Attempt.of_bind_pure taken
  have same : scene = next := congrArg Prod.snd checked
  rw [same]
  exact later

theorem checkName_returned {rest : List Step} {after : Scene ω}
    (returned : takeAll ch (.checkName :: rest) scene = (.ok (), after)) :
    ∃ named : Scene ω, named.negotiation = scene.negotiation ∧
      named.desk.settings = scene.desk.settings ∧ takeAll ch rest named = (.ok (), after) := by
  obtain ⟨_, named, taken, later⟩ := takeAll_returned returned
  obtain ⟨_, checked, -⟩ := Attempt.of_bind_pure taken
  have same : (inSession ch (Check.name ch scene.desk.settings) scene).2 = named :=
    congrArg Prod.snd checked
  refine ⟨named, ?_, ?_, later⟩
  · rw [← same, inSession_negotiation]
  · rw [← same, inSession_settings]

/-- What comes before growth in a whole negotiation leaves the roster and the settings alone. -/
theorem phases_returned {after : Scene ω}
    (returned : takeAll ch (phases scene.desk.settings) scene = (.ok (), after)) :
    ∃ checked : Scene ω, checked.negotiation = scene.negotiation ∧
      checked.desk.settings = scene.desk.settings ∧
      takeAll ch [.extendNodes, .narrowNodes, .findVersion] checked = (.ok (), after) := by
  rw [phases] at returned
  split at returned
  · exact checkName_returned (checkSettings_returned returned)
  · exact ⟨scene, rfl, rfl, checkSettings_returned returned⟩

/-- A whole negotiation that returns has let the roster grow and then narrowed it, and what it
returns is what was left. -/
theorem settle_returned {nodes : List String} (returned : (settle ch scene).1 = .ok nodes) :
    ∃ (checked grown narrowed : Scene ω) (found : Option (List String)),
      checked.negotiation = scene.negotiation ∧
      checked.desk.settings = scene.desk.settings ∧
      extendNodes ch checked = (.ok found, grown) ∧ narrowNodes ch grown = (.ok (), narrowed) ∧
      narrowed.negotiation.roster.workingSet = nodes ∧
      (settle ch scene).2.negotiation.roster = narrowed.negotiation.roster := by
  rw [settle_eq] at returned ⊢
  rcases taken : takeAll ch (phases scene.desk.settings) scene with ⟨fault | u, after⟩
  · rw [Attempt.bind_of_error taken] at returned
    cases returned
  rw [Attempt.bind_of_ok taken] at returned ⊢
  rw [conclude_negotiation]
  obtain ⟨checked, negotiation, settings, rest⟩ := phases_returned taken
  obtain ⟨_, grown, growth, rest⟩ := takeAll_returned rest
  obtain ⟨found, grew, -⟩ := Attempt.of_bind_pure growth
  obtain ⟨_, narrowed, narrowing, rest⟩ := takeAll_returned rest
  obtain ⟨_, shrank, -⟩ := Attempt.of_bind_pure narrowing
  obtain ⟨_, versioned, version, rest⟩ := takeAll_returned rest
  obtain ⟨v, versioning, -⟩ := Attempt.of_bind_pure version
  have last : versioned = after := by
    cases rest
    rfl
  subst last
  have roster : versioned.negotiation.roster = narrowed.negotiation.roster := by
    have frame : (findVersion ch narrowed).2.negotiation.roster = _ := findVersion_roster
    rw [versioning] at frame
    exact frame
  refine ⟨checked, grown, narrowed, found, negotiation, settings, grew, shrank, ?_, roster⟩
  rw [← roster]
  exact conclude_returned returned

/-! ## Growth, then narrowing -/

section Negotiated

variable (stable : Stable ch s scene.negotiation.roster.restriction all listed)
  (settings : Recorded s scene.desk.settings)
include stable settings

theorem grown_leads {grown : Scene ω} {found : Option (List String)}
    (grew : extendNodes ch scene = (.ok found, grown)) :
    Leads all listed scene.negotiation.roster grown.negotiation.roster ∧
      grown.negotiation.roster.Complete all ∧ Recorded s grown.desk.settings := by
  rcases extendNodes_cases ch scene with
    ⟨off, same⟩ | ⟨on, gave, session, world, answer, same⟩ | ⟨-, fault, session, world, -, same⟩
  · rw [same] at grew
    cases grew
    refine ⟨⟨rfl, rfl, rfl⟩, fun on => ?_, settings⟩
    rw [off] at on
    cases on
  · rw [same] at grew
    cases grew
    have known := stable.all settings answer
    subst known
    exact ⟨⟨Roster.target_extend on gave listed, rfl, rfl⟩, Roster.complete_extend _ gave, settings⟩
  · rw [same] at grew
    cases grew

/-- Growth and narrowing that both succeed reach the target, which cannot be empty then if there is
a restriction. -/
theorem nodes_negotiated {grown narrowed : Scene ω} {found : Option (List String)}
    (grew : extendNodes ch scene = (.ok found, grown))
    (shrank : narrowNodes ch grown = (.ok (), narrowed)) :
    let r := scene.negotiation.roster
    narrowed.negotiation.roster.workingSet = r.target all listed ∧
      r.restriction ≠ some .any ∧ (r.restriction ≠ none → r.target all listed ≠ []) := by
  intro r
  obtain ⟨leads, complete, settingsGrown⟩ := grown_leads stable settings grew
  have same : r.restriction = grown.negotiation.roster.restriction := leads.restriction.symm
  rw [same, ← leads.target, Roster.target_of_complete complete]
  rcases narrowNodes_cases ch grown with
    ⟨off, kept⟩ | ⟨role, gave, session, world, u, restricted, answer, left, kept⟩ |
      ⟨-, fault, failed, -⟩
  · rw [kept] at shrank
    cases shrank
    rw [off]
    exact ⟨rfl, nofun, fun restricted => absurd rfl restricted⟩
  · have known : gave = listed := by
      rw [← same] at restricted
      exact stable.listed restricted settingsGrown answer
    subst known
    obtain ⟨nonempty, rfl⟩ := Roster.narrow_eq_ok.mp left
    have proper : role ≠ .any := by
      rintro rfl
      have refused : (narrowNodes ch grown).1 = _ := (narrowNodes_any restricted).1
      rw [shrank] at refused
      cases refused
    rw [kept] at shrank
    cases shrank
    rw [restricted]
    refine ⟨rfl, fun same => proper (Option.some.inj same), fun _ => nonempty⟩
  · rw [shrank] at failed
    cases failed

end Negotiated

/-- On a cluster that does not fail, growth and narrowing succeed if there is a target. -/
theorem calm_negotiated (scene : Scene ω)
    (calm : Calm ch scene.negotiation.roster.restriction all listed)
    (proper : scene.negotiation.roster.restriction ≠ some .any)
    (attainable : scene.negotiation.roster.restriction ≠ none →
      scene.negotiation.roster.target all listed ≠ []) :
    ∃ (found : Option (List String)) (grown narrowed : Scene ω),
      extendNodes ch scene = (.ok found, grown) ∧ narrowNodes ch grown = (.ok (), narrowed) := by
  have stable := calm.stable scene.desk.settings
  obtain ⟨found, grown, grew⟩ :
      ∃ (found : Option (List String)) (grown : Scene ω),
        extendNodes ch scene = (.ok found, grown) := by
    cases on : scene.negotiation.roster.discoveryEnabled with
    | false => exact ⟨none, scene, extendNodes_off on⟩
    | true =>
      obtain ⟨session, world, answer⟩ := calm.all scene
      exact ⟨some all, _, extendNodes_answered on answer⟩
  obtain ⟨leads, complete, -⟩ := grown_leads stable (.refl _) grew
  refine ⟨found, grown, ?_⟩
  cases restricted : grown.negotiation.roster.restriction with
  | none => exact ⟨grown, grew, narrowNodes_off restricted⟩
  | some role =>
    have same : scene.negotiation.roster.restriction = some role :=
      leads.restriction.symm.trans restricted
    obtain ⟨session, world, answer⟩ := calm.listed same grown
    have left : grown.negotiation.roster.retained listed ≠ [] := by
      have nonempty := attainable (by simp [same])
      rw [← leads.target, Roster.target_of_complete complete, restricted] at nonempty
      exact nonempty
    have properRole : role ≠ .any := by
      rintro rfl
      exact proper same
    have narrowed := narrowNodes_narrowed restricted properRole answer
      (Roster.narrow_eq_ok.mpr ⟨left, rfl⟩)
    exact ⟨_, grew, narrowed⟩

/-! ## Clusters that fail now and then -/

/-- A canned cluster that fails now and then: the list says which of the next questions fail, and
how. -/
def faltering (c : Canned) : Channel Unit (List (Option Fault)) where
  start _ _ := ()
  answer
    | _, _, some fault :: rest => (.error fault, (), rest)
    | query, _, none :: rest => (.ok (c.answer query), (), rest)
    | query, _, [] => (.ok (c.answer query), (), [])
  stop _ world := ((), world)

/-- A canned cluster that never fails. -/
def steady (c : Canned) : Channel Unit Unit where
  start _ _ := ()
  answer query _ _ := (.ok (c.answer query), (), ())
  stop _ world := ((), world)

theorem answer_faltering {c : Canned} {query : Cluster.Query} {answer : query.Answer}
    {scene : Scene (List (Option Fault))} {session : Unit} {world : List (Option Fault)}
    (given : firstAnswer (faltering c) query scene = (.ok answer, session, world)) :
    answer = c.answer query := by
  have said : (faltering c).answer query () scene.desk.world = (.ok answer, session, world) := given
  rcases pending : scene.desk.world with _ | ⟨_ | fault, rest⟩
  all_goals
    rw [pending] at said
    cases said
  all_goals rfl

theorem stable_faltering (c : Canned) (s : Settings) (role : Role) :
    Stable (faltering c) s (some role) (c.answer (.nodes .any)) (c.answer (.nodes role)) where
  all _ given := answer_faltering given
  listed restricted _ _ _ _ _ given := by
    cases restricted
    exact answer_faltering given

theorem calm_steady (c : Canned) (role : Role) :
    Calm (steady c) (some role) (c.answer (.nodes .any)) (c.answer (.nodes role)) where
  all _ := ⟨(), (), rfl⟩
  listed restricted _ := by
    cases restricted
    exact ⟨(), (), rfl⟩

/-! ## The whole negotiation -/

/-- However often steps were tried and failed before, a whole negotiation that returns at last has
the target of the first roster for its working set; and that is the working set that growth and
narrowing lead to if they are taken right away on a cluster that does not fail. -/
theorem settle_of_stable (n : Negotiation) (desk : Desk ω)
    (stable : Stable ch desk.settings n.roster.restriction all listed) (steps : List Step)
    {nodes : List String} (returned : (settle ch (run ch steps ⟨desk, n⟩)).1 = .ok nodes) :
    nodes = n.roster.target all listed ∧
      (settle ch (run ch steps ⟨desk, n⟩)).2.negotiation.roster.workingSet = nodes ∧
      ∀ {σ' ω' : Type} {ch' : Channel σ' ω'}, Calm ch' n.roster.restriction all listed →
        ∀ desk' : Desk ω',
          let undisturbed := (do let _ ← extendNodes ch'; narrowNodes ch') ⟨desk', n⟩
          undisturbed.1 = .ok () ∧ undisturbed.2.negotiation.roster.workingSet = nodes := by
  obtain ⟨checked, grown, narrowed, found, negotiation, settings, grew, shrank, answered, roster⟩ :=
    settle_returned returned
  -- The steps before have moved the roster, but not its target.
  have leads := run_leads ⟨desk, n⟩ stable (.refl _) steps
  rw [← negotiation] at leads
  have settingsNow : Recorded desk.settings checked.desk.settings := by
    rw [settings]
    exact run_settings steps
  have stableNow : Stable ch desk.settings checked.negotiation.roster.restriction all listed := by
    rw [leads.restriction]
    exact stable
  obtain ⟨reached, proper, attainable⟩ := nodes_negotiated stableNow settingsNow grew shrank
  rw [leads.restriction] at proper attainable
  rw [leads.target] at reached attainable
  -- What the first roster leads to right away is the same target, and it can be reached.
  have goal : nodes = n.roster.target all listed := answered.symm.trans reached
  refine ⟨goal, by rw [roster, answered], ?_⟩
  intro σ' ω' ch' calm desk' undisturbed
  obtain ⟨found', grown', narrowed', grew', shrank'⟩ :=
    calm_negotiated ⟨desk', n⟩ calm proper attainable
  have reached' := (nodes_negotiated (calm.stable _) (.refl _) grew' shrank').1
  have taken : undisturbed = (.ok (), narrowed') := by
    rw [← shrank']
    exact Attempt.bind_of_ok grew'
  rw [taken]
  exact ⟨rfl, reached'.trans goal.symm⟩

/-- The last question before the negotiation that returns fails, when the roster has been narrowed
and has grown again. -/
theorem settle_after_failures :
    let cluster : Canned :=
      { nodes := [(.any, ["b:9200", "a:9200"]), (.data, ["a:9200", "localhost:9200"])] }
    let lost : Fault := .transport .noNodes
    let n : Negotiation := ⟨⟨["localhost:9200"], true, some .data⟩, none⟩
    let desk : Desk (List (Option Fault)) :=
      ⟨{}, [some lost, none, some lost, none, none, some lost], {}⟩
    let now := run (faltering cluster) [.extendNodes, .settle, .narrowNodes, .settle] ⟨desk, n⟩
    Negotiation.ofSettings {} = .ok n ∧
      now.negotiation.roster.workingSet = ["localhost:9200", "a:9200", "b:9200"] ∧
      (settle (faltering cluster) now).1 = .ok ["localhost:9200", "a:9200"] ∧
      (settle (faltering cluster) now).2.negotiation.roster.workingSet =
        ["localhost:9200", "a:9200"] ∧
      ∀ desk' : Desk Unit,
        let undisturbed :=
          (do let _ ← extendNodes (steady cluster); narrowNodes (steady cluster)) ⟨desk', n⟩
        undisturbed.1 = .ok () ∧
          undisturbed.2.negotiation.roster.workingSet = ["localhost:9200", "a:9200"] := by
  intro cluster lost n desk now
  have returned : (settle (faltering cluster) now).1 = .ok ["localhost:9200", "a:9200"] := by
    decide +kernel
  obtain ⟨-, -, same⟩ :=
    settle_of_stable n desk (stable_faltering cluster {} .data)
      [.extendNodes, .settle, .narrowNodes, .settle] returned
  exact ⟨rfl, by decide +kernel, returned, by decide +kernel, same (calm_steady cluster .data)⟩

end Clearance.Negotiation
