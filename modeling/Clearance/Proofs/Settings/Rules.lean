import Clearance.Proofs.Outcome
import Clearance.Proofs.Settings.Conflicts
import Clearance.Roster.Basic

/-!
# The rules for settings

Settings are checked by eight rules in a fixed order, and the first one that is broken is reported.
The rules go by the options in force: discovery and the restriction to data nodes follow from the
other options where they are left open. Settings that break no rule have at most one restriction on,
so that the order in which restrictions are looked up makes no difference to them.

Results:
1. `options_in_force`: when the options are in force that may be left open.
2. `rules`, `findConflict_eq`: the rules in their order, and that settings are checked by them.
3. `Consistent`, `consistent_iff`: what it means that no rule is broken.
4. `validate_eq_error`: the rule that is reported.
5. `Consistent.restriction`: consistent settings are restricted to the one role that is on.
6. `checked_settings`: all of this for every settings.
-/

namespace Clearance.Settings

/-! ## Options in force -/

/-- When the options with three states are in force. A choice counts in any case, and what is left
open follows from the other options. -/
structure OptionsInForce (s : Settings) : Prop where
  /-- Left open, discovery is on unless the nodes are reached over a wide area network. -/
  discovery : s.discoveryEnabled = true ↔
    s.discovery = some true ∨ s.discovery = none ∧ s.wanOnly = false
  /-- Left open, the restriction to nodes with data is on unless another one is, or the nodes are
  reached over a wide area network. -/
  data : s.dataOnlyInForce = true ↔ s.dataOnly = some true ∨
    s.dataOnly = none ∧ s.wanOnly = false ∧ s.clientOnly = false ∧ s.ingestOnly = false

theorem options_in_force (s : Settings) : OptionsInForce s where
  discovery := by
    unfold discoveryEnabled
    cases s.discovery <;> simp
  data := by
    unfold dataOnlyInForce
    cases s.dataOnly <;> simp [and_assoc]

/-! ## Rules -/

/-- A rule for settings: whether they break it, and the conflict that this is reported as. -/
structure Rule where
  broken : Bool
  conflict : Conflict

/-- Reports the conflict if the rule is broken. -/
def Rule.check (rule : Rule) : Except Conflict Unit :=
  forbid rule.broken rule.conflict

/-- The rules, in the order in which they are checked. -/
def rules (s : Settings) : List Rule :=
  [⟨s.wanOnly && s.discoveryEnabled, .wanWithDiscovery⟩,
   ⟨s.wanOnly && s.clientOnly, .wanWithClient⟩,
   ⟨s.wanOnly && s.dataOnlyInForce, .wanWithData⟩,
   ⟨s.wanOnly && s.ingestOnly, .wanWithIngest⟩,
   ⟨s.clientOnly && s.dataOnlyInForce || s.clientOnly && s.ingestOnly ||
      s.dataOnlyInForce && s.ingestOnly, .severalRestrictions⟩,
   ⟨s.jsonInput && !s.includedFields.isEmpty, .jsonWithInclusion⟩,
   ⟨s.jsonInput && !s.excludedFields.isEmpty, .jsonWithExclusion⟩,
   ⟨!s.internalFields.isEmpty && !s.sourceFilter.isEmpty, .twoSourceFilters s.sourceFilter⟩]

/-- Of the rules this one is broken, and none before it is. -/
def FirstBroken (rules : List Rule) (rule : Rule) : Prop :=
  rule.broken = true ∧ ∃ before after, rules = before ++ rule :: after ∧
    ∀ earlier ∈ before, earlier.broken = false

/-- The restriction to the role is on. -/
def Active (s : Settings) : Role → Prop
  | .any => False
  | .data => s.dataOnlyInForce = true
  | .client => s.clientOnly = true
  | .ingest => s.ingestOnly = true

/-- The settings do not contradict each other. -/
structure Consistent (s : Settings) : Prop where
  /-- Over a wide area network nothing is on that would choose among the nodes. -/
  wideArea : s.wanOnly = true → s.discoveryEnabled = false ∧ s.clientOnly = false ∧
    s.dataOnlyInForce = false ∧ s.ingestOnly = false
  oneRestriction : ∀ {role other}, s.Active role → s.Active other → role = other
  /-- What is written as it is has no fields left out. -/
  wholeDocuments : s.jsonInput = true → s.includedFields = [] ∧ s.excludedFields = []
  oneSourceFilter : s.internalFields = [] ∨ s.sourceFilter = []

/-! ## Checking -/

theorem exists_check_ok {rule : Rule} : (∃ u, rule.check = .ok u) ↔ rule.broken = false :=
  ⟨fun ⟨_, passed⟩ => forbid_eq_ok.mp passed, fun kept => ⟨(), forbid_eq_ok.mpr kept⟩⟩

theorem check_eq_error {rule : Rule} {conflict : Conflict} :
    rule.check = .error conflict ↔ rule.broken = true ∧ conflict = rule.conflict := by
  rw [Rule.check, forbid]
  cases rule.broken <;> simp [eq_comm]

/-- More than one restriction is on if two of them are. -/
theorem several_restrictions (s : Settings) :
    decide (1 < s.activeRestrictions.length) =
      (s.clientOnly && s.dataOnlyInForce || s.clientOnly && s.ingestOnly ||
        s.dataOnlyInForce && s.ingestOnly) := by
  unfold activeRestrictions
  cases s.clientOnly <;> cases s.dataOnlyInForce <;> cases s.ingestOnly <;> rfl

theorem discard_sourceFields (s : Settings) :
    discard s.sourceFields =
      forbid (!s.internalFields.isEmpty && !s.sourceFilter.isEmpty)
        (.twoSourceFilters s.sourceFilter) := by
  unfold sourceFields
  cases s.internalFields <;> cases s.sourceFilter <;> rfl

/-- Rules are checked one after the other. -/
theorem check_cons (rule : Rule) (rest : List Rule) :
    ((rule :: rest).mapM Rule.check).map (fun _ => ()) =
      rule.check >>= fun _ => (rest.mapM Rule.check).map fun _ => () := by
  rw [List.mapM_cons]
  cases rule.check with
  | error conflict => rfl
  | ok u => cases rest.mapM Rule.check <;> rfl

theorem check_nil : ([].mapM Rule.check).map (fun _ => ()) = pure () := rfl

/-- Checks under a condition are checks of rules that take the condition in. -/
theorem findConflict_eq (s : Settings) :
    s.findConflict = (s.rules.mapM Rule.check).map fun _ => () := by
  unfold findConflict rules
  rw [several_restrictions, discard_sourceFields]
  simp only [check_cons, check_nil, bind_pure_unit]
  cases s.wanOnly <;> cases s.jsonInput <;> rfl

/-- Settings are refused for the first rule that they break. -/
theorem validate_eq_error {s : Settings} {fault : Fault} :
    s.validate = .error fault ↔
      ∃ rule, FirstBroken s.rules rule ∧ fault = .configuration (.conflict rule.conflict) := by
  rw [validate, mapError_eq_error]
  simp only [findConflict_eq, map_eq_error, mapM_eq_error, exists_check_ok, check_eq_error]
  constructor
  · rintro ⟨_, ⟨before, rule, after, split, kept, broken, rfl⟩, rfl⟩
    exact ⟨rule, ⟨broken, before, after, split, kept⟩, rfl⟩
  · rintro ⟨rule, ⟨broken, before, after, split, kept⟩, rfl⟩
    exact ⟨rule.conflict, ⟨before, rule, after, split, kept, broken, rfl⟩, rfl⟩

/-! ## Consistent settings -/

/-- No two restrictions are on just if no two of the three flags are. -/
theorem oneRestriction_iff {s : Settings} :
    (∀ {role other}, s.Active role → s.Active other → role = other) ↔
      (s.clientOnly && s.dataOnlyInForce || s.clientOnly && s.ingestOnly ||
        s.dataOnlyInForce && s.ingestOnly) = false := by
  simp only [Bool.or_eq_false_iff, Bool.and_eq_false_imp]
  constructor
  · intro one
    have apart {role other : Role} (differ : role ≠ other) (on : s.Active role) :
        ¬ s.Active other := fun both => differ (one on both)
    refine ⟨⟨fun client => ?_, fun client => ?_⟩, fun data => ?_⟩
    · exact Bool.eq_false_iff.mpr (@apart .client .data nofun client)
    · exact Bool.eq_false_iff.mpr (@apart .client .ingest nofun client)
    · exact Bool.eq_false_iff.mpr (@apart .data .ingest nofun data)
  · rintro ⟨⟨clientData, clientIngest⟩, dataIngest⟩ role other on both
    cases role <;> cases other <;> simp_all [Active]

theorem consistent_iff {s : Settings} :
    s.Consistent ↔ ∀ rule ∈ s.rules, rule.broken = false := by
  simp only [rules, List.forall_mem_cons, Bool.and_eq_false_imp]
  constructor
  · intro consistent
    refine ⟨fun wan => (consistent.wideArea wan).1, fun wan => (consistent.wideArea wan).2.1,
      fun wan => (consistent.wideArea wan).2.2.1, fun wan => (consistent.wideArea wan).2.2.2,
      oneRestriction_iff.mp consistent.oneRestriction, fun json => ?_, fun json => ?_, ?_, nofun⟩
    · simp [(consistent.wholeDocuments json).1]
    · simp [(consistent.wholeDocuments json).2]
    · rcases consistent.oneSourceFilter with none | none <;> simp [none]
  · rintro ⟨discovery, client, data, ingest, one, inclusion, exclusion, filters, -⟩
    refine ⟨fun wan => ⟨discovery wan, client wan, data wan, ingest wan⟩,
      oneRestriction_iff.mpr one, fun json => ⟨?_, ?_⟩, ?_⟩
    · simpa using inclusion json
    · simpa using exclusion json
    · exact Decidable.or_iff_not_imp_left.mpr (by simpa using filters)

theorem validate_passes {s : Settings} : s.validate = .ok () ↔ s.Consistent := by
  have done {x : Except Conflict (List Unit)} :
      (x.map fun _ => ()) = .ok () ↔ ∃ us, x = .ok us := by
    cases x with
    | error conflict => exact ⟨nofun, fun ⟨_, same⟩ => nomatch same⟩
    | ok us => exact ⟨fun _ => ⟨us, rfl⟩, fun _ => rfl⟩
  rw [validate_eq_ok, findConflict_eq, done, exists_mapM_ok, consistent_iff]
  simp only [exists_check_ok]

/-! ## The restriction -/

theorem active_of_restriction {s : Settings} {role : Role} (found : s.restriction = some role) :
    s.Active role := by
  unfold restriction at found
  split at found
  · next client => cases found; exact client
  · split at found
    · next data => cases found; exact data
    · split at found
      · next ingest => cases found; exact ingest
      · cases found

theorem exists_restriction {s : Settings} {role : Role} (on : s.Active role) :
    ∃ first, s.restriction = some first := by
  unfold restriction
  cases role with
  | any => exact on.elim
  | client => exact ⟨.client, if_pos on⟩
  | data =>
    have data : s.dataOnlyInForce = true := on
    rw [if_pos data]
    split <;> exact ⟨_, rfl⟩
  | ingest =>
    have ingest : s.ingestOnly = true := on
    rw [if_pos ingest]
    split
    · exact ⟨_, rfl⟩
    · split <;> exact ⟨_, rfl⟩

/-- The role that is looked up first is the only one that is on. -/
theorem Consistent.restriction {s : Settings} (consistent : s.Consistent) {role : Role} :
    s.restriction = some role ↔ s.Active role := by
  refine ⟨active_of_restriction, fun on => ?_⟩
  obtain ⟨first, found⟩ := exists_restriction on
  rw [found, consistent.oneRestriction on (active_of_restriction found)]

/-! ## Checked settings -/

/-- By the options in force, settings pass the checks just if they do not contradict each other, and
are refused for the first rule that they break otherwise. The roster of settings that pass is
restricted to the one role for which a restriction is on, if there is one; over a wide area network
there is none, and nothing is discovered. -/
theorem checked_settings (s : Settings) :
    OptionsInForce s ∧
    (s.validate = .ok () ↔ s.Consistent) ∧
    (∀ fault, s.validate = .error fault ↔
      ∃ rule, FirstBroken s.rules rule ∧ fault = .configuration (.conflict rule.conflict)) ∧
    (s.validate = .ok () → ∀ nodes, s.declaredNodes = .ok nodes →
      ∃ r, Roster.ofSettings s = .ok r ∧ (∀ role, r.restriction = some role ↔ s.Active role) ∧
        (s.wanOnly = true → r.restriction = none ∧ r.discoveryEnabled = false)) := by
  refine ⟨options_in_force s, validate_passes, fun fault => validate_eq_error,
    fun valid nodes declared => ?_⟩
  refine ⟨Roster.ofNodes nodes s.discoveryEnabled s.restriction, ?_, fun role => ?_, fun wan => ?_⟩
  · rw [Roster.ofSettings, declared]
    rfl
  · exact (validate_passes.mp valid).restriction
  · exact ⟨wan_restriction valid wan, (wan_options valid wan).1⟩

/-- An ingest restriction alone takes the place of the one to data that holds otherwise. -/
theorem ingest_alone_restricts :
    let s : Settings := { ingestOnly := true }
    s.validate = .ok () ∧ ∃ r, Roster.ofSettings s = .ok r ∧ r.restriction = some .ingest := by
  intro s
  obtain ⟨-, passes, -, restricted⟩ := checked_settings s
  have valid : s.validate = .ok () := passes.mpr (consistent_iff.mpr (by decide))
  obtain ⟨r, made, restriction, -⟩ := restricted valid ["localhost:9200"] rfl
  exact ⟨valid, r, made, (restriction .ingest).mpr rfl⟩

end Clearance.Settings
