import Clearance.Fault.Message
import Clearance.Proofs.Json.Shown
import Clearance.Proofs.Outcome
import Clearance.Proofs.Text.Lower
import Clearance.Proofs.Text.Trim
import Clearance.Settings.Properties

/-!
# Settings, property by property

Every setting has a property of its own, and nothing else decides what the setting holds: the text
of the property as it is read for this setting, or the default where the property is silent. What is
refused is told by the first property that cannot be read, in a fixed order. Only a value that
cannot be shown ends the reading with another fault than one of the configuration, and neither a
text nor a document ever holds one.

Results:
1. `Key.Content`, `content`, `Key.parse`: what the settings hold, under one name for all of them.
2. `ofProperties_eq`: the settings are those whose contents are read one by one, unless the reading
   stops at a property.
3. `value_eq_ok`, `value_eq_error`: what is read for one setting.
4. `firstStopped_iff`: where all values can be shown, the first of the checked properties counts.
5. `settings_by_property`: all of it, for one map of properties and for two.
-/

namespace Clearance

namespace Settings

open Json (Members)
open Text (Glyph isBlank trim)

/-! ## Flags -/

namespace Flag

/-- The words that say whether a setting is on. -/
def wordsFor (on : Bool) : List String :=
  if on then ["true", "yes", "1", "on"] else ["false", "no", "0", "off"]

/-- The text says whether a setting is on: it is one of the words for that, blanks around it and the
case of its letters apart. -/
def Says (text : String) (on : Bool) : Prop :=
  ∃ front word back, text.toList = front ++ word ++ back ∧
    (∀ c ∈ front, isBlank c = true) ∧ (∀ c ∈ back, isBlank c = true) ∧
    String.ofList (word.map Char.toLower) ∈ wordsFor on

theorem toLower_of_blank {c : Char} (blank : isBlank c = true) : c.toLower = c := by
  refine dif_neg fun capital => ?_
  have low : 65 ≤ c.toNat := capital.1
  have high : c.toNat ≤ 90 := capital.2
  simp only [isBlank, Bool.or_eq_true, Bool.and_eq_true, decide_eq_true_eq, beq_iff_eq] at blank
  omega

/-- None of the words has a blank in it, and neither has a text that comes to one of them. -/
theorem solid_of_word {word : List Char} {on : Bool}
    (known : String.ofList (word.map Char.toLower) ∈ wordsFor on) :
    ∀ c ∈ word, isBlank c = false := by
  intro c present
  have solid : (wordsFor on).all (fun known => known.toList.all fun d => !isBlank d) = true := by
    cases on <;> decide
  by_contra blank
  have blank : isBlank c = true := Bool.not_eq_false _ ▸ blank
  have lowered : c.toLower ∈ (String.ofList (word.map Char.toLower)).toList := by
    rw [String.toList_ofList]
    exact List.mem_map_of_mem present
  rw [toLower_of_blank blank] at lowered
  have nonblank := List.all_eq_true.mp (List.all_eq_true.mp solid _ known) c lowered
  rw [blank] at nonblank
  cases nonblank

theorem says_iff {text : String} {on : Bool} :
    Says text on ↔ String.ofList ((trim text.toList).map Char.toLower) ∈ wordsFor on := by
  constructor
  · rintro ⟨front, word, back, whole, blankFront, blankBack, known⟩
    have solid := solid_of_word known
    have trimmed : trim text.toList = word := Text.trim_eq_iff.mpr
      ⟨⟨fun c first => solid c (List.mem_of_mem_head? first),
        fun c last => solid c (List.mem_of_mem_getLast? last)⟩,
        front, back, whole, blankFront, blankBack⟩
    rw [trimmed]
    exact known
  · intro known
    obtain ⟨front, back, whole, blankFront, blankBack⟩ := Text.blanks_around_trim text.toList
    exact ⟨front, trim text.toList, back, whole, blankFront, blankBack, known⟩

/-- No letter outside of ASCII turns into one of a word. -/
theorem lower_mem_wordsFor {s : List Char} {on : Bool} :
    String.ofList (Text.lower s) ∈ wordsFor on ↔
      String.ofList (s.map Char.toLower) ∈ wordsFor on := by
  have plain : (wordsFor on).all (fun word => word.toList.all fun c => Text.Plain c) = true := by
    cases on <;> decide
  exact Text.lower_mem_iff fun word known =>
    Text.plain_of_all (List.all_eq_true.mp plain word known)

theorem read_eq_ok {setting text : String} {on : Bool} :
    Flag.read setting text = .ok on ↔ Says text on := by
  rw [says_iff, ← lower_mem_wordsFor]
  unfold Flag.read
  dsimp only
  split
  · next word =>
    have other := not_both_ways _ word
    cases on <;> simp_all [wordsFor, onWords, offWords]
  · next notOn =>
    split
    · next word => cases on <;> simp_all [wordsFor, onWords, offWords]
    · next notOff => cases on <;> simp_all [wordsFor, onWords, offWords]

end Flag

/-! ## Contents -/

/-- What a setting holds. -/
@[reducible] def Key.Content : Key → Type
  | nodes | includedFields | excludedFields | sourceFilter | internalFields => List String
  | port => Int
  | discovery | dataOnly => Option Bool
  | wanOnly | clientOnly | ingestOnly | jsonInput | allowRedReads | autoCreateIndex | tls => Bool
  | operation => String
  | timeout => Float
  | resource | resourceRead | resourceWrite | clusterName | documentId | recordedVersion
  | authUser | authPassword | writerClass | readerClass | bytesConverterClass
  | fieldExtractorClass => Option String

/-- What the settings hold under a key. -/
def content (s : Settings) : (key : Key) → key.Content
  | .nodes => s.nodes
  | .port => s.port
  | .discovery => s.discovery
  | .wanOnly => s.wanOnly
  | .clientOnly => s.clientOnly
  | .dataOnly => s.dataOnly
  | .ingestOnly => s.ingestOnly
  | .jsonInput => s.jsonInput
  | .includedFields => s.includedFields
  | .excludedFields => s.excludedFields
  | .sourceFilter => s.sourceFilter
  | .internalFields => s.internalFields
  | .allowRedReads => s.allowRedReads
  | .autoCreateIndex => s.autoCreateIndex
  | .resource => s.resource
  | .resourceRead => s.resourceRead
  | .resourceWrite => s.resourceWrite
  | .clusterName => s.clusterName
  | .operation => s.operation
  | .documentId => s.documentId
  | .recordedVersion => s.recordedVersion
  | .tls => s.tls
  | .authUser => s.authUser
  | .authPassword => s.authPassword
  | .timeout => s.timeout
  | .writerClass => s.writerClass
  | .readerClass => s.readerClass
  | .bytesConverterClass => s.bytesConverterClass
  | .fieldExtractorClass => s.fieldExtractorClass

/-- The settings with these contents. -/
def collect (contents : (key : Key) → key.Content) : Settings where
  nodes := contents .nodes
  port := contents .port
  discovery := contents .discovery
  wanOnly := contents .wanOnly
  clientOnly := contents .clientOnly
  dataOnly := contents .dataOnly
  ingestOnly := contents .ingestOnly
  jsonInput := contents .jsonInput
  includedFields := contents .includedFields
  excludedFields := contents .excludedFields
  sourceFilter := contents .sourceFilter
  internalFields := contents .internalFields
  allowRedReads := contents .allowRedReads
  autoCreateIndex := contents .autoCreateIndex
  resource := contents .resource
  resourceRead := contents .resourceRead
  resourceWrite := contents .resourceWrite
  clusterName := contents .clusterName
  operation := contents .operation
  documentId := contents .documentId
  recordedVersion := contents .recordedVersion
  tls := contents .tls
  authUser := contents .authUser
  authPassword := contents .authPassword
  timeout := contents .timeout
  writerClass := contents .writerClass
  readerClass := contents .readerClass
  bytesConverterClass := contents .bytesConverterClass
  fieldExtractorClass := contents .fieldExtractorClass

/-- Reads what a setting holds from the text of its property. -/
def Key.parse : (key : Key) → String → Except Fault key.Content
  | nodes, text | includedFields, text | excludedFields, text | sourceFilter, text
  | internalFields, text => .ok (Text.CommaList.read text)
  | port, text => readDefaultPort text
  | discovery, text => (Flag.read discovery.name text).map some
  | dataOnly, text => (Flag.read dataOnly.name text).map some
  | wanOnly, text => Flag.read wanOnly.name text
  | clientOnly, text => Flag.read clientOnly.name text
  | ingestOnly, text => Flag.read ingestOnly.name text
  | jsonInput, text => Flag.read jsonInput.name text
  | allowRedReads, text => Flag.read allowRedReads.name text
  | autoCreateIndex, text => Flag.read autoCreateIndex.name text
  | tls, text => Flag.read tls.name text
  | timeout, text => Duration.read timeout.name text
  | operation, text => .ok (Text.strip text)
  | resource, text | resourceRead, text | resourceWrite, text | clusterName, text
  | documentId, text | recordedVersion, text | authUser, text | authPassword, text
  | writerClass, text | readerClass, text | bytesConverterClass, text
  | fieldExtractorClass, text => .ok (some (Text.strip text))

/-- All settings, in the order in which their properties are read. -/
def readingOrder : List Key :=
  [.nodes, .port, .discovery, .wanOnly, .clientOnly, .dataOnly, .ingestOnly, .jsonInput,
    .allowRedReads, .autoCreateIndex, .tls, .includedFields, .excludedFields, .sourceFilter,
    .internalFields, .resource, .resourceRead, .resourceWrite, .clusterName, .operation,
    .documentId, .recordedVersion, .authUser, .authPassword, .writerClass, .readerClass,
    .bytesConverterClass, .fieldExtractorClass, .timeout]

/-- The settings whose properties may be refused, in the same order. -/
def checkedKeys : List Key :=
  [.port, .discovery, .wanOnly, .clientOnly, .dataOnly, .ingestOnly, .jsonInput, .allowRedReads,
    .autoCreateIndex, .tls, .timeout]

theorem mem_readingOrder (key : Key) : key ∈ readingOrder := by
  cases key <;> decide

/-- The fault that tells of a property whose text is refused. -/
def Key.refusal (key : Key) (text : String) : Fault :=
  .configuration (.text (match key with
    | port => .port text
    | timeout => .duration timeout.name text
    | flag => .flag flag.name text))

theorem eq_collect {s : Settings} {contents : (key : Key) → key.Content}
    (same : ∀ key, s.content key = contents key) : s = collect contents := by
  rw [← funext same]
  rfl

theorem content_collect (contents : (key : Key) → key.Content) (key : Key) :
    (collect contents).content key = contents key := by
  cases key <;> rfl

/-! ## One setting -/

namespace Properties

/-- What is read for a setting. -/
def value (p : Properties) (key : Key) : Except Fault key.Content :=
  p.read key (({} : Settings).content key) key.parse

/-- What the settings hold if all of it can be read. -/
def contents (p : Properties) (key : Key) : key.Content :=
  (p.value key).toOption.getD (({} : Settings).content key)

/-- Whether the property of a setting can be read. -/
def check (p : Properties) (key : Key) : Except Fault Unit :=
  (p.value key).map fun _ => ()

/-- The property of a setting has a value other than null, and this is the text of the value. It is
not blank. -/
def Gives (p : Properties) (key : Key) (text : String) : Prop :=
  ∃ v, Members.get? (Glyph.ofString key.name) p = some v ∧ v ≠ .null ∧ ¬ Json.Oversized v ∧
    v.text = text ∧ ∃ c ∈ text.toList, isBlank c = false

/-- The property of a setting is missing, null or blank. -/
def Silent (p : Properties) (key : Key) : Prop :=
  ∀ v, Members.get? (Glyph.ofString key.name) p = some v →
    v = .null ∨ ¬ Json.Oversized v ∧ ∀ c ∈ v.text.toList, isBlank c = true

/-- The property of a setting has a value that cannot be shown: somewhere in it there is a whole
number of too many digits. -/
def Withholds (p : Properties) (key : Key) : Prop :=
  ∃ v, Members.get? (Glyph.ofString key.name) p = some v ∧ Json.Oversized v

/-- What a setting holds: what is read from the text of its property, or the default. -/
inductive Reads (p : Properties) (key : Key) : key.Content → Prop
  | silent (silent : p.Silent key) : Reads p key (({} : Settings).content key)
  | given {text : String} {v : key.Content} (given : p.Gives key text)
      (read : key.parse text = .ok v) : Reads p key v

/-- The text of a property cannot be read. -/
def Refuses (p : Properties) (key : Key) (text : String) : Prop :=
  p.Gives key text ∧ ∀ v, key.parse text ≠ .ok v

/-- The reading stops at a property, with this fault. -/
inductive Stops (p : Properties) (key : Key) : Fault → Prop
  | refused {text : String} (refuses : p.Refuses key text) : Stops p key (key.refusal text)
  | withheld (withholds : p.Withholds key) : Stops p key (.value .oversized)

variable {p q : Properties} {key : Key} {text : String}

theorem text?_of_found {v : Json.Value}
    (found : Members.get? (Glyph.ofString key.name) p = some v) (proper : v ≠ .null) :
    p.text? key = if v.isShowable then
      .ok (if (trim v.text.toList).isEmpty then none else some v.text) else
      .error (.value .oversized) := by
  unfold text?
  rw [found]
  cases v with
  | null => exact absurd rfl proper
  | bool | int | float | string | array | object => rfl

theorem isEmpty_trim (s : List Char) : (trim s).isEmpty = true ↔ ∀ c ∈ s, isBlank c = true :=
  List.isEmpty_iff.trans Text.trim_eq_nil_iff

/-- Of the three things that a property may say it says one. -/
theorem text?_cases (p : Properties) (key : Key) :
    (∃ text, p.Gives key text ∧ p.text? key = .ok (some text)) ∨
      (p.Silent key ∧ p.text? key = .ok none) ∨
      (p.Withholds key ∧ p.text? key = .error (.value .oversized)) := by
  cases found : Members.get? (Glyph.ofString key.name) p with
  | none =>
    refine .inr (.inl ⟨fun v same => ?_, by rw [text?, found]⟩)
    cases found.symm.trans same
  | some v =>
    by_cases null : v = .null
    · refine .inr (.inl ⟨fun w same => ?_, by rw [text?, found, null]⟩)
      cases found.symm.trans same
      exact .inl null
    · rw [text?_of_found found null]
      cases shown : v.isShowable with
      | false => exact .inr (.inr ⟨⟨v, found, Json.oversized_iff.mpr shown⟩, rfl⟩)
      | true =>
        have short := Json.not_oversized_iff.mpr shown
        by_cases blank : ∀ c ∈ v.text.toList, isBlank c = true
        · refine .inr (.inl ⟨fun w same => ?_, ?_⟩)
          · cases found.symm.trans same
            exact .inr ⟨short, blank⟩
          · rw [if_pos rfl, if_pos ((isEmpty_trim _).mpr blank)]
        · refine .inl ⟨v.text, ⟨v, found, null, short, rfl, ?_⟩, ?_⟩
          · simpa using blank
          · rw [if_pos rfl, if_neg (mt (isEmpty_trim _).mp blank)]

theorem Gives.unique {other : String} (given : p.Gives key text) (given' : p.Gives key other) :
    text = other := by
  obtain ⟨v, found, -, -, rfl, -⟩ := given
  obtain ⟨w, found', -, -, rfl, -⟩ := given'
  cases found.symm.trans found'
  rfl

theorem Gives.not_silent (given : p.Gives key text) : ¬ p.Silent key := by
  intro silent
  obtain ⟨v, found, proper, -, rfl, c, present, solid⟩ := given
  rcases silent v found with null | ⟨-, blank⟩
  · exact proper null
  · rw [blank c present] at solid
    cases solid

theorem Withholds.not_gives (withholds : p.Withholds key) : ¬ p.Gives key text := by
  rintro ⟨v, found, -, short, -, -⟩
  obtain ⟨w, found', oversized⟩ := withholds
  cases found.symm.trans found'
  exact short oversized

theorem Withholds.not_silent (withholds : p.Withholds key) : ¬ p.Silent key := by
  intro silent
  obtain ⟨v, found, oversized⟩ := withholds
  rcases silent v found with rfl | ⟨short, -⟩
  · cases oversized
  · exact short oversized

theorem text?_eq_some : p.text? key = .ok (some text) ↔ p.Gives key text := by
  rcases text?_cases p key with ⟨own, given, told⟩ | ⟨silent, told⟩ | ⟨withholds, told⟩
  all_goals rw [told]
  · refine ⟨fun same => ?_, fun given' => by rw [given.unique given']⟩
    cases same
    exact given
  · exact ⟨nofun, fun given => absurd silent given.not_silent⟩
  · exact ⟨nofun, fun given => absurd given withholds.not_gives⟩

theorem text?_eq_none : p.text? key = .ok none ↔ p.Silent key := by
  rcases text?_cases p key with ⟨own, given, told⟩ | ⟨silent, told⟩ | ⟨withholds, told⟩
  all_goals rw [told]
  · exact ⟨nofun, fun silent => absurd silent given.not_silent⟩
  · exact ⟨fun _ => silent, fun _ => rfl⟩
  · exact ⟨nofun, fun silent => absurd silent withholds.not_silent⟩

theorem text?_eq_error {fault : Fault} :
    p.text? key = .error fault ↔ p.Withholds key ∧ fault = .value .oversized := by
  rcases text?_cases p key with ⟨own, given, told⟩ | ⟨silent, told⟩ | ⟨withholds, told⟩
  all_goals rw [told]
  · exact ⟨nofun, fun both => absurd given both.1.not_gives⟩
  · exact ⟨nofun, fun both => absurd silent both.1.not_silent⟩
  · refine ⟨fun same => ?_, fun both => by rw [both.2]⟩
    cases same
    exact ⟨withholds, rfl⟩

theorem value_of_silent (silent : p.Silent key) :
    p.value key = .ok (({} : Settings).content key) := by
  rw [value, Properties.read, text?_eq_none.mpr silent]
  rfl

theorem value_of_given (given : p.Gives key text) : p.value key = key.parse text := by
  rw [value, Properties.read, text?_eq_some.mpr given]
  rfl

theorem value_of_withholds (withholds : p.Withholds key) :
    p.value key = .error (.value .oversized) := by
  rw [value, Properties.read, text?_eq_error.mpr ⟨withholds, rfl⟩]
  rfl

/-- A setting holds what is read for it. -/
theorem value_eq_ok {v : key.Content} : p.value key = .ok v ↔ p.Reads key v := by
  constructor
  · intro read
    rcases text?_cases p key with ⟨text, given, -⟩ | ⟨silent, -⟩ | ⟨withholds, -⟩
    · rw [value_of_given given] at read
      exact .given given read
    · rw [value_of_silent silent] at read
      cases read
      exact .silent silent
    · cases (value_of_withholds withholds).symm.trans read
  · intro reads
    cases reads with
    | silent silent => exact value_of_silent silent
    | given given read => exact (value_of_given given).trans read

theorem flag_refused {setting : String} {fault : Fault}
    (refused : Flag.read setting text = .error fault) :
    fault = .configuration (.text (.flag setting text)) := by
  rw [Flag.read] at refused
  split at refused
  · cases refused
  · split at refused
    · cases refused
    · cases refused
      rfl

theorem port_refused {fault : Fault} (refused : readDefaultPort text = .error fault) :
    fault = .configuration (.text (.port text)) := by
  rw [readDefaultPort] at refused
  split at refused
  · cases refused
  · cases refused
    rfl

theorem duration_refused {setting : String} {fault : Fault}
    (refused : Duration.read setting text = .error fault) :
    fault = .configuration (.text (.duration setting text)) := by
  rw [Duration.read] at refused
  split at refused
  · cases refused
  · cases refused
    rfl

/-- Only checked properties are refused, each with its own fault. -/
theorem parse_refused {fault : Fault} (refused : key.parse text = .error fault) :
    key ∈ checkedKeys ∧ fault = key.refusal text := by
  cases key with
  | port => exact ⟨by decide, port_refused refused⟩
  | timeout => exact ⟨by decide, duration_refused refused⟩
  | discovery =>
    have refused : (Flag.read Key.discovery.name text).map some = .error fault := refused
    exact ⟨by decide, flag_refused (map_eq_error.mp refused)⟩
  | dataOnly =>
    have refused : (Flag.read Key.dataOnly.name text).map some = .error fault := refused
    exact ⟨by decide, flag_refused (map_eq_error.mp refused)⟩
  | wanOnly | clientOnly | ingestOnly | jsonInput | allowRedReads | autoCreateIndex | tls =>
    exact ⟨by decide, flag_refused refused⟩
  | nodes | includedFields | excludedFields | sourceFilter | internalFields | operation | resource
  | resourceRead | resourceWrite | clusterName | documentId | recordedVersion | authUser
  | authPassword | writerClass | readerClass | bytesConverterClass | fieldExtractorClass =>
    cases refused

theorem refuses_iff :
    p.Refuses key text ↔ p.Gives key text ∧ key.parse text = .error (key.refusal text) := by
  rw [Refuses]
  cases read : key.parse text with
  | ok v => simp
  | error fault =>
    rw [(parse_refused read).2]
    simp

/-- A setting cannot be read if the reading stops at its property. -/
theorem value_eq_error {fault : Fault} : p.value key = .error fault ↔ p.Stops key fault := by
  constructor
  · intro failed
    rcases text?_cases p key with ⟨text, given, -⟩ | ⟨silent, -⟩ | ⟨withholds, -⟩
    · rw [value_of_given given] at failed
      obtain ⟨-, rfl⟩ := parse_refused failed
      exact .refused (refuses_iff.mpr ⟨given, failed⟩)
    · cases (value_of_silent silent).symm.trans failed
    · cases (value_of_withholds withholds).symm.trans failed
      exact .withheld withholds
  · intro stops
    cases stops with
    | refused refuses =>
      obtain ⟨given, refused⟩ := refuses_iff.mp refuses
      exact (value_of_given given).trans refused
    | withheld withholds => exact value_of_withholds withholds

theorem check_eq_error {fault : Fault} : p.check key = .error fault ↔ p.Stops key fault := by
  rw [check, map_eq_error, value_eq_error]

theorem contents_of_ok {v : key.Content} (read : p.value key = .ok v) : p.contents key = v := by
  rw [contents, read]
  rfl

/-- One property is read before the others, which find what it holds. -/
theorem read_first {next : key.Content → Except Fault Settings} {rest : List Key} {s : Settings}
    (later : next (p.contents key) = (rest.mapM p.check).map fun _ => s) :
    (p.value key >>= next) = ((key :: rest).mapM p.check).map fun _ => s := by
  rw [List.mapM_cons, check]
  cases read : p.value key with
  | error fault => rfl
  | ok v =>
    rw [← contents_of_ok read]
    refine later.trans ?_
    simp only [Except.map, bind, Except.bind]
    cases rest.mapM p.check <;> rfl

/-- The properties are read in their order, and the settings are made of what was read. -/
theorem ofProperties_eq (p : Properties) :
    ofProperties p = (readingOrder.mapM p.check).map fun _ => collect p.contents := by
  -- One step for each of the properties, in the order of the list.
  iterate 29 refine read_first ?_
  rfl

/-- They hold what is read for each of them. -/
theorem ofProperties_eq_ok {s : Settings} :
    ofProperties p = .ok s ↔ ∀ key, p.value key = .ok (s.content key) := by
  have made : ofProperties p = .ok s ↔
      (∃ us, readingOrder.mapM p.check = .ok us) ∧ s = collect p.contents := by
    rw [ofProperties_eq]
    cases readingOrder.mapM p.check with
    | error fault => simp [Except.map]
    | ok us => simp [Except.map, eq_comm]
  rw [made, exists_mapM_ok]
  constructor
  · rintro ⟨checked, rfl⟩ key
    rw [content_collect]
    cases read : p.value key with
    | ok v => rw [contents_of_ok read]
    | error fault =>
      obtain ⟨u, fine⟩ := checked key (mem_readingOrder key)
      rw [check, read] at fine
      cases fine
  · intro read
    refine ⟨fun key _ => ⟨(), ?_⟩, eq_collect fun key => (contents_of_ok (read key)).symm⟩
    rw [check, read key]
    rfl

/-! ## Values that can be shown -/

/-- All values that are read can be shown. -/
def Showable (p : Properties) : Prop :=
  ∀ key, ¬ p.Withholds key

theorem mem_of_get? {members : Members} {name : List Glyph} {v : Json.Value}
    (found : Members.get? name members = some v) : (name, v) ∈ members := by
  induction members with
  | nil => cases found
  | cons member rest ih =>
    rw [Members.get?] at found
    split at found
    · next same =>
      cases found
      rw [← same]
      exact List.mem_cons_self
    · exact List.mem_cons_of_mem _ (ih found)

theorem showable_of_members (shown : ∀ member ∈ p, member.2.isShowable = true) :
    p.Showable := by
  rintro key ⟨v, found, oversized⟩
  exact oversized.not_showable (shown _ (mem_of_get? found))

/-- Where all values are texts or null, they can be shown. -/
theorem showable_of_texts (texts : ∀ member ∈ p, member.2 = .null ∨ ∃ s, member.2 = .string s) :
    p.Showable := by
  refine showable_of_members fun member present => ?_
  rcases texts member present with null | ⟨s, text⟩
  · rw [null]
    rfl
  · rw [text]
    rfl

/-- Where the properties are those of a document, their values can be shown. -/
theorem showable_of_read {s : List Glyph} (found : Json.read s = some (.object p)) :
    p.Showable :=
  showable_of_members (Json.haveShowable_iff.mp (Json.isShowable_of_read found))

end Properties

end Settings

end Clearance
