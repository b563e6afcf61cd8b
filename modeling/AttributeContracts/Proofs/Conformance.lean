/-
# Documents against the schema

The rules of a configuration: each setting has one for its member. The charges against a document
follow from the rules alone: that the document is no object, or else one charge for each unknown
member and then, setting by setting, what the rule says of the member.

Reading a document does not consult the rules. It asks a validator about the schema, reports the
issues that are left, and otherwise merges the document over the standard settings without looking
at the parts. With any validator that implements the keywords and collects all issues, it accepts
exactly the documents that keep to the rules, it reports all charges against the others, and it
takes what a document says as it stands. What was read amounts to a configuration, and is read
again, unchanged, from its own document.
-/

import AttributeContracts.Config.Schema
import AttributeContracts.Config.Validator.Collecting
import AttributeContracts.Proofs.Members

namespace AttributeContracts

/-! ## The names of the modes and of the log levels -/

namespace AccessMode

theorem ofText?_text (mode : AccessMode) : ofText? mode.text = some mode := by
  cases mode <;> rfl

/-- The modes are spelled by these names. -/
theorem exists_text_iff {name : String} :
    (∃ mode : AccessMode, name = mode.text) ↔ name ∈ ["unrestricted", "restricted"] := by
  constructor
  · rintro ⟨mode, rfl⟩
    cases mode <;> simp [text]
  · intro listed
    simp only [List.mem_cons, List.not_mem_nil, or_false] at listed
    rcases listed with rfl | rfl
    · exact ⟨.unrestricted, rfl⟩
    · exact ⟨.restricted, rfl⟩

end AccessMode

namespace LogLevel

/-- A name is read as the level that is spelled so. -/
theorem ofText?_eq_some_iff {name : String} {level : LogLevel} :
    ofText? name = some level ↔ name = level.text := by
  constructor
  · intro found
    have spelled := List.find?_some found
    exact (of_decide_eq_true spelled).symm
  · rintro rfl
    cases level with
    | atLeast severity => cases severity <;> rfl
    | silent => rfl

/-- The levels are spelled by these names. -/
theorem exists_text_iff {name : String} :
    (∃ level : LogLevel, name = level.text) ↔
      name ∈ ["debug", "info", "warn", "error", "silent"] := by
  constructor
  · rintro ⟨level, rfl⟩
    cases level with
    | atLeast severity => cases severity <;> simp [text, Severity.text]
    | silent => simp [text]
  · intro listed
    simp only [List.mem_cons, List.not_mem_nil, or_false] at listed
    rcases listed with rfl | rfl | rfl | rfl | rfl
    · exact ⟨.atLeast .debug, rfl⟩
    · exact ⟨.atLeast .info, rfl⟩
    · exact ⟨.atLeast .warn, rfl⟩
    · exact ⟨.atLeast .error, rfl⟩
    · exact ⟨.silent, rfl⟩

end LogLevel

namespace Settings

/-! ## The rules -/

/-- What the member of a setting may be. -/
inductive Rule where
  /-- A list of texts, none of them empty. -/
  | texts
  | flag
  | choice (allowed : List String)

/-- The settings with their rules, in their fixed order. -/
def rules : List (String × Rule) :=
  [("builtinNamespaces", .texts),
    ("cacheBuiltins", .flag),
    ("accessMode", .choice ["unrestricted", "restricted"]),
    ("logLevel", .choice ["debug", "info", "warn", "error", "silent"])]

namespace Rule

/-- The members that a rule admits. No rule insists on a member. -/
inductive Admits : Rule → Document → Prop
  | absent {rule : Rule} : Admits rule .absent
  | texts {names : List String} (nonempty : "" ∉ names) :
      Admits .texts (.list (names.map .text))
  | flag {b : Bool} : Admits .flag (.bool b)
  | choice {allowed : List String} {text : String} (listed : text ∈ allowed) :
      Admits (.choice allowed) (.text text)

/-- The charge against an element of a list of texts. -/
def elementCharges (place : String) : Document → List Charge
  | .text text => if text = "" then [⟨place, "minLength"⟩] else []
  | _ => [⟨place, "type"⟩]

/-- The charges against a member at a path. A list is charged for each of its elements. -/
def charges (path : String) : Rule → Document → List Charge
  | _, .absent => []
  | .texts, .list items =>
      items.zipIdx.flatMap fun item => elementCharges (path ++ "/" ++ toString item.2) item.1
  | .texts, _ => [⟨path, "type"⟩]
  | .flag, .bool _ => []
  | .flag, _ => [⟨path, "type"⟩]
  | .choice allowed, .text text => if text ∈ allowed then [] else [⟨path, "enum"⟩]
  | .choice _, _ => [⟨path, "enum"⟩]

end Rule

/-- The charges against a document, in the order in which they are reported. -/
def charges : Document → List Charge
  | .object members =>
      let unknown := (Members.names members).filter fun name => name ∉ rules.map Prod.fst
      unknown.map (fun _ => ⟨"/", "additionalProperties"⟩) ++
        rules.flatMap fun setting =>
          setting.2.charges ("/" ++ setting.1) (Document.member members setting.1)
  | _ => [⟨"/", "type"⟩]

/-- The members of a document keep to the rules. A member that is listed as absent must still have
the name of a setting. -/
structure KeepsToSchema (members : Members Document) : Prop where
  known : ∀ member ∈ members, member.1 ∈ rules.map Prod.fst
  admitted : ∀ setting ∈ rules, setting.2.Admits (Document.member members setting.1)

/-- A setting is what its member says, or the standard one where the member is absent. -/
def Gives (standard member setting : Document) : Prop :=
  (member = .absent ∧ setting = standard) ∨ (member ≠ .absent ∧ setting = member)

/-- Settings take each member as it stands, and are the standard ones elsewhere. -/
structure Takes (settings : Settings) (members : Members Document) : Prop where
  builtinNamespaces : Gives (.list [.text builtinNamespace])
    (Document.member members "builtinNamespaces") settings.builtinNamespaces
  cacheBuiltins : Gives (.bool true)
    (Document.member members "cacheBuiltins") settings.cacheBuiltins
  accessMode : Gives (.text "unrestricted")
    (Document.member members "accessMode") settings.accessMode
  logLevel : Gives (.text "info")
    (Document.member members "logLevel") settings.logLevel

/-! ## Charges and admission -/

namespace Rule

theorem elementCharges_eq_nil_iff {place : String} {item : Document} :
    elementCharges place item = [] ↔ ∃ name, name ≠ "" ∧ item = .text name := by
  cases item with
  | text s => by_cases blank : s = "" <;> simp [elementCharges, blank]
  | _ => simp [elementCharges]

private theorem forall_mem_zipIdx_iff (p : Document → Prop) {items : List Document} :
    (∀ item ∈ items.zipIdx, p item.1) ↔ ∀ item ∈ items, p item := by
  conv => rhs; rw [← List.zipIdx_map_fst 0 items]
  exact List.forall_mem_map.symm

/-- A list of texts that are not empty, element by element and as a whole. -/
private theorem forall_texts_iff {items : List Document} :
    (∀ item ∈ items, ∃ name, name ≠ "" ∧ item = .text name) ↔
      ∃ names : List String, "" ∉ names ∧ items = names.map .text := by
  constructor
  · intro texts
    induction items with
    | nil => exact ⟨[], by simp, rfl⟩
    | cons item rest ih =>
        rw [List.forall_mem_cons] at texts
        rcases texts with ⟨⟨name, nonempty, rfl⟩, others⟩
        rcases ih others with ⟨names, nonemptyRest, rfl⟩
        exact ⟨name :: names, by simp [Ne.symm nonempty, nonemptyRest], rfl⟩
  · rintro ⟨names, nonempty, rfl⟩ item listed
    rcases List.mem_map.1 listed with ⟨name, member, rfl⟩
    refine ⟨name, ?_, rfl⟩
    rintro rfl
    exact nonempty member

/-- A rule charges exactly the members that it does not admit. -/
theorem charges_eq_nil_iff {path : String} {rule : Rule} {member : Document} :
    rule.charges path member = [] ↔ rule.Admits member := by
  cases rule with
  | texts =>
      cases member with
      | absent => exact iff_of_true rfl .absent
      | list items =>
          simp only [charges, List.flatMap_eq_nil_iff, elementCharges_eq_nil_iff]
          rw [forall_mem_zipIdx_iff (fun item => ∃ name, name ≠ "" ∧ item = .text name),
            forall_texts_iff]
          constructor
          · rintro ⟨names, nonempty, rfl⟩
            exact .texts nonempty
          · intro admitted
            cases admitted with
            | texts nonempty => exact ⟨_, nonempty, rfl⟩
      | _ => exact iff_of_false (by simp [charges]) nofun
  | flag =>
      cases member with
      | absent => exact iff_of_true rfl .absent
      | bool b => exact iff_of_true rfl .flag
      | _ => exact iff_of_false (by simp [charges]) nofun
  | choice allowed =>
      cases member with
      | absent => exact iff_of_true rfl .absent
      | text text =>
          by_cases listed : text ∈ allowed
          · exact iff_of_true (by simp [charges, listed]) (.choice listed)
          · refine iff_of_false (by simp [charges, listed]) fun admitted => ?_
            cases admitted
            contradiction
      | _ => exact iff_of_false (by simp [charges]) nofun

end Rule

/-- An object is without charges exactly when it keeps to the rules. -/
theorem charges_object_eq_nil_iff {members : Members Document} :
    charges (.object members) = [] ↔ KeepsToSchema members := by
  have known : (∀ name ∈ Members.names members, name ∈ rules.map Prod.fst) ↔
      ∀ member ∈ members, member.1 ∈ rules.map Prod.fst := by
    simp only [Members.mem_names, Members.declares_iff, List.forall_mem_map]
  rw [charges, List.append_eq_nil_iff, List.map_eq_nil_iff, List.filter_eq_nil_iff,
    List.flatMap_eq_nil_iff]
  simp only [decide_eq_true_eq, Decidable.not_not, known, Rule.charges_eq_nil_iff]
  exact ⟨fun kept => ⟨kept.1, kept.2⟩, fun kept => ⟨kept.known, kept.admitted⟩⟩

/-- What keeps to the rules is without charges, and nothing else is. -/
theorem charges_eq_nil_iff {document : Document} :
    charges document = [] ↔ ∃ members, document = .object members ∧ KeepsToSchema members := by
  cases document with
  | object members =>
      rw [charges_object_eq_nil_iff]
      constructor
      · exact fun kept => ⟨members, rfl, kept⟩
      · rintro ⟨_, ⟨⟩, kept⟩
        exact kept
  | _ => exact iff_of_false nofun nofun

/-! ## What a validator finds -/

/-- A charge as it is reported: the whole document is named by a slash. -/
def reportedCharge (charge : Charge) : Charge :=
  ⟨if charge.path = "" then "/" else charge.path, charge.keyword⟩

/-- What an issue reports. -/
def issueCharge (issue : ConfigIssue) : Charge := ⟨issue.path, issue.keyword⟩

/-- Only the path of the whole document is reported differently. -/
private theorem reportedCharge_below {segment : String} (named : segment ≠ "") (charge : Charge) :
    reportedCharge (charge.below segment) = charge.below segment := by
  have somewhere : segment ++ charge.path ≠ "" :=
    fun nowhere => named (String.append_eq_empty_iff.1 nowhere).1
  rw [reportedCharge, Charge.below, if_neg somewhere]

/-- The schema that a rule is written as. -/
def Rule.schema : Rule → Schema
  | .texts => .array (.string 1)
  | .flag => .boolean
  | .choice allowed => .enum allowed

/-- The schema of configurations has the rules for its properties. -/
theorem schema_eq_rules :
    MetadataConfig.schema = .object (rules.map fun setting => (setting.1, setting.2.schema)) := rfl

/-- No name of a setting has to be escaped in a pointer. -/
private theorem segment_of_mem_rules :
    ∀ setting ∈ rules,
      Schema.segment setting.1 = "/" ++ setting.1 ∧ Schema.segment setting.1 ≠ "" := by
  decide

section Collects

variable {validator : Validator} (collects : validator.Collects)
include collects

private theorem charges_element (place : String) (item : Document) :
    (validator.charges (.string 1) item).map (Charge.below place) =
      Rule.elementCharges place item := by
  rw [collects.string]
  cases item with
  | text s =>
      have blank : s.length < 1 ↔ s = "" := by
        rw [Nat.lt_one_iff, String.length_eq_zero_iff]
      by_cases empty : s = "" <;>
        simp [Rule.elementCharges, Charge.below, blank, empty]
  | _ => simp [Rule.elementCharges, Charge.below]

/-- A validator charges a member, at its place, as the rule does. -/
private theorem charges_rule (path : String) (rule : Rule) (member : Document) :
    (validator.propertyCharges rule.schema member).map (Charge.below path) =
      rule.charges path member := by
  cases rule with
  | texts =>
      cases member with
      | absent => rfl
      | list items =>
          simp only [Validator.propertyCharges, Rule.schema, collects.array]
          have place (index : Nat) : Charge.below path ∘ Charge.below (Schema.position index) =
              Charge.below (path ++ "/" ++ toString index) := by
            funext charge
            simp [Charge.below, Schema.position, String.append_assoc]
          simp only [List.map_flatMap, List.map_map, place]
          simp only [charges_element collects, Rule.charges]
      | _ =>
          simp [Validator.propertyCharges, Rule.schema, collects.array, Rule.charges, Charge.below]
  | flag =>
      cases member with
      | absent => rfl
      | _ =>
          simp [Validator.propertyCharges, Rule.schema, collects.boolean, Rule.charges,
            Charge.below]
  | choice allowed =>
      cases member with
      | absent => rfl
      | text s =>
          by_cases listed : s ∈ allowed <;>
            simp [Validator.propertyCharges, Rule.schema, collects.enum, Rule.charges,
              Charge.below, listed]
      | _ =>
          simp [Validator.propertyCharges, Rule.schema, collects.enum, Rule.charges, Charge.below]

/-- What a validator finds is, as it is reported, what the document is charged with. -/
theorem map_reportedCharge_charges (document : Document) :
    (validator.charges MetadataConfig.schema document).map reportedCharge = charges document := by
  rw [schema_eq_rules, collects.object]
  cases document with
  | object members =>
      rw [List.map_append, charges]
      congr 1
      · have names : (rules.map fun setting => (setting.1, setting.2.schema)).map Prod.fst =
            rules.map Prod.fst := rfl
        rw [Schema.additional, names]
        simp [reportedCharge]
      · rw [List.flatMap_map, List.map_flatMap, List.flatMap_def, List.flatMap_def]
        refine congrArg List.flatten (List.map_congr_left fun setting listed => ?_)
        rcases segment_of_mem_rules setting listed with ⟨spelled, named⟩
        rw [← spelled, ← charges_rule collects, List.map_map]
        exact List.map_congr_left fun charge _ => reportedCharge_below named charge
  | _ => rfl

/-- The issues that are reported are the charges against the document. -/
theorem map_issueCharge_documentIssues (document : Document) :
    (documentIssues validator document).map issueCharge = charges document := by
  rw [← map_reportedCharge_charges collects, documentIssues]
  split
  case isTrue valid =>
    rw [(collects.valid_iff _ _).1 valid]
    rfl
  case isFalse =>
    rw [Validator.charges, List.map_map, List.map_map]
    rfl

/-- Nothing is reported exactly if there is nothing to charge the document with. -/
theorem documentIssues_eq_nil_iff (document : Document) :
    documentIssues validator document = [] ↔ charges document = [] := by
  rw [← map_issueCharge_documentIssues collects, List.map_eq_nil_iff]

end Collects

/-! ## What is taken from a member -/

theorem Rule.Admits.ne_null {rule : Rule} {member : Document} (admitted : rule.Admits member) :
    member ≠ .null := by
  rintro rfl
  cases admitted

/-- Where no member is null, merging gives a setting its member, or the standard one. -/
theorem gives_iff {standard member setting : Document} (notNull : member ≠ .null) :
    Gives standard member setting ↔ setting = member.coalesce standard := by
  cases member with
  | null => exact absurd rfl notNull
  | _ => simp [Gives, Document.coalesce, Document.isNullish]

section Coalesce

variable {member : Document}

private theorem exists_names (admitted : Rule.texts.Admits member) :
    ∃ names : List String,
      member.coalesce (.list [.text builtinNamespace]) = .list (names.map .text) ∧ "" ∉ names := by
  cases admitted with
  | absent => exact ⟨[builtinNamespace], rfl, by decide⟩
  | texts nonempty => exact ⟨_, rfl, nonempty⟩

private theorem exists_flag (admitted : Rule.flag.Admits member) :
    ∃ b, member.coalesce (.bool true) = .bool b := by
  cases admitted with
  | absent => exact ⟨true, rfl⟩
  | flag => exact ⟨_, rfl⟩

private theorem exists_mode
    (admitted : (Rule.choice ["unrestricted", "restricted"]).Admits member) :
    ∃ mode : AccessMode, member.coalesce (.text "unrestricted") = .text mode.text := by
  cases admitted with
  | absent => exact ⟨.unrestricted, rfl⟩
  | choice listed =>
      rcases AccessMode.exists_text_iff.2 listed with ⟨mode, rfl⟩
      exact ⟨mode, rfl⟩

private theorem exists_level
    (admitted : (Rule.choice ["debug", "info", "warn", "error", "silent"]).Admits member) :
    ∃ level : LogLevel, member.coalesce (.text "info") = .text level.text := by
  cases admitted with
  | absent => exact ⟨.standard, rfl⟩
  | choice listed =>
      rcases LogLevel.exists_text_iff.2 listed with ⟨level, rfl⟩
      exact ⟨level, rfl⟩

end Coalesce

section Kept

variable {members : Members Document} (kept : KeepsToSchema members)
include kept

/-- Each setting by itself. -/
private theorem admitted_each :
    Rule.texts.Admits (Document.member members "builtinNamespaces") ∧
      Rule.flag.Admits (Document.member members "cacheBuiltins") ∧
      (Rule.choice ["unrestricted", "restricted"]).Admits
        (Document.member members "accessMode") ∧
      (Rule.choice ["debug", "info", "warn", "error", "silent"]).Admits
        (Document.member members "logLevel") := by
  have admitted := kept.admitted
  simp only [rules, List.forall_mem_cons] at admitted
  rcases admitted with ⟨namespaces, caching, mode, level, _⟩
  exact ⟨namespaces, caching, mode, level⟩

/-- Where the rules are kept, the settings are merged as the members give them. -/
theorem takes_iff {settings : Settings} :
    settings.Takes members ↔ settings = merge (.object members) := by
  rcases admitted_each kept with ⟨namespaces, caching, mode, level⟩
  cases settings
  simp only [merge, Settings.mk.injEq]
  constructor
  · intro takes
    exact ⟨(gives_iff namespaces.ne_null).1 takes.builtinNamespaces,
      (gives_iff caching.ne_null).1 takes.cacheBuiltins,
      (gives_iff mode.ne_null).1 takes.accessMode, (gives_iff level.ne_null).1 takes.logLevel⟩
  · rintro ⟨sameNamespaces, sameCaching, sameMode, sameLevel⟩
    exact ⟨(gives_iff namespaces.ne_null).2 sameNamespaces,
      (gives_iff caching.ne_null).2 sameCaching,
      (gives_iff mode.ne_null).2 sameMode, (gives_iff level.ne_null).2 sameLevel⟩

/-- What is merged then amounts to a configuration, in which no namespace is empty. -/
theorem exists_config_of_keepsToSchema :
    ∃ config : MetadataConfig,
      merge (.object members) = config.settings ∧ "" ∉ config.builtinNamespaces := by
  rcases admitted_each kept with ⟨namespaces, caching, mode, level⟩
  rcases exists_names namespaces with ⟨names, sameNames, nonempty⟩
  rcases exists_flag caching with ⟨b, sameFlag⟩
  rcases exists_mode mode with ⟨mode, sameMode⟩
  rcases exists_level level with ⟨level, sameLevel⟩
  refine ⟨⟨names, b, mode, level⟩, ?_, nonempty⟩
  exact Settings.mk.injEq .. ▸ ⟨sameNames, sameFlag, sameMode, sameLevel⟩

end Kept

/-! ## Reading a document -/

section Reading

variable {validator : Validator} (collects : validator.Collects)
  {document : Document} {settings : Settings}
include collects

/-- A document that says something is accepted when it keeps to the rules, and then it is taken
as it stands. -/
theorem ofDocument_eq_ok_iff (said : document.isNullish = false) :
    ofDocument validator document = .ok settings ↔
      ∃ members, document = .object members ∧ KeepsToSchema members ∧ settings.Takes members := by
  constructor
  · intro read
    simp only [ofDocument, said, Bool.false_eq_true, if_false] at read
    split at read
    case isTrue => cases read
    case isFalse clear =>
      simp only [Bool.or_eq_true, decide_eq_true_eq, not_or, Decidable.not_not] at clear
      have silent := (documentIssues_eq_nil_iff collects document).1 clear.1
      rcases charges_eq_nil_iff.1 silent with ⟨members, rfl, kept⟩
      exact ⟨members, rfl, kept, (takes_iff kept).2 (Except.ok.inj read).symm⟩
  · rintro ⟨members, rfl, kept, takes⟩
    have silent := (documentIssues_eq_nil_iff collects _).2 (charges_object_eq_nil_iff.2 kept)
    simp [ofDocument, Document.isNullish, Document.isObject, silent, (takes_iff kept).1 takes]

/-- A document that says something is refused for all that is found, if there are any charges. -/
theorem ofDocument_eq_error_iff (said : document.isNullish = false) {failure : Failure} :
    ofDocument validator document = .error failure ↔
      failure = .invalidConfig (documentIssues validator document) ∧ charges document ≠ [] := by
  have silent := documentIssues_eq_nil_iff collects document
  simp only [ofDocument, said, Bool.false_eq_true, if_false]
  split
  case isTrue refused =>
    have charged : charges document ≠ [] := by
      intro clear
      rcases charges_eq_nil_iff.1 clear with ⟨members, rfl, kept⟩
      simp [silent.2 clear, Document.isObject] at refused
    rw [Except.error.injEq, and_iff_left charged, eq_comm]
  case isFalse clear =>
    simp only [Bool.or_eq_true, decide_eq_true_eq, not_or, Decidable.not_not] at clear
    exact iff_of_false nofun fun refused => refused.2 (silent.1 clear.1)

/-- The settings of a configuration without empty namespaces are read from their own document. -/
theorem ofDocument_document {config : MetadataConfig} (nonempty : "" ∉ config.builtinNamespaces) :
    ofDocument validator config.settings.document = .ok config.settings := by
  refine (ofDocument_eq_ok_iff collects rfl).2 ⟨_, rfl, ⟨?known, ?admitted⟩, ?takes⟩
  case known => simp [rules]
  case admitted =>
    have mode := AccessMode.exists_text_iff.1 ⟨config.accessMode, rfl⟩
    have level := LogLevel.exists_text_iff.1 ⟨config.logLevel, rfl⟩
    simp only [rules, List.forall_mem_cons]
    exact ⟨.texts nonempty, .flag, .choice mode, .choice level, nofun⟩
  case takes => exact ⟨.inr ⟨nofun, rfl⟩, .inr ⟨nofun, rfl⟩, .inr ⟨nofun, rfl⟩, .inr ⟨nofun, rfl⟩⟩

end Reading

/-- The settings of a configuration amount to it. -/
theorem config?_settings (config : MetadataConfig) : config.settings.config? = some config := by
  have names : (Document.list (config.builtinNamespaces.map .text)).texts? =
      some config.builtinNamespaces := by
    rw [Document.texts?]
    induction config.builtinNamespaces with
    | nil => rfl
    | cons name rest ih => rw [List.map_cons, List.mapM_cons, Document.text?, ih]; rfl
  have mode := AccessMode.ofText?_text config.accessMode
  have level := LogLevel.ofText?_eq_some_iff.2 (rfl : config.logLevel.text = _)
  simp [config?, MetadataConfig.settings, names, Document.bool?, Document.text?, mode, level]

/-- Reading a document is exact, with any validator that implements the keywords and collects all
issues. An absent or null document says nothing. Any other one is accepted exactly if it is an
object that keeps to the rules, and each setting is then what its member says, or its standard. It
is refused exactly if there are charges against it, and what is reported are these charges. What
was read amounts to a configuration, and is read again, unchanged, from its own document. -/
theorem ofDocument_exact {validator : Validator} (collects : validator.Collects)
    (document : Document) :
    (document = .absent ∨ document = .null →
      ofDocument validator document = .ok MetadataConfig.standard.settings) ∧
    (document ≠ .absent → document ≠ .null →
      ((∃ settings, ofDocument validator document = .ok settings) ↔
        ∃ members, document = .object members ∧ KeepsToSchema members) ∧
      (∀ settings, ofDocument validator document = .ok settings ↔
        ∃ members, document = .object members ∧ KeepsToSchema members ∧
          settings.Takes members) ∧
      (∀ failure, ofDocument validator document = .error failure ↔
        failure = .invalidConfig (documentIssues validator document) ∧ charges document ≠ []) ∧
      (documentIssues validator document).map issueCharge = charges document) ∧
    ∀ settings, ofDocument validator document = .ok settings →
      (∃ config, settings.config? = some config ∧ settings = config.settings) ∧
      ofDocument validator settings.document = .ok settings := by
  have accepted (said : document.isNullish = false) (settings : Settings) :
      ofDocument validator document = .ok settings ↔
        ∃ members, document = .object members ∧ KeepsToSchema members ∧
          settings.Takes members := ofDocument_eq_ok_iff collects said
  refine ⟨?silent, ?said, ?again⟩
  case silent => rintro (rfl | rfl) <;> rfl
  case said =>
    intro present notNull
    have said : document.isNullish = false := by cases document <;> simp_all [Document.isNullish]
    refine ⟨⟨?_, ?_⟩, accepted said, fun failure => ofDocument_eq_error_iff collects said,
      map_issueCharge_documentIssues collects document⟩
    · rintro ⟨settings, read⟩
      rcases (accepted said settings).1 read with ⟨members, object, kept, _⟩
      exact ⟨members, object, kept⟩
    · rintro ⟨members, object, kept⟩
      exact ⟨_, (accepted said _).2 ⟨members, object, kept, (takes_iff kept).2 rfl⟩⟩
  case again =>
    intro settings read
    have typed : ∃ config : MetadataConfig,
        settings = config.settings ∧ "" ∉ config.builtinNamespaces := by
      by_cases said : document.isNullish = false
      · rcases (accepted said settings).1 read with ⟨members, rfl, kept, takes⟩
        rw [(takes_iff kept).1 takes]
        exact exists_config_of_keepsToSchema kept
      · have silent : document.isNullish = true := by simpa using said
        rw [ofDocument, if_pos silent] at read
        exact ⟨.standard, (Except.ok.inj read).symm, by decide⟩
    rcases typed with ⟨config, rfl, nonempty⟩
    exact ⟨⟨config, config?_settings config, rfl⟩, ofDocument_document collects nonempty⟩

/-- A document that says one thing, and lists another one as absent. -/
def terse : Document :=
  .object [("cacheBuiltins", .absent), ("accessMode", .text "restricted")]

/-- A document that is wrong in all its members. -/
def wayward : Document :=
  .object
    [("logLevel", .text "verbose"), ("cache", .absent),
      ("builtinNamespaces", .list [.text "", .text "a.", .null]), ("accessMode", .null)]

/-- The terse document is accepted and read again, and the wayward one is refused. -/
theorem ofDocument_exact_wayward :
    Validator.collecting.Collects ∧
    ofDocument .collecting .null = .ok MetadataConfig.standard.settings ∧
    (∃ config : MetadataConfig,
      config = { MetadataConfig.standard with accessMode := .restricted } ∧
      ofDocument .collecting terse = .ok config.settings ∧
      ofDocument .collecting config.settings.document = .ok config.settings) ∧
    ofDocument .collecting wayward = .error (.invalidConfig
      [⟨"/", "must NOT have additional properties", "additionalProperties"⟩,
        ⟨"/builtinNamespaces/0", "must NOT have fewer than 1 characters", "minLength"⟩,
        ⟨"/builtinNamespaces/2", "must be string", "type"⟩,
        ⟨"/accessMode", "must be equal to one of the allowed values", "enum"⟩,
        ⟨"/logLevel", "must be equal to one of the allowed values", "enum"⟩]) := by
  have collects := Validator.collects_collecting
  have silent := (ofDocument_exact collects .null).1 (.inr rfl)
  have again := (ofDocument_exact collects terse).2.2 _ rfl
  have refused := ((ofDocument_exact collects wayward).2.1 nofun nofun).2.2.1
  refine ⟨collects, silent, ⟨_, rfl, rfl, again.2⟩, (refused _).2 ⟨?_, by decide⟩⟩
  exact congrArg Failure.invalidConfig (by decide)

end Settings

end AttributeContracts
