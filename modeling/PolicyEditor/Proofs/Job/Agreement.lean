import PolicyEditor.Proofs.FileTree.Joining
import PolicyEditor.Proofs.Job.Additions
import PolicyEditor.Proofs.Repository.Lookups
import PolicyEditor.Proofs.Repository.Rules

/-!
# Older and newer methods

Six of the older methods do what a newer method does with other parameters.  Jobs of the two yield
the same result and leave the same repository, whatever the parameters and the repository are.  The
texts of several protocols may be joined by commas for this, as a single text is split at its
commas.

A list of protocols is another matter: the older method splits each of its texts, the newer one
takes each as one value.  So the two rules are the same exactly if no text has a comma.

## Main definitions

* `Job.OlderCall` : a call of an older method, as a job of this method and as one of a newer method.
* `Job.Side` : the side of a rule on which the users stand.

## Main results

* `splitValues_intercalate` : the values of texts that are joined by commas are those of the texts.
* `Job.apply_older_eq_newer` : both jobs of a call do the same.
* `Job.rules_of_protocolList` : the rules that the two methods make of a list of protocols.
-/

namespace PolicyEditor

/-! ### Values of texts -/

namespace Text

theorem collapse_blank (cs : List Char) : collapse (' ' :: cs) = collapse cs := by
  have hblank : isWhite ' ' = true := isWhite_of_isBlank rfl
  simp only [collapse, words, hblank, if_true]

/-- The words of a text hold its characters but the white space. -/
theorem flatten_words (cs : List Char) : (words cs).flatten = cs.filter (!isWhite ·) := by
  induction cs with
  | nil => rfl
  | cons c cs ih =>
    by_cases hc : isWhite c = true
    · simpa [words, hc] using ih
    · rw [words.eq_def]
      simp only [if_neg hc]
      split
      · next hwords =>
        rw [hwords] at ih
        split_ifs <;> simp [hc, ← ih]
      · simp [hc, ← ih]

theorem filter_intercalate_blank (ws : List (List Char)) :
    ([' '].intercalate ws).filter (!isWhite ·) = ws.flatten.filter (!isWhite ·) := by
  have hblank : isWhite ' ' = true := isWhite_of_isBlank rfl
  induction ws with
  | nil => rfl
  | cons w ws ih =>
    rcases ws with - | ⟨w', ws⟩
    · simp
    · have hcons : [' '].intercalate (w :: w' :: ws) =
          w ++ ' ' :: [' '].intercalate (w' :: ws) := by
        simp [List.intercalate]
      rw [hcons, List.flatten_cons, List.filter_append, List.filter_append, ← ih]
      simp [hblank]

theorem mem_collapse {c : Char} (hc : isWhite c = false) {cs : List Char} :
    c ∈ collapse cs ↔ c ∈ cs := by
  have hfilter : (collapse cs).filter (!isWhite ·) = cs.filter (!isWhite ·) := by
    rw [collapse, filter_intercalate_blank, flatten_words, List.filter_filter]
    simp
  have hmem := congrArg (c ∈ ·) hfilter
  simpa [hc] using hmem

theorem not_mem_of_mem_fields {sep : Char} {cs field : List Char} (h : field ∈ fields sep cs) :
    sep ∉ field := by
  induction cs generalizing field with
  | nil =>
    obtain rfl := List.mem_singleton.1 h
    exact List.not_mem_nil
  | cons c cs ih =>
    obtain ⟨f, fs, hrest⟩ := List.exists_cons_of_ne_nil (fields_ne_nil sep cs)
    simp only [fields, hrest] at h ih
    split_ifs at h with hc
    · rcases List.mem_cons.1 h with rfl | hmem
      · exact List.not_mem_nil
      · exact ih hmem
    · rcases List.mem_cons.1 h with rfl | hmem
      · exact List.not_mem_cons_of_ne_of_not_mem (Ne.symm hc) (ih List.mem_cons_self)
      · exact ih (List.mem_cons_of_mem f hmem)

end Text

theorem splitValues_comma (front back : String) :
    splitValues (front ++ ", " ++ back) = splitValues front ++ splitValues back := by
  have htext : (front ++ ", " ++ back).toList = front.toList ++ ',' :: ' ' :: back.toList := by
    simp
  obtain ⟨first, rest, hback⟩ := List.exists_cons_of_ne_nil (Text.fields_ne_nil ',' back.toList)
  have hblank : Text.fields ',' (' ' :: back.toList) = (' ' :: first) :: rest := by
    rw [Text.fields, if_neg (by decide), hback]
  simp only [splitValues, htext, Text.fields_append, hblank, hback, List.map_append,
    List.filter_append, List.map_cons, Text.collapse_blank]

/-- Texts that are joined by commas have the values of the texts. -/
theorem splitValues_intercalate (texts : List String) :
    splitValues (", ".intercalate texts) = texts.flatMap splitValues := by
  induction texts with
  | nil => rfl
  | cons text texts ih =>
    rcases texts with - | ⟨next, texts⟩
    · simp
    · rw [String.intercalate_cons_cons, splitValues_comma, ih]
      rfl

theorem splitValues_of_not_mem {text : String} (h : ',' ∉ text.toList) :
    splitValues text = [normalizeValue text].filter (!·.isEmpty) := by
  rw [splitValues, Text.fields_of_not_mem h]
  rfl

theorem not_mem_of_mem_splitValues {text value : String} (h : value ∈ splitValues text) :
    ',' ∉ value.toList := by
  obtain ⟨hmem, -⟩ := List.mem_filter.1 h
  obtain ⟨field, hfield, rfl⟩ := List.mem_map.1 hmem
  rw [String.toList_ofList, Text.mem_collapse rfl]
  exact Text.not_mem_of_mem_fields hfield

/-- Texts are split into the values that they are themselves if and only if none has a comma. -/
theorem splitAll_eq_iff (texts : List String) :
    texts.flatMap splitValues = (texts.map normalizeValue).filter (!·.isEmpty) ↔
      ∀ text ∈ texts, ',' ∉ text.toList := by
  constructor
  · intro h text htext hcomma
    have hvalue : ',' ∈ (normalizeValue text).toList := by
      rwa [normalizeValue, String.toList_ofList, Text.mem_collapse rfl]
    have hne : (!(normalizeValue text).isEmpty) = true := by
      rw [Bool.not_eq_true', ← Bool.not_eq_true, String.isEmpty_iff]
      intro hempty
      rw [hempty] at hvalue
      exact List.not_mem_nil hvalue
    have hmem : normalizeValue text ∈ texts.flatMap splitValues :=
      h ▸ List.mem_filter.2 ⟨List.mem_map_of_mem htext, hne⟩
    obtain ⟨_, -, hsplit⟩ := List.mem_flatMap.1 hmem
    exact not_mem_of_mem_splitValues hsplit hvalue
  · intro h
    induction texts with
    | nil => rfl
    | cons text texts ih =>
      rw [List.forall_mem_cons] at h
      rw [List.flatMap_cons, splitValues_of_not_mem h.1, ih h.2, ← List.filter_append]
      rfl

namespace Job

open Repository Edit

/-! ### Reading parameters -/

/-- A phrase as a JSON value. -/
def Phrase.toJson : Phrase → Json
  | .one text => .string text
  | .many texts => .array (texts.map .string)

theorem decodeStrings_strings (texts : List String) :
    decodeStrings (.array (texts.map .string)) = .ok texts := by
  simp only [decodeStrings, decodeList]
  induction texts with
  | nil => rfl
  | cons text texts ih =>
    rw [List.map_cons, List.mapM_cons, ih]
    rfl

theorem decodePhrase_toJson (phrase : Phrase) :
    decodePhrase (Phrase.toJson phrase) = .ok phrase := by
  rcases phrase with text | texts
  · rfl
  · rw [Phrase.toJson, decodePhrase, decodeStrings_strings]
    nofun

theorem decodeInt_toInt (n : Int64) : decodeInt (.integer n.toInt) = .ok n.toInt := by
  have hlow := n.le_toInt
  have hhigh := n.toInt_lt
  rw [decodeInt, if_pos]
  unfold Json.isInt64 Json.int64Bound
  simp only [Bool.and_eq_true, decide_eq_true_eq]
  omega

theorem Fields.read_member {α : Type} {title : String} {names : List String}
    {members : List (String × Json)} {decode : Json → Decoded α} {j : Json} {a : α} (name : String)
    (hj : Json.member? name members = some j) (ha : decode j = .ok a) :
    Fields.read ⟨title, names, .members members⟩ name decode = .ok (some a) := by
  simp only [read, value?, hj, ha]
  rfl

/-- The job of a method with some parameters. -/
def ofMembers (method : String) (members : List (String × Json)) : Job where
  method := method
  params := some (.object members)

theorem apply_ofMembers {α : Type} {name : String} {members : List (String × Json)}
    {method : Method} {decode : Json → Decoded α} {run : α → Edit Repository Unit} {p : α}
    (hname : Method.ofName? name = some method)
    (hmethod : ∀ job multiJob, applyMethod job multiJob method = job.run decode run)
    (hparams : decode (.object members) = .ok p) : (ofMembers name members).apply = run p := by
  have hdecode : (ofMembers name members).decode decode = .ok p := by
    simp only [Job.decode, ofMembers, Option.getD_some, hparams]
  exact apply_of_decode hname hmethod hdecode

/-! ### Rules between users and objects -/

/-- The side of a rule on which the users of the service stand. -/
inductive Side where
  | src
  | dst

namespace Side

/-- The side as parameters tell it. -/
def keyword : Side → String
  | src => "src"
  | dst => "dst"

/-- What a rule between the users and some objects has as its sources. -/
def sources (objects : Phrase) : Side → Phrase
  | src => .one "user"
  | dst => objects

/-- What a rule between the users and some objects has as its destinations. -/
def destinations (objects : Phrase) : Side → Phrase
  | src => objects
  | dst => .one "user"

/-- A rule between the users and some elements. -/
def rule (action : Action) (elements : List Element) (prt : List String) : Side → Rule
  | src => (Rule.ofParts action [.user] elements prt).normalize
  | dst => (Rule.ofParts action elements [.user] prt).normalize

end Side

/-- Add a rule between the users of a service and some objects. -/
def addUserRule (side : Side) (service action : String) (objects prt : List String) :
    Edit Repository Unit := do
  let action ← Edit.ofExcept (parseAction action)
  let elements ← Edit.ofExcept (Phrase.unions objects)
  modifyNamed .service (qualify "service" service) (insertRuleInto (side.rule action elements prt))

/-- The job of the older method that adds a rule. -/
def serviceRuleJob (side : Side) (service action : String) (objects protocols : List String) :
    Job :=
  ofMembers "add_service_rule"
    [("action", .string action), ("name", .string service),
      ("objects", .array (objects.map .string)), ("protocols", .array (protocols.map .string)),
      ("user", .string side.keyword)]

/-- The job of the newer method that adds a rule. -/
def ruleJob (side : Side) (service action : String) (objects : List String) (prt : Phrase) : Job :=
  ofMembers "add_rule"
    [("action", .string action), ("dst", Phrase.toJson (side.destinations (.many objects))),
      ("prt", Phrase.toJson prt), ("service", .string service),
      ("src", Phrase.toJson (side.sources (.many objects)))]

theorem apply_serviceRuleJob (side : Side) (service action : String)
    (objects protocols : List String) :
    (serviceRuleJob side service action objects protocols).apply =
      addUserRule side service action objects (protocols.flatMap splitValues) := by
  have hparams : Params.ServiceRule.ofJson
      (.object [("action", .string action), ("name", .string service),
        ("objects", .array (objects.map .string)), ("protocols", .array (protocols.map .string)),
        ("user", .string side.keyword)]) =
      .ok ⟨service, action, side.keyword, objects, protocols⟩ := by
    simp only [Params.ServiceRule.ofJson, Fields.ofJson, bind, Except.bind]
    rw [Fields.read_member "objects" rfl (decodeStrings_strings objects),
      Fields.read_member "protocols" rfl (decodeStrings_strings protocols)]
    rfl
  rw [serviceRuleJob, apply_ofMembers rfl (fun _ _ => rfl) hparams]
  rcases side with - | - <;> rfl

theorem ofExcept_bind {σ α β : Type} (x : Except PolicyError α) (f : α → Except PolicyError β) :
    (Edit.ofExcept (x >>= f) : Edit σ β) = Edit.ofExcept x >>= fun a => Edit.ofExcept (f a) := by
  rcases x with e | a <;> rfl

theorem parseUnion_user : parseUnion "user" = .ok [.user] := rfl

theorem addRule_ofJson {src dst prt : Phrase} (service action : String) :
    Params.AddRule.ofJson
      (.object [("action", .string action), ("dst", Phrase.toJson dst), ("prt", Phrase.toJson prt),
        ("service", .string service), ("src", Phrase.toJson src)]) =
      .ok ⟨service, action, src, dst, prt⟩ := by
  have hrule : Params.RuleParams.ofJson
      (.object [("action", .string action), ("dst", Phrase.toJson dst), ("prt", Phrase.toJson prt),
        ("service", .string service), ("src", Phrase.toJson src)]) =
      .ok ⟨action, src, dst, prt⟩ := by
    simp only [Params.RuleParams.ofJson, Fields.ofJson, bind, Except.bind]
    rw [Fields.read_member "src" rfl (decodePhrase_toJson src),
      Fields.read_member "dst" rfl (decodePhrase_toJson dst),
      Fields.read_member "prt" rfl (decodePhrase_toJson prt)]
    rfl
  rw [Params.AddRule.ofJson, hrule]
  rfl

theorem apply_ruleJob (side : Side) (service action : String) (objects : List String)
    (prt : Phrase) :
    (ruleJob side service action objects prt).apply =
      addUserRule side service action objects prt.values := by
  rw [ruleJob, apply_ofMembers rfl (fun _ _ => rfl) (addRule_ofJson service action)]
  rcases side with - | -
  all_goals
    simp only [addRule, buildRule, Side.sources, Side.destinations, Phrase.elements,
      parseUnion_user, ofExcept_bind, bind_assoc]
    rfl

/-! ### Calls of older methods -/

/-- A call of an older method for which there is a newer one. -/
inductive OlderCall where
  | addUser (service object : String)
  | deleteUser (service object : String)
  | addProtocol (service : String) (number : Int64) (prt : String)
  | deleteProtocol (service : String) (number : Int64) (prt : String)
  | addRule (side : Side) (service action : String) (objects protocols : List String)
  | deleteRule (service : String) (number : Int64)

namespace OlderCall

/-- The call as a job of the older method. -/
def older : OlderCall → Job
  | addUser service object =>
    ofMembers "add_service_user" [("name", .string service), ("object", .string object)]
  | deleteUser service object =>
    ofMembers "delete_service_user" [("name", .string service), ("object", .string object)]
  | addProtocol service number prt =>
    ofMembers "add_service_protocol"
      [("name", .string service), ("prt", .string prt), ("rule_num", .integer number.toInt)]
  | deleteProtocol service number prt =>
    ofMembers "delete_service_protocol"
      [("name", .string service), ("prt", .string prt), ("rule_num", .integer number.toInt)]
  | addRule side service action objects protocols =>
    serviceRuleJob side service action objects protocols
  | deleteRule service number =>
    ofMembers "delete_service_rule"
      [("name", .string service), ("rule_num", .integer number.toInt)]

/-- The call as a job of the newer method. -/
def newer : OlderCall → Job
  | addUser service object =>
    ofMembers "add_to_user" [("service", .string service), ("user", .string object)]
  | deleteUser service object =>
    ofMembers "remove_from_user" [("service", .string service), ("user", .string object)]
  | addProtocol service number prt =>
    ofMembers "add_to_rule"
      [("prt", .string prt), ("rule_num", .integer number.toInt), ("service", .string service)]
  | deleteProtocol service number prt =>
    ofMembers "remove_from_rule"
      [("prt", .string prt), ("rule_num", .integer number.toInt), ("service", .string service)]
  | addRule side service action objects protocols =>
    ruleJob side service action objects (.one (", ".intercalate protocols))
  | deleteRule service number =>
    ofMembers "delete_rule"
      [("rule_num", .integer number.toInt), ("service", .string service)]

end OlderCall

theorem serviceRuleProtocol_ofJson (service prt : String) (number : Int64) :
    Params.ServiceRuleProtocol.ofJson
      (.object [("name", .string service), ("prt", .string prt),
        ("rule_num", .integer number.toInt)]) = .ok ⟨service, number.toInt, prt⟩ := by
  simp only [Params.ServiceRuleProtocol.ofJson, Fields.ofJson, bind, Except.bind]
  rw [Fields.read_member "rule_num" rfl (decodeInt_toInt number)]
  rfl

theorem ruleEdit_ofJson (service prt : String) (number : Int64) :
    Params.RuleEdit.ofJson
      (.object [("prt", .string prt), ("rule_num", .integer number.toInt),
        ("service", .string service)]) =
      .ok ⟨service, number.toInt, none, none, some (.one prt)⟩ := by
  simp only [Params.RuleEdit.ofJson, Fields.ofJson, bind, Except.bind]
  rw [Fields.read_member "rule_num" rfl (decodeInt_toInt number)]
  rfl

theorem serviceRuleNum_ofJson (service : String) (number : Int64) :
    Params.ServiceRuleNum.ofJson
      (.object [("name", .string service), ("rule_num", .integer number.toInt)]) =
      .ok ⟨service, number.toInt⟩ := by
  simp only [Params.ServiceRuleNum.ofJson, Fields.ofJson, bind, Except.bind]
  rw [Fields.read_member "rule_num" rfl (decodeInt_toInt number)]
  rfl

theorem deleteRule_ofJson (service : String) (number : Int64) :
    Params.DeleteRule.ofJson
      (.object [("rule_num", .integer number.toInt), ("service", .string service)]) =
      .ok ⟨service, number.toInt⟩ := by
  simp only [Params.DeleteRule.ofJson, Fields.ofJson, bind, Except.bind]
  rw [Fields.read_member "rule_num" rfl (decodeInt_toInt number)]
  rfl

/-- Without elements, protocols are all that is added to a rule. -/
theorem addServiceProtocol_eq (service : String) (number : Int) (prt : String) :
    addServiceProtocol ⟨service, number, prt⟩ =
      addToRule ⟨service, number, none, none, some (.one prt)⟩ := by
  simp only [addServiceProtocol, addToRule, elementsOf?, ofExcept_ok_bind, editIfSome,
    bind_pure_unit]
  rfl

/-- A job of an older method and the job of the newer one yield the same result, be it a success or
a failure, and leave the same repository. -/
theorem apply_older_eq_newer (call : OlderCall) (repo : Repository) :
    call.older.apply repo = call.newer.apply repo := by
  suffices h : call.older.apply = call.newer.apply from congrFun h repo
  cases call with
  | addUser service object =>
    have hold : (OlderCall.addUser service object).older.apply = addServiceUser ⟨service, object⟩ :=
      apply_ofMembers rfl (fun _ _ => rfl) rfl
    have hnew : (OlderCall.addUser service object).newer.apply =
        addToUser ⟨service, .one object⟩ := apply_ofMembers rfl (fun _ _ => rfl) rfl
    rw [hold, hnew]
    rfl
  | deleteUser service object =>
    have hold : (OlderCall.deleteUser service object).older.apply =
        deleteServiceUser ⟨service, object⟩ := apply_ofMembers rfl (fun _ _ => rfl) rfl
    have hnew : (OlderCall.deleteUser service object).newer.apply =
        removeFromUser ⟨service, .one object⟩ := apply_ofMembers rfl (fun _ _ => rfl) rfl
    rw [hold, hnew]
    rfl
  | addProtocol service number prt =>
    have hold : (OlderCall.addProtocol service number prt).older.apply =
        addServiceProtocol ⟨service, number.toInt, prt⟩ :=
      apply_ofMembers rfl (fun _ _ => rfl) (serviceRuleProtocol_ofJson service prt number)
    have hnew : (OlderCall.addProtocol service number prt).newer.apply =
        addToRule ⟨service, number.toInt, none, none, some (.one prt)⟩ :=
      apply_ofMembers rfl (fun _ _ => rfl) (ruleEdit_ofJson service prt number)
    rw [hold, hnew, addServiceProtocol_eq]
  | deleteProtocol service number prt =>
    have hold : (OlderCall.deleteProtocol service number prt).older.apply =
        deleteServiceProtocol ⟨service, number.toInt, prt⟩ :=
      apply_ofMembers rfl (fun _ _ => rfl) (serviceRuleProtocol_ofJson service prt number)
    have hnew : (OlderCall.deleteProtocol service number prt).newer.apply =
        removeFromRule ⟨service, number.toInt, none, none, some (.one prt)⟩ :=
      apply_ofMembers rfl (fun _ _ => rfl) (ruleEdit_ofJson service prt number)
    rw [hold, hnew]
    rfl
  | addRule side service action objects protocols =>
    rw [OlderCall.older, OlderCall.newer, apply_serviceRuleJob, apply_ruleJob, Phrase.values,
      splitValues_intercalate]
  | deleteRule service number =>
    have hold : (OlderCall.deleteRule service number).older.apply =
        deleteServiceRule ⟨service, number.toInt⟩ :=
      apply_ofMembers rfl (fun _ _ => rfl) (serviceRuleNum_ofJson service number)
    have hnew : (OlderCall.deleteRule service number).newer.apply =
        deleteRule ⟨service, number.toInt⟩ :=
      apply_ofMembers rfl (fun _ _ => rfl) (deleteRule_ofJson service number)
    rw [hold, hnew]
    rfl

/-! ### Lists of protocols -/

/-- Rules of one action that are inserted with the same result are equal. -/
theorem eq_of_insertRule {rules : List Rule} {r r' : Rule} (haction : r.action = r'.action)
    (h : insertRule rules r = insertRule rules r') : r = r' := by
  have hindex : ruleIndex rules r' = ruleIndex rules r := by
    rw [ruleIndex, ruleIndex, Rule.isDeny, Rule.isDeny, haction]
  have hget (q : Rule) : (rules.insertIdx (ruleIndex rules r) q)[ruleIndex rules r]? = some q := by
    simp [List.getElem?_insertIdx, ruleIndex_le]
  rw [insertRule, insertRule, hindex] at h
  refine Option.some.inj ((hget r).symm.trans ?_)
  rw [h, hget]

namespace Side

variable (side : Side) (action : Action) (elements : List Element)

theorem action_rule (prt : List String) : (side.rule action elements prt).action = action := by
  cases side <;> rfl

theorem prt_rule (prt : List String) :
    (side.rule action elements prt).prt = .ofValues "prt" prt := by
  cases side <;> rfl

/-- Rules with different protocols are different. -/
theorem rule_injective : Function.Injective (side.rule action elements) := by
  intro prt prt' h
  have hprt := congrArg Rule.prt h
  rw [prt_rule, prt_rule, Attribute.ofValues, Attribute.ofValues, Attribute.mk.injEq,
    AttributeValue.values.injEq] at hprt
  refine List.map_injective_iff.2 (fun a b hab => ?_) hprt.2.1
  exact congrArg Item.content hab

end Side

/-- A service with a new rule at its place. -/
def withRule (s : Service) (r : Rule) : Service :=
  { s with rules := insertRule s.rules r }

theorem reaches_insertRuleInto (service : String) (r : Rule) :
    Edit.Reaches (·.lookupAs .service service) (insertRuleInto r)
      (modifyNamed .service service (insertRuleInto r)) :=
  reaches_modifyNamed Variant.lawful_service (fun _ => rfl) _

/-- Whether a rule can be added, and where it comes to stand, does not depend on its protocols. -/
theorem addUserRule_cases (side : Side) (service action : String) (objects : List String)
    (repo : Repository) :
    (∃ e, ∀ prt, addUserRule side service action objects prt repo = .error e repo) ∨
      ∃ a elements s, parseAction action = .ok a ∧ Phrase.unions objects = .ok elements ∧
        repo.lookupAs .service (qualify "service" service) = .ok s ∧
        ∀ prt, ∃ repo', addUserRule side service action objects prt repo = .ok () repo' ∧
          repo'.lookupAs .service (qualify "service" service) =
            .ok (withRule s (side.rule a elements prt)) := by
  rcases haction : parseAction action with e | a
  · refine .inl ⟨e, fun prt => ?_⟩
    rw [addUserRule, haction]
    rfl
  rcases hobjects : Phrase.unions objects with e | elements
  · refine .inl ⟨e, fun prt => ?_⟩
    rw [addUserRule, haction, hobjects]
    rfl
  have hedit (prt : List String) : addUserRule side service action objects prt =
      modifyNamed .service (qualify "service" service)
        (insertRuleInto (side.rule a elements prt)) := by
    rw [addUserRule, haction, hobjects]
    rfl
  rcases hlookup : repo.lookupAs .service (qualify "service" service) with e | s
  · refine .inl ⟨e, fun prt => ?_⟩
    rw [hedit, (reaches_insertRuleInto _ _).missing hlookup]
  · refine .inr ⟨a, elements, s, rfl, rfl, rfl, fun prt => ?_⟩
    rw [hedit]
    exact (reaches_insertRuleInto _ _).found hlookup rfl

/-- The older method splits each text of a list of protocols, the newer one takes each text as one
value, up to white space.  Both fail in the same way, or both insert a rule at the same place.  The
two repositories are the same if and only if no text has a comma. -/
theorem rules_of_protocolList (side : Side) (service action : String)
    (objects protocols : List String) (repo : Repository) :
    (∃ e, (serviceRuleJob side service action objects protocols).apply repo = .error e repo ∧
      (ruleJob side service action objects (.many protocols)).apply repo = .error e repo) ∨
    ∃ a elements s repo₁ repo₂,
      parseAction action = .ok a ∧ Phrase.unions objects = .ok elements ∧
      repo.lookupAs .service (qualify "service" service) = .ok s ∧
      (serviceRuleJob side service action objects protocols).apply repo = .ok () repo₁ ∧
      repo₁.lookupAs .service (qualify "service" service) =
        .ok (withRule s (side.rule a elements (protocols.flatMap splitValues))) ∧
      (ruleJob side service action objects (.many protocols)).apply repo = .ok () repo₂ ∧
      repo₂.lookupAs .service (qualify "service" service) =
        .ok (withRule s
          (side.rule a elements ((protocols.map normalizeValue).filter (!·.isEmpty)))) ∧
      (repo₁ = repo₂ ↔ ∀ text ∈ protocols, ',' ∉ text.toList) := by
  rw [apply_serviceRuleJob, apply_ruleJob, Phrase.values]
  rcases addUserRule_cases side service action objects repo with
    ⟨e, h⟩ | ⟨a, elements, s, haction, hobjects, hlookup, h⟩
  · exact .inl ⟨e, h _, h _⟩
  obtain ⟨repo₁, hfirst, hlookup₁⟩ := h (protocols.flatMap splitValues)
  obtain ⟨repo₂, hsecond, hlookup₂⟩ := h ((protocols.map normalizeValue).filter (!·.isEmpty))
  refine .inr ⟨a, elements, s, repo₁, repo₂, haction, hobjects, hlookup, hfirst, hlookup₁, hsecond,
    hlookup₂, ?_⟩
  rw [← splitAll_eq_iff]
  constructor
  · intro heq
    rw [heq, hlookup₂, Except.ok.injEq, withRule, withRule, Service.mk.injEq] at hlookup₁
    refine side.rule_injective a elements (eq_of_insertRule ?_ hlookup₁.2.2.2.symm)
    rw [Side.action_rule, Side.action_rule]
  · intro hprt
    rw [hprt, hsecond] at hfirst
    cases hfirst
    rfl

/-! ### A text with two protocols -/

section Samples

/-- A service with one rule. -/
def sshPolicy : List (Path × String) :=
  [(⟨"rule"⟩,
    "service:s = \x7b\n user = host:a;\n permit src = user;\n dst = host:b;\n" ++
      " prt = tcp 22;\n\x7d\n")]

/-- The protocols of the rules of a service. -/
def protocolsIn (service : String) (repo : Repository) : List (Option (List String)) :=
  match repo.lookupAs .service service with
  | .ok s => s.rules.map fun r => r.prt.values?.map (·.map Item.content)
  | .error _ => []

/-- A list with one text of two protocols gives two values in one method and one in the other. -/
theorem protocolsIn_of_joinedProtocols :
    ∃ repo repo₁ repo₂, ofSources ⟨"policy"⟩ sshPolicy = .ok repo ∧
      (serviceRuleJob .src "s" "permit" ["host:b"] ["tcp 80, udp 53"]).apply repo = .ok () repo₁ ∧
      (ruleJob .src "s" "permit" ["host:b"] (.many ["tcp 80, udp 53"])).apply repo = .ok () repo₂ ∧
      protocolsIn "service:s" repo₁ = [some ["tcp 22"], some ["tcp 80", "udp 53"]] ∧
      protocolsIn "service:s" repo₂ = [some ["tcp 22"], some ["tcp 80, udp 53"]] := by
  have hloaded : ((ofSources ⟨"policy"⟩ sshPolicy).toOption.bind fun repo =>
      (((serviceRuleJob .src "s" "permit" ["host:b"] ["tcp 80, udp 53"]).apply).outcome? repo).bind
        fun out₁ =>
          (((ruleJob .src "s" "permit" ["host:b"] (.many ["tcp 80, udp 53"])).apply).outcome?
            repo).map fun out₂ =>
              (protocolsIn "service:s" out₁.2, protocolsIn "service:s" out₂.2)) =
      some ([some ["tcp 22"], some ["tcp 80", "udp 53"]],
        [some ["tcp 22"], some ["tcp 80, udp 53"]]) := by
    decide +kernel
  simp only [Option.map_eq_some_iff, Option.bind_eq_some_iff, Edit.toOption_eq_some,
    outcome?_eq_some, Prod.mk.injEq] at hloaded
  obtain ⟨repo, hload, ⟨_, repo₁⟩, hfirst, ⟨_, repo₂⟩, hsecond, hvalues₁, hvalues₂⟩ := hloaded
  exact ⟨repo, repo₁, repo₂, hload, hfirst, hsecond, hvalues₁, hvalues₂⟩

end Samples

end Job

end PolicyEditor
