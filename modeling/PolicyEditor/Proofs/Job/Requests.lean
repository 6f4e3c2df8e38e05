import PolicyEditor.Proofs.Editing.ElementTexts
import PolicyEditor.Proofs.Job.Methods
import PolicyEditor.Proofs.Job.Texts
import PolicyEditor.Proofs.Repository.Endings

/-!
# Items that jobs remove

A job may ask for the removal of users of a service, or of elements and protocols of a rule.  It
names the items one after the other, and each of them takes the first entry of its text.  So it
succeeds if and only if each item is there as often as it is named, and then the first occurrences
of these items are gone.  Otherwise it fails with the first item whose occurrences are used up, and
the items that were named in front of it are gone.

## Main definitions

* `Union.Suffices`, `Rule.Suffices`, `Service.Suffices` : all requested items are there.
* `Union.Withdraws`, `Rule.Withdraws`, `Service.Withdraws` : what comes of a request, the failure
  and the items that are left.
* `Job.Removes` : what a job asks to be removed from a service.

## Main results

* `Job.exists_withdraws_removeElements`, `Job.exists_withdraws_removeParts` : what comes of requests
  to a list of elements and to a rule.
* `Job.exists_withdraws_of_removes` : what comes of a job that removes items of a service.
-/

namespace PolicyEditor

open Edit Job Repository

/-! ### Lists of elements -/

/-- The text of an entry, by which it is looked for. -/
def Member.chars (m : Member) : List Char :=
  m.content.chars

namespace Union

/-- An entry of the union has the text of the element. -/
def Holds (u : Union) (e : Element) : Prop :=
  e.chars ∈ u.elements.map Member.chars

instance (u : Union) (e : Element) : Decidable (u.Holds e) :=
  inferInstanceAs (Decidable (e.chars ∈ u.elements.map Member.chars))

/-- Each element is in the union at least as often as it is requested. -/
def Suffices (u : Union) (es : List Element) : Prop :=
  PolicyEditor.Suffices Member.chars u.elements (es.map Element.chars)

instance (u : Union) (es : List Element) : Decidable (u.Suffices es) :=
  inferInstanceAs (Decidable (PolicyEditor.Suffices _ _ _))

/-- The union without the first occurrences of elements. -/
def without (u : Union) (es : List Element) : Union :=
  { u with elements := withoutFirst Member.chars (es.map Element.chars) u.elements }

/-- The union `u'` is what requests for elements leave, the first of which that is not served is
`missing`. -/
def Withdraws (u : Union) (es : List Element) (missing : Option Element) (u' : Union) : Prop :=
  ∃ rest, PolicyEditor.Withdraws Member.chars Element.chars u.elements es missing rest ∧
    u' = { u with elements := rest }

/-- The failure that an element is not in the union. -/
def missing (context : Context) (u : Union) (e : Element) : PolicyError :=
  .notFound (.element e u.role context)

variable {u u' : Union} {es : List Element} {missing : Option Element}

theorem Withdraws.eq_none_iff (h : u.Withdraws es missing u') : missing = none ↔ u.Suffices es := by
  obtain ⟨rest, h, -⟩ := h
  exact h.eq_none_iff

/-- If all requests are served, the first occurrences of the elements are gone. -/
theorem Withdraws.eq_without (h : u.Withdraws es none u') : u' = u.without es := by
  obtain ⟨rest, h, rfl⟩ := h
  cases h
  rfl

theorem without_without (u : Union) (es es' : List Element) :
    (u.without es).without es' = u.without (es ++ es') := by
  simp only [without, withoutFirst_withoutFirst, List.map_append]

theorem removeMember?_of_holds {e : Element} (h : u.Holds e) :
    removeMember? e u.elements = some (u.without [e]).elements :=
  removeFirst?_of_mem Member.chars (fun _ => beq_iff_eq) h

theorem removeMember?_of_not_holds {e : Element} (h : ¬u.Holds e) :
    removeMember? e u.elements = none :=
  removeFirst?_of_not_mem Member.chars (fun _ => beq_iff_eq) h

theorem without_of_not_holds {e : Element} (h : ¬u.Holds e) : u.without [e] = u := by
  rw [without, List.map_singleton, withoutFirst_of_not_mem Member.chars h]

end Union

/-! ### Protocols -/

/-- The text of a value with its white space collapsed, by which it is looked for. -/
def Value.normal (v : Value) : String :=
  normalizeValue v.content

theorem removeValue?_of_mem {text : String} {values : List Value}
    (h : normalizeValue text ∈ values.map Value.normal) :
    removeValue? text values = some (withoutFirst Value.normal [normalizeValue text] values) :=
  removeFirst?_of_mem Value.normal (fun _ => beq_iff_eq) h

theorem removeValue?_of_not_mem {text : String} {values : List Value}
    (h : normalizeValue text ∉ values.map Value.normal) : removeValue? text values = none :=
  removeFirst?_of_not_mem Value.normal (fun _ => beq_iff_eq) h

namespace Attribute

theorem values?_eq_some {a : Attribute} {values : List Value} :
    a.values? = some values ↔ a.value = .values values := by
  rw [values?]
  split <;> simp_all

/-- The attribute is a value list in which each of the requested texts, if there are any, is at
least as often as it is requested. -/
def Suffices (a : Attribute) (texts : Option (List String)) : Prop :=
  ∀ ts ∈ texts, ∃ values, a.value = .values values ∧
    PolicyEditor.Suffices Value.normal values (ts.map normalizeValue)

/-- What comes of requests for values of the protocols of a rule. -/
inductive Withdraws (context : Context) (a : Attribute) :
    Option (List String) → Option PolicyError → Attribute → Prop
  | absent : Withdraws context a none none a
  | values {values rest : List Value} {texts : List String} {missing : Option String}
      (hvalues : a.value = .values values)
      (h : PolicyEditor.Withdraws Value.normal normalizeValue values texts missing rest) :
      Withdraws context a (some texts)
        (missing.map fun text => .notFound (.protocol text context))
        { a with value := .values rest }
  | notList {texts : List String} (hvalues : a.values? = none) :
      Withdraws context a (some texts) (some (.invalidArgument (.protocolsNotList context))) a

theorem Withdraws.eq_none_iff {context : Context} {a a' : Attribute} {texts : Option (List String)}
    {failure : Option PolicyError} (h : a.Withdraws context texts failure a') :
    failure = none ↔ a.Suffices texts := by
  cases h with
  | absent => exact iff_of_true rfl (by simp [Suffices])
  | values hvalues h => simp [Suffices, hvalues, h.eq_none_iff]
  | notList hnone =>
    refine iff_of_false (Option.some_ne_none _) fun h => ?_
    obtain ⟨values, hvalues, -⟩ := h _ rfl
    rw [values?_eq_some.2 hvalues] at hnone
    cases hnone

end Attribute

/-! ### Rules -/

namespace Rule

/-- All elements and protocols are in the rule as often as they are requested. -/
def Suffices (r : Rule) (src dst : List Element) (prt : Option (List String)) : Prop :=
  r.src.Suffices src ∧ r.dst.Suffices dst ∧ r.prt.Suffices prt

/-- What comes of requests to a rule: first those for sources are served, then those for
destinations and then those for protocols. -/
inductive Withdraws (context : Context) (r : Rule) (src dst : List Element)
    (prt : Option (List String)) : Option PolicyError → Rule → Prop
  | src {e : Element} {u : Union} (hsrc : r.src.Withdraws src (some e) u) :
      Withdraws context r src dst prt (some (r.src.missing context e)) { r with src := u }
  | dst {e : Element} {u v : Union} (hsrc : r.src.Withdraws src none u)
      (hdst : r.dst.Withdraws dst (some e) v) :
      Withdraws context r src dst prt (some (r.dst.missing context e)) { r with src := u, dst := v }
  | prt {u v : Union} {failure : Option PolicyError} {a : Attribute}
      (hsrc : r.src.Withdraws src none u) (hdst : r.dst.Withdraws dst none v)
      (hprt : r.prt.Withdraws context prt failure a) :
      Withdraws context r src dst prt failure { r with src := u, dst := v, prt := a }

theorem Withdraws.eq_none_iff {context : Context} {r r' : Rule} {src dst : List Element}
    {prt : Option (List String)} {failure : Option PolicyError}
    (h : r.Withdraws context src dst prt failure r') :
    failure = none ↔ r.Suffices src dst prt := by
  cases h with
  | src hsrc =>
    exact iff_of_false (Option.some_ne_none _) fun h =>
      Option.some_ne_none _ (hsrc.eq_none_iff.2 h.1)
  | dst hsrc hdst =>
    exact iff_of_false (Option.some_ne_none _) fun h =>
      Option.some_ne_none _ (hdst.eq_none_iff.2 h.2.1)
  | prt hsrc hdst hprt =>
    rw [hprt.eq_none_iff, Suffices, iff_true_intro (hsrc.eq_none_iff.1 rfl),
      iff_true_intro (hdst.eq_none_iff.1 rfl), true_and, true_and]

end Rule

namespace Job

/-! ### Requests to a rule -/

/-- What comes of requests to a list of elements. -/
theorem exists_withdraws_removeElements (context : Context) (es : List Element) (u : Union) :
    ∃ missing u', u.Withdraws es missing u' ∧
      removeElements context es u = ending (missing.map (u.missing context)) u' := by
  induction es generalizing u with
  | nil => exact ⟨none, u, ⟨u.elements, .nil, rfl⟩, rfl⟩
  | cons e es ih =>
    rw [removeElements]
    by_cases he : u.Holds e
    · obtain ⟨missing, u', ⟨rest, hrest, rfl⟩, hremove⟩ := ih (u.without [e])
      rw [Union.removeMember?_of_holds he]
      exact ⟨missing, _, ⟨rest, hrest.cons he, rfl⟩, hremove⟩
    · rw [Union.removeMember?_of_not_holds he]
      exact ⟨some e, u, ⟨u.elements, .of_not_mem he, rfl⟩, rfl⟩

/-- What comes of requests to a list of values. -/
theorem exists_withdraws_removeProtocols (context : Context) (texts : List String)
    (values : List Value) :
    ∃ missing rest, Withdraws Value.normal normalizeValue values texts missing rest ∧
      removeProtocols context texts values =
        ending (missing.map fun text => .notFound (.protocol text context)) rest := by
  induction texts generalizing values with
  | nil => exact ⟨none, values, .nil, rfl⟩
  | cons text texts ih =>
    rw [removeProtocols]
    by_cases htext : normalizeValue text ∈ values.map Value.normal
    · obtain ⟨missing, rest, hrest, hremove⟩ :=
        ih (withoutFirst Value.normal [normalizeValue text] values)
      rw [removeValue?_of_mem htext]
      exact ⟨missing, rest, hrest.cons htext, hremove⟩
    · rw [removeValue?_of_not_mem htext]
      exact ⟨some text, values, .of_not_mem htext, rfl⟩

theorem editProtocols_of_values {context : Context} {edit : Edit (List Value) Unit} {r : Rule}
    {values rest : List Value} {failure : Option PolicyError}
    (hvalues : r.prt.value = .values values) (h : edit values = ending failure rest) :
    editProtocols context edit r =
      ending failure { r with prt := { r.prt with value := .values rest } } := by
  rw [editProtocols, hvalues]
  simp only [h]
  cases failure <;> rfl

theorem editProtocols_of_notList {context : Context} {edit : Edit (List Value) Unit} {r : Rule}
    (hvalues : r.prt.values? = none) :
    editProtocols context edit r =
      ending (some (.invalidArgument (.protocolsNotList context))) r := by
  rw [editProtocols]
  split
  · next values hvalue =>
    rw [Attribute.values?_eq_some.2 hvalue] at hvalues
    cases hvalues
  · rfl

theorem exists_withdraws_editProtocols (context : Context) (texts : Option (List String))
    (r : Rule) :
    ∃ failure a, r.prt.Withdraws context texts failure a ∧
      editIfSome texts (fun ts => editProtocols context (removeProtocols context ts)) r =
        ending failure { r with prt := a } := by
  cases texts with
  | none => exact ⟨none, r.prt, .absent, rfl⟩
  | some texts =>
    rw [editIfSome]
    rcases hvalues : r.prt.values? with - | values
    · exact ⟨_, r.prt, .notList hvalues, editProtocols_of_notList hvalues⟩
    · rw [Attribute.values?_eq_some] at hvalues
      obtain ⟨missing, rest, hrest, hremove⟩ :=
        exists_withdraws_removeProtocols context texts values
      exact ⟨_, _, .values hvalues hrest, editProtocols_of_values hvalues hremove⟩

theorem editSrc_eq_ending {edit : Edit Union Unit} {failure : Option PolicyError} {r : Rule}
    {u : Union} (h : edit r.src = ending failure u) :
    editSrc edit r = ending failure { r with src := u } :=
  focus_eq_ending h

theorem editDst_eq_ending {edit : Edit Union Unit} {failure : Option PolicyError} {r : Rule}
    {u : Union} (h : edit r.dst = ending failure u) :
    editDst edit r = ending failure { r with dst := u } :=
  focus_eq_ending h

/-- A side for which nothing is given is one of which no elements are requested. -/
theorem editIfSome_removeElements (context : Context) (es : Option (List Element))
    (edit : Edit Union Unit → Edit Rule Unit) (hedit : edit (pure ()) = pure ()) :
    editIfSome es (fun es => edit (removeElements context es)) =
      edit (removeElements context (es.getD [])) := by
  cases es with
  | none => exact hedit.symm
  | some es => rfl

/-- What comes of requests to a rule. -/
theorem exists_withdraws_removeParts (context : Context) (prt : Option Phrase)
    (src dst : Option (List Element)) (r : Rule) :
    ∃ failure r',
      r.Withdraws context (src.getD []) (dst.getD []) (prt.map Phrase.values) failure r' ∧
      removeParts context prt src dst r = ending failure r' := by
  have hparts : removeParts context prt src dst = (do
      editSrc (removeElements context (src.getD []))
      editDst (removeElements context (dst.getD []))
      editIfSome (prt.map Phrase.values) fun texts =>
        editProtocols context (removeProtocols context texts)) := by
    rw [removeParts, editIfSome_removeElements context src editSrc rfl,
      editIfSome_removeElements context dst editDst rfl]
    cases prt <;> rfl
  rw [hparts]
  obtain ⟨missing, u, hu, hsrc⟩ := exists_withdraws_removeElements context (src.getD []) r.src
  replace hsrc := editSrc_eq_ending hsrc
  cases missing with
  | some e => exact ⟨_, _, .src hu, bind_of_ending_some hsrc⟩
  | none =>
    rw [bind_of_ending_none hsrc]
    obtain ⟨missing, v, hv, hdst⟩ := exists_withdraws_removeElements context (dst.getD []) r.dst
    replace hdst := @editDst_eq_ending _ _ { r with src := u } _ hdst
    cases missing with
    | some e => exact ⟨_, _, .dst hu hv, bind_of_ending_some hdst⟩
    | none =>
      obtain ⟨failure, a, ha, hprt⟩ :=
        exists_withdraws_editProtocols context (prt.map Phrase.values) { r with src := u, dst := v }
      exact ⟨_, _, .prt hu hv ha, by rw [bind_of_ending_none hdst]; exact hprt⟩

end Job

/-! ### Requests to a service -/

/-- What is to be removed from a service. -/
inductive Removal where
  /-- Elements of the users. -/
  | users (elements : List Element)
  /-- Elements and protocols of the rule with a number, as far as they are given. -/
  | parts (number : Int) (src dst : Option (List Element)) (prt : Option Phrase)

namespace Removal

/-- The elements that are requested. -/
def elements : Removal → List Element
  | users es => es
  | parts _ src dst _ => src.getD [] ++ dst.getD []

/-- The removal from a service, which messages call `service`. -/
def edit (service : String) : Removal → Edit Service Unit
  | users es => editUser (removeElements (.service service) es)
  | parts number src dst prt =>
    editRule service number (removeParts (.rule number service) prt src dst)

end Removal

namespace Service

/-- All requested items are in the service as often as they are requested. -/
def Suffices (s : Service) : Removal → Prop
  | .users es => s.user.Suffices es
  | .parts number src dst prt =>
    ∃ i r, ruleIndex? s.rules.length number = some i ∧ s.rules[i]? = some r ∧
      r.Suffices (src.getD []) (dst.getD []) (prt.map Phrase.values)

/-- What comes of requests to a service, which messages call `service`. -/
inductive Withdraws (service : String) (s : Service) :
    Removal → Option PolicyError → Service → Prop
  | users {es : List Element} {missing : Option Element} {user : Union}
      (h : s.user.Withdraws es missing user) :
      Withdraws service s (.users es) (missing.map (s.user.missing (.service service)))
        { s with user }
  | noRule {number : Int} {src dst : Option (List Element)} {prt : Option Phrase}
      (hindex : ruleIndex? s.rules.length number = none) :
      Withdraws service s (.parts number src dst prt)
        (some (missingRule service s.rules.length number)) s
  | rule {number : Int} {src dst : Option (List Element)} {prt : Option Phrase} {i : Nat}
      {r r' : Rule} {failure : Option PolicyError}
      (hindex : ruleIndex? s.rules.length number = some i) (hrule : s.rules[i]? = some r)
      (h : r.Withdraws (.rule number service) (src.getD []) (dst.getD []) (prt.map Phrase.values)
        failure r') :
      Withdraws service s (.parts number src dst prt) failure
        { s with rules := s.rules.set i r' }

variable {service : String} {s s' : Service} {removal : Removal} {failure : Option PolicyError}

theorem Withdraws.eq_none_iff (h : s.Withdraws service removal failure s') :
    failure = none ↔ s.Suffices removal := by
  cases h with
  | users h => rw [Option.map_eq_none_iff, h.eq_none_iff, Suffices]
  | noRule hindex => simp [Suffices, hindex]
  | rule hindex hrule h => simp [Suffices, hindex, hrule, h.eq_none_iff]

end Service

namespace Job

variable {service : String} {number : Int} {s : Service} {i : Nat} {r : Rule}

theorem exists_of_ruleIndex? (h : ruleIndex? s.rules.length number = some i) :
    ∃ r, s.rules[i]? = some r := by
  rw [ruleIndex?] at h
  split at h <;> cases h
  exact ⟨_, List.getElem?_eq_getElem (by omega)⟩

theorem editUser_eq_ending {edit : Edit Union Unit} {failure : Option PolicyError} {user : Union}
    (h : edit s.user = ending failure user) : editUser edit s = ending failure { s with user } :=
  focus_eq_ending h

theorem editRule_eq_ending {edit : Edit Rule Unit} {failure : Option PolicyError} {r' : Rule}
    (hindex : ruleIndex? s.rules.length number = some i) (hrule : s.rules[i]? = some r)
    (h : edit r = ending failure r') :
    editRule service number edit s = ending failure { s with rules := s.rules.set i r' } := by
  simp only [editRule, bind, EStateM.bind, get_apply, hindex]
  exact focus_eq_ending (atIndex_eq_ending hrule h)

/-- An edit that fails and leaves the rule as it is leaves the service as it is. -/
theorem editRule_of_error {edit : Edit Rule Unit} {e : PolicyError}
    (hindex : ruleIndex? s.rules.length number = some i) (hrule : s.rules[i]? = some r)
    (h : edit r = .error e r) : editRule service number edit s = .error e s := by
  have hset : s.rules.set i r = s.rules := by
    obtain ⟨hi, rfl⟩ := List.getElem?_eq_some_iff.1 hrule
    exact List.set_getElem_self hi
  have hfail : editRule service number edit s =
      ending (some e) { s with rules := s.rules.set i r } := editRule_eq_ending hindex hrule h
  rw [hfail, hset]
  rfl

/-- What comes of requests to a service. -/
theorem exists_withdraws_edit (service : String) (s : Service) (removal : Removal) :
    ∃ failure s', s.Withdraws service removal failure s' ∧
      removal.edit service s = ending failure s' := by
  cases removal with
  | users es =>
    obtain ⟨missing, user, huser, hremove⟩ :=
      exists_withdraws_removeElements (.service service) es s.user
    exact ⟨_, _, .users huser, editUser_eq_ending hremove⟩
  | parts number src dst prt =>
    rcases hindex : ruleIndex? s.rules.length number with - | i
    · refine ⟨_, s, .noRule hindex, ?_⟩
      simp only [Removal.edit, editRule, bind, EStateM.bind, get_apply, hindex]
      rfl
    · obtain ⟨r, hrule⟩ := exists_of_ruleIndex? hindex
      obtain ⟨failure, r', hr, hremove⟩ :=
        exists_withdraws_removeParts (.rule number service) prt src dst r
      exact ⟨failure, _, .rule hindex hrule hr, editRule_eq_ending hindex hrule hremove⟩

/-! ### Jobs that remove items -/

/-- What a job asks to be removed from a service. -/
inductive Removes (job : Job) : (service : String) → Removal → Prop
  | users {p : Params.UserEdit} {es : List Element} (hmethod : job.method = "remove_from_user")
      (hparams : job.decode Params.UserEdit.ofJson = .ok p)
      (helements : p.user.elements = .ok es) :
      Removes job (qualify "service" p.service) (.users es)
  | parts {p : Params.RuleEdit} {src dst : Option (List Element)}
      (hmethod : job.method = "remove_from_rule")
      (hparams : job.decode Params.RuleEdit.ofJson = .ok p) (hsrc : elementsOf? p.src = .ok src)
      (hdst : elementsOf? p.dst = .ok dst) :
      Removes job (qualify "service" p.service) (.parts p.ruleNum src dst p.prt)

variable {job : Job} {removal : Removal}

theorem Removes.apply_eq (h : job.Removes service removal) :
    job.apply = modifyNamed .service service (removal.edit service) := by
  cases h with
  | users hmethod hparams helements =>
    have hname : Method.ofName? job.method = some .removeFromUser := by rw [hmethod]; rfl
    rw [apply_of_decode hname (fun _ _ => rfl) hparams, removeFromUser, helements]
    rfl
  | parts hmethod hparams hsrc hdst =>
    have hname : Method.ofName? job.method = some .removeFromRule := by rw [hmethod]; rfl
    rw [apply_of_decode hname (fun _ _ => rfl) hparams, removeFromRule, hsrc, hdst]
    rfl

theorem spells_of_elementsOf? {phrase : Option Phrase} {es : Option (List Element)}
    (h : elementsOf? phrase = .ok es) : ∀ e ∈ es.getD [], Element.SpellsItem e.chars e := by
  cases phrase with
  | none =>
    cases h
    simp
  | some phrase =>
    rw [elementsOf?] at h
    cases hphrase : phrase.elements with
    | error e =>
      rw [hphrase] at h
      cases h
    | ok es' =>
      rw [hphrase] at h
      cases h
      exact spells_of_elements hphrase

/-- The requested elements were read from the texts of the job. -/
theorem Removes.parsed (h : job.Removes service removal) : ∀ e ∈ removal.elements, e.Parsed := by
  have hspells : ∀ e ∈ removal.elements, Element.SpellsItem e.chars e := by
    cases h with
    | users _ _ helements => exact spells_of_elements helements
    | parts _ _ hsrc hdst =>
      exact List.forall_mem_append.2 ⟨spells_of_elementsOf? hsrc, spells_of_elementsOf? hdst⟩
  exact fun e he => Element.parsed_iff.2 (Element.parseUnion_render (hspells e he))

/-- What comes of a job that removes items of a service.  It succeeds if and only if each item is
there as often as it is requested, and then the first occurrences of the items are gone.  Otherwise
it fails with the first request whose items are used up, and the items for the requests in front of
it are gone.  The items are looked for by their texts, and an element that was read has the text of
a requested element only if it is this element. -/
theorem exists_withdraws_of_removes {repo : Repository} (h : job.Removes service removal)
    (hlookup : repo.lookupAs .service service = .ok s) :
    (∃ failure s' repo', s.Withdraws service removal failure s' ∧
      (failure = none ↔ s.Suffices removal) ∧ job.apply repo = ending failure repo' ∧
      repo'.lookupAs .service service = .ok s') ∧
    ∀ e ∈ removal.elements, ∀ d : Element, d.Parsed → (d.chars = e.chars ↔ d = e) := by
  refine ⟨?_, fun e he d hd => hd.chars_inj (h.parsed e he)⟩
  obtain ⟨failure, s', hs', hedit⟩ := exists_withdraws_edit service s removal
  obtain ⟨repo', happly, hlookup'⟩ :=
    modifyNamed_eq_ending Variant.lawful_service (fun _ => rfl) hlookup hedit
  exact ⟨failure, s', repo', hs', hs'.eq_none_iff, by rw [h.apply_eq, happly], hlookup'⟩

section Samples

/-- A service with a user that is named twice. -/
def copiesPolicy : List (Path × String) :=
  [(⟨"rule"⟩,
    "service:s = \x7b\n user = host:a,\n        host:b, # old\n        host:a;\n" ++
      " permit src = user; dst = host:x; prt = tcp 80;\n\x7d\n")]

/-- The user that is named twice. -/
def copiedUser : Element :=
  .named "host" "a"

/-- A job that asks for both copies of the user. -/
def copiesJob : Job where
  method := "remove_from_user"
  params := some (.object
    [("service", .string "s"), ("user", .array [.string "host:a", .string "host:a"])])

/-- Both copies are removed, and the other user stays. -/
theorem withdraws_of_copiesJob :
    ∃ repo s repo', ofSources ⟨"policy"⟩ copiesPolicy = .ok repo ∧
      repo.lookupAs .service "service:s" = .ok s ∧
      copiesJob.Removes "service:s" (.users [copiedUser, copiedUser]) ∧
      copiesJob.apply repo = .ok () repo' ∧
      repo'.lookupAs .service "service:s" =
        .ok { s with user := s.user.without [copiedUser, copiedUser] } ∧
      (s.user.without [copiedUser, copiedUser]).elements.map (·.content.render) =
        ["host:b"] := by
  have hloaded : ((ofSources ⟨"policy"⟩ copiesPolicy).toOption.bind fun repo =>
      (repo.lookupAs .service "service:s").toOption.map fun s =>
        (decide (s.user.Suffices [copiedUser, copiedUser]),
          (s.user.without [copiedUser, copiedUser]).elements.map (·.content.render))) =
      some (true, ["host:b"]) := by
    decide +kernel
  simp only [Option.bind_eq_some_iff, Option.map_eq_some_iff, toOption_eq_some, Prod.mk.injEq,
    decide_eq_true_eq] at hloaded
  obtain ⟨repo, hload, s, hlookup, hsuffices, hleft⟩ := hloaded
  have hname : qualify "service" "s" = "service:s" := by decide +kernel
  have hjob : copiesJob.Removes "service:s" (.users [copiedUser, copiedUser]) :=
    hname ▸ @Removes.users _ ⟨"s", .many ["host:a", "host:a"]⟩ _ rfl rfl rfl
  obtain ⟨⟨failure, s', repo', hs', hnone, happly, hlookup'⟩, -⟩ :=
    exists_withdraws_of_removes hjob hlookup
  have hfailure := hnone.2 hsuffices
  rw [hfailure] at happly
  refine ⟨repo, s, repo', hload, hlookup, hjob, happly, ?_, hleft⟩
  cases hs' with
  | users h =>
    obtain rfl := Option.map_eq_none_iff.1 hfailure
    rw [hlookup', h.eq_without]

end Samples

end Job

end PolicyEditor
