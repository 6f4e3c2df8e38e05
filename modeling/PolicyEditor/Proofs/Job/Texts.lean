import PolicyEditor.Proofs.Editing.Attributes
import PolicyEditor.Proofs.Job.Targets
import PolicyEditor.Proofs.Repository.Faithful

/-!
# Jobs with well-formed texts

The texts in a job go into the definitions as they are.  If each of them is a text of what it stands
for, every file that the job edits is written as it is in memory: its text is read as the same
definitions, and so no text of a job has an effect on another definition, attribute or rule.  The
methods do not look at the texts themselves.

## Main definitions

* `IsTypedName` : a name of a definition of a certain type.
* `Params.CreateOwner.Plain` and so on : the texts of the parameters are well formed.
* `Job.IsPlain` : a job on owners, hosts, services or rules with such parameters.

## Main results

* `Job.faithful_apply` : such a job keeps all files faithful.
* `reparse_of_plain` : after such jobs an intact file is read again.
-/

namespace PolicyEditor

open Edit Job Repository

/-- A word with a type and a name in it. -/
structure IsTypedName (type name : String) : Prop where
  word : IsWord name.toList
  type : definitionType? name = some type

namespace Params

/-! ### Well-formed parameters -/

/-- The owner has a name, and its lists consist of values. -/
structure CreateOwner.Plain (p : CreateOwner) : Prop where
  name : IsTypedName "owner" (qualify "owner" p.name)
  admins : ∀ text ∈ p.admins, IsValue text
  watchers : ∀ texts ∈ p.watchers, ∀ text ∈ texts, IsValue text

/-- The new lists consist of values. -/
structure ModifyOwner.Plain (p : ModifyOwner) : Prop where
  admins : ∀ texts ∈ p.admins, ∀ text ∈ texts, IsValue text
  watchers : ∀ texts ∈ p.watchers, ∀ text ∈ texts, IsValue text

/-- The name of the host is a word, and its address and owner are values. -/
structure CreateHost.Plain (p : CreateHost) : Prop where
  name : IsWord ("host:" ++ (splitIdHost p.name).1).toList
  ip : IsValue p.ip
  owner : ∀ text ∈ p.owner, text ≠ "" → IsValue text

/-- The new owner of the host is a value. -/
structure ModifyHost.Plain (p : ModifyHost) : Prop where
  owner : ∀ text ∈ p.owner, text ≠ "" → IsValue text

/-- The protocols of a rule are values. -/
structure RuleParams.Plain (p : RuleParams) : Prop where
  prt : ∀ text ∈ p.prt.values, IsValue text

/-- The service has a name and a description that is one, and the protocols of its rules are
values. -/
structure CreateService.Plain (p : CreateService) : Prop where
  name : IsTypedName "service" (qualify "service" p.name)
  description : ∀ text ∈ p.description, IsDescription text
  rules : ∀ rule ∈ p.rules, rule.Plain

end Params

namespace Job

/-! ### Owners -/

theorem attributesKept_changeList {p : Printer} {as : List Attribute} {name : String}
    {list : Option (List String)} (hname : IsWord name.toList) (huser : name ≠ "user")
    (h : ∀ texts ∈ list, ∀ text ∈ texts, IsValue text) :
    AttributesKept p as (changeList name list as) := by
  unfold changeList
  split
  · exact .refl as
  · exact attributesKept_removeAttribute name
  · exact attributesKept_setSortedValues hname huser (h _ rfl)

theorem isWord_admins : IsWord "admins".toList := by decide

theorem isWord_watchers : IsWord "watchers".toList := by decide

theorem allSound_ownerAttributes {q : Printer} {p : Params.CreateOwner} (h : p.Plain) :
    AllSound q (ownerAttributes p) := by
  have hadmins : AttributesKept q [] (setSortedValues "admins" p.admins []) :=
    attributesKept_setSortedValues isWord_admins (by decide) h.admins
  rw [ownerAttributes]
  split
  · next watchers hwatchers =>
    have hboth := hadmins.trans
      (attributesKept_setSortedValues isWord_watchers (by decide) (h.watchers _ hwatchers))
    exact hboth.sound trivial
  · exact hadmins.sound trivial

theorem faithful_createOwner {p : Params.CreateOwner} (h : p.Plain) :
    Keeps Repository.Faithful (createOwner p) := by
  refine faithful_createDefinition fun q =>
    ⟨.nil, ⟨h.name.word, ⟨"owner", h.name.type, ?_⟩, ?_⟩, ?_⟩
  · exact ⟨by unfold Body.IsOther; decide, allSound_ownerAttributes h⟩
  · rintro _ ⟨⟩
  · rintro _ _ ⟨⟩

theorem faithful_modifyOwner {p : Params.ModifyOwner} (h : p.Plain) :
    Keeps Repository.Faithful (modifyOwner p) := by
  refine faithful_modifyNamed fun q b block block' _ hblock hedit => ?_
  cases hedit
  cases b <;> cases hblock
  exact .struct (.list ((attributesKept_changeList isWord_admins (by decide) h.admins).trans
    (attributesKept_changeList isWord_watchers (by decide) h.watchers)))

/-! ### Hosts -/

theorem host_ne_user (name : String) : "host:" ++ name ≠ "user" := by
  intro h
  have hlist := congrArg String.toList h
  rw [String.toList_append] at hlist
  exact absurd (congrArg List.head? hlist) (by simp)

theorem isWord_owner : IsWord "owner".toList := by decide

/-- A new host entry is sound. -/
theorem sound_newHost {q : Printer} {host ip : String} {owner : Option String}
    {as : List Attribute} (hhost : IsWord host.toList) (hip : IsValue ip)
    (howner : ∀ text ∈ owner, text ≠ "" → IsValue text) : (newHost host ip owner as).Sound q := by
  refine ⟨⟨hhost, trivial⟩, allSound_iff.2 fun a ha => ?_⟩
  rw [List.mem_cons, List.mem_map] at ha
  rcases ha with rfl | ⟨o, ho, rfl⟩
  · exact ⟨Layout.fits_empty,
      Attribute.sound_ofValues (by decide) (List.forall_mem_singleton.2 hip)⟩
  · obtain ⟨howner', hcond⟩ := Option.filter_eq_some_iff.1 (Option.mem_toList.1 ho)
    have hne : o ≠ "" := by
      rintro rfl
      simp at hcond
    exact ⟨Layout.fits_empty,
      Attribute.sound_ofValues isWord_owner (List.forall_mem_singleton.2 (howner o howner' hne))⟩

theorem faithful_addHost {q : Printer} {host ip : String} {owner : Option String} {name : String}
    (hname : host = "host:" ++ name) (hhost : IsWord host.toList) (hip : IsValue ip)
    (howner : ∀ text ∈ owner, text ≠ "" → IsValue text) :
    Keeps (Definition.Faithful q) (addHost host ip owner) := by
  intro d _ d' hd h
  rcases addHost_cases host ip owner d with
    ⟨block, -, -, hadd⟩ | ⟨block, hbody, -, hadd⟩ | ⟨-, hadd⟩ <;>
    rw [hadd] at h <;> cases h
  · refine hd.withBody (hbody ▸ .network (.list ?_))
    exact (attributesKept_concat rfl (sound_newHost hhost hip howner)
      (hname ▸ host_ne_user name)).trans attributesKept_sortHosts
  · exact hd

theorem faithful_createHost {p : Params.CreateHost} (h : p.Plain) :
    Keeps Repository.Faithful (createHost p) :=
  (keeps_ofExcept _).bind fun _ => keeps_modifyAny <|
    faithful_modifyMatching fun _ => faithful_addHost rfl h.name h.ip h.owner

theorem attributesKept_changeOwner {q : Printer} {owner : Option String} {as : List Attribute}
    (howner : ∀ text ∈ owner, IsValue text) : AttributesKept q as (changeOwner owner as) := by
  cases owner with
  | none => exact attributesKept_removeAttribute "owner"
  | some text =>
    exact attributesKept_setValues isWord_owner (by decide)
      (List.forall_mem_singleton.2 (howner text rfl).sound)

/-- Only the block of the first entry of the host changes. -/
theorem attributesKept_changeHost {q : Printer} {host : String} {owner : Option String}
    {as as' : List Attribute} (howner : ∀ text ∈ owner, IsValue text)
    (h : changeHost host owner as = .ok as') : AttributesKept q as as' := by
  induction as generalizing as' with
  | nil =>
    cases h
    exact .refl []
  | cons a as ih =>
    rw [changeHost] at h
    split at h
    · obtain ⟨name, value, layout, frame⟩ := a
      cases value with
      | block attributes =>
        cases h
        have hentry : AttributesChange (.keeping q) (⟨name, .block attributes, layout, frame⟩ :: as)
            (⟨name, .block (changeOwner owner attributes), layout, frame⟩ :: as) :=
          @AttributesChange.entry _ [] as _ _ (.block (.list (attributesKept_changeOwner howner)))
        exact hentry.kept (ListEdit.keeping_keeps q)
      | _ => cases h
    · obtain ⟨rest, hrest, h⟩ := Except.bind_eq_ok.1 h
      cases h
      exact .cons id (.inl rfl) rfl (ih hrest)

theorem faithful_modifyHostIn {q : Printer} {host : String} {owner : Option String}
    (howner : ∀ text ∈ owner, IsValue text) :
    Keeps (Definition.Faithful q) (modifyHostIn host owner) := by
  intro d _ d' hd h
  rcases modifyHostIn_cases host owner d with
    ⟨block, a, -, -, -, hmodify⟩ | ⟨block, as, hbody, hchange, hmodify⟩ | ⟨-, hmodify⟩ <;>
    rw [hmodify] at h <;> cases h
  · exact hd.withBody (hbody ▸ .network (.list (attributesKept_changeHost howner hchange)))
  · exact hd

theorem faithful_modifyHost {p : Params.ModifyHost} (h : p.Plain) :
    Keeps Repository.Faithful (modifyHost p) := by
  have howner : ∀ text ∈ p.owner.filter (!·.isEmpty), IsValue text := by
    intro text htext
    obtain ⟨htext, hcond⟩ := Option.filter_eq_some_iff.1 htext
    refine h.owner text htext ?_
    rintro rfl
    simp at hcond
  exact keeps_modifyAny (faithful_modifyMatching fun q => faithful_modifyHostIn howner)

/-! ### Services -/

theorem spells_of_unions {texts : List String} {es : List Element}
    (h : Phrase.unions texts = .ok es) : ∀ e ∈ es, Element.SpellsItem e.chars e := by
  induction texts generalizing es with
  | nil =>
    cases h
    simp
  | cons text texts ih =>
    rw [Phrase.unions] at h
    obtain ⟨front, hparse, h⟩ := Except.bind_eq_ok.1 h
    obtain ⟨back, hrest, h⟩ := Except.bind_eq_ok.1 h
    cases h
    exact List.forall_mem_append.2 ⟨spells_of_parseUnion hparse, ih hrest⟩

/-- The elements of a phrase come from texts. -/
theorem spells_of_elements {phrase : Phrase} {es : List Element} (h : phrase.elements = .ok es) :
    ∀ e ∈ es, Element.SpellsItem e.chars e := by
  cases phrase with
  | one text => exact spells_of_parseUnion h
  | many texts => exact spells_of_unions h

/-- A rule of well-formed parameters is new and sound. -/
theorem sound_buildRule {q : Printer} {p : Params.RuleParams} {r : Rule} (hp : p.Plain)
    (h : buildRule p = .ok r) : r.layout = {} ∧ r.Sound q := by
  rw [buildRule] at h
  obtain ⟨action, -, h⟩ := Except.bind_eq_ok.1 h
  obtain ⟨src, hsrc, h⟩ := Except.bind_eq_ok.1 h
  obtain ⟨dst, hdst, h⟩ := Except.bind_eq_ok.1 h
  cases h
  exact ⟨rfl, (Rule.sound_ofParts (spells_of_elements hsrc) (spells_of_elements hdst)
    hp.prt).normalize rfl⟩

theorem sound_buildRules {q : Printer} {ps : List Params.RuleParams} {rs rs' : List Rule}
    (hps : ∀ p ∈ ps, p.Plain) (hrs : ∀ r ∈ rs, r.layout = {} ∧ r.Sound q)
    (h : buildRules rs ps = .ok rs') : ∀ r ∈ rs', r.layout = {} ∧ r.Sound q := by
  induction ps generalizing rs with
  | nil =>
    cases h
    exact hrs
  | cons p ps ih =>
    rw [List.forall_mem_cons] at hps
    rw [buildRules] at h
    obtain ⟨r, hrule, h⟩ := Except.bind_eq_ok.1 h
    refine ih hps.2 (fun r' hr' => ?_) h
    rcases List.eq_or_mem_of_mem_insertIdx hr' with rfl | hr'
    · exact sound_buildRule hps.1 hrule
    · exact hrs r' hr'

/-- A new service with its lists in order is sound. -/
theorem sound_newService {q : Printer} {description : Option String} {user : List Element}
    {rules : List Rule} (huser : ∀ e ∈ user, Element.SpellsItem e.chars e)
    (hrules : ∀ r ∈ rules, r.layout = {} ∧ r.Sound q) :
    Service.Sound q
      { description
        user := (Union.ofElements .user user).normalize
        rules := normalizeRules (rules.map Rule.normalize) } where
  attributes := trivial
  names := by simp
  user := (Union.sound_ofElements huser).normalize
  user_fits := Layout.fits_empty
  user_role := rfl
  rules r hr := by
    obtain ⟨r', hr', rfl⟩ := List.mem_map.1 (mem_normalizeRules hr)
    obtain ⟨hlayout, hsound⟩ := hrules r' hr'
    have hspan : r'.layout.span = none := by rw [hlayout]
    have hfits : Layout.Fits q false r'.layout := hlayout ▸ Layout.fits_empty
    exact ⟨hfits, hsound.normalize hspan⟩

theorem faithful_createService {p : Params.CreateService} (h : p.Plain) :
    Keeps Repository.Faithful (createService p) := by
  refine keeps_bind_ofExcept fun user huser => keeps_bind_ofExcept fun rules hrules => ?_
  refine faithful_createDefinition fun q =>
    ⟨.nil, ⟨h.name.word, ⟨"service", h.name.type, ?_⟩, ?_⟩, ?_⟩
  · exact ⟨rfl, sound_newService (spells_of_elements huser)
      (sound_buildRules h.rules (by simp) hrules)⟩
  · exact fun text htext => (h.description text htext).line
  · exact fun _ text htext => (h.description text htext).reread

theorem faithful_addRule {p : Params.AddRule} (h : p.rule.Plain) :
    Keeps Repository.Faithful (addRule p) := by
  refine keeps_bind_ofExcept fun rule hrule => faithful_modifyNamed fun q b s s' _ hs hedit => ?_
  cases hedit
  cases b <;> cases hs
  refine .service (.rules fun r hr => ?_)
  rcases List.eq_or_mem_of_mem_insertIdx hr with rfl | hr
  · obtain ⟨hlayout, hsound⟩ := sound_buildRule (q := q) h hrule
    exact .inr ⟨⟨hlayout ▸ Layout.fits_empty, hsound⟩, hlayout ▸ rfl⟩
  · exact .inl hr

/-! ### Jobs -/

/-- A job on owners, hosts, services or rules with well-formed parameters. -/
inductive IsPlain (job : Job) : Prop
  | createOwner {p : Params.CreateOwner} (hmethod : Method.ofName? job.method = some .createOwner)
      (hparams : job.decode Params.CreateOwner.ofJson = .ok p) (h : p.Plain)
  | modifyOwner {p : Params.ModifyOwner} (hmethod : Method.ofName? job.method = some .modifyOwner)
      (hparams : job.decode Params.ModifyOwner.ofJson = .ok p) (h : p.Plain)
  | createHost {p : Params.CreateHost} (hmethod : Method.ofName? job.method = some .createHost)
      (hparams : job.decode Params.CreateHost.ofJson = .ok p) (h : p.Plain)
  | modifyHost {p : Params.ModifyHost} (hmethod : Method.ofName? job.method = some .modifyHost)
      (hparams : job.decode Params.ModifyHost.ofJson = .ok p) (h : p.Plain)
  | createService {p : Params.CreateService}
      (hmethod : Method.ofName? job.method = some .createService)
      (hparams : job.decode Params.CreateService.ofJson = .ok p) (h : p.Plain)
  | addRule {p : Params.AddRule} (hmethod : Method.ofName? job.method = some .addRule)
      (hparams : job.decode Params.AddRule.ofJson = .ok p) (h : p.rule.Plain)

/-- A job with a method that is not `multi_job` runs this method on its parameters. -/
theorem keeps_apply_of_run {α : Type} {P : Repository → Prop} {job : Job} {method : Method}
    {decode : Json → Decoded α} {edit : α → Edit Repository Unit} {p : α}
    (hmethod : Method.ofName? job.method = some method)
    (hrun : ∀ multiJob, applyMethod job multiJob method = job.run decode edit)
    (hparams : job.decode decode = .ok p) (h : Keeps P (edit p)) : Keeps P job.apply := by
  rw [apply, applyNested, hmethod]
  dsimp only
  rw [hrun]
  refine keeps_run fun p' hparams' => ?_
  rw [hparams] at hparams'
  cases hparams'
  exact h

/-- A job with well-formed parameters keeps all files faithful. -/
theorem faithful_apply {job : Job} (h : job.IsPlain) : Keeps Repository.Faithful job.apply := by
  cases h with
  | createOwner hmethod hparams h =>
    exact keeps_apply_of_run hmethod (fun _ => rfl) hparams (faithful_createOwner h)
  | modifyOwner hmethod hparams h =>
    exact keeps_apply_of_run hmethod (fun _ => rfl) hparams (faithful_modifyOwner h)
  | createHost hmethod hparams h =>
    exact keeps_apply_of_run hmethod (fun _ => rfl) hparams (faithful_createHost h)
  | modifyHost hmethod hparams h =>
    exact keeps_apply_of_run hmethod (fun _ => rfl) hparams (faithful_modifyHost h)
  | createService hmethod hparams h =>
    exact keeps_apply_of_run hmethod (fun _ => rfl) hparams (faithful_createService h)
  | addRule hmethod hparams h =>
    exact keeps_apply_of_run hmethod (fun _ => rfl) hparams (faithful_addRule h)

end Job

section Samples

/-- A job that creates an owner with a single administrator. -/
def ownerJob (admin : String) : Job where
  method := "create_owner"
  params := some (.object [("name", .string "y"), ("admins", .array [.string admin])])

/-- The number of attributes of a structured definition. -/
def attributeCount (d : Definition) : Nat :=
  match d.body with
  | .struct block => block.attributes.length
  | _ => 0

/-- A file of owners to which a job adds an owner. -/
theorem apply_ownerJob {admin text : String} {intact : Bool}
    (h :
      (match Repository.ofSources ⟨"policy"⟩ [(⟨"owner"⟩, "# owners\n")] with
        | .error _ => none
        | .ok repo =>
          match Job.applyAll Job.apply [ownerJob admin] repo with
          | .error _ _ => none
          | .ok _ repo' => repo'.dirtyFiles.head?.map fun f =>
            (f.render, f.forest.intact f.printer, f.forest.content.map attributeCount)) =
        some (text, intact, [1])) :
    ∃ repo repo', Repository.ofSources ⟨"policy"⟩ [(⟨"owner"⟩, "# owners\n")] = .ok repo ∧
      Job.applyAll Job.apply [ownerJob admin] repo = .ok () repo' ∧
      ∃ f ∈ repo'.dirtyFiles, f.render = text ∧ f.forest.intact f.printer = intact ∧
        f.forest.content.map attributeCount = [1] := by
  cases hload : Repository.ofSources ⟨"policy"⟩ [(⟨"owner"⟩, "# owners\n")] with
  | error e => simp [hload] at h
  | ok repo =>
    simp only [hload] at h
    cases hjobs : Job.applyAll Job.apply [ownerJob admin] repo with
    | error e repo' => simp [hjobs] at h
    | ok done repo' =>
      simp only [hjobs, Option.map_eq_some_iff, Prod.mk.injEq] at h
      obtain ⟨f, hf, hrender, hintact, hcount⟩ := h
      exact ⟨repo, repo', rfl, hjobs, f, List.mem_of_mem_head? hf, hrender, hintact, hcount⟩

end Samples

end PolicyEditor
