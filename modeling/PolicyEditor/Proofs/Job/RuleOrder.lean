import PolicyEditor.Proofs.Job.Agreement

/-!
# Rules that jobs insert

Two methods insert a rule into a service.  The rule goes to its place among the rules that are
there, and these are not put in order for this.  So whatever order they have, each action keeps its
rules in their order and gets the new one as its last.

All `deny` rules are in front of all `permit` rules afterwards if and only if they were before.  A
service that was written with a `permit` rule in front of a `deny` rule keeps them like this.

## Main definitions

* `Service.GainsRule` : a service with one more rule at the place for it.
* `Job.InsertsRule` : the rule that a job inserts, and the service.

## Main results

* `denyFirst_insertRule_iff` : an insertion does not put rules in order.
* `Job.apply_of_insertsRule` : what a job does that inserts a rule.
* `Job.exists_gainsRule_of_apply` : a job of the two methods that succeeds.
-/

namespace PolicyEditor

/-! ### One more rule -/

/-- If the `deny` rules are in front with a new rule at its place, they are so without it. -/
theorem denyFirst_insertRule_iff {rules : List Rule} (r : Rule) :
    DenyFirst (insertRule rules r) ↔ DenyFirst rules := by
  refine ⟨fun h => ?_, denyFirst_insertRule r⟩
  obtain ⟨front, back, rfl, hinsert, -⟩ := exists_append_insertRule rules r
  rw [hinsert] at h
  exact h.sublist ((List.Sublist.refl front).append (List.sublist_cons_self r back))

/-- The service `s'` is `s` with the rule `r` as one more rule.  A `deny` rule is directly behind
the last one, a `permit` rule behind all rules. -/
structure Service.GainsRule (s : Service) (r : Rule) (s' : Service) : Prop where
  rest : s' = { s with rules := s'.rules }
  place : ∃ front back, s.rules = front ++ back ∧ s'.rules = front ++ r :: back ∧
    (∀ q ∈ front.getLast?, r.isDeny = true → q.isDeny = true) ∧
    ∀ q ∈ back, r.isDeny = true ∧ q.isDeny = false
  classes : ∀ deny, s'.rules.filter (·.isDeny == deny) =
    s.rules.filter (·.isDeny == deny) ++ [r].filter (·.isDeny == deny)
  denyFirst : DenyFirst s'.rules ↔ DenyFirst s.rules

namespace Job

open Repository Edit

theorem gainsRule_withRule (s : Service) (r : Rule) : s.GainsRule r (withRule s r) where
  rest := rfl
  place := by
    obtain ⟨front, back, hrules, hinsert, -, hlast, hback⟩ := exists_append_insertRule s.rules r
    exact ⟨front, back, hrules, hinsert, hlast, hback⟩
  classes deny := (filter_insertRule s.rules r deny).trans (List.filter_append _ _)
  denyFirst := denyFirst_insertRule_iff r

/-! ### Jobs that insert a rule -/

/-- The job inserts a rule into the service of a name. -/
inductive InsertsRule (job : Job) : (service : String) → Rule → Prop
  | rule {p : Params.AddRule} {r : Rule} (hmethod : job.method = "add_rule")
      (hparams : job.decode Params.AddRule.ofJson = .ok p) (hrule : buildRule p.rule = .ok r) :
      InsertsRule job (qualify "service" p.service) r
  | userRule {p : Params.ServiceRule} {action : Action} {elements : List Element} {side : Side}
      (hmethod : job.method = "add_service_rule")
      (hparams : job.decode Params.ServiceRule.ofJson = .ok p)
      (haction : parseAction p.action = .ok action)
      (hobjects : Phrase.unions p.objects = .ok elements) (hside : p.user = side.keyword) :
      InsertsRule job (qualify "service" p.name)
        (side.rule action elements (protocolsOf p.protocols))

variable {job : Job} {repo repo' : Repository} {service : String} {r : Rule}

theorem apply_of_insertsRule (h : job.InsertsRule service r) :
    job.apply = modifyNamed .service service (insertRuleInto r) := by
  cases h with
  | rule hmethod hparams hrule =>
    have hname : Method.ofName? job.method = some .addRule := by rw [hmethod]; rfl
    rw [apply_of_decode hname (fun _ _ => rfl) hparams, addRule, hrule, ofExcept_ok_bind]
  | @userRule p _ _ side hmethod hparams haction hobjects hside =>
    have hname : Method.ofName? job.method = some .addServiceRule := by rw [hmethod]; rfl
    rw [apply_of_decode hname (fun _ _ => rfl) hparams, addServiceRule, haction, hobjects,
      ofExcept_ok_bind, ofExcept_ok_bind, hside]
    rcases side with - | - <;> rfl

/-- A job of the two methods that succeeds inserts a rule. -/
theorem exists_insertsRule (hmethod : job.method = "add_rule" ∨ job.method = "add_service_rule")
    (h : job.apply repo = .ok () repo') : ∃ service r, job.InsertsRule service r := by
  rcases hmethod with hmethod | hmethod
  · have hname : Method.ofName? job.method = some .addRule := by rw [hmethod]; rfl
    rw [apply_of_ofName? hname] at h
    obtain ⟨p, hparams, h⟩ := ofExcept_bind_eq_ok.1 h
    obtain ⟨r, hrule, -⟩ := ofExcept_bind_eq_ok.1 h
    exact ⟨_, r, .rule hmethod hparams hrule⟩
  · have hname : Method.ofName? job.method = some .addServiceRule := by rw [hmethod]; rfl
    rw [apply_of_ofName? hname] at h
    obtain ⟨p, hparams, h⟩ := ofExcept_bind_eq_ok.1 h
    obtain ⟨action, haction, h⟩ := ofExcept_bind_eq_ok.1 h
    obtain ⟨elements, hobjects, h⟩ := ofExcept_bind_eq_ok.1 h
    obtain ⟨r, hrule, -⟩ := ofExcept_bind_eq_ok.1 h
    obtain ⟨side, hside⟩ : ∃ side : Side, p.user = side.keyword := by
      split_ifs at hrule with hsrc hdst
      · exact ⟨.src, hsrc⟩
      · exact ⟨.dst, hdst⟩
    exact ⟨_, _, .userRule hmethod hparams haction hobjects hside⟩

/-- A job that inserts a rule and succeeds finds the service, which then has the rule. -/
theorem exists_withRule_of_insertsRule (hinserts : job.InsertsRule service r)
    (h : job.apply repo = .ok () repo') :
    ∃ s, repo.lookupAs .service service = .ok s ∧
      repo'.lookupAs .service service = .ok (withRule s r) := by
  rw [apply_of_insertsRule hinserts] at h
  obtain ⟨s, -, hlookup, ⟨⟩, hlookup'⟩ :=
    (reaches_insertRuleInto service r).exists_of_ok (succeeds_modify _) h
  exact ⟨s, hlookup, hlookup'⟩

/-- A job of the two methods that succeeds inserts its rule at the place for it.  The rules of the
service that were there stay in their order, whatever this is, and the new one is the last of its
action.  All `deny` rules are in front of all `permit` rules if and only if they were before. -/
theorem exists_gainsRule_of_apply
    (hmethod : job.method = "add_rule" ∨ job.method = "add_service_rule")
    (h : job.apply repo = .ok () repo') :
    ∃ service r s s', job.InsertsRule service r ∧ repo.lookupAs .service service = .ok s ∧
      repo'.lookupAs .service service = .ok s' ∧ s.GainsRule r s' := by
  obtain ⟨service, r, hinserts⟩ := exists_insertsRule hmethod h
  obtain ⟨s, hlookup, hlookup'⟩ := exists_withRule_of_insertsRule hinserts h
  exact ⟨service, r, s, _, hinserts, hlookup, hlookup', gainsRule_withRule s r⟩

/-! ### A service with a `permit` rule in front of a `deny` rule -/

section Samples

/-- A service with a `permit` rule in front of a `deny` rule. -/
def mixedRules : List (Path × String) :=
  [(⟨"rule"⟩,
    "service:s = \x7b\n user = host:a;\n permit src = user;\n dst = host:b;\n prt = tcp 22;\n" ++
      " deny src = user;\n dst = host:c;\n prt = tcp 23;\n\x7d\n")]

/-- A job that adds a `permit` rule. -/
def permitJob : Job :=
  ruleJob .src "s" "permit" ["host:b"] (.many ["tcp 80"])

/-- Whether a service has its `deny` rules in front. -/
def denyFirst? (service : String) (repo : Repository) : Option Bool :=
  (repo.lookupAs .service service).toOption.map fun s => decide (DenyFirst s.rules)

theorem exists_denyFirst?_permitJob :
    ∃ repo repo', ofSources ⟨"policy"⟩ mixedRules = .ok repo ∧
      permitJob.apply repo = .ok () repo' ∧
      denyFirst? "service:s" repo' = some false := by
  have hloaded : ((ofSources ⟨"policy"⟩ mixedRules).toOption.bind fun repo =>
      (permitJob.apply.outcome? repo).map fun out => denyFirst? "service:s" out.2) =
      some (some false) := by
    decide +kernel
  simp only [Option.map_eq_some_iff, Option.bind_eq_some_iff, Edit.toOption_eq_some,
    outcome?_eq_some] at hloaded
  obtain ⟨repo, hload, ⟨_, repo'⟩, happly, hfirst⟩ := hloaded
  exact ⟨repo, repo', hload, happly, hfirst⟩

/-- A new `permit` rule goes behind the two rules. -/
theorem exists_gainsRule_of_permitJob :
    ∃ repo repo' service r s s', ofSources ⟨"policy"⟩ mixedRules = .ok repo ∧
      permitJob.method = "add_rule" ∧ permitJob.apply repo = .ok () repo' ∧
      permitJob.InsertsRule service r ∧ repo.lookupAs .service service = .ok s ∧
      repo'.lookupAs .service service = .ok s' ∧ s.GainsRule r s' := by
  obtain ⟨repo, repo', hload, happly, -⟩ := exists_denyFirst?_permitJob
  obtain ⟨service, r, s, s', hgains⟩ := exists_gainsRule_of_apply (.inl rfl) happly
  exact ⟨repo, repo', service, r, s, s', hload, rfl, happly, hgains⟩

theorem insertsRule_permitJob : ∃ r, permitJob.InsertsRule "service:s" r := by
  have hparams : permitJob.decode Params.AddRule.ofJson =
      .ok ⟨"s", "permit", .one "user", .many ["host:b"], .many ["tcp 80"]⟩ := by
    rw [permitJob, ruleJob, Job.decode, ofMembers, Option.getD_some, addRule_ofJson]
    rfl
  exact ⟨_, .rule rfl hparams rfl⟩

/-- The rules of a service are not put in order when one is inserted. -/
theorem not_denyFirst_of_insertsRule :
    ¬ ∀ (job : Job) (repo repo' : Repository) (service : String) (r : Rule) (s s' : Service),
      job.InsertsRule service r → job.apply repo = .ok () repo' →
      repo.lookupAs .service service = .ok s → repo'.lookupAs .service service = .ok s' →
      DenyFirst s'.rules ∧ ∀ deny, (s.rules.filter (·.isDeny == deny)).Sublist
        (s'.rules.filter (·.isDeny == deny)) := by
  intro h
  obtain ⟨repo, repo', -, happly, hfirst⟩ := exists_denyFirst?_permitJob
  obtain ⟨r, hinserts⟩ := insertsRule_permitJob
  obtain ⟨s, hlookup, hlookup'⟩ := exists_withRule_of_insertsRule hinserts happly
  have hdeny := (h permitJob repo repo' "service:s" r s _ hinserts happly hlookup hlookup').1
  rw [denyFirst?, hlookup'] at hfirst
  exact of_decide_eq_false (Option.some.inj hfirst) hdeny

end Samples

end Job

end PolicyEditor
