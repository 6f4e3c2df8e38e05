import PolicyEditor.Proofs.Job.Removals
import PolicyEditor.Proofs.Job.Requests

/-!
# Servers that jobs remove

The older method for the servers of a rule looks for its objects on both sides of the rule.  On each
side the first occurrences of all objects go.  The job succeeds as soon as one of the objects is on
one of the sides, no matter what becomes of the others, so it is not known from a success that all
of them were there.

## Main definitions

* `Rule.Serves` : an element is on one of the sides of a rule.
* `Rule.withoutServers` : a rule without elements on both sides.

## Main results

* `Job.dropServers_eq` : the servers that are gone, and whether there were any.
* `Job.servers_of_delete` : a job fails if and only if none of its objects is in the rule.
* `Job.not_serves_of_delete` : a job may succeed although some of its objects are not in the rule.
-/

namespace PolicyEditor

open Edit Job Repository

/-! ### Both sides of a rule -/

namespace Rule

/-- One side of the rule has an entry with the text of the element. -/
def Serves (r : Rule) (e : Element) : Prop :=
  r.src.Holds e ∨ r.dst.Holds e

instance (r : Rule) (e : Element) : Decidable (r.Serves e) :=
  inferInstanceAs (Decidable (_ ∨ _))

/-- The rule without the first occurrences of elements on both sides. -/
def withoutServers (r : Rule) (es : List Element) : Rule :=
  { r with src := r.src.without es, dst := r.dst.without es }

theorem withoutServers_withoutServers (r : Rule) (es es' : List Element) :
    (r.withoutServers es).withoutServers es' = r.withoutServers (es ++ es') := by
  simp only [withoutServers, Union.without_without]

theorem withoutServers_of_not_serves {r : Rule} {e : Element} (h : ¬r.Serves e) :
    r.withoutServers [e] = r := by
  rw [Serves, not_or] at h
  rw [withoutServers, Union.without_of_not_holds h.1, Union.without_of_not_holds h.2]

end Rule

namespace Job

theorem dropElement_eq (e : Element) (u : Union) :
    dropElement e u = (u.without [e], decide (u.Holds e)) := by
  rw [dropElement]
  by_cases he : u.Holds e
  · rw [Union.removeMember?_of_holds he, decide_eq_true he]
    rfl
  · rw [Union.removeMember?_of_not_holds he, decide_eq_false he, Union.without_of_not_holds he]

/-- The servers that are asked for are gone from both sides.  They are found if any of them is
there. -/
theorem dropServers_eq (es : List Element) (r : Rule) :
    dropServers es r = (r.withoutServers es, decide (∃ e ∈ es, r.Serves e)) := by
  induction es generalizing r with
  | nil => simp [dropServers, Rule.withoutServers, Union.without, withoutFirst_nil]
  | cons e es ih =>
    have hrest := ih (r.withoutServers [e])
    rw [Rule.withoutServers_withoutServers, List.singleton_append] at hrest
    simp only [dropServers, dropElement_eq]
    rw [← Rule.withoutServers, hrest, Prod.mk.injEq]
    refine ⟨rfl, ?_⟩
    rw [← Bool.decide_or, ← Bool.decide_or]
    refine decide_eq_decide.2 ?_
    by_cases he : r.Serves e
    · exact iff_of_true (.inl he) ⟨e, List.mem_cons_self, he⟩
    · rw [Rule.withoutServers_of_not_serves he, List.exists_mem_cons_iff]
      rfl

variable {es : List Element} {missing : PolicyError} {r : Rule}

theorem removeServers_of_serves (h : ∃ e ∈ es, r.Serves e) :
    removeServers missing es r = ending none (r.withoutServers es) := by
  simp only [removeServers, bind, EStateM.bind, get_apply, set_apply, dropServers_eq,
    decide_eq_true h]
  rfl

theorem removeServers_of_not_serves (h : ¬∃ e ∈ es, r.Serves e) :
    removeServers missing es r = .error missing r := by
  have hfail : removeServers missing es r = .error missing (dropServers es r).1 := by
    simp only [removeServers, bind, EStateM.bind, get_apply, set_apply, dropServers_eq,
      decide_eq_false h]
    rfl
  rw [hfail, dropServers_of_missing (by rw [dropServers_eq, decide_eq_false h])]

variable {job : Job} {p : Params.ServiceRuleObject} {repo : Repository} {s : Service} {i : Nat}

/-- What comes of a job of the older method for servers.  It succeeds as soon as one of its objects
is on one of the sides of the rule, and then the first occurrences of all objects are gone from both
sides.  If there is none of them, it fails and changes nothing. -/
theorem servers_of_delete (hmethod : job.method = "delete_service_server")
    (hparams : job.decode Params.ServiceRuleObject.ofJson = .ok p)
    (hobjects : parseUnion p.object = .ok es)
    (hlookup : repo.lookupAs .service (qualify "service" p.name) = .ok s)
    (hindex : ruleIndex? s.rules.length p.ruleNum = some i) (hrule : s.rules[i]? = some r) :
    ((∃ e ∈ es, r.Serves e) → ∃ repo', job.apply repo = .ok () repo' ∧
      repo'.lookupAs .service (qualify "service" p.name) =
        .ok { s with rules := s.rules.set i (r.withoutServers es) }) ∧
    ((∀ e ∈ es, ¬r.Serves e) → job.apply repo =
      .error (.notFound (.server p.object (.rule p.ruleNum (qualify "service" p.name)))) repo) := by
  have hname : Method.ofName? job.method = some .deleteServiceServer := by rw [hmethod]; rfl
  have happly : job.apply = modifyNamed .service (qualify "service" p.name)
      (editRule (qualify "service" p.name) p.ruleNum (removeServers
        (.notFound (.server p.object (.rule p.ruleNum (qualify "service" p.name)))) es)) := by
    rw [apply_of_decode hname (fun _ _ => rfl) hparams, deleteServiceServer, hobjects]
    rfl
  rw [happly]
  constructor
  · intro h
    exact modifyNamed_eq_ending Variant.lawful_service (fun _ => rfl) hlookup
      (editRule_eq_ending hindex hrule (removeServers_of_serves h))
  · intro h
    have hserves : ¬∃ e ∈ es, r.Serves e := fun ⟨e, he, hr⟩ => h e he hr
    exact (reaches_modifyNamed Variant.lawful_service (fun _ => rfl) _).refused hlookup
      (editRule_of_error hindex hrule (removeServers_of_not_serves hserves))

section Samples

/-- A service with one server. -/
def serverPolicy : List (Path × String) :=
  [(⟨"rule"⟩,
    "service:s1 = \x7b\n user = host:a;\n permit src = user;\n dst = host:b;\n" ++
      " prt = tcp 80;\n\x7d\n")]

/-- The server of the service, and one that it does not have. -/
def serverElements : List Element :=
  [.named "host" "b", .named "host" "zz"]

/-- A job that asks for both servers. -/
def serversJob : Job where
  method := "delete_service_server"
  params := some (.object
    [("name", .string "s1"), ("rule_num", .integer 1), ("object", .string "host:b, host:zz")])

theorem decode_serversJob : serversJob.decode Params.ServiceRuleObject.ofJson =
    .ok ⟨"s1", 1, "host:b, host:zz"⟩ :=
  rfl

theorem parseUnion_serverElements : parseUnion "host:b, host:zz" = .ok serverElements :=
  rfl

/-- The service has a rule with one of the servers, and the job succeeds. -/
theorem load_serverPolicy :
    ∃ repo s r repo', ofSources ⟨"policy"⟩ serverPolicy = .ok repo ∧
      repo.lookupAs .service (qualify "service" "s1") = .ok s ∧ s.rules = [r] ∧
      serverElements.map (fun e => decide (r.Serves e)) = [true, false] ∧
      serversJob.apply repo = .ok () repo' := by
  have hloaded : ((ofSources ⟨"policy"⟩ serverPolicy).toOption.bind fun repo =>
      (repo.lookupAs .service (qualify "service" "s1")).toOption.bind fun s =>
        (serversJob.apply.outcome? repo).map fun _ =>
          s.rules.map fun r => serverElements.map fun e => decide (r.Serves e)) =
      some [[true, false]] := by
    decide +kernel
  simp only [Option.bind_eq_some_iff, Option.map_eq_some_iff, toOption_eq_some,
    outcome?_eq_some, List.map_eq_singleton_iff] at hloaded
  obtain ⟨repo, hload, s, hlookup, ⟨_, repo'⟩, happly, r, hrules, hserves⟩ := hloaded
  exact ⟨repo, s, r, repo', hload, hlookup, hrules, hserves, happly⟩

/-- The job for both servers removes the one that is there. -/
theorem servers_of_serversJob :
    ∃ repo s r repo', ofSources ⟨"policy"⟩ serverPolicy = .ok repo ∧
      repo.lookupAs .service (qualify "service" "s1") = .ok s ∧ s.rules = [r] ∧
      serversJob.apply repo = .ok () repo' ∧
      repo'.lookupAs .service (qualify "service" "s1") =
        .ok { s with rules := [r.withoutServers serverElements] } := by
  obtain ⟨repo, s, r, -, hload, hlookup, hrules, hserves, -⟩ := load_serverPolicy
  simp only [serverElements, List.map_cons, List.cons.injEq, decide_eq_true_eq] at hserves
  obtain ⟨hfound, -⟩ :=
    servers_of_delete (r := r) (i := 0) rfl decode_serversJob parseUnion_serverElements hlookup
      (by rw [hrules]; rfl) (by rw [hrules]; rfl)
  obtain ⟨repo', happly, hlookup'⟩ := hfound ⟨_, List.mem_cons_self, hserves.1⟩
  rw [hrules] at hlookup'
  exact ⟨repo, s, r, repo', hload, hlookup, hrules, happly, hlookup'⟩

/-- A job of the older method may succeed although a server that it asks for is on neither side. -/
theorem not_serves_of_delete :
    ¬∀ (job : Job) (p : Params.ServiceRuleObject) (es : List Element) (repo : Repository)
        (s : Service) (i : Nat) (r : Rule) (repo' : Repository),
        job.method = "delete_service_server" →
        job.decode Params.ServiceRuleObject.ofJson = .ok p → parseUnion p.object = .ok es →
        repo.lookupAs .service (qualify "service" p.name) = .ok s →
        ruleIndex? s.rules.length p.ruleNum = some i → s.rules[i]? = some r →
        job.apply repo = .ok () repo' → ∀ e ∈ es, r.Serves e := by
  intro h
  obtain ⟨repo, s, r, repo', -, hlookup, hrules, hserves, happly⟩ := load_serverPolicy
  simp only [serverElements, List.map_cons, List.cons.injEq, decide_eq_false_iff_not] at hserves
  exact hserves.2.1 (h serversJob _ serverElements repo s 0 r repo' rfl decode_serversJob
    parseUnion_serverElements hlookup (by rw [hrules]; rfl) (by rw [hrules]; rfl) happly _
    (List.mem_cons_of_mem _ List.mem_cons_self))

end Samples

end Job

end PolicyEditor
