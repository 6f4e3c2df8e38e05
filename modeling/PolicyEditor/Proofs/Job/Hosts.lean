import PolicyEditor.Proofs.Job.Methods
import PolicyEditor.Proofs.Repository.Matching

/-!
# Hosts of networks

A job on hosts edits all matching networks in one pass, and the edit of each of them may fail: the
new host is there already, or the entry of the host has no block for its owner.  The edit of a
network that fails changes nothing, but the edits of the networks in front of it are not undone.

## Main definitions

* `Job.entryOf?` : the first entry of a host.
* `Job.Hinders` : a network that stops a job on hosts.

## Main results

* `Job.addHost_cases`, `Job.modifyHostIn_cases` : what the edits of a network do.
* `Job.EditsHosts.error` : which networks stop a job.
* `Job.modifyAny_error` : what the edit of all matching networks leaves if it fails.
-/

namespace PolicyEditor

open Edit Repository

namespace Job

/-- The first entry of a host. -/
def entryOf? (host : String) (attributes : List Attribute) : Option Attribute :=
  attributes.find? fun a => a.isHost && a.name == host

/-- A network that stops a job on hosts: it holds the host that is to be created, or an entry of the
host without a block. -/
inductive Hinders (job : Job) (d : Definition) : PolicyError → Prop
  | exists {p : Params.CreateHost} {block : Block} (hmethod : job.method = "create_host")
      (hparams : job.decode Params.CreateHost.ofJson = .ok p) (hbody : d.body = .network block)
      (hhost : hasHost ("host:" ++ (splitIdHost p.name).1) block.attributes = true) :
      Hinders job d (.alreadyExists (.host ("host:" ++ (splitIdHost p.name).1) d.name))
  | noBlock {p : Params.ModifyHost} {block : Block} {a : Attribute}
      (hmethod : job.method = "modify_host")
      (hparams : job.decode Params.ModifyHost.ofJson = .ok p) (hbody : d.body = .network block)
      (hentry : entryOf? ("host:" ++ (splitIdHost p.name).1) block.attributes = some a)
      (hblock : a.block? = none) :
      Hinders job d (.invalidArgument (.hostWithoutBlock ("host:" ++ (splitIdHost p.name).1)))

variable {e : PolicyError} {d d' : Definition} {host : String}

/-! ### Edits of networks -/

theorem isNetwork_eq_true {p : List Attribute → Bool} :
    isNetwork p d = true ↔ ∃ block, d.body = .network block ∧ p block.attributes = true := by
  rw [isNetwork]
  cases d.body <;> simp

theorem selects_named {network : String} :
    (Target.named network).selects d = true ↔
      ∃ block, d.body = .network block ∧ d.name = network := by
  simp only [Target.selects, isNetwork_eq_true, beq_iff_eq]

theorem selects_addressed {address : String} {network : Option String} :
    (Target.addressed address network).selects d = true ↔
      ∃ block, d.body = .network block ∧ (∀ name ∈ network, d.name = name) ∧
        valueOf? "ip" block.attributes = some address := by
  cases network <;> simp [Target.selects, isNetwork_eq_true]

theorem holdsHost_eq_true {network : Option String} :
    holdsHost host network d = true ↔
      ∃ block, d.body = .network block ∧ (∀ name ∈ network, d.name = name) ∧
        hasHost host block.attributes = true := by
  cases network <;> simp [holdsHost, isNetwork_eq_true]

/-- What adding a host does: the host is there already, or its entry goes to its place among the
hosts of the network. -/
theorem addHost_cases (host ip : String) (owner : Option String) (d : Definition) :
    (∃ block, d.body = .network block ∧ hasHost host block.attributes = true ∧
      addHost host ip owner d = .error (.alreadyExists (.host host d.name)) d) ∨
    (∃ block, d.body = .network block ∧ hasHost host block.attributes = false ∧
      addHost host ip owner d = .ok ()
        { d with
          body := .network { block with
            attributes := sortHosts
              (block.attributes ++ [newHost host ip owner block.attributes]) } }) ∨
    d.kind ≠ .network ∧ addHost host ip owner d = .ok () d := by
  simp only [addHost, bind, EStateM.bind, get_apply, Definition.kind]
  cases hbody : d.body with
  | network block =>
    dsimp only
    by_cases hhost : hasHost host block.attributes = true
    · rw [if_pos hhost]
      exact .inl ⟨block, rfl, hhost, rfl⟩
    · rw [if_neg hhost]
      exact .inr (.inl ⟨block, rfl, Bool.eq_false_iff.2 hhost, rfl⟩)
  | _ => exact .inr (.inr ⟨by simp [Body.kind], rfl⟩)

theorem changeHost_eq_error {owner : Option String} {as : List Attribute}
    (h : changeHost host owner as = .error e) :
    e = .invalidArgument (.hostWithoutBlock host) ∧
      ∃ a, entryOf? host as = some a ∧ a.block? = none := by
  induction as with
  | nil => cases h
  | cons a as ih =>
    rw [changeHost] at h
    split at h
    · next hhost =>
      split at h
      · cases h
      · next hblock =>
        cases h
        refine ⟨rfl, a, by simp only [entryOf?, List.find?_cons, hhost], ?_⟩
        rw [Attribute.block?]
        split
        · next attributes hvalue => exact absurd hvalue (hblock attributes)
        · rfl
    · next hhost =>
      have hentry : entryOf? host (a :: as) = entryOf? host as := by
        simp only [entryOf?, List.find?_cons, Bool.eq_false_iff.2 hhost]
      rw [hentry]
      cases hrest : changeHost host owner as with
      | error e' =>
        rw [hrest] at h
        cases h
        exact ih hrest
      | ok as' =>
        rw [hrest] at h
        cases h

/-- What another owner of a host does: the entry of the host has no block, or the attributes of the
network change. -/
theorem modifyHostIn_cases (host : String) (owner : Option String) (d : Definition) :
    (∃ block a, d.body = .network block ∧ entryOf? host block.attributes = some a ∧
      a.block? = none ∧
      modifyHostIn host owner d = .error (.invalidArgument (.hostWithoutBlock host)) d) ∨
    (∃ block as, d.body = .network block ∧ changeHost host owner block.attributes = .ok as ∧
      modifyHostIn host owner d =
        .ok () { d with body := .network { block with attributes := as } }) ∨
    d.kind ≠ .network ∧ modifyHostIn host owner d = .ok () d := by
  simp only [modifyHostIn, bind, EStateM.bind, get_apply, Definition.kind]
  cases hbody : d.body with
  | network block =>
    dsimp only
    cases hchange : changeHost host owner block.attributes with
    | error e =>
      obtain ⟨rfl, a, hentry, hblock⟩ := changeHost_eq_error hchange
      exact .inl ⟨block, a, rfl, hentry, hblock, rfl⟩
    | ok as => exact .inr (.inl ⟨block, as, rfl, hchange, rfl⟩)
  | _ => exact .inr (.inr ⟨by simp [Body.kind], rfl⟩)

/-- The edit of a network that fails changes nothing, and the network stops the job. -/
theorem EditsHosts.error {job : Job} {p : Definition → Bool} {x : Edit Definition Unit}
    (h : job.EditsHosts p x) (hd : x d = .error e d') : d' = d ∧ job.Hinders d e := by
  cases h with
  | @create p _ hmethod hparams =>
    rcases addHost_cases ("host:" ++ (splitIdHost p.name).1) p.ip p.owner d with
      ⟨block, hbody, hhost, h⟩ | ⟨block, -, -, h⟩ | ⟨-, h⟩ <;> rw [h] at hd <;> cases hd
    exact ⟨rfl, .exists hmethod hparams hbody hhost⟩
  | @modify p hmethod hparams =>
    rcases modifyHostIn_cases ("host:" ++ (splitIdHost p.name).1) (p.owner.filter (!·.isEmpty)) d
      with ⟨block, a, hbody, hentry, hblock, h⟩ | ⟨block, as, -, -, h⟩ | ⟨-, h⟩ <;>
      rw [h] at hd <;> cases hd
    exact ⟨rfl, .noBlock hmethod hparams hbody hentry hblock⟩

theorem modifyAny_eq_ok {repo repo' : Repository} {p : Definition → Bool}
    {x : Edit Definition Unit} {missing : PolicyError} :
    modifyAny p x missing repo = .ok () repo' ↔
      ∃ touched, touched ≠ 0 ∧ modifyMatching p x repo = .ok touched repo' := by
  rw [modifyAny, bind_eq_ok]
  constructor
  · rintro ⟨touched, repo₁, hedit, h⟩
    split at h
    · cases h
    · next htouched =>
      cases h
      exact ⟨touched, htouched, hedit⟩
  · rintro ⟨touched, htouched, hedit⟩
    refine ⟨touched, repo', hedit, ?_⟩
    rw [if_neg htouched, pure_apply]

/-- An edit of all matching definitions that fails leaves the repository as it was, or it has ended
at one of them. -/
theorem modifyAny_error {repo repo' : Repository} {p : Definition → Bool}
    {x : Edit Definition Unit} {missing : PolicyError} (hx : Restores x)
    (h : modifyAny p x missing repo = .error e repo') :
    repo' = repo ∨ ∃ d, repo.StopsAt p x d e repo' := by
  rcases bind_eq_error h with hedit | ⟨touched, repo₁, hedit, h⟩
  · exact .inr (modifyMatching_error hx hedit)
  · split at h
    · next hnone =>
      cases h
      subst hnone
      exact .inl (modifyMatching_ok_zero hedit)
    · cases h

end Job

end PolicyEditor
