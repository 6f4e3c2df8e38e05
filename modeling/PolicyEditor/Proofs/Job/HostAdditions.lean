import PolicyEditor.Proofs.Job.Hosts
import PolicyEditor.Proofs.Repository.Reordering

/-!
# New hosts

A job chooses the networks for a new host by their name, or by the address that the host belongs to,
or by both.  Neither of them need be unique, and each network that is chosen gets the host.  What
such a network gains is a single attribute, the entry of the host.  It goes to its place among the
host entries, which are in order afterwards.  The rest of the network stays, and so do all other
definitions.

## Main definitions

* `Job.Chooses` : the networks that a job chooses for a new host.
* `Job.GainsHost` : a network with the entry of the new host.

## Main results

* `Job.chooses_iff` : the networks that are chosen are those that the target of the job selects.
* `Job.gainsHost_of_apply` : what a successful job that creates a host does.
-/

namespace PolicyEditor

namespace Job

open Edit Repository

/-! ### Networks -/

/-- The definition is a network that a job chooses for the new host.  It has the name that is given
or, on demand, the address of the network that the host belongs to.  Then it also has the name of
the network that a host name `id:` ends with. -/
inductive Chooses (p : Params.CreateHost) (d : Definition) : Prop
  | named {block : Block} (hnetwork : p.network ≠ "[auto]") (hbody : d.body = .network block)
      (hname : d.name = qualify "network" p.network)
  | addressed {block : Block} {address : String} (hnetwork : p.network = "[auto]")
      (hbody : d.body = .network block) (haddress : networkAddress p.ip p.mask = .ok address)
      (hip : valueOf? "ip" block.attributes = some address)
      (hname : ∀ name ∈ (splitIdHost p.name).2, d.name = name)

theorem chooses_iff {p : Params.CreateHost} {target : Target} (h : hostTarget p = .ok target)
    (d : Definition) : Chooses p d ↔ target.selects d = true := by
  rw [hostTarget] at h
  split at h
  · next hauto =>
    obtain ⟨address, haddress, h⟩ := Except.bind_eq_ok.1 h
    cases h
    rw [selects_addressed]
    constructor
    · intro hd
      cases hd with
      | named hnot => exact absurd hauto hnot
      | @addressed block _ _ hbody haddress' hip hname =>
        obtain rfl := Except.ok.inj (haddress.symm.trans haddress')
        exact ⟨block, hbody, hname, hip⟩
    · rintro ⟨block, hbody, hname, hip⟩
      exact .addressed hauto hbody haddress hip hname
  · next hnamed =>
    cases h
    rw [selects_named]
    constructor
    · intro hd
      cases hd with
      | named _ hbody hname => exact ⟨_, hbody, hname⟩
      | addressed hauto => exact absurd hauto hnamed
    · rintro ⟨block, hbody, hname⟩
      exact .named hnamed hbody hname

theorem Chooses.kind {p : Params.CreateHost} {d : Definition} (h : Chooses p d) :
    d.kind = .network := by
  cases h with
  | named _ hbody | addressed _ hbody => rw [Definition.kind, hbody, Body.kind]

/-- The network has one more attribute, the entry of a new host.  The host entries are sorted in
their places and are otherwise the same, as are all other attributes. -/
inductive GainsHost (p : Params.CreateHost) (d : Definition) : Definition → Prop
  | intro {block : Block} {entry : Attribute} {attributes : List Attribute}
      (hbody : d.body = .network block)
      (hnew : hasHost ("host:" ++ (splitIdHost p.name).1) block.attributes = false)
      (hentry : entry = newHost ("host:" ++ (splitIdHost p.name).1) p.ip p.owner block.attributes)
      (hperm : attributes.Perm (block.attributes ++ [entry]))
      (hsorts : SortsHosts (block.attributes ++ [entry]) attributes) :
      GainsHost p d { d with body := .network { block with attributes } }

theorem gainsHost_of_addHost {p : Params.CreateHost} {d d' : Definition} (hkind : d.kind = .network)
    (h : addHost ("host:" ++ (splitIdHost p.name).1) p.ip p.owner d = .ok () d') :
    GainsHost p d d' := by
  rcases addHost_cases ("host:" ++ (splitIdHost p.name).1) p.ip p.owner d with
    ⟨block, -, -, hadd⟩ | ⟨block, hbody, hnew, hadd⟩ | ⟨hnot, -⟩
  · rw [hadd] at h
    cases h
  · rw [hadd] at h
    cases h
    exact .intro hbody hnew rfl (sortsHosts_sortHosts _).perm (sortsHosts_sortHosts _)
  · exact absurd hkind hnot

/-! ### Jobs -/

/-- A successful job that creates a host chooses one network at least.  Each network that it chooses
has the entry of the host as one more attribute, up to the order of host entries, and all other
definitions stay as they are. -/
theorem gainsHost_of_apply {job : Job} {repo repo' : Repository}
    (hmethod : job.method = "create_host") (h : job.apply repo = .ok () repo') :
    ∃ p files, job.decode Params.CreateHost.ofJson = .ok p ∧
      (∃ d ∈ repo.definitions, Chooses p d) ∧
      List.Forall₂ (PolicyFile.Revises (Chooses p) (GainsHost p)) repo.files files ∧
      repo' = { repo with files } := by
  have hname : Method.ofName? job.method = some .createHost := by rw [hmethod]; rfl
  rw [apply_of_ofName? hname] at h
  obtain ⟨p, hparams, h⟩ := ofExcept_bind_eq_ok.1 h
  obtain ⟨target, htarget, h⟩ := ofExcept_bind_eq_ok.1 h
  obtain ⟨touched, htouched, hedit⟩ := modifyAny_eq_ok.1 h
  obtain ⟨hchosen, files, hfiles, hrepo'⟩ := revises_modifyMatching hedit (chooses_iff htarget)
    fun _ _ hd hadd => gainsHost_of_addHost hd.kind hadd
  exact ⟨p, files, hparams, hchosen htouched, hfiles, hrepo'⟩

section Samples

/-- Two networks with the same address. -/
def sharedAddress : List (Path × String) :=
  [(⟨"a"⟩, "network:n1 = \x7b\n ip = 10.1.1.0/24;\n\x7d\n"),
    (⟨"b"⟩, "network:n2 = \x7b\n ip = 10.1.1.0/24;\n\x7d\n")]

/-- A job that creates a host in all networks with its address. -/
def sharedHostJob : Job where
  method := "create_host"
  params := some (.object
    [("ip", .string "10.1.1.1"), ("mask", .string "255.255.255.0"), ("name", .string "h"),
      ("network", .string "[auto]")])

theorem apply_sharedHostJob :
    ∃ repo repo', ofSources ⟨"policy"⟩ sharedAddress = .ok repo ∧
      sharedHostJob.apply repo = .ok () repo' ∧
      repo.definitions.map (isNetwork (hasHost "host:h")) = [false, false] ∧
      repo'.definitions.map (isNetwork (hasHost "host:h")) = [true, true] := by
  have happly :
      ((ofSources ⟨"policy"⟩ sharedAddress).toOption.bind fun repo =>
        (sharedHostJob.apply.outcome? repo).map fun out =>
          (repo.definitions.map (isNetwork (hasHost "host:h")),
            out.2.definitions.map (isNetwork (hasHost "host:h")))) =
        some ([false, false], [true, true]) := by
    decide +kernel
  simp only [Option.bind_eq_some_iff, Option.map_eq_some_iff, toOption_eq_some,
    outcome?_eq_some, Prod.mk.injEq] at happly
  obtain ⟨repo, hload, ⟨_, repo'⟩, happly, hbefore, hafter⟩ := happly
  exact ⟨repo, repo', hload, happly, hbefore, hafter⟩

/-- Both networks are chosen. -/
theorem gainsHost_of_sharedHostJob :
    ∃ repo repo', ofSources ⟨"policy"⟩ sharedAddress = .ok repo ∧
      sharedHostJob.apply repo = .ok () repo' ∧
      ∃ p files, sharedHostJob.decode Params.CreateHost.ofJson = .ok p ∧
        (∃ d ∈ repo.definitions, Chooses p d) ∧
        List.Forall₂ (PolicyFile.Revises (Chooses p) (GainsHost p)) repo.files files ∧
        repo' = { repo with files } := by
  obtain ⟨repo, repo', hload, happly, -, -⟩ := apply_sharedHostJob
  exact ⟨repo, repo', hload, happly, gainsHost_of_apply rfl happly⟩

/-- A job may add a host to more than one network. -/
theorem not_gainsHost_once :
    ¬ ∀ (job : Job) (repo repo' : Repository),
      job.method = "create_host" → job.apply repo = .ok () repo' →
        ∃ p front d d' back, job.decode Params.CreateHost.ofJson = .ok p ∧ GainsHost p d d' ∧
          repo.definitions = front ++ d :: back ∧ repo'.definitions = front ++ d' :: back := by
  intro h
  obtain ⟨repo, repo', -, happly, hbefore, hafter⟩ := apply_sharedHostJob
  obtain ⟨p, front, d, d', back, -, -, hrepo, hrepo'⟩ := h sharedHostJob repo repo' rfl happly
  -- One of the two networks is in front of the one that is edited, or behind it.
  rw [hrepo, List.map_append, List.map_cons] at hbefore
  rw [hrepo', List.map_append, List.map_cons] at hafter
  cases front with
  | nil =>
    have hback := (List.cons.inj hbefore).2.symm.trans (List.cons.inj hafter).2
    exact absurd hback (by decide)
  | cons c front =>
    have hfirst := (List.cons.inj hbefore).1.symm.trans (List.cons.inj hafter).1
    exact absurd hfirst (by decide)

end Samples

end Job

end PolicyEditor
