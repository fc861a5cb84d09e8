import LeaseBroker.Proofs.HostRequests

/-!
What a host is told of a lease, with the bookkeeping for it. That is read back
as it was written (`LeaseSecret.ofInternal_toInternal`) and is refused exactly
where a text is missing under one of its keys
(`LeaseSecret.ofInternal_fails_iff`). A host is told of a success just where the
operation that was asked for succeeded, and then all that it is told is known
(`HostCall.runs_issue`, `HostCall.runs_renew`).
-/
namespace LeaseBroker

variable {α σ : Type}

/-! ## Bookkeeping -/

namespace LeaseSecret

/-- The keys under which the texts stand. -/
def keys : List String := ["role", "username", "cluster", "database"]

variable {internal : Table Json} {secret : LeaseSecret} {key : String}

theorem textAt_eq_ok_iff {text : String} : textAt internal key = .ok text ↔ internal.get? key = some (.string text) := by
  unfold textAt
  constructor
  · intro read
    split at read
    · cases read
    · cases read
      assumption
    · cases read
  · intro found
    rw [found]

theorem ofInternal_eq_ok_iff : ofInternal internal = .ok secret ↔
    internal.get? "role" = some (.string secret.role) ∧ internal.get? "username" = some (.string secret.username) ∧
      internal.get? "cluster" = some (.string secret.cluster) ∧
      internal.get? "database" = some (.string secret.database) := by
  simp only [← textAt_eq_ok_iff]
  unfold ofInternal
  constructor
  · intro read
    obtain ⟨role, inRole, read⟩ := Except.bind_eq_ok.1 read
    obtain ⟨username, inUsername, read⟩ := Except.bind_eq_ok.1 read
    obtain ⟨cluster, inCluster, read⟩ := Except.bind_eq_ok.1 read
    obtain ⟨database, inDatabase, read⟩ := Except.bind_eq_ok.1 read
    cases read
    exact ⟨inRole, inUsername, inCluster, inDatabase⟩
  · rintro ⟨inRole, inUsername, inCluster, inDatabase⟩
    rw [inRole, inUsername, inCluster, inDatabase]
    rfl

/-- What was written down is read back. -/
theorem ofInternal_toInternal (secret : LeaseSecret) : ofInternal secret.toInternal = .ok secret := by
  refine ofInternal_eq_ok_iff.2 ?_
  simp [toInternal, Table.ofList, Table.get?_insert]

/-- Bookkeeping is refused exactly where under one of the keys nothing stands, or no text. -/
theorem ofInternal_fails_iff :
    (∃ why, ofInternal internal = .error why) ↔ ∃ key ∈ keys, ∀ text, internal.get? key ≠ some (.string text) := by
  constructor
  · rintro ⟨why, refused⟩
    refine Classical.byContradiction fun none => ?_
    have held (key : String) (member : key ∈ keys) : ∃ text, internal.get? key = some (.string text) :=
      Classical.byContradiction fun bare => none ⟨key, member, fun text found => bare ⟨text, found⟩⟩
    obtain ⟨role, inRole⟩ := held "role" (by simp [keys])
    obtain ⟨username, inUsername⟩ := held "username" (by simp [keys])
    obtain ⟨cluster, inCluster⟩ := held "cluster" (by simp [keys])
    obtain ⟨database, inDatabase⟩ := held "database" (by simp [keys])
    have read : ofInternal internal = .ok ⟨role, username, cluster, database⟩ :=
      ofInternal_eq_ok_iff.2 ⟨inRole, inUsername, inCluster, inDatabase⟩
    cases refused.symm.trans read
  · rintro ⟨key, member, bare⟩
    cases read : ofInternal internal with
    | error why => exact ⟨why, rfl⟩
    | ok secret =>
      obtain ⟨inRole, inUsername, inCluster, inDatabase⟩ := ofInternal_eq_ok_iff.1 read
      simp only [keys, List.mem_cons, List.not_mem_nil, or_false] at member
      rcases member with rfl | rfl | rfl | rfl
      · exact absurd inRole (bare _)
      · exact absurd inUsername (bare _)
      · exact absurd inCluster (bare _)
      · exact absurd inDatabase (bare _)

end LeaseSecret

/-! ## Responses -/

namespace Router

/-- The response with a credential that was just made. -/
def lent (c : Credential) : Response where
  data := Table.ofList [("username", .string c.username), ("password", .string c.password)]
  lease := some { ttl := c.ttl.secs, maxTtl := c.maxTtl.secs, internal := c.secret.toInternal }

/-- The response with the lease of which this is the bookkeeping. -/
def prolonged (internal : Table Json) (o : Outcome RenewedLease) : Response where
  warnings := o.warnings
  lease := some { ttl := o.value.ttl.secs, maxTtl := o.value.maxTtl.secs, internal }

theorem dispatch_of_issue {settings settings' : Settings} {r : Request} {cluster name role displayName : String}
    (asks : asked settings r = .ok (.issueCredential settings' cluster name role displayName)) :
    dispatch settings r = (do return lent (← Credentials.issueCredential settings' cluster name role displayName)) := by
  obtain ⟨valid, routed, reads, rfl, rfl⟩ := askedBy_of_asked asks
  unfold dispatch
  dsimp only
  rw [valid, routed, reads]
  rfl

end Router

/-! ## Calls -/

namespace HostCall

variable {R : Program.Replies σ} {s t : σ} {settings settings' : Settings} {internal : Table Json} {response : Response}

/-- A credential is handed out just where it was made, with the bookkeeping for it. -/
theorem runs_issue {request : Request} {cluster name role displayName : String}
    (asks : Router.asked settings request = .ok (.issueCredential settings' cluster name role displayName)) :
    Program.Runs R (handle settings request).program s (.ok response) t ∧ response.error = none ↔
      ∃ credential, Program.Runs R (Credentials.issueCredential settings' cluster name role displayName).run s
        (.ok credential) t ∧ response = Router.lent credential :=
  runs_handle (Router.dispatch_of_issue asks) fun _ => rfl

/-- A lease is told to be renewed just where it was, and its bookkeeping goes back as it came. -/
theorem runs_renew {increment : Span} {issued : Instant} :
    Program.Runs R (renew settings internal increment issued).program s (.ok response) t ∧ response.error = none ↔
      ∃ secret o, LeaseSecret.ofInternal internal = .ok secret ∧
        Program.Runs R (Credentials.renewCredential settings secret increment issued).run s (.ok o) t ∧
        response = Router.prolonged internal o :=
  Router.runs_answering_check fun _ => rfl

end HostCall

end LeaseBroker
