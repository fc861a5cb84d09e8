import LeaseBroker.Proofs.ConnectionUse
import LeaseBroker.Proofs.ReportedTerms
import LeaseBroker.Proofs.Revocations

/-!
A lease as its host follows it (`Followed`): it was handed out, was renewed with
the bookkeeping that came last, and anything may have happened in between. That
bookkeeping is always what was written down at first (`Followed.held`). So every
renewal and the revocation deal with the role, the cluster and the database that
the login was made for (`Call.Minds`), and in all that they tell servers, as in
the statements that made it, the login is the same (`Bindings.BindsUser`).
-/
namespace LeaseBroker

open Op
open Surroundings (alone)
open Template (render)

/-- The login is filled in as an identifier, quoted like any other. -/
def Bindings.BindsUser (username : String) (b : Bindings) : Prop := b.get? "user" = some (.identifier username)

/-- A call about one lease. It reads the records that the lease bears the names of and no others, leaves the store alone,
    uses no cached connection but the one to manage the database, and tells servers nothing outside of `P`. -/
def Call.Minds (secret : LeaseSecret) (P : String → Prop) : Call → Prop
  | .fetch key => key = StoreKeys.role secret.role ∨ key = StoreKeys.cluster secret.cluster ∨
      key = StoreKeys.database secret.cluster secret.database
  | .find key => key = Connections.managementKey secret.cluster secret.database
  | .keep key _ _ => key = Connections.managementKey secret.cluster secret.database
  | .execute _ sql => P sql
  | .run _ sql => P sql
  | .put .. | .delete _ | .list _ | .evict _ => False
  | _ => True

namespace Credentials

variable {secret : LeaseSecret} {P : String → Prop} {i : Nat} {s t : Surroundings}

/-- The cluster and the database of a lease are on record. -/
structure Placed (secret : LeaseSecret) (values : Table String) : Prop where
  cluster : ∃ c, Loads ClusterRecord.decode values (StoreKeys.cluster secret.cluster) (some c)
  database : ∃ d, Loads DatabaseRecord.decode values (StoreKeys.database secret.cluster secret.database) (some d)

/-- The statements by which a login was made: those of its role, each with the login in it. -/
def Creating (secret : LeaseSecret) (s t : Surroundings) : Prop :=
  ∃ (r : RoleRecord) (b : Bindings), Loads RoleRecord.decode s.values (StoreKeys.role secret.role) (some r) ∧
    Placed secret s.values ∧ b.BindsUser secret.username ∧
    t.sent = ((trimmed r.creationStatements).map (render · b)).reverse ++ s.sent

/-- A statement that renews the lease. -/
def Renewing (secret : LeaseSecret) (sql : String) : Prop :=
  ∃ b : Bindings, b.BindsUser secret.username ∧ sql = render Statements.renewExpiry b

/-- A statement that revokes the lease: one of those of its role, or what has to do with savepoints. -/
def Revoking (secret : LeaseSecret) (values : Table String) (sql : String) : Prop :=
  sql ∈ Progress.bookkeeping ∨ ∃ role? c d template,
    Loads RoleRecord.decode values (StoreKeys.role secret.role) role? ∧
    Loads ClusterRecord.decode values (StoreKeys.cluster secret.cluster) (some c) ∧
    Loads DatabaseRecord.decode values (StoreKeys.database secret.cluster secret.database) (some d) ∧
    template ∈ revocationList role? ∧ (bindingsOf secret c d).BindsUser secret.username ∧
    sql = render (Blank.trimText template) (bindingsOf secret c d)

theorem bindsUser_bindingsOf (c : ClusterRecord) (d : DatabaseRecord) : (bindingsOf secret c d).BindsUser secret.username := by
  simp [Bindings.BindsUser, revokeBindings, Bindings.get?, Bindings.identifier, Bindings.empty, List.lookup_cons]

theorem bindsUser_issueBindings {username password expiration owner group : String} :
    (issueBindings username password expiration owner group).BindsUser username :=
  (get?_issueBindings username password expiration owner group).1

/-! ## What calls are made -/

theorem minds_onManagement {α : Type} {act : Connection → Program (Except SqlError α)}
    (h : ∀ conn, Program.Only (Call.Minds secret P) (act conn)) :
    Op.Only (Call.Minds secret P) (Connections.onManagement secret.cluster secret.database act) := by
  refine Connections.calls_onManagement ?_ h
  exact Connections.calls_getWithin (P := Call.Minds secret P) rfl (.inr (.inl rfl)) (fun _ => trivial) trivial
    (fun _ _ => rfl) (fun _ => trivial) _

/-- Loading a record of the lease, where it is known what was stored. -/
theorem wp_load_minds {α : Type} {decode : String → Except String α} {key : String}
    (own : (Call.fetch key).Minds secret P) (made : s.Made (Call.Minds secret P) t) (same : t.values = s.values) :
    Op.wp (alone i)
      (fun a? u => s.Made (Call.Minds secret P) u ∧ u.values = s.values ∧ Loads decode s.values key a?)
      (fun _ u => s.Made (Call.Minds secret P) u) (loadRecord decode key) t := by
  have loading : Op.wp (alone i) (fun a? u => (t.Untouched u ∧ Loads decode t.values key a?) ∧ s.Made (Call.Minds secret P) u)
      (fun e u => (t.Untouched u ∧ ∀ why, e ≠ .refused why) ∧ s.Made (Call.Minds secret P) u) (loadRecord decode key) t :=
    wp_both wp_loadRecord (Surroundings.wp_made (calls_loadRecord own) made)
  refine wp_mono loading (fun a? u ended => ?_) fun e u ended => ended.2
  obtain ⟨⟨untouched, loads⟩, made⟩ := ended
  rw [same] at loads
  exact ⟨made, untouched.values.trans same, loads⟩

theorem minds_prolong (settings : Settings) (o : Outcome Span) (maxTtl : Span) (now : Instant) :
    Op.Only (Call.Minds secret (Renewing secret)) (prolong settings secret o maxTtl now) := by
  unfold prolong
  cases o.value.isZero with
  | true => exact only_pure _
  | false =>
    have named (v : Instant) : ((Bindings.empty.identifier "user" secret.username).literal "expiration" v.text).BindsUser
        secret.username := by
      simp [Bindings.BindsUser, Bindings.get?, Bindings.identifier, Bindings.literal, Bindings.empty, List.lookup_cons]
    have extending (v : Instant) : Op.Only (Call.Minds secret (Renewing secret)) (extend secret v) :=
      minds_onManagement fun _ => Program.only_call ⟨_, named v, rfl⟩
    exact only_bind (extending _) fun _ => only_bind (only_lift (Program.only_call trivial)) fun _ => only_pure _

theorem wp_renewCredential_minds {settings : Settings} {increment : Span} {issued : Instant} : Op.wp (alone i)
    (fun _ t => s.Made (Call.Minds secret (Renewing secret)) t ∧
      (∃ r, Loads RoleRecord.decode s.values (StoreKeys.role secret.role) (some r)) ∧ Placed secret s.values)
    (fun _ t => s.Made (Call.Minds secret (Renewing secret)) t) (renewCredential settings secret increment issued) s := by
  refine wp_found (wp_load_minds (.inl rfl) (.refl _ s) rfl) (fun _ => And.left) (fun role t loaded => ?_) fun _ _ => id
  obtain ⟨made, same, pattern⟩ := loaded
  refine wp_found (wp_load_minds (.inr (.inl rfl)) made same) (fun _ => And.left) (fun cluster u loaded => ?_) fun _ _ => id
  obtain ⟨made, same, stored⟩ := loaded
  refine wp_unless made fun _ => ?_
  refine wp_found (wp_load_minds (.inr (.inr rfl)) made same) (fun _ => And.left) (fun database v loaded => ?_) fun _ _ => id
  obtain ⟨made, same, stored'⟩ := loaded
  refine wp_unless made fun _ => (wp_bind_lift ..).2 (Program.wp_now fun now => ?_)
  have extending := @minds_prolong secret settings
    ((role.renewalTerm increment issued now).grant settings.lease) role.maxSpan now
  exact wp_mono (Surroundings.wp_made extending (made.after trivial))
    (fun _ _ made => ⟨made, ⟨role, pattern⟩, ⟨cluster, stored⟩, ⟨database, stored'⟩⟩) fun _ _ => id

theorem wp_revocationPlan_minds : Op.wp (alone i)
    (fun plan t => s.Made (Call.Minds secret P) t ∧ t.values = s.values ∧
      ∃ role?, Loads RoleRecord.decode s.values (StoreKeys.role secret.role) role? ∧ plan.value = revocationList role?)
    (fun _ t => s.Made (Call.Minds secret P) t) (revocationPlan secret.role) s := by
  refine wp_found (wp_load_minds (.inl rfl) (.refl _ s) rfl) (fun t loaded => ?_) (fun role t loaded => ?_) fun _ _ => id
  · exact ⟨loaded.1, loaded.2.1, none, loaded.2.2, rfl⟩
  · exact ⟨loaded.1, loaded.2.1, some role, loaded.2.2, rfl⟩

section
variable {role? : Option RoleRecord} {c : ClusterRecord} {d : DatabaseRecord} {values : Table String}
  (pattern : Loads RoleRecord.decode values (StoreKeys.role secret.role) role?)
  (stored : Loads ClusterRecord.decode values (StoreKeys.cluster secret.cluster) (some c))
  (stored' : Loads DatabaseRecord.decode values (StoreKeys.database secret.cluster secret.database) (some d))
include pattern stored stored'

theorem minds_revokeWithin {tr : Transaction} : Op.Only (Call.Minds secret (Revoking secret values))
    (revokeWithin tr (bindingsOf secret c d) (revocationList role?)) := by
  have keeping {sql : String} (own : sql ∈ Progress.bookkeeping) :
      (Call.run tr sql).Minds secret (Revoking secret values) := .inl own
  have attempting := calls_attempts (P := Call.Minds secret (Revoking secret values)) (t := tr)
    (keeping (by simp [Progress.bookkeeping])) (keeping (by simp [Progress.bookkeeping]))
    (keeping (by simp [Progress.bookkeeping]))
    (fun template member =>
      .inr ⟨role?, c, d, template, pattern, stored, stored', member, bindsUser_bindingsOf c d, rfl⟩) 0
  exact only_bind (only_lift attempting) fun _ => only_bind (only_ofSql (Program.only_call trivial)) fun _ => only_pure _

/-- Whether or not a record is deleted. -/
theorem minds_revocation {disabled : Bool} {missing : List Warning} : Op.Only (Call.Minds secret (Revoking secret values))
    (do
      let warnings ←
        if disabled then revokeUncached c secret.database (bindingsOf secret c d) (revocationList role?)
        else do
          let tr ← Connections.startManagement secret.cluster secret.database
          revokeWithin tr (bindingsOf secret c d) (revocationList role?)
      countRevoked missing warnings : Op (Outcome Unit)) := by
  have counting (warnings : List Warning) :
      Op.Only (Call.Minds secret (Revoking secret values)) (countRevoked missing warnings) :=
    only_bind (only_lift (Program.only_call trivial)) fun _ => only_pure _
  cases disabled with
  | true =>
    refine only_bind (only_bind (Connections.calls_openUncached (fun _ => trivial) trivial) fun conn => ?_) counting
    refine only_andAlways (only_bind (only_ofSql (Program.only_call trivial)) fun tr => ?_) ?_
    · exact minds_revokeWithin pattern stored stored'
    · exact Connections.calls_closeQuietly trivial
  | false =>
    have starting : Op.Only (Call.Minds secret (Revoking secret values))
        (Connections.startManagement secret.cluster secret.database) :=
      minds_onManagement fun _ => Program.only_call trivial
    exact only_bind starting fun tr => only_bind (minds_revokeWithin pattern stored stored') counting

end

theorem wp_revokeCredential_minds : Op.wp (alone i)
    (fun _ t => s.Made (Call.Minds secret (Revoking secret s.values)) t ∧ Placed secret s.values)
    (fun _ t => s.Made (Call.Minds secret (Revoking secret s.values)) t) (revokeCredential secret) s := by
  refine wp_seq wp_revocationPlan_minds (fun plan t planned => ?_) fun _ _ => id
  obtain ⟨value, warnings⟩ := plan
  obtain ⟨made, same, role?, pattern, rfl⟩ := planned
  refine wp_found (wp_load_minds (.inr (.inl rfl)) made same) (fun _ => And.left) (fun c u loaded => ?_) fun _ _ => id
  obtain ⟨made, same, stored⟩ := loaded
  refine wp_found (wp_load_minds (.inr (.inr rfl)) made same) (fun _ => And.left) (fun d v loaded => ?_) fun _ _ => id
  obtain ⟨made, same, stored'⟩ := loaded
  exact wp_mono (Surroundings.wp_made (minds_revocation pattern stored stored') made)
    (fun _ _ made => ⟨made, ⟨c, stored⟩, ⟨d, stored'⟩⟩) fun _ _ => id

end Credentials

/-! ## Leases as hosts follow them -/

/-- A host holds this bookkeeping for a lease that a call from `s₀` to `t₀` handed out. It is what came with the
    credential, or with the latest renewal by it. Between two calls about the lease anything may happen. -/
inductive Followed (secret : LeaseSecret) (s₀ t₀ : Surroundings) : Table Json → Surroundings → Prop
  | issued {settings : Settings} {request : Request} {displayName : String} {i : Nat} {response : Response}
      {lease : LeaseInfo}
      (asks : Router.asked settings request =
        .ok (.issueCredential settings secret.cluster secret.database secret.role displayName))
      (run : Surroundings.Runs i (HostCall.handle settings request).program s₀ (.ok response) t₀)
      (plain : response.error = none) (named : response.data.get? "username" = some (.string secret.username))
      (leased : response.lease = some lease) : Followed secret s₀ t₀ lease.internal t₀
  | meanwhile {internal : Table Json} {s t : Surroundings} (earlier : Followed secret s₀ t₀ internal s)
      (grown : s.history <:+ t.history) : Followed secret s₀ t₀ internal t
  | renewed {internal : Table Json} {settings : Settings} {increment : Span} {issued : Instant} {i : Nat}
      {s t : Surroundings} {response : Response} {lease : LeaseInfo} (earlier : Followed secret s₀ t₀ internal s)
      (run : Surroundings.Runs i (HostCall.renew settings internal increment issued).program s (.ok response) t)
      (plain : response.error = none) (leased : response.lease = some lease) : Followed secret s₀ t₀ lease.internal t

variable {secret : LeaseSecret} {internal : Table Json} {settings : Settings} {increment : Span} {issued : Instant}
  {i : Nat} {s₀ t₀ s t : Surroundings} {response : Response} {told : Except BrokerError Response}

namespace HostCall

/-- A renewal gives the bookkeeping back as it came, whatever else is in it. -/
theorem internal_of_renewed
    (run : Surroundings.Runs i (renew settings internal increment issued).program s (.ok response) t)
    (plain : response.error = none) : ∃ lease, response.lease = some lease ∧ lease.internal = internal := by
  obtain ⟨secret, o, -, -, rfl⟩ := runs_renew.1 ⟨run, plain⟩
  exact ⟨_, rfl, rfl⟩

/-- A credential that is handed out comes with the bookkeeping for its login, and was made by statements for it. -/
theorem created_of_issued {request : Request} {displayName : String}
    (asks : Router.asked settings request =
      .ok (.issueCredential settings secret.cluster secret.database secret.role displayName))
    (run : Surroundings.Runs i (handle settings request).program s (.ok response) t) (plain : response.error = none)
    (named : response.data.get? "username" = some (.string secret.username)) :
    Credentials.Creating secret s t ∧ ∃ lease, response.lease = some lease ∧ lease.internal = secret.toInternal := by
  obtain ⟨credential, ran, rfl⟩ := (runs_issue asks).1 ⟨run, plain⟩
  obtain ⟨r, now, issued, lent⟩ := Program.wp_demonic_iff.1 Credentials.wp_issueCredential_lent _ _ ran
  have reported : (Router.lent credential).data.get? "username" = some (.string credential.username) := by
    simp [Router.lent, Table.ofList, Table.get?_insert]
  have same : credential.username = secret.username := Json.string.inj (Option.some.inj (reported.symm.trans named))
  have kept : credential.secret = secret := by
    rw [lent.secret, same]
  obtain ⟨c, d, stored, stored', sent⟩ := issued.sent
  rw [same] at sent
  refine ⟨⟨r, _, issued.pattern, ⟨⟨c, stored⟩, ⟨d, stored'⟩⟩, Credentials.bindsUser_issueBindings, sent⟩, _, rfl, ?_⟩
  show credential.secret.toInternal = _
  rw [kept]

end HostCall

namespace Followed

/-- The bookkeeping is what was written down when the login was made, and that is in the past. -/
theorem held (followed : Followed secret s₀ t₀ internal s) :
    internal = secret.toInternal ∧ Credentials.Creating secret s₀ t₀ ∧ t₀.history <:+ s.history := by
  induction followed with
  | @issued _ _ _ _ _ lease asks run plain named leased =>
    obtain ⟨created, lease', leased', kept⟩ := HostCall.created_of_issued asks run plain named
    obtain rfl : lease = lease' := Option.some.inj (leased.symm.trans leased')
    exact ⟨kept, created, List.suffix_refl _⟩
  | meanwhile _ grown ih =>
    obtain ⟨same, created, before⟩ := ih
    exact ⟨same, created, before.trans grown⟩
  | @renewed _ _ _ _ _ _ _ _ lease _ run plain leased ih =>
    obtain ⟨same, created, before⟩ := ih
    obtain ⟨lease', leased', kept⟩ := HostCall.internal_of_renewed run plain
    obtain rfl : lease = lease' := Option.some.inj (leased.symm.trans leased')
    exact ⟨kept.trans same, created, before.trans (Surroundings.history_grows run)⟩

end Followed

/-- A call that asks for what a command does, and what is known of that. -/
theorem HostCall.of_command {call : HostCall} {command : Command} {α : Type} {p : Op α} {kept : Surroundings → Prop}
    {found : Prop} (asks : call.asked = .ok command) (does : command.op = p.unkept)
    (h : Op.wp (alone i) (fun _ t => kept t ∧ found) (fun _ t => kept t) p s)
    (run : Surroundings.Runs i call.program s told t) :
    kept t ∧ ∀ response, told = .ok response → response.error = none → found := by
  obtain ⟨result, ran, tells⟩ := HostCall.runs_asked asks run
  rw [does] at ran
  have unkept : Op.wp (alone i) (fun _ t => kept t ∧ found) (fun _ t => kept t) p.unkept s := wp_unkept.2 h
  have ended := Program.wp_demonic_iff.1 unkept _ _ ran
  cases result with
  | ok a => exact ⟨ended.1, fun _ _ _ => ended.2⟩
  | error e =>
    refine ⟨ended, ?_⟩
    rintro response rfl plain
    rcases tells with ⟨why, -, refused⟩ | ⟨-, failed⟩
    · cases refused
      cases plain
    · cases failed

/-- However often a lease is renewed with the bookkeeping that came last, a host holds what was written down when the
    login was made. Whatever comes of a renewal or a revocation with it, the call reads no records but those of the role,
    the cluster and the database that the login was made for, works over the connection to manage that database, and
    tells servers nothing but statements in which the login is the one, quoted alike, that was made. Where a renewal
    succeeds it gives the bookkeeping back as it was. Any bookkeeping is read back as it was written down, and is refused
    exactly where a text is missing under one of its four keys. -/
theorem bookkeeping_resolves_lease (followed : Followed secret s₀ t₀ internal s) :
    internal = secret.toInternal ∧ Credentials.Creating secret s₀ t₀ ∧ t₀.history <:+ s.history ∧
    (∀ {settings increment issued i told t},
      Surroundings.Runs i (HostCall.renew settings internal increment issued).program s told t →
        s.Made (Call.Minds secret (Credentials.Renewing secret)) t ∧
        ∀ response, told = .ok response → response.error = none →
          (∃ lease, response.lease = some lease ∧ lease.internal = internal) ∧
          (∃ r, Loads RoleRecord.decode s.values (StoreKeys.role secret.role) (some r)) ∧
          Credentials.Placed secret s.values) ∧
    (∀ {i told t}, Surroundings.Runs i (HostCall.revoke internal).program s told t →
      s.Made (Call.Minds secret (Credentials.Revoking secret s.values)) t ∧
      ∀ response, told = .ok response → response.error = none → Credentials.Placed secret s.values) ∧
    (∀ any : LeaseSecret, LeaseSecret.ofInternal any.toInternal = .ok any) ∧
    (∀ any : Table Json, (∃ why, LeaseSecret.ofInternal any = .error why) ↔
      ∃ key ∈ LeaseSecret.keys, ∀ text, any.get? key ≠ some (.string text)) := by
  obtain ⟨rfl, created, before⟩ := followed.held
  have read : LeaseSecret.ofInternal secret.toInternal = .ok secret := LeaseSecret.ofInternal_toInternal secret
  refine ⟨rfl, created, before, ?_, ?_, LeaseSecret.ofInternal_toInternal, fun _ => LeaseSecret.ofInternal_fails_iff⟩
  · intro settings increment issued i told t run
    have asks : (HostCall.renew settings secret.toInternal increment issued).asked =
        .ok (.renewCredential settings secret increment issued) := by
      rw [HostCall.asked, read]
      rfl
    obtain ⟨made, found⟩ := HostCall.of_command asks rfl Credentials.wp_renewCredential_minds run
    refine ⟨made, fun response same plain => ⟨?_, found response same plain⟩⟩
    subst same
    exact HostCall.internal_of_renewed run plain
  · intro i told t run
    have asks : (HostCall.revoke secret.toInternal).asked = .ok (.revokeCredential secret) := by
      rw [HostCall.asked, read]
      rfl
    exact HostCall.of_command asks rfl Credentials.wp_revokeCredential_minds run

def readerSecret : LeaseSecret :=
  { role := "reader", username := Names.login "token" 0, cluster := "main", database := "app" }

/-- A lease that was handed out and renewed once. -/
theorem bookkeeping_resolves_reader : ∃ log s₀ t₀ s response lease, Session log s₀ ∧
    Followed readerSecret s₀ t₀ readerSecret.toInternal t₀ ∧
    Surroundings.Runs 0 (HostCall.renew {} readerSecret.toInternal .zero (.ofSecs 0)).program t₀ (.ok response) s ∧
    response.error = none ∧ response.lease = some lease ∧ Followed readerSecret s₀ t₀ lease.internal s ∧
    lease.internal = readerSecret.toInternal ∧ Credentials.Creating readerSecret s₀ t₀ ∧ t₀.history <:+ s.history := by
  obtain ⟨_, _, u, c, d, session, stored, active, stored', active', pattern⟩ :=
    Session.exists_registered {} Renewals.hourlyRole (by decide +kernel)
  obtain ⟨reply, t, run, ended⟩ := Program.wp_angelic_iff.1 (Credentials.wp_lucky_issueCredential_drawing (i := 0) {}
    "token" 0 (.ofSecs 0) stored active stored' active' pattern)
  cases reply with
  | error e => exact ended.elim
  | ok credential =>
    obtain ⟨same, -, drawn⟩ := ended
    obtain ⟨called, plain⟩ := (HostCall.runs_issue (exampleRead_asks {})).2 ⟨credential, run, rfl⟩
    have named : (Router.lent credential).data.get? "username" = some (.string readerSecret.username) := by
      simp [Router.lent, Table.ofList, Table.get?_insert, drawn, readerSecret]
    have followed : Followed readerSecret u t _ t := .issued (exampleRead_asks {}) called plain named rfl
    rw [followed.held.1] at followed
    rw [← same] at pattern stored stored'
    replace pattern : Loads _ t.values (StoreKeys.role readerSecret.role) _ := pattern
    replace stored : Loads _ t.values (StoreKeys.cluster readerSecret.cluster) _ := stored
    replace stored' : Loads _ t.values (StoreKeys.database readerSecret.cluster readerSecret.database) _ := stored'
    obtain ⟨reply', v, run', ended'⟩ := Program.wp_angelic_iff.1 (Credentials.wp_lucky_renewCredential (i := 0) {} .zero
      (.ofSecs 0) (.ofSecs 3600) pattern stored active stored' active')
    cases reply' with
    | error e => exact ended'.elim
    | ok o =>
      have read : LeaseSecret.ofInternal readerSecret.toInternal = .ok readerSecret :=
        LeaseSecret.ofInternal_toInternal readerSecret
      obtain ⟨called', plain'⟩ := HostCall.runs_renew.2 ⟨readerSecret, o, read, run', rfl⟩
      have followed' := followed.renewed called' plain' rfl
      obtain ⟨held, created, before, -⟩ := bookkeeping_resolves_lease followed'
      exact ⟨_, u, t, v, _, _, session, followed, called', plain', rfl, followed', held, created, before⟩

end LeaseBroker
