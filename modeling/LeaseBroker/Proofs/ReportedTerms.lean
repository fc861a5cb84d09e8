import LeaseBroker.Proofs.ClusterLifecycles
import LeaseBroker.Proofs.CredentialTerms
import LeaseBroker.Proofs.LeaseCalls

/-!
What hosts are told of terms, against what servers are told. A new login is
valid for the term that its lease reports, or for the maximum of the system if
that is less (`login_valid_for_lease`): what is reported is the role's own term,
which nothing bounds. A renewal reports the term that it grants in whole
seconds. So it reports none where less than a second is asked for or left, and
leaves the server alone just where nothing is asked for or left
(`renewed_term_reported`).
-/
namespace LeaseBroker

open Surroundings (alone)

/-- Of an instant that is in no leap second, its whole second is printed. -/
theorem Instant.text_of_regular {v : Instant} (regular : v.isLeap = false) :
    v.text = (Instant.ofSecs (v.line / 1_000_000_000)).text := by
  have below := Instant.nanos_of_regular regular
  have second : v.line / 1_000_000_000 = v.secs := by
    unfold Instant.line
    omega
  have none : v.nanos / 1_000_000_000 = 0 := Nat.div_eq_of_lt below
  have none' : (Instant.ofSecs v.secs).nanos / 1_000_000_000 = 0 := Nat.zero_div _
  rw [second]
  unfold Instant.text
  rw [none, none']
  rfl

/-! ## New leases -/

section
variable {settings : Settings} {request : Request} {cluster name role displayName : String} {i : Nat}
  {s t : Surroundings} {response : Response}

section
variable (asks : Router.asked settings request = .ok (.issueCredential settings cluster name role displayName))
  (run : Surroundings.Runs i (HostCall.handle settings request).program s (.ok response) t)
  (plain : response.error = none) (clock : ∀ now ∈ t.shown, now.OnClock)
include asks run plain clock

/-- The term that a credential was issued for, which is not the one that its role gives. -/
theorem issued_of_lent : ∃ credential r now term, response = Router.lent credential ∧
    Credentials.Issued cluster name role credential s t r now term ∧ Credentials.Lent cluster name role r credential ∧
    term.nanos = min (r.asked settings.lease .zero) settings.lease.maxTtl.nanos ∧ (now.after term).isLeap = false ∧
    (now.after term).line = min (now.line + term.nanos) Instant.latest.line := by
  obtain ⟨credential, ran, told⟩ := (HostCall.runs_issue asks).1 ⟨run, plain⟩
  obtain ⟨r, now, issued, lent⟩ := Program.wp_demonic_iff.1 Credentials.wp_issueCredential_lent _ _ ran
  have onClock : now.OnClock := clock now (by rw [issued.shown]; exact List.mem_cons_self)
  obtain ⟨regular, line⟩ := Instant.line_after onClock.regular ((Credentials.issueTerm r now).grant settings.lease).value
  exact ⟨credential, r, now, _, told, issued, lent, RoleRecord.nanos_issueTerm, regular, line⟩

/-- A call that hands out a credential reports the terms of the role as they are recorded, and tells the server until
    when the login is valid, of which the whole second is printed. That is no earlier than the end of the reported term,
    of the maximum of the system if that is shorter, or of the calendar. So the login ends before its lease exactly
    where that exceeds the maximum of the system, which the calendar has room for. -/
theorem login_valid_for_lease : ∃ credential r now term lease, response = Router.lent credential ∧
    Credentials.Issued cluster name role credential s t r now term ∧
    (now.after term).text = (Instant.ofSecs ((now.after term).line / 1_000_000_000)).text ∧
    response.lease = some lease ∧ lease.ttl = r.defaultTtl ∧ lease.maxTtl = r.maxTtl ∧
    min (now.line + min (Span.ofSecs lease.ttl).nanos settings.lease.maxTtl.nanos) Instant.latest.line ≤
      (now.after term).line ∧
    ((now.after term).line < min (now.line + (Span.ofSecs lease.ttl).nanos) Instant.latest.line ↔
      settings.lease.maxTtl.nanos < (Span.ofSecs lease.ttl).nanos ∧
        now.line + settings.lease.maxTtl.nanos < Instant.latest.line) := by
  obtain ⟨credential, r, now, term, rfl, issued, lent, granted, regular, line⟩ := issued_of_lent asks run plain clock
  have ttl : credential.ttl.secs = r.defaultTtl := by rw [lent.ttl]; exact Span.secs_ofSecs _
  have maxTtl : credential.maxTtl.secs = r.maxTtl := by rw [lent.maxTtl]; exact Span.secs_ofSecs _
  have reported : (Span.ofSecs credential.ttl.secs).nanos = r.defaultTtl.toNat * 1_000_000_000 := by rw [ttl]; rfl
  -- Where the role has no term of its own, none is reported.
  have asked : r.defaultTtl.toNat = 0 ∨ r.asked settings.lease .zero = r.defaultTtl.toNat * 1_000_000_000 := by
    rw [RoleRecord.asked_zero]
    by_cases own : r.defaultTtl = 0
    · exact .inl (by rw [own]; rfl)
    · exact .inr (if_pos own)
  refine ⟨credential, r, now, term, _, rfl, issued, Instant.text_of_regular regular, rfl, ttl, maxTtl, ?_, ?_⟩
  · dsimp only
    rw [reported]
    omega
  · dsimp only
    rw [reported]
    omega

end

end

/-- A host reads a credential of the role `reader`. -/
def exampleRead : Request := { operation := .read, path := Search.join "/" ["creds", "main", "app", "reader"] }

theorem exampleRead_asks (settings : Settings) :
    Router.asked settings exampleRead = .ok (.issueCredential settings "main" "app" "reader" "token") := by
  have main : Names.isName "main" := by decide +kernel
  have app : Names.isName "app" := by decide +kernel
  have reader : Names.isName "reader" := by decide +kernel
  refine (Router.asked_of_route settings (.credential "main" "app" "reader") rfl ?_ ?_ rfl).trans rfl
  · simp [HostCall.fine_name main, HostCall.fine_name app, HostCall.fine_name reader]
  · simp [Router.namesValid, main, app, reader]

/-- Where a role was written, and a broker is started anew, a host can get a credential at any time. -/
theorem exists_lent (settings : Settings) (request : RoleRequest) (now : Instant)
    (bounded : (!(request.maxTtl.getD settings.lease.maxTtl).isZero &&
      request.maxTtl.getD settings.lease.maxTtl < request.defaultTtl.getD settings.lease.defaultTtl) = false) :
    ∃ log u s response t, Session log u ∧ s.values = u.values ∧
      Surroundings.Runs 0 (HostCall.handle settings exampleRead).program s (.ok response) t ∧ response.error = none ∧
      t.shown = [now] ∧
      Loads RoleRecord.decode s.values (StoreKeys.role "reader") (some (Command.requestedRole settings.lease request)) := by
  obtain ⟨_, _, u, c, d, session, stored, active, stored', active', pattern⟩ :=
    Session.exists_registered settings.lease request bounded
  let s : Surroundings := ⟨u.values, .empty, []⟩
  obtain ⟨reply, t, run, ended⟩ := Program.wp_angelic_iff.1
    (Credentials.wp_lucky_issueCredential (s := s) (i := 0) settings "token" now stored active stored' active' pattern)
  cases reply with
  | error e => exact ended.elim
  | ok credential =>
    obtain ⟨r, now', issued⟩ := Program.wp_demonic_iff.1 Credentials.wp_issueCredential_sent _ _ run
    have shown : t.shown = [now'] := issued.shown
    obtain rfl : now = now' := by simpa [shown] using Surroundings.mem_shown ended.2
    obtain ⟨called, plain⟩ := (HostCall.runs_issue (exampleRead_asks settings)).2 ⟨credential, run, rfl⟩
    exact ⟨_, u, s, _, t, session, rfl, called, plain, shown, pattern⟩

theorem onClock_of_shown {t : Surroundings} {now : Instant} (shown : t.shown = [now]) (onClock : now.OnClock) :
    ∀ now ∈ t.shown, now.OnClock := by
  rw [shown]
  intro other member
  rwa [List.mem_singleton.1 member]

theorem onClock_start : (Instant.ofSecs 0).OnClock := ⟨⟨by decide +kernel, by decide +kernel⟩, rfl⟩

/-- A login of a role for an hour is valid for as long as its lease says. -/
theorem login_valid_for_hour : ∃ s t response credential r now term lease,
    Surroundings.Runs 0 (HostCall.handle {} exampleRead).program s (.ok response) t ∧ response.error = none ∧
      t.shown = [.ofSecs 0] ∧ response = Router.lent credential ∧
      Credentials.Issued "main" "app" "reader" credential s t r now term ∧ response.lease = some lease ∧
      lease.ttl = 3600 ∧ 3600 * 1_000_000_000 ≤ (now.after term).line := by
  obtain ⟨_, _, s, response, t, _, -, run, plain, shown, pattern⟩ :=
    exists_lent {} Renewals.hourlyRole (.ofSecs 0) (by decide +kernel)
  obtain ⟨credential, r, now, term, lease, told, issued, -, leased, ttl, -, within, -⟩ :=
    login_valid_for_lease (exampleRead_asks {}) run plain (onClock_of_shown shown onClock_start)
  obtain rfl := loads_unique issued.pattern pattern
  obtain rfl : now = .ofSecs 0 := (List.cons.inj (issued.shown.symm.trans shown)).1
  have hour : lease.ttl = 3600 := ttl.trans (by decide +kernel)
  refine ⟨s, t, response, credential, _, _, term, lease, run, plain, shown, told, issued, leased, hour, ?_⟩
  have start : (Instant.ofSecs 0).line = 0 := by decide +kernel
  have reported : (Span.ofSecs 3600).nanos = 3600 * 1_000_000_000 := by decide +kernel
  have maximum : ({} : Settings).lease.maxTtl.nanos = 86400 * 1_000_000_000 := by decide +kernel
  have last := Instant.line_latest
  have latest := Instant.secs_latest
  rw [hour, start, reported, maximum] at within
  omega

/-- A role for leases of two days. -/
def longRole : RoleRequest := { defaultTtl := some (.ofSecs 172800), maxTtl := some (.ofSecs 259200) }

/-- A lease is reported to last two days, where the login is valid for one. -/
theorem login_ends_before_lease : ∃ log u s t response credential r now term lease,
    Session log u ∧ s.values = u.values ∧
      Surroundings.Runs 0 (HostCall.handle {} exampleRead).program s (.ok response) t ∧ response.error = none ∧
      t.shown = [.ofSecs 0] ∧ response = Router.lent credential ∧
      Credentials.Issued "main" "app" "reader" credential s t r now term ∧ r = Command.requestedRole {} longRole ∧
      response.lease = some lease ∧ lease.ttl = 172800 ∧ (now.after term).line = 86400 * 1_000_000_000 ∧
      (now.after term).line + 1_000_000_000 <
        min (now.line + (Span.ofSecs lease.ttl).nanos) Instant.latest.line := by
  obtain ⟨log, u, s, response, t, session, same, run, plain, shown, pattern⟩ :=
    exists_lent {} longRole (.ofSecs 0) (by decide +kernel)
  obtain ⟨credential, r, now, term, rfl, issued, lent, granted, -, line⟩ :=
    issued_of_lent (exampleRead_asks {}) run plain (onClock_of_shown shown onClock_start)
  obtain rfl := loads_unique issued.pattern pattern
  obtain rfl : now = .ofSecs 0 := (List.cons.inj (issued.shown.symm.trans shown)).1
  have days : credential.ttl.secs = 172800 := by
    rw [lent.ttl]
    decide +kernel
  have start : (Instant.ofSecs 0).line = 0 := by decide +kernel
  have day : term.nanos = 86400 * 1_000_000_000 := granted.trans (by decide +kernel)
  have last := Instant.line_latest
  have latest := Instant.secs_latest
  rw [start, day] at line
  refine ⟨log, u, s, t, _, credential, _, _, term, _, session, same, run, plain, shown, rfl, issued, rfl, rfl, days, ?_, ?_⟩
  · omega
  · have reported : (Span.ofSecs credential.ttl.secs).nanos = 172800 * 1_000_000_000 := by
      rw [days]
      decide +kernel
    dsimp only
    rw [start, reported]
    omega

/-! ## Renewed leases -/

namespace RoleRecord

variable {limits : LeaseLimits} {role : RoleRecord} {increment : Span} {issued now : Instant}

/-- As much time has passed since the issue as a lease can last. -/
def PastMaximum (limits : LeaseLimits) (role : RoleRecord) (issued now : Instant) : Prop :=
  (role.ceiling limits : Int) ≤ now.nanosSince issued

/-- No term is given by the caller, the role or the system. -/
def Unasked (limits : LeaseLimits) (role : RoleRecord) (increment : Span) : Prop :=
  increment.nanos = 0 ∧ role.defaultTtl = 0 ∧ limits.defaultTtl.nanos = 0

theorem ceiling_pos (given : limits.maxTtl.nanos ≠ 0) : 0 < role.ceiling limits := by
  unfold ceiling
  by_cases own : role.maxTtl = 0
  · rw [if_pos own]
    omega
  · have set : role.maxTtl.toNat ≠ 0 := fun none => own (UInt64.toNat_inj.1 none)
    rw [if_neg own]
    omega

theorem left_eq_zero_iff (given : limits.maxTtl.nanos ≠ 0) :
    role.left limits issued now = 0 ↔ role.PastMaximum limits issued now := by
  have lasts : 0 < role.ceiling limits := ceiling_pos given
  unfold left PastMaximum
  omega

theorem asked_eq_zero_iff : role.asked limits increment = 0 ↔ role.Unasked limits increment := by
  unfold asked Unasked
  by_cases given : increment.nanos = 0
  · rw [if_neg (not_not_intro given)]
    by_cases own : role.defaultTtl = 0
    · rw [if_neg (not_not_intro own)]
      simp [given, own]
    · have set : role.defaultTtl.toNat ≠ 0 := fun none => own (UInt64.toNat_inj.1 none)
      rw [if_pos own]
      constructor
      · intro none
        omega
      · rintro ⟨-, none, -⟩
        exact absurd none own
  · rw [if_pos given]
    constructor
    · intro none
      exact absurd none given
    · rintro ⟨none, -⟩
      exact absurd none given

end RoleRecord

/-- Settings that pass their check let leases last. -/
theorem Settings.maxTtl_of_valid {settings : Settings} (valid : settings.validate = .ok ()) :
    settings.lease.maxTtl.nanos ≠ 0 := by
  intro none
  have unset : settings.lease.maxTtl.isZero = true := beq_iff_eq.2 none
  unfold Settings.validate at valid
  rw [if_pos unset] at valid
  cases valid

/-- Nothing is told just where nothing is granted. -/
theorem Credentials.told_eq_nil_iff {settings : Settings} {username : String} {now : Instant} {term : Span} :
    told settings username now term = [] ↔ term.nanos = 0 := by
  unfold told
  cases zero : term.isZero with
  | true => simpa using beq_iff_eq.1 zero
  | false => simpa using beq_eq_false_iff_ne.1 zero

/-- A grant is reported in whole seconds. -/
theorem Router.reported_of_grant (internal : Table Json) {o : Outcome RenewedLease} {grant : Outcome Span} {maxTtl : Span}
    (granted : o = grant.map fun ttl => { ttl, maxTtl }) :
    ∃ lease, (prolonged internal o).lease = some lease ∧ lease.ttl.toNat = grant.value.nanos / 1_000_000_000 := by
  subst granted
  exact ⟨_, rfl, Span.toNat_secs grant.value⟩

section
variable {settings : Settings} {internal : Table Json} {increment : Span} {issued : Instant} {i : Nat}
  {s t : Surroundings} {response : Response}

section
variable (run : Surroundings.Runs i (HostCall.renew settings internal increment issued).program s (.ok response) t)
  (plain : response.error = none)
include run plain

/-- What a renewal that succeeds found, granted, told the server and reported. -/
theorem extended_of_renewed : ∃ secret role now lease, LeaseSecret.ofInternal internal = .ok secret ∧
    Credentials.Extended settings secret increment issued s t role now ∧ response.lease = some lease ∧
    lease.ttl.toNat =
      min (role.asked settings.lease increment) (role.left settings.lease issued now) / 1_000_000_000 ∧
    (t.sent = s.sent ↔ min (role.asked settings.lease increment) (role.left settings.lease issued now) = 0) := by
  obtain ⟨secret, o, read, ran, rfl⟩ := HostCall.runs_renew.1 ⟨run, plain⟩
  obtain ⟨role, now, extended, same⟩ := Program.wp_demonic_iff.1 Credentials.wp_renewCredential _ _ ran
  have granted := @RoleRecord.nanos_renewalTerm settings.lease role increment issued now
  obtain ⟨lease, leased, ttl⟩ := Router.reported_of_grant internal same
  refine ⟨secret, role, now, lease, read, extended, leased, ?_, ?_⟩
  · rw [ttl, granted]
  · rw [extended.2.2, ← granted, ← Credentials.told_eq_nil_iff]
    exact List.append_left_eq_self

/-- A renewal that succeeds tells the server nothing exactly where the lease is past its maximum, or no term is given at
    all. What it reports is the granted term in whole seconds: none exactly where less than a second is asked for or
    left, so also where it tells the server nothing. -/
theorem renewed_term_reported (valid : settings.validate = .ok ()) : ∃ secret role now lease,
    LeaseSecret.ofInternal internal = .ok secret ∧
    Loads RoleRecord.decode s.values (StoreKeys.role secret.role) (some role) ∧ t.shown = now :: s.shown ∧
    response.lease = some lease ∧
    (t.sent = s.sent ↔ role.PastMaximum settings.lease issued now ∨ role.Unasked settings.lease increment) ∧
    lease.ttl.toNat =
      min (role.asked settings.lease increment) (role.left settings.lease issued now) / 1_000_000_000 ∧
    (lease.ttl = 0 ↔ role.asked settings.lease increment < 1_000_000_000 ∨
      role.left settings.lease issued now < 1_000_000_000) ∧
    (t.sent = s.sent → lease.ttl = 0) := by
  obtain ⟨secret, role, now, lease, read, extended, leased, ttl, nothing⟩ := extended_of_renewed run plain
  have reported : lease.ttl = 0 ↔ lease.ttl.toNat = 0 := UInt64.toNat_inj.symm
  refine ⟨secret, role, now, lease, read, extended.1, extended.2.1, leased, ?_, ttl, ?_, ?_⟩
  · rw [nothing, ← RoleRecord.left_eq_zero_iff (Settings.maxTtl_of_valid valid), ← RoleRecord.asked_eq_zero_iff]
    omega
  · rw [reported, ttl]
    omega
  · rw [nothing, reported, ttl]
    intro none
    rw [none]

end

end

/-- Where a role was written, and a broker is started anew, a host can renew a lease at any time. -/
theorem exists_renewed (settings : Settings) (request : RoleRequest) (increment : Span) (issued now : Instant)
    (bounded : (!(request.maxTtl.getD settings.lease.maxTtl).isZero &&
      request.maxTtl.getD settings.lease.maxTtl < request.defaultTtl.getD settings.lease.defaultTtl) = false) :
    ∃ log u s response t, Session log u ∧ s.values = u.values ∧
      Surroundings.Runs 0 (HostCall.renew settings Renewals.exampleSecret.toInternal increment issued).program s
        (.ok response) t ∧ response.error = none ∧ t.shown = [now] ∧
      Loads RoleRecord.decode s.values (StoreKeys.role "reader") (some (Command.requestedRole settings.lease request)) := by
  obtain ⟨_, _, u, c, d, session, stored, active, stored', active', pattern⟩ :=
    Session.exists_registered settings.lease request bounded
  let s : Surroundings := ⟨u.values, .empty, []⟩
  obtain ⟨o, t, run, -, shown⟩ := Renewals.exists_renewal (s := s) settings Renewals.exampleSecret increment issued now
    pattern stored active stored' active' List.not_mem_nil
  obtain ⟨called, plain⟩ := HostCall.runs_renew.2 ⟨_, o, LeaseSecret.ofInternal_toInternal _, run, rfl⟩
  exact ⟨_, u, s, _, t, session, rfl, called, plain, shown, pattern⟩

/-- A lease of two hours that is renewed after two hours is left alone, and none of it is reported. -/
theorem spent_lease_left_alone : ∃ s t response lease,
    Settings.validate {} = .ok () ∧
      Surroundings.Runs 0 (HostCall.renew {} Renewals.exampleSecret.toInternal .zero (.ofSecs 0)).program s
        (.ok response) t ∧ response.error = none ∧ t.shown = [.ofSecs 7200] ∧ response.lease = some lease ∧
      lease.ttl = 0 ∧ t.sent = s.sent := by
  obtain ⟨_, _, s, response, t, _, -, run, plain, shown, pattern⟩ :=
    exists_renewed {} Renewals.hourlyRole .zero (.ofSecs 0) (.ofSecs 7200) (by decide +kernel)
  obtain ⟨secret, role, now, lease, read, loads, shown', leased, nothing, -, -, none⟩ :=
    renewed_term_reported run plain rfl
  obtain rfl : Renewals.exampleSecret = secret :=
    Except.ok.inj ((LeaseSecret.ofInternal_toInternal _).symm.trans read)
  obtain rfl := loads_unique loads pattern
  obtain rfl : now = .ofSecs 7200 := (List.cons.inj (shown'.symm.trans shown)).1
  have past : (Command.requestedRole {} Renewals.hourlyRole).PastMaximum {} (.ofSecs 0) (.ofSecs 7200) := by
    unfold RoleRecord.PastMaximum
    decide +kernel
  have alone : t.sent = s.sent := nothing.2 (.inl past)
  exact ⟨s, t, response, lease, rfl, run, plain, shown, leased, none alone, alone⟩

/-- Settings that give no term, and allow leases of a day. -/
def termless : Settings := { lease := { defaultTtl := .zero } }

/-- Where neither role nor system gives a term, less than a second can be asked for in the instant of the issue. None of
    it is reported, and the server is told just where it is anything at all. -/
theorem exists_unreported (increment : Span) (small : increment.nanos < 1_000_000_000) :
    ∃ log u s response t lease, Session log u ∧ s.values = u.values ∧
      Surroundings.Runs 0 (HostCall.renew termless Renewals.exampleSecret.toInternal increment (.ofSecs 0)).program s
        (.ok response) t ∧ response.error = none ∧ t.shown = [.ofSecs 0] ∧
      Loads RoleRecord.decode s.values (StoreKeys.role "reader") (some (Command.requestedRole termless.lease {})) ∧
      response.lease = some lease ∧ lease.ttl = 0 ∧ (t.sent = s.sent ↔ increment.nanos = 0) := by
  obtain ⟨log, u, s, response, t, session, same, run, plain, shown, pattern⟩ :=
    exists_renewed termless {} increment (.ofSecs 0) (.ofSecs 0) (by decide +kernel)
  obtain ⟨secret, role, now, lease, read, extended, leased, ttl, nothing⟩ := extended_of_renewed run plain
  obtain rfl : Renewals.exampleSecret = secret :=
    Except.ok.inj ((LeaseSecret.ofInternal_toInternal _).symm.trans read)
  obtain rfl := loads_unique extended.1 pattern
  obtain rfl : now = .ofSecs 0 := (List.cons.inj (extended.2.1.symm.trans shown)).1
  have left : (Command.requestedRole termless.lease {}).left termless.lease (.ofSecs 0) (.ofSecs 0) =
      86400 * 1_000_000_000 := by decide +kernel
  have asked : (Command.requestedRole termless.lease {}).asked termless.lease increment = increment.nanos := by
    unfold RoleRecord.asked
    by_cases given : increment.nanos = 0
    · rw [if_neg (not_not_intro given), given]
      decide +kernel
    · exact if_pos given
  rw [asked, left] at ttl nothing
  refine ⟨log, u, s, response, t, lease, session, same, run, plain, shown, pattern, leased, ?_, ?_⟩
  · refine UInt64.toNat_inj.1 (ttl.trans ?_)
    show _ = 0
    omega
  · rw [nothing]
    omega

/-- A renewal that is reported to have ended a lease that is not past its maximum: one of half a second is told to the
    server all the same, and one that nothing is asked for by is not. -/
theorem nothing_reported_before_maximum :
    termless.validate = .ok () ∧
    ¬(Command.requestedRole termless.lease {}).PastMaximum termless.lease (.ofSecs 0) (.ofSecs 0) ∧
    (∃ log u s response t lease, Session log u ∧ s.values = u.values ∧
      Surroundings.Runs 0 (HostCall.renew termless Renewals.exampleSecret.toInternal ⟨500_000_000, by decide⟩
        (.ofSecs 0)).program s (.ok response) t ∧ response.error = none ∧ t.shown = [.ofSecs 0] ∧
      Loads RoleRecord.decode s.values (StoreKeys.role "reader") (some (Command.requestedRole termless.lease {})) ∧
      response.lease = some lease ∧ lease.ttl = 0 ∧ t.sent ≠ s.sent) ∧
    (∃ log u s response t lease, Session log u ∧ s.values = u.values ∧
      Surroundings.Runs 0 (HostCall.renew termless Renewals.exampleSecret.toInternal .zero (.ofSecs 0)).program s
        (.ok response) t ∧ response.error = none ∧ t.shown = [.ofSecs 0] ∧
      Loads RoleRecord.decode s.values (StoreKeys.role "reader") (some (Command.requestedRole termless.lease {})) ∧
      response.lease = some lease ∧ lease.ttl = 0 ∧ t.sent = s.sent) := by
  refine ⟨rfl, ?_, ?_, ?_⟩
  · unfold RoleRecord.PastMaximum
    decide +kernel
  · obtain ⟨log, u, s, response, t, lease, session, same, run, plain, shown, pattern, leased, none, told⟩ :=
      exists_unreported ⟨500_000_000, by decide⟩ (by decide +kernel)
    refine ⟨log, u, s, response, t, lease, session, same, run, plain, shown, pattern, leased, none, ?_⟩
    exact fun nothing => absurd (told.1 nothing) (by decide +kernel)
  · obtain ⟨log, u, s, response, t, lease, session, same, run, plain, shown, pattern, leased, none, told⟩ :=
      exists_unreported .zero (by decide +kernel)
    exact ⟨log, u, s, response, t, lease, session, same, run, plain, shown, pattern, leased, none, told.2 rfl⟩

end LeaseBroker
