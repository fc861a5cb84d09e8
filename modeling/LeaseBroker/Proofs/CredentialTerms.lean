import LeaseBroker.Proofs.LeaseTerms
import LeaseBroker.Proofs.SentStatements
import LeaseBroker.Proofs.StoredRecords
import LeaseBroker.Proofs.RoleStatements

/-!
Until when leased logins are valid. What servers are told of it is worked out
from the records that were read and from the clock: the statements that make a
login (`wp_issueCredential_sent`) and the one that moves its expiry
(`wp_renewCredential`). However often a lease is renewed, no expiry lies past
the maximum and the margin from the issue (`renewals_within_maximum`). A new
lease is not bound like that: where the role says nothing of its own, and has a
maximum below what the system grants, it outlasts that maximum
(`issued_expiry`).
-/
namespace LeaseBroker

open Op
open Surroundings (alone lucky Sent)
open Template (render)

/-- The clock may show any instant. -/
theorem Program.wp_now {i : Nat} {s : Surroundings} {Q : Instant → Surroundings → Prop}
    (h : ∀ now : Instant, Q now (s.after i .now now)) : Program.wp (alone i) Q Program.now s :=
  Surroundings.alone_iff.2 fun now _ => h now

/-! ## Issuing -/

namespace Credentials

/-- What makes a login that is valid until then, the last statement first. -/
def creating (c : ClusterRecord) (d : DatabaseRecord) (r : RoleRecord) (username password : String)
    (validUntil : Instant) : List String :=
  ((trimmed r.creationStatements).map
    (render · (issueBindings username password validUntil.text d.objectsOwner c.managementRole))).reverse

/-- A credential was issued by this role and this clock, and the server was told that it is valid for the term. -/
structure Issued (cluster name role : String) (credential : Credential) (s t : Surroundings) (r : RoleRecord)
    (now : Instant) (term : Span) : Prop where
  pattern : Loads RoleRecord.decode s.values (StoreKeys.role role) (some r)
  shown : t.shown = now :: s.shown
  sent : ∃ c d, Loads ClusterRecord.decode s.values (StoreKeys.cluster cluster) (some c) ∧
    Loads DatabaseRecord.decode s.values (StoreKeys.database cluster name) (some d) ∧
    t.sent = creating c d r credential.username credential.password (now.after term) ++ s.sent

/-- A credential that is returned with the bookkeeping for it, and with the terms of its role. -/
structure Lent (cluster name role : String) (r : RoleRecord) (credential : Credential) : Prop where
  secret : credential.secret = { role, username := credential.username, cluster, database := name }
  ttl : credential.ttl = r.defaultSpan
  maxTtl : credential.maxTtl = r.maxSpan

section
variable {settings : Settings} {cluster name role displayName : String} {i : Nat} {s t : Surroundings}

theorem wp_issueCredential_lent : Op.wp (alone i)
    (fun credential t => ∃ r now,
      Issued cluster name role credential s t r now ((issueTerm r now).grant settings.lease).value ∧
        Lent cluster name role r credential)
    (fun _ _ => True) (issueCredential settings cluster name role displayName) s := by
  refine wp_found (wp_load_silent (.refl s)) (fun _ _ => trivial) (fun c t loaded => ?_) fun _ _ _ => trivial
  obtain ⟨same, loads⟩ := loaded
  refine wp_unless trivial fun _ => ?_
  refine wp_found (wp_load_silent same) (fun _ _ => trivial) (fun d u loaded => ?_) fun _ _ _ => trivial
  obtain ⟨same, loads'⟩ := loaded
  refine wp_unless trivial fun _ => ?_
  refine wp_found (wp_load_silent same) (fun _ _ => trivial) (fun r v loaded => ?_) fun _ _ _ => trivial
  obtain ⟨same, pattern⟩ := loaded
  refine wp_bind_silent same (only_lift (Program.only_call rfl)) (fun _ _ _ => trivial) fun id w same => ?_
  refine wp_bind_silent same (only_lift (Program.only_call rfl)) (fun _ _ _ => trivial) fun password x same => ?_
  refine (wp_bind_lift ..).2 (Program.wp_now fun now => ?_)
  have shown : (x.after i .now now).shown = now :: s.shown :=
    Surroundings.shown_after.trans (congrArg (now :: ·) same.shown)
  have sent : (x.after i .now now).sent = s.sent := Surroundings.sent_after.trans same.sent
  have starting : Op.Only (·.silent) (Connections.startManagement cluster name) :=
    Connections.only_onManagement Call.silent_of_gets fun _ => Program.only_call rfl
  refine wp_bind_silent (.refl _) starting (fun _ _ _ => trivial) fun transaction y begun => ?_
  refine wp_seq_lift (Fleet.wp_runEach_sent _) fun ran z told => ?_
  cases ran with
  | error e => exact wp_seq_lift (Surroundings.wp_alone_any _ z) fun _ _ _ => trivial
  | ok done =>
    replace told := begun.trans (told rfl)
    refine wp_bind_silent told (only_ofSql (Program.only_call rfl)) (fun _ _ _ => trivial) fun _ z' told => ?_
    refine wp_bind_silent told (only_lift (Program.only_call rfl)) (fun _ _ _ => trivial) fun _ z'' told => ?_
    refine ⟨r, now, ⟨pattern, told.shown.trans shown, c, d, loads, loads', ?_⟩, rfl, rfl, rfl⟩
    rw [told.sent, sent, List.append_nil]
    rfl

theorem wp_issueCredential_sent : Op.wp (alone i)
    (fun credential t => ∃ r now,
      Issued cluster name role credential s t r now ((issueTerm r now).grant settings.lease).value)
    (fun _ _ => True) (issueCredential settings cluster name role displayName) s :=
  wp_mono wp_issueCredential_lent (fun _ _ ⟨r, now, issued, _⟩ => ⟨r, now, issued⟩) fun _ _ => id

/-- Among records as they can come about, a new lease is told to the server with an expiry that lies its term after the
    time that the clock showed, or is the last instant. The term is the one that a renewal at that time would grant, and
    lies within the maximum of the system and the role, just where the role need not cut it. -/
theorem issued_expiry {credential : Credential} (filed : WellFiled s.values)
    (run : Surroundings.Runs i (issueCredential settings cluster name role displayName).run s (.ok credential) t) :
    ∃ r now term, Issued cluster name role credential s t r now term ∧
      term.nanos = min (r.asked settings.lease .zero) settings.lease.maxTtl.nanos ∧
      (term = ((r.renewalTerm .zero now now).grant settings.lease).value ↔ r.BoundsIssue settings.lease) ∧
      (term.nanos ≤ r.ceiling settings.lease ↔ r.BoundsIssue settings.lease) ∧
      (now.OnClock → (now.after term).line = min (now.line + term.nanos) Instant.latest.line) := by
  obtain ⟨r, now, issued⟩ := Program.wp_demonic_iff.1 wp_issueCredential_sent _ _ run
  obtain ⟨text, stored, decoded⟩ := issued.pattern
  have fit : r.Fit := (filed _ _ stored).role_fit decoded
  refine ⟨r, now, ((issueTerm r now).grant settings.lease).value, issued, RoleRecord.nanos_issueTerm, ?_, ?_, ?_⟩
  · exact RoleRecord.issueTerm_eq_renewalTerm_iff fit
  · exact RoleRecord.nanos_issueTerm_le_iff fit
  · exact fun onClock => (Instant.line_after onClock.regular _).2

end

/-- A role without a term of its own, and with a maximum of one minute. -/
def briefRole : RoleRequest := { defaultTtl := some .zero, maxTtl := some (.ofSecs 60) }

/-- A lease of a role that a session has written is issued for an hour, where a renewal would grant a minute. -/
theorem issued_past_maximum : ∃ log s t credential r now term,
    Session log s ∧ Issued "main" "app" "reader" credential s t r now term ∧ r = Command.requestedRole {} briefRole ∧
      term.nanos = 3600 * 1_000_000_000 ∧ r.ceiling {} = 60 * 1_000_000_000 ∧
      term ≠ ((r.renewalTerm .zero now now).grant {}).value ∧
      (now.OnClock → (now.after term).line = min (now.line + 3600 * 1_000_000_000) Instant.latest.line) := by
  obtain ⟨_, _, s, c, d, session, stored, active, stored', active', pattern⟩ :=
    Session.exists_registered {} briefRole (by decide +kernel)
  obtain ⟨reply, t, run, ended⟩ := Program.wp_angelic_iff.1
    (wp_lucky_issueCredential (i := 0) {} "app" (.ofSecs 0) stored active stored' active' pattern)
  cases reply with
  | error e => exact ended.elim
  | ok credential =>
    obtain ⟨r, now, term, issued, nanos, renewal, -, expiry⟩ := issued_expiry session.wellFiled run
    obtain rfl := loads_unique issued.pattern pattern
    have unbound : ¬(Command.requestedRole {} briefRole).BoundsIssue {} := by
      rintro (own | unset | enough)
      · exact own rfl
      · exact absurd unset (by decide +kernel)
      · exact absurd enough (by decide +kernel)
    have hour : term.nanos = 3600 * 1_000_000_000 := nanos.trans (by decide +kernel)
    refine ⟨_, s, t, credential, _, now, term, session, issued, rfl, hour, by decide +kernel, ?_, ?_⟩
    · exact fun same => unbound (renewal.1 same)
    · exact fun onClock => (expiry onClock).trans (by rw [hour]; rfl)

end Credentials

/-! ## Renewing -/

/-- The statement that moves the expiry of a login. -/
def expiryStatement (username : String) (validUntil : Instant) : String :=
  String.ofList ("alter role ".toList ++ (Fragment.identifier username).chars ++ " valid until ".toList ++
    (Fragment.literal validUntil.text).chars)

theorem render_renewExpiry (username : String) (validUntil : Instant) :
    render Statements.renewExpiry ((Bindings.empty.identifier "user" username).literal "expiration" validUntil.text) =
      expiryStatement username validUntil := by
  have pieces : Template.pieces Statements.renewExpiry.toList = [.plain "alter role ".toList, .slot "user".toList,
      .plain " valid until ".toList, .slot "expiration".toList, .plain []] := by
    unfold Statements.renewExpiry
    simp only [String.toList_append]
    decide +kernel
  generalize bound : (Bindings.empty.identifier "user" username).literal "expiration" validUntil.text = bindings
  have named : bindings.get? "user" = some (.identifier username) ∧
      bindings.get? "expiration" = some (.literal validUntil.text) := by
    subst bound
    simp [Bindings.get?, Bindings.identifier, Bindings.literal, Bindings.empty, List.lookup_cons]
  have user := fill_slot "user" (by simp [slotNames]) named.1
  have expiration := fill_slot "expiration" (by simp [slotNames]) named.2
  rw [render, Template.renderChars, pieces]
  simp only [List.flatMap_cons, List.flatMap_nil]
  rw [user, expiration]
  unfold expiryStatement Template.Piece.fill
  -- What stands between the slots is the same on both sides, and not to be evaluated.
  generalize "alter role ".toList = a
  generalize " valid until ".toList = b
  simp

namespace Credentials

variable {settings : Settings} {secret : LeaseSecret} {increment : Span} {issued now : Instant} {role : RoleRecord}
  {i : Nat} {s : Surroundings}

/-- What a renewal tells the server. -/
def told (settings : Settings) (username : String) (now : Instant) (term : Span) : List String :=
  if term.isZero then [] else [expiryStatement username (now.after (term.add settings.renewMargin))]

/-- What a renewal found and told the server, if it did not fail before. -/
def Extended (settings : Settings) (secret : LeaseSecret) (increment : Span) (issued : Instant) (s t : Surroundings)
    (role : RoleRecord) (now : Instant) : Prop :=
  Loads RoleRecord.decode s.values (StoreKeys.role secret.role) (some role) ∧ t.shown = now :: s.shown ∧
    t.sent = told settings secret.username now ((role.renewalTerm increment issued now).grant settings.lease).value ++ s.sent

/-- What is left of a renewal once the term is known. -/
def prolong (settings : Settings) (secret : LeaseSecret) (o : Outcome Span) (maxTtl : Span) (now : Instant) :
    Op (Outcome RenewedLease) :=
  if !o.value.isZero then do
    extend secret (now.after (o.value.add settings.renewMargin))
    Program.tally .renewed
    return o.map fun ttl => { ttl, maxTtl }
  else return o.map fun ttl => { ttl, maxTtl }

theorem wp_prolong (o : Outcome Span) (maxTtl : Span) (now : Instant) :
    Op.wp (alone i)
      (fun r t => Sent (told settings secret.username now o.value) s t ∧ r = o.map fun ttl => { ttl, maxTtl })
      (fun _ t => Sent [] s t ∨ Sent (told settings secret.username now o.value) s t)
      (prolong settings secret o maxTtl now) s := by
  unfold prolong
  cases zero : o.value.isZero with
  | true =>
    have nothing : told settings secret.username now o.value = [] := if_pos zero
    exact ⟨nothing ▸ .refl s, rfl⟩
  | false =>
    have extension : told settings secret.username now o.value =
        [expiryStatement secret.username (now.after (o.value.add settings.renewMargin))] :=
      if_neg (Bool.eq_false_iff.1 zero)
    rw [extension, ← render_renewExpiry]
    refine wp_seq Connections.wp_executeManagement (fun _ t reached => ?_) fun _ _ failed => failed
    exact wp_bind_silent reached (only_lift (Program.only_call rfl)) (fun _ u => .inr) fun _ u reached => ⟨reached, rfl⟩

theorem wp_renewCredential : Op.wp (alone i)
    (fun o t => ∃ role now, Extended settings secret increment issued s t role now ∧
      o = ((role.renewalTerm increment issued now).grant settings.lease).map fun ttl => { ttl, maxTtl := role.maxSpan })
    (fun _ t => t.sent = s.sent ∨ ∃ role now, Extended settings secret increment issued s t role now)
    (renewCredential settings secret increment issued) s := by
  refine wp_found (wp_load_silent (.refl s)) (fun _ missing => .inl missing.1.sent) (fun role t loaded => ?_)
    fun _ _ same => .inl same.sent
  obtain ⟨same, loads⟩ := loaded
  refine wp_found (wp_load_silent same) (fun _ missing => .inl missing.1.sent) (fun cluster u loaded => ?_)
    fun _ _ same => .inl same.sent
  refine wp_unless (.inl loaded.1.sent) fun _ => ?_
  refine wp_found (wp_load_silent loaded.1) (fun _ missing => .inl missing.1.sent) (fun database v loaded => ?_)
    fun _ _ same => .inl same.sent
  replace same := loaded.1
  refine wp_unless (.inl same.sent) fun _ => ?_
  refine (wp_bind_lift ..).2 (Program.wp_now fun now => ?_)
  have shown : (v.after i .now now).shown = now :: s.shown :=
    Surroundings.shown_after.trans (congrArg (now :: ·) same.shown)
  have sent : (v.after i .now now).sent = s.sent := Surroundings.sent_after.trans same.sent
  have extended {w : Surroundings}
      (reached : Sent (told settings secret.username now
        ((role.renewalTerm increment issued now).grant settings.lease).value) (v.after i .now now) w) :
      Extended settings secret increment issued s w role now :=
    ⟨loads, reached.shown.trans shown, by rw [reached.sent, sent]⟩
  refine wp_mono (wp_prolong ((role.renewalTerm increment issued now).grant settings.lease) role.maxSpan now)
    (fun o w ended => ?_) fun _ w failed => ?_
  · exact ⟨role, now, extended ended.1, ended.2⟩
  · rcases failed with same | reached
    · exact .inl (same.sent.trans sent)
    · exact .inr ⟨role, now, extended reached⟩

end Credentials

/-- A renewal, what it met and what it left behind. -/
structure Renewal where
  settings : Settings
  increment : Span
  before : Surroundings
  after : Surroundings
  reply : Except BrokerError (Outcome RenewedLease)

/-- Renewals of one lease, the latest first, and the state in the end. Between two of them anything may happen. -/
inductive Renewals (secret : LeaseSecret) (issued : Instant) : List Renewal → Surroundings → Prop
  | start (s : Surroundings) : Renewals secret issued [] s
  | meanwhile {log : List Renewal} {s t : Surroundings} (earlier : Renewals secret issued log s)
      (grown : s.history <:+ t.history) : Renewals secret issued log t
  | renew {log : List Renewal} {s t : Surroundings} {settings : Settings} {increment : Span}
      {reply : Except BrokerError (Outcome RenewedLease)} {i : Nat} (earlier : Renewals secret issued log s)
      (run : Surroundings.Runs i (Credentials.renewCredential settings secret increment issued).run s reply t) :
      Renewals secret issued (⟨settings, increment, s, t, reply⟩ :: log) t

namespace Renewal

/-- Where the renewal succeeds, it grants what is asked for by the role that it finds, cut to what is left by the clock
    that it reads. It warns just where nothing is left or less than asked for. The server is told nothing where nothing
    is granted, and otherwise one expiry: the clock with the term and the margin, or the last instant. -/
def Exact (secret : LeaseSecret) (issued : Instant) (r : Renewal) : Prop :=
  ∀ o, r.reply = .ok o → ∃ role now,
    Loads RoleRecord.decode r.before.values (StoreKeys.role secret.role) (some role) ∧
    r.after.shown = now :: r.before.shown ∧
    o.value.ttl.nanos = min (role.asked r.settings.lease r.increment) (role.left r.settings.lease issued now) ∧
    (o.warnings ≠ [] ↔ role.left r.settings.lease issued now = 0 ∨
      role.left r.settings.lease issued now < role.asked r.settings.lease r.increment) ∧
    (o.value.ttl.nanos = 0 → r.after.sent = r.before.sent) ∧
    (o.value.ttl.nanos ≠ 0 → ∃ v : Instant, v.isLeap = false ∧
      v.line = min (now.line + o.value.ttl.nanos + r.settings.renewMargin.nanos) Instant.latest.line ∧
      r.after.sent = expiryStatement secret.username v :: r.before.sent)

/-- Whether it succeeds or not, all that the renewal tells the server are expiries on the calendar that lie within the
    maximum and the margin from the issue. -/
def Bounded (secret : LeaseSecret) (issued : Instant) (r : Renewal) : Prop :=
  ∃ new, r.after.sent = new ++ r.before.sent ∧ ∀ sql ∈ new, ∃ (role : RoleRecord) (v : Instant),
    Loads RoleRecord.decode r.before.values (StoreKeys.role secret.role) (some role) ∧
    sql = expiryStatement secret.username v ∧ v.isLeap = false ∧ v.OnCalendar ∧
    v.line ≤ issued.line + role.ceiling r.settings.lease + r.settings.renewMargin.nanos

section
variable {secret : LeaseSecret} {issued now : Instant} {r : Renewal} {role : RoleRecord} {i : Nat}

/-- What a renewal tells the server by the role and the clock that it reads. -/
theorem told_eq (secret : LeaseSecret) (onClock : now.OnClock) {term : Span}
    (within : term.nanos ≤ role.left r.settings.lease issued now) :
    (term.nanos = 0 → Credentials.told r.settings secret.username now term = []) ∧
    (term.nanos ≠ 0 → ∃ v : Instant, v.isLeap = false ∧ v.OnCalendar ∧
      v.line = min (now.line + term.nanos + r.settings.renewMargin.nanos) Instant.latest.line ∧
      v.line ≤ issued.line + role.ceiling r.settings.lease + r.settings.renewMargin.nanos ∧
      Credentials.told r.settings secret.username now term = [expiryStatement secret.username v]) := by
  refine ⟨fun none => if_pos (beq_iff_eq.2 none), fun some => ?_⟩
  refine ⟨now.after (term.add r.settings.renewMargin), (Instant.line_after onClock.regular _).1,
    Instant.onCalendar_after onClock _, RoleRecord.line_after_add onClock _ _,
    RoleRecord.line_validUntil_le onClock some within _, if_neg fun zero => some (beq_iff_eq.1 zero)⟩

/-- A renewal that found this role and read the clock does as it should, where its grant is as it should be. -/
theorem exact_of_grant (onClock : now.OnClock) {grant : Outcome Span} {maxTtl : Span}
    (reply : r.reply = .ok (grant.map fun ttl => { ttl, maxTtl }))
    (loads : Loads RoleRecord.decode r.before.values (StoreKeys.role secret.role) (some role))
    (shown : r.after.shown = now :: r.before.shown)
    (sent : r.after.sent = Credentials.told r.settings secret.username now grant.value ++ r.before.sent)
    (granted : grant.value.nanos = min (role.asked r.settings.lease r.increment) (role.left r.settings.lease issued now))
    (warned : grant.warnings ≠ [] ↔ role.left r.settings.lease issued now = 0 ∨
      role.left r.settings.lease issued now < role.asked r.settings.lease r.increment) : r.Exact secret issued := by
  intro o same
  cases reply.symm.trans same
  obtain ⟨nothing, expiry⟩ := told_eq (r := r) secret onClock (granted ▸ Nat.min_le_right ..)
  refine ⟨role, now, loads, shown, granted, warned, fun none => ?_, fun some => ?_⟩
  · rw [sent, nothing none]
    rfl
  · obtain ⟨v, regular, -, line, -, told⟩ := expiry some
    exact ⟨v, regular, line, by rw [sent, told]; rfl⟩

variable (run : Surroundings.Runs i (Credentials.renewCredential r.settings secret r.increment issued).run r.before r.reply
  r.after) (clock : ∀ now ∈ r.after.shown, now.OnClock)
include run clock

theorem exact_of_run : r.Exact secret issued := by
  intro o succeeded
  have ended := Program.wp_demonic_iff.1 Credentials.wp_renewCredential _ _ run
  rw [succeeded] at ended
  obtain ⟨role, now, ⟨loads, shown, sent⟩, same⟩ := ended
  have onClock : now.OnClock := clock now (by rw [shown]; exact List.mem_cons_self)
  exact exact_of_grant onClock (succeeded.trans (congrArg _ same)) loads shown sent RoleRecord.nanos_renewalTerm
    RoleRecord.warnings_renewalTerm o succeeded

theorem bounded_of_run : r.Bounded secret issued := by
  have ended := Program.wp_demonic_iff.1 Credentials.wp_renewCredential _ _ run
  have extended : r.after.sent = r.before.sent ∨
      ∃ role now, Credentials.Extended r.settings secret r.increment issued r.before r.after role now := by
    cases reply : r.reply with
    | ok o =>
      rw [reply] at ended
      obtain ⟨role, now, extended, -⟩ := ended
      exact .inr ⟨role, now, extended⟩
    | error e =>
      rw [reply] at ended
      exact ended
  rcases extended with same | ⟨role, now, loads, shown, sent⟩
  · refine ⟨[], same, ?_⟩
    rintro _ ⟨⟩
  · have onClock : now.OnClock := clock now (by rw [shown]; exact List.mem_cons_self)
    have granted : ((role.renewalTerm r.increment issued now).grant r.settings.lease).value.nanos = _ :=
      RoleRecord.nanos_renewalTerm
    generalize (role.renewalTerm r.increment issued now).grant r.settings.lease = grant at sent granted
    obtain ⟨nothing, expiry⟩ := told_eq (r := r) secret onClock (granted ▸ Nat.min_le_right ..)
    refine ⟨_, sent, fun sql member => ?_⟩
    by_cases none : grant.value.nanos = 0
    · rw [nothing none] at member
      cases member
    · obtain ⟨v, regular, onCalendar, -, bounded, told⟩ := expiry none
      rw [told] at member
      exact ⟨role, v, loads, List.mem_singleton.1 member, regular, onCalendar, bounded⟩

end

end Renewal

namespace Renewals

variable {secret : LeaseSecret} {issued : Instant} {log : List Renewal} {s : Surroundings}

theorem ran (renewals : Renewals secret issued log s) {r : Renewal} (member : r ∈ log) :
    (∃ i, Surroundings.Runs i (Credentials.renewCredential r.settings secret r.increment issued).run r.before r.reply
      r.after) ∧ r.after.history <:+ s.history := by
  induction renewals with
  | start => cases member
  | meanwhile _ grown ih => exact ⟨(ih member).1, (ih member).2.trans grown⟩
  | @renew log s t settings increment reply i _ run ih =>
    rcases List.mem_cons.1 member with rfl | earlier
    · exact ⟨⟨i, run⟩, List.suffix_refl _⟩
    · exact ⟨(ih earlier).1, (ih earlier).2.trans (Surroundings.history_grows run)⟩

/-- However often a lease is renewed, with any increments and settings, and whatever happens to its role and to the
    clock between the renewals: each grants what is asked for, cut to what is left of the maximum since the issue, with
    a warning where it has to; and no expiry that any of them tells the server lies further from the issue than the
    maximum and the margin. Every difference of instants on the way is exact and within its type. -/
theorem renewals_within_maximum (renewals : Renewals secret issued log s) (calendar : issued.OnCalendar)
    (clock : ∀ now ∈ s.shown, now.OnClock) {r : Renewal} (member : r ∈ log) :
    r.Exact secret issued ∧ r.Bounded secret issued ∧
      ∀ now ∈ r.after.shown, (now.nanosSince issued).natAbs ≤ (UInt64.size / 2 - 1) * 1_000_000 ∧
        (now.since issued).nanos = (now.nanosSince issued).toNat ∧
        (issued.isLeap = false → now.nanosSince issued = now.line - issued.line) := by
  obtain ⟨⟨i, run⟩, grown⟩ := renewals.ran member
  have clock' (now : Instant) (shown : now ∈ r.after.shown) : now.OnClock :=
    clock now ((grown.sublist.filterMap _).subset shown)
  refine ⟨Renewal.exact_of_run run clock', Renewal.bounded_of_run run clock', fun now shown => ?_⟩
  have onClock := clock' now shown
  exact ⟨Instant.nanosSince_fits onClock.onCalendar calendar, Instant.nanos_since onClock.onCalendar calendar,
    Instant.nanosSince_of_not_isLeap onClock.regular⟩

/-- A lease of an active database can be renewed at any time that the clock has not shown yet. -/
theorem exists_renewal (settings : Settings) (secret : LeaseSecret) (increment : Span) (issued now : Instant)
    {r : RoleRecord} {c : ClusterRecord} {d : DatabaseRecord}
    (pattern : Loads RoleRecord.decode s.values (StoreKeys.role secret.role) (some r))
    (stored : Loads ClusterRecord.decode s.values (StoreKeys.cluster secret.cluster) (some c)) (active : c.disabled = false)
    (stored' : Loads DatabaseRecord.decode s.values (StoreKeys.database secret.cluster secret.database) (some d))
    (active' : d.disabled = false) (fresh : now ∉ s.shown) :
    ∃ o t, Surroundings.Runs 0 (Credentials.renewCredential settings secret increment issued).run s (.ok o) t ∧
      t.values = s.values ∧ t.shown = now :: s.shown := by
  obtain ⟨reply, t, run, ended⟩ := Program.wp_angelic_iff.1
    (Credentials.wp_lucky_renewCredential settings increment issued now pattern stored active stored' active')
  cases reply with
  | error e => exact ended.elim
  | ok o =>
    obtain ⟨role, now', ⟨-, shown, -⟩, -⟩ := Program.wp_demonic_iff.1 Credentials.wp_renewCredential _ _ run
    have read := shown ▸ Surroundings.mem_shown ended.2
    obtain rfl := (List.mem_cons.1 read).resolve_right fresh
    exact ⟨o, t, run, ended.1, shown⟩

/-- A role for leases of an hour that can be stretched to two. -/
def hourlyRole : RoleRequest := { defaultTtl := some (.ofSecs 3600), maxTtl := some (.ofSecs 7200) }

def exampleSecret : LeaseSecret := { role := "reader", username := "login", cluster := "main", database := "app" }

/-- A lease that can last two hours is renewed after one hour, and again half an hour later: half an hour is left. -/
theorem renewed_until_maximum : ∃ log s r o v,
    Renewals exampleSecret (.ofSecs 0) log s ∧ log.length = 2 ∧ r ∈ log ∧ r.reply = .ok o ∧
      r.Exact exampleSecret (.ofSecs 0) ∧ r.Bounded exampleSecret (.ofSecs 0) ∧
      o.value.ttl.nanos = 1800 * 1_000_000_000 ∧ o.warnings ≠ [] ∧ v.line = 7205 * 1_000_000_000 ∧
      r.after.sent = expiryStatement "login" v :: r.before.sent := by
  obtain ⟨_, _, u, c, d, -, stored, active, stored', active', pattern⟩ :=
    Session.exists_registered {} hourlyRole (by decide +kernel)
  let s₀ : Surroundings := ⟨u.values, .empty, []⟩
  obtain ⟨o₁, s₁, run₁, same₁, shown₁⟩ := exists_renewal (s := s₀) {} exampleSecret .zero (.ofSecs 0) (.ofSecs 3600)
    pattern stored active stored' active' List.not_mem_nil
  replace shown₁ : s₁.shown = [.ofSecs 3600] := shown₁
  rw [← same₁] at pattern stored stored'
  obtain ⟨o, s, run, -, shown⟩ := exists_renewal {} exampleSecret .zero (.ofSecs 0) (.ofSecs 5400)
    pattern stored active stored' active' (by rw [shown₁]; decide +kernel)
  have renewals := (Renewals.start s₀).renew run₁ |>.renew run
  have clock : ∀ now ∈ s.shown, now.OnClock := by
    rw [shown, shown₁]
    intro now member
    have read : now = .ofSecs 5400 ∨ now = .ofSecs 3600 := by simpa using member
    rcases read with rfl | rfl <;> exact ⟨⟨by decide +kernel, by decide +kernel⟩, rfl⟩
  obtain ⟨exact, bounded, -⟩ :=
    renewals.renewals_within_maximum ⟨by decide +kernel, by decide +kernel⟩ clock List.mem_cons_self
  obtain ⟨role, now, loads, read, nanos, warned, -, extended⟩ := exact o rfl
  obtain rfl := loads_unique loads pattern
  obtain rfl : .ofSecs 5400 = now := (List.cons.inj (shown.symm.trans read)).1
  have asked : (Command.requestedRole {} hourlyRole).asked {} .zero = 3600 * 1_000_000_000 := by decide +kernel
  have left : (Command.requestedRole {} hourlyRole).left {} (.ofSecs 0) (.ofSecs 5400) = 1800 * 1_000_000_000 := by
    decide +kernel
  have half : o.value.ttl.nanos = 1800 * 1_000_000_000 := by
    rw [asked, left] at nanos
    omega
  obtain ⟨v, -, line, sent⟩ := extended (by omega)
  have expiry : v.line = 7205 * 1_000_000_000 := by
    have start : (Instant.ofSecs 5400).line = 5400 * 1_000_000_000 := by decide +kernel
    have margin : ({} : Settings).renewMargin.nanos = 5 * 1_000_000_000 := by decide +kernel
    have last := Instant.line_latest
    have latest := Instant.secs_latest
    rw [margin] at line
    omega
  refine ⟨_, s, _, o, v, renewals, rfl, List.mem_cons_self, rfl, exact, bounded, half, ?_, expiry, sent⟩
  exact warned.2 (.inr (by rw [left, asked]; omega))

end Renewals

end LeaseBroker
