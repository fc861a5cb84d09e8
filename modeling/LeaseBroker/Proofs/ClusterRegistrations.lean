import LeaseBroker.Proofs.ServedOperations

/-!
How a cluster is registered, call by call. A registration has few ways to end,
and each of them is a list of the calls that were made (`Enrolment`): the first
step that fails is the last but for the closing of the root connection, which
comes on every way that has opened one. What the two statements say and what is
stored is made of the same logins. Closing a connection has no part in how a
registration ends.
-/
namespace LeaseBroker

open Op
open Pool (Passed)
open Surroundings (alone alone_iff)
open Template (render)

variable {α β : Type} {i : Nat} {s t : Surroundings}

/-- Whether the call changes what is stored or cached. -/
def Call.changes : Call → Bool
  | put .. | delete _ | keep .. | evict _ => true
  | _ => false

/-- Calls that change nothing leave what is stored and cached as it was. -/
theorem Pool.Passed.still {events : List Event} (h : Passed events s t) (unchanged : ∀ e ∈ events, !e.call.changes) :
    t.values = s.values ∧ t.broker.cache = s.broker.cache := by
  refine h.keeps (I := fun u => u.values = s.values ∧ u.broker.cache = s.broker.cache) (fun e member u _ same => ?_) ⟨rfl, rfl⟩
  have still := unchanged e member
  obtain ⟨j, c, r⟩ := e
  cases c <;> first | exact same | cases still

/-- Loading is a single call, and what it is answered is read or is a failure. -/
theorem wp_load_alone {decode : String → Except String α} {key : String} {f : Option α → Op β}
    {ok : β → Surroundings → Prop} {fail : BrokerError → Surroundings → Prop}
    (failing : ∀ x e, s.Allows (.fetch key) x → (∀ text? a?, x = .ok text? → ¬Means decode text? a?) →
      fail e (s.after i (.fetch key) x))
    (rest : ∀ text? a?, s.Allows (.fetch key) (.ok text?) → Means decode text? a? →
      Op.wp (alone i) ok fail (f a?) (s.after i (.fetch key) (.ok text?))) :
    Op.wp (alone i) ok fail (loadRecord decode key >>= f) s := by
  refine (wp_bind ..).2 ((wp_bind_ofStore ..).2 (alone_iff.2 fun x given => ?_))
  cases x with
  | error e => exact failing _ _ given nofun
  | ok text? =>
    cases text? with
    | none => exact rest none none given rfl
    | some text =>
      dsimp only [Program.wp, Except.mapError, Op.Ended]
      cases decoded : decode text with
      | ok a => exact rest _ _ given ⟨text, rfl, decoded⟩
      | error report =>
        refine failing _ _ given ?_
        rintro _ (_ | a) ⟨⟩ means
        · cases means
        · obtain ⟨_, ⟨⟩, decoded'⟩ := means
          cases decoded.symm.trans decoded'

/-! ## Closing what was evicted -/

namespace Connections

/-- Evicted connections are counted and closed one after the other, however that ends. -/
inductive Closing (i : Nat) : List (ConnectionKey × Connection) → List Event → Prop
  | nil : Closing i [] []
  | cons {evicted : List (ConnectionKey × Connection)} {events : List Event} (e : ConnectionKey × Connection)
      (r : Except SqlError Unit) (rest : Closing i evicted events) :
      Closing i (e :: evicted) (⟨i, .tally .evicted, ()⟩ :: ⟨i, .close e.2, r⟩ :: events)

namespace Closing

variable {evicted : List (ConnectionKey × Connection)} {events : List Event}

theorem closed (closing : Closing i evicted events) {e : ConnectionKey × Connection} (member : e ∈ evicted) :
    ∃ r, ⟨i, .close e.2, r⟩ ∈ events := by
  induction closing with
  | nil => cases member
  | @cons evicted events first r rest ih =>
    rcases List.mem_cons.1 member with rfl | later
    · exact ⟨r, List.mem_cons_of_mem _ List.mem_cons_self⟩
    · obtain ⟨r', found⟩ := ih later
      exact ⟨r', List.mem_cons_of_mem _ (List.mem_cons_of_mem _ found)⟩

theorem tends (closing : Closing i evicted events) {e : Event} (member : e ∈ events) :
    e.call = .tally .evicted ∨ ∃ c, e.call = .close c := by
  induction closing with
  | nil => cases member
  | @cons evicted events first r rest ih =>
    rcases List.mem_cons.1 member with rfl | later
    · exact .inl rfl
    · rcases List.mem_cons.1 later with rfl | later
      · exact .inr ⟨_, rfl⟩
      · exact ih later

end Closing

theorem wp_closeAll_closing (evicted : List (ConnectionKey × Connection)) :
    Program.wp (alone i) (fun _ t => ∃ events, Closing i evicted events ∧ Passed events s t) (closeAll evicted) s := by
  induction evicted generalizing s with
  | nil => exact ⟨[], .nil, .refl s⟩
  | cons e rest ih =>
    refine (Program.wp_bind ..).2 (alone_iff.2 fun _ counted => (Program.wp_bind ..).2 (alone_iff.2 fun r closing => ?_))
    have before := (Passed.call (i := i) counted).trans (Passed.call (i := i) closing)
    have later : Program.wp (alone i) (fun _ t => ∃ events, Closing i (e :: rest) events ∧ Passed events s t)
        (closeAll rest) ((s.after i (.tally .evicted) ()).after i (.close e.2) r) := by
      refine Program.wp_mono (fun _ t ended => ?_) ih
      obtain ⟨events, closing, passed⟩ := ended
      exact ⟨_, .cons e r closing, before.trans passed⟩
    cases r with
    | ok u => exact later
    | error failure => exact Program.wp_seq later fun _ _ ended => ended

end Connections

namespace Fleet

open Connections (Closing)
open PasswordStatement (bindings)

/-! ## Making the logins -/

/-- The statement that makes the management role of a cluster. -/
def creation (logins : Logins) : String :=
  render Statements.createManagementRole (bindings logins.managementRole logins.managementPassword)

/-- The statement that changes the password of the root login. -/
def rotation (user : String) (logins : Logins) : String :=
  render Statements.updatePassword (bindings user logins.rootPassword)

/-- How making the logins of a cluster ends, by the calls: the management role comes first, and the root login only if
    that was made. -/
inductive Provision (i : Nat) (c : Connection) (user : String) : List Event → Except BrokerError Logins → Prop
  | unmade (id : Uuid) (logins : Logins) (drawn : logins.managementRole = Names.managementRole id) (e : SqlError)
      (e' : BrokerError) : Provision i c user
      [⟨i, .uuid, id⟩, ⟨i, .password, logins.managementPassword⟩, ⟨i, .execute c (creation logins), .error e⟩] (.error e')
  | unrotated (id : Uuid) (logins : Logins) (drawn : logins.managementRole = Names.managementRole id) (e : SqlError)
      (e' : BrokerError) : Provision i c user
      [⟨i, .uuid, id⟩, ⟨i, .password, logins.managementPassword⟩, ⟨i, .execute c (creation logins), .ok ()⟩,
        ⟨i, .password, logins.rootPassword⟩, ⟨i, .execute c (rotation user logins), .error e⟩] (.error e')
  | made (id : Uuid) (logins : Logins) (drawn : logins.managementRole = Names.managementRole id) : Provision i c user
      [⟨i, .uuid, id⟩, ⟨i, .password, logins.managementPassword⟩, ⟨i, .execute c (creation logins), .ok ()⟩,
        ⟨i, .password, logins.rootPassword⟩, ⟨i, .execute c (rotation user logins), .ok ()⟩] (.ok logins)

theorem wp_provisionCluster_passed {c : Connection} {user : String} :
    Op.wp (alone i) (fun logins t => ∃ events, Provision i c user events (.ok logins) ∧ Passed events s t)
      (fun e t => ∃ events, Provision i c user events (.error e) ∧ Passed events s t) (provisionCluster c user) s := by
  refine (wp_bind_inContext ..).2 ((wp_bind_lift ..).2 (alone_iff.2 fun id _ => ?_))
  refine (wp_bind_lift ..).2 (alone_iff.2 fun managementPassword _ => ?_)
  refine (wp_bind_ofSql ..).2 (alone_iff.2 fun created _ => ?_)
  let logins : Logins := ⟨Names.managementRole id, managementPassword, ""⟩
  cases created with
  | error e => exact ⟨_, .unmade id logins rfl e _, ⟨trivial, trivial, trivial, trivial⟩, rfl⟩
  | ok _ =>
    refine (wp_bind_inContext ..).2 ((wp_bind_lift ..).2 (alone_iff.2 fun rootPassword _ => ?_))
    refine (wp_bind_ofSql ..).2 (alone_iff.2 fun rotated _ => ?_)
    let logins : Logins := ⟨Names.managementRole id, managementPassword, rootPassword⟩
    have playable {r : Except SqlError Unit} : Pool.Playable s
        [⟨i, .uuid, id⟩, ⟨i, .password, managementPassword⟩, ⟨i, .execute c (creation logins), .ok ()⟩,
          ⟨i, .password, rootPassword⟩, ⟨i, .execute c (rotation user logins), r⟩] :=
      ⟨trivial, trivial, trivial, trivial, trivial, trivial⟩
    cases rotated with
    | error e => exact ⟨_, .unrotated id logins rfl e _, playable, rfl⟩
    | ok _ => exact ⟨_, .made id logins rfl, playable, rfl⟩

/-! ## Ways to end -/

/-- What must be given for the root connection to be opened: the name is one, the record that was read is that of no deleted
    cluster, and the request makes a record. -/
structure Admitted (name : String) (request : ClusterRequest) (text? : Option String) (record : ClusterRecord) : Prop where
  named : Names.isName name
  registrable : Registrable text?
  valid : request.validate = .ok record

/-- The record in the place of the cluster is read. -/
def reads (i : Nat) (name : String) (x : Except StoreError (Option String)) : Event := ⟨i, .fetch (StoreKeys.cluster name), x⟩

/-- The root connection is asked for. -/
def asks (i : Nat) (record : ClusterRecord) (r : Except SqlError Connection) : Event :=
  ⟨i, .connect (record.target .root record.database), r⟩

/-- The record is written. -/
def writes (i : Nat) (name : String) (c : ClusterRecord) (r : Except StoreError Unit) : Event :=
  ⟨i, .put (StoreKeys.cluster name) c.encode, r⟩

/-- The calls of a registration for which the root connection was opened, up to the closing of it. -/
def session (i : Nat) (name : String) (text? : Option String) (record : ClusterRecord) (c : Connection) (told : List Event)
    (closed : Except SqlError Unit) : List Event :=
  [reads i name (.ok text?), asks i record (.ok c), ⟨i, .tally .opened, ()⟩] ++ told ++ [⟨i, .close c, closed⟩]

/-- How a registration ends, by the calls that it made. -/
inductive Enrolment (i : Nat) (name : String) (request : ClusterRequest) :
    List Event → Except BrokerError (Outcome Unit) → Prop
  | misnamed (bad : ¬Names.isName name) (e : BrokerError) : Enrolment i name request [] (.error e)
  /-- The store failed, or holds what cannot be read or the record of a deleted cluster. -/
  | unfit (x : Except StoreError (Option String)) (bad : ∀ text?, x = .ok text? → ¬Registrable text?) (e : BrokerError) :
      Enrolment i name request [reads i name x] (.error e)
  | invalid (text? : Option String) (bad : ∀ record, request.validate ≠ .ok record) (e : BrokerError) :
      Enrolment i name request [reads i name (.ok text?)] (.error e)
  | unopened (text? : Option String) (record : ClusterRecord) (failure : SqlError) (e : BrokerError) :
      Enrolment i name request [reads i name (.ok text?), asks i record (.error failure)] (.error e)
  | unprovisioned {text? : Option String} {record : ClusterRecord} {c : Connection} {told : List Event} {e : BrokerError}
      (admitted : Admitted name request text? record) (provision : Provision i c record.username told (.error e))
      (closed : Except SqlError Unit) :
      Enrolment i name request (session i name text? record c told closed) (.error e)
  | unstored {text? : Option String} {record : ClusterRecord} {c : Connection} {told : List Event} {logins : Logins}
      (admitted : Admitted name request text? record) (provision : Provision i c record.username told (.ok logins))
      (closed : Except SqlError Unit) (failure : StoreError) (e : BrokerError) :
      Enrolment i name request
        (session i name text? record c told closed ++ [writes i name (record.withLogins logins) (.error failure)]) (.error e)
  | stored {text? : Option String} {record : ClusterRecord} {c : Connection} {told flushed : List Event} {logins : Logins}
      {evicted : List (ConnectionKey × Connection)}
      (admitted : Admitted name request text? record) (provision : Provision i c record.username told (.ok logins))
      (closed : Except SqlError Unit) (closing : Closing i evicted flushed) (outcome : Outcome Unit) :
      Enrolment i name request
        (session i name text? record c told closed ++
          writes i name (record.withLogins logins) (.ok ()) :: ⟨i, .evict (.cluster name), evicted⟩ :: flushed)
        (.ok outcome)

variable {name : String} {request : ClusterRequest}

/-- Once the record in its place was read, a registration ends in one of the ways that are left. -/
theorem wp_enrol_enrolment {text? : Option String} (named : Names.isName name) (registrable : Registrable text?)
    (given : s.Allows (.fetch (StoreKeys.cluster name)) (.ok text?)) :
    Op.wp (alone i) (fun a t => ∃ events, Enrolment i name request events (.ok a) ∧ Passed events s t)
      (fun e t => ∃ events, Enrolment i name request events (.error e) ∧ Passed events s t) (enrol name request)
      (s.after i (.fetch (StoreKeys.cluster name)) (.ok text?)) := by
  have read : Passed [reads i name (.ok text?)] s (s.after i (.fetch (StoreKeys.cluster name)) (.ok text?)) := .call given
  refine wp_checked (fun why bad => ?_) fun record valid => ?_
  · exact ⟨_, .invalid text? (fun record valid => by cases bad.symm.trans valid) _, read⟩
  refine (wp_bind ..).2 ((wp_bind_ofSql ..).2 (alone_iff.2 fun opened allowed => ?_))
  cases opened with
  | error e => exact ⟨_, .unopened text? record e _, read.trans (.call allowed)⟩
  | ok c =>
    have admitted : Admitted name request text? record := ⟨named, registrable, valid⟩
    refine (wp_bind_lift ..).2 (alone_iff.2 fun _ counted => ?_)
    have opening := (read.trans (.call (i := i) allowed)).trans (.call (i := i) counted)
    -- The connection is closed both where the logins were made and where they were not.
    refine wp_seq_andAlways wp_provisionCluster_passed (fun logins u made => ?_) fun e u failed => ?_
    case refine_2 =>
      obtain ⟨told, provision, passed⟩ := failed
      refine (Program.wp_bind ..).2 (alone_iff.2 fun closed closing => ?_)
      exact ⟨_, .unprovisioned admitted provision closed, (opening.trans passed).trans (.call closing)⟩
    obtain ⟨told, provision, passed⟩ := made
    refine (Program.wp_bind ..).2 (alone_iff.2 fun closed closing => ?_)
    have session : Passed (session i name text? record c told closed) s _ := (opening.trans passed).trans (.call (i := i) closing)
    refine (wp_bind_ofStore ..).2 (alone_iff.2 fun left writing => ?_)
    cases left with
    | error failure => exact ⟨_, .unstored admitted provision closed failure _, session.trans (.call writing)⟩
    | ok _ =>
      refine (wp_bind_lift ..).2 ((Program.wp_bind ..).2 (alone_iff.2 fun evicted evicting => ?_))
      refine Program.wp_seq (Connections.wp_closeAll_closing evicted) fun failures v flushing => ?_
      obtain ⟨flushed, closings, passed⟩ := flushing
      have all := session.trans ((Passed.call (i := i) writing).trans ((Passed.call (i := i) evicting).trans passed))
      cases failures <;> exact ⟨_, .stored admitted provision closed closings _, all⟩

/-- A registration ends in one of these ways. -/
theorem wp_registerCluster_enrolment :
    Op.wp (alone i) (fun a t => ∃ events, Enrolment i name request events (.ok a) ∧ Passed events s t)
      (fun e t => ∃ events, Enrolment i name request events (.error e) ∧ Passed events s t) (registerCluster name request)
      s := by
  refine wp_checked (fun why bad => ⟨[], .misnamed (fun named => ?_) _, .refl s⟩) fun _ passed => ?_
  · cases bad.symm.trans (Command.check_of_isName named)
  have named := isName_of_check passed
  refine wp_load_alone (fun x e given bad => ⟨_, .unfit x (fun text? same fit => ?_) _, .call given⟩) fun text? c? given means => ?_
  · obtain ⟨c?, means, -⟩ := fit
    exact bad text? c? same means
  cases c? with
  | none => exact wp_enrol_enrolment named ⟨none, means, rfl⟩ given
  | some c =>
    dsimp only
    cases marked : c.disabled with
    | false => exact wp_enrol_enrolment named ⟨some c, means, marked⟩ given
    | true =>
      refine ⟨_, .unfit (.ok text?) (fun text? same fit => ?_) _, .call given⟩
      obtain ⟨c?, means', active⟩ := fit
      cases same
      obtain rfl : some c = c? := means_eq means means'
      cases marked.symm.trans active

/-! ## What is said of every way to end -/

/-- How the root connection is used: for the creation of the management role, and then for the rotation of the root
    password, if the creation was done. -/
inductive Uses (c : Connection) (user : String) : List Deed → Prop
  | creation (logins : Logins) (r : Except SqlError Unit) : Uses c user [.executed c (creation logins) r]
  | rotation (logins : Logins) (r : Except SqlError Unit) :
      Uses c user [.executed c (Fleet.creation logins) (.ok ()), .executed c (rotation user logins) r]

/-- What was written in the place of the record of the cluster. -/
def written (name : String) (events : List Event) : List (Option String) :=
  events.filterMap (Event.left? (StoreKeys.cluster name))

section
variable {c : Connection} {user : String} {told : List Event} {r : Except BrokerError Logins} {logins : Logins}
  {e : BrokerError} (text? : Option String) (record : ClusterRecord) (closed : Except SqlError Unit)

namespace Provision

theorem uses (h : Provision i c user told r) : Uses c user (told.filterMap Event.deed?) := by
  cases h with
  | unmade id logins drawn failure => exact .creation logins (.error failure)
  | unrotated id logins drawn failure => exact .rotation logins (.error failure)
  | made id logins drawn => exact .rotation logins (.ok ())

theorem deeds (h : Provision i c user told (.ok logins)) :
    told.filterMap Event.deed? = [.executed c (creation logins) (.ok ()), .executed c (rotation user logins) (.ok ())] := by
  cases h
  rfl

theorem toils (h : Provision i c user told r) : ∀ e ∈ told, e.call.toils := by
  cases h <;> simp [Call.toils]

theorem fine (h : Provision i c user told (.ok logins)) : ∀ e ∈ told, e.failed = false := by
  cases h
  simp [Event.failed]

theorem faulty (h : Provision i c user told (.error e)) : ∃ e ∈ told, e.failed = true := by
  cases h <;> simp [Event.failed]

theorem forall_session {P : Event → Prop} (read : P (reads i name (.ok text?))) (asked : P (asks i record (.ok c)))
    (counted : P ⟨i, .tally .opened, ()⟩) (within : ∀ e ∈ told, P e) (left : P ⟨i, .close c, closed⟩) :
    ∀ e ∈ session i name text? record c told closed, P e := by
  refine List.forall_mem_append.2 ⟨List.forall_mem_append.2 ⟨?_, within⟩, List.forall_mem_singleton.2 left⟩
  exact List.forall_mem_cons.2 ⟨read, List.forall_mem_cons.2 ⟨asked, List.forall_mem_singleton.2 counted⟩⟩

/-- Up to the closing of the root connection nothing is stored or cached. -/
theorem session_still (h : Provision i c user told r) : ∀ e ∈ session i name text? record c told closed, !e.call.changes := by
  have still : ∀ e ∈ told, !e.call.changes := by
    intro e member
    have toils := h.toils e member
    generalize e.call = call at toils
    cases call <;> first | rfl | cases toils
  exact forall_session _ _ _ rfl rfl rfl still rfl

theorem session_deeds : (session i name text? record c told closed).filterMap Event.deed? = told.filterMap Event.deed? := by
  have last : [⟨i, .close c, closed⟩].filterMap Event.deed? = [] := rfl
  rw [session, List.filterMap_append, List.filterMap_append, last, List.append_nil]
  rfl

theorem session_opened (h : Provision i c user told r) :
    (session i name text? record c told closed).filterMap Event.opened? = [c] := by
  have last : [⟨i, .close c, closed⟩].filterMap Event.opened? = [] := rfl
  have none : told.filterMap Event.opened? = [] := by
    refine List.filterMap_eq_nil_iff.2 fun ⟨j, call, r⟩ member => ?_
    have toils := h.toils _ member
    cases call <;> first | rfl | cases toils
  rw [session, List.filterMap_append, List.filterMap_append, none, last]
  rfl

theorem session_fine (h : Provision i c user told (.ok logins)) :
    ∀ e ∈ session i name text? record c told closed, e.failed = false :=
  forall_session _ _ _ rfl rfl rfl h.fine rfl

end Provision

end

/-- A root connection was opened, used and then closed. -/
structure RootSession (i : Nat) (request : ClusterRequest) (events : List Event) (record : ClusterRecord) (c : Connection) :
    Prop where
  valid : request.validate = .ok record
  leads : c.target = record.target .root record.database
  opened : events.filterMap Event.opened? = [c]
  closed : ∃ before r after, events = before ++ ⟨i, .close c, r⟩ :: after ∧
    Uses c record.username (before.filterMap Event.deed?) ∧ after.filterMap Event.deed? = []

/-- All is as a registration needs it, and no call failed that it cannot do without. -/
structure Unhindered (name : String) (request : ClusterRequest) (s : Surroundings) (events : List Event) : Prop where
  named : Names.isName name
  registrable : Registrable (s.values.get? (StoreKeys.cluster name))
  valid : ∃ record, request.validate = .ok record
  fine : ∀ e ∈ events, e.failed = false

/-- The record says what the request says. -/
structure Carries (request : ClusterRequest) (record : ClusterRecord) : Prop where
  host : record.host = request.host
  port : validPort? request.port = some record.port
  username : record.username = request.username
  pool : record.maxOpenConnections = request.maxOpenConnections ∧ record.maxIdleConnections = request.maxIdleConnections ∧
    record.maxConnectionLifetime = request.maxConnectionLifetime
  database : record.database = request.database
  tlsMode : TlsMode.ofText? request.tlsMode = some record.tlsMode
  active : record.disabled = false

/-- A record was stored with the logins that were made on the server, and all was closed that had been cached. -/
structure Stored (i : Nat) (name : String) (request : ClusterRequest) (s t : Surroundings) (events : List Event)
    (record : ClusterRecord) (c : Connection) (logins : Logins) : Prop where
  root : RootSession i request events record c
  deeds : events.filterMap Event.deed? =
    [.executed c (creation logins) (.ok ()), .executed c (rotation record.username logins) (.ok ())]
  created : PasswordStatement.created? (creation logins) =
    some (PasswordStatement.loginOf logins.managementRole, logins.managementPassword)
  rotated : PasswordStatement.altered? (rotation record.username logins) =
    some (PasswordStatement.loginOf record.username, logins.rootPassword)
  carries : Carries request (record.withLogins logins)
  values : t.values = s.values.insert (StoreKeys.cluster name) (record.withLogins logins).encode
  flushed : ∀ key d, (key, d) ∈ t.broker.cache.entries → key.cluster ≠ name
  closed : ∀ key d, (key, d) ∈ s.broker.cache.entries → key.cluster = name → ∃ r, ⟨i, .close d, r⟩ ∈ events

/-- What is said of a registration, by the calls that it made. -/
structure Conduct (i : Nat) (name : String) (request : ClusterRequest) (s : Surroundings)
    (reply : Except BrokerError (Outcome Unit)) (t : Surroundings) (events : List Event) : Prop where
  passed : Passed events s t
  root : events.filterMap Event.opened? = [] ∧ events.filterMap Event.deed? = [] ∨
    ∃ record c, RootSession i request events record c
  stores_iff : written name events ≠ [] ↔ Unhindered name request s events
  succeeds_iff : (∃ outcome, reply = .ok outcome) ↔ Unhindered name request s events
  stored : written name events ≠ [] → ∃ record c logins, Stored i name request s t events record c logins
  unstored : written name events = [] → t.values = s.values

theorem carries_of_validate {request : ClusterRequest} {record : ClusterRecord} (valid : request.validate = .ok record)
    (logins : Logins) : Carries request (record.withLogins logins) := by
  unfold ClusterRequest.validate at valid
  obtain ⟨-, valid⟩ := passed_unless valid
  split at valid
  · rename_i port ported
    obtain ⟨-, valid⟩ := passed_unless valid
    obtain ⟨-, valid⟩ := passed_unless valid
    split at valid
    · rename_i tlsMode mode
      cases valid
      exact ⟨rfl, ported, rfl, ⟨rfl, rfl, rfl⟩, rfl, mode, rfl⟩
    · cases valid
  · cases valid

section
variable {text? : Option String} {record : ClusterRecord} {c : Connection} {told rest events : List Event}
  {r : Except BrokerError Logins} {logins : Logins} {closed : Except SqlError Unit} {e : BrokerError}

/-- What was read is what the store held. -/
theorem registrable_of_read (passed : Passed (reads i name (.ok text?) :: rest) s t) :
    Registrable text? ↔ Registrable (s.values.get? (StoreKeys.cluster name)) := by
  obtain rfl : text? = s.values.get? (StoreKeys.cluster name) := Surroundings.eq_of_gives passed.cons.1
  exact Iff.rfl

/-- Once the root connection is open it is used, and closed, whatever comes after that. -/
theorem rootSession_of_provision (passed : Passed (session i name text? record c told closed ++ rest) s t)
    (valid : request.validate = .ok record) (provision : Provision i c record.username told r)
    (silent : rest.filterMap Event.deed? = []) (unopened : rest.filterMap Event.opened? = []) :
    RootSession i request (session i name text? record c told closed ++ rest) record c := by
  refine ⟨valid, ?_, ?_, ?_⟩
  · exact (passed.cons.2.cons.1 c rfl).1
  · rw [List.filterMap_append, provision.session_opened, unopened]
    rfl
  · refine ⟨_, closed, rest, List.append_assoc .., ?_, silent⟩
    rw [List.filterMap_append]
    exact provision.uses

theorem written_session (provision : Provision i c record.username told r) :
    written name (session i name text? record c told closed ++ rest) = written name rest := by
  have unwritten : written name (session i name text? record c told closed) = [] := by
    refine List.filterMap_eq_nil_iff.2 fun ⟨j, call, r⟩ member => ?_
    have still := provision.session_still text? record closed _ member
    cases call <;> first | rfl | cases still
  rw [written, List.filterMap_append]
  exact (congrArg (· ++ written name rest) unwritten)

/-- A registration that fails has stored nothing, and something was in its way. -/
theorem Enrolment.of_error (enrolment : Enrolment i name request events (.error e)) (passed : Passed events s t) :
    Conduct i name request s (.error e) t events := by
  suffices h : (events.filterMap Event.opened? = [] ∧ events.filterMap Event.deed? = [] ∨
      ∃ record c, RootSession i request events record c) ∧ written name events = [] ∧
      ¬Unhindered name request s events ∧ t.values = s.values by
    obtain ⟨root, unwritten, hindered, values⟩ := h
    exact {
      passed, root
      stores_iff := ⟨fun stores => absurd unwritten stores, fun h => absurd h hindered⟩
      succeeds_iff := ⟨nofun, fun h => absurd h hindered⟩
      stored := fun stores => absurd unwritten stores
      unstored := fun _ => values }
  cases enrolment with
  | misnamed bad => exact ⟨.inl ⟨rfl, rfl⟩, rfl, fun h => bad h.named, (passed.still fun _ member => absurd member List.not_mem_nil).1⟩
  | unfit x bad =>
    refine ⟨.inl ⟨rfl, rfl⟩, rfl, fun h => ?_, (passed.still (by simp [reads, Call.changes])).1⟩
    cases x with
    | error failure => simpa [reads, Event.failed] using h.fine
    | ok text? => exact bad text? rfl ((registrable_of_read passed).2 h.registrable)
  | invalid text? bad =>
    refine ⟨.inl ⟨rfl, rfl⟩, rfl, fun h => ?_, (passed.still (by simp [reads, Call.changes])).1⟩
    obtain ⟨record, valid⟩ := h.valid
    exact bad record valid
  | unopened text? record failure =>
    refine ⟨.inl ⟨rfl, rfl⟩, rfl, fun h => ?_, (passed.still (by simp [reads, asks, Call.changes])).1⟩
    simpa [asks, Event.failed] using h.fine
  | @unprovisioned text? record c told _ admitted provision closed =>
    rw [← List.append_nil (session ..)] at passed ⊢
    refine ⟨.inr ⟨record, c, rootSession_of_provision passed admitted.valid provision rfl rfl⟩, ?_, fun h => ?_, ?_⟩
    · exact (written_session provision).trans rfl
    · obtain ⟨e, member, failed⟩ := provision.faulty
      have fine := h.fine e (by simp [session, member])
      cases failed.symm.trans fine
    · rw [List.append_nil] at passed
      exact (passed.still (provision.session_still text? record closed)).1
  | @unstored text? record c told logins admitted provision closed failure =>
    refine ⟨.inr ⟨record, c, rootSession_of_provision passed admitted.valid provision rfl rfl⟩, ?_, fun h => ?_, ?_⟩
    · exact (written_session provision).trans rfl
    · simpa [writes, Event.failed] using h.fine _ (List.mem_append_right _ (List.mem_singleton_self _))
    · obtain ⟨u, before, -, rfl⟩ := passed.split
      exact (before.still (provision.session_still text? record closed)).1

/-- The record is written, and what is cached for the cluster is taken out and closed. -/
def finish (i : Nat) (name : String) (c : ClusterRecord) (evicted : List (ConnectionKey × Connection)) (flushed : List Event) :
    List Event :=
  writes i name c (.ok ()) :: ⟨i, .evict (.cluster name), evicted⟩ :: flushed

section
variable {evicted : List (ConnectionKey × Connection)} {flushed : List Event} (closing : Closing i evicted flushed)
include closing

/-- What is closed after an eviction changes nothing, says nothing to a server, and is not needed. -/
theorem aside_of_closing : ∀ e ∈ flushed, !e.call.changes ∧ e.deed? = none ∧ e.opened? = none ∧ e.failed = false := by
  rintro ⟨j, call, r⟩ member
  obtain rfl | ⟨d, rfl⟩ := closing.tends member <;> exact ⟨rfl, rfl, rfl, rfl⟩

variable (name) in
theorem finish_silent (c : ClusterRecord) : (finish i name c evicted flushed).filterMap Event.deed? = [] ∧
    (finish i name c evicted flushed).filterMap Event.opened? = [] := by
  have aside := aside_of_closing closing
  have silent : flushed.filterMap Event.deed? = [] := List.filterMap_eq_nil_iff.2 fun e member => (aside e member).2.1
  have unopened : flushed.filterMap Event.opened? = [] := List.filterMap_eq_nil_iff.2 fun e member => (aside e member).2.2.1
  exact ⟨silent, unopened⟩

theorem finish_fine (c : ClusterRecord) : ∀ e ∈ finish i name c evicted flushed, e.failed = false := by
  intro e member
  rcases List.mem_cons.1 member with rfl | later
  · rfl
  · rcases List.mem_cons.1 later with rfl | later
    · rfl
    · exact (aside_of_closing closing e later).2.2.2

/-- The record is stored, nothing stays cached for the cluster, and what was cached is closed. -/
theorem passed_finish {c : ClusterRecord} (passed : Passed (finish i name c evicted flushed) s t) :
    t.values = s.values.insert (StoreKeys.cluster name) c.encode ∧
    (∀ key d, (key, d) ∈ t.broker.cache.entries → key.cluster ≠ name) ∧
    ∀ key d, (key, d) ∈ s.broker.cache.entries → key.cluster = name → ∃ r, ⟨i, .close d, r⟩ ∈ flushed := by
  obtain ⟨-, written⟩ := passed.cons
  obtain ⟨evicting, flushing⟩ := written.cons
  obtain ⟨values, cache⟩ := flushing.still fun e member => (aside_of_closing closing e member).1
  refine ⟨values, fun key d cached own => ?_, fun key d cached own => ?_⟩
  · rw [cache] at cached
    obtain ⟨-, uncovered⟩ := List.mem_filter.1 cached
    simp [Eviction.covers, own] at uncovered
  · have taken : (key, d) ∈ evicted := by
      rw [show evicted = _ from evicting]
      exact List.mem_filter.2 ⟨cached, by simp [Eviction.covers, own]⟩
    exact closing.closed taken

end

/-- A registration that succeeds has stored the record, and nothing was in its way. -/
theorem Enrolment.of_ok {outcome : Outcome Unit} (enrolment : Enrolment i name request events (.ok outcome))
    (passed : Passed events s t) : Conduct i name request s (.ok outcome) t events := by
  cases enrolment with
  | @stored text? record c told flushed logins evicted admitted provision closed closing =>
    change Passed (session i name text? record c told closed ++ finish i name (record.withLogins logins) evicted flushed) s t
      at passed
    obtain ⟨silent, unopened⟩ := finish_silent name closing (record.withLogins logins)
    have root := rootSession_of_provision passed admitted.valid provision silent unopened
    have stores : written name (session i name text? record c told closed ++
        finish i name (record.withLogins logins) evicted flushed) ≠ [] := by
      have left : (writes i name (record.withLogins logins) (.ok ())).left? (StoreKeys.cluster name) = some (some _) := if_pos rfl
      rw [written_session provision, written, finish, List.filterMap_cons_some left]
      exact List.cons_ne_nil _ _
    have unhindered : Unhindered name request s (session i name text? record c told closed ++
        finish i name (record.withLogins logins) evicted flushed) := by
      refine ⟨admitted.named, (registrable_of_read passed).1 admitted.registrable, ⟨record, admitted.valid⟩, ?_⟩
      intro e member
      rcases List.mem_append.1 member with first | later
      · exact provision.session_fine text? record closed e first
      · exact finish_fine closing _ e later
    obtain ⟨u, before, after⟩ := passed.split
    obtain ⟨values, cache⟩ := before.still (provision.session_still text? record closed)
    obtain ⟨left, flushed', closed'⟩ := passed_finish closing after
    have stored : Stored i name request s t (session i name text? record c told closed ++
        finish i name (record.withLogins logins) evicted flushed) record c logins := {
      root
      deeds := by
        rw [List.filterMap_append, Provision.session_deeds, provision.deeds, silent]
        rfl
      created := PasswordStatement.created?_createManagementRole _ _
      rotated := PasswordStatement.altered?_updatePassword _ _
      carries := carries_of_validate admitted.valid logins
      values := values ▸ left
      flushed := flushed'
      closed := fun key d cached own => by
        obtain ⟨r, member⟩ := closed' key d (cache ▸ cached) own
        exact ⟨r, List.mem_append_right _ (List.mem_cons_of_mem _ (List.mem_cons_of_mem _ member))⟩ }
    exact {
      passed
      root := .inr ⟨record, c, root⟩
      stores_iff := iff_of_true stores unhindered
      succeeds_iff := iff_of_true ⟨outcome, rfl⟩ unhindered
      stored := fun _ => ⟨record, c, logins, stored⟩
      unstored := fun none => absurd none stores }

/-- However the calls of a registration are answered, one root connection is opened at most, used for the creation of the
    management role and the rotation of the root password at most, in this order, and closed. A record is stored just if
    nothing is in the way and no call fails but for the closing of connections, and just then the registration succeeds. That
    record carries the request and the logins of the two statements, and all that was cached for the cluster is closed. -/
theorem registration_conduct {reply : Except BrokerError (Outcome Unit)}
    (run : Surroundings.Runs i (registerCluster name request).run s reply t) :
    ∃ events, Conduct i name request s reply t events := by
  have ended := Program.wp_demonic_iff.1 (wp_registerCluster_enrolment (i := i) (s := s)) reply t run
  cases reply with
  | ok outcome =>
    obtain ⟨events, enrolment, passed⟩ := ended
    exact ⟨events, enrolment.of_ok passed⟩
  | error e =>
    obtain ⟨events, enrolment, passed⟩ := ended
    exact ⟨events, enrolment.of_error passed⟩

end

/-- A cluster is registered anew, and a connection that was cached for it is closed. -/
theorem renewed_registration_closes_cached : ∃ s outcome t events key d,
    (key, d) ∈ s.broker.cache.entries ∧ key.cluster = "main" ∧
    Surroundings.Runs 0 (registerCluster "main" Session.exampleRequest).run s (.ok outcome) t ∧
    Conduct 0 "main" Session.exampleRequest s (.ok outcome) t events ∧ written "main" events ≠ [] ∧
    ∃ r, ⟨0, .close d, r⟩ ∈ events := by
  have main : Names.isName "main" := by decide +kernel
  obtain ⟨s, c, -, loads, active, -⟩ := Session.exists_cluster
  let key : ConnectionKey := ⟨.root, "main", none⟩
  have getting := Op.wp_lucky_and (i := 0) (Connections.wp_lucky_get (s := s) key loads) (works_get ⟨c, loads⟩ key rfl s rfl)
  obtain ⟨got, u, -, cached⟩ := Program.wp_angelic_iff.1 getting
  cases got with
  | error e => exact cached.1.elim
  | ok d =>
    obtain ⟨cached, same⟩ := cached
    have registrable : Registrable (u.values.get? (StoreKeys.cluster "main")) := by
      rw [show u.values = s.values from same]
      exact ⟨some c, loads, active⟩
    have registering := Command.wp_lucky_registerCluster (i := 0) main
      (rfl : Session.exampleRequest.validate = .ok _) registrable 0 "" ""
    obtain ⟨reply, t, run, done⟩ := Program.wp_angelic_iff.1 registering
    cases reply with
    | error e => exact done.elim
    | ok outcome =>
      obtain ⟨events, conduct⟩ := registration_conduct run
      have stores := conduct.stores_iff.2 (conduct.succeeds_iff.1 ⟨outcome, rfl⟩)
      obtain ⟨_, _, _, stored⟩ := conduct.stored stores
      exact ⟨u, outcome, t, events, key, d, cached, rfl, run, conduct, stores, stored.closed key d cached rfl⟩

end Fleet

end LeaseBroker
