import LeaseBroker.Proofs.ChangeSteps
import LeaseBroker.Proofs.CurrentConnections

/-!
The operations that write the record of a cluster or of a database. What each
comes to is said as a decision by the record, and each keeps to it, whatever
others do meanwhile (`fulfils_*`), and can be brought to it alone
(`attains_*`).
-/
namespace LeaseBroker

open Op
open Surroundings (lucky)

/-- The keys that a change of a cluster, or of what belongs to it, leaves alone. -/
def Beyond (cluster : String) (key : String) : Prop :=
  key ≠ StoreKeys.cluster cluster ∧ ∀ d, key ≠ StoreKeys.database cluster d

theorem isName_of_check {kind name : String} {u : Unit} (passed : checkName kind name = .ok u) : Names.isName name := by
  unfold checkName at passed
  split at passed
  · assumption
  · cases passed

theorem not_beyond_cluster (name : String) : ¬Beyond name (StoreKeys.cluster name) := fun h => h.1 rfl

theorem not_beyond_database (name d : String) : ¬Beyond name (StoreKeys.database name d) := fun h => h.2 d rfl

namespace Fleet

/-! ## Registering a cluster -/

/-- The record with new logins. -/
def Renewed (record : ClusterRecord) (left : Option String) : Prop :=
  ∃ (id : Uuid) (managementPassword rootPassword : String),
    left = some ({ record with
      managementRole := Names.managementRole id
      managementPassword
      password := rootPassword } : ClusterRecord).encode

/-- What registering a cluster comes to, by the record that is there. -/
def registration (name : String) (request : ClusterRequest) (c? : Option ClusterRecord) : Decision :=
  .refuseIf (c?.any (·.disabled)) (.clusterDeleted name) (.check request.validate fun record => .write (Renewed record))

def decideRegistration (name : String) (request : ClusterRequest) (x : Option String) : Decision :=
  .check (checkName "cluster" name) fun _ => .byRecord ClusterRecord.decode (registration name request) x

/-- The record of an active cluster, or none. -/
def Registrable (x : Option String) : Prop :=
  ∃ c?, Means ClusterRecord.decode x c? ∧ c?.any (·.disabled) = false

/-- The logins that a cluster gets. -/
def Fresh (logins : Logins) : Prop := ∃ id, logins.managementRole = Names.managementRole id

theorem yields_provisionCluster {c : Connection} {user : String} : Yields Fresh (provisionCluster c user) := by
  have role : Yields (fun login => ∃ id, login.1 = Names.managementRole id) (createManagementRole c) :=
    yields_bind (yields_any _) fun id _ => yields_bind (yields_any _) fun _ _ =>
      yields_bind (yields_any _) fun _ _ => yields_pure ⟨id, rfl⟩
  exact yields_bind (yields_inContext role) fun _ named => yields_bind (yields_any _) fun _ _ => yields_pure named

/-- Any password may be made up. -/
theorem wp_lucky_rotatePassword {c : Connection} {user : String} {i : Nat} {s : Surroundings} (password : String) :
    Op.wp (lucky i) (fun p t => p = password ∧ t.values = s.values) (fun _ _ => False) (rotatePassword c user) s := by
  refine (Op.wp_bind_lift ..).2 (Surroundings.lucky_iff.2 ⟨password, trivial, ?_⟩)
  exact (Op.wp_bind_ofSql ..).2 (Surroundings.lucky_iff.2 ⟨.ok (), trivial, rfl, rfl⟩)

theorem wp_lucky_provisionCluster {c : Connection} {user : String} {i : Nat} {s : Surroundings} (id : Uuid)
    (managementPassword rootPassword : String) :
    Op.wp (lucky i) (fun logins t => logins = ⟨Names.managementRole id, managementPassword, rootPassword⟩ ∧
      t.values = s.values) (fun _ _ => False) (provisionCluster c user) s := by
  refine (Op.wp_bind_inContext ..).2 ((Op.wp_bind_lift ..).2 ?_)
  refine Surroundings.lucky_iff.2 ⟨id, trivial, (Op.wp_bind_lift ..).2 ?_⟩
  refine Surroundings.lucky_iff.2 ⟨managementPassword, trivial, (Op.wp_bind_ofSql ..).2 ?_⟩
  refine Surroundings.lucky_iff.2 ⟨.ok (), trivial, (Op.wp_bind_inContext ..).2 ?_⟩
  refine Op.wp_mono (wp_lucky_rotatePassword rootPassword) (fun p t ended => ?_) fun _ _ => False.elim
  obtain ⟨rfl, same⟩ := ended
  exact ⟨rfl, same⟩

variable {name : String} {request : ClusterRequest}

/-- A new registration takes no heed of the record that it replaces. -/
theorem decideRegistration_steady {x y : Option String} {results : Option String → Prop}
    (decided : decideRegistration name request x = .write results) (active : Registrable y) :
    decideRegistration name request y = .write results := by
  obtain ⟨u, valid, decided⟩ := Decision.check_eq_write decided
  obtain ⟨c?, -, decided⟩ := Decision.byRecord_eq_write decided
  obtain ⟨-, decided⟩ := Decision.refuseIf_eq_write decided
  obtain ⟨d?, means, enabled⟩ := active
  rw [decideRegistration, valid]
  refine (Decision.byRecord_of_means means).trans ?_
  rw [registration, enabled]
  exact decided

theorem decideRegistration_eq_write {x : Option String} {results : Option String → Prop}
    (decided : decideRegistration name request x = .write results) : Names.isName name ∧ ¬results none := by
  obtain ⟨u, valid, decided⟩ := Decision.check_eq_write decided
  obtain ⟨c?, -, decided⟩ := Decision.byRecord_eq_write decided
  obtain ⟨-, decided⟩ := Decision.refuseIf_eq_write decided
  obtain ⟨record, -, ⟨⟩⟩ := Decision.check_eq_write decided
  refine ⟨isName_of_check valid, ?_⟩
  rintro ⟨id, p, p', ⟨⟩⟩

/-- Only what follows from the record is written, once and last. -/
theorem fulfils_registerCluster (others : Table String) :
    Fulfils (StoreKeys.cluster name) (Beyond name) others (decideRegistration name request)
      (checkName "cluster" name = .ok ())
      (fun _ => Justified (decideRegistration name request) (checkName "cluster" name = .ok ()) .done) .blank
      (registerCluster name request) := by
  refine fulfils_check rfl (comes_start ..) fun _ valid comes => ?_
  refine fulfils_read rfl rfl valid comes fun x c? _ comes => ?_
  cases c?
  case' some c => refine fulfils_unless rfl comes fun _ comes => ?_
  all_goals
    refine fulfils_check rfl comes fun record checked comes => ?_
    refine fulfils_work (Connections.works_openUncached labour_watching) (yields_any _) rfl valid fun c _ => ?_
    refine fulfils_work (works_andAlways labour_watching (works_provisionCluster labour_watching.toil)
      Connections.only_closeQuietly) (yields_andAlways yields_provisionCluster) rfl valid fun logins fresh => ?_
    obtain ⟨id, named⟩ := fresh
    refine fulfils_write (wp_watching_put (not_beyond_cluster name)) rfl valid ?_ fun _ => ?_
    · refine comes.founds rfl ⟨id, logins.managementPassword, logins.rootPassword, ?_⟩
      rw [named]
    · refine closes_bind (closes_lift (spares_of_works Connections.only_invalidate)) fun closed => ?_
      cases closed <;> exact closes_pure _

theorem attains_registerCluster {i : Nat} {s : Surroundings} {others : Table String} {aim : Aim}
    (still : Still (Beyond name) others s)
    (allowed : (decideRegistration name request (s.values.get? (StoreKeys.cluster name))).Allows aim) :
    Op.wp (lucky i) (fun _ => aim.Done (StoreKeys.cluster name) (Beyond name) others) (aim.Failed s.values)
      (registerCluster name request) s := by
  refine attains_check allowed rfl fun _ _ allowed => attains_load allowed rfl fun c? t same _ allowed => ?_
  cases c?
  case' some c => refine attains_unless allowed same fun allowed => ?_
  all_goals
    refine attains_check allowed same fun record checked allowed => ?_
    cases aim with
    | refused why => exact allowed.elim
    | left v =>
      obtain ⟨id, managementPassword, rootPassword, rfl⟩ := allowed
      refine wp_lucky_work (Connections.works_openUncached labour_lucky) same fun c u same => ?_
      refine Op.wp_seq_andAlways (wp_lucky_provisionCluster id managementPassword rootPassword)
        (fun logins v ended => ?_) fun _ _ => False.elim
      obtain ⟨rfl, same'⟩ := ended
      refine Program.wp_mono (fun _ w same => ?_)
        (labour_lucky.wp_of_only Connections.only_closeQuietly (same'.trans same))
      refine wp_lucky_write (wp_lucky_put (not_beyond_cluster name) (still.of_values same)) fun _ => ?_
      refine closes_bind (closes_lift (spares_of_works Connections.only_invalidate)) fun closed => ?_
      cases closed <;> exact closes_pure _

def registerClusterChange (name : String) (request : ClusterRequest) :
    RecordChange (StoreKeys.cluster name) (Beyond name) :=
  .ofOp (registerCluster name request) (fun _ => decideRegistration name request) Registrable
    (checkName "cluster" name = .ok ()) decideRegistration_steady
    (fun decided gone => absurd gone (decideRegistration_eq_write decided).2) fulfils_registerCluster
    (fun _ => attains_registerCluster) (fun _ _ valid => wp_passed valid wp_lucky_unread)

/-! ## Deleting a cluster -/

/-- The record of a cluster, unless it is `barred`. -/
def readUnless (name : String) (missing why : Refusal) (barred : ClusterRecord → Bool) : Op ClusterRecord := do
  let some c ← loadCluster name | Op.refuse missing
  if barred c then Op.refuse why
  return c

/-- What is decided for a cluster by its record: to refuse without one or with a `barred` one, or else what becomes of it. -/
structure Disposes (decides : Option ClusterRecord → Decision) (missing why : Refusal) (barred : ClusterRecord → Bool)
    (left : ClusterRecord → Option String) : Prop where
  none : decides none = .refuse missing
  some (c : ClusterRecord) : decides (some c) = .refuseIf (barred c) why (.write (· = left c))

section Disposing
variable {decides : Option ClusterRecord → Decision} {missing why : Refusal} {barred : ClusterRecord → Bool}
  {left : ClusterRecord → Option String} (disposes : Disposes decides missing why barred left)
  {write : ClusterRecord → Op Unit} {outcome : Outcome Unit}
include disposes

/-- Who reads the record of a cluster, writes what becomes of it and has its connections closed keeps to the decision. -/
theorem fulfils_disposing (others : Table String)
    (writing : ∀ c n, Op.wp (watching (StoreKeys.cluster name) (Beyond name) others) (fun _ m => m = n.leave (left c))
      (fun e m => m = n ∧ Fatal e) (write c) n) :
    Fulfils (StoreKeys.cluster name) (Beyond name) others (.byRecord ClusterRecord.decode decides) True
      (fun _ => Justified (.byRecord ClusterRecord.decode decides) True .done) .blank (do
        let c ← readUnless name missing why barred
        write c
        flushed (.cluster name) outcome) := by
  refine (Op.wp_bind ..).2 (fulfils_read rfl rfl trivial (comes_start ..) fun x c? _ comes => ?_)
  cases c? with
  | none =>
    rw [disposes.none] at comes
    exact fulfils_refuse rfl comes
  | some c =>
    rw [disposes.some] at comes
    refine fulfils_unless rfl comes fun _ comes => ?_
    exact fulfils_write (writing c _) rfl trivial (comes.founds rfl rfl) fun _ => closes_flushed

theorem attains_disposing {i : Nat} {s : Surroundings} {others : Table String} {aim : Aim}
    (still : Still (Beyond name) others s)
    (writing : ∀ (c : ClusterRecord) {t : Surroundings} {fail}, Still (Beyond name) others t →
      Op.wp (lucky i) (fun _ => Written (StoreKeys.cluster name) (Beyond name) others (left c)) fail (write c) t)
    (allowed : (Decision.byRecord ClusterRecord.decode decides (s.values.get? (StoreKeys.cluster name))).Allows aim) :
    Op.wp (lucky i) (fun _ => aim.Done (StoreKeys.cluster name) (Beyond name) others) (aim.Failed s.values) (do
      let c ← readUnless name missing why barred
      write c
      flushed (.cluster name) outcome) s := by
  refine (Op.wp_bind ..).2 (attains_load allowed rfl fun c? t same _ allowed => ?_)
  cases c? with
  | none =>
    rw [disposes.none] at allowed
    exact attains_refuse allowed same
  | some c =>
    rw [disposes.some] at allowed
    refine attains_unless allowed same fun allowed => ?_
    cases aim with
    | refused why => exact allowed.elim
    | left v =>
      obtain rfl : v = left c := allowed
      exact wp_lucky_write (writing c (still.of_values same)) fun _ => closes_flushed

end Disposing

def deletion (name : String) : Option ClusterRecord → Decision
  | none => .refuse (.clusterNotRegistered name)
  | some c => .refuseIf c.disabled (.clusterDeleted name) (.write (· = some { c with disabled := true }.encode))

theorem disposes_deletion : Disposes (deletion name) (.clusterNotRegistered name) (.clusterDeleted name) (·.disabled)
    fun c => some ({ c with disabled := true } : ClusterRecord).encode := ⟨rfl, fun _ => rfl⟩

theorem deletion_eq_write {x : Option String} {results : Option String → Prop}
    (decided : Decision.byRecord ClusterRecord.decode (deletion name) x = .write results) :
    ∃ c : ClusterRecord, Means ClusterRecord.decode x (some c) ∧ c.disabled = false ∧
      results = (· = some { c with disabled := true }.encode) := by
  obtain ⟨c?, means, decided⟩ := Decision.byRecord_eq_write decided
  cases c? with
  | none => cases decided
  | some c =>
    obtain ⟨active, ⟨⟩⟩ := Decision.refuseIf_eq_write decided
    exact ⟨c, means, active, rfl⟩

def deleteClusterChange (name : String) : RecordChange (StoreKeys.cluster name) (Beyond name) :=
  .ofOp (deleteCluster name) (fun _ => .byRecord ClusterRecord.decode (deletion name)) (fun _ => False) True
    (fun _ => False.elim) (fun decided gone => absurd gone (by obtain ⟨c, -, -, rfl⟩ := deletion_eq_write decided; nofun))
    (fun others => fulfils_disposing disposes_deletion others fun _ _ => wp_watching_put (not_beyond_cluster name))
    (fun _ still => attains_disposing disposes_deletion still fun _ _ _ => wp_lucky_put (not_beyond_cluster name))
    (fun _ _ _ => (Op.wp_bind ..).2 wp_lucky_unread)

/-! ## Registering a database -/

section Database
variable {cluster database : String}

/-- An owner that may be chosen: the one that was asked for, or a new one. -/
def Eligible (database wanted owner : String) : Prop :=
  if wanted.isEmpty then ∃ id, owner = Names.objectsOwner database id
  else owner = Octets.truncate wanted Names.identifierLimit

theorem exists_eligible (database wanted : String) : ∃ owner, Eligible database wanted owner := by
  unfold Eligible
  split
  · exact ⟨_, 0, rfl⟩
  · exact ⟨_, rfl⟩

/-- The record of a database with its owner. -/
def Owned (cluster database wanted : String) (left : Option String) : Prop :=
  ∃ owner, Eligible database wanted owner ∧
    left = some ({ cluster, database, objectsOwner := owner, disabled := false } : DatabaseRecord).encode

def enlisting (cluster database : String) (request : DatabaseRequest) (x : Option String) :
    Option ClusterRecord → Decision
  | none => .refuse (.clusterNotRegistered cluster)
  | some c =>
    .refuseIf c.disabled (.registrationInDeletedCluster cluster) <| .byRecord DatabaseRecord.decode
      (fun
        | some _ => .refuse (.databaseTaken database cluster)
        | none => .write (Owned cluster database request.objectsOwner)) x

def decideEnlisting (cluster database : String) (request : DatabaseRequest) (others : Table String)
    (x : Option String) : Decision :=
  .check (checkName "cluster" cluster) fun _ => .check (checkName "database" database) fun _ =>
    .byRecord ClusterRecord.decode (enlisting cluster database request x) (others.get? (StoreKeys.cluster cluster))

theorem yields_chooseOwner {wanted : String} :
    Program.Yields (Eligible database wanted) (chooseOwner database wanted) := by
  unfold chooseOwner Eligible
  split
  · exact fun id => ⟨id, rfl⟩
  · rfl

/-- Any owner that may be chosen can be chosen. -/
theorem wp_lucky_chooseOwner {wanted owner : String} {i : Nat} {s : Surroundings}
    (eligible : Eligible database wanted owner) :
    Program.wp (lucky i) (fun o t => o = owner ∧ t.values = s.values) (chooseOwner database wanted) s := by
  unfold chooseOwner
  unfold Eligible at eligible
  split
  case isTrue unnamed =>
    rw [if_pos unnamed] at eligible
    obtain ⟨id, rfl⟩ := eligible
    exact Surroundings.lucky_iff.2 ⟨id, trivial, rfl, rfl⟩
  case isFalse named =>
    rw [if_neg named] at eligible
    exact ⟨eligible.symm, rfl⟩

theorem fulfils_registerDatabase {request : DatabaseRequest} (others : Table String) :
    Fulfils (StoreKeys.database cluster database) (· ≠ StoreKeys.database cluster database) others
      (decideEnlisting cluster database request others)
      (checkName "cluster" cluster = .ok () ∧ checkName "database" database = .ok ())
      (fun _ => Justified (decideEnlisting cluster database request others)
        (checkName "cluster" cluster = .ok () ∧ checkName "database" database = .ok ()) .done) .blank
      (registerDatabase cluster database request) := by
  have other := StoreKeys.cluster_ne_own_database cluster database
  refine fulfils_check rfl (comes_start ..) fun _ valid comes => fulfils_check rfl comes fun _ valid' comes => ?_
  refine fulfils_look other other rfl ⟨valid, valid'⟩ comes fun c? loaded comes => ?_
  cases c? with
  | none => exact fulfils_refuse rfl comes
  | some c =>
    refine fulfils_unless rfl comes fun _ comes => fulfils_read rfl rfl ⟨valid, valid'⟩ comes fun x d? _ comes => ?_
    cases d? with
    | some d => exact fulfils_refused rfl comes.justifies
    | none =>
      refine fulfils_work (works_lift labour_watching (only_chooseOwner rfl)) (yields_lift yields_chooseOwner) rfl
        ⟨valid, valid'⟩ fun owner eligible => ?_
      have founded := comes.founds rfl ⟨owner, eligible, rfl⟩
      dsimp only
      split
      · refine fulfils_work (works_provisionDatabase labour_watching.toil (works_get_watching other other ⟨c, loaded⟩))
          (yields_any _) rfl ⟨valid, valid'⟩ fun _ _ => ?_
        exact fulfils_write (wp_watching_put fun h => h rfl) rfl ⟨valid, valid'⟩ founded fun _ => closes_pure _
      · exact fulfils_write (wp_watching_put fun h => h rfl) rfl ⟨valid, valid'⟩ founded fun _ => closes_pure _

theorem attains_registerDatabase {request : DatabaseRequest} {i : Nat} {s : Surroundings} {others : Table String}
    {aim : Aim} (still : Still (· ≠ StoreKeys.database cluster database) others s)
    (allowed : (decideEnlisting cluster database request others
      (s.values.get? (StoreKeys.database cluster database))).Allows aim) :
    Op.wp (lucky i)
      (fun _ => aim.Done (StoreKeys.database cluster database) (· ≠ StoreKeys.database cluster database) others)
      (aim.Failed s.values) (registerDatabase cluster database request) s := by
  refine attains_check allowed rfl fun _ _ allowed => attains_check allowed rfl fun _ _ allowed => ?_
  rw [← still _ (StoreKeys.cluster_ne_own_database cluster database)] at allowed
  refine attains_load allowed rfl fun c? t same loaded allowed => ?_
  cases c? with
  | none => exact attains_refuse allowed same
  | some c =>
    refine attains_unless allowed same fun allowed => attains_load allowed same fun d? u same _ allowed => ?_
    cases d? with
    | some d => exact attains_refused allowed same
    | none =>
      cases aim with
      | refused why => exact allowed.elim
      | left v =>
        obtain ⟨owner, eligible, rfl⟩ := allowed
        refine Op.wp_seq_lift (wp_lucky_chooseOwner eligible) fun o v ended => ?_
        obtain ⟨rfl, same'⟩ := ended
        dsimp only
        split
        · refine wp_lucky_work (works_provisionDatabase labour_lucky.toil (works_get_lucky ⟨c, loaded⟩)) (same'.trans same)
            fun _ w same => ?_
          exact wp_lucky_write (wp_lucky_put (fun h => h rfl) (still.of_values same)) fun _ => closes_pure _
        · exact wp_lucky_write (wp_lucky_put (fun h => h rfl) (still.of_values (same'.trans same))) fun _ => closes_pure _

theorem decideEnlisting_eq_write {request : DatabaseRequest} {others : Table String} {x : Option String}
    {results : Option String → Prop} (decided : decideEnlisting cluster database request others x = .write results) :
    Names.isName cluster ∧ Names.isName database ∧ x = none ∧ results = Owned cluster database request.objectsOwner := by
  obtain ⟨_, valid, decided⟩ := Decision.check_eq_write decided
  obtain ⟨_, valid', decided⟩ := Decision.check_eq_write decided
  obtain ⟨c?, -, decided⟩ := Decision.byRecord_eq_write decided
  cases c? with
  | none => cases decided
  | some c =>
    obtain ⟨-, decided⟩ := Decision.refuseIf_eq_write decided
    obtain ⟨d?, free, decided⟩ := Decision.byRecord_eq_write decided
    cases d? with
    | some d => cases decided
    | none =>
      cases decided
      exact ⟨isName_of_check valid, isName_of_check valid', free, rfl⟩

theorem active_of_enlisting {request : DatabaseRequest} {others : Table String} {x : Option String}
    {results : Option String → Prop} (decided : decideEnlisting cluster database request others x = .write results) :
    ∃ c, Loads ClusterRecord.decode others (StoreKeys.cluster cluster) (some c) ∧ c.disabled = false := by
  obtain ⟨_, -, decided⟩ := Decision.check_eq_write decided
  obtain ⟨_, -, decided⟩ := Decision.check_eq_write decided
  obtain ⟨c?, means, decided⟩ := Decision.byRecord_eq_write decided
  cases c? with
  | none => cases decided
  | some c => exact ⟨c, means, (Decision.refuseIf_eq_write decided).1⟩

theorem not_owned_none {wanted : String} : ¬Owned cluster database wanted none := by
  rintro ⟨owner, -, ⟨⟩⟩

def registerDatabaseChange (cluster database : String) (request : DatabaseRequest) :
    RecordChange (StoreKeys.database cluster database) (· ≠ StoreKeys.database cluster database) :=
  .ofOp (registerDatabase cluster database request) (decideEnlisting cluster database request) (fun _ => False)
    (checkName "cluster" cluster = .ok () ∧ checkName "database" database = .ok ()) (fun _ => False.elim)
    (fun decided gone => absurd ((decideEnlisting_eq_write decided).2.2.2 ▸ gone) not_owned_none) fulfils_registerDatabase
    (fun _ => attains_registerDatabase)
    (fun _ _ valid => wp_passed valid.1 (wp_passed valid.2 wp_lucky_unread))

/-! ## Deleting a database -/

def delisting (cluster database : String) (x : Option String) : Option ClusterRecord → Decision
  | none => .refuse (.clusterNotRegistered cluster)
  | some c =>
    .refuseIf c.disabled (.deletionInDeletedCluster cluster database) <| .byRecord DatabaseRecord.decode
      (fun
        | none => .refuse (.databaseMissing database cluster)
        | some d =>
          .refuseIf d.disabled (.databaseAlreadyDeleted database) (.write (· = some { d with disabled := true }.encode))) x

def decideDelisting (cluster database : String) (others : Table String) (x : Option String) : Decision :=
  .byRecord ClusterRecord.decode (delisting cluster database x) (others.get? (StoreKeys.cluster cluster))

theorem fulfils_deleteDatabase (others : Table String) :
    Fulfils (StoreKeys.database cluster database) (· ≠ StoreKeys.database cluster database) others
      (decideDelisting cluster database others) True
      (fun _ => Justified (decideDelisting cluster database others) True .done) .blank
      (deleteDatabase cluster database) := by
  have other := StoreKeys.cluster_ne_own_database cluster database
  refine fulfils_look other other rfl trivial (comes_start ..) fun c? _ comes => ?_
  cases c? with
  | none => exact fulfils_refuse rfl comes
  | some c =>
    refine fulfils_unless rfl comes fun _ comes => fulfils_read rfl rfl trivial comes fun x d? _ comes => ?_
    cases d? with
    | none => exact fulfils_refuse rfl comes
    | some d =>
      refine fulfils_unless rfl comes fun _ comes => ?_
      exact fulfils_write (wp_watching_put fun h => h rfl) rfl trivial (comes.founds rfl rfl) fun _ => closes_flushed

theorem attains_deleteDatabase {i : Nat} {s : Surroundings} {others : Table String} {aim : Aim}
    (still : Still (· ≠ StoreKeys.database cluster database) others s)
    (allowed : (decideDelisting cluster database others (s.values.get? (StoreKeys.database cluster database))).Allows aim) :
    Op.wp (lucky i)
      (fun _ => aim.Done (StoreKeys.database cluster database) (· ≠ StoreKeys.database cluster database) others)
      (aim.Failed s.values) (deleteDatabase cluster database) s := by
  unfold decideDelisting at allowed
  rw [← still _ (StoreKeys.cluster_ne_own_database cluster database)] at allowed
  refine attains_load allowed rfl fun c? t same _ allowed => ?_
  cases c? with
  | none => exact attains_refuse allowed same
  | some c =>
    refine attains_unless allowed same fun allowed => attains_load allowed same fun d? u same _ allowed => ?_
    cases d? with
    | none => exact attains_refuse allowed same
    | some d =>
      refine attains_unless allowed same fun allowed => ?_
      cases aim with
      | refused why => exact allowed.elim
      | left v =>
        obtain rfl : v = _ := allowed
        exact wp_lucky_write (wp_lucky_put (fun h => h rfl) (still.of_values same)) fun _ => closes_flushed

theorem decideDelisting_eq_write {others : Table String} {x : Option String} {results : Option String → Prop}
    (decided : decideDelisting cluster database others x = .write results) :
    ∃ d : DatabaseRecord, Means DatabaseRecord.decode x (some d) ∧ d.disabled = false ∧
      results = (· = some { d with disabled := true }.encode) := by
  obtain ⟨c?, -, decided⟩ := Decision.byRecord_eq_write decided
  cases c? with
  | none => cases decided
  | some c =>
    obtain ⟨-, decided⟩ := Decision.refuseIf_eq_write decided
    obtain ⟨d?, means, decided⟩ := Decision.byRecord_eq_write decided
    cases d? with
    | none => cases decided
    | some d =>
      obtain ⟨active, ⟨⟩⟩ := Decision.refuseIf_eq_write decided
      exact ⟨d, means, active, rfl⟩

theorem active_of_delisting {others : Table String} {x : Option String} {results : Option String → Prop}
    (decided : decideDelisting cluster database others x = .write results) :
    ∃ c, Loads ClusterRecord.decode others (StoreKeys.cluster cluster) (some c) ∧ c.disabled = false := by
  obtain ⟨c?, means, decided⟩ := Decision.byRecord_eq_write decided
  cases c? with
  | none => cases decided
  | some c => exact ⟨c, means, (Decision.refuseIf_eq_write decided).1⟩

def deleteDatabaseChange (cluster database : String) :
    RecordChange (StoreKeys.database cluster database) (· ≠ StoreKeys.database cluster database) :=
  .ofOp (deleteDatabase cluster database) (decideDelisting cluster database) (fun _ => False) True (fun _ => False.elim)
    (fun decided gone => absurd gone (by obtain ⟨d, -, -, rfl⟩ := decideDelisting_eq_write decided; nofun))
    fulfils_deleteDatabase
    (fun _ => attains_deleteDatabase) (fun _ _ _ => wp_lucky_unread)

end Database

end Fleet

namespace Reclaim

/-! ## Purging a cluster -/

def purging (name : String) : Option ClusterRecord → Decision
  | none => .refuse (.clusterNotRegistered name)
  | some c => .refuseIf (!c.disabled) (.clusterNotReclaimable name) (.write (· = none))

variable {name : String}

theorem disposes_purging : Fleet.Disposes (purging name) (.clusterNotRegistered name) (.clusterNotReclaimable name)
    (!·.disabled) fun _ => none := ⟨rfl, fun _ => rfl⟩

/-- Only the record of a deleted cluster is purged. -/
theorem purging_eq_write {x : Option String} {results : Option String → Prop}
    (decided : Decision.byRecord ClusterRecord.decode (purging name) x = .write results) :
    ∃ c, Means ClusterRecord.decode x (some c) ∧ c.disabled = true ∧ results = (· = none) := by
  obtain ⟨c?, means, decided⟩ := Decision.byRecord_eq_write decided
  cases c? with
  | none => cases decided
  | some c =>
    obtain ⟨deleted, ⟨⟩⟩ := Decision.refuseIf_eq_write decided
    exact ⟨c, means, by simpa using deleted, rfl⟩

theorem purging_not_firm {x : Option String} {results : Option String → Prop}
    (decided : Decision.byRecord ClusterRecord.decode (purging name) x = .write results) : ¬Firm x := by
  rintro ⟨text, record, rfl, decoded, enabled⟩
  obtain ⟨c, ⟨text', same, decoded'⟩, disabled, -⟩ := purging_eq_write decided
  cases same
  cases decoded.symm.trans decoded'
  rw [enabled] at disabled
  cases disabled

def purgeClusterChange (name : String) : RecordChange (StoreKeys.cluster name) (Beyond name) :=
  .ofOp (purgeCluster name) (fun _ => .byRecord ClusterRecord.decode (purging name)) (fun _ => False) True
    (fun _ => False.elim) (fun decided _ => purging_not_firm decided)
    (fun others => Fleet.fulfils_disposing disposes_purging others fun _ _ => wp_watching_delete (not_beyond_cluster name))
    (fun _ still => Fleet.attains_disposing disposes_purging still fun _ _ _ => wp_lucky_delete (not_beyond_cluster name))
    (fun _ _ _ => (Op.wp_bind ..).2 wp_lucky_unread)

end Reclaim

namespace Replicas

/-! ## Cloning a cluster -/

/-- The record of a clone, with new passwords. -/
def Rotated (record : ClusterRecord) (left : Option String) : Prop :=
  ∃ managementPassword rootPassword, left = some { record with managementPassword, password := rootPassword }.encode

/-- What a clone comes to, by the record of its source and by what lies in the place of its target. -/
def cloning (source : String) (request : CloneRequest) (port : UInt16) (x : Option String) :
    Option ClusterRecord → Decision
  | none => .refuse (.cloneSourceMissing source)
  | some record =>
    .refuseIf record.disabled (.cloneSourceDeleted source) <| .refuseIf request.target.isEmpty .cloneTargetUnnamed <|
      .check (checkName "cluster" request.target) fun _ => .byRecord ClusterRecord.decode
        (fun
          | some _ => .refuse (.cloneTargetTaken request.target)
          | none => .write (Rotated { record with host := request.host, port := port, disabled := false })) x

def decideCloning (source : String) (request : CloneRequest) (others : Table String) (x : Option String) : Decision :=
  .refuseIf request.host.isEmpty .invalidHost <|
    match validPort? request.port with
    | none => .refuse (.invalidClonePort request.port)
    | some port =>
      .byRecord ClusterRecord.decode (cloning source request port x)
        (if source = request.target then x else others.get? (StoreKeys.cluster source))

/-- Whether a clone can get as far as reading its source. -/
def Placeable (request : CloneRequest) : Prop := request.host.isEmpty = false ∧ (validPort? request.port).isSome

variable {source : String} {request : CloneRequest}

theorem only_copyDatabases {kept : String → Prop} {target : String} (free : ∀ d, ¬kept (StoreKeys.database target d))
    (inheritDeleted : Bool) : Program.Only (·.Spares kept) (copyDatabases source target inheritDeleted) :=
  calls_copyDatabases trivial (fun _ => trivial) (fun d _ => free d) inheritDeleted

/-- Copying databases leaves the record of the clone alone. -/
theorem free_of_databases (target d : String) :
    ¬(StoreKeys.database target d = StoreKeys.cluster target ∨ Beyond target (StoreKeys.database target d)) := by
  rintro (same | beyond)
  · exact StoreKeys.cluster_ne_own_database target d same.symm
  · exact not_beyond_database target d beyond

theorem fulfils_checkClone (valid : Names.isName source) (others : Table String) :
    Fulfils (StoreKeys.cluster request.target) (Beyond request.target) others (decideCloning source request others)
      (Placeable request)
      (fun record m => Placeable request ∧ m.changes = [] ∧
        ∀ left, Rotated record left → Founded (decideCloning source request others) m.reads left)
      .blank (checkClone source request) := by
  unfold checkClone
  refine fulfils_unless rfl (comes_start ..) fun hosted comes => ?_
  cases ported : validPort? request.port with
  | none =>
    simp only [ported] at comes
    exact fulfils_refuse rfl comes
  | some port =>
    simp only [ported] at comes
    have can : Placeable request := ⟨hosted, by rw [ported]; rfl⟩
    by_cases own : source = request.target
    · simp only [if_pos own] at comes
      rw [own] at comes ⊢
      refine fulfils_read rfl rfl can comes fun x record? means comes => ?_
      cases record? with
      | none => exact fulfils_refuse rfl comes
      | some record =>
        refine fulfils_unless rfl comes fun enabled comes => fulfils_unless rfl comes fun _ comes => ?_
        refine fulfils_check rfl comes fun _ _ comes => fulfils_load rfl can fun y taken means' => ?_
        -- The source was there when it was read, so its place cannot be free unless it has been deleted since.
        have here : x ∈ ((Notes.blank.read x).read y).reads := List.mem_cons_of_mem _ (List.mem_singleton_self x)
        cases taken with
        | some c => exact fulfils_refused rfl (.inl ⟨x, here, (comes.last rfl).trans (Decision.byRecord_of_means means)⟩)
        | none =>
          obtain ⟨text, stored, decoded⟩ := means
          obtain rfl : y = none := means'
          exact ⟨can, rfl, fun left _ => .inr ⟨rfl, x, here, text, record, stored, decoded, enabled⟩⟩
    · simp only [if_neg own] at comes
      have other : StoreKeys.cluster source ≠ StoreKeys.cluster request.target :=
        fun same => own (StoreKeys.cluster_injective same)
      have stays : Beyond request.target (StoreKeys.cluster source) :=
        ⟨other, fun d => StoreKeys.cluster_ne_database (Names.slash_not_mem valid) _ d⟩
      refine fulfils_look stays other rfl can comes fun record? _ comes => ?_
      cases record? with
      | none => exact fulfils_refuse rfl comes
      | some record =>
        refine fulfils_unless rfl comes fun _ comes => fulfils_unless rfl comes fun _ comes => ?_
        refine fulfils_check rfl comes fun _ _ comes => fulfils_read rfl rfl can comes fun x taken _ comes => ?_
        cases taken with
        | some c => exact fulfils_refused rfl comes.justifies
        | none => exact ⟨can, rfl, fun left rotated => comes.founds rfl rotated⟩

theorem fulfils_cloneCluster (valid : Names.isName source) (others : Table String) :
    Fulfils (StoreKeys.cluster request.target) (Beyond request.target) others (decideCloning source request others)
      (Placeable request)
      (fun _ => Justified (decideCloning source request others) (Placeable request) .done) .blank
      (cloneCluster source request) := by
  refine Op.wp_seq (fulfils_checkClone valid others) (fun record n checked => ?_) fun _ _ failed => failed
  obtain ⟨can, nothing, founded⟩ := checked
  refine fulfils_work (works_tryManagement labour_watching) (yields_any _) nothing can fun warnings _ => ?_
  refine fulfils_work (works_inContext labour_watching.toil (Connections.works_openUncached labour_watching)) (yields_any _)
    nothing can fun root _ => ?_
  refine fulfils_work (works_andAlways labour_watching (works_rotateBoth labour_watching.toil)
    Connections.only_closeQuietly) (yields_any _) nothing can fun passwords _ => ?_
  refine fulfils_write ((Op.wp_inContext ..).2 (Op.wp_mono (wp_watching_put (not_beyond_cluster request.target))
    (fun _ _ left => left) fun _ _ failed => ⟨failed.1, failed.2.inContext⟩)) nothing can ?_ fun _ => ?_
  · exact founded _ ⟨passwords.1, passwords.2, rfl⟩
  · exact closes_bind (closes_lift (only_copyDatabases (free_of_databases _) _)) fun _ => closes_pure _

theorem wp_lucky_rotateBoth {c : Connection} {record : ClusterRecord} {i : Nat} {s : Surroundings}
    (managementPassword rootPassword : String) :
    Op.wp (lucky i) (fun passwords t => passwords = (managementPassword, rootPassword) ∧ t.values = s.values)
      (fun _ _ => False) (rotateBoth c record) s := by
  refine (Op.wp_bind_inContext ..).2
    (Op.wp_mono (Fleet.wp_lucky_rotatePassword managementPassword) (fun p t first => ?_) fun _ _ => False.elim)
  refine (Op.wp_bind_inContext ..).2
    (Op.wp_mono (Fleet.wp_lucky_rotatePassword rootPassword) (fun q u second => ?_) fun _ _ => False.elim)
  exact ⟨Prod.ext first.1 second.1, second.2.trans first.2⟩

theorem attains_cloneCluster (valid : Names.isName source) {i : Nat} {s : Surroundings} {others : Table String} {aim : Aim}
    (still : Still (Beyond request.target) others s)
    (allowed : (decideCloning source request others (s.values.get? (StoreKeys.cluster request.target))).Allows aim) :
    Op.wp (lucky i) (fun _ => aim.Done (StoreKeys.cluster request.target) (Beyond request.target) others)
      (aim.Failed s.values) (cloneCluster source request) s := by
  refine (Op.wp_bind ..).2 ?_
  unfold checkClone
  refine attains_unless allowed rfl fun allowed => ?_
  cases ported : validPort? request.port with
  | none =>
    simp only [ported] at allowed
    exact attains_refuse allowed rfl
  | some port =>
    simp only [ported] at allowed
    have lies : (if source = request.target then s.values.get? (StoreKeys.cluster request.target)
        else others.get? (StoreKeys.cluster source)) = s.values.get? (StoreKeys.cluster source) := by
      split
      case isTrue own => rw [own]
      case isFalse foreign =>
        refine (still _ ⟨fun same => foreign (StoreKeys.cluster_injective same), fun d => ?_⟩).symm
        exact StoreKeys.cluster_ne_database (Names.slash_not_mem valid) _ d
    rw [lies] at allowed
    refine attains_load allowed rfl fun record? t same _ allowed => ?_
    cases record? with
    | none => exact attains_refuse allowed same
    | some record =>
      refine attains_unless allowed same fun allowed => attains_unless allowed same fun allowed => ?_
      refine attains_check allowed same fun _ _ allowed => attains_load allowed same fun taken u same _ allowed => ?_
      cases taken with
      | some c => exact attains_refused allowed same
      | none =>
        cases aim with
        | refused why => exact allowed.elim
        | left v =>
          obtain ⟨managementPassword, rootPassword, rfl⟩ := allowed
          refine wp_lucky_work (works_tryManagement labour_lucky) same fun _ u same => ?_
          refine wp_lucky_work (works_inContext labour_lucky.toil (Connections.works_openUncached labour_lucky)) same
            fun root u same => ?_
          refine Op.wp_seq_andAlways (wp_lucky_rotateBoth managementPassword rootPassword)
            (fun passwords v ended => ?_) fun _ _ => False.elim
          obtain ⟨rfl, same'⟩ := ended
          refine Program.wp_mono (fun _ w same => ?_)
            (labour_lucky.wp_of_only Connections.only_closeQuietly (same'.trans same))
          refine wp_lucky_write ((Op.wp_inContext ..).2
            (wp_lucky_put (not_beyond_cluster request.target) (still.of_values same))) fun _ => ?_
          exact closes_bind (closes_lift (only_copyDatabases (free_of_databases _) _)) fun _ => closes_pure _

theorem decideCloning_some {others : Table String} {x : Option String} {results : Option String → Prop}
    (decided : decideCloning source request others x = .write results) : ¬results none := by
  obtain ⟨-, decided⟩ := Decision.refuseIf_eq_write decided
  split at decided
  · cases decided
  · obtain ⟨record?, -, decided⟩ := Decision.byRecord_eq_write decided
    cases record? with
    | none => cases decided
    | some record =>
      obtain ⟨-, decided⟩ := Decision.refuseIf_eq_write decided
      obtain ⟨-, decided⟩ := Decision.refuseIf_eq_write decided
      obtain ⟨_, -, decided⟩ := Decision.check_eq_write decided
      obtain ⟨taken, -, decided⟩ := Decision.byRecord_eq_write decided
      cases taken with
      | some c => cases decided
      | none =>
        cases decided
        rintro ⟨p, p', ⟨⟩⟩

theorem fails_cloneCluster (can : Placeable request) (s : Surroundings) (i : Nat) :
    Op.wp (lucky i) (fun _ _ => False) (fun e t => Verdict.ofError e = .failed ∧ t.values = s.values)
      (cloneCluster source request) s := by
  obtain ⟨hosted, ported⟩ := can
  obtain ⟨port, ported⟩ := Option.isSome_iff_exists.1 ported
  refine (Op.wp_bind ..).2 ?_
  unfold checkClone
  rw [hosted, ported]
  exact wp_lucky_unread

def cloneClusterChange (source : String) (valid : Names.isName source) (request : CloneRequest) :
    RecordChange (StoreKeys.cluster request.target) (Beyond request.target) :=
  .ofOp (cloneCluster source request) (decideCloning source request) (fun _ => False) (Placeable request)
    (fun _ => False.elim) (fun decided gone => absurd gone (decideCloning_some decided)) (fulfils_cloneCluster valid)
    (fun _ => attains_cloneCluster valid) (fun s i can => fails_cloneCluster can s i)

end Replicas

end LeaseBroker
