import LeaseBroker.Proofs.Requirements
import LeaseBroker.Credentials
import LeaseBroker.Reclaim
import LeaseBroker.Replicas
import LeaseBroker.TagIndex

/-!
Which calls the parts of operations make. Reading records changes nothing, work
on a server leaves the store alone, and only `get` puts a connection into the
cache. What an operation does to the store, to the cache and to servers is then
a matter of the few calls that it makes itself.

How a connection is got and used is taken apart once, whatever is to be shown
of it (`wp_getWithin`, `wp_onManagement`).
-/
namespace LeaseBroker

namespace Call

/-- Whether the call does some work on a server, or what goes with that. -/
def works : Call → Bool
  | evict _ | tally _ | uuid | password | now => true
  | c => c.toServer

/-- Whether the call does some work on a connection that is there, or what goes with that. -/
def toils : Call → Bool
  | execute .. | start _ | run .. | commit _ | rollback _ => true
  | tally .issued | tally .renewed | tally .revoked => true
  | uuid | password | now => true
  | _ => false

/-- Whether the call opens or closes connections, or keeps count of that, and tells no server anything. -/
def tends : Call → Bool
  | connect _ | close _ | evict _ | tally _ => true
  | _ => false

/-- Whether the call is one of those by which a connection is got. -/
def gets : Call → Bool
  | fetch _ | connect _ | close _ | find _ | keep .. | tally _ => true
  | _ => false

theorem works_of_toils (c : Call) (h : c.toils) : c.works := by cases c <;> first | rfl | cases h

theorem works_of_tends (c : Call) (h : c.tends) : c.works := by cases c <;> first | rfl | cases h

theorem not_writes_of_works (c : Call) (h : c.works) : !c.writes := by cases c <;> first | rfl | cases h

theorem not_writes_of_gets (c : Call) (h : c.gets) : !c.writes := by cases c <;> first | rfl | cases h

theorem not_keeps_of_works (c : Call) (h : c.works) : !c.keeps := by cases c <;> first | rfl | cases h

theorem not_writes_of_quiet (c : Call) (h : c.quiet) : !c.writes := by cases c <;> first | rfl | cases h

theorem not_keeps_of_quiet (c : Call) (h : c.quiet) : !c.keeps := by cases c <;> first | rfl | cases h

end Call

open Op

/-! ## Reading -/

/-- Loading is a single call. -/
theorem calls_loadRecord {P : Call → Prop} {α : Type} {decode : String → Except String α} {key : String}
    (fetch : P (.fetch key)) : Op.Only P (loadRecord decode key) := by
  refine only_bind (only_ofStore (Program.only_call fetch)) fun text? => ?_
  split
  · exact only_pure _
  · split
    · exact only_pure _
    · exact only_throw _

theorem only_loadRecord {α : Type} {decode : String → Except String α} {key : String} :
    Op.Only (·.quiet) (loadRecord decode key) := calls_loadRecord rfl

/-- What a stored text, or none, is read as. -/
def Means {α : Type} (decode : String → Except String α) (text? : Option String) : Option α → Prop
  | none => text? = none
  | some a => ∃ text, text? = some text ∧ decode text = .ok a

/-- What a store holds under a key: no record, or one that can be read. -/
def Loads {α : Type} (decode : String → Except String α) (values : Table String) (key : String) (a? : Option α) : Prop :=
  Means decode (values.get? key) a?

theorem means_eq {α : Type} {decode : String → Except String α} {text? : Option String} {a? b? : Option α}
    (h : Means decode text? a?) (h' : Means decode text? b?) : a? = b? := by
  cases a? with
  | none =>
    obtain rfl : text? = none := h
    cases b? with
    | none => rfl
    | some b =>
      obtain ⟨text, ⟨⟩, -⟩ := h'
  | some a =>
    obtain ⟨text, rfl, decoded⟩ := h
    cases b? with
    | none => cases h'
    | some b =>
      obtain ⟨_, ⟨⟩, decoded'⟩ := h'
      cases decoded.symm.trans decoded'
      rfl

theorem loads_eq {α : Type} {decode : String → Except String α} {values : Table String} {key : String} {a? b? : Option α}
    (h : Loads decode values key a?) (h' : Loads decode values key b?) : a? = b? := means_eq h h'

theorem loads_unique {α : Type} {decode : String → Except String α} {values : Table String} {key : String} {a b : α}
    (h : Loads decode values key (some a)) (h' : Loads decode values key (some b)) : a = b :=
  Option.some.inj (loads_eq h h')

/-- Loading, where it is known how the store answers. -/
theorem wp_load {α β σ : Type} {D : Program.Demands σ} [Program.Monotone D] {decode : String → Except String α} {key : String}
    {f : Option α → Op β} {ok : β → σ → Prop} {fail : BrokerError → σ → Prop} {s : σ}
    (fetched : D (.fetch key)
      (fun r t => ∃ x a?, r = .ok x ∧ Means decode x a? ∧ Op.wp D ok fail (f a?) t) s) :
    Op.wp D ok fail (loadRecord decode key >>= f) s := by
  refine (wp_bind ..).2 ((wp_bind_ofStore ..).2 (Program.Monotone.mono (fun r t answered => ?_) fetched))
  obtain ⟨x, a?, rfl, means, rest⟩ := answered
  cases a? with
  | none =>
    obtain rfl : x = none := means
    exact rest
  | some a =>
    obtain ⟨text, rfl, decoded⟩ := means
    dsimp only [Program.wp, Except.mapError, Op.Ended]
    rw [decoded]
    exact rest

theorem wp_quiet {α : Type} {p : Program α} {i : Nat} {s : Surroundings} (h : Program.Only (·.quiet) p) :
    Program.wp (Surroundings.alone i) (fun _ t => s.Untouched t) p s := by
  refine Program.wp_of_only (D := Surroundings.alone i) (I := fun t => s.Untouched t) (fun c K t quiet before next => ?_)
    h (.refl s)
  exact Surroundings.alone_iff.2 fun r _ => next r _ (before.trans (Surroundings.untouched_after quiet))

/-- Loading changes nothing and gives what the store holds, unless it fails, and then it is not the caller's fault. -/
theorem wp_loadRecord {α : Type} {decode : String → Except String α} {key : String} {i : Nat} {s : Surroundings} :
    Op.wp (Surroundings.alone i) (fun a? t => s.Untouched t ∧ Loads decode s.values key a?)
      (fun e t => s.Untouched t ∧ ∀ why, e ≠ .refused why) (loadRecord decode key) s := by
  refine (wp_bind_ofStore ..).2 (Surroundings.alone_iff.2 fun r given => ?_)
  have later : s.Untouched (s.after i (.fetch key) r) := Surroundings.untouched_after rfl
  cases r with
  | error e => exact ⟨later, nofun⟩
  | ok text? =>
    have stored : text? = s.values.get? key := Surroundings.eq_of_gives given
    cases text? with
    | none => exact ⟨later, stored.symm⟩
    | some text =>
      dsimp only [Program.wp, Except.mapError, Op.Ended]
      split
      · rename_i record decoded
        exact ⟨later, text, stored.symm, decoded⟩
      · exact ⟨later, nofun⟩

theorem only_children {above : String} :
    Op.Only (·.quiet) (do return StoreKeys.leaves (← ofStore (Program.list above)) : Op (List String)) :=
  only_bind (only_ofStore (Program.only_call rfl)) fun _ => only_pure _

namespace Fleet

theorem only_readCluster {name : String} : Op.Only (·.quiet) (readCluster name) :=
  only_found only_loadRecord (only_refuse _) fun c => only_unless (only_pure c)

theorem only_readDatabase {cluster database : String} : Op.Only (·.quiet) (readDatabase cluster database) := by
  refine only_found only_loadRecord (only_refuse _) fun c => only_unless ?_
  exact only_found only_loadRecord (only_refuse _) fun d => only_unless (only_pure d)

end Fleet

namespace Reclaim

theorem only_deletedAmong {α : Type} {load : String → Op (Option α)} {disabled : α → Bool}
    (h : ∀ name, Op.Only (·.quiet) (load name)) (names : List String) :
    Op.Only (·.quiet) (deletedAmong load disabled names) := by
  induction names with
  | nil => exact only_pure _
  | cons name names ih => exact only_bind (h name) fun _ => only_bind ih fun _ => only_pure _

theorem only_listClusters : Op.Only (·.quiet) listClusters :=
  only_bind only_children fun _ => only_deletedAmong (fun _ => only_loadRecord) _

theorem only_listDatabases {cluster : String} : Op.Only (·.quiet) (listDatabases cluster) :=
  only_bind only_children fun _ => only_deletedAmong (fun _ => only_loadRecord) _

theorem only_readCluster {name : String} : Op.Only (·.quiet) (readCluster name) :=
  only_found only_loadRecord (only_refuse _) fun c => only_unless (only_pure c)

theorem only_readDatabase {cluster database : String} : Op.Only (·.quiet) (readDatabase cluster database) :=
  only_found only_loadRecord (only_refuse _) fun d => only_unless (only_pure d)

end Reclaim

namespace Replicas

/-- To check a clone takes looking at two records. -/
theorem calls_checkClone {P : Call → Prop} {source : String} {request : CloneRequest}
    (fetch : P (.fetch (StoreKeys.cluster source))) (fetch' : P (.fetch (StoreKeys.cluster request.target))) :
    Op.Only P (checkClone source request) := by
  unfold checkClone
  refine only_unless ?_
  split
  · refine only_found (calls_loadRecord fetch) (only_refuse _) fun c => ?_
    refine only_unless (only_unless (only_bind (only_ofRefusal _) fun _ => ?_))
    exact only_found (calls_loadRecord fetch') (only_pure _) fun taken => only_refused
  · exact only_refuse _

theorem only_checkClone {source : String} {request : CloneRequest} : Op.Only (·.quiet) (checkClone source request) :=
  calls_checkClone rfl rfl

/-- Copying databases lists and reads those of the source and writes those of the target. -/
theorem calls_copyDatabases {P : Call → Prop} {source target : String} (list : P (.list (StoreKeys.databases source)))
    (fetch : ∀ d, P (.fetch (StoreKeys.database source d))) (put : ∀ d v, P (.put (StoreKeys.database target d) v))
    (inheritDeleted : Bool) : Program.Only P (copyDatabases source target inheritDeleted) := by
  have copying (name : String) : Program.Only P (copyDatabase source target inheritDeleted name) := by
    refine Program.only_bind (calls_loadRecord (fetch name)) fun loaded => ?_
    rcases loaded with e | _ | d
    · exact Program.only_pure _
    · exact Program.only_pure _
    · dsimp only
      cases d.disabled && !inheritDeleted with
      | true => exact Program.only_pure _
      | false =>
        refine Program.only_bind (only_ofStore (Program.only_call (put name _))) fun stored => ?_
        cases stored <;> exact Program.only_pure _
  have each (names : List String) : Program.Only P (copyEach source target inheritDeleted names) := by
    induction names with
    | nil => exact Program.only_pure _
    | cons name names ih =>
      exact Program.only_bind (copying name) fun _ => Program.only_bind ih fun _ => Program.only_pure _
  refine Program.only_bind (Program.only_call list) fun listed => ?_
  cases listed with
  | error e => exact Program.only_pure _
  | ok entries => exact each _

end Replicas

namespace RoleTemplates

theorem only_readRole {name : String} : Op.Only (·.quiet) (readRole name) :=
  only_found only_loadRecord (only_refuse _) fun r => only_pure r

end RoleTemplates

namespace TagIndex

theorem only_loadEach (ids : List String) : Op.Only (·.quiet) (loadEach ids) := by
  induction ids with
  | nil => exact only_pure _
  | cons id ids ih => exact only_bind only_loadRecord fun _ => only_bind ih fun _ => only_pure _

theorem only_load {target : TagTarget} : Op.Only (·.quiet) (load target) :=
  only_bind (only_ofStore (Program.only_call rfl)) fun _ => only_loadEach _

theorem only_lookup {target : TagTarget} {query : Table String} : Op.Only (·.quiet) (lookup target query) :=
  only_bind (only_ofRefusal _) fun _ => only_bind only_load fun _ => only_pure _

theorem only_listing : Op.Only (·.quiet) listing :=
  only_bind only_load fun _ => only_bind only_load fun _ => only_pure _

end TagIndex

namespace Credentials

theorem only_revocationPlan {role : String} : Op.Only (·.quiet) (revocationPlan role) :=
  only_found only_loadRecord (only_pure _) fun _ => only_pure _

end Credentials

/-! ## Working on servers -/

namespace Connections

section
variable {P : Call → Prop}

theorem calls_closeQuietly {c : Connection} (close : P (.close c)) : Program.Only P (closeQuietly c) :=
  Program.only_bind (Program.only_call close) fun _ => Program.only_pure _

theorem calls_openUncached {cluster : ClusterRecord} {kind : LoginKind} {database : String} (connect : ∀ t, P (.connect t))
    (opened : P (.tally .opened)) : Op.Only P (openUncached cluster kind database) :=
  only_bind (only_ofSql (Program.only_call (connect _))) fun _ =>
    only_bind (only_lift (Program.only_call opened)) fun _ => only_pure _

theorem calls_closeAll (counted : P (.tally .evicted)) (close : ∀ c, P (.close c))
    (evicted : List (ConnectionKey × Connection)) : Program.Only P (closeAll evicted) := by
  induction evicted with
  | nil => exact Program.only_pure _
  | cons e rest ih =>
    refine Program.only_bind (Program.only_call counted) fun _ => Program.only_bind (Program.only_call (close _)) fun closed => ?_
    cases closed with
    | ok u => exact ih
    | error e => exact Program.only_bind ih fun _ => Program.only_pure _

theorem calls_invalidate {what : Eviction} (evict : P (.evict what)) (counted : P (.tally .evicted))
    (close : ∀ c, P (.close c)) : Program.Only P (invalidate what) := by
  refine Program.only_bind (Program.only_call evict) fun evicted => ?_
  refine Program.only_bind (calls_closeAll counted close evicted) fun errors => ?_
  cases errors <;> exact Program.only_pure _

end

theorem tends_closeQuietly {c : Connection} : Program.Only (·.tends) (closeQuietly c) := calls_closeQuietly rfl

theorem tends_openUncached {cluster : ClusterRecord} {kind : LoginKind} {database : String} :
    Op.Only (·.tends) (openUncached cluster kind database) := calls_openUncached (fun _ => rfl) rfl

theorem tends_closeAll (evicted : List (ConnectionKey × Connection)) :
    Program.Only (·.tends) (closeAll evicted) := calls_closeAll (P := (·.tends)) rfl (fun _ => rfl) evicted

theorem tends_invalidate {what : Eviction} : Program.Only (·.tends) (invalidate what) :=
  calls_invalidate rfl rfl fun _ => rfl

theorem only_closeQuietly {c : Connection} : Program.Only (·.works) (closeQuietly c) :=
  Program.only_mono Call.works_of_tends tends_closeQuietly

theorem only_openUncached {cluster : ClusterRecord} {kind : LoginKind} {database : String} :
    Op.Only (·.works) (openUncached cluster kind database) :=
  Op.only_mono Call.works_of_tends tends_openUncached

theorem only_closeAll (evicted : List (ConnectionKey × Connection)) : Program.Only (·.works) (closeAll evicted) :=
  Program.only_mono Call.works_of_tends (tends_closeAll evicted)

theorem only_invalidate {what : Eviction} : Program.Only (·.works) (invalidate what) :=
  Program.only_mono Call.works_of_tends tends_invalidate

/-- How connections are got: a look-up, a record, a new connection to keep or to close. -/
theorem calls_getWithin {P : Call → Prop} {key : ConnectionKey} (find : P (.find key))
    (fetch : P (.fetch (StoreKeys.cluster key.cluster))) (connect : ∀ t, P (.connect t)) (opened : P (.tally .opened))
    (keep : ∀ g c, P (.keep key g c)) (close : ∀ c, P (.close c)) (more : Nat) : Op.Only P (getWithin key more) := by
  have closing (c : Connection) : Op.Only P (liftM (closeQuietly c)) := only_lift (calls_closeQuietly (close c))
  induction more with
  | zero => exact only_throw _
  | succ more ih =>
    refine only_bind (only_lift (Program.only_call find)) fun found => ?_
    cases found with
    | cached c => exact only_pure c
    | missing g =>
      refine only_bind (calls_loadRecord fetch) fun record? => ?_
      cases record? with
      | none => exact only_refuse _
      | some record =>
        refine only_bind (calls_openUncached connect opened) fun c => ?_
        refine only_bind (only_lift (Program.only_call (keep g c))) fun placed => ?_
        cases placed with
        | kept => exact only_pure c
        | present existing => exact only_bind (closing c) fun _ => only_pure existing
        | superseded => exact only_bind (closing c) fun _ => ih

section
variable {σ : Type} (D : Program.Demands σ) (ok : Connection → σ → Prop)

/-- Opening a connection for a key for which none is cached. -/
def openAfresh (key : ConnectionKey) : Op Connection := do
  let some cluster ← loadCluster key.cluster | Op.refuse (.connectionWithoutCluster key.cluster)
  openUncached cluster key.kind (key.database.getD cluster.database)

/-- What must hold after a look-up. -/
def OnFound (missed : Nat → σ → Prop) : ConnectionCache.Found → σ → Prop
  | .cached c => ok c
  | .missing g => missed g

/-- What must hold after a connection was offered to the cache. -/
def OnPlaced (again : σ → Prop) (c : Connection) : ConnectionCache.Placement → σ → Prop
  | .kept => ok c
  | .present existing => Program.wp D (fun _ => ok existing) (closeQuietly c)
  | .superseded => Program.wp D (fun _ => again) (closeQuietly c)

variable {D ok} [Program.Monotone D] {key : ConnectionKey} {fail : BrokerError → σ → Prop}

/-- Getting a connection, attempt by attempt: with so many left, `start` holds before a look-up, `missed` when it has
    found nothing, and `opened` when a connection was opened that is yet to be offered to the cache. -/
theorem wp_getWithin (start : Nat → σ → Prop) (missed : Nat → Nat → σ → Prop)
    (opened : Nat → Nat → Connection → σ → Prop)
    (spent : ∀ s, start 0 s →
      fail (.internal ("connection for " ++ key.text ++ s!" was invalidated {attempts} times while opening")) s)
    (find : ∀ more s, start (more + 1) s → D (.find key) (OnFound ok (missed more)) s)
    (afresh : ∀ more g s, missed more g s → Op.wp D (opened more g) fail (openAfresh key) s)
    (keep : ∀ more g c s, opened more g c s → D (.keep key g c) (OnPlaced D ok (start more) c) s) (more : Nat) {s : σ}
    (begun : start more s) : Op.wp D ok fail (getWithin key more) s := by
  induction more generalizing s with
  | zero => exact spent s begun
  | succ more ih =>
    refine (wp_bind_lift ..).2 (Program.Monotone.mono (fun found t looked => ?_) (find more s begun))
    cases found with
    | cached c => exact looked
    | missing g =>
      refine wp_seq ((wp_bind ..).1 (afresh more g t looked)) (fun record? u loaded => ?_) fun _ _ => id
      cases record? with
      | none => exact loaded
      | some record =>
        refine wp_seq loaded (fun c v fresh => ?_) fun _ _ => id
        refine (wp_bind_lift ..).2 (Program.Monotone.mono (fun placed w put => ?_) (keep more g c v fresh))
        cases placed with
        | kept => exact put
        | present existing => exact wp_seq_lift put fun _ _ => id
        | superseded => exact wp_seq_lift put fun _ _ => ih

/-- What must hold after something was done on a management connection. When that was closed, it is tried again. -/
def OnDone {α : Type} (ok : α → σ → Prop) (fail : BrokerError → σ → Prop) (start : σ → Prop) : Except SqlError α → σ → Prop
  | .ok a, s => ok a s
  | .error e, s => fail (.sql e) s ∧ (e = .closed → start s)

/-- Doing something on a management connection: `start` holds before a connection is got, and `got` afterwards. -/
theorem wp_onManagement {α : Type} {cluster database : String} {act : Connection → Program (Except SqlError α)}
    {ok : α → σ → Prop} {s : σ} (start : σ → Prop) (got : Connection → σ → Prop)
    (getting : ∀ s, start s → Op.wp D got fail (get (managementKey cluster database)) s)
    (acting : ∀ c s, got c s → Program.wp D (OnDone ok fail start) (act c) s) (begun : start s) :
    Op.wp D ok fail (onManagement cluster database act) s := by
  refine wp_seq (getting s begun) (fun c t own => ?_) fun _ _ => id
  refine wp_seq_lift (acting c t own) fun r u acted => ?_
  split
  · refine wp_seq (getting u (acted.2 rfl)) (fun c v own => ?_) fun _ _ => id
    refine (wp_ofSql _).2 (Program.wp_mono (fun r w acted => ?_) (acting c v own))
    cases r with
    | ok a => exact acted
    | error e => exact acted.1
  · cases r with
    | ok a => exact acted
    | error e => exact acted.1

end

theorem gets_getWithin {key : ConnectionKey} (more : Nat) : Op.Only (·.gets) (getWithin key more) :=
  calls_getWithin (P := (·.gets)) rfl rfl (fun _ => rfl) rfl (fun _ _ => rfl) (fun _ => rfl) more

theorem only_getWithin {key : ConnectionKey} (more : Nat) : Op.Only (!·.writes) (getWithin key more) :=
  Op.only_mono Call.not_writes_of_gets (gets_getWithin more)

/-- Doing something on a management connection takes the calls of that, and those by which the connection is got. -/
theorem calls_onManagement {P : Call → Prop} {α : Type} {cluster database : String}
    {act : Connection → Program (Except SqlError α)} (get : Op.Only P (get (managementKey cluster database)))
    (h : ∀ c, Program.Only P (act c)) : Op.Only P (onManagement cluster database act) := by
  refine only_bind get fun c => only_bind (only_lift (h c)) fun r => ?_
  split
  · exact only_bind get fun c => only_ofSql (h c)
  · exact only_ofSql (Program.only_pure _)

theorem only_onManagement {P : Call → Prop} (gets : ∀ c : Call, c.gets → P c) {α : Type} {cluster database : String}
    {act : Connection → Program (Except SqlError α)} (h : ∀ c, Program.Only P (act c)) :
    Op.Only P (onManagement cluster database act) :=
  calls_onManagement (Op.only_mono gets (gets_getWithin attempts)) h

end Connections

section
variable {P : Call → Prop}

namespace Fleet

theorem calls_rotatePassword {c : Connection} {user : String} (execute : ∀ sql, P (.execute c sql)) (password : P .password) :
    Op.Only P (rotatePassword c user) :=
  only_bind (only_lift (Program.only_call password)) fun _ =>
    only_bind (only_ofSql (Program.only_call (execute _))) fun _ => only_pure _

theorem calls_provisionCluster {c : Connection} {user : String} (execute : ∀ sql, P (.execute c sql)) (uuid : P .uuid)
    (password : P .password) : Op.Only P (provisionCluster c user) := by
  have role : Op.Only P (createManagementRole c) :=
    only_bind (only_lift (Program.only_call uuid)) fun _ => only_bind (only_lift (Program.only_call password)) fun _ =>
      only_bind (only_ofSql (Program.only_call (execute _))) fun _ => only_pure _
  exact only_bind (only_inContext role) fun _ =>
    only_bind (only_inContext (calls_rotatePassword execute password)) fun _ => only_pure _

theorem calls_runEach {t : Transaction} {bindings : Bindings} (run : ∀ sql, P (.run t sql)) (templates : List String) :
    Program.Only P (runEach t bindings templates) := by
  induction templates with
  | nil => exact Program.only_pure _
  | cons template rest ih =>
    refine Program.only_bind (Program.only_call (run _)) fun ran => ?_
    cases ran with
    | ok u => exact ih
    | error e => exact Program.only_pure _

theorem only_provisionCluster {c : Connection} {user : String} : Op.Only (·.works) (provisionCluster c user) :=
  calls_provisionCluster (fun _ => rfl) rfl rfl

theorem only_runEach (t : Transaction) (bindings : Bindings) (templates : List String) :
    Program.Only (·.works) (runEach t bindings templates) := calls_runEach (fun _ => rfl) templates

theorem calls_rollbackQuietly {t : Transaction} (rollback : P (.rollback t)) : Program.Only P (rollbackQuietly t) :=
  Program.only_bind (Program.only_call rollback) fun _ => Program.only_pure _

theorem only_rollbackQuietly {t : Transaction} : Program.Only (·.works) (rollbackQuietly t) := calls_rollbackQuietly rfl

/-- To make a database and the owner of its objects takes connections to its cluster and work on them. -/
theorem calls_provisionDatabase {record : ClusterRecord} {cluster database owner : String} {createDatabase : Bool}
    (get : ∀ key : ConnectionKey, key.cluster = cluster → Op.Only P (Connections.get key))
    (servers : ∀ c : Call, c.toServer → P c) : Op.Only P (provisionDatabase record cluster database owner createDatabase) := by
  have transacting : Op.Only P (provisionDatabase record cluster database owner false) := by
    refine only_bind (Connections.calls_onManagement (get _ rfl) fun _ => Program.only_call (servers _ rfl)) fun t => ?_
    refine only_bind (only_lift (calls_runEach (fun _ => servers _ rfl) _)) fun ran => ?_
    cases ran with
    | ok u => exact only_ofSql (Program.only_call (servers _ rfl))
    | error e =>
      exact only_bind (only_lift (calls_rollbackQuietly (servers _ rfl))) fun _ => only_throw _
  cases createDatabase with
  | false => exact transacting
  | true =>
    refine only_bind (get _ rfl) fun root => ?_
    exact only_bind (only_inContext (only_ofSql (Program.only_call (servers _ rfl)))) fun _ => transacting

theorem only_chooseOwner {database wanted : String} (h : P .uuid) :
    Program.Only P (chooseOwner database wanted) := by
  unfold chooseOwner
  split
  · exact Program.only_bind (Program.only_call h) fun _ => Program.only_pure _
  · exact Program.only_pure _

theorem only_flushed {what : Eviction} {outcome : Outcome Unit} : Op.Only (·.works) (flushed what outcome) := by
  refine only_bind (only_lift Connections.only_invalidate) fun closed => ?_
  cases closed <;> exact only_pure _

theorem sure_flushed {what : Eviction} {outcome : Outcome Unit} : Sure (flushed what outcome) := by
  refine sure_bind (sure_lift _) fun closed => ?_
  cases closed <;> exact sure_pure _

end Fleet

namespace Replicas

theorem calls_tryManagement {record : ClusterRecord} (connect : ∀ t, P (.connect t)) (opened : P (.tally .opened))
    (close : ∀ c, P (.close c)) : Op.Only P (tryManagement record) := by
  refine only_bind (only_inContext (Connections.calls_openUncached connect opened)) fun c => ?_
  refine only_bind (only_lift (Program.only_call (close c))) fun closed => ?_
  cases closed <;> exact only_pure _

theorem tends_tryManagement {record : ClusterRecord} : Op.Only (·.tends) (tryManagement record) :=
  calls_tryManagement (fun _ => rfl) rfl fun _ => rfl

theorem calls_rotateBoth {c : Connection} {record : ClusterRecord} (execute : ∀ sql, P (.execute c sql))
    (password : P .password) : Op.Only P (rotateBoth c record) := by
  have rotating (user : String) : Op.Only P (Fleet.rotatePassword c user) := Fleet.calls_rotatePassword execute password
  exact only_bind (only_inContext (rotating _)) fun _ => only_bind (only_inContext (rotating _)) fun _ => only_pure _

end Replicas

namespace Credentials

/-- A revocation runs the statements of its list, each with those that put it under a savepoint. -/
theorem calls_attempts {t : Transaction} {bindings : Bindings} {templates : List String}
    (save : P (.run t Statements.savepoint)) (release : P (.run t Statements.releaseSavepoint))
    (restore : P (.run t Statements.rollbackToSavepoint))
    (run : ∀ template ∈ templates, P (.run t (Template.render (Blank.trimText template) bindings))) (index : Nat) :
    Program.Only P (runRevocation t bindings index templates) := by
  induction templates generalizing index with
  | nil => exact Program.only_pure _
  | cons template rest ih =>
    have others (index : Nat) : Program.Only P (runRevocation t bindings index rest) :=
      ih (fun template later => run template (List.mem_cons_of_mem _ later)) index
    have isolated : Program.Only P (runIsolated t (Template.render (Blank.trimText template) bindings)) := by
      refine Program.only_bind (Program.only_call save) fun saved => ?_
      cases saved with
      | error e => exact Program.only_pure _
      | ok u =>
        refine Program.only_bind (Program.only_call (run _ List.mem_cons_self)) fun ran => ?_
        cases ran with
        | ok u => exact Program.only_call release
        | error e => exact Program.only_bind (Program.only_call restore) fun _ => Program.only_pure _
    unfold runRevocation
    dsimp only
    cases (Blank.trimText template).isEmpty with
    | true => exact others _
    | false =>
      refine Program.only_bind isolated fun ran => ?_
      cases ran with
      | ok u => exact others _
      | error e => exact Program.only_bind (others _) fun _ => Program.only_pure _

theorem calls_runRevocation {t : Transaction} {bindings : Bindings} (run : ∀ sql, P (.run t sql)) (index : Nat)
    (templates : List String) : Program.Only P (runRevocation t bindings index templates) :=
  calls_attempts (run _) (run _) (run _) (fun _ _ => run _) index

theorem calls_revokeWithin {t : Transaction} {bindings : Bindings} {templates : List String} (run : ∀ sql, P (.run t sql))
    (commit : P (.commit t)) : Op.Only P (revokeWithin t bindings templates) :=
  only_bind (only_lift (calls_runRevocation run _ _)) fun _ =>
    only_bind (only_ofSql (Program.only_call commit)) fun _ => only_pure _

end Credentials

end

end LeaseBroker
