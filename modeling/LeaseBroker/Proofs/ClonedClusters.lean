import LeaseBroker.Proofs.ClusterIsolation
import LeaseBroker.Proofs.ExactListings
import LeaseBroker.Proofs.ServerPasswords

/-!
What a clone leaves in the store and on its server. Its record is that of the
source but for the place and the two passwords, which are the ones of the only
two statements that were run. The databases of the source are listed once and
copied one by one: what is written is the list of copies (`Replicas.copies`),
and all other keys keep what they held. The store is taken to serve every call
(`Surroundings.Supplied`), while servers answer as they like.
-/
namespace LeaseBroker

open Op
open Surroundings (alone alone_iff Done Untouched)
open Template (render renderChars Piece)
open PasswordStatement (bindings fill_bindings)

variable {α : Type} {i : Nat} {s t : Surroundings}

/-! ## Stores that serve every call -/

/-- The answer of a store that serves every call. Nothing is asked of servers. -/
def Call.Supplies : (c : Call) → c.Answer → Prop
  | fetch _, r => r.isOk
  | put .., r => r.isOk
  | delete _, r => r.isOk
  | list _, r => r.isOk
  | _, _ => True

namespace Surroundings

/-- What may be answered to caller `i` where the store serves every call. -/
def Supplied (i : Nat) : Program.Replies Surroundings := fun c s r t => Answered i c s r t ∧ c.Supplies r

/-- For a program that runs on its own with such a store. -/
abbrev supplied (i : Nat) : Program.Demands Surroundings := Program.demonic (Supplied i)

/-- A store that does not fail serves every call. -/
theorem supplies_of_smooth {c : Call} {r : c.Answer} (reply : Smooth i c s r t) : c.Supplies r := by
  have fine := reply.2
  cases c with
  | fetch | put | delete | list =>
    cases r with
    | ok a => rfl
    | error e => cases fine
  | _ => trivial

theorem supplied_iff {c : Call} {K : c.Answer → Surroundings → Prop} :
    supplied i c K s ↔ ∀ r, s.Allows c r → c.Supplies r → K r (s.after i c r) := by
  constructor
  · exact fun h r allowed supplies => h r _ ⟨⟨allowed, rfl⟩, supplies⟩
  · rintro h r _ ⟨⟨allowed, rfl⟩, supplies⟩
    exact h r allowed supplies

end Surroundings

open Surroundings (supplied supplied_iff smooth labour_smooth reachable_smooth)

/-- What holds whatever the answers are. -/
theorem Op.wp_supplied {p : Op α} {ok : α → Surroundings → Prop} {fail : BrokerError → Surroundings → Prop}
    (h : Op.wp (alone i) ok fail p s) : Op.wp (supplied i) ok fail p s :=
  Program.wp_demonic_narrower (fun _ _ _ _ reply => reply.1) h

/-- What can be read is read. -/
theorem wp_supplied_load {decode : String → Except String α} {key : String} {a? : Option α} (loads : Loads decode s.values key a?) :
    Op.wp (supplied i) (fun b? t => b? = a? ∧ s.Untouched t) (fun _ _ => False) (loadRecord decode key) s := by
  have loading : Op.wp (supplied i) (fun b? t => b? = a? ∧ s.Untouched t) (fun _ _ => False)
      (loadRecord decode key >>= pure) s := by
    refine wp_load (supplied_iff.2 fun r given supplies => ?_)
    cases r with
    | error e => cases supplies
    | ok text? =>
      obtain rfl : text? = s.values.get? key := Surroundings.eq_of_gives given
      exact ⟨_, a?, rfl, loads, rfl, Surroundings.untouched_after rfl⟩
  rwa [bind_pure] at loading

/-! ## Changing passwords -/

/-- The statement that gives a login a new password. -/
def passwordChange (user password : String) : String :=
  "alter user " ++ (Fragment.identifier user).sql ++ " with password " ++ (Fragment.literal password).sql

theorem render_updatePassword (user password : String) :
    render Statements.updatePassword (bindings user password) = passwordChange user password := by
  obtain ⟨login, secret⟩ := fill_bindings user password
  rw [← String.toList_inj, render, renderChars, pieces_updatePassword, String.toList_ofList]
  simp only [List.flatMap_cons, List.flatMap_nil]
  rw [login, secret]
  simp [passwordChange, Fragment.sql, Piece.fill]

namespace Fleet

theorem wp_rotatePassword_done {c : Connection} {user : String} :
    Op.wp (alone i) (fun password t => Done [.executed c (passwordChange user password) (.ok ())] s t) (fun _ _ => True)
      (rotatePassword c user) s := by
  refine (wp_bind_lift ..).2 (alone_iff.2 fun (password : String) _ => ?_)
  have drawn : Done [] s (s.after i .password password) := Surroundings.done_of_harmless rfl
  show Op.wp (alone i) _ _ (ofSql (Program.execute c (render Statements.updatePassword (bindings user password))) >>=
    fun _ => pure password) _
  rw [render_updatePassword]
  refine (wp_bind_ofSql ..).2 (alone_iff.2 fun changed _ => ?_)
  cases changed with
  | error e => trivial
  | ok _ => exact drawn.trans (Surroundings.done_of_deed rfl)

end Fleet

namespace Replicas

/-- The statements of a clone: the management role comes first. -/
def rotation (root : Connection) (c : ClusterRecord) (managementPassword rootPassword : String) : List Deed :=
  [.executed root (passwordChange c.managementRole managementPassword) (.ok ()),
    .executed root (passwordChange c.username rootPassword) (.ok ())]

theorem wp_rotateBoth_done {root : Connection} {record : ClusterRecord} :
    Op.wp (alone i) (fun passwords t => Done (rotation root record passwords.1 passwords.2) s t) (fun _ _ => True)
      (rotateBoth root record) s := by
  refine wp_seq_inContext Fleet.wp_rotatePassword_done (fun management u first => ?_)
    fun _ _ h => h
  exact wp_seq_inContext Fleet.wp_rotatePassword_done (fun root v second => first.trans second)
    fun _ _ h => h

/-! ## Copying databases -/

/-- Whether the database is copied. -/
def chosen (inheritDeleted : Bool) (d : DatabaseRecord) : Bool := !d.disabled || inheritDeleted

/-- The values after copies of databases were written for the target. -/
def copies (target : String) (values : Table String) (ds : List DatabaseRecord) : Table String :=
  ds.foldl (fun values d => values.insert (StoreKeys.database target d.database)
    ({ d with cluster := target } : DatabaseRecord).encode) values

section
variable {target : String} {values : Table String} {ds : List DatabaseRecord}

theorem get?_copies_of_ne {key : String} (apart : ∀ d ∈ ds, key ≠ StoreKeys.database target d.database) :
    (copies target values ds).get? key = values.get? key := by
  induction ds generalizing values with
  | nil => rfl
  | cons d ds ih =>
    refine (ih fun e member => apart e (List.mem_cons_of_mem _ member)).trans ?_
    exact Table.get?_insert_of_ne _ _ (apart d List.mem_cons_self)

theorem get?_copies_of_mem (bare : '/' ∉ target.toList) (once : (ds.map (·.database)).Nodup) {d : DatabaseRecord}
    (member : d ∈ ds) : (copies target values ds).get? (StoreKeys.database target d.database) =
      some ({ d with cluster := target } : DatabaseRecord).encode := by
  induction ds generalizing values with
  | nil => cases member
  | cons first ds ih =>
    rw [List.map_cons, List.nodup_cons] at once
    rcases List.mem_cons.1 member with rfl | later
    · show (copies target (values.insert _ _) ds).get? _ = _
      refine (get?_copies_of_ne fun e later same => once.1 ?_).trans (Table.get?_insert_self ..)
      rw [(StoreKeys.database_injective_of_bare bare bare same).2]
      exact List.mem_map_of_mem later
    · exact ih once.2 later

end

/-- The databases of a cluster, each once, as they are stored. -/
structure Listed (values : Table String) (cluster : String) (ds : List DatabaseRecord) : Prop where
  names : ds.map (·.database) = StoreKeys.leaves (MemoryStore.children values (StoreKeys.databases cluster))
  once : (ds.map (·.database)).Nodup
  stored : ∀ d ∈ ds, values.get? (StoreKeys.database cluster d.database) = some d.encode
  all : ∀ name d, Loads DatabaseRecord.decode values (StoreKeys.database cluster name) (some d) → d ∈ ds ∧ d.database = name

/-- In a store that is well filed the databases of a cluster can be listed. -/
theorem exists_listed {values : Table String} (filed : WellFiled values) (cluster : String) :
    ∃ ds, Listed values cluster ds := by
  have each (names : List String)
      (listed : ∀ name ∈ names, ∃ d, Loads DatabaseRecord.decode values (StoreKeys.database cluster name) (some d)) :
      ∃ ds : List DatabaseRecord, ds.map (·.database) = names ∧
        ∀ d ∈ ds, values.get? (StoreKeys.database cluster d.database) = some d.encode := by
    induction names with
    | nil => exact ⟨[], rfl, nofun⟩
    | cons name names ih =>
      obtain ⟨ds, same, stored⟩ := ih fun n member => listed n (List.mem_cons_of_mem _ member)
      obtain ⟨d, text, found, decoded⟩ := listed name List.mem_cons_self
      have own := (filed _ _ found).database_fit decoded
      obtain ⟨d', rfl⟩ := (filed _ _ found).database_text
      cases d'.decode_encode.symm.trans decoded
      refine ⟨d :: ds, by rw [List.map_cons, own.2.2.database, same], fun e member => ?_⟩
      rcases List.mem_cons.1 member with rfl | later
      · rw [own.2.2.database]
        exact found
      · exact stored e later
  obtain ⟨ds, names, stored⟩ := each _ fun name => filed.mem_databases_iff.1
  refine ⟨ds, names, ?_, stored, fun name d loads => ?_⟩
  · rw [names]
    refine (MemoryStore.leaves_ascending values _).imp ?_
    rintro a _ below rfl
    exact String.lt_irrefl a below
  · have listed : name ∈ ds.map (·.database) := names ▸ filed.mem_databases_iff.2 ⟨d, loads⟩
    obtain ⟨e, member, rfl⟩ := List.mem_map.1 listed
    obtain rfl : d = e := loads_unique loads ⟨_, stored e member, e.decode_encode⟩
    exact ⟨member, rfl⟩

section
variable {source target : String} {inheritDeleted : Bool} (bare : '/' ∉ source.toList) (bare' : '/' ∉ target.toList)
  (other : source ≠ target)

theorem wp_copyDatabase_supplied {d : DatabaseRecord}
    (stored : s.values.get? (StoreKeys.database source d.database) = some d.encode) :
    Program.wp (supplied i)
      (fun r t => r = (chosen inheritDeleted d, []) ∧ t.values = copies target s.values ([d].filter (chosen inheritDeleted)))
      (copyDatabase source target inheritDeleted d.database) s := by
  have loads : Loads DatabaseRecord.decode s.values (StoreKeys.database source d.database) (some d) :=
    ⟨_, stored, d.decode_encode⟩
  refine Program.wp_seq (wp_supplied_load loads) fun loaded t read => ?_
  cases loaded with
  | error e => exact read.elim
  | ok d? =>
    obtain ⟨rfl, same⟩ := read
    dsimp only
    have skips : (d.disabled && !inheritDeleted) = !chosen inheritDeleted d := by simp [chosen]
    rw [skips]
    cases copied : chosen inheritDeleted d with
    | false =>
      refine ⟨rfl, ?_⟩
      rw [List.filter_cons_of_neg (by simpa using copied)]
      exact same.values
    | true =>
      have saving : Op.wp (supplied i)
          (fun _ u => u.values = copies target s.values ([d].filter (chosen inheritDeleted))) (fun _ _ => False)
          (saveDatabase target d.database { d with cluster := target }) t := by
        refine (wp_ofStore _).2 (supplied_iff.2 fun written _ supplies => ?_)
        cases written with
        | error e => cases supplies
        | ok _ =>
          rw [List.filter_cons_of_pos (by simpa using copied), ← same.values]
          rfl
      refine Program.wp_seq saving fun written u ended => ?_
      cases written with
      | error e => exact ended.elim
      | ok _ => exact ⟨rfl, ended⟩

include bare bare' other

theorem wp_copyEach_supplied {ds : List DatabaseRecord}
    (stored : ∀ d ∈ ds, s.values.get? (StoreKeys.database source d.database) = some d.encode) :
    Program.wp (supplied i)
      (fun tallied t => tallied = ⟨ds.countP (chosen inheritDeleted), ds.length, []⟩ ∧
        t.values = copies target s.values (ds.filter (chosen inheritDeleted)))
      (copyEach source target inheritDeleted (ds.map (·.database))) s := by
  induction ds generalizing s with
  | nil => exact ⟨rfl, rfl⟩
  | cons d ds ih =>
    have copying : Program.wp (supplied i) (fun r t => r = (chosen inheritDeleted d, []) ∧
        t.values = copies target s.values ([d].filter (chosen inheritDeleted)))
        (copyDatabase source target inheritDeleted d.database) s :=
      wp_copyDatabase_supplied (stored d List.mem_cons_self)
    refine Program.wp_seq copying fun r t copied => ?_
    obtain ⟨rfl, values⟩ := copied
    have stays : ∀ e ∈ ds, t.values.get? (StoreKeys.database source e.database) = some e.encode := by
      intro e member
      rw [values, get?_copies_of_ne fun d _ same => other (StoreKeys.database_injective_of_bare bare' bare same).1]
      exact stored e (List.mem_cons_of_mem _ member)
    refine Program.wp_seq (ih stays) fun rest u ended => ?_
    obtain ⟨rfl, values'⟩ := ended
    refine ⟨?_, ?_⟩
    · rw [List.countP_cons, List.length_cons, Nat.add_comm ds.length, Nat.add_comm (ds.countP _)]
      rfl
    · rw [values', values, copies, copies, copies, ← List.foldl_append, ← List.filter_append]
      rfl

end

/-- What is copied is what was listed, and no statement is run for it. -/
theorem wp_copyDatabases_supplied {source target : String} {inheritDeleted : Bool} {values : Table String} {v : String}
    {ds : List DatabaseRecord} (named : '/' ∉ source.toList) (named' : '/' ∉ target.toList) (other : source ≠ target)
    (listed : Listed values source ds) (holding : s.values = values.insert (StoreKeys.cluster target) v) :
    Program.wp (supplied i)
      (fun tallied t => (tallied = ⟨ds.countP (chosen inheritDeleted), ds.length, []⟩ ∧
        t.values = copies target s.values (ds.filter (chosen inheritDeleted))) ∧ t.deeds = s.deeds)
      (copyDatabases source target inheritDeleted) s := by
  refine Program.wp_demonic_and ?_ ?_
  · refine (Program.wp_bind ..).2 (supplied_iff.2 fun r given supplies => ?_)
    cases r with
    | error e => cases supplies
    | ok entries =>
      -- The record of the clone is not among the databases of the source.
      have same : MemoryStore.children s.values (StoreKeys.databases source) =
          MemoryStore.children values (StoreKeys.databases source) := by
        refine MemoryStore.children_congr fun key reached => ?_
        rw [holding]
        refine Table.get?_insert_of_ne _ _ ?_
        rintro rfl
        obtain ⟨entry, found⟩ := Option.ne_none_iff_exists'.1 reached
        obtain ⟨rest, split, -⟩ := MemoryStore.child?_eq_some_iff.1 found
        refine StoreKeys.cluster_ne_database named' source (String.ofList rest) (String.toList_injective ?_)
        rw [split, StoreKeys.database, String.toList_append, String.toList_ofList]
      have names : StoreKeys.leaves entries = ds.map (·.database) := by
        rw [Surroundings.eq_of_gives given, same, listed.names]
      show Program.wp (supplied i) _ (copyEach source target inheritDeleted (StoreKeys.leaves entries)) _
      rw [names]
      refine wp_copyEach_supplied (s := s.after i (.list _) (.ok entries)) named named' other fun d member => ?_
      show s.values.get? _ = _
      rw [holding, Table.get?_insert_of_ne _ _ (StoreKeys.cluster_ne_database named' source d.database).symm]
      exact listed.stored d member
  · have silent : Program.Only (fun c => ∀ r, (Event.mk i c r).deed? = none) (copyDatabases source target inheritDeleted) :=
      calls_copyDatabases (fun _ => rfl) (fun _ _ => rfl) (fun _ _ _ => rfl) inheritDeleted
    refine Program.wp_of_only (D := supplied i) (I := fun t => t.deeds = s.deeds) (fun c K t silent same next => ?_) silent rfl
    refine supplied_iff.2 fun r _ _ => next r _ ?_
    rw [Surroundings.deeds_after, silent r]
    exact same

/-! ## What a clone is -/

/-- What a clone that succeeds has made: its record, by which statements its passwords were changed, which databases of the
    source were copied, and what was left alone. -/
structure Cloned (source : String) (request : CloneRequest) (s t : Surroundings) (outcome : Outcome Unit) (c : ClusterRecord)
    (port : UInt16) (managementPassword rootPassword : String) (root : Connection) (ds : List DatabaseRecord) : Prop where
  cloned : Source source request s.values c port
  record : t.values.get? (StoreKeys.cluster request.target) =
    some (c.cloned request.host port managementPassword rootPassword).encode
  active : (c.cloned request.host port managementPassword rootPassword).disabled = false
  leads : root.target = ({ c with host := request.host, port := port } : ClusterRecord).target .root c.database
  deeds : t.deeds = (rotation root c managementPassword rootPassword).reverse ++ s.deeds
  listed : Listed s.values source ds
  copied : ∀ d ∈ ds, chosen request.inheritDeleted d → t.values.get? (StoreKeys.database request.target d.database) =
    some ({ d with cluster := request.target } : DatabaseRecord).encode
  others : ∀ key, key ≠ StoreKeys.cluster request.target →
    (∀ d ∈ ds, chosen request.inheritDeleted d → key ≠ StoreKeys.database request.target d.database) →
    t.values.get? key = s.values.get? key
  kept : t.values.get? (StoreKeys.cluster source) = s.values.get? (StoreKeys.cluster source) ∧
    ∀ name, t.values.get? (StoreKeys.database source name) = s.values.get? (StoreKeys.database source name)
  tally : ∃ earlier, outcome.warnings = earlier ++ [.databasesInherited (ds.countP (chosen request.inheritDeleted)) ds.length]

variable {source : String} {request : CloneRequest}

theorem calls_tryManagement_harmless {record : ClusterRecord} : Op.Only (·.harmless) (tryManagement record) :=
  calls_tryManagement (fun _ => rfl) rfl fun _ => rfl

/-- A root connection that is opened for a record leads where the record says. -/
theorem wp_openDirect_done {record : ClusterRecord} :
    Op.wp (alone i) (fun root t => Done [] s t ∧ root.target = record.target .root record.database) (fun _ _ => True)
      (Connections.openDirect record .root) s := by
  refine (wp_bind_ofSql ..).2 (alone_iff.2 fun opened allowed => ?_)
  have done : Done [] s (s.after i (.connect (record.target .root record.database)) opened) := Surroundings.done_of_harmless rfl
  cases opened with
  | error e => trivial
  | ok root =>
    refine (wp_bind_lift ..).2 (alone_iff.2 fun _ _ => ?_)
    exact ⟨done.trans (Surroundings.done_of_harmless rfl), (allowed root rfl).1⟩

/-- Both passwords are changed on a connection that is closed afterwards. -/
theorem wp_rotateBoth_closed {root : Connection} {record : ClusterRecord} :
    Op.wp (alone i) (fun passwords t => Done (rotation root record passwords.1 passwords.2) s t) (fun _ _ => True)
      ((rotateBoth root record).andAlways (Connections.closeQuietly root)) s := by
  refine (wp_andAlways ..).2 (wp_mono wp_rotateBoth_done (fun passwords u rotated => ?_) fun _ u _ => ?_)
  · refine Program.wp_mono (fun _ v closed => ?_) (wp_harmless (Connections.calls_closeQuietly rfl))
    have told := rotated.trans closed
    rw [List.append_nil] at told
    exact told
  · exact Surroundings.wp_alone_any _ u

/-- Where the record of a clone was written and the databases of the source were copied after it, nothing else has
    changed. -/
theorem cloned_of_copies {outcome : Outcome Unit} {c : ClusterRecord} {port : UInt16}
    {managementPassword rootPassword : String} {root : Connection} {ds : List DatabaseRecord}
    (named : Names.isName source) (named' : Names.isName request.target)
    (vacant : s.values.get? (StoreKeys.cluster request.target) = none) (cloned : Source source request s.values c port)
    (leads : root.target = ({ c with host := request.host, port := port } : ClusterRecord).target .root c.database)
    (deeds : t.deeds = (rotation root c managementPassword rootPassword).reverse ++ s.deeds)
    (listed : Listed s.values source ds)
    (values : t.values = copies request.target (s.values.insert (StoreKeys.cluster request.target)
      (c.cloned request.host port managementPassword rootPassword).encode) (ds.filter (chosen request.inheritDeleted)))
    (tally : ∃ earlier, outcome.warnings = earlier ++
      [.databasesInherited (ds.countP (chosen request.inheritDeleted)) ds.length]) :
    Cloned source request s t outcome c port managementPassword rootPassword root ds := by
  have bare := Names.slash_not_mem named
  have bare' := Names.slash_not_mem named'
  have other := cloned.ne_target vacant
  have others (key : String) (apart : key ≠ StoreKeys.cluster request.target)
      (apart' : ∀ d ∈ ds, chosen request.inheritDeleted d → key ≠ StoreKeys.database request.target d.database) :
      t.values.get? key = s.values.get? key := by
    rw [values, get?_copies_of_ne fun d member => apart' d (List.mem_filter.1 member).1 (List.mem_filter.1 member).2,
      Table.get?_insert_of_ne _ _ apart]
  refine {
    cloned, leads, deeds, listed, others, tally
    record := ?_
    active := cloned.active
    copied := fun d member picked => ?_
    kept := ⟨others _ (fun same => other (StoreKeys.cluster_injective same)) fun d _ _ => ?_, fun name => ?_⟩ }
  · rw [values, get?_copies_of_ne fun d _ => StoreKeys.cluster_ne_own_database request.target d.database,
      Table.get?_insert_self]
  · rw [values]
    refine get?_copies_of_mem bare' (listed.once.sublist (List.filter_sublist.map _)) ?_
    exact List.mem_filter.2 ⟨member, picked⟩
  · exact StoreKeys.cluster_ne_database bare request.target d.database
  · refine others _ (StoreKeys.cluster_ne_database bare' source name).symm fun d _ _ same => ?_
    exact other (StoreKeys.database_injective_of_bare bare' bare same).1

theorem wp_cloneCluster_supplied (filed : WellFiled s.values) :
    Op.wp (supplied i)
      (fun outcome t => ∃ c port managementPassword rootPassword root ds,
        Cloned source request s t outcome c port managementPassword rootPassword root ds)
      (fun _ _ => True) (cloneCluster source request) s := by
  refine wp_seq (wp_supplied wp_checkClone) (fun record t checked => ?_) fun _ _ _ => trivial
  obtain ⟨same, ⟨named', vacant⟩, c, port, cloned, rfl⟩ := checked
  have named : Names.isName source := filed.named_cluster cloned.loads
  have checked : Done [] s t := .of_untouched same
  refine wp_seq (wp_supplied (Op.wp_harmless calls_tryManagement_harmless)) (fun warnings t tried => ?_)
    fun _ _ _ => trivial
  refine wp_seq_inContext (wp_supplied wp_openDirect_done) (fun root t opened => ?_) fun _ _ _ => trivial
  obtain ⟨opened, leads⟩ := opened
  refine wp_seq (wp_supplied wp_rotateBoth_closed) (fun passwords t rotated => ?_) fun _ _ _ => trivial
  have before : Done (rotation root c passwords.1 passwords.2) s t := ((checked.trans tried).trans opened).trans rotated
  refine (wp_bind_inContext ..).2 ((wp_ofStore _).2 (supplied_iff.2 fun stored _ supplies => ?_))
  cases stored with
  | error e => cases supplies
  | ok _ =>
    obtain ⟨ds, listed⟩ := exists_listed filed source
    let clone := c.cloned request.host port passwords.1 passwords.2
    let v := t.after i (.put (StoreKeys.cluster request.target) clone.encode) (.ok ())
    have holding : v.values = s.values.insert (StoreKeys.cluster request.target) clone.encode := by
      show t.values.insert _ _ = _
      rw [before.values]
    have silent : v.deeds = t.deeds := Surroundings.deeds_after
    refine wp_seq_lift (wp_copyDatabases_supplied (i := i) (s := v) (Names.slash_not_mem named)
      (Names.slash_not_mem named') (cloned.ne_target vacant) listed holding) fun tallied u copied => ?_
    obtain ⟨⟨rfl, values⟩, quiet⟩ := copied
    rw [holding] at values
    have deeds : u.deeds = (rotation root c passwords.1 passwords.2).reverse ++ s.deeds := by
      rw [quiet, silent, before.deeds]
    exact ⟨c, port, passwords.1, passwords.2, root, ds,
      cloned_of_copies named named' vacant cloned leads deeds listed values ⟨warnings, by rw [List.append_nil]⟩⟩

/-- Wherever a store has got to, a clone that succeeds while the store serves every call is made of the record of its source
    and of the databases that are listed there, and of nothing else. -/
theorem clone_of_attained {outcome : Outcome Unit} (attained : Surroundings.Attained s)
    (run : Program.Runs (Surroundings.Supplied i) (cloneCluster source request).run s (.ok outcome) t) :
    ∃ c port managementPassword rootPassword root ds,
      Cloned source request s t outcome c port managementPassword rootPassword root ds :=
  Program.wp_demonic_iff.1 (wp_cloneCluster_supplied attained.wellFiled) (.ok outcome) t run

/-- Where nothing fails, an active cluster can be cloned to where there is none. -/
theorem wp_smooth_cloneCluster {c : ClusterRecord} {port : UInt16} (named' : Names.isName request.target)
    (hosted : request.host.isEmpty = false) (cloned : Source source request s.values c port)
    (vacant : s.values.get? (StoreKeys.cluster request.target) = none) :
    Op.wp (smooth i) (fun _ _ => True) (fun _ _ => False) (cloneCluster source request) s := by
  have filled : request.target.isEmpty = false := by
    refine Bool.eq_false_iff.2 fun empty => ?_
    rw [String.isEmpty_iff.1 empty] at named'
    cases Names.not_isName_empty.symm.trans named'
  have working {α β : Type} {p : Op α} {f : α → Op β} {u : Surroundings}
      (work : Works (smooth i) (Holding u.values) (fun _ => False) p)
      (rest : ∀ a v, Op.wp (smooth i) (fun _ _ => True) (fun _ _ => False) (f a) v) :
      Op.wp (smooth i) (fun _ _ => True) (fun _ _ => False) (p >>= f) u :=
    wp_seq (work u rfl) (fun a v _ => rest a v) fun _ _ failed => failed.2
  refine (wp_bind ..).2 ?_
  unfold checkClone
  rw [hosted, cloned.ported]
  refine wp_load_reachable reachable_smooth cloned.loads fun t same => ?_
  dsimp only
  rw [cloned.active, filled]
  have vacant' : Loads ClusterRecord.decode t.values (StoreKeys.cluster request.target) none := by rwa [Loads, same.values]
  refine wp_passed (Command.check_of_isName named') (wp_load_reachable reachable_smooth vacant' fun u _ => ?_)
  refine working (works_tryManagement labour_smooth) fun warnings v => ?_
  refine working (works_inContext labour_smooth.toil (Connections.works_openUncached labour_smooth)) fun root v => ?_
  refine working (works_andAlways labour_smooth (works_rotateBoth labour_smooth.toil) Connections.only_closeQuietly)
    fun passwords v => ?_
  refine (wp_bind_inContext ..).2 ((wp_ofStore _).2 (reachable_smooth.call fun stored _ reply => ?_))
  cases stored with
  | error e => cases reply.2
  | ok _ => exact (wp_bind_lift ..).2 (Program.wp_demonic_iff.2 fun _ _ _ => trivial)

/-- A cluster with an active database is cloned, and the database with it. -/
theorem clone_copies_database : ∃ s t outcome c port managementPassword rootPassword root ds d, Surroundings.Attained s ∧
    Program.Runs (Surroundings.Supplied 0) (cloneCluster "main" { target := "copy", host := "replica" }).run s (.ok outcome) t ∧
    Cloned "main" { target := "copy", host := "replica" } s t outcome c port managementPassword rootPassword root ds ∧
    d ∈ ds ∧ d.database = "app" ∧ chosen false d := by
  have main : Names.isName "main" := by decide +kernel
  have app : Names.isName "app" := by decide +kernel
  have copy : Names.isName "copy" := by decide +kernel
  obtain ⟨s₁, c, session, stored, active, free, alone⟩ := Session.exists_sole_cluster
  obtain ⟨s, d, run, stored', active', still⟩ := Command.runs_registerDatabase (i := 0) {} main app stored active (free "app")
  have attained := Surroundings.attained_of_session (session.next run)
  have cloned : Source "main" { target := "copy", host := "replica" } s.values c 5432 := by
    refine ⟨?_, active, rfl⟩
    rw [Loads, still _ (StoreKeys.cluster_ne_own_database "main" "app")]
    exact stored
  have vacant : s.values.get? (StoreKeys.cluster "copy") = none :=
    (still _ (StoreKeys.cluster_ne_database (Names.slash_not_mem copy) "main" "app")).trans
      (alone "copy" copy (by decide +kernel))
  obtain ⟨reply, t, run'⟩ := Surroundings.exists_smooth_run (i := 0)
    (cloneCluster "main" { target := "copy", host := "replica" }).run s
  have ended := Program.wp_demonic_iff.1 (wp_smooth_cloneCluster copy rfl cloned vacant) reply t run'
  cases reply with
  | error e => exact ended.elim
  | ok outcome =>
    have supplied : Program.Runs (Surroundings.Supplied 0) _ s (Except.ok outcome) t :=
      Program.runs_wider (fun _ _ _ _ reply => ⟨reply.1, Surroundings.supplies_of_smooth reply⟩) run'
    obtain ⟨c, port, managementPassword, rootPassword, root, ds, result⟩ := clone_of_attained attained supplied
    obtain ⟨member, own⟩ := result.listed.all "app" d stored'
    refine ⟨s, t, outcome, c, port, managementPassword, rootPassword, root, ds, d, attained, supplied, result, member, own, ?_⟩
    simp [chosen, active']

end Replicas

end LeaseBroker
