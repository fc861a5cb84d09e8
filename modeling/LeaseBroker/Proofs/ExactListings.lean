import LeaseBroker.Proofs.Reclaiming
import LeaseBroker.Proofs.ServedOperations

/-!
Listings are exact. Whatever was done to a store, a listing names what has a
record, each name once and in order, and the lists of what can be reclaimed name
that of it which is deleted. Two things make it so. The keys of a store are
those of addresses made of names (`Address`), and a key tells its address, since
no name holds a slash or a colon. And no key ends with a slash, so that an entry
which does is a subtree and no record. What is listed under a cluster depends on
the databases alone, so they are found when the cluster is gone.
-/
namespace LeaseBroker

open Op
open Surroundings (alone served Served Untouched Runs)

variable {α : Type} {i : Nat} {s t : Surroundings} {values : Table String}

/-! ## Keys and addresses -/

namespace StoreKeys

theorem role_injective {a b : String} (h : role a = role b) : a = b := by
  have same := congrArg String.toList h
  simp only [role, String.toList_append] at same
  exact String.toList_injective (List.append_cancel_left same)

theorem tagSet_injective {a b : String} (h : tagSet a = tagSet b) : a = b := by
  have same := congrArg String.toList h
  simp only [tagSet, String.toList_append] at same
  exact String.toList_injective (List.append_cancel_left same)

end StoreKeys

/-- Two texts with a mark between them are told by the whole, where neither the first nor its like holds the mark. -/
theorem append_cons_injective {mark : Char} {as as' bs bs' : List Char} (bare : mark ∉ as) (bare' : mark ∉ as')
    (h : as ++ mark :: bs = as' ++ mark :: bs') : as = as' ∧ bs = bs' := by
  induction as generalizing as' with
  | nil =>
    cases as' with
    | nil => exact ⟨rfl, (List.cons.inj h).2⟩
    | cons a as' => exact absurd ((List.cons.inj h).1 ▸ List.mem_cons_self) bare'
  | cons a as ih =>
    cases as' with
    | nil => exact absurd ((List.cons.inj h).1 ▸ List.mem_cons_self) bare
    | cons a' as' =>
      obtain ⟨rfl, rest⟩ := List.cons.inj h
      obtain ⟨rfl, same⟩ := ih (fun later => bare (List.mem_cons_of_mem _ later))
        (fun later => bare' (List.mem_cons_of_mem _ later)) rest
      exact ⟨rfl, same⟩

/-- The id of a set of tags tells its target. -/
theorem TagRecord.idOf_injective {c c' : String} {d? d'? : Option String} (named : Names.isName c)
    (named' : Names.isName c') (h : idOf c d? = idOf c' d'?) : c = c' ∧ d? = d'? := by
  have same := congrArg String.toList h
  cases d? with
  | none =>
    cases d'? with
    | none =>
      simp only [idOf, String.toList_append] at same
      exact ⟨String.toList_injective (List.append_cancel_left same), rfl⟩
    | some d' => simp [idOf, String.toList_append] at same
  | some d =>
    cases d'? with
    | none => simp [idOf, String.toList_append] at same
    | some d' =>
      simp only [idOf, String.toList_append, List.append_assoc] at same
      obtain ⟨first, second⟩ := append_cons_injective (Names.colon_not_mem named) (Names.colon_not_mem named')
        (List.append_cancel_left same)
      exact ⟨String.toList_injective first, congrArg some (String.toList_injective second)⟩

/-- What a record may be about, by its names. -/
inductive Address where
  | cluster (name : String)
  | database (cluster name : String)
  | role (name : String)
  /-- The tags of a cluster, or of one of its databases. -/
  | tags (cluster : String) (database : Option String)
  deriving DecidableEq, Repr

namespace Address

def key : Address → String
  | cluster name => StoreKeys.cluster name
  | database c name => StoreKeys.database c name
  | role name => StoreKeys.role name
  | tags c database? => StoreKeys.tagSet (TagRecord.idOf c database?)

/-- All that it is called by are names. -/
def Named : Address → Prop
  | cluster name => Names.isName name
  | database c name => Names.isName c ∧ Names.isName name
  | role name => Names.isName name
  | tags c database? => Names.isName c ∧ ∀ name, database? = some name → Names.isName name

/-- Different addresses have different keys. -/
theorem key_injective {a b : Address} (named : a.Named) (named' : b.Named) (same : a.key = b.key) : a = b := by
  have apart {c : String} (valid : Names.isName c) := StoreKeys.cluster_ne_database (Names.slash_not_mem valid)
  cases a with
  | cluster name =>
    cases b with
    | cluster other => rw [StoreKeys.cluster_injective same]
    | database c d => exact absurd same (apart named c d)
    | role other => exact absurd same.symm (StoreKeys.role_ne_cluster _ _)
    | tags c d? => exact absurd same.symm (StoreKeys.tagSet_ne_cluster _ _)
  | database c d =>
    cases b with
    | cluster other => exact absurd same.symm (apart named' c d)
    | database c' d' =>
      obtain ⟨rfl, rfl⟩ := StoreKeys.database_injective_of_bare (Names.slash_not_mem named'.1)
        (Names.slash_not_mem named.1) same
      rfl
    | role other => exact absurd same.symm (StoreKeys.role_ne_database _ _ _)
    | tags c' d? => exact absurd same.symm (StoreKeys.tagSet_ne_database _ _ _)
  | role name =>
    cases b with
    | cluster other => exact absurd same (StoreKeys.role_ne_cluster _ _)
    | database c d => exact absurd same (StoreKeys.role_ne_database _ _ _)
    | role other => rw [StoreKeys.role_injective same]
    | tags c d? => exact absurd same.symm (StoreKeys.tagSet_ne_role _ _)
  | tags c d? =>
    cases b with
    | cluster other => exact absurd same (StoreKeys.tagSet_ne_cluster _ _)
    | database c' d' => exact absurd same (StoreKeys.tagSet_ne_database _ _ _)
    | role other => exact absurd same (StoreKeys.tagSet_ne_role _ _)
    | tags c' d'? =>
      obtain ⟨rfl, rfl⟩ := TagRecord.idOf_injective named.1 named'.1 (StoreKeys.tagSet_injective same)
      rfl

/-- The key of an address is one that a store can have. -/
theorem validKey {a : Address} (named : a.Named) : MemoryStore.validKey a.key := by
  cases a with
  | cluster name => exact MemoryStore.validKey_of_name named String.toList_append
  | database c d => exact MemoryStore.validKey_of_name named.2 String.toList_append
  | role name => exact MemoryStore.validKey_of_name named String.toList_append
  | tags c d? =>
    cases d? with
    | none =>
      have ends : (tags c none).key.toList = "meta/cluster/".toList ++ c.toList := by
        simp [key, StoreKeys.tagSet, StoreKeys.tagSets, TagRecord.idOf]
      exact MemoryStore.validKey_of_name named.1 ends
    | some d =>
      have ends : (tags c (some d)).key.toList = ("meta/database/" ++ c ++ ":").toList ++ d.toList := by
        simp [key, StoreKeys.tagSet, StoreKeys.tagSets, TagRecord.idOf]
      exact MemoryStore.validKey_of_name (named.2 d rfl) ends

end Address

/-- Where something may lie there is an address. -/
theorem Filed.address {key text : String} (filed : Filed key text) : ∃ a : Address, a.Named ∧ a.key = key := by
  cases filed with
  | @cluster name _ valid => exact ⟨.cluster name, valid, rfl⟩
  | @database cluster name _ valid valid' => exact ⟨.database cluster name, ⟨valid, valid'⟩, rfl⟩
  | @role name _ valid => exact ⟨.role name, valid, rfl⟩
  | @tags r fit => exact ⟨.tags r.cluster r.database, ⟨fit.cluster, fit.database⟩, rfl⟩

/-! ## Entries -/

namespace MemoryStore

theorem leaves_ascending (values : Table String) (above : String) :
    (StoreKeys.leaves (children values above)).Pairwise (· < ·) :=
  (children_ascending values above).sublist List.filter_sublist

theorem isSubtree_append (above : String) {entry : String} (subtree : StoreKeys.isSubtree entry) :
    StoreKeys.isSubtree (above ++ entry) := by
  have last : entry.toList.getLast? = some '/' := by simpa [StoreKeys.isSubtree] using subtree
  simp [StoreKeys.isSubtree, String.toList_append, List.getLast?_append, last]

end MemoryStore

namespace WellFiled

variable (filed : WellFiled values)
include filed

/-- An entry of a listing is a subtree, or else something lies under its key. -/
theorem isSubtree_iff {above entry : String} (member : entry ∈ MemoryStore.children values above) :
    StoreKeys.isSubtree entry ↔ values.get? (above ++ entry) = none := by
  constructor
  · intro subtree
    cases found : values.get? (above ++ entry) with
    | none => rfl
    | some text =>
      obtain ⟨a, named, same⟩ := (filed _ _ found).address
      have valid := Address.validKey named
      rw [same, MemoryStore.validKey, MemoryStore.isSubtree_append above subtree] at valid
      simp at valid
  · intro missing
    by_contra value
    have leaf : entry ∈ StoreKeys.leaves (MemoryStore.children values above) := by
      exact List.mem_filter.2 ⟨member, by simpa using value⟩
    obtain ⟨-, text, found⟩ := MemoryStore.mem_leaves_children_iff.1 leaf
    cases missing.symm.trans found

theorem named_role {name : String} {r : RoleRecord}
    (loads : Loads RoleRecord.decode values (StoreKeys.role name) (some r)) : Names.isName name := by
  obtain ⟨text, found, -⟩ := loads
  obtain ⟨a, named, same⟩ := (filed _ _ found).address
  cases a with
  | cluster => exact absurd same.symm (StoreKeys.role_ne_cluster _ _)
  | database => exact absurd same.symm (StoreKeys.role_ne_database _ _ _)
  | role other => exact StoreKeys.role_injective same ▸ named
  | tags => exact absurd same (StoreKeys.tagSet_ne_role _ _)

theorem mem_roles_iff {name : String} :
    name ∈ StoreKeys.leaves (MemoryStore.children values StoreKeys.roles) ↔
      ∃ r, Loads RoleRecord.decode values (StoreKeys.role name) (some r) :=
  MemoryStore.mem_leaves_iff_loads (fun _ => filed.readable_role name) fun _ loads =>
    Names.slash_not_mem (filed.named_role loads)

theorem mem_databases_iff {cluster name : String} :
    name ∈ StoreKeys.leaves (MemoryStore.children values (StoreKeys.databases cluster)) ↔
      ∃ d, Loads DatabaseRecord.decode values (StoreKeys.database cluster name) (some d) :=
  MemoryStore.mem_leaves_iff_loads (fun _ => filed.readable_database cluster name) fun _ loads =>
    Names.slash_not_mem (filed.named_database loads).2

end WellFiled

/-! ## Listings -/

/-- `p` gives what is as `Q` says. It changes nothing, and it fails only where the store does. -/
structure Reads (i : Nat) (s : Surroundings) (Q : α → Prop) (p : Op α) : Prop where
  given {a : α} {t : Surroundings} (run : Runs i p.run s (.ok a) t) : Q a
  unreached {e : BrokerError} {t : Surroundings} (run : Runs i p.run s (.error e) t) : Unreached e
  untouched {r : Except BrokerError α} {t : Surroundings} (run : Runs i p.run s r t) : s.Untouched t
  answered : ∃ a t, Runs i p.run s (.ok a) t
  served {r : Except BrokerError α} {t : Surroundings} (run : Program.Runs (Served i) p.run s r t) : ∃ a, r = .ok a

/-- What is served is neither refused nor does the store fail. -/
theorem Reads.of_wp {Q : α → Prop} {p : Op α} (exact : Op.wp (alone i) (fun a _ => Q a) (fun e _ => Unreached e) p s)
    (quiet : Op.Only (·.quiet) p) (complies : Op.Complies i s.values p) : Reads i s Q p := by
  have ends := Program.wp_demonic_iff.1 exact
  have wider {r t} (run : Program.Runs (Served i) p.run s r t) : Runs i p.run s r t :=
    Program.runs_wider (fun _ _ _ _ reply => Surroundings.reachable_served.answered reply) run
  have serves {r t} (run : Program.Runs (Served i) p.run s r t) : ∃ a, r = .ok a := by
    have heeded := Program.wp_demonic_iff.1 (complies s rfl) r t run
    have ended := ends r t (wider run)
    cases r with
    | ok a => exact ⟨a, rfl⟩
    | error e =>
      obtain ⟨why, rfl⟩ := heeded
      obtain ⟨failure, failed⟩ := ended
      cases failed
  obtain ⟨r, t, run⟩ := Surroundings.exists_served_run (i := i) p.run s
  obtain ⟨a, rfl⟩ := serves run
  exact {
    given := fun run => ends _ _ run
    unreached := fun run => ends _ _ run
    untouched := fun run => Program.wp_demonic_iff.1 (wp_quiet quiet) _ _ run
    answered := ⟨a, t, wider run⟩
    served := serves }

/-- `p` lists the names of which `P` holds, each once and in ascending order. It changes nothing, and it fails only where the
    store does. -/
structure Lists (i : Nat) (s : Surroundings) (P : String → Prop) (p : Op (List String)) : Prop where
  listed {names : List String} {t : Surroundings} (run : Runs i p.run s (.ok names) t) :
    names.Pairwise (· < ·) ∧ ∀ name, name ∈ names ↔ P name
  unreached {e : BrokerError} {t : Surroundings} (run : Runs i p.run s (.error e) t) : Unreached e
  untouched {r : Except BrokerError (List String)} {t : Surroundings} (run : Runs i p.run s r t) : s.Untouched t
  answered : ∃ names t, Runs i p.run s (.ok names) t
  served {r : Except BrokerError (List String)} {t : Surroundings} (run : Program.Runs (Served i) p.run s r t) :
    ∃ names, r = .ok names

namespace Lists

variable {P P' : String → Prop} {p : Op (List String)}

theorem of_wp (exact : Op.wp (alone i) (fun names _ => names.Pairwise (· < ·) ∧ ∀ name, name ∈ names ↔ P name)
      (fun e _ => Unreached e) p s)
    (quiet : Op.Only (·.quiet) p) (complies : Op.Complies i s.values p) : Lists i s P p := by
  have reads := Reads.of_wp exact quiet complies
  exact {
    listed := reads.given
    unreached := reads.unreached
    untouched := reads.untouched
    answered := reads.answered
    served := reads.served }

theorem congr (lists : Lists i s P p) (same : ∀ name, P name ↔ P' name) : Lists i s P' p :=
  { lists with listed := fun run => (lists.listed run).imp_right fun exact name => (exact name).trans (same name) }

end Lists

theorem lists_children {above : String} :
    Lists i s (· ∈ StoreKeys.leaves (MemoryStore.children s.values above))
      (do return StoreKeys.leaves (← ofStore (Program.list above))) := by
  refine .of_wp (wp_mono wp_children (fun names t listed => ?_) fun _ _ failed => failed) only_children
    (heeds_mono heeds_children fun _ _ _ => trivial)
  rw [listed.2]
  exact ⟨MemoryStore.leaves_ascending .., fun _ => Iff.rfl⟩

namespace Reclaim

variable {decode : String → Except String α} {key : String → String} {disabled : α → Bool}

/-- Nothing is added to the names, and their order stays. -/
theorem yields_deletedAmong {load : String → Op (Option α)} (names : List String) :
    Op.Yields (·.Sublist names) (deletedAmong load disabled names) := by
  induction names with
  | nil => exact yields_pure List.Sublist.slnil
  | cons name names ih =>
    refine yields_bind (yields_any _) fun a? _ => yields_bind ih fun rest sublist => yields_pure ?_
    by_cases deleted : a?.any disabled
    · rw [if_pos deleted]
      exact sublist.cons_cons name
    · rw [if_neg deleted]
      exact sublist.cons name

/-- Of the names that are listed, those stay whose records are deleted. -/
theorem lists_deletedAmong {above : String}
    (readable : ∀ name ∈ StoreKeys.leaves (MemoryStore.children s.values above), ∃ a?, Loads decode s.values (key name) a?) :
    Lists i s
      (fun name => name ∈ StoreKeys.leaves (MemoryStore.children s.values above) ∧
        ∃ a, Loads decode s.values (key name) (some a) ∧ disabled a = true)
      ((do return StoreKeys.leaves (← ofStore (Program.list above)) : Op (List String)) >>=
        deletedAmong (fun name => loadRecord decode (key name)) disabled) := by
  refine .of_wp ?_ (only_bind only_children fun _ => only_deletedAmong (fun _ => only_loadRecord) _) ?_
  · refine wp_seq wp_children (fun names t listed => ?_) fun _ _ failed => failed
    obtain ⟨same, rfl⟩ := listed
    rw [← same.values] at readable ⊢
    refine Program.wp_mono (fun r u ended => ?_) (Program.wp_yields (wp_deletedAmong readable) (yields_deletedAmong _))
    cases r with
    | ok left => exact ⟨(MemoryStore.leaves_ascending ..).sublist (ended.2 left rfl), ended.1⟩
    | error e => exact ended.1
  · refine heeds_bind heeds_children fun names listed => heeds_mono (heeds_deletedAmong ?_) fun _ _ _ => trivial
    rwa [listed]

end Reclaim

section
variable (filed : WellFiled s.values)
include filed

theorem Fleet.lists_clusters :
    Lists i s (fun name => ∃ c, Loads ClusterRecord.decode s.values (StoreKeys.cluster name) (some c)) listClusters :=
  lists_children.congr fun _ => filed.mem_leaves_iff

theorem Fleet.lists_databases (cluster : String) :
    Lists i s (fun name => ∃ d, Loads DatabaseRecord.decode s.values (StoreKeys.database cluster name) (some d))
      (listDatabases cluster) :=
  lists_children.congr fun _ => filed.mem_databases_iff

theorem RoleTemplates.lists_roles :
    Lists i s (fun name => ∃ r, Loads RoleRecord.decode s.values (StoreKeys.role name) (some r)) listRoles :=
  lists_children.congr fun _ => filed.mem_roles_iff

theorem Reclaim.lists_clusters :
    Lists i s (fun name => ∃ c, Loads ClusterRecord.decode s.values (StoreKeys.cluster name) (some c) ∧ c.disabled = true)
      listClusters := by
  refine (lists_deletedAmong fun name member => ?_).congr fun name => ?_
  · exact filed.readable_cluster (MemoryStore.mem_leaves_children_iff.1 member).1
  · exact ⟨And.right, fun ⟨c, loads, deleted⟩ => ⟨filed.mem_leaves_iff.2 ⟨c, loads⟩, c, loads, deleted⟩⟩

theorem Reclaim.lists_databases (cluster : String) :
    Lists i s
      (fun name => ∃ d, Loads DatabaseRecord.decode s.values (StoreKeys.database cluster name) (some d) ∧ d.disabled = true)
      (listDatabases cluster) := by
  refine (lists_deletedAmong fun name _ => filed.readable_database cluster name).congr fun name => ?_
  exact ⟨And.right, fun ⟨d, loads, deleted⟩ => ⟨filed.mem_databases_iff.2 ⟨d, loads⟩, d, loads, deleted⟩⟩

end

/-! ## Whatever was done -/

namespace Surroundings

/-- What commands and calls of a host may have brought about from an empty store, one after the other or at the same time,
    some of them broken off. -/
inductive Attained : Surroundings → Prop
  | start : Attained .blank
  | commands {s : Surroundings} {commands : Nat → Command} {q : Pool (Except BrokerError (Option Credential))}
      (before : Attained s) (run : Pool.Reaches ⟨s, fun i => (commands i).op.run⟩ q) : Attained q.shared
  | calls {s : Surroundings} {calls : Nat → HostCall} {q : Pool (Except BrokerError Response)} (before : Attained s)
      (run : Pool.Reaches ⟨s, fun i => (calls i).program⟩ q) : Attained q.shared

theorem Attained.wellFiled (attained : Attained s) : WellFiled s.values := by
  induction attained with
  | start => exact wellFiled_blank
  | @commands s commands q _ run ih =>
    have files (i : Nat) : Program.wp filing (fun _ _ => True) (commands i).op.run () :=
      Program.wp_mono (fun _ _ _ => trivial) ((commands i).files_op () trivial)
    exact Pool.wellFiled_of_reaches files ih run
  | @calls s calls q _ run ih => exact Pool.wellFiled_of_reaches (fun i => (calls i).files_program) ih run

theorem attained_of_reached (reached : HostCall.Reached s) : Attained s := by
  induction reached with
  | start => exact .start
  | calls _ run ih => exact .calls ih run

theorem attained_of_session {log : List Entry} (session : Session log s) : Attained s := by
  induction session with
  | start => exact .start
  | @next log s t command reply i _ run ih =>
    obtain ⟨q, reaches, rfl, -⟩ := Pool.reaches_of_runs (p := ⟨s, fun _ => command.op.run⟩) run
    exact .commands ih reaches

/-- Clusters and roles, and the databases of every cluster, whether it is registered or not, are listed exactly, and so are
    those that can be reclaimed. For different addresses have different keys, and an entry of a listing is a subtree just
    where nothing lies under its key. -/
theorem listings_exact (attained : Attained s) (i : Nat) :
    Lists i s (fun name => ∃ c, Loads ClusterRecord.decode s.values (StoreKeys.cluster name) (some c))
      Fleet.listClusters ∧
    (∀ cluster, Lists i s
      (fun name => ∃ d, Loads DatabaseRecord.decode s.values (StoreKeys.database cluster name) (some d))
      (Fleet.listDatabases cluster)) ∧
    Lists i s (fun name => ∃ r, Loads RoleRecord.decode s.values (StoreKeys.role name) (some r)) RoleTemplates.listRoles ∧
    Lists i s (fun name => ∃ c, Loads ClusterRecord.decode s.values (StoreKeys.cluster name) (some c) ∧ c.disabled = true)
      Reclaim.listClusters ∧
    (∀ cluster, Lists i s
      (fun name => ∃ d, Loads DatabaseRecord.decode s.values (StoreKeys.database cluster name) (some d) ∧ d.disabled = true)
      (Reclaim.listDatabases cluster)) ∧
    (∀ key text, s.values.get? key = some text → ∃ a : Address, a.Named ∧ a.key = key) ∧
    (∀ a b : Address, a.Named → b.Named → a.key = b.key → a = b) ∧
    ∀ above entry, entry ∈ MemoryStore.children s.values above →
      (StoreKeys.isSubtree entry ↔ s.values.get? (above ++ entry) = none) := by
  have filed := attained.wellFiled
  refine ⟨Fleet.lists_clusters filed, Fleet.lists_databases filed, RoleTemplates.lists_roles filed,
    Reclaim.lists_clusters filed, Reclaim.lists_databases filed, ?_, ?_, ?_⟩
  · exact fun key text found => (filed key text found).address
  · exact fun a b named named' same => Address.key_injective named named' same
  · exact fun above entry member => filed.isSubtree_iff member

/-- The deleted database of a cluster that was purged is still listed. -/
theorem purged_cluster_lists_database : ∃ s names names' t t', Attained s ∧
    s.values.get? (StoreKeys.cluster "main") = none ∧
    Runs 0 (Fleet.listDatabases "main").run s (.ok names) t ∧ "app" ∈ names ∧
    Runs 0 (Reclaim.listDatabases "main").run s (.ok names') t' ∧ "app" ∈ names' := by
  have main : Names.isName "main" := by decide +kernel
  have app : Names.isName "app" := by decide +kernel
  obtain ⟨s, d, reached, vacant, loads, deleted, -⟩ := HostCall.Reached.start.outlived main app rfl rfl
  have attained := attained_of_reached reached
  obtain ⟨-, databases, -, -, reclaimable, -⟩ := listings_exact attained 0
  obtain ⟨names, t, run⟩ := (databases "main").answered
  obtain ⟨names', t', run'⟩ := (reclaimable "main").answered
  exact ⟨s, names, names', t, t', attained, vacant, run, (((databases "main").listed run).2 "app").2 ⟨d, loads⟩,
    run', (((reclaimable "main").listed run').2 "app").2 ⟨d, loads, deleted⟩⟩

end Surroundings

end LeaseBroker
