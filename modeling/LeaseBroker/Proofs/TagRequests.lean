import LeaseBroker.Proofs.DatabaseLifecycles
import LeaseBroker.Proofs.TagMaps

/-!
What whoever asks for tags is told. The index answers from the map that goes
with all that was done before (`tag_index_refines_map`): to those who use it
directly, and to a host, for each call of a host is one command of the session
or is refused and changes nothing.
-/
namespace LeaseBroker

open Op
open Surroundings (Runs Served)

variable {i : Nat} {s t : Surroundings} {log : List Entry} {m : Labels}

/-! ## The index -/

/-- The index goes by the map: what it writes, erases, finds and lists is what the map says, and no other record is
    touched. -/
structure TagIndex.Mirrors (i : Nat) (m : Labels) (s : Surroundings) : Prop where
  held : m.Held s.values
  written {cluster : String} {database : Option String} {tags : Table String} {id : String} {t : Surroundings}
    (run : Runs i (write cluster database tags).run s (.ok id) t) :
    id = TagRecord.idOf cluster database ∧ (m.put cluster database tags).Held t.values ∧
      t.values = s.values.insert (StoreKeys.tagSet id) (TagRecord.mk cluster database tags).encode
  erased {id : String} {t : Surroundings} (run : Runs i (erase id).run s (.ok ()) t) :
    (m.drop id).Held t.values ∧ t.values = s.values.erase (StoreKeys.tagSet id)
  /-- Only what is no id at all cannot be erased. -/
  erasable {id : String} (given : id ≠ "") : (∃ t, Runs i (erase id).run s (.ok ()) t) ∧
    ∀ r t, Program.Runs (Served i) (erase id).run s r t → r = .ok ()
  unset {r : Except BrokerError Unit} {t : Surroundings} (run : Runs i (erase "").run s r t) :
    r = .error (.refused .tagIdUnset) ∧ t = s
  found {target : TagTarget} {query : Table String} (fine : checkTags query = .ok ()) :
    Reads i s (m.Finds target query) (lookup target query)
  refused {target : TagTarget} {query : Table String} {why : Refusal} {r : Except BrokerError (List String)}
    {t : Surroundings} (wrong : checkTags query = .error why) (run : Runs i (lookup target query).run s r t) :
    r = .error (.refused why) ∧ t = s
  listed : Reads i s m.Lists listing

/-- What an operation does a command does that does not keep its result. -/
theorem Op.runs_unkept {α : Type} {p : Op α} {r : Except BrokerError α} (run : Runs i p.run s r t) :
    Runs i p.unkept.run s (r.map fun _ => none) t := by
  have does : p.unkept.run = p.run >>= fun r => pure (r.map fun _ => (none : Option Credential)) := Op.run_map ..
  rw [does]
  exact Program.runs_map.2 ⟨r, run, rfl⟩

namespace TagIndex

/-- An id is erased where it is served. -/
theorem served_erase {id : String} (given : id ≠ "") {r : Except BrokerError Unit}
    (run : Program.Runs (Served i) (erase id).run s r t) : r = .ok () := by
  have filled : id.isEmpty = false := Bool.eq_false_iff.2 fun empty => given (String.isEmpty_iff.1 empty)
  unfold erase at run
  rw [filled] at run
  have erasing : Op.wp (Surroundings.served i) (fun _ _ => True) (fun _ _ => False)
      (ofStore (Program.delete (StoreKeys.tagSet id))) s := by
    refine (wp_ofStore _).2 (Surroundings.served_iff.2 fun r _ serves => ?_)
    cases r with
    | error e => cases serves
    | ok done => trivial
  have ended := Program.wp_demonic_iff.1 erasing _ _ run
  cases r with
  | ok done => rfl
  | error e => exact ended.elim

theorem erasable {id : String} (given : id ≠ "") : ∃ t, Runs i (erase id).run s (.ok ()) t := by
  obtain ⟨r, t, run⟩ := Surroundings.exists_served_run (i := i) (erase id).run s
  obtain rfl := served_erase given run
  exact ⟨t, Program.runs_wider (fun _ _ _ _ reply => Surroundings.reachable_served.answered reply) run⟩

theorem mirrors_of_session (session : Session log s) : Mirrors i (Labels.of log) s where
  held := session.labelled
  written {cluster database tags id t} run := by
    obtain ⟨rfl, written⟩ := Program.wp_demonic_iff.1 wp_write _ _ run
    have next : Runs i (Command.writeTags cluster database tags).op.run s (.ok none) t := runs_unkept run
    exact ⟨rfl, (session.next next).labelled, written⟩
  erased {id t} run := by
    have next : Runs i (Command.eraseTags id).op.run s (.ok none) t := runs_unkept run
    exact ⟨(session.next next).labelled, Program.wp_demonic_iff.1 wp_erase _ _ run⟩
  erasable given := ⟨TagIndex.erasable given, fun _ _ run => served_erase given run⟩
  unset run := by
    cases run with
    | done => exact ⟨rfl, rfl⟩
  found fine := reads_lookup session.labelled session.wellFiled fine
  refused wrong run := by
    unfold lookup at run
    rw [wrong] at run
    cases run with
    | done => exact ⟨rfl, rfl⟩
  listed := reads_listing session.labelled session.wellFiled

end TagIndex

/-! ## Calls of a host -/

namespace Router

/-- The response with the id of tags that were written. -/
def labelled (id : String) : Response := .ofData (Table.ofList [("id", .string id)])

/-- The response with all tags there are. -/
def inventory (listing : Table (Table String)) : Response :=
  .ofData (Table.ofList [("keys", .strings listing.keys),
    ("key_info", .ofTable (listing.map fun tags => .ofTable (tags.map .string)))])

section
variable {settings : Settings} {r : Request}

theorem writeTags_of_asked {data : Fields.Data} {cluster : String} {database : Option String} {tags : Table String}
    (asks : askedTags data = .ok (.writeTags cluster database tags)) :
    writeTags data = (do return labelled (← TagIndex.write cluster database tags)) := by
  unfold askedTags at asks
  obtain ⟨cluster?, inCluster, asks⟩ := Except.bind_eq_ok.1 asks
  cases cluster? with
  | none => cases asks
  | some c =>
    obtain ⟨database?, inDatabase, asks⟩ := Except.bind_eq_ok.1 asks
    obtain ⟨pairs, inData, asks⟩ := Except.bind_eq_ok.1 asks
    cases asks
    unfold writeTags
    rw [inCluster, inDatabase, inData]
    rfl

theorem dispatch_of_write {cluster : String} {database : Option String} {tags : Table String}
    (asks : asked settings r = .ok (.writeTags cluster database tags)) :
    dispatch settings r = (do return labelled (← TagIndex.write cluster database tags)) := by
  obtain ⟨valid, routed, updates, given⟩ := askedBy_of_asked asks
  rw [← writeTags_of_asked given]
  unfold dispatch
  dsimp only
  rw [valid, routed, updates]
  rfl

theorem dispatch_of_erase {id : String} (asks : asked settings r = .ok (.eraseTags id)) :
    dispatch settings r = (do let _ ← TagIndex.erase id; return {}) := by
  obtain ⟨valid, routed, deletes⟩ := askedBy_of_asked asks
  unfold dispatch
  dsimp only
  rw [valid, routed, deletes]
  rfl

theorem dispatch_of_lookup {target : TagTarget} {query : Table String}
    (asks : asked settings r = .ok (.inquire (.tagged target query))) :
    dispatch settings r = (do return .ofKeys (← TagIndex.lookup target query)) := by
  obtain ⟨valid, routed, reads, given⟩ := askedBy_of_asked asks
  unfold dispatch
  dsimp only
  rw [valid, routed, reads]
  show lookupTags r.data = _
  unfold lookupTags
  rw [given]
  rfl

theorem dispatch_of_listing (asks : asked settings r = .ok (.inquire .tags)) :
    dispatch settings r = (do return inventory (← TagIndex.listing)) := by
  obtain ⟨valid, routed, lists⟩ := askedBy_of_asked asks
  unfold dispatch
  dsimp only
  rw [valid, routed, lists]
  rfl

/-- A path is cut after its first part, and further on where it has slashes. -/
theorem segments_append {first rest : String} (filled : first ≠ "") (bare : '/' ∉ first.toList) (given : rest ≠ "")
    (ends : rest.toList.getLast? ≠ some '/') :
    segments (first ++ "/" ++ rest) = first :: (Search.cut '/' rest.toList).map String.ofList := by
  have chars : (first ++ "/" ++ rest).toList = first.toList ++ '/' :: rest.toList := by simp
  obtain ⟨initial, begun⟩ : ∃ c, first.toList.head? = some c :=
    Option.isSome_iff_exists.1 (List.isSome_head?.2 fun none => filled (String.toList_injective none))
  obtain ⟨last, final⟩ : ∃ c, rest.toList.getLast? = some c :=
    Option.isSome_iff_exists.1 (List.getLast?_isSome.2 fun none => given (String.toList_injective none))
  have whole : Blank.strip (· == '/') (first.toList ++ '/' :: rest.toList) = first.toList ++ '/' :: rest.toList := by
    refine Blank.strip_of_ends (fun c begins => ?_) fun c closes => ?_
    · rw [List.head?_append, begun] at begins
      cases begins
      exact beq_eq_false_iff_ne.2 fun same => bare (same ▸ List.mem_of_head? begun)
    · rw [List.getLast?_append, List.getLast?_cons, final] at closes
      cases closes
      exact beq_eq_false_iff_ne.2 fun same => ends (same ▸ final)
  rw [segments, chars, whole]
  split
  · next empty => simp at empty
  · rw [Search.cut_append bare, List.map_cons, String.ofList_toList]

/-- A host can erase any id, with or without slashes in it, but for one that ends with a slash. -/
theorem asked_erase {id : String} (path : r.path = "metadata/" ++ id) (deletes : r.operation = .delete) (given : id ≠ "")
    (ends : id.toList.getLast? ≠ some '/') : asked settings r = .ok (.eraseTags id) := by
  have parts : segments r.path = "metadata" :: (Search.cut '/' id.toList).map String.ofList := by
    have lead : "metadata/" = "metadata" ++ "/" := by decide
    rw [path, lead, segments_append (by decide) (by decide) given ends]
  have joined : Search.join "/" ((Search.cut '/' id.toList).map String.ofList) = id :=
    (Search.join_cut id.toList).trans String.ofList_toList
  obtain ⟨piece, pieces, cuts⟩ := List.exists_cons_of_ne_nil (Search.cut_ne_nil '/' id.toList)
  rw [cuts] at parts joined
  unfold asked
  rw [parts]
  unfold askedOf
  rw [deletes]
  exact congrArg (fun id => Except.ok (Command.eraseTags id)) joined

end

end Router

/-- What a host is told that asks for a command about tags, if nothing goes wrong. -/
def Labels.Answers (m : Labels) : Command → Response → Prop
  | .writeTags cluster database _, told => told = Router.labelled (TagRecord.idOf cluster database)
  | .eraseTags _, told => told = {}
  | .inquire (.tagged target query), told => ∃ names, m.Finds target query names ∧ told = .ofKeys names
  | .inquire .tags, told => ∃ listing, m.Lists listing ∧ told = Router.inventory listing
  | _, _ => True

namespace HostCall

variable {call : HostCall} {command : Command} {response : Response}

/-- A host is told what the map says. -/
theorem answers (mirrors : TagIndex.Mirrors i m s) (asks : call.asked = .ok command)
    (run : Runs i call.program s (.ok response) t) (plain : response.error = none) : m.Answers command response := by
  cases call with
  | handle settings request =>
    cases command with
    | writeTags cluster database tags =>
      obtain ⟨id, ran, rfl⟩ := (runs_handle (Router.dispatch_of_write asks) fun _ => rfl).1 ⟨run, plain⟩
      exact congrArg Router.labelled (mirrors.written ran).1
    | eraseTags id =>
      obtain ⟨done, -, same⟩ := (runs_handle (Router.dispatch_of_erase asks) fun _ => rfl).1 ⟨run, plain⟩
      exact same
    | inquire about =>
      cases about with
      | tagged target query =>
        obtain ⟨names, ran, rfl⟩ := (runs_handle (Router.dispatch_of_lookup asks) fun _ => rfl).1 ⟨run, plain⟩
        cases checked : checkTags query with
        | ok u => exact ⟨names, (mirrors.found checked).given ran, rfl⟩
        | error why => cases (mirrors.refused checked ran).1
      | tags =>
        obtain ⟨listing, ran, rfl⟩ := (runs_handle (Router.dispatch_of_listing asks) fun _ => rfl).1 ⟨run, plain⟩
        exact ⟨listing, mirrors.listed.given ran, rfl⟩
      | _ => trivial
    | _ => trivial
  | renew settings internal increment issued =>
    obtain ⟨secret, -, same⟩ := Except.bind_eq_ok.1 asks
    cases same
    trivial
  | revoke internal =>
    obtain ⟨secret, -, same⟩ := Except.bind_eq_ok.1 asks
    cases same
    trivial

end HostCall

/-! ## Sessions -/

/-- After any session the index goes by the map of what was done, which only writing and erasing tags change: a target may
    be deleted or purged. A call of a host, whatever it asks for, is one command more, of which the host is told what the
    map says, or it is refused and changes nothing. A host can ask to erase any id that it can write at the end of a
    path. -/
theorem tag_index_refines_map (session : Session log s) (i : Nat) :
    TagIndex.Mirrors i (Labels.of log) s ∧
    (∀ call told t, Runs i (HostCall.program call) s told t →
      (∃ why, call.asked = .error why ∧ told = .ok (.ofRefusal why) ∧ t = s) ∨
      ∃ command reply, call.asked = .ok command ∧ Session (⟨s, command, reply⟩ :: log) t ∧ Tells reply told ∧
        ∀ response, told = .ok response → response.error = none → (Labels.of log).Answers command response) ∧
    ∀ settings r id, r.path = "metadata/" ++ id → r.operation = .delete → id ≠ "" → id.toList.getLast? ≠ some '/' →
      (HostCall.handle settings r).asked = .ok (.eraseTags id) := by
  have mirrors := TagIndex.mirrors_of_session (i := i) session
  refine ⟨mirrors, fun call told t run => ?_, fun settings r id => Router.asked_erase⟩
  cases asks : call.asked with
  | error why => exact .inl ⟨why, rfl, HostCall.runs_unasked asks run⟩
  | ok command =>
    obtain ⟨reply, ran, tells⟩ := HostCall.runs_asked asks run
    refine .inr ⟨command, reply, rfl, session.next ran, tells, ?_⟩
    rintro response rfl plain
    exact HostCall.answers mirrors asks run plain

theorem Labels.has_put_empty {cluster : String} {database : Option String} {tags : Table String} {r : TagRecord} :
    (empty.put cluster database tags).Has r ↔ r = ⟨cluster, database, tags⟩ := by
  obtain ⟨c, d, own⟩ := r
  by_cases target : c = cluster ∧ d = database
  · rw [Has, put, if_pos target]
    obtain ⟨rfl, rfl⟩ := target
    simp [eq_comm]
  · rw [Has, put, if_neg target]
    constructor
    · intro has
      cases has
    · intro same
      cases same
      exact absurd ⟨rfl, rfl⟩ target

namespace Session

def exampleTags : Table String := Table.ofList [("env", "prod")]

theorem check_exampleTags : checkTags exampleTags = .ok () := by decide +kernel

/-- A cluster can be given tags. -/
theorem runs_writeTags {cluster : String} {tags : Table String} {c : ClusterRecord}
    (stored : Loads ClusterRecord.decode s.values (StoreKeys.cluster cluster) (some c)) (fine : checkTags tags = .ok ()) :
    ∃ t, Runs i (Command.writeTags cluster none tags).op.run s (.ok none) t ∧
      ∀ key, key ≠ StoreKeys.tagSet (TagRecord.idOf cluster none) → t.values.get? key = s.values.get? key := by
  let record : TagRecord := { cluster, database := none, tags }
  have written : Op.wp (Surroundings.lucky i)
      (fun _ => Written (StoreKeys.tagSet record.id) (· ≠ StoreKeys.tagSet record.id) s.values (some record.encode))
      (fun _ _ => False) (TagIndex.write cluster none tags) s := by
    refine wp_lucky_load stored fun u same => wp_passed fine ?_
    exact wp_lucky_write (wp_lucky_put (fun other => other rfl) fun _ _ => congrArg (Table.get? · _) same) fun _ => closes_pure _
  obtain ⟨t, run, -, still⟩ := Command.runs_of_unkept (i := i) (rfl : (Command.writeTags cluster none tags).op = _) written
  exact ⟨t, run, still⟩

/-- A cluster is registered, given tags, deleted and purged. -/
theorem exists_tags_left : ∃ log s, Session log s ∧ Labels.of log = Labels.empty.put "main" none exampleTags ∧
    s.values.get? (StoreKeys.cluster "main") = none := by
  obtain ⟨s₁, c, session, stored, active, -⟩ := exists_cluster
  obtain ⟨s₂, run₂, still⟩ := runs_writeTags (i := 0) stored check_exampleTags
  have stored₂ : Loads ClusterRecord.decode s₂.values (StoreKeys.cluster "main") (some c) := by
    rwa [Loads, still _ (StoreKeys.tagSet_ne_cluster _ _).symm]
  obtain ⟨s₃, run₃, left⟩ := Command.runs_deleteCluster (i := 0) stored₂ active
  obtain ⟨s₄, run₄, gone⟩ := Command.runs_purgeCluster (i := 0) (loads_encoded left) rfl
  exact ⟨_, s₄, ((session.next run₂).next run₃).next run₄, rfl, gone⟩

end Session

/-- The tags of a cluster are found when it is deleted and purged. -/
theorem purged_cluster_found_by_tags : ∃ log s t, Session log s ∧ s.values.get? (StoreKeys.cluster "main") = none ∧
    Runs 0 (TagIndex.lookup .cluster Session.exampleTags).run s (.ok ["main"]) t := by
  obtain ⟨log, s, session, map, gone⟩ := Session.exists_tags_left
  have reads : Reads 0 s ((Labels.of log).Finds .cluster Session.exampleTags)
      (TagIndex.lookup .cluster Session.exampleTags) :=
    (tag_index_refines_map session 0).1.found Session.check_exampleTags
  obtain ⟨names, t, run⟩ := reads.answered
  obtain ⟨distinct, found⟩ := reads.given run
  rw [map] at found
  have only (name : String) : name ∈ names ↔ name ∈ ["main"] := by
    rw [found, List.mem_singleton]
    constructor
    · rintro ⟨r, has, -, named, -⟩
      rw [Labels.has_put_empty] at has
      subst has
      exact named.symm
    · rintro rfl
      exact ⟨⟨"main", none, Session.exampleTags⟩, Labels.has_put_empty.2 rfl, rfl, rfl, fun _ _ held => held⟩
  obtain rfl := List.perm_singleton.1 ((List.perm_ext_iff_of_nodup distinct (List.nodup_singleton _)).2 only)
  exact ⟨log, s, t, session, gone, run⟩

end LeaseBroker
