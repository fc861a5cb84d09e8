import LeaseBroker.Proofs.Interleaving
import LeaseBroker.Proofs.Issuances
import LeaseBroker.Proofs.LoginNames
import LeaseBroker.Proofs.RoleStatements
import Mathlib.Data.List.Nodup

/-!
Which roles issued credentials log in as, while any other programs run. An issue
among others makes its login of a UUID that it drew, and runs its statements for
this login (`wp_issueCredential_among`). So credentials have different logins
where the UUIDs are different. The roles are different too, except where what the
logins have of the display names ends at a NUL (`principals_of_issues`).
-/
namespace LeaseBroker

open Op
open Surroundings (alone)
open Template (render)

/-- The UUID that was drawn, after the one who drew it. -/
def Event.uuid? : Event → Option (Nat × Uuid)
  | ⟨i, .uuid, id⟩ => some (i, id)
  | _ => none

/-- All UUIDs that were ever drawn, the latest first. -/
def Surroundings.uuids (s : Surroundings) : List (Nat × Uuid) := s.history.filterMap Event.uuid?

theorem Surroundings.mem_uuids {s : Surroundings} {i : Nat} {id : Uuid} (h : Event.mk i .uuid id ∈ s.history) :
    (i, id) ∈ s.uuids := List.mem_filterMap.2 ⟨_, h, rfl⟩

/-! ## Programs among others -/

namespace Pool

/-- For a program of caller `i` among others, whatever they do. -/
abbrev among (i : Nat) : Program.Demands Surroundings :=
  amid (fun _ => True) (fun _ => True) (fun _ s t => s.history <:+ t.history) i

variable {i : Nat} {s : Surroundings}

theorem among_of {c : Call} {K : c.Answer → Surroundings → Prop}
    (h : ∀ t : Surroundings, s.history <:+ t.history → ∀ r, t.Allows c r → K r (t.after i c r)) : among i c K s :=
  fun t _ grown r allowed _ => ⟨trivial, fun _ _ => List.suffix_cons .., h t grown r allowed⟩

/-- Whatever a program does, what has happened stays in the history. -/
theorem wp_grown {α : Type} {past : List Event} (before : past <:+ s.history) (p : Program α) :
    Program.wp (among i) (fun _ t => past <:+ t.history) p s := by
  induction p generalizing s with
  | done a => exact before
  | call c next ih =>
    exact among_of fun t grown r _ => ih r ((before.trans grown).trans (List.suffix_cons ..))

theorem wp_op_grown {α : Type} {past : List Event} (before : past <:+ s.history) (p : Op α) :
    Op.wp (among i) (fun _ t => past <:+ t.history) (fun _ _ => True) p s := by
  refine Program.wp_mono (fun r t grown => ?_) (wp_grown before p.run)
  cases r with
  | ok a => exact grown
  | error e => trivial

/-- A record that is loaded was read by a call of this caller. -/
theorem wp_load_among {α : Type} {decode : String → Except String α} {key : String} {past : List Event}
    (before : past <:+ s.history) :
    Op.wp (among i)
      (fun a? t => past <:+ t.history ∧
        ∀ a, a? = some a → ∃ text, Event.mk i (.fetch key) (.ok (some text)) ∈ t.history ∧ decode text = .ok a)
      (fun _ _ => True) (loadRecord decode key) s := by
  refine (wp_bind_ofStore ..).2 (among_of fun t grown r _ => ?_)
  have later : past <:+ (t.after i (.fetch key) r).history := (before.trans grown).trans (List.suffix_cons ..)
  cases r with
  | error e => trivial
  | ok text? =>
    cases text? with
    | none => exact ⟨later, nofun⟩
    | some text =>
      dsimp only [Program.wp, Except.mapError, Op.Ended]
      split
      · rename_i record decoded
        refine ⟨later, ?_⟩
        rintro _ ⟨⟩
        exact ⟨text, List.mem_cons_self, decoded⟩
      · trivial

theorem wp_runEach_among {tr : Transaction} {bindings : Bindings} {past : List Event} (before : past <:+ s.history)
    (templates : List String) :
    Program.wp (among i)
      (fun r t => past <:+ t.history ∧
        (r = .ok () → ∀ template ∈ templates, Event.mk i (.run tr (render template bindings)) (.ok ()) ∈ t.history))
      (Fleet.runEach tr bindings templates) s := by
  induction templates generalizing s past with
  | nil => exact ⟨before, fun _ => nofun⟩
  | cons template rest ih =>
    refine (Program.wp_bind ..).2 (among_of fun t grown r _ => ?_)
    cases r with
    | error e => exact ⟨(before.trans grown).trans (List.suffix_cons ..), nofun⟩
    | ok _ =>
      show Program.wp (among i) _ (Fleet.runEach tr bindings rest) _
      refine Program.wp_mono (fun r u ended => ?_) (ih (List.suffix_refl _))
      obtain ⟨later, ran⟩ := ended
      refine ⟨((before.trans grown).trans (List.suffix_cons ..)).trans later, fun fine template' member => ?_⟩
      rcases List.mem_cons.1 member with rfl | member
      · exact later.subset List.mem_cons_self
      · exact ran fine template' member

end Pool

namespace Credentials

/-- A credential was issued by caller `i`: its login was made of the display name and a UUID that this caller drew, and
    the statements that its role had then have run in one transaction, with this login as their user. -/
structure IssuedBy (i : Nat) (displayName : String) (credential : Credential) (t : Surroundings) : Prop where
  login : ∃ id, (i, id) ∈ t.uuids ∧ credential.username = Names.login displayName id
  secret : credential.secret.username = credential.username
  made : ∃ text r bindings tr,
    Event.mk i (.fetch (StoreKeys.role credential.secret.role)) (.ok (some text)) ∈ t.history ∧
      RoleRecord.decode text = .ok r ∧ bindings.get? "user" = some (.identifier credential.username) ∧
        ∀ sql ∈ makers r bindings, Event.mk i (.run tr sql) (.ok ()) ∈ t.history

variable {i : Nat} {s t : Surroundings} {settings : Settings} {cluster name role displayName : String}

theorem IssuedBy.later {credential : Credential} (h : IssuedBy i displayName credential s)
    (grown : s.history <:+ t.history) : IssuedBy i displayName credential t := by
  obtain ⟨⟨id, drawn, same⟩, secret, text, r, bindings, tr, read, decoded, user, ran⟩ := h
  refine ⟨⟨id, (grown.filterMap _).subset drawn, same⟩, secret, text, r, bindings, tr, grown.subset read, decoded, user, ?_⟩
  exact fun sql member => grown.subset (ran sql member)

open Pool (among_of wp_grown wp_op_grown wp_load_among wp_runEach_among)

/-- If an issue among others returns a credential, it issued it. -/
theorem wp_issueCredential_among : Op.wp (Pool.among i) (IssuedBy i displayName) (fun _ _ => True)
    (issueCredential settings cluster name role displayName) s := by
  refine wp_found (wp_load_among (List.suffix_refl _)) (fun _ _ => trivial) (fun c t _ => ?_) fun _ _ _ => trivial
  refine wp_unless trivial fun _ => ?_
  refine wp_found (wp_load_among (List.suffix_refl _)) (fun _ _ => trivial) (fun d u _ => ?_) fun _ _ _ => trivial
  refine wp_unless trivial fun _ => ?_
  refine wp_found (wp_load_among (List.suffix_refl _)) (fun _ _ => trivial) (fun r v loaded => ?_) fun _ _ _ => trivial
  obtain ⟨text, read, decoded⟩ := loaded.2 r rfl
  -- From here on the history holds the role that was read and the UUID that was drawn.
  refine (wp_bind_lift ..).2 (among_of fun w grown id _ => ?_)
  replace read := List.mem_cons_of_mem (Event.mk i .uuid id) (grown.subset read)
  have drawn : Event.mk i .uuid id ∈ (w.after i .uuid id).history := List.mem_cons_self
  refine (wp_bind_lift ..).2 (among_of fun x since password _ => ?_)
  refine (wp_bind_lift ..).2 (among_of fun y grown now _ => ?_)
  replace since := since.trans ((List.suffix_cons ..).trans grown)
  refine wp_seq (wp_op_grown (List.suffix_cons ..) _) (fun tr z grown => ?_) fun _ _ _ => trivial
  replace since := since.trans grown
  refine wp_seq_lift (wp_runEach_among (List.suffix_refl _) _) fun result z' ended => ?_
  obtain ⟨grown, ran⟩ := ended
  replace since := since.trans grown
  cases result with
  | error e =>
    exact wp_seq_lift (wp_grown (List.suffix_refl _) _) fun _ _ _ => trivial
  | ok _ =>
    replace ran := ran rfl
    refine wp_seq (wp_op_grown (List.suffix_refl _) _) (fun _ a grown => ?_) fun _ _ _ => trivial
    refine wp_seq (wp_op_grown grown _) (fun _ b grown => ?_) fun _ _ _ => trivial
    replace since := since.trans grown
    refine ⟨⟨id, Surroundings.mem_uuids (since.subset drawn), rfl⟩, rfl, text, r, issueBindings (Names.login displayName id)
      password (now.after ((issueTerm r now).grant settings.lease).value).text d.objectsOwner c.managementRole, tr,
      since.subset read, decoded, (get?_issueBindings ..).1, fun sql made => ?_⟩
    rw [← map_render_trimmed] at made
    obtain ⟨template, member, rfl⟩ := List.mem_map.1 made
    exact grown.subset (ran template member)

/-! ## Issues in a run of many programs -/

/-- In a run from `p` to `q`, caller `i` asked for a credential for a display name, and was given this one. -/
structure Granted (p q : Pool (Except BrokerError (Option Credential))) (i : Nat) (displayName : String)
    (credential : Credential) : Prop where
  asked : ∃ settings cluster name role,
    p.tasks i = (Command.issueCredential settings cluster name role displayName).op.run
  given : q.tasks i = .done (.ok (some credential))

variable {p q : Pool (Except BrokerError (Option Credential))}

theorem Granted.issued {credential : Credential} (run : Pool.Reaches p q) (h : Granted p q i displayName credential) :
    IssuedBy i displayName credential q.shared := by
  obtain ⟨⟨settings, cluster, name, role, asked⟩, given⟩ := h
  have issue : Program.wp (Pool.among i) (fun reply t => ∀ a, reply = .ok (some a) → IssuedBy i displayName a t)
      (p.tasks i) p.shared := by
    rw [asked]
    have returns : Op.wp (Pool.among i) (fun a? t => ∀ a, a? = some a → IssuedBy i displayName a t) (fun _ _ => True)
        (Command.issueCredential settings cluster name role displayName).op p.shared := by
      refine wp_seq wp_issueCredential_among (fun a t issued => ?_) fun _ _ => id
      rintro _ ⟨⟩
      exact issued
    refine Program.wp_mono (fun reply t ended a same => ?_) returns
    subst same
    exact ended a rfl
  have others (j : Nat) : Program.wp (Pool.among j) (fun _ _ => True) (p.tasks j) p.shared :=
    Program.wp_mono (fun _ _ _ => trivial) (wp_grown (List.suffix_refl _) _)
  have lasts (reply : Except BrokerError (Option Credential)) (s t : Surroundings) (grown : s.history <:+ t.history)
      (issued : ∀ a, reply = .ok (some a) → IssuedBy i displayName a s) (a : Credential) (same : reply = .ok (some a)) :
      IssuedBy i displayName a t := (issued a same).later grown
  obtain ⟨-, ended⟩ := run.within.safe_own (M := fun _ s t => s.history <:+ t.history) (fun _ _ => List.suffix_refl _)
    (fun _ _ _ _ => List.IsSuffix.trans) lasts trivial issue others
  rw [given] at ended
  exact ended credential rfl

open Names (kept untilNul principal) in
/-- The role of a credential is its login, if what that has of the display name has no NUL, or else what is before the
    NUL. Credentials whose UUIDs are different have different logins, but one role where both logins end at a NUL with
    the same before it. -/
theorem principals_of_issues (run : Pool.Reaches p q) :
    (∀ i displayName a, Granted p q i displayName a → IssuedBy i displayName a q.shared ∧
      principal a.username =
        some (if '\x00' ∈ kept displayName then String.ofList (untilNul (kept displayName)) else a.username) ∧
      (principal a.username = some a.username ↔ '\x00' ∉ kept displayName)) ∧
    ((q.shared.uuids.map Prod.snd).Nodup → ∀ i j displayName displayName' a b, i ≠ j →
      Granted p q i displayName a → Granted p q j displayName' b →
        a.username ≠ b.username ∧ (principal a.username = principal b.username ↔
          '\x00' ∈ kept displayName ∧ '\x00' ∈ kept displayName' ∧ untilNul (kept displayName) = untilNul (kept displayName'))) := by
  refine ⟨fun i displayName a granted => ?_, fun distinct i j displayName displayName' a b other granted granted' => ?_⟩
  · have issued := granted.issued run
    obtain ⟨id, -, same⟩ := issued.login
    refine ⟨issued, ?_, ?_⟩
    · rw [same]
      exact Names.principal_login displayName id
    · rw [same]
      exact Names.principal_login_eq_self_iff displayName id
  · obtain ⟨id, drawn, same⟩ := (granted.issued run).login
    obtain ⟨id', drawn', same'⟩ := (granted'.issued run).login
    have unlike : id ≠ id' := fun equal =>
      other (congrArg Prod.fst (List.inj_on_of_nodup_map distinct drawn drawn' equal))
    rw [same, same']
    exact ⟨fun equal => unlike (Names.login_inj equal), Names.principal_login_eq_iff unlike⟩

/-! ### Two issues with one role -/

/-- Where nothing else draws a UUID, those that were drawn stay. -/
theorem wp_undrawn {α : Type} {p : Op α} {drawn : List (Nat × Uuid)} (same : s.uuids = drawn)
    (first : Op.Only (· ≠ .uuid) p) :
    Op.wp (alone i) (fun _ t => t.uuids = drawn) (fun _ t => t.uuids = drawn) p s := by
  refine wp_of_only (I := fun t : Surroundings => t.uuids = drawn) (fun c K t other same next => ?_) first same
  refine Surroundings.alone_iff.2 fun r _ => next r _ ?_
  have nothing : (Event.mk i c r).uuid? = none := by cases c <;> first | rfl | exact absurd rfl other
  rw [← same, Surroundings.uuids, Surroundings.after_history, List.filterMap_cons_none nothing]
  rfl

theorem wp_bind_undrawn {α β : Type} {p : Op α} {f : α → Op β} {ok : β → Surroundings → Prop}
    {drawn : List (Nat × Uuid)} (same : s.uuids = drawn) (first : Op.Only (· ≠ .uuid) p)
    (rest : ∀ a (t : Surroundings), t.uuids = drawn → Op.wp (alone i) ok (fun _ _ => True) (f a) t) :
    Op.wp (alone i) ok (fun _ _ => True) (p >>= f) s :=
  wp_seq (wp_undrawn same first) rest fun _ _ _ => trivial

/-- An issue draws one UUID, of which it makes the login. -/
theorem wp_issueCredential_drawn :
    Op.wp (alone i) (fun a t => ∃ id, t.uuids = (i, id) :: s.uuids ∧ a.username = Names.login displayName id)
      (fun _ _ => True) (issueCredential settings cluster name role displayName) s := by
  have load {α : Type} {decode : String → Except String α} {key : String} : Op.Only (· ≠ .uuid) (loadRecord decode key) :=
    calls_loadRecord nofun
  have gets (c : Call) (h : c.gets) : c ≠ .uuid := by
    rintro rfl
    cases h
  refine wp_found (wp_undrawn rfl load) (fun _ _ => trivial) (fun c t same => ?_) fun _ _ _ => trivial
  refine wp_unless trivial fun _ => ?_
  refine wp_found (wp_undrawn same load) (fun _ _ => trivial) (fun d u same => ?_) fun _ _ _ => trivial
  refine wp_unless trivial fun _ => ?_
  refine wp_found (wp_undrawn same load) (fun _ _ => trivial) (fun r v same => ?_) fun _ _ _ => trivial
  refine (wp_bind_lift ..).2 (Surroundings.alone_iff.2 fun id _ => ?_)
  replace same : (v.after i .uuid id).uuids = (i, id) :: s.uuids := congrArg ((i, id) :: ·) same
  refine wp_bind_undrawn same (only_lift (Program.only_call nofun)) fun password w same => ?_
  refine wp_bind_undrawn same (only_lift (Program.only_call nofun)) fun now x same => ?_
  refine wp_bind_undrawn same (Connections.only_onManagement gets fun _ => Program.only_call nofun) fun tr y same => ?_
  refine wp_bind_undrawn same (only_lift (Fleet.calls_runEach (fun _ => nofun) _)) fun result z same => ?_
  cases result with
  | error e =>
    exact wp_bind_undrawn same (only_lift (Program.only_bind (Program.only_call nofun) fun _ => Program.only_pure _))
      fun _ _ _ => trivial
  | ok _ =>
    refine wp_bind_undrawn same (only_ofSql (Program.only_call nofun)) fun _ a same => ?_
    refine wp_bind_undrawn same (only_lift (Program.only_call nofun)) fun _ b same => ?_
    exact ⟨id, same, rfl⟩

/-- A credential can be issued for an active database with any UUID, and it is the only one that is drawn. -/
theorem runs_issueCredential_drawing {c : ClusterRecord} {d : DatabaseRecord} {r : RoleRecord} (settings : Settings)
    (displayName : String) (id : Uuid)
    (stored : Loads ClusterRecord.decode s.values (StoreKeys.cluster cluster) (some c)) (active : c.disabled = false)
    (stored' : Loads DatabaseRecord.decode s.values (StoreKeys.database cluster name) (some d))
    (active' : d.disabled = false) (pattern : Loads RoleRecord.decode s.values (StoreKeys.role role) (some r)) :
    ∃ t a, Surroundings.Runs i (Command.issueCredential settings cluster name role displayName).op.run s (.ok (some a)) t ∧
      t.values = s.values ∧ t.uuids = (i, id) :: s.uuids := by
  have issued := Op.wp_lucky_and
    (wp_lucky_issueCredential_drawing (i := i) settings displayName id (.ofSecs 0) stored active stored' active' pattern)
    wp_issueCredential_drawn
  have ends : Op.wp (Surroundings.lucky i)
      (fun a? t => (∃ a, a? = some a) ∧ t.values = s.values ∧ t.uuids = (i, id) :: s.uuids) (fun _ _ => False)
      (Command.issueCredential settings cluster name role displayName).op s := by
    refine wp_seq issued (fun a t ended => ?_) fun _ _ failed => failed.1
    obtain ⟨⟨values, -, same⟩, id', drawn, same'⟩ := ended
    rw [Names.login_inj (same'.symm.trans same)] at drawn
    exact ⟨⟨a, rfl⟩, values, drawn⟩
  obtain ⟨_, t, run, ⟨a, rfl⟩, ended⟩ := Command.runs_of_lucky ends
  exact ⟨t, a, run, ended⟩

def exampleIssue (displayName : String) : Command := .issueCredential {} "main" "app" "reader" displayName

/-- Two callers issue a credential each, of which nothing is told apart but what follows a zero character. -/
def twoIssues (values : Table String) : Pool (Except BrokerError (Option Credential)) where
  shared := ⟨values, .empty, []⟩
  tasks i := if i = 0 then (exampleIssue "app\x00one").op.run else (exampleIssue "app\x00two").op.run

/-- One after the other, two issues with different UUIDs can give credentials of one role. -/
theorem principals_of_issues_shared : ∃ p q a b, Pool.Reaches p q ∧ (q.shared.uuids.map Prod.snd).Nodup ∧
    Granted p q 0 "app\x00one" a ∧ Granted p q 1 "app\x00two" b ∧ a.username ≠ b.username ∧
      Names.principal a.username = some "app" ∧ Names.principal b.username = some "app" := by
  obtain ⟨_, _, s, c, d, -, stored, active, stored', active', pattern⟩ :=
    Session.exists_registered {} {} (by decide +kernel)
  obtain ⟨t, a, run, values, drawn⟩ := runs_issueCredential_drawing (i := 0) (s := (twoIssues s.values).shared) {}
    "app\x00one" 0 stored active stored' active' pattern
  obtain ⟨v, reached, rfl, own, others⟩ := Pool.reaches_of_runs (p := twoIssues s.values) (i := 0) run
  replace values : v.shared.values = s.values := values
  rw [← values] at stored stored' pattern
  obtain ⟨t, b, run', -, drawn'⟩ := runs_issueCredential_drawing (i := 1) (s := v.shared) {} "app\x00two" 1 stored active
    stored' active' pattern
  have waits : v.tasks 1 = (Command.issueCredential {} "main" "app" "reader" "app\x00two").op.run := others 1 (by decide)
  rw [← waits] at run'
  obtain ⟨q, reached', rfl, own', others'⟩ := Pool.reaches_of_runs (p := v) (i := 1) run'
  have distinct : (q.shared.uuids.map Prod.snd).Nodup := by
    rw [drawn', drawn]
    show [(1 : Uuid), 0].Nodup
    decide
  have granted : Granted (twoIssues s.values) q 0 "app\x00one" a := ⟨⟨_, _, _, _, rfl⟩, (others' 0 (by decide)).trans own⟩
  have granted' : Granted (twoIssues s.values) q 1 "app\x00two" b := ⟨⟨_, _, _, _, rfl⟩, own'⟩
  obtain ⟨each, both⟩ := principals_of_issues (reached.trans reached')
  have ends {displayName : String}
      (cut : '\x00' ∈ Names.kept displayName ∧ Names.untilNul (Names.kept displayName) = "app".toList) (other : String) :
      some (if '\x00' ∈ Names.kept displayName then String.ofList (Names.untilNul (Names.kept displayName)) else other) =
        some "app" := by
    rw [if_pos cut.1, cut.2, String.ofList_toList]
  have one : Names.principal a.username = some "app" := (each 0 _ a granted).2.1.trans (ends (by decide +kernel) _)
  have two : Names.principal b.username = some "app" := (each 1 _ b granted').2.1.trans (ends (by decide +kernel) _)
  exact ⟨_, q, a, b, reached.trans reached', distinct, granted, granted',
    (both distinct 0 1 _ _ a b (by decide) granted granted').1, one, two⟩

end Credentials

end LeaseBroker
