import LeaseBroker.Proofs.Commands

/-!
What the calls of a host come to. A request asks for one command, or is refused
before anything is done: the parts of its path and its operation say which
command, and its fields give what that needs (`Router.asked`). A call that asks
for a command does what the command does, and no more, and tells the host what
came of it (`HostCall.runs_asked`, `HostCall.runs_told`). So what is known of
commands is known of calls.
-/
namespace LeaseBroker

open Program (Replies)

variable {α β σ : Type}

/-- The runs of a program of which the result is changed are those of the program. -/
theorem Program.runs_map {R : Replies σ} {p : Program α} {f : α → β} {s t : σ} {b : β} :
    Runs R (p >>= fun a => pure (f a)) s b t ↔ ∃ a, Runs R p s a t ∧ b = f a := by
  constructor
  · intro run
    have whole : wp (demonic R) (fun b t => ∃ a, Runs R p s a t ∧ b = f a) (p >>= fun a => pure (f a)) s :=
      (wp_bind ..).2 (wp_demonic_iff.2 fun a _ run => ⟨a, run, rfl⟩)
    exact wp_demonic_iff.1 whole b t run
  · rintro ⟨a, run, rfl⟩
    induction run with
    | done => exact .done
    | call reply _ ih => exact .call reply ih

theorem Op.run_map (q : Op α) (f : α → β) : (do return f (← q) : Op β).run = q.run >>= fun r => pure (r.map f) := by
  refine congrArg (q.run >>= ·) (funext fun r => ?_)
  cases r <;> rfl

theorem Except.bind_eq_ok {ε β : Type} {x : Except ε α} {f : α → Except ε β} {b : β} :
    (x >>= f) = .ok b ↔ ∃ a, x = .ok a ∧ f a = .ok b := by
  cases x with
  | ok a => exact ⟨fun same => ⟨a, rfl, same⟩, fun ⟨_, same, rest⟩ => (Except.ok.inj same) ▸ rest⟩
  | error e =>
    constructor
    · intro same
      cases same
    · rintro ⟨a, same, -⟩
      cases same

/-! ## What a request asks for -/

namespace Router

/-- A path that is made of parts is cut into them. -/
theorem segments_join {first : String} {rest : List String}
    (fine : ∀ part ∈ first :: rest, part ≠ "" ∧ '/' ∉ part.toList) :
    segments (Search.join "/" (first :: rest)) = first :: rest := by
  have filled : ∀ part ∈ first :: rest, part ≠ "" := fun part member => (fine part member).1
  have bare : ∀ part ∈ first :: rest, '/' ∉ part.toList := fun part member => (fine part member).2
  have apart {part : String} {c : Char} (member : part ∈ first :: rest) (inside : c ∈ part.toList) : (c == '/') = false :=
    beq_eq_false_iff_ne.2 fun same => bare part member (same ▸ inside)
  have whole : Blank.strip (· == '/') (Search.join "/" (first :: rest)).toList =
      (Search.join "/" (first :: rest)).toList := by
    refine Blank.strip_of_ends (fun c begins => ?_) fun c ends => ?_
    · rw [Search.head?_join (filled first List.mem_cons_self)] at begins
      exact apart List.mem_cons_self (List.mem_of_head? begins)
    · obtain ⟨part, member, d, last, whole⟩ := Search.getLast?_join filled
      cases whole.symm.trans ends
      exact apart member (List.mem_of_getLast? last)
  have cuts := Search.cut_join bare
  rw [segments, whole]
  split
  · rename_i empty
    rw [empty] at cuts
    exact absurd (String.toList_injective (List.cons.inj cuts).1.symm) (filled first List.mem_cons_self)
  · rw [cuts]
    simp

def askedTags (data : Fields.Data) : Except Refusal Command := do
  let some cluster ← Fields.string data "cluster" | throw (.attributeRequired "cluster")
  let database ← Fields.string data "database"
  let pairs ← requiredPairs data
  return .writeTags cluster database pairs

/-- The command that a request asks for by its route. -/
def askedOf (settings : Settings) (r : Request) (route? : Option Route) : Except Refusal Command :=
  match route?, r.operation with
  | some .info, .read => .ok (.inquire .metrics)
  | some .tags, .update => askedTags r.data
  | some .tags, .read => do
    let (target, query) ← tagQuery r.data
    return .inquire (.tagged target query)
  | some .tags, .list => .ok (.inquire .tags)
  | some (.tagSet id), .delete => .ok (.eraseTags id)
  | some .clusters, .list => .ok (.inquire .clusters)
  | some (.cluster c), .read => .ok (.inquire (.cluster c))
  | some (.cluster c), .update => do return .registerCluster c (← clusterRequest r.data)
  | some (.cluster c), .delete => .ok (.deleteCluster c)
  | some (.cluster c), .list => .ok (.inquire (.databases c))
  | some (.clone c), .update => do return .cloneCluster c (← cloneRequest r.data)
  | some (.database c d), .update => do return .registerDatabase c d (← databaseRequest r.data)
  | some (.database c d), .read => .ok (.inquire (.database c d))
  | some (.database c d), .delete => .ok (.deleteDatabase c d)
  | some .roles, .list => .ok (.inquire .roles)
  | some (.role name), .read => .ok (.inquire (.role name))
  | some (.role name), .update => do return .writeRole settings.lease name (← roleRequest r.data)
  | some (.role name), .delete => .ok (.deleteRole name)
  | some (.credential c d role), .read => .ok (.issueCredential settings c d role r.displayName)
  | some .deletedClusters, .list => .ok (.inquire .deletedClusters)
  | some .deletedClusters, .read => .ok (.inquire .deletedClusters)
  | some (.deletedCluster c), .read => .ok (.inquire (.deletedCluster c))
  | some (.deletedCluster c), .list => .ok (.inquire (.deletedDatabases c))
  | some (.deletedCluster c), .delete => .ok (.purgeCluster c)
  | some (.deletedDatabase c d), .read => .ok (.inquire (.deletedDatabase c d))
  | some (.deletedDatabase c d), .delete => .ok (.purgeDatabase c d)
  | _, _ => .error (.unsupportedPath r.operation r.path)

/-- The command that a request asks for, or why it is refused. -/
def asked (settings : Settings) (r : Request) : Except Refusal Command :=
  let parts := segments r.path
  if namesValid parts then askedOf settings r (routeOf parts) else .error (.unsupportedPath r.operation r.path)

/-- A request whose path is made of parts goes their way. -/
theorem asked_of_route (settings : Settings) {r : Request} {first : String} {rest : List String} (route : Route)
    (path : r.path = Search.join "/" (first :: rest)) (fine : ∀ part ∈ first :: rest, part ≠ "" ∧ '/' ∉ part.toList)
    (valid : namesValid (first :: rest)) (routed : routeOf (first :: rest) = some route) :
    asked settings r = askedOf settings r (some route) := by
  unfold asked
  rw [path, segments_join fine, ← routed]
  exact if_pos valid

/-- How a request asks for a command, where there is more to be told than that it was done. -/
def AskedBy (settings : Settings) (r : Request) (route? : Option Route) : Command → Prop
  | .writeTags cluster database tags =>
    route? = some .tags ∧ r.operation = .update ∧ askedTags r.data = .ok (.writeTags cluster database tags)
  | .eraseTags id => route? = some (.tagSet id) ∧ r.operation = .delete
  | .inquire (.tagged target query) =>
    route? = some .tags ∧ r.operation = .read ∧ tagQuery r.data = .ok (target, query)
  | .inquire .tags => route? = some .tags ∧ r.operation = .list
  | .issueCredential settings' cluster name role displayName =>
    route? = some (.credential cluster name role) ∧ r.operation = .read ∧ settings' = settings ∧
      displayName = r.displayName
  | _ => True

/-- There is one way for each such command. -/
theorem askedBy_of_askedOf {settings : Settings} {r : Request} {route? : Option Route} {command : Command}
    (asks : askedOf settings r route? = .ok command) : AskedBy settings r route? command := by
  unfold askedOf at asks
  generalize operated : r.operation = operation at asks
  split at asks
  case h_2 =>
    have written := asks
    obtain ⟨cluster?, -, asks⟩ := Except.bind_eq_ok.1 asks
    cases cluster? with
    | none => cases asks
    | some c =>
      obtain ⟨database, -, asks⟩ := Except.bind_eq_ok.1 asks
      obtain ⟨pairs, -, asks⟩ := Except.bind_eq_ok.1 asks
      cases asks
      exact ⟨rfl, operated, written⟩
  case h_3 =>
    obtain ⟨⟨target, query⟩, given, asks⟩ := Except.bind_eq_ok.1 asks
    cases asks
    exact ⟨rfl, operated, given⟩
  case h_8 | h_11 | h_12 | h_17 =>
    obtain ⟨given, -, asks⟩ := Except.bind_eq_ok.1 asks
    cases asks
    trivial
  case h_4 | h_5 =>
    cases asks
    exact ⟨rfl, operated⟩
  case h_19 =>
    cases asks
    exact ⟨rfl, operated, rfl, rfl⟩
  case h_27 => cases asks
  all_goals
    cases asks
    trivial

/-- What is asked for is asked for by a path with names where there must be some. -/
theorem askedBy_of_asked {settings : Settings} {r : Request} {command : Command} (asks : asked settings r = .ok command) :
    namesValid (segments r.path) = true ∧ AskedBy settings r (routeOf (segments r.path)) command := by
  unfold asked at asks
  dsimp only at asks
  cases valid : namesValid (segments r.path) with
  | false =>
    rw [valid] at asks
    cases asks
  | true =>
    rw [valid, if_pos rfl] at asks
    exact ⟨rfl, askedBy_of_askedOf asks⟩

/-- `p` does what was asked for and puts what came of it into a response without an error, or refuses at once. -/
def Serves : Except Refusal Command → Op Response → Prop
  | .ok command, p => ∃ (α : Type) (q : Op α) (f : α → Response) (g : α → Option Credential),
      p = (do return f (← q)) ∧ command.op = (do return g (← q)) ∧ ∀ a, (f a).error = none
  | .error why, p => p = Op.refuse why

theorem serves_reply {command : Command} {q : Op α} {f : α → Response} (does : command.op = q.unkept)
    (plain : ∀ a, (f a).error = none) : Serves (.ok command) (do return f (← q)) :=
  ⟨_, q, f, fun _ => none, rfl, does, plain⟩

theorem serves_check {r : Except Refusal α} {asks : α → Except Refusal Command} {p : α → Op Response}
    (h : ∀ a, Serves (asks a) (p a)) : Serves (r >>= asks) (Op.ofRefusal r >>= p) := by
  cases r with
  | ok a => exact h a
  | error why => rfl

theorem serves_writeTags {data : Fields.Data} : Serves (askedTags data) (writeTags data) := by
  refine serves_check fun cluster? => ?_
  cases cluster? with
  | none => rfl
  | some cluster =>
    refine serves_check fun database => serves_check fun pairs => ?_
    exact serves_reply rfl fun _ => rfl

theorem serves_dispatch {settings : Settings} {r : Request} : Serves (asked settings r) (dispatch settings r) := by
  unfold asked dispatch askedOf
  dsimp only
  cases namesValid (segments r.path) with
  | false => rfl
  | true =>
    simp only [Bool.not_true, Bool.false_eq_true, if_false, if_true]
    generalize routeOf (segments r.path) = route?
    generalize r.operation = operation
    cases route? with
    | none => rfl
    | some route =>
      cases route <;> cases operation
      case tags.update => exact serves_writeTags
      case tags.read => exact serves_check fun query => serves_reply rfl fun _ => rfl
      case cluster.update | clone.update | database.update | role.update =>
        exact serves_check fun request => serves_reply rfl fun _ => rfl
      case credential.read => exact ⟨_, _, _, some, rfl, rfl, fun _ => rfl⟩
      -- What asks for nothing is refused by both.
      all_goals first | rfl | exact serves_reply rfl fun _ => rfl

end Router

/-! ## What a host is told -/

/-- What a host is told goes with what came of a command: a refusal is a response, and any other error stays one. -/
def Tells : Except BrokerError (Option Credential) → Except BrokerError Response → Prop
  | .ok _, told => ∃ r, told = .ok r ∧ r.error = none
  | .error e, told => (∃ why, e = .refused why ∧ told = .ok (.ofRefusal why)) ∨ ((∀ why, e ≠ .refused why) ∧ told = .error e)

namespace Router

/-- The reply to a request that may have been refused. -/
def reply : Except BrokerError Response → Except BrokerError Response
  | .error (.refused why) => .ok (.ofRefusal why)
  | r => r

theorem run_answering (p : Op Response) : (answering p).run = p.run >>= fun r => pure (reply r) := by
  refine congrArg (p.run >>= ·) (funext fun r => ?_)
  cases r with
  | ok r => rfl
  | error e => cases e <;> rfl

theorem tells_map {r : Except BrokerError α} {f : α → Response} {g : α → Option Credential}
    (plain : ∀ a, (f a).error = none) : Tells (r.map g) (reply (r.map f)) := by
  cases r with
  | ok a => exact ⟨f a, rfl, plain a⟩
  | error e =>
    cases e with
    | refused why => exact .inl ⟨why, rfl, rfl⟩
    | _ => exact .inr ⟨nofun, rfl⟩

section
variable {R : Replies σ} {p : Op Response} {command : Command} {s t : σ} {response : Response}

theorem runs_answering {told : Except BrokerError Response} :
    Program.Runs R (answering p).run s told t ↔ ∃ r, Program.Runs R p.run s r t ∧ told = reply r := by
  rw [run_answering]
  exact Program.runs_map

/-- A response without an error is one to a success. -/
theorem runs_answering_ok {q : Op α} {f : α → Response} (plain : ∀ a, (f a).error = none) :
    Program.Runs R (answering (do return f (← q))).run s (.ok response) t ∧ response.error = none ↔
      ∃ a, Program.Runs R q.run s (.ok a) t ∧ response = f a := by
  rw [runs_answering, Op.run_map]
  constructor
  · rintro ⟨⟨replied, served, told⟩, fine⟩
    obtain ⟨r, ran, rfl⟩ := Program.runs_map.1 served
    cases r with
    | ok a => exact ⟨a, ran, Except.ok.inj told⟩
    | error e =>
      cases e with
      | refused why =>
        cases told
        cases fine
      | _ => cases told
  · rintro ⟨a, ran, rfl⟩
    exact ⟨⟨.ok (f a), Program.runs_map.2 ⟨.ok a, ran, rfl⟩, rfl⟩, plain a⟩

/-- The same where something is read first that may be refused. -/
theorem runs_answering_check {β : Type} {r : Except Refusal β} {q : β → Op α} {f : α → Response}
    (plain : ∀ a, (f a).error = none) :
    Program.Runs R (answering (Op.ofRefusal r >>= fun b => do return f (← q b))).run s (.ok response) t ∧
        response.error = none ↔
      ∃ b a, r = .ok b ∧ Program.Runs R (q b).run s (.ok a) t ∧ response = f a := by
  cases r with
  | ok b =>
    refine (runs_answering_ok (q := q b) plain).trans ⟨?_, ?_⟩
    · rintro ⟨a, ran, same⟩
      exact ⟨b, a, rfl, ran, same⟩
    · rintro ⟨b', a, same, ran, told⟩
      cases same
      exact ⟨a, ran, told⟩
  | error why =>
    constructor
    · rintro ⟨run, fine⟩
      obtain ⟨replied, ran, told⟩ := runs_answering.1 run
      cases ran with
      | done =>
        cases told
        cases fine
    · rintro ⟨b, a, same, -⟩
      cases same

/-- What serves a command has the runs of the command. -/
theorem runs_serves (serves : Serves (.ok command) p) {told : Except BrokerError Response}
    (run : Program.Runs R (answering p).run s told t) :
    ∃ result, Program.Runs R command.op.run s result t ∧ Tells result told := by
  obtain ⟨α, q, f, g, rfl, does, plain⟩ := serves
  obtain ⟨response, served, rfl⟩ := runs_answering.1 run
  rw [Op.run_map] at served
  obtain ⟨r, ran, rfl⟩ := Program.runs_map.1 served
  refine ⟨r.map g, ?_, tells_map plain⟩
  rw [does, Op.run_map]
  exact Program.runs_map.2 ⟨r, ran, rfl⟩

theorem runs_served (serves : Serves (.ok command) p) {result : Except BrokerError (Option Credential)}
    (run : Program.Runs R command.op.run s result t) :
    ∃ told, Program.Runs R (answering p).run s told t ∧ Tells result told := by
  obtain ⟨α, q, f, g, rfl, does, plain⟩ := serves
  rw [does, Op.run_map] at run
  obtain ⟨r, ran, rfl⟩ := Program.runs_map.1 run
  refine ⟨reply (r.map f), runs_answering.2 ⟨r.map f, ?_, rfl⟩, tells_map plain⟩
  rw [Op.run_map]
  exact Program.runs_map.2 ⟨r, ran, rfl⟩

theorem runs_refused {why : Refusal} (serves : Serves (.error why) p) {told : Except BrokerError Response}
    (run : Program.Runs R (answering p).run s told t) : told = .ok (.ofRefusal why) ∧ t = s := by
  obtain rfl : p = Op.refuse why := serves
  obtain ⟨r, ran, told⟩ := runs_answering.1 run
  cases ran with
  | done => exact ⟨told, rfl⟩

end

end Router

namespace HostCall

/-- The command that a call asks for, or why it is refused. -/
def asked : HostCall → Except Refusal Command
  | handle settings r => Router.asked settings r
  | renew settings internal increment issued => do
    return .renewCredential settings (← LeaseSecret.ofInternal internal) increment issued
  | revoke internal => do
    return .revokeCredential (← LeaseSecret.ofInternal internal)

theorem serves_program (call : HostCall) :
    ∃ p, call.program = (Router.answering p).run ∧ Router.Serves call.asked p := by
  cases call with
  | handle settings r => exact ⟨_, rfl, Router.serves_dispatch⟩
  | renew settings internal increment issued =>
    exact ⟨_, rfl, Router.serves_check fun secret => Router.serves_reply rfl fun _ => rfl⟩
  | revoke internal =>
    exact ⟨_, rfl, Router.serves_check fun secret => Router.serves_reply rfl fun _ => rfl⟩

section
variable {R : Replies σ} {call : HostCall} {command : Command} {s t : σ} {told : Except BrokerError Response}
  {response : Response}

/-- A call does what the command does that it asks for. -/
theorem runs_asked (asks : call.asked = .ok command) (run : Program.Runs R call.program s told t) :
    ∃ result, Program.Runs R command.op.run s result t ∧ Tells result told := by
  obtain ⟨p, same, serves⟩ := call.serves_program
  rw [same] at run
  rw [asks] at serves
  exact Router.runs_serves serves run

/-- A call can do whatever the command can do that it asks for. -/
theorem runs_told (asks : call.asked = .ok command) {result : Except BrokerError (Option Credential)}
    (run : Program.Runs R command.op.run s result t) :
    ∃ told, Program.Runs R call.program s told t ∧ Tells result told := by
  obtain ⟨p, same, serves⟩ := call.serves_program
  rw [same]
  rw [asks] at serves
  exact Router.runs_served serves run

/-- A call that asks for no command is refused, and nothing is done for it. -/
theorem runs_unasked {why : Refusal} (refused : call.asked = .error why) (run : Program.Runs R call.program s told t) :
    told = .ok (.ofRefusal why) ∧ t = s := by
  obtain ⟨p, same, serves⟩ := call.serves_program
  rw [same] at run
  rw [refused] at serves
  exact Router.runs_refused serves run

/-- What a request is dispatched to is done for it, and the response made of what came of that. -/
theorem runs_handle {settings : Settings} {request : Request} {q : Op α} {f : α → Response}
    (dispatched : Router.dispatch settings request = (do return f (← q))) (plain : ∀ a, (f a).error = none) :
    Program.Runs R (handle settings request).program s (.ok response) t ∧ response.error = none ↔
      ∃ a, Program.Runs R q.run s (.ok a) t ∧ response = f a := by
  have served : (handle settings request).program = (Router.answering (Router.dispatch settings request)).run := rfl
  rw [served, dispatched]
  exact Router.runs_answering_ok plain

end

end HostCall

end LeaseBroker
