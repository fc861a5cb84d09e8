import LeaseBroker.Proofs.OperationRefusals

/-!
Which requests lead somewhere. The slashes at the ends of a path do not count,
and with those between it falls into parts in just one way (`Router.splits_iff`).
What the parts must be is laid out as a table of its own (`Router.Leads`,
`Router.Route.operations`). A request that is not in the table is told so and
nothing is done for it, and no other request is told that
(`Router.unsupported_exactly`).
-/
namespace LeaseBroker

/-! ## Names -/

/-- The grammar of names. -/
structure Names.Grammatical (s : String) : Prop where
  filled : s ≠ ""
  through : ∀ c ∈ s.toList, isWordCharacter c ∨ c = '-' ∨ c = '.'
  begins : ∀ c, s.toList.head? = some c → isWordCharacter c
  ends : ∀ c, s.toList.getLast? = some c → isWordCharacter c

theorem Names.isName_iff {s : String} : isName s ↔ Grammatical s := by
  have through : s.toList.all isNameCharacter ↔ ∀ c ∈ s.toList, isWordCharacter c ∨ c = '-' ∨ c = '.' := by
    simp [isNameCharacter, or_assoc]
  unfold isName isNameChars
  split
  · next first last begun ended =>
    rw [Bool.and_eq_true, Bool.and_eq_true, through]
    constructor
    · rintro ⟨⟨begins, ends⟩, through⟩
      refine ⟨?_, through, fun c same => ?_, fun c same => ?_⟩
      · rintro rfl
        cases begun
      · cases begun.symm.trans same
        exact begins
      · cases ended.symm.trans same
        exact ends
    · exact fun named => ⟨⟨named.begins first begun, named.ends last ended⟩, named.through⟩
  · next unended =>
    refine iff_of_false Bool.false_ne_true fun named => ?_
    have filled : s.toList ≠ [] := fun blank => named.filled (String.toList_injective blank)
    obtain ⟨first, begun⟩ := Option.isSome_iff_exists.1 (List.isSome_head?.2 filled)
    obtain ⟨last, ended⟩ := Option.isSome_iff_exists.1 (List.getLast?_isSome.2 filled)
    exact unended first last begun ended

namespace Router

variable {α : Type}

open Program (Yields)
open Names (Grammatical)

/-! ## Paths and their parts -/

/-- What is left of a path without the slashes at its ends. -/
structure Stripped (path core : String) : Prop where
  around : ∃ before after, path.toList = before ++ core.toList ++ after ∧ ∀ c ∈ before ++ after, c = '/'
  begins : core.toList.head? ≠ some '/'
  ends : core.toList.getLast? ≠ some '/'

/-- The parts of a path stand between its slashes, those at its ends aside; a path of slashes alone has none. -/
structure Splits (path : String) (parts : List String) : Prop where
  stripped : Stripped path (Search.join "/" parts)
  bare : ∀ part ∈ parts, '/' ∉ part.toList
  filled : parts ≠ [""]

theorem stripped_iff {path core : String} : Stripped path core ↔ Blank.strip (· == '/') path.toList = core.toList := by
  rw [Blank.strip_eq_iff]
  constructor
  · rintro ⟨⟨before, after, whole, outside⟩, begins, ends⟩
    refine ⟨⟨before, after, whole, fun c member => beq_iff_eq.2 (outside c member)⟩, fun c first => ?_, fun c last => ?_⟩
    · exact beq_eq_false_iff_ne.2 fun same => begins (same ▸ first)
    · exact beq_eq_false_iff_ne.2 fun same => ends (same ▸ last)
  · rintro ⟨⟨before, after, whole, outside⟩, begins, ends⟩
    refine ⟨⟨before, after, whole, fun c member => beq_iff_eq.1 (outside c member)⟩, fun first => ?_, fun last => ?_⟩
    · exact beq_eq_false_iff_ne.1 (begins _ first) rfl
    · exact beq_eq_false_iff_ne.1 (ends _ last) rfl

theorem splits_iff {path : String} {parts : List String} : Splits path parts ↔ parts = segments path := by
  constructor
  · rintro ⟨stripped, bare, filled⟩
    rw [segments, stripped_iff.1 stripped]
    cases parts with
    | nil => rfl
    | cons first rest =>
      have cuts := Search.cut_join bare
      split
      · next empty =>
        -- A path of slashes alone would be cut into one part with nothing in it.
        rw [empty] at cuts
        obtain ⟨blank, last⟩ := List.cons.inj cuts
        obtain rfl : first = "" := String.toList_injective blank.symm
        obtain rfl : rest = [] := List.map_eq_nil_iff.1 last.symm
        exact absurd rfl filled
      · rw [cuts]
        simp
  · rintro rfl
    unfold segments
    split
    · next empty =>
      exact ⟨stripped_iff.2 empty, fun _ member => absurd member List.not_mem_nil, (List.cons_ne_nil _ _).symm⟩
    · next cs filled =>
      have whole : Search.join "/" ((Search.cut '/' (Blank.strip (· == '/') path.toList)).map String.ofList) =
          String.ofList (Blank.strip (· == '/') path.toList) := Search.join_cut _
      refine ⟨stripped_iff.2 ?_, fun part member => ?_, fun blank => filled ?_⟩
      · rw [whole, String.toList_ofList]
      · obtain ⟨piece, cut, rfl⟩ := List.mem_map.1 member
        rw [String.toList_ofList]
        exact Search.not_mem_cut cut
      · rw [blank] at whole
        exact String.ofList_eq_empty_iff.1 whole.symm

/-- What is left of two paths decides whether they have the same parts. -/
theorem segments_of_stripped {path path' : String} (same : Stripped path' (Search.join "/" (segments path))) :
    segments path' = segments path := by
  obtain ⟨-, bare, filled⟩ := splits_iff.2 (rfl : segments path = segments path)
  exact (splits_iff.1 ⟨same, bare, filled⟩).symm

/-! ## What is supported -/

/-- Where the parts of a path lead. -/
inductive Leads : List String → Route → Prop
  | info : Leads ["info"] .info
  | tags : Leads ["metadata"] .tags
  | tagSet (id : String) (more : List String) : Leads ("metadata" :: id :: more) (.tagSet (Search.join "/" (id :: more)))
  | clusters : Leads ["cluster"] .clusters
  | cluster {c : String} (cluster : Grammatical c) : Leads ["cluster", c] (.cluster c)
  | database {c d : String} (cluster : Grammatical c) (database : Grammatical d) : Leads ["cluster", c, d] (.database c d)
  | clone {c : String} (cluster : Grammatical c) : Leads ["clone", c] (.clone c)
  | roles : Leads ["roles"] .roles
  | role {r : String} (role : Grammatical r) : Leads ["roles", r] (.role r)
  | credential {c d r : String} (cluster : Grammatical c) (database : Grammatical d) (role : Grammatical r) :
      Leads ["creds", c, d, r] (.credential c d r)
  | deletedClusters : Leads ["gc", "clusters"] .deletedClusters
  | deletedCluster {c : String} (cluster : Grammatical c) : Leads ["gc", "cluster", c] (.deletedCluster c)
  | deletedDatabase {c d : String} (cluster : Grammatical c) (database : Grammatical d) :
      Leads ["gc", "cluster", c, d] (.deletedDatabase c d)

/-- What can be done at the end of a route. -/
def Route.operations : Route → List Operation
  | info => [.read]
  | tags => [.read, .update, .list]
  | tagSet _ => [.delete]
  | clusters => [.list]
  | cluster _ => [.read, .update, .delete, .list]
  | database .. => [.read, .update, .delete]
  | clone _ => [.update]
  | roles => [.list]
  | role _ => [.read, .update, .delete]
  | credential .. => [.read]
  | deletedClusters => [.read, .list]
  | deletedCluster _ => [.read, .list, .delete]
  | deletedDatabase .. => [.read, .delete]

def Supported (parts : List String) (operation : Operation) : Prop :=
  ∃ route, Leads parts route ∧ operation ∈ route.operations

/-- The router follows the table. -/
theorem leads_iff {parts : List String} {route : Route} :
    Leads parts route ↔ namesValid parts = true ∧ routeOf parts = some route := by
  constructor
  · intro leads
    cases leads <;> simp_all [namesValid, routeOf, Names.isName_iff]
  · rintro ⟨valid, routed⟩
    unfold routeOf at routed
    split at routed <;> cases routed
    all_goals
      simp only [namesValid, List.all_cons, List.all_nil, Bool.and_true, Bool.and_eq_true, Names.isName_iff] at valid
    case h_1 => exact .info
    case h_2 => exact .tags
    case h_3 ids given =>
      cases ids with
      | nil => exact absurd rfl given
      | cons id more => exact .tagSet id more
    case h_4 => exact .clusters
    case h_5 => exact .cluster valid
    case h_6 => exact .database valid.1 valid.2
    case h_7 => exact .clone valid
    case h_8 => exact .roles
    case h_9 => exact .role valid
    case h_10 => exact .credential valid.1 valid.2.1 valid.2.2
    case h_11 => exact .deletedClusters
    case h_12 => exact .deletedCluster valid
    case h_13 => exact .deletedDatabase valid.1 valid.2

/-! ## What is done -/

section
variable {settings : Settings} {r : Request} {route : Route}

/-- What is not in the table is refused at once. -/
theorem askedOf_unsupported {route? : Option Route}
    (unlisted : ∀ route, route? = some route → r.operation ∉ route.operations) :
    askedOf settings r route? = .error (.unsupportedPath r.operation r.path) := by
  unfold askedOf
  generalize r.operation = operation at unlisted ⊢
  cases route? with
  | none => cases operation <;> rfl
  | some route =>
    replace unlisted := unlisted route rfl
    cases route <;> cases operation <;> first | rfl | simp [Route.operations] at unlisted

theorem asked_unsupported (unlisted : ¬Supported (segments r.path) r.operation) :
    asked settings r = .error (.unsupportedPath r.operation r.path) := by
  unfold asked
  dsimp only
  split
  · next valid =>
    refine askedOf_unsupported fun route routed listed => unlisted ⟨route, ?_, listed⟩
    exact leads_iff.2 ⟨valid, routed⟩
  · rfl

/-- What is in the table is refused only for reasons of an operation. -/
theorem check_askedOf (listed : r.operation ∈ route.operations) : OperationalCheck (askedOf settings r (some route)) := by
  unfold askedOf
  generalize r.operation = operation at listed ⊢
  split
  case h_2 => exact check_askedTags
  case h_3 => exact check_bind check_tagQuery fun _ => check_ok
  case h_8 => exact check_bind check_clusterRequest fun _ => check_ok
  case h_11 => exact check_bind check_cloneRequest fun _ => check_ok
  case h_12 => exact check_bind check_databaseRequest fun _ => check_ok
  case h_17 => exact check_bind check_roleRequest fun _ => check_ok
  case h_27 =>
    exfalso
    cases route <;> simp_all [Route.operations]
  all_goals exact check_ok

theorem check_asked (supported : Supported (segments r.path) r.operation) : OperationalCheck (asked settings r) := by
  obtain ⟨route, leads, listed⟩ := supported
  obtain ⟨valid, routed⟩ := leads_iff.1 leads
  unfold asked
  dsimp only
  rw [valid, routed, if_pos rfl]
  exact check_askedOf listed

/-- What is done for a supported request depends only on the parts of its path. -/
theorem dispatch_of_segments {path : String} (supported : Supported (segments r.path) r.operation)
    (same : segments path = segments r.path) : dispatch settings { r with path } = dispatch settings r := by
  obtain ⟨route, leads, listed⟩ := supported
  obtain ⟨valid, routed⟩ := leads_iff.1 leads
  unfold dispatch
  dsimp only
  rw [same, valid, routed]
  generalize r.operation = operation at listed ⊢
  cases route <;> cases operation <;> first | rfl | simp [Route.operations] at listed

/-- Nothing is asked of the store, of a server or of anything else for a request that is not in the table. -/
theorem run_unsupported (unlisted : ¬Supported (segments r.path) r.operation) :
    (handle settings r).run = .done (.ok (.ofRefusal (.unsupportedPath r.operation r.path))) := by
  have serves : Serves (asked settings r) (dispatch settings r) := serves_dispatch
  rw [asked_unsupported unlisted] at serves
  have refused : dispatch settings r = Op.refuse (.unsupportedPath r.operation r.path) := serves
  rw [handle, run_answering, refused]
  rfl

/-- Whether a host is told that a path leads nowhere. -/
def TellsUnsupported : Except BrokerError Response → Prop
  | .ok response => ∃ why, response.error = some why ∧ Refusal.nowhere <+: why.message.toList
  | .error _ => False

theorem not_tells_refusal {why : Refusal} (own : why.operational) : ¬TellsUnsupported (.ok (.ofRefusal why)) := by
  rintro ⟨_, ⟨⟩, begins⟩
  exact Refusal.not_nowhere_prefix_message own begins

theorem not_tells_reply {result : Except BrokerError α} {f : α → Response}
    (own : ∀ e, result = .error e → e.operational) (plain : ∀ a, (f a).error = none) :
    ¬TellsUnsupported (reply (result.map f)) := by
  cases result with
  | ok a =>
    rintro ⟨why, told, -⟩
    cases (plain a).symm.trans told
  | error e =>
    cases e with
    | refused why => exact not_tells_refusal (own _ rfl)
    | _ => exact id

theorem yields_supported (supported : Supported (segments r.path) r.operation) :
    Yields (fun told => ¬TellsUnsupported told) (handle settings r).run := by
  have serves : Serves (asked settings r) (dispatch settings r) := serves_dispatch
  have checked : OperationalCheck (asked settings r) := check_asked supported
  rw [handle, run_answering]
  cases asks : asked settings r with
  | error why =>
    rw [asks] at serves checked
    have refused : dispatch settings r = Op.refuse why := serves
    rw [refused]
    exact not_tells_refusal (checked why rfl)
  | ok command =>
    rw [asks] at serves
    obtain ⟨β, q, f, g, dispatched, does, plain⟩ := serves
    have own := Op.yields_of_operational command.operational_op
    rw [does, Op.run_map, Program.yields_map] at own
    rw [dispatched, Op.run_map, bind_assoc]
    refine Program.yields_bind own fun result own => not_tells_reply (fun e failed => own e ?_) plain
    rw [failed]
    rfl

end

/-- A request is told that its path leads nowhere just when it is not in the table, and then nothing is done for it.
    Whatever slashes the path begins and ends with, the same is done, or the path is refused as it came. -/
theorem unsupported_exactly (settings : Settings) (r : Request) :
    ∃ parts, (∀ parts', Splits r.path parts' ↔ parts' = parts) ∧
      Yields (fun told => TellsUnsupported told ↔ ¬Supported parts r.operation) (handle settings r).run ∧
      ∀ path, Stripped path (Search.join "/" parts) →
        (Supported parts r.operation → handle settings { r with path } = handle settings r) ∧
        (¬Supported parts r.operation →
          (handle settings { r with path }).run = .done (.ok (.ofRefusal (.unsupportedPath r.operation path)))) := by
  refine ⟨segments r.path, fun parts' => splits_iff, ?_, fun path stripped => ?_⟩
  · by_cases supported : Supported (segments r.path) r.operation
    · exact Program.yields_mono (fun told fine => iff_of_false fine (not_not_intro supported)) (yields_supported supported)
    · rw [run_unsupported supported]
      exact iff_of_true ⟨_, rfl, Refusal.nowhere_prefix_message ..⟩ supported
  · have same : segments path = segments r.path := segments_of_stripped stripped
    refine ⟨fun supported => congrArg answering (dispatch_of_segments supported same), fun unlisted => ?_⟩
    rw [← same] at unlisted
    exact run_unsupported (r := { r with path }) unlisted

def exampleRequest (operation : Operation) : Request := { operation, path := "/gc/cluster/cluster//" }

/-- A deleted cluster with the name of its route can be read, but not registered. -/
theorem unsupported_exactly_route_word :
    Yields (fun told => ¬TellsUnsupported told) (handle {} (exampleRequest .read)).run ∧
      handle {} { exampleRequest .read with path := "gc/cluster/cluster" } = handle {} (exampleRequest .read) ∧
      (handle {} { exampleRequest .update with path := "gc/cluster/cluster" }).run =
        .done (.ok (.ofRefusal (.unsupportedPath .update "gc/cluster/cluster"))) := by
  have splits : Splits "/gc/cluster/cluster//" ["gc", "cluster", "cluster"] := splits_iff.2 (by decide)
  have stripped : Stripped "gc/cluster/cluster" (Search.join "/" ["gc", "cluster", "cluster"]) := stripped_iff.2 (by decide)
  have named : Names.Grammatical "cluster" := Names.isName_iff.1 (by decide)
  have readable : Supported ["gc", "cluster", "cluster"] .read := ⟨_, .deletedCluster named, by simp [Route.operations]⟩
  have fixed : ¬Supported ["gc", "cluster", "cluster"] .update := by
    rintro ⟨route, leads, listed⟩
    obtain rfl : Route.deletedCluster "cluster" = route := Option.some.inj (leads_iff.1 leads).2
    simp [Route.operations] at listed
  obtain ⟨parts, split, told, same⟩ := unsupported_exactly {} (exampleRequest .read)
  obtain rfl := (split _).1 splits
  obtain ⟨parts', split', -, same'⟩ := unsupported_exactly {} (exampleRequest .update)
  obtain rfl := (split' _).1 splits
  refine ⟨?_, (same _ stripped).1 readable, (same' _ stripped).2 fixed⟩
  exact Program.yields_mono (fun _ exactly unsupported => exactly.1 unsupported readable) told

end Router

end LeaseBroker
