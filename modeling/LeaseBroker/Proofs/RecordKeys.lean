import LeaseBroker.Names
import LeaseBroker.StoreKeys

/-!
Different records lie under different keys. The name of a cluster that is
registered holds no slash, so its key is never that of a database; and the key
of a database tells its cluster and its name.
-/
namespace LeaseBroker.StoreKeys

theorem cluster_injective {a b : String} (h : cluster a = cluster b) : a = b := by
  have same := congrArg String.toList h
  simp only [cluster, String.toList_append] at same
  exact String.toList_injective (List.append_cancel_left same)

theorem cluster_ne_own_database (name d : String) : cluster name ≠ database name d := by
  intro same
  have length := congrArg (fun s => s.toList.length) same
  simp [cluster, database, databases] at length

theorem cluster_ne_database {name : String} (bare : '/' ∉ name.toList) (c d : String) :
    cluster name ≠ database c d := by
  intro same
  have inside := congrArg String.toList same
  simp only [cluster, database, databases, String.toList_append, List.append_assoc] at inside
  apply bare
  rw [List.append_cancel_left inside]
  simp

/-- Of two databases with one key, that of a cluster without slashes in its name is the other as well, or the name of the
    other's cluster goes on with a slash. -/
theorem database_eq_database {c c' d d' : String} (bare : '/' ∉ c.toList) (h : database c' d' = database c d) :
    (c' = c ∧ d' = d) ∨ ∃ rest, c'.toList = c.toList ++ '/' :: rest ∧
      "database/".toList ++ d.toList = rest ++ ("/database/".toList ++ d'.toList) := by
  have inside := congrArg String.toList h
  simp only [database, databases, String.toList_append, List.append_assoc] at inside
  replace inside := List.append_cancel_left inside
  have slash (cs : List Char) : "/database/".toList ++ cs = '/' :: ("database/".toList ++ cs) := rfl
  rcases List.append_eq_append_iff.1 inside with ⟨rest, split, tail⟩ | ⟨rest, split, tail⟩
  · cases rest with
    | nil =>
      rw [List.append_nil] at split
      rw [List.nil_append] at tail
      exact .inl ⟨String.toList_injective split.symm, String.toList_injective (List.append_cancel_left tail)⟩
    | cons first rest =>
      rw [slash, List.cons_append] at tail
      obtain ⟨rfl, -⟩ := List.cons.inj tail
      rw [split] at bare
      simp at bare
  · cases rest with
    | nil =>
      rw [List.append_nil] at split
      rw [List.nil_append] at tail
      exact .inl ⟨String.toList_injective split, String.toList_injective (List.append_cancel_left tail).symm⟩
    | cons first rest =>
      rw [slash d.toList, List.cons_append] at tail
      obtain ⟨rfl, later⟩ := List.cons.inj tail
      exact .inr ⟨rest, split, later⟩

/-- The key of a database whose names hold no slashes is that of no other. -/
theorem database_injective {c c' d d' : String} (bare : '/' ∉ c.toList) (bare' : '/' ∉ d.toList)
    (h : database c' d' = database c d) : c' = c ∧ d' = d := by
  refine (database_eq_database bare h).resolve_right ?_
  rintro ⟨rest, -, tail⟩
  -- There is one slash on the one side, and at least two on the other.
  have one : ("database/".toList ++ d.toList).count '/' = 1 + d.toList.count '/' := List.count_append
  have two : ("/database/".toList ++ d'.toList).count '/' = 2 + d'.toList.count '/' := List.count_append
  have count := congrArg (List.count '/') tail
  rw [one, List.count_eq_zero.2 bare', List.count_append, two] at count
  omega

/-- Where the names of clusters hold no slashes, the key of a database tells its cluster and its name. -/
theorem database_injective_of_bare {c c' d d' : String} (bare : '/' ∉ c.toList) (bare' : '/' ∉ c'.toList)
    (h : database c' d' = database c d) : c' = c ∧ d' = d := by
  refine (database_eq_database bare h).resolve_right ?_
  rintro ⟨rest, split, -⟩
  rw [split] at bare'
  simp at bare'

/-- The key of a database is that of a cluster with a slash in its name. -/
theorem database_eq_cluster (c d : String) : database c d = cluster (c ++ "/database/" ++ d) := by
  simp only [database, databases, cluster, String.append_assoc]

theorem role_ne_cluster (name c : String) : role name ≠ cluster c := by
  intro same
  have inside := congrArg String.toList same
  simp [role, roles, cluster, clusters, String.toList_append] at inside

theorem role_ne_database (name c d : String) : role name ≠ database c d := by
  rw [database_eq_cluster]
  exact role_ne_cluster name _

theorem tagSet_ne_cluster (id c : String) : tagSet id ≠ cluster c := by
  intro same
  have inside := congrArg String.toList same
  simp [tagSet, tagSets, cluster, clusters, String.toList_append] at inside

theorem tagSet_ne_role (id name : String) : tagSet id ≠ role name := by
  intro same
  have inside := congrArg String.toList same
  simp [tagSet, tagSets, role, roles, String.toList_append] at inside

theorem tagSet_ne_database (id c d : String) : tagSet id ≠ database c d := by
  rw [database_eq_cluster]
  exact tagSet_ne_cluster id _

end LeaseBroker.StoreKeys
