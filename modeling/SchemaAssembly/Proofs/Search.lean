import SchemaAssembly.Assembly
import SchemaAssembly.Proofs.Demand

/-!
# Searching a registry

Assembly can be told apart from what it builds. Here is the plain depth-first search that it amounts
to: one list of the names visited, one agenda of what is still demanded, and no types. A name is
visited when it is first met; what its definition demands then goes before the rest of the agenda.
The search ends with the names visited, in the order in which they were met, or at its first fault.

## Main definitions

* `SchemaAssembly.search` — the search from given names visited, through an agenda.
* `SchemaAssembly.searchRoots` — the search from the roots of a registry.
* `SchemaAssembly.Registry.Reachable` — the names that the roots reach.
* `SchemaAssembly.Registry.preorder` — these names in depth-first preorder, whatever the wiring.

## Main results

* `SchemaAssembly.search_append` — what comes first on the agenda is searched completely before
  the rest is looked at.
* `SchemaAssembly.exists_search_eq_ok` — where nothing reached is at fault the search succeeds.
* `SchemaAssembly.settled_of_search` — where it succeeds nothing reached is at fault.
* `SchemaAssembly.mem_searchRoots_iff` — from the roots it visits the names reached, and no others.
* `SchemaAssembly.preorder_of_searchRoots` — it visits them in preorder.
-/

set_option relaxedAutoImplicit false
set_option autoImplicit false

namespace SchemaAssembly

variable {B : Behaviours} {registry : Registry} {wiring : Wiring B}

/-! ## The search -/

/-- How many names are not in progress depends on the names alone, not on their order. -/
theorem Registry.idle_congr (registry : Registry) {names others : List String}
    (same : ∀ name, name ∈ names ↔ name ∈ others) :
    registry.idle names = registry.idle others := by
  simp only [idle, same]

/-- Visiting a known name leaves fewer names to visit. -/
theorem Registry.idle_append_lt {visited : List String} {name : String} {type : TypeDefinition}
    (found : registry.find? name = some type) (fresh : name ∉ visited) :
    registry.idle (visited ++ [name]) < registry.idle visited := by
  have same : ∀ other, other ∈ visited ++ [name] ↔ other ∈ name :: visited := by simp [or_comm]
  rw [registry.idle_congr same]
  exact Registry.idle_cons_lt found fresh

/-- **The plain depth-first search.** A check on the agenda has to pass. A reference has to name a
known type, of a kind that suits the place. If that name has been visited there is nothing more to
do; else it is visited now, and all that its definition demands comes next. -/
def search (registry : Registry) (wiring : Wiring B) (visited : List String) :
    List Demand → Except SchemaError (List String)
  | [] => .ok visited
  | .check none :: rest => search registry wiring visited rest
  | .check (some fault) :: _ => .error fault
  | .follow reference :: rest =>
    match _found : registry.find? reference.type.innermost with
    | none => .error reference.unknown
    | some type =>
      if !reference.place.admits type.kind then .error (reference.place.mismatch type)
      else if _fresh : reference.type.innermost ∈ visited then
        search registry wiring visited rest
      else
        search registry wiring (visited ++ [reference.type.innermost])
          (demands registry wiring type ++ rest)
termination_by agenda => (registry.idle visited, agenda.length)
decreasing_by
  · exact Prod.Lex.right _ (by simp)
  · exact Prod.Lex.right _ (by simp)
  · exact Prod.Lex.left _ _ (Registry.idle_append_lt _found _fresh)

/-- The reference by which an operation refers to its root type. A report on it names the root type
itself as what refers to it. -/
def RootBinding.reference (root : RootBinding) : Reference :=
  ⟨.ofName root.typeName, .output, root.typeName, root.position⟩

/-- What is wrong with the root type of an operation: it is unknown, or it is no object. -/
def rootFault (registry : Registry) (root : RootBinding) : Option SchemaError :=
  match registry.find? root.typeName with
  | none => some root.reference.unknown
  | some type =>
    if type.kind = .object then none
    else some (.notAnObject root.operation root.typeName type.kind)

/-- The demands of an operation: its root type has to be a known object, and is then followed. -/
def rootDemands (registry : Registry) (root : RootBinding) : List Demand :=
  [.check (rootFault registry root), .follow root.reference]

/-- The operations that a schema binds, in the order in which they are looked at. Where an operation
is bound more than once, its first binding counts. -/
def SchemaDefinition.boundRoots (schema : SchemaDefinition) : List RootBinding :=
  [Operation.query, .mutation, .subscription].filterMap schema.root?

/-- **The search from the roots of a registry.** There has to be a schema definition, and it has to
bind a query. -/
def searchRoots (registry : Registry) (wiring : Wiring B) : Except SchemaError (List String) :=
  match registry.schema with
  | none => .error .missingSchema
  | some schema =>
    match schema.root? .query with
    | none => .error (.missingQuery schema.position)
    | some _ =>
      search registry wiring [] (schema.boundRoots.flatMap fun root => rootDemands registry root)

section Follow

variable {visited : List String} {reference : Reference} {rest : List Demand}

/-- A reference to an unknown name stops the search. -/
theorem search_unknown (unknown : registry.find? reference.type.innermost = none) :
    search registry wiring visited (.follow reference :: rest) = .error reference.unknown := by
  rw [search]
  split <;> simp_all

variable {type : TypeDefinition} (found : registry.find? reference.type.innermost = some type)

include found

/-- A reference to a type that may not stand at its place stops the search. -/
theorem search_misplaced (misplaced : reference.place.admits type.kind = false) :
    search registry wiring visited (.follow reference :: rest) =
      .error (reference.place.mismatch type) := by
  rw [search]
  split <;> simp_all

variable (placed : reference.place.admits type.kind = true)

include placed

/-- A reference to a name that has been visited is passed over. -/
theorem search_seen (seen : reference.type.innermost ∈ visited) :
    search registry wiring visited (.follow reference :: rest) =
      search registry wiring visited rest := by
  rw [search]
  split <;> simp_all

/-- A name met for the first time is visited, and what its definition demands comes next. -/
theorem search_fresh (fresh : reference.type.innermost ∉ visited) :
    search registry wiring visited (.follow reference :: rest) =
      search registry wiring (visited ++ [reference.type.innermost])
        (demands registry wiring type ++ rest) := by
  rw [search]
  split <;> simp_all

end Follow

/-- **What comes first on the agenda is searched completely before the rest is looked at.** -/
theorem search_append (visited : List String) (first second : List Demand) :
    search registry wiring visited (first ++ second) =
      (search registry wiring visited first).bind fun visited =>
        search registry wiring visited second := by
  fun_induction search registry wiring visited first with
  | case1 visited => rfl
  | case2 visited rest ih => rw [← ih, List.cons_append, search]
  | case3 visited fault rest => rw [List.cons_append, search]; rfl
  | case4 visited reference rest unknown => exact search_unknown unknown
  | case5 visited reference rest type found misplaced =>
    exact search_misplaced found (by simpa using misplaced)
  | case6 visited reference rest type found placed seen ih =>
    rw [List.cons_append, search_seen found (by simpa using placed) seen, ih]
  | case7 visited reference rest type found placed fresh ih =>
    rw [List.cons_append, search_fresh found (by simpa using placed) fresh, ← ih,
      List.append_assoc]

/-! ## Names reached -/

namespace Registry

/-- A reference names a known type, of a kind that suits its place. -/
def Resolves (registry : Registry) (reference : Reference) : Prop :=
  ∃ target, registry.find? reference.type.innermost = some target ∧
    reference.place.admits target.kind = true

/-- **The names that the roots of a schema reach**, through the references of known types. A name
reached need not be known. -/
inductive Reachable (registry : Registry) : String → Prop
  /-- The root type of an operation is reached. -/
  | root {schema : SchemaDefinition} {root : RootBinding} (defined : registry.schema = some schema)
      (bound : root ∈ schema.boundRoots) : Reachable registry root.typeName
  /-- What the definition of a name reached refers to is reached. -/
  | reference {name : String} {type : TypeDefinition} {reference : Reference}
      (reached : Reachable registry name) (found : registry.find? name = some type)
      (made : reference ∈ registry.references type) :
      Reachable registry reference.type.innermost

/-- Visits, in depth-first preorder, the names of an agenda and all that they reach. Unknown names
are passed over. -/
def preorderFrom (registry : Registry) (visited : List String) : List String → List String
  | [] => visited
  | name :: rest =>
    if _fresh : name ∈ visited then preorderFrom registry visited rest
    else
      match _found : registry.find? name with
      | none => preorderFrom registry visited rest
      | some type =>
        preorderFrom registry (visited ++ [name])
          ((registry.references type).map (·.type.innermost) ++ rest)
termination_by agenda => (registry.idle visited, agenda.length)
decreasing_by
  · exact Prod.Lex.right _ (by simp)
  · exact Prod.Lex.right _ (by simp)
  · exact Prod.Lex.left _ _ (idle_append_lt _found _fresh)

/-- **The depth-first preorder of the reference graph**, from the query, the mutation and the
subscription of the schema. -/
def preorder (registry : Registry) : List String :=
  match registry.schema with
  | none => []
  | some schema => registry.preorderFrom [] (schema.boundRoots.map RootBinding.typeName)

end Registry

/-- A demand is met: a check passes, and a reference resolves to one of the `names`. -/
def Demand.MetWithin (registry : Registry) (names : String → Prop) : Demand → Prop
  | .check fault => fault = none
  | .follow reference => registry.Resolves reference ∧ names reference.type.innermost

/-- **Where nothing reached is at fault the search succeeds.** It is enough that some set of names
contains all that the agenda refers to and all that its own definitions refer to. -/
theorem exists_search_eq_ok {names : String → Prop}
    (closed : ∀ name type, names name → registry.find? name = some type →
      ∀ demand ∈ demands registry wiring type, demand.MetWithin registry names)
    (visited : List String) (agenda : List Demand)
    (met : ∀ demand ∈ agenda, demand.MetWithin registry names) :
    ∃ result, search registry wiring visited agenda = .ok result := by
  fun_induction search registry wiring visited agenda with
  | case1 visited => exact ⟨visited, rfl⟩
  | case2 visited rest ih => exact ih fun demand h => met demand (List.mem_cons_of_mem _ h)
  | case3 visited fault rest =>
    have : some fault = none := met _ List.mem_cons_self
    contradiction
  | case4 visited reference rest unknown =>
    obtain ⟨⟨target, found, -⟩, -⟩ := met _ List.mem_cons_self
    simp [found] at unknown
  | case5 visited reference rest type found misplaced =>
    obtain ⟨⟨target, found', placed⟩, -⟩ := met _ List.mem_cons_self
    simp_all
  | case6 visited reference rest type found placed seen ih =>
    exact ih fun demand h => met demand (List.mem_cons_of_mem _ h)
  | case7 visited reference rest type found placed fresh ih =>
    have hr := (met _ List.mem_cons_self).2
    refine ih fun demand h => ?_
    rcases List.mem_append.1 h with h | h
    · exact closed _ type hr found demand h
    · exact met demand (List.mem_cons_of_mem _ h)

/-- **Where the search succeeds nothing reached is at fault.** All that was visited before is still
visited; the agenda is met; and so are the demands of every name visited since. -/
theorem settled_of_search {visited result : List String} {agenda : List Demand}
    (ok : search registry wiring visited agenda = .ok result) :
    (∀ name ∈ visited, name ∈ result) ∧
    (∀ demand ∈ agenda, demand.MetWithin registry (· ∈ result)) ∧
    ∀ name ∈ result, name ∈ visited ∨ ∃ type, registry.find? name = some type ∧
      ∀ demand ∈ demands registry wiring type, demand.MetWithin registry (· ∈ result) := by
  fun_induction search registry wiring visited agenda with
  | case1 visited =>
    cases ok
    exact ⟨fun _ h => h, by simp, fun _ h => .inl h⟩
  | case2 visited rest ih =>
    obtain ⟨kept, met, new⟩ := ih ok
    refine ⟨kept, ?_, new⟩
    rintro demand (_ | h)
    · rfl
    · exact met demand ‹_›
  | case3 visited fault rest => cases ok
  | case4 visited reference rest unknown => cases ok
  | case5 visited reference rest type found misplaced => cases ok
  | case6 visited reference rest type found placed seen ih =>
    obtain ⟨kept, met, new⟩ := ih ok
    refine ⟨kept, ?_, new⟩
    rintro demand (_ | h)
    · exact ⟨⟨type, found, by simpa using placed⟩, kept _ seen⟩
    · exact met demand ‹_›
  | case7 visited reference rest type found placed fresh ih =>
    obtain ⟨kept, met, new⟩ := ih ok
    refine ⟨fun name h => kept name (List.mem_append_left _ h), ?_, ?_⟩
    · rintro demand (_ | h)
      · exact ⟨⟨type, found, by simpa using placed⟩, kept _ (by simp)⟩
      · exact met demand (List.mem_append_right _ ‹_›)
    · intro name h
      rcases new name h with h | h
      · rcases List.mem_append.1 h with h | h
        · exact .inl h
        · obtain rfl := List.mem_singleton.1 h
          exact .inr ⟨type, found, fun demand h => met demand (List.mem_append_left _ h)⟩
      · exact .inr h

/-- The search adds to the names visited, at the end. -/
theorem prefix_of_search {visited result : List String} {agenda : List Demand}
    (ok : search registry wiring visited agenda = .ok result) : visited <+: result := by
  fun_induction search registry wiring visited agenda with
  | case1 visited =>
    cases ok
    exact List.prefix_refl _
  | case2 visited rest ih => exact ih ok
  | case3 visited fault rest => cases ok
  | case4 visited reference rest unknown => cases ok
  | case5 visited reference rest type found misplaced => cases ok
  | case6 visited reference rest type found placed seen ih => exact ih ok
  | case7 visited reference rest type found placed fresh ih =>
    exact (List.prefix_append _ _).trans (ih ok)

/-- The first reference followed gives the first name visited. -/
theorem head?_of_search {reference : Reference} {rest : List Demand} {result : List String}
    (ok : search registry wiring [] (.follow reference :: rest) = .ok result) :
    result.head? = some reference.type.innermost := by
  cases found : registry.find? reference.type.innermost with
  | none =>
    rw [search_unknown found] at ok
    cases ok
  | some type =>
  cases placed : reference.place.admits type.kind with
  | false =>
    rw [search_misplaced found placed] at ok
    cases ok
  | true =>
    rw [search_fresh found placed List.not_mem_nil] at ok
    obtain ⟨others, rfl⟩ := prefix_of_search ok
    rfl

/-- **The search visits nothing but what is reached**: if some set of names contains all that the
agenda refers to and all that its own definitions refer to, it contains every name visited. -/
theorem mem_of_search {names : String → Prop}
    (closed : ∀ name type, names name → registry.find? name = some type →
      ∀ reference ∈ registry.references type, names reference.type.innermost)
    {visited result : List String} {agenda : List Demand}
    (ok : search registry wiring visited agenda = .ok result)
    (within : ∀ reference, .follow reference ∈ agenda → names reference.type.innermost) :
    ∀ name ∈ result, name ∈ visited ∨ names name := by
  fun_induction search registry wiring visited agenda with
  | case1 visited =>
    cases ok
    exact fun _ h => .inl h
  | case2 visited rest ih => exact ih ok fun reference h => within reference (.tail _ h)
  | case3 visited fault rest => cases ok
  | case4 visited reference rest unknown => cases ok
  | case5 visited reference rest type found misplaced => cases ok
  | case6 visited reference rest type found placed seen ih =>
    exact ih ok fun reference h => within reference (.tail _ h)
  | case7 visited reference rest type found placed fresh ih =>
    have hr := within reference (.head _)
    intro name h
    have onward := ih ok (fun other h => ?_) name h
    · rcases onward with h | h
      · rcases List.mem_append.1 h with h | h
        · exact .inl h
        · obtain rfl := List.mem_singleton.1 h
          exact .inr hr
      · exact .inr h
    · rcases List.mem_append.1 h with h | h
      · exact closed _ type hr found other (follow_mem_demands_iff.1 h)
      · exact within other (.tail _ h)

/-- **The search visits names in preorder.** A search that succeeds does not depend on its checks:
it visits what the references of its agenda reach, in depth-first preorder. -/
theorem preorderFrom_of_search {visited result : List String} {agenda : List Demand}
    (ok : search registry wiring visited agenda = .ok result) :
    registry.preorderFrom visited
      ((agenda.filterMap Demand.reference?).map (·.type.innermost)) = result := by
  fun_induction search registry wiring visited agenda with
  | case1 visited =>
    cases ok
    simp [Registry.preorderFrom]
  | case2 visited rest ih => exact ih ok
  | case3 visited fault rest => cases ok
  | case4 visited reference rest unknown => cases ok
  | case5 visited reference rest type found misplaced => cases ok
  | case6 visited reference rest type found placed seen ih =>
    rw [← ih ok]
    simp [Demand.reference?, Registry.preorderFrom, seen]
  | case7 visited reference rest type found placed fresh ih =>
    rw [← ih ok, List.filterMap_append, filterMap_demands, List.map_append]
    simp only [List.filterMap_cons, Demand.reference?, List.map_cons]
    rw [Registry.preorderFrom, dif_neg fresh]
    split <;> simp_all

/-! ## The search from the roots -/

/-- What the roots demand is followed to their types. -/
theorem filterMap_rootDemands (registry : Registry) (roots : List RootBinding) :
    ((roots.flatMap fun root => rootDemands registry root).filterMap
      Demand.reference?).map (·.type.innermost) = roots.map RootBinding.typeName := by
  induction roots with
  | nil => rfl
  | cons root rest ih =>
    simp only [List.flatMap_cons, List.filterMap_append, List.map_append, ih]
    rfl

/-- The roots demand to follow exactly their references. -/
theorem follow_mem_rootDemands_iff {roots : List RootBinding} {reference : Reference} :
    .follow reference ∈ (roots.flatMap fun root => rootDemands registry root) ↔
      ∃ root ∈ roots, reference = root.reference := by
  simp [rootDemands]

/-- A search from the roots that succeeds has searched the demands of the operations bound. -/
theorem search_of_searchRoots {names : List String}
    (ok : searchRoots registry wiring = .ok names) :
    ∃ schema, registry.schema = some schema ∧ (∃ root, schema.root? .query = some root) ∧
      search registry wiring []
        (schema.boundRoots.flatMap fun root => rootDemands registry root) = .ok names := by
  unfold searchRoots at ok
  split at ok
  · cases ok
  · next schema defined =>
    split at ok
    · cases ok
    · next root bound => exact ⟨schema, defined, ⟨root, bound⟩, ok⟩

/-- **The search from the roots visits exactly the names that the roots reach.** -/
theorem mem_searchRoots_iff {names : List String} (ok : searchRoots registry wiring = .ok names)
    (name : String) : name ∈ names ↔ registry.Reachable name := by
  obtain ⟨schema, defined, -, ok⟩ := search_of_searchRoots ok
  constructor
  · intro h
    have closed : ∀ name type, registry.Reachable name → registry.find? name = some type →
        ∀ reference ∈ registry.references type, registry.Reachable reference.type.innermost :=
      fun _ _ reached found _ made => reached.reference found made
    refine (mem_of_search closed ok (fun reference h => ?_) name h).resolve_left List.not_mem_nil
    obtain ⟨root, bound, rfl⟩ := follow_mem_rootDemands_iff.1 h
    exact .root defined bound
  · obtain ⟨-, met, new⟩ := settled_of_search ok
    intro reached
    induction reached with
    | root defined' bound =>
      obtain rfl : schema = _ := Option.some.inj (defined.symm.trans defined')
      exact (met _ (follow_mem_rootDemands_iff.2 ⟨_, bound, rfl⟩)).2
    | reference reached found made ih =>
      obtain h | ⟨type, found', met'⟩ := new _ ih
      · simp at h
      · obtain rfl : type = _ := Option.some.inj (found'.symm.trans found)
        exact (met' _ (follow_mem_demands_iff.2 made)).2

/-- **The search from the roots visits names in the preorder of the reference graph.** -/
theorem preorder_of_searchRoots {names : List String}
    (ok : searchRoots registry wiring = .ok names) : registry.preorder = names := by
  obtain ⟨schema, defined, -, ok⟩ := search_of_searchRoots ok
  rw [Registry.preorder, defined]
  simpa only [filterMap_rootDemands] using preorderFrom_of_search ok

end SchemaAssembly
